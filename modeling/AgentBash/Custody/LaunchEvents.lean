import AgentBash.Custody.LaunchScripts

/-!
# Events beside the launch

What observers and recoveries publish while others may launch. All of it leaves the fence alone, and
the one event that is selected is true of what the fence has come to: a live observer knows that the
launch was admitted, a recovery has read that it was revoked.
-/

namespace AgentBash

set_option autoImplicit false

open Durable

namespace SourceCustody

/-- What is known suffices to tell of an event of a kind. -/
structure Entitled (kind : EventKind) (known : Known) : Prop where
  lasting : launching.Lasting known
  truthful : ∀ fence log, known fence log →
    if kind = .neverLaunched then fence.state = .revoked else fence.state.Admitted

theorem entitled_live (kind : SourceEventKind) : Entitled (.live kind) admitted :=
  ⟨admitted_lasting, fun _ _ known => known⟩

theorem Entitled.and {kind : EventKind} {one two : Known} (entitled : Entitled kind two)
    (lasting : launching.Lasting one) :
    Entitled kind fun fence log => one fence log ∧ two fence log :=
  ⟨both_lasting lasting entitled.lasting, fun fence log both => entitled.truthful fence log both.2⟩

/-- Not under the launch lock, with `known` of what lasts; other locks may be held. -/
abbrev Aware (pid : Nat) (known : Known) : View → Prop :=
  launching.Apart pid fun view => Owned.Born pid view ∧ launching.Knows known view

theorem aware_of_outside {pid : Nat} {known : Known} {view : View}
    (outside : Outside pid known view) : Aware pid known view :=
  ⟨outside.1, outside.2.1.1, outside.2.2⟩

variable [Codec] {site : Site} {policy : System.Policy (custodySystem site)} {pid : Nat}
  {known : Known} {record : SourceMeta} {observation : SourceObservation} {α : Type}

section Places

theorem aware_beside (lasting : launching.Lasting known) :
    launching.Beside (CustodyEntry.program site) pid fun view =>
      Owned.Born pid view ∧ launching.Knows known view :=
  Owned.Born.beside.knows lasting

theorem aware_local (lasting : launching.Lasting known) :
    launching.Local (CustodyEntry.program site) pid (Aware pid known) :=
  (Owned.Apart.frame (aware_beside lasting)).local_

theorem aware_calm (lasting : launching.Lasting known) :
    Calm launching.lane (CustodyEntry.program site) besideLaunch pid (Aware pid known) :=
  unconcerned.bystander (aware_local lasting)

theorem aware_passage {name : CustodyLock} (own : CustodyLock.launch ≠ name)
    (lasting : launching.Lasting known) : launching.Passage (CustodyEntry.program site) pid name
      (Aware pid known) (Aware pid known) :=
  (Owned.Apart.within own (aware_beside lasting) (aware_beside lasting)
    (Owned.Born.within.knows lasting)).passage

theorem aware_locked {name : CustodyLock} {body : CustodyScript α}
    (own : CustodyLock.launch ≠ name) (lasting : launching.Lasting known)
    (inside : Steady (launchDiscipline site) policy pid (Aware pid known) body) :
    Steady (launchDiscipline site) policy pid (Aware pid known) (locked name body) :=
  lockedAside_rule own (aware_passage own lasting) (fun _ => aware_passage own lasting)
    (fun _ _ holds => holds) inside

theorem aware_tryLocked {name : CustodyLock} {busy body : CustodyScript α}
    (own : CustodyLock.launch ≠ name) (lasting : launching.Lasting known)
    (elsewhere : Steady (launchDiscipline site) policy pid (Aware pid known) busy)
    (inside : Steady (launchDiscipline site) policy pid (Aware pid known) body) :
    Steady (launchDiscipline site) policy pid (Aware pid known) (tryLocked name busy body) :=
  tryLockedAside_rule own (aware_passage own lasting) (fun _ => aware_passage own lasting)
    (fun _ _ holds => holds) elsewhere inside

end Places

section Selecting

omit [Codec] in
theorem get_selectionValue {base staged : Value} {device inode : Nat}
    (object : base.isObject = true) :
    (selectionValue base staged device inode).get "observation" = staged := by
  rw [selectionValue, get_set (Value.isObject_set object), if_neg (by decide), get_set object,
    if_pos rfl]

omit [Codec] in
theorem noted_selection {selection : Value} {view : View}
    (absent : view.1.files SourceFile.selection = none) (truthful : Truthful view.2 selection) :
    launching.Noted view
      (view.1.write (L := custodyLayout) SourceFile.selection selection, view.2) := by
  have there : (view.1.write (L := custodyLayout) SourceFile.selection selection).files
      SourceFile.selection = some selection := Disk.put_same _ _ _
  have apart {file : SourceFile} (different : file ≠ .selection) :
      (view.1.write (L := custodyLayout) SourceFile.selection selection).files file =
        view.1.files file := Disk.put_other _ _ different
  constructor
  · change fenceOf _ _ _ = fenceOf _ _ _
    simp only [fenceOf]
    rw [apart (by decide)]
    rfl
  · change LaunchLog.Adds _ (launchLog _ _) (launchLog _ _)
    have same : launchLog (view.1.write (L := custodyLayout) SourceFile.selection selection).files
        view.1.world = { launchLog view.1.files view.1.world with selection := some selection } := by
      simp only [launchLog]
      rw [there, apart (by decide)]
    have records : LaunchLog.Adds (launching.value view) (launchLog view.1.files view.1.world)
        { launchLog view.1.files view.1.world with selection := some selection } :=
      .select absent truthful
    exact same ▸ records

omit [Codec] in
theorem truthful_of_entitled {kind : EventKind} {fence : Fence} {log : LaunchLog} {selection : Value}
    (entitled : Entitled kind known) (holds : known fence log)
    (tells : Tells kind (selection.get "observation")) : Truthful fence.state selection := by
  have truthful := entitled.truthful fence log holds
  unfold Truthful
  split
  · next never =>
    have same : kind = .neverLaunched := by
      have texts := Value.string.inj (tells.symm.trans never)
      cases kind with
      | neverLaunched => rfl
      | live kind => cases kind <;> exact absurd texts (by decide)
    rwa [if_pos same] at truthful
  · next other =>
    have different : kind ≠ .neverLaunched := fun same => other (same ▸ tells)
    rwa [if_neg different] at truthful

theorem selectEventOutput_steady {kind : EventKind} {staged : Value} {outputTrusted : Bool}
    (entitled : Entitled kind known) (tells : Tells kind staged) :
    Steady (launchDiscipline site) policy pid (Aware pid known)
      (selectEventOutput staged outputTrusted) := by
  have here : launching.Local (CustodyEntry.program site) pid (Aware pid known) :=
    aware_local entitled.lasting
  have calm : Calm launching.lane (CustodyEntry.program site) besideLaunch pid (Aware pid known) :=
    aware_calm entitled.lasting
  apply Steady.bind calm.enabled
  intro (there : Bool)
  apply Steady.branch _ .pure
  apply Steady.bind (calm.tryExists .selection)
  intro (selected : Bool)
  apply Steady.branch .pure
  apply Steady.bind (calm.ask .directoryMetadata trivial)
  intro (directory : Nat × Nat)
  apply Spec.bind calm.selectionBase
  · intro base
    apply Spec.assume
    intro object
    apply immutable_rule here.stable here.stable
    · intro view inv holds absent
      have tells' : Tells kind
          ((selectionValue base staged directory.1 directory.2).get "observation") := by
        rw [get_selectionValue object]
        exact tells
      have noted := noted_selection absent (truthful_of_entitled entitled holds.2.2 tells')
      have framed : launching.Frame (CustodyEntry.program site) pid (Aware pid known) :=
        Owned.Apart.frame (aware_beside entitled.lasting)
      exact keeps_noted inv rfl noted (framed.same rfl rfl noted.passed holds)
    · exact fun _ _ holds _ => holds
    · exact fun _ _ _ holds => holds
    · exact fun _ _ _ holds => holds
  · exact fun _ _ _ holds => holds

theorem selectObservedEvent_steady (entitled : Entitled observation.kind known) :
    Steady (launchDiscipline site) policy pid (Aware pid known)
      (selectObservedEvent site record observation) := by
  have calm : Calm launching.lane (CustodyEntry.program site) besideLaunch pid (Aware pid known) :=
    aware_calm entitled.lasting
  have free : besideLaunch .sourceCancellation := trivial
  apply Steady.bind calm.enabled
  intro (there : Bool)
  apply Steady.branch _ .pure
  apply Steady.bind (calm.tryExists .observation)
  intro (observed : Bool)
  apply Steady.branch .pure
  apply Steady.bind (calm.tryExists .selection)
  intro (selected : Bool)
  apply Steady.branch .pure
  apply Steady.learns (calm.observedEvent free)
  · exact fun staged tells => selectEventOutput_steady entitled tells
  · exact fun _ _ _ holds => holds

end Selecting

section Publishing

variable {progress : Publication} {turns : List Turn}

theorem freezeOutput_steady (lasting : launching.Lasting known) :
    Steady (launchDiscipline site) policy pid (Aware pid known) freezeOutput := by
  have calm : Calm launching.lane (CustodyEntry.program site) besideLaunch pid (Aware pid known) :=
    aware_calm lasting
  have free : besideLaunch .output := trivial
  exact aware_tryLocked (by decide) lasting .throw (calm.freeze free)

theorem retainEvent_steady (entitled : Entitled observation.kind known) :
    Steady (launchDiscipline site) policy pid (Aware pid known)
      (retainEvent site record observation) := by
  have calm : Calm launching.lane (CustodyEntry.program site) besideLaunch pid (Aware pid known) :=
    aware_calm entitled.lasting
  have free : besideLaunch .observation := trivial
  apply Steady.bind (selectObservedEvent_steady entitled)
  intro _
  apply Steady.bind (calm.tryExists .observation)
  intro (there : Bool)
  exact .branch .pure (calm.restoreSelectedEvent free)

theorem finishSnapshot_steady (lasting : launching.Lasting known) :
    Steady (launchDiscipline site) policy pid (Aware pid known) (finishSnapshot site) := by
  have calm : Calm launching.lane (CustodyEntry.program site) besideLaunch pid (Aware pid known) :=
    aware_calm lasting
  have outcome : besideLaunch .outcome := trivial
  have snapshot : besideLaunch .snapshot := trivial
  exact calm.finishSnapshot outcome snapshot

theorem finishObservationWithOutput_steady {descriptor : Value} (lasting : launching.Lasting known) :
    Steady (launchDiscipline site) policy pid (Aware pid known)
      (finishObservationWithOutput site descriptor) := by
  have calm : Calm launching.lane (CustodyEntry.program site) besideLaunch pid (Aware pid known) :=
    aware_calm lasting
  have bundle : besideLaunch .sourceBundle := trivial
  have outcome : besideLaunch .outcome := trivial
  have snapshot : besideLaunch .snapshot := trivial
  exact calm.finishObservationWithOutput bundle outcome snapshot

theorem finishObservation_steady (lasting : launching.Lasting known) :
    Steady (launchDiscipline site) policy pid (Aware pid known) (finishObservation site) := by
  have calm : Calm launching.lane (CustodyEntry.program site) besideLaunch pid (Aware pid known) :=
    aware_calm lasting
  exact .bind calm.wholeOutput fun _ => finishObservationWithOutput_steady lasting

theorem captureObservation_steady (entitled : Entitled observation.kind known) :
    Steady (launchDiscipline site) policy pid (Aware pid known)
      (captureObservation site record observation) := by
  have calm : Calm launching.lane (CustodyEntry.program site) besideLaunch pid (Aware pid known) :=
    aware_calm entitled.lasting
  apply Steady.bind calm.enabled
  intro (there : Bool)
  apply Steady.branch _ .pure
  apply Steady.bind (calm.tryExists .sourceBundle)
  intro (bundled : Bool)
  apply Steady.branch (finishSnapshot_steady entitled.lasting)
  apply Steady.bind (retainEvent_steady entitled)
  intro _
  apply Steady.bind (calm.tryExists .output)
  intro (captured : Bool)
  exact .branch .pure (freezeOutput_steady entitled.lasting)

theorem publish_steady (entitled : Entitled observation.kind known) :
    Steady (launchDiscipline site) policy pid (Aware pid known)
      (publish site record observation) := by
  have calm : Calm launching.lane (CustodyEntry.program site) besideLaunch pid (Aware pid known) :=
    aware_calm entitled.lasting
  apply Steady.bind calm.enabled
  intro (there : Bool)
  apply Steady.branch _ .pure
  apply Steady.bind (calm.tryExists .sourceBundle)
  intro (bundled : Bool)
  exact .branch (finishSnapshot_steady entitled.lasting)
    (.bind (captureObservation_steady entitled) fun _ => finishObservation_steady entitled.lasting)

theorem advancePublication_steady (entitled : Entitled observation.kind known) :
    Keeping.Steady (launchDiscipline site) policy pid (Aware pid known)
      (advancePublication site record observation) := by
  have calm : Calm launching.lane (CustodyEntry.program site) besideLaunch pid (Aware pid known) :=
    aware_calm entitled.lasting
  apply Keeping.Steady.bind (.lift calm.enabled)
  intro (there : Bool)
  apply Keeping.Steady.branch _ .pure
  apply Keeping.Steady.bind (.lift (calm.tryExists .sourceBundle))
  intro (bundled : Bool)
  apply Keeping.Steady.branch
  · exact .bind (.lift (finishSnapshot_steady entitled.lasting)) fun _ => .pure
  · apply Keeping.Steady.bind (.lift (captureObservation_steady entitled))
    intro _
    apply Keeping.Steady.bind calm.advanceDescriptor
    intro found
    cases found with
    | none => exact .pure
    | some descriptor =>
        exact .bind (.lift (finishObservationWithOutput_steady entitled.lasting)) fun _ => .pure

theorem retrySourcePublication_steady (entitled : Entitled observation.kind known) :
    Steady (launchDiscipline site) policy pid (Aware pid known)
      (retrySourcePublication site record observation progress) := by
  have steady : Keeping.Steady (launchDiscipline site) policy pid (Aware pid known)
      (retrySourcePublication site record observation) :=
    .bind (.lift (retainEvent_steady entitled)) fun _ => advancePublication_steady entitled
  exact steady.run progress

theorem publishLost_steady (entitled : Entitled observation.kind known) :
    Steady (launchDiscipline site) policy pid (Aware pid known) (publishLost site observation) := by
  have calm : Calm launching.lane (CustodyEntry.program site) besideLaunch pid (Aware pid known) :=
    aware_calm entitled.lasting
  apply Steady.bind (calm.ask .readMeta trivial)
  intro (record : SourceMeta)
  apply Steady.bind (calm.tryExists .outcome)
  intro (there : Bool)
  apply Steady.branch .pure
  exact .bind (publish_steady entitled) fun _ => .bind (calm.ask (.writeRc _) trivial) fun _ =>
    calm.ask (.writeMeta _) trivial

/-- Whatever a live observer sees, it tells of a launch that was admitted. -/
theorem observe_steady (lasting : launching.Lasting known) :
    Steady (launchDiscipline site) policy pid
      (Aware pid fun fence log => known fence log ∧ admitted fence log) (observe site turns progress) := by
  have entitled (kind : SourceEventKind) (observation : SourceObservation) :
      Entitled (seen kind observation).kind fun fence log => known fence log ∧ admitted fence log :=
    (entitled_live kind).and lasting
  have lasting' : launching.Lasting fun fence log => known fence log ∧ admitted fence log :=
    both_lasting lasting admitted_lasting
  have calm : Calm launching.lane (CustodyEntry.program site) besideLaunch pid
      (Aware pid fun fence log => known fence log ∧ admitted fence log) := aware_calm lasting'
  have free : besideLaunch .publicationError := trivial
  have own : CustodyLock.launch ≠ .completion := by decide
  induction turns generalizing progress with
  | nil => exact .pure
  | cons turn rest ih =>
      cases turn with
      | select record kind observation =>
          apply Steady.bind (.attempt (aware_locked own lasting'
            (selectObservedEvent_steady (entitled kind observation))))
          exact fun _ => ih
      | retry record kind observation =>
          apply Steady.bind (.attempt (aware_tryLocked own lasting' .pure
            (retrySourcePublication_steady (entitled kind observation))))
          intro result
          cases result with
          | error error => exact .bind (.attempt (calm.save free)) fun _ => ih
          | ok answer =>
              obtain ⟨result, progress⟩ := answer
              cases result with
              | ok _ => exact ih
              | error error => exact .bind (.attempt (calm.save free)) fun _ => ih
      | publish record kind observation =>
          apply Steady.bind (.attempt (aware_locked own lasting'
            (publish_steady (entitled kind observation))))
          exact fun _ => ih
      | guard kind observation =>
          apply Steady.bind (.attempt (aware_locked own lasting'
            (publishLost_steady (entitled kind observation))))
          exact fun _ => ih

end Publishing

section Recovering

theorem recoverOutput_steady (lasting : launching.Lasting known) :
    Steady (launchDiscipline site) policy pid (Aware pid known) (recoverOutput site) := by
  have calm : Calm launching.lane (CustodyEntry.program site) besideLaunch pid (Aware pid known) :=
    aware_calm lasting
  have output : besideLaunch .output := trivial
  have captureError : besideLaunch .captureError := trivial
  have publicationError : besideLaunch .publicationError := trivial
  have missing : besideLaunch .missingOutput := trivial
  have bundle : besideLaunch .sourceBundle := trivial
  have outcome : besideLaunch .outcome := trivial
  have snapshot : besideLaunch .snapshot := trivial
  apply Steady.bind (calm.tryExists .sourceBundle)
  intro (bundled : Bool)
  apply Steady.branch
  · exact .bind (finishSnapshot_steady lasting) fun _ => .pure
  · exact aware_tryLocked (by decide) lasting .pure (calm.recoverHoldingCapture output captureError
      publicationError missing bundle outcome snapshot)

theorem recoverEvent_steady (lasting : launching.Lasting known) :
    Steady (launchDiscipline site) policy pid (Aware pid known) (recoverEvent site) := by
  have calm : Calm launching.lane (CustodyEntry.program site) besideLaunch pid (Aware pid known) :=
    aware_calm lasting
  apply Steady.bind (calm.tryExists .observation)
  intro (there : Bool)
  apply Steady.branch _ .pure
  have captures : Steady (launchDiscipline site) policy pid (Aware pid known)
      (outputCaptured site) :=
    .bind (calm.tryExists .output) fun (_ : Bool) => .branch .pure (recoverOutput_steady lasting)
  apply Steady.bind captures
  intro (captured : Bool)
  apply Steady.branch _ .pure
  apply Steady.bind (calm.tryExists .sourceBundle)
  intro (bundled : Bool)
  exact .branch .pure (.bind (finishObservation_steady lasting) fun _ => .pure)

theorem restoreHeader_steady (lasting : launching.Lasting known) :
    Steady (launchDiscipline site) policy pid (Aware pid known) (restoreHeader site) := by
  have calm : Calm launching.lane (CustodyEntry.program site) besideLaunch pid (Aware pid known) :=
    aware_calm lasting
  have free : besideLaunch .observation := trivial
  apply Steady.bind (calm.tryExists .observation)
  intro (there : Bool)
  apply Steady.branch .pure
  apply Steady.bind (calm.tryExists .selection)
  intro (selected : Bool)
  apply Steady.branch _ .pure
  apply Steady.bind (.attempt (calm.restoreSelectedEvent free))
  intro result
  cases result <;> exact .pure

/-- A fence that was read as revoked is one, now and later. -/
def readRevoked (fence : Value) : Known := fun stands _ =>
  fence.get "phase" = .string Phase.revokedNeverLaunched.text → stands.state = .revoked

omit [Codec] in
theorem readRevoked_lasting {fence : Value} : launching.Lasting (readRevoked fence) := by
  constructor
  · intro before after _ grows known named
    have reaches := grows.state
    rw [known named] at reaches
    exact LaunchState.revoked_reaches reaches
  · exact fun _ known => known

theorem readsFence (lasting : launching.Lasting known) :
    Spec (launchDiscipline site) policy pid (Aware pid known) (value .fence)
      (byResult (fun (fence : Value) =>
        Aware pid fun stands log => known stands log ∧ readRevoked fence stands log)
        fun _ => Aware pid known) := by
  have here : launching.Local (CustodyEntry.program site) pid (Aware pid known) :=
    aware_local lasting
  apply value_spec here.stable
  · intro view fence inv holds there
    refine ⟨holds.1, holds.2.1, holds.2.2, fun named => ?_⟩
    obtain ⟨state, -⟩ := shown_of_named inv.valid there named
    cases which : (launching.value view).state <;> rw [which] at state <;> cases state
  · exact fun _ _ _ holds => holds

/-- What was never launched is published where the fence was read as revoked. -/
theorem publishNeverLaunched_steady {fence : Value} (lasting : launching.Lasting known) :
    Steady (launchDiscipline site) policy pid
      (Aware pid fun stands log => known stands log ∧ readRevoked fence stands log)
      (publishNeverLaunched site fence) := by
  apply Spec.branch
  · intro named
    have entitled : Entitled neverLaunched.kind fun stands log =>
        known stands log ∧ readRevoked fence stands log :=
      ⟨both_lasting lasting readRevoked_lasting, fun _ _ both => both.2 named⟩
    have calm : Calm launching.lane (CustodyEntry.program site) besideLaunch pid
        (Aware pid fun stands log => known stands log ∧ readRevoked fence stands log) :=
      aware_calm entitled.lasting
    apply Steady.bind (calm.tryExists .outcome)
    intro (there : Bool)
    apply Steady.branch .pure
    apply Steady.bind (calm.ask .readMeta trivial)
    intro (record : SourceMeta)
    exact .bind (publish_steady entitled) fun _ => .bind (calm.ask (.writeRc _) trivial) fun _ =>
      calm.ask (.writeMeta _) trivial
  · exact fun _ => Steady.pure

theorem recoverSource_steady {identity : Value} (lasting : launching.Lasting known) :
    Spec (launchDiscipline site) policy pid (Aware pid known) (recoverSource site identity)
      fun _ => Aware pid known := by
  have calm : Calm launching.lane (CustodyEntry.program site) besideLaunch pid (Aware pid known) :=
    aware_calm lasting
  have free : besideLaunch .continuationLocal := trivial
  apply Steady.before (aware_locked (by decide) lasting (calm.updateLocal free)) _
    fun _ _ _ holds => holds
  intro _
  apply Spec.bind (readsFence lasting)
  · intro (fence : Value)
    have lasting' : launching.Lasting fun stands log =>
        known stands log ∧ readRevoked fence stands log := both_lasting lasting readRevoked_lasting
    have calm' : Calm launching.lane (CustodyEntry.program site) besideLaunch pid
        (Aware pid fun stands log => known stands log ∧ readRevoked fence stands log) :=
      aware_calm lasting'
    have steady : Steady (launchDiscipline site) policy pid
        (Aware pid fun stands log => known stands log ∧ readRevoked fence stands log)
        (recoverFenced site identity fence) := by
      apply Steady.bind (restoreHeader_steady lasting')
      intro restored
      cases restored with
      | some reason => exact .pure
      | none =>
          apply Steady.bind (recoverEvent_steady lasting')
          intro recovered
          cases recovered with
          | some reason => exact .pure
          | none =>
              apply Steady.bind (publishNeverLaunched_steady lasting)
              intro _
              apply Steady.bind (calm'.tryExists .sourceBundle)
              intro (bundled : Bool)
              exact .branch (.bind (finishSnapshot_steady lasting') fun _ => calm'.answerSource)
                calm'.answerSource
    exact steady.relax fun _ _ _ holds => ⟨holds.1, holds.2.1, holds.2.2.1⟩
  · exact fun _ _ _ holds => holds

end Recovering

end SourceCustody

end AgentBash
