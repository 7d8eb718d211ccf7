import AgentBash.Custody.PublicationScripts

/-!
# Observers and recoveries of a publication

Live observers that go on by quanta and recoveries that start from what is retained keep to the
chronicle of the publication.
-/

namespace AgentBash

set_option autoImplicit false

open Durable

namespace SourceCustody

variable [Codec] {site : Site} {policy : System.Policy (custodySystem site)} {pid child : Nat}
  {P : Sight → Prop} {record : SourceMeta} {observation : SourceObservation} {α : Type}
  {known : Seen} {names : List CustodyLock} {turns guardian : List Turn} {scope : String}

section Progress

/-- What an observer has come to is about the output that stands. -/
structure Progressed (body : Body) (progress : Publication) : Prop where
  hasher : ∀ hasher, progress.hasher = some hasher →
    ∃ content, body.output = some content ∧ Hashes content hasher
  descriptor : ∀ descriptor, progress.descriptor = some descriptor → Describes body descriptor

def progressed (progress : Publication) : Seen := fun body _ => Progressed body progress

theorem progressed_lasting {progress : Publication} :
    publications.Lasting (progressed progress) := by
  constructor
  · intro before after log grows known
    refine ⟨fun hasher same => ?_, fun descriptor same => ?_⟩
    · have stays : hashed hasher after log :=
        hashed_lasting.grows grows (known.hasher hasher same)
      exact stays
    · have stays : described descriptor after log :=
        described_lasting.grows grows (known.descriptor descriptor same)
      exact stays
  · exact fun _ known => known

theorem progressed_fresh {body : Body} : Progressed body {} := ⟨nofun, nofun⟩

theorem hasherOf_hashes {progress : Publication} (frame : PublishFrame site pid P) :
    Spec (publishDiscipline site) policy pid
      (fun view => P view ∧ publications.Knows (progressed progress) view) (hasherOf progress)
      (byResult (fun hasher view => (P view ∧ publications.Knows (progressed progress) view) ∧
        publications.Knows (hashed hasher) view)
        fun _ view => P view ∧ publications.Knows (progressed progress) view) := by
  have frame' : PublishFrame site pid fun view =>
      P view ∧ publications.Knows (progressed progress) view :=
    frame.and progressed_lasting.frame
  unfold hasherOf
  split
  · next hasher there => exact .pure fun _ _ holds => ⟨holds, holds.2.hasher hasher there⟩
  · exact newHasher_hashes frame'

/-- One quantum of an observer; what it came to is kept whatever it answers. -/
theorem advanceDescriptor_progresses (progress : Publication) (frame : PublishFrame site pid P) :
    Keeping.Ends (publishDiscipline site) policy pid
      (fun view => P view ∧ publications.Knows (progressed progress) view) progress
      advanceDescriptor
      fun result kept view => (P view ∧ publications.Knows (progressed kept) view) ∧
        ∀ descriptor, result = .ok (some descriptor) →
          publications.Knows (described descriptor) view := by
  have frame' : PublishFrame site pid fun view =>
      P view ∧ publications.Knows (progressed progress) view :=
    frame.and progressed_lasting.frame
  apply Keeping.Ends.now
  split
  · next descriptor there =>
    apply Keeping.Ends.pure
    intro view _ holds
    refine ⟨holds, fun other same => ?_⟩
    cases same
    exact holds.2.descriptor descriptor there
  · next absent =>
    have goes_on {hasher : OutputHasher} {body : Body} (progressed : Progressed body progress)
        (hashes : ∃ content, body.output = some content ∧ Hashes content hasher) :
        Progressed body { progress with hasher := some hasher } :=
      ⟨fun other same => Option.some.inj same ▸ hashes, progressed.descriptor⟩
    apply Keeping.Ends.lifted (hasherOf_hashes frame)
    · intro hasher
      apply Keeping.Ends.lifted (readQuantum_describes frame' _ _ hasher)
      · rintro ⟨answer, hasher⟩
        apply Keeping.Ends.modified
        cases answer with
        | error error =>
            apply Keeping.Ends.throw
            exact fun view _ holds => ⟨⟨holds.1.1.1, goes_on holds.1.1.2 holds.1.2⟩, nofun⟩
        | ok found =>
            cases found with
            | none =>
                apply Keeping.Ends.pure
                exact fun view _ holds => ⟨⟨holds.1.1.1, goes_on holds.1.1.2 holds.1.2⟩, nofun⟩
            | some descriptor =>
                apply Keeping.Ends.modified
                apply Keeping.Ends.pure
                intro view _ holds
                have describes := holds.2 descriptor rfl
                refine ⟨⟨holds.1.1.1, nofun, fun other same => ?_⟩, fun other same => ?_⟩
                · cases same
                  exact describes
                · cases same
                  exact describes
      · exact fun _ _ impossible => impossible.elim
    · exact fun _ _ holds => ⟨holds, nofun⟩

theorem advancePublication_progresses (progress : Publication) :
    Keeping.Ends (publishDiscipline site) policy pid (At names pid (progressed progress)) progress
      (advancePublication site record observation)
      fun _ kept => At names pid (progressed kept) := by
  have lasting : publications.Lasting (progressed progress) := progressed_lasting
  have frame : PublishFrame site pid (At names pid (progressed progress)) := at_frame lasting
  have frame' : PublishFrame site pid (At names pid fun _ _ => True) := at_frame Owned.Lasting.top
  have calm := frame_calm frame
  apply Keeping.Ends.lifted calm.enabled
  · intro (there : Bool)
    apply Keeping.Ends.branch
    case right => exact fun _ => Keeping.Ends.pure fun _ _ holds => holds
    intro _
    apply Keeping.Ends.lifted (calm.tryExists .sourceBundle)
    · intro (bundled : Bool)
      apply Keeping.Ends.branch
      · intro _
        apply Keeping.Ends.lifted (finishSnapshot_publishes frame)
        · exact fun _ => Keeping.Ends.pure fun _ _ holds => holds
        · exact fun _ _ holds => holds
      · intro _
        apply Keeping.Ends.lifted (captureObservation_publishes lasting)
        · intro _
          have advances : Keeping.Ends (publishDiscipline site) policy pid
              (At names pid (progressed progress)) progress advanceDescriptor
              fun result kept view => (At names pid (fun _ _ => True) view ∧
                publications.Knows (progressed kept) view) ∧ ∀ descriptor,
                  result = .ok (some descriptor) → publications.Knows (described descriptor) view :=
            (advanceDescriptor_progresses progress frame').strengthen
              fun view _ holds => ⟨⟨holds.1, holds.2.1, trivial⟩, holds.2.2⟩
          apply Keeping.Ends.bind advances
          · intro found kept
            cases found with
            | none => exact Keeping.Ends.pure fun _ _ holds => ⟨holds.1.1.1, holds.1.1.2.1, holds.1.2⟩
            | some descriptor =>
                have lasting' : publications.Lasting fun body log =>
                    progressed kept body log ∧ described descriptor body log :=
                  ⟨fun grows both => ⟨progressed_lasting.grows grows both.1,
                    described_lasting.grows grows both.2⟩, fun _ both => both⟩
                have publishes : Steady (publishDiscipline site) policy pid (At names pid fun body log =>
                    progressed kept body log ∧ described descriptor body log)
                    (finishObservationWithOutput site descriptor) :=
                  finishObservationWithOutput_publishes (at_frame lasting')
                    fun _ holds => holds.2.2.2
                apply Keeping.Ends.lifted (publishes.strengthen fun view _ holds =>
                  ⟨holds.1.1.1, holds.1.1.2.1, holds.1.2, holds.2 descriptor rfl⟩)
                · exact fun _ => Keeping.Ends.pure fun _ _ holds =>
                    ⟨holds.1, holds.2.1, holds.2.2.1⟩
                · exact fun _ _ holds => ⟨holds.1, holds.2.1, holds.2.2.1⟩
          · exact fun _ _ _ holds => ⟨holds.1.1.1, holds.1.1.2.1, holds.1.2⟩
        · exact fun _ _ holds => holds
    · exact fun _ _ holds => holds
  · exact fun _ _ holds => holds

theorem retrySourcePublication_progresses (progress : Publication) :
    Keeping.Ends (publishDiscipline site) policy pid (At names pid (progressed progress)) progress
      (retrySourcePublication site record observation)
      fun _ kept => At names pid (progressed kept) := by
  have frame : PublishFrame site pid (At names pid (progressed progress)) :=
    at_frame progressed_lasting
  apply Keeping.Ends.lifted (retainEvent_publishes frame)
  · exact fun _ => advancePublication_progresses progress
  · exact fun _ _ holds => holds

theorem publishLost_publishes (lasting : publications.Lasting known) :
    Steady (publishDiscipline site) policy pid (At names pid known)
      (publishLost site observation) := by
  have frame : PublishFrame site pid (At names pid known) := at_frame lasting
  have calm := frame_calm frame
  apply Steady.bind (calm.ask .readMeta trivial)
  intro (record : SourceMeta)
  apply Steady.bind (calm.tryExists .outcome)
  intro (there : Bool)
  apply Steady.branch .pure
  exact .bind (publish_publishes lasting) fun _ => .bind (calm.ask (.writeRc _) trivial) fun _ =>
    calm.ask (.writeMeta _) trivial

theorem observe_publishes {progress : Publication} :
    Spec (publishDiscipline site) policy pid (At names pid (progressed progress))
      (observe site turns progress) fun _ => At names pid fun _ _ => True := by
  have own : CustodyLock.sourceCapture ≠ .completion := by decide
  have free : besidePublication .publicationError := trivial
  have forgets {progress : Publication} {view : Sight} (holds : At names pid (progressed progress) view) :
      At names pid (fun _ _ => True) view := ⟨holds.1, holds.2.1, trivial⟩
  have lasting {progress : Publication} : publications.Lasting (progressed progress) :=
    progressed_lasting
  have saves {progress : Publication} {error : IoError} :
      Steady (publishDiscipline site) policy pid (At names pid (progressed progress))
        (save .publicationError (error.detail ++ "\n")).attempt :=
    .attempt ((frame_calm (at_frame lasting)).save free)
  induction turns generalizing progress with
  | nil => exact .pure fun _ _ holds => forgets holds
  | cons turn rest ih =>
      cases turn with
      | select record kind observation =>
          apply Steady.before (.attempt (at_locked own lasting fun names =>
            selectObservedEvent_publishes (at_frame lasting))) _ fun _ _ _ holds => forgets holds
          exact fun _ => ih.strengthen fun _ _ holds => ⟨holds.1, holds.2.1, progressed_fresh⟩
      | retry record kind observation =>
          let learned : Except IoError (Except IoError Bool × Publication) → Seen
            | .ok (_, kept) => progressed kept
            | .error _ => progressed progress
          have lastings : ∀ result, publications.Lasting (learned result) := by
            intro result
            cases result with
            | ok _ => exact lasting
            | error _ => exact lasting
          have retries : Spec (publishDiscipline site) policy pid (At names pid (progressed progress))
              (tryLocked .completion (pure (.ok false, progress))
                (retrySourcePublication site record (seen kind observation) progress))
              fun result => At names pid (learned result) := by
            apply at_tryLocked own lasting lastings fun _ _ _ known => known
            · exact .pure fun _ _ holds => holds
            · intro names
              apply Spec.relax (retrySourcePublication_progresses progress)
              intro result view _ holds
              cases result with
              | ok _ => exact holds
              | error _ => exact holds.elim
          apply Spec.handle retries
          intro result
          cases result with
          | error error =>
              exact Steady.before saves (fun _ => ih) fun _ _ _ holds => forgets holds
          | ok answer =>
              obtain ⟨result, kept⟩ := answer
              cases result with
              | ok _ => exact ih
              | error error =>
                  exact Steady.before saves (fun _ => ih) fun _ _ _ holds => forgets holds
      | publish record kind observation =>
          apply Steady.before (.attempt (at_locked own lasting fun names =>
            publish_publishes lasting)) _ fun _ _ _ holds => forgets holds
          exact fun _ => ih
      | guard kind observation =>
          apply Steady.before (.attempt (at_locked own lasting fun names =>
            publishLost_publishes lasting)) _ fun _ _ _ holds => forgets holds
          exact fun _ => ih

end Progress

section Recovering

theorem recoverEvent_publishes (lasting : publications.Lasting known) :
    Steady (publishDiscipline site) policy pid (At names pid known) (recoverEvent site) := by
  have frame : PublishFrame site pid (At names pid known) := at_frame lasting
  have calm := frame_calm frame
  apply Steady.bind (calm.tryExists .observation)
  intro (there : Bool)
  apply Steady.branch _ .pure
  have captures : Steady (publishDiscipline site) policy pid (At names pid known)
      (outputCaptured site) :=
    .bind (calm.tryExists .output) fun (_ : Bool) => .branch .pure (recoverOutput_publishes lasting)
  apply Steady.bind captures
  intro (captured : Bool)
  apply Steady.branch _ .pure
  apply Steady.bind (calm.tryExists .sourceBundle)
  intro (bundled : Bool)
  exact .branch .pure (.bind (finishObservation_publishes lasting) fun _ => .pure)

theorem restoreHeader_publishes (frame : PublishFrame site pid P) :
    Steady (publishDiscipline site) policy pid P (restoreHeader site) := by
  have calm := frame_calm frame
  apply Steady.bind (calm.tryExists .observation)
  intro (there : Bool)
  apply Steady.branch .pure
  apply Steady.bind (calm.tryExists .selection)
  intro (selected : Bool)
  apply Steady.branch _ .pure
  apply Steady.bind (.attempt (restoreSelectedEvent_publishes frame))
  intro result
  cases result <;> exact .pure

theorem publishNeverLaunched_publishes {fence : Value} (lasting : publications.Lasting known) :
    Steady (publishDiscipline site) policy pid (At names pid known)
      (publishNeverLaunched site fence) := by
  have frame : PublishFrame site pid (At names pid known) := at_frame lasting
  have calm := frame_calm frame
  apply Steady.branch _ .pure
  apply Steady.bind (calm.tryExists .outcome)
  intro (there : Bool)
  apply Steady.branch .pure
  apply Steady.bind (calm.ask .readMeta trivial)
  intro (record : SourceMeta)
  exact .bind (publish_publishes lasting) fun _ => .bind (calm.ask (.writeRc _) trivial) fun _ =>
    calm.ask (.writeMeta _) trivial

theorem confirmLocal_beside {registration : String} (lasting : publications.Lasting known) :
    Steady (publishDiscipline site) policy pid (At names pid known) (confirmLocal registration) := by
  have free : besidePublication .continuationLocal := trivial
  apply at_locked (by decide) lasting
  intro names
  have frame : PublishFrame site pid (At names pid known) := at_frame lasting
  exact (frame_calm frame).updateLocal free

theorem recoverSource_publishes {identity : Value} (lasting : publications.Lasting known) :
    Steady (publishDiscipline site) policy pid (At names pid known)
      (recoverSource site identity) := by
  have frame : PublishFrame site pid (At names pid known) := at_frame lasting
  have calm := frame_calm frame
  apply Steady.bind (confirmLocal_beside lasting)
  intro _
  apply Steady.bind (calm.value .fence)
  intro fence
  apply Steady.bind (restoreHeader_publishes frame)
  intro restored
  cases restored with
  | some reason => exact .pure
  | none =>
      apply Steady.bind (recoverEvent_publishes lasting)
      intro recovered
      cases recovered with
      | some reason => exact .pure
      | none =>
          apply Steady.bind (publishNeverLaunched_publishes lasting)
          intro _
          apply Steady.bind (calm.tryExists .sourceBundle)
          intro (bundled : Bool)
          exact .branch (.bind (finishSnapshot_publishes frame) fun _ => calm.answerSource)
            calm.answerSource

end Recovering

end SourceCustody

end AgentBash
