import AgentBash.Custody.PublicationHash

/-!
# Capture, publication and recovery

The scripts that take locks on the way to a publication. The capture lease is the only one that the
chronicle knows of; under any other lock, and under several, they do what they do without.
-/

namespace AgentBash

set_option autoImplicit false

open Durable

namespace SourceCustody

variable [Codec] {site : Site} {policy : System.Policy (custodySystem site)} {pid : Nat}
  {P : Sight → Prop} {record : SourceMeta} {observation : SourceObservation} {α : Type}
  {known : Seen} {names : List CustodyLock}

/-- Without the capture lease, with at most these locks, and `known` of what lasts. -/
abbrev At (names : List CustodyLock) (pid : Nat) (known : Seen) : Sight → Prop :=
  publications.Apart pid fun view => publications.Only names pid view ∧ publications.Knows known view

abbrev Leased (names : List CustodyLock) (pid : Nat) (known : Seen) : Sight → Prop :=
  publications.Base pid fun view => publications.Only names pid view ∧ publications.Knows known view

section Places

theorem at_beside (lasting : publications.Lasting known) :
    publications.Beside (CustodyEntry.program site) pid fun view =>
      publications.Only names pid view ∧ publications.Knows known view :=
  Owned.Only.beside.knows lasting

theorem at_frame (lasting : publications.Lasting known) :
    PublishFrame site pid (At names pid known) :=
  Owned.Apart.frame (at_beside lasting)

theorem leased_frame (lasting : publications.Lasting known) :
    PublishFrame site pid (Leased names pid known) :=
  Owned.Base.frame (at_beside lasting)

theorem at_passage {name : CustodyLock} (own : CustodyLock.sourceCapture ≠ name)
    (lasting : publications.Lasting known) :
    publications.Passage (CustodyEntry.program site) pid name (At names pid known)
      (At (name :: names) pid known) :=
  (Owned.Apart.within own (at_beside lasting) (at_beside lasting)
    (Owned.Only.within.knows lasting)).passage

variable {learned : Except IoError α → Seen}

theorem at_locked {name : CustodyLock} {body : CustodyScript α}
    (own : CustodyLock.sourceCapture ≠ name) (lasting : publications.Lasting known)
    (inside : ∀ names, Steady (publishDiscipline site) policy pid (At names pid known) body) :
    Steady (publishDiscipline site) policy pid (At names pid known) (locked name body) :=
  lockedAside_rule own (at_passage own lasting) (fun _ => at_passage own lasting)
    (fun _ _ holds => holds) (inside (name :: names))

theorem at_tryLocked {name : CustodyLock} {busy body : CustodyScript α}
    (own : CustodyLock.sourceCapture ≠ name) (lasting : publications.Lasting known)
    (lastings : ∀ result, publications.Lasting (learned result))
    (refused : ∀ error body log, known body log → learned (.error error) body log)
    (elsewhere : Spec (publishDiscipline site) policy pid (At names pid known) busy
      fun result => At names pid (learned result))
    (inside : ∀ names, Spec (publishDiscipline site) policy pid (At names pid known) body
      fun result => At names pid (learned result)) :
    Spec (publishDiscipline site) policy pid (At names pid known) (tryLocked name busy body)
      fun result => At names pid (learned result) :=
  tryLockedAside_rule own (at_passage own lasting) (fun result => at_passage own (lastings result))
    (fun error _ holds => ⟨holds.1, holds.2.1, refused error _ _ holds.2.2⟩) elsewhere
    (inside (name :: names))

theorem at_leased {busy body : CustodyScript α} (lasting : publications.Lasting known)
    (elsewhere : Steady (publishDiscipline site) policy pid (At names pid known) busy)
    (inside : Spec (publishDiscipline site) policy pid
      (publications.Stays pid (Leased names pid known)) body fun _ => Leased names pid known) :
    Steady (publishDiscipline site) policy pid (At names pid known)
      (tryLocked .sourceCapture busy body) :=
  tryLockedOwn_rule (at_beside lasting) (fun _ => at_beside lasting) (fun _ _ holds => holds)
    (fun _ _ _ holds => holds) elsewhere inside

end Places

section Lease

variable {F : Sight → Prop} {fact : Body → Prop}

/-- The holder of the lease knows a fact of the output. -/
abbrev Holder (pid : Nat) (F : Sight → Prop) (fact : Body → Prop) : Sight → Prop :=
  publications.Holds pid F fact

theorem holder_calm (frame : PublishFrame site pid F) :
    Calm publications.lane (CustodyEntry.program site) besidePublication pid (Holder pid F fact) where
  stable := (Owned.Holds.local_ frame).stable
  writes := (unpublished.bystander (Owned.Holds.local_ frame)).writes
  asks _ := (unpublished.bystander (Owned.Holds.local_ frame)).asks trivial

variable (frame : PublishFrame site pid F)
include frame

theorem outputExists : Spec (publishDiscipline site) policy pid (Holder pid F fact)
    (tryExists .output)
    (byResult (fun (there : Bool) => Holder pid F fun body =>
      fact body ∧ (there = false → body.output = none)) fun _ => Holder pid F fact) := by
  apply tryExists_rule (holder_calm frame).stable
  · exact fun view _ holds => ⟨holds.1, holds.2.1, holds.2.2, Option.not_isSome_iff_eq_none.mp ∘
      fun absent => ne_true_of_eq_false absent⟩
  · exact fun _ _ _ holds => holds

theorem missingExists : Spec (publishDiscipline site) policy pid (Holder pid F fact)
    (tryExists .missingOutput)
    (byResult (fun (there : Bool) => Holder pid F fun body =>
      fact body ∧ (there = false → body.missing = none)) fun _ => Holder pid F fact) := by
  apply tryExists_rule (holder_calm frame).stable
  · exact fun view _ holds => ⟨holds.1, holds.2.1, holds.2.2, Option.not_isSome_iff_eq_none.mp ∘
      fun absent => ne_true_of_eq_false absent⟩
  · exact fun _ _ _ holds => holds

/-- The holder captures what nobody captured or attested to be lost. -/
theorem captures {bytes : Bytes} {view : Sight} (inv : publications.Inv view)
    (holds : Holder pid F (fun body => body.output = none ∧ body.missing = none) view) :
    publications.lane.Keeps pid view (view.1.write (L := custodyLayout) SourceFile.output bytes)
      (Holder pid F fun _ => True) := by
  have there : (view.1.write (L := custodyLayout) SourceFile.output bytes).files
      SourceFile.output = some bytes := Disk.put_same _ _ _
  have apart : (view.1.write (L := custodyLayout) SourceFile.output bytes).files
      SourceFile.missingOutput = view.1.files SourceFile.missingOutput :=
    Disk.put_other _ _ (by decide)
  have before : bodyOf view.1.files = ⟨none, none⟩ := congrArg₂ Body.mk holds.2.2.1 holds.2.2.2
  have after : bodyOf (view.1.write (L := custodyLayout) SourceFile.output bytes).files =
      ⟨some bytes, none⟩ := congrArg₂ Body.mk there (apart.trans holds.2.2.2)
  have moves : Body.Moves (bodyOf view.1.files)
      (bodyOf (view.1.write (L := custodyLayout) SourceFile.output bytes).files) := by
    rw [before, after]
    exact .capture bytes
  have moved : publications.Moved pid view
      (view.1.write (L := custodyLayout) SourceFile.output bytes, view.2) :=
    Chronicle.moved_write holds.1 rfl moves
  exact Owned.keeps_moved inv rfl moved (.inr (apart.trans holds.2.2.2))
    ⟨holds.1, frame.same rfl rfl (moved.passed trivial) holds.2.1, trivial⟩

theorem attests {proof : Value} {view : Sight} (inv : publications.Inv view)
    (holds : Holder pid F (fun body => body.output = none ∧ body.missing = none) view) :
    publications.lane.Keeps pid view
      (view.1.write (L := custodyLayout) SourceFile.missingOutput proof)
      (Holder pid F fun body => body.missing = some proof) := by
  have there : (view.1.write (L := custodyLayout) SourceFile.missingOutput proof).files
      SourceFile.missingOutput = some proof := Disk.put_same _ _ _
  have apart : (view.1.write (L := custodyLayout) SourceFile.missingOutput proof).files
      SourceFile.output = view.1.files SourceFile.output := Disk.put_other _ _ (by decide)
  have before : bodyOf view.1.files = ⟨none, none⟩ := congrArg₂ Body.mk holds.2.2.1 holds.2.2.2
  have after : bodyOf (view.1.write (L := custodyLayout) SourceFile.missingOutput proof).files =
      ⟨none, some proof⟩ := congrArg₂ Body.mk (apart.trans holds.2.2.1) there
  have moves : Body.Moves (bodyOf view.1.files)
      (bodyOf (view.1.write (L := custodyLayout) SourceFile.missingOutput proof).files) := by
    rw [before, after]
    exact .lose proof
  have moved : publications.Moved pid view
      (view.1.write (L := custodyLayout) SourceFile.missingOutput proof, view.2) :=
    Chronicle.moved_write holds.1 rfl moves
  exact Owned.keeps_moved inv rfl moved (.inl (apart.trans holds.2.2.1))
    ⟨holds.1, frame.same rfl rfl (moved.passed trivial) holds.2.1, there⟩

theorem freeze_captures : Steady (publishDiscipline site) policy pid
    (Holder pid F fun _ => True) freeze := by
  apply Spec.bind (outputExists frame)
  · intro (there : Bool)
    apply Spec.branch
    · exact fun _ => .pure fun _ _ holds => holds.stays
    · intro absent
      apply Spec.bind (missingExists frame)
      · intro (missing : Bool)
        apply Spec.branch
        · exact fun _ => .throw fun _ _ holds => holds.stays
        · intro present
          have calm : Calm publications.lane (CustodyEntry.program site) besidePublication pid
              (Holder pid F fun body => body.output = none ∧ body.missing = none) :=
            holder_calm frame
          have calm' : Calm publications.lane (CustodyEntry.program site) besidePublication pid
              (Holder pid F fun _ => True) := holder_calm frame
          have creates : Spec (publishDiscipline site) policy pid
              (Holder pid F fun body => body.output = none ∧ body.missing = none)
              (ask .capture >>= fun (bytes : Bytes) => do
                createFile .output bytes
                syncAll) fun _ => Holder pid F fun _ => True := by
            apply Steady.before (calm.ask .capture trivial) _ fun _ _ _ holds => holds.stays
            intro (bytes : Bytes)
            apply Spec.bind (Q := fun _ => Holder pid F fun _ => True)
            · exact Lane.create calm.stable (fun _ _ inv holds _ _ _ => captures frame inv holds)
                (fun _ _ _ holds _ => holds.stays) fun _ _ _ _ holds => holds.stays
            · exact fun _ => calm'.sync
            · exact fun _ _ _ holds => holds
          refine creates.strengthen fun view _ holds => holds.imp fun body facts => ?_
          exact ⟨facts.1.2 (eq_false_of_ne_true absent),
            facts.2 (eq_false_of_ne_true present)⟩
      · exact fun _ _ _ holds => holds.stays
  · exact fun _ _ _ holds => holds

def attested : Option Value → Body → Prop
  | some proof => fun body => body.missing = some proof
  | none => fun _ => True

theorem publishesProof {proof : Value} : Spec (publishDiscipline site) policy pid
    (Holder pid F fun body => body.output = none) (immutable .missingOutput proof)
    (byResult (fun _ => Holder pid F fun body => body.missing = some proof)
      fun _ => Holder pid F fun _ => True) := by
  have stable {fact : Body → Prop} : Stable (publishDiscipline site) pid (Holder pid F fact) :=
    (holder_calm frame).stable
  apply immutable_rule stable stable
  · exact fun _ inv holds absent => attests frame inv ⟨holds.1, holds.2.1, holds.2.2, absent⟩
  · exact fun _ _ holds there => ⟨holds.1, holds.2.1, there⟩
  · exact fun _ _ _ holds => holds.stays
  · exact fun _ _ _ holds => holds.stays

theorem attestLoss_attests {staged : Value} {observer : CallerChainEntry} :
    Spec (publishDiscipline site) policy pid (Holder pid F fun _ => True)
      (attestLoss staged observer)
      (byResult (fun found => Holder pid F (attested found)) fun _ => Holder pid F fun _ => True) := by
  have calm : Calm publications.lane (CustodyEntry.program site) besidePublication pid
      (Holder pid F fun _ => True) := holder_calm frame
  have calm' : Calm publications.lane (CustodyEntry.program site) besidePublication pid
      (Holder pid F fun body => body.output = none) := holder_calm frame
  have gives (found : Option LossInventory) : Spec (publishDiscipline site) policy pid
      (Holder pid F fun body => body.output = none)
      (attestFound staged observer found)
      (byResult (fun found => Holder pid F (attested found))
        fun _ => Holder pid F fun _ => True) := by
    cases found with
    | none => exact .pure fun _ _ holds => holds.stays
    | some found =>
        apply Steady.before calm'.sync _ fun _ _ _ holds => holds.stays
        intro _
        apply Steady.before (calm'.ask .identity trivial) _ fun _ _ _ holds => holds.stays
        intro (producer : CallerChainEntry)
        apply Spec.bind (publishesProof frame)
        · exact fun _ => .pure fun _ _ holds => holds
        · exact fun _ _ _ holds => holds
  apply Steady.before (calm.ask (.processIdentityEvidence observer) trivial) _
    fun _ _ _ holds => holds
  intro (evidence : ProcessIdentityEvidence)
  apply Spec.branch _ fun _ => .pure fun _ _ holds => holds.stays
  intro _
  apply Steady.before (calm.value .selection) _ fun _ _ _ holds => holds
  intro _
  apply Spec.bind (outputExists frame)
  · intro (there : Bool)
    apply Spec.branch
    · exact fun _ => .pure fun _ _ holds => holds.stays
    · intro absent
      have asks : Spec (publishDiscipline site) policy pid
          (Holder pid F fun body => body.output = none) (ask .loss)
          fun _ => Holder pid F fun body => body.output = none := calm'.ask .loss trivial
      apply Spec.bind (asks.strengthen fun _ _ holds => holds.imp fun _ facts =>
        facts.2 (eq_false_of_ne_true absent))
      · exact gives
      · exact fun _ _ _ holds => holds.stays
  · exact fun _ _ _ holds => holds

theorem observeMissing_attests : Spec (publishDiscipline site) policy pid
    (Holder pid F fun _ => True) observeMissing
    (byResult (fun found => Holder pid F (attested found)) fun _ => Holder pid F fun _ => True) := by
  have calm : Calm publications.lane (CustodyEntry.program site) besidePublication pid
      (Holder pid F fun _ => True) := holder_calm frame
  apply Steady.before (calm.tryExists .missingOutput) _ fun _ _ _ holds => holds
  intro (there : Bool)
  apply Spec.branch
  · intro _
    apply Spec.bind (Q := byResult (fun (proof : Value) =>
      Holder pid F fun body => body.missing = some proof) fun _ => Holder pid F fun _ => True)
    · apply value_spec calm.stable
      · exact fun _ _ _ holds there => ⟨holds.1, holds.2.1, there⟩
      · exact fun _ _ _ holds => holds
    · exact fun _ => .pure fun _ _ holds => holds
    · exact fun _ _ _ holds => holds
  · intro _
    apply Steady.before (calm.value .observation) _ fun _ _ _ holds => holds
    intro staged
    split
    · exact .pure fun _ _ holds => holds
    · exact attestLoss_attests frame

end Lease

section Captures

theorem freezeOutput_captures (lasting : publications.Lasting known) :
    Steady (publishDiscipline site) policy pid (At names pid known) freezeOutput :=
  at_leased lasting .throw ((freeze_captures (leased_frame lasting)).relax
    fun _ _ _ holds => holds.2.1)

theorem recoverHoldingCapture_publishes (lasting : publications.Lasting known) :
    Spec (publishDiscipline site) policy pid (Holder pid (Leased names pid known) fun _ => True)
      (recoverHoldingCapture site) fun _ => Leased names pid known := by
  have frame : PublishFrame site pid (Leased names pid known) := leased_frame lasting
  have calm : Calm publications.lane (CustodyEntry.program site) besidePublication pid
      (Holder pid (Leased names pid known) fun _ => True) := holder_calm frame
  have captureError : besidePublication .captureError := trivial
  have publicationError : besidePublication .publicationError := trivial
  have failed : ∀ (error : IoError) (view : Sight), (publishDiscipline site).Inv view →
      Holder pid (Leased names pid known) (fun _ => True) view → Leased names pid known view :=
    fun _ _ _ holds => holds.2.1
  apply Steady.before (.attempt (freeze_captures frame)) _ failed
  intro result
  cases result with
  | ok _ => exact .pure fun _ _ holds => holds.2.1
  | error captured =>
      apply Steady.before (calm.save captureError) _ failed
      intro _
      apply Steady.before (calm.recordMissingOutput publicationError) _ failed
      intro _
      apply Spec.bind (observeMissing_attests frame)
      · intro found
        cases found with
        | none => exact .pure fun _ _ holds => holds.2.1
        | some proof =>
            have frame' : PublishFrame site pid fun view =>
                Leased names pid known view ∧ publications.Knows (described proof) view :=
              frame.and described_lasting.frame
            have publishes : Steady (publishDiscipline site) policy pid (fun view =>
                Leased names pid known view ∧ publications.Knows (described proof) view)
                (finishObservationWithOutput site proof) :=
              finishObservationWithOutput_publishes frame' fun _ holds => holds.2
            apply Spec.bind (publishes.strengthen fun view _ holds =>
              ⟨holds.2.1, Describes.missing holds.2.2⟩)
            · exact fun _ => .pure fun _ _ holds => holds.1
            · exact fun _ _ _ holds => holds.1
      · exact failed

theorem recoverOutput_publishes (lasting : publications.Lasting known) :
    Steady (publishDiscipline site) policy pid (At names pid known) (recoverOutput site) := by
  have frame : PublishFrame site pid (At names pid known) := at_frame lasting
  apply Steady.bind ((frame_calm frame).tryExists .sourceBundle)
  intro (bundled : Bool)
  apply Steady.branch
  · exact .bind (finishSnapshot_publishes frame) fun _ => .pure
  · exact at_leased lasting .pure (recoverHoldingCapture_publishes lasting)

theorem finishObservation_publishes (lasting : publications.Lasting known) :
    Steady (publishDiscipline site) policy pid (At names pid known) (finishObservation site) := by
  have frame : PublishFrame site pid (At names pid known) := at_frame lasting
  apply Spec.bind (wholeOutput_describes frame)
  · intro descriptor
    have publishes : Steady (publishDiscipline site) policy pid (fun view =>
        At names pid known view ∧ publications.Knows (described descriptor) view)
        (finishObservationWithOutput site descriptor) :=
      finishObservationWithOutput_publishes (frame.and described_lasting.frame)
        fun _ holds => holds.2
    exact publishes.relax fun _ _ _ holds => holds.1
  · exact fun _ _ _ holds => holds

theorem captureObservation_publishes (lasting : publications.Lasting known) :
    Steady (publishDiscipline site) policy pid (At names pid known)
      (captureObservation site record observation) := by
  have frame : PublishFrame site pid (At names pid known) := at_frame lasting
  have calm := frame_calm frame
  apply Steady.bind calm.enabled
  intro (there : Bool)
  apply Steady.branch _ .pure
  apply Steady.bind (calm.tryExists .sourceBundle)
  intro (bundled : Bool)
  apply Steady.branch (finishSnapshot_publishes frame)
  apply Steady.bind (retainEvent_publishes frame)
  intro _
  apply Steady.bind (calm.tryExists .output)
  intro (captured : Bool)
  exact .branch .pure (freezeOutput_captures lasting)

theorem publish_publishes (lasting : publications.Lasting known) :
    Steady (publishDiscipline site) policy pid (At names pid known)
      (publish site record observation) := by
  have frame : PublishFrame site pid (At names pid known) := at_frame lasting
  have calm := frame_calm frame
  apply Steady.bind calm.enabled
  intro (there : Bool)
  apply Steady.branch _ .pure
  apply Steady.bind (calm.tryExists .sourceBundle)
  intro (bundled : Bool)
  exact .branch (finishSnapshot_publishes frame)
    (.bind (captureObservation_publishes lasting) fun _ => finishObservation_publishes lasting)

end Captures

end SourceCustody

end AgentBash
