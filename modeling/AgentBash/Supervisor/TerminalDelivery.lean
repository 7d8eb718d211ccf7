import AgentBash.Supervisor.TerminalRules

/-!
# Delivery after the verdict

Whoever delivers a completion has read a record whose verdict cannot change any more, or is the
guardian that gives the verdict up by delivering. The custodian and its worker inherit that
record behind their gate, so that the records they write later still have the same verdict.
-/

namespace AgentBash

set_option autoImplicit false

open Durable

namespace TerminalLane

variable [setting : Setting] {policy : System.Policy legacySystem} {pid : Nat} {p : Scene → Prop}
  {record persisted observed : Meta} {retryCount : Nat} {role external : Bool}

section Beside

omit setting

theorem outsideAsk_beside {op : Outside} (other : op ≠ .spawnHelper .complete) :
    (outsideAsk op).Makes concern.Beside := .ask other

theorem drainIf_beside : (drainIf role).Makes concern.Beside :=
  .branch (outsideAsk_beside nofun) .pure

theorem removeOptional_beside {file : File} (other : ¬ concern.files file) :
    (removeOptional file).Makes concern.Beside := by
  refine .handle (.ask other) fun result => ?_
  cases result with
  | ok _ => exact syncDirectory_beside
  | error _ => exact .branch .pure .throw

theorem atomicWrite_beside {file : File} {content : file.Content} (other : ¬ concern.files file) :
    (atomicWrite file content).Makes concern.Beside :=
  .bind (.ask other) fun _ => syncDirectory_beside

theorem readOptional_beside {file : File} : (readOptional file).Makes concern.Beside := by
  refine .handle (.ask trivial) fun result => ?_
  cases result with
  | ok _ => exact .pure
  | error _ => exact .branch .pure .throw

theorem tryExists_beside {file : File} : (tryExists file).Makes concern.Beside :=
  .bind readOptional_beside fun _ => .pure

theorem recordDurableCreateOnceMarker_beside {file : File} {content : file.Content}
    (other : ¬ concern.files file) :
    (recordDurableCreateOnceMarker file content).Makes concern.Beside := by
  refine .bind syncDirectory_beside fun _ => .handle (.ask other) fun result => ?_
  cases result with
  | error _ => exact .branch .pure .throw
  | ok _ =>
      refine .handle (.bind syncDirectory_beside fun _ => syncDirectory_beside) fun result => ?_
      cases result with
      | ok _ => exact .pure
      | error _ =>
          refine .handle (removeOptional_beside other) fun result => ?_
          cases result <;> exact .throw

theorem recordCancellationDrained_beside : recordCancellationDrained.Makes concern.Beside :=
  .bind (recordDurableCreateOnceMarker_beside (by simp [concern])) fun _ => .pure

theorem bootCustodyMayRemain_beside {file : File} {recorded : file.Content → BootId} {boot : BootId} :
    (bootCustodyMayRemain file recorded boot).Makes concern.Beside := by
  refine .handle (.ask trivial) fun result => ?_
  cases result <;> exact .pure

theorem beginExternalTransferCustody_beside : beginExternalTransferCustody.Makes concern.Beside := by
  refine .bind (outsideAsk_beside nofun) fun boot => .bind ?_ fun _ => ?_
  · exact .bind tryExists_beside fun _ => .branch bootCustodyMayRemain_beside .pure
  · exact .branch .pure (.bind (atomicWrite_beside (by simp [concern])) fun _ => .pure)

theorem endExternalTransferCustody_beside : endExternalTransferCustody.Makes concern.Beside :=
  .bind syncDirectory_beside fun _ => removeOptional_beside (by simp [concern])

theorem reportExternalCustodyCleanup_beside {result : Except IoError Unit} :
    (reportExternalCustodyCleanup result).Makes concern.Beside := by
  cases result with
  | ok _ => exact .pure
  | error _ => exact .bind (.attempt (atomicWrite_beside (by simp [concern]))) fun _ => .pure

end Beside

section Helper

/-- The marker of an external caller is its own business, whatever its operation does. -/
theorem withExternalTransferCustody_spec {α : Type}
    {operation : Script (Except DeliveryHelperCommandError α)} (fact : Fact pid p)
    (steady : Stays policy pid p operation) :
    Stays policy pid p (withExternalTransferCustody external operation) := by
  refine Spec.branch (fun _ => ?_) fun _ => steady
  refine Spec.handle (fact.steady beginExternalTransferCustody_beside) fun result => ?_
  cases result with
  | error _ => exact .pure fun _ _ holds => holds
  | ok owned =>
      refine Steady.bind steady fun result => Steady.branch ?_ Steady.pure
      refine Steady.bind (Steady.attempt (fact.steady endExternalTransferCustody_beside)) fun _ => ?_
      exact Steady.bind (fact.steady reportExternalCustodyCleanup_beside) fun _ => Steady.pure

theorem waitDeliveryHelper_spec (fact : Fact pid p) (decided : ∀ s : Scene, p s → s.Decided)
    (counted : ∀ s : Scene, p s → p { s with completions := s.completions + 1 }) :
    Stays policy pid p (waitDeliveryHelper .complete) := by
  refine Spec.handle (spawnCompletion_spec fact decided counted) fun result => ?_
  cases result with
  | error _ => exact .pure fun _ _ holds => holds
  | ok _ =>
      refine Spec.handle (fact.steady (outsideAsk_beside nofun)) fun result => ?_
      cases result <;> exact .pure fun _ _ holds => holds

end Helper

section Worker

/-- What a worker and its custodian know: their record, and that they hold no lock. -/
abbrev Working (pid : Nat) (persisted : Meta) (s : Scene) : Prop :=
  s.Follows persisted ∧ Apart pid s

theorem Fact.working (persisted : Meta) : Fact pid (Working pid persisted) :=
  (Fact.follows persisted).and .apart

theorem writeDelivery_spec {delivery : CompletionDeliveryMeta} :
    Stays policy pid (Working pid persisted) (writeMetaAtomic { persisted with delivery }) := by
  refine rewriteMeta_spec (Fact.working persisted) fun s _ known => ?_
  have fits := known.1.fits
  exact ⟨⟨fits.mode, fits.whole, fits.names⟩, known.1.same⟩

theorem executeLegacyTransfer_spec :
    Stays policy pid (Working pid persisted)
      (executeLegacyTransfer persisted retryCount external) := by
  have fact : Fact pid (Working pid persisted) := Fact.working persisted
  refine Steady.bind (fact.steady (outsideAsk_beside nofun)) fun request => ?_
  cases request with
  | error _ => exact writeDelivery_spec
  | ok _ =>
      refine Steady.bind writeDelivery_spec fun _ => Steady.bind (withExternalTransferCustody_spec fact
        (waitDeliveryHelper_spec fact (fun _ known => known.1.decided) fun s known => ?_)) fun result => ?_
      · have fits := known.1.fits
        exact ⟨⟨⟨fits.mode, fits.whole, fits.names⟩, known.1.decided, known.1.same⟩,
          known.2.born, known.2.absent⟩
      · rcases result with (_ | _) | _ <;> exact writeDelivery_spec

theorem executeCompletionTransfer_spec (lawful : Lawful policy) :
    Stays policy pid (Working pid persisted)
      (executeCompletionTransfer persisted retryCount external) := by
  refine Spec.bind (continuationEnabled_spec lawful (Fact.working persisted)) (fun enabled => ?_)
    fun _ _ _ holds => holds.2
  refine Spec.assume fun known => ?_
  cases known
  exact executeLegacyTransfer_spec

theorem readCurrentOwner_spec (fact : Fact pid p)
    (owner : ∀ s : Scene, p s → s.Decided ∨ s.tenure = .sole pid) :
    Triple policy pid p readMeta
      (outcome (fun record s => p s ∧ Current pid record s) fun _ => p) := by
  refine readMeta_spec fact (fun s record inv holds present => ?_) fun _ _ _ holds => holds
  obtain ⟨stored, known, fits⟩ := inv.recorded
  obtain rfl : stored = record := Option.some.inj (known.symm.trans present)
  exact ⟨holds, owner s holds, fits, by simp [Scene.verdict, present]⟩

/-- Whoever delivers may write back what it reads. -/
theorem integrateCompletionTransfer_spec {result : Except IoError Unit} (fact : Fact pid p)
    (owner : ∀ s : Scene, p s → s.Decided ∨ s.tenure = .sole pid) :
    Triple policy pid p (integrateCompletionTransfer result retryCount)
      (outcome (fun record s => p s ∧ Current pid record s) fun _ => p) := by
  refine Spec.bind (readCurrentOwner_spec fact owner) (fun observed => ?_) fun _ _ _ holds => holds
  have both := fact.and (Fact.current observed)
  have written (delivery : CompletionDeliveryMeta) :
      Triple policy pid (fun s => p s ∧ Current pid observed s) (do
          let observed := { observed with delivery }
          writeMetaAtomic observed
          pure observed)
        (outcome (fun record s => p s ∧ Current pid record s) fun _ => p) := by
    refine Spec.bind (rewriteMeta_spec both fun s _ known => ?_) (fun _ => .pure fun _ _ known => ?_)
      fun _ _ _ known => known.1
    · have fits := known.2.fits
      exact ⟨⟨fits.mode, fits.whole, fits.names⟩, known.2.same⟩
    · have fits := known.2.fits
      exact ⟨known.1, known.2.owner, ⟨fits.mode, fits.whole, fits.names⟩, known.2.same⟩
  cases result with
  | ok _ => exact .pure fun _ _ known => known
  | error error =>
      cases observed.delivery.completionLifecycle <;>
        first
          | exact written _
          | exact .pure fun _ _ known => known

theorem runCustodian_spec {work : Script Unit} {outcome : Option Nat → Script Unit}
    (verified : ∀ worker, Stays policy worker (Working worker persisted) work)
    (integrated : ∀ status, Stays policy pid (Working pid persisted) (outcome status)) :
    Stays policy pid (Working pid persisted) (runCustodian work outcome) := by
  have fact : Fact pid (Working pid persisted) := Fact.working persisted
  have drained : Stays policy pid (Working pid persisted) (outsideAsk .drainRole) :=
    fact.steady (outsideAsk_beside nofun)
  refine Spec.handle (fact.steady (outsideAsk_beside nofun)) fun result => ?_
  cases result with
  | error _ => exact Steady.bind drained fun _ => exit_spec fact
  | ok _ =>
      refine Spec.bind (spawn_spec none (fun worker => Working worker persisted) fact
        (fun _ known => known.2) (fun worker _ => Fact.working persisted) verified ?_)
        (fun child => ?_) fun _ _ _ known => known.elim
      · intro s _ known t _ lasts apart _ _
        exact ⟨lasts.follows known.1, apart⟩
      · refine Spec.strengthen (P := fun view => Working pid persisted (scene view)) ?_
          fun _ _ known => known.1
        cases child with
        | none => exact Steady.bind drained fun _ => exit_spec fact
        | some worker =>
            refine Steady.bind (waitPid_spec fact fun _ _ _ known _ => known) fun status => ?_
            refine Steady.bind (Steady.attempt (integrated status)) fun _ => ?_
            exact Steady.bind drained fun _ => exit_spec fact

theorem prepareCompletionWorker_spec (fact : Fact pid p) (apart : ∀ s, p s → Apart pid s) :
    Stays policy pid p prepareCompletionWorker :=
  Steady.bind (fact.steady (outsideAsk_beside nofun)) fun _ => keepDelivery_spec fact apart

theorem completionChild_spec (lawful : Lawful policy) :
    Triple policy pid (fun s => s.ghost.wards pid = some persisted ∧ Apart pid s)
      (completionChild persisted retryCount role external) fun _ => Apart pid := by
  have fact : Fact pid fun s => s.ghost.wards pid = some persisted ∧ Apart pid s :=
    (Fact.ward pid persisted).and .apart
  refine Spec.bind (enterGate_spec fact fun _ known => known.1) (fun entered => ?_)
    fun _ _ _ known => known.elim
  refine Spec.branch (fun opened => ?_) fun _ => ?_
  · have working : Fact pid (Working pid persisted) := Fact.working persisted
    refine Spec.weaken (P := fun view => Working pid persisted (scene view))
      (Q := fun _ view => Working pid persisted (scene view)) ?_
      (fun _ _ known => ⟨known.2 opened, known.1.2⟩) fun _ _ _ known => known.2
    refine Spec.handle (prepareCompletionWorker_spec working fun _ known => known.2) fun result => ?_
    cases result with
    | error _ => exact Steady.bind (working.steady drainIf_beside) fun _ => exit_spec working
    | ok _ =>
        refine Spec.branch (fun _ => ?_) fun _ => ?_
        · refine runCustodian_spec (fun worker => executeCompletionTransfer_spec lawful)
            fun status => Spec.bind (integrateCompletionTransfer_spec working fun _ known =>
              .inl known.1.decided) (fun _ => .pure fun _ _ known => known.1) fun _ _ _ known => known
        · refine Steady.bind (Steady.attempt (executeCompletionTransfer_spec lawful)) fun _ => ?_
          exact exit_spec working
  · have apart : Fact pid (Apart pid) := .apart
    refine Spec.strengthen (P := fun view => Apart pid (scene view)) ?_ fun _ _ known => known.1.2
    exact Steady.bind (apart.steady drainIf_beside) fun _ => exit_spec apart

end Worker

section Start

/-- What a process needs to hand the handle to delivery, and what it is left with. -/
structure Delivers (pid : Nat) (p left : Scene → Prop) : Prop where
  fact : Fact pid p
  after : Fact pid left
  may : ∀ s, p s → s.Deliverable pid
  apart : ∀ s, p s → Apart pid s
  gated : ∀ (s : Scene) gates, p s → p { s with gates }
  admitted : ∀ (s : Scene) child renounced, p s → left (s.unlatch child renounced)

/-- Once a child was admitted the verdict is final for everybody. -/
def started (pid : Nat) (p left : Scene → Prop) (record : Meta) :
    Except IoError (Meta × CompletionStart) → Scene → Prop
  | .ok (read, .running _) => fun s => left s ∧ s.Follows read
  | .ok (read, .settled) => fun s => p s ∧ Current pid read s
  | .ok (read, .busy) => fun s => p s ∧ read = record
  | .error _ => p

variable {left : Scene → Prop} {start : CompletionStart}

theorem Delivers.started (delivers : Delivers pid p left) (record : Meta)
    (result : Except IoError (Meta × CompletionStart)) :
    Fact pid (started pid p left record result) := by
  rcases result with _ | ⟨read, _ | _ | _⟩
  · exact delivers.fact
  · exact delivers.fact.and (.pure _)
  · exact delivers.fact.and (.current read)
  · exact delivers.after.and (.follows read)

theorem admitCompletionChild_spec {child : Nat} (delivers : Delivers pid p left) :
    Triple policy pid (fun s => (p s ∧ Current pid persisted s) ∧
        s.ghost.wards child = some persisted) (admitCompletionChild role child)
      (outcome (fun _ s => left s ∧ s.Follows persisted) fun _ => p) := by
  have fact : Fact pid fun s => (p s ∧ Current pid persisted s) ∧
      s.ghost.wards child = some persisted :=
    (delivers.fact.and (.current persisted)).and (.ward child persisted)
  have published : (publishRoleIf role child).Makes concern.Beside :=
    .branch (outsideAsk_beside nofun) .pure
  refine Spec.handle (fact.steady published) fun result => ?_
  cases result with
  | error _ =>
      refine Spec.bind (Q := fun _ view => p (scene view)) ?_
        (fun _ => Spec.throw fun _ _ known => known) fun _ _ _ known => known
      refine (dismissChild_spec delivers.fact fun s known => delivers.gated s _ known).strengthen
        fun _ _ known => known.1.1
  | ok _ =>
      refine (admitChild_spec persisted fact (fun s known => ?_) fun s renounced known =>
        delivers.admitted s child renounced known.1.1).relax fun result _ _ known => ?_
      · exact ⟨known.2, known.1.2.fits, known.1.2.same, delivers.may s known.1.1⟩
      · cases result with
        | ok _ => exact known
        | error _ => exact known.elim

theorem forkCompletionChild_spec (lawful : Lawful policy) (delivers : Delivers pid p left) :
    Triple policy pid (fun s => p s ∧ Current pid persisted s)
      (forkCompletionChild persisted retryCount role external) (started pid p left record) := by
  have fact : Fact pid fun s => p s ∧ Current pid persisted s :=
    delivers.fact.and (.current persisted)
  refine Triple.bind (Q := fun _ s => p s ∧ Current pid persisted s)
    (fact.steady (outsideAsk_beside nofun)) (fun _ => ?_) fun _ _ known => known.1
  refine Triple.bind (spawn_spec (some persisted) (fun child s =>
    s.ghost.wards child = some persisted ∧ Apart child s) fact (fun s known =>
      delivers.apart s known.1) (fun _ _ => .apart) (fun _ => completionChild_spec lawful) ?_)
    (fun child => ?_) fun _ _ known => known.elim
  · intro s _ _ t _ _ apart ward _
    exact ⟨ward, apart⟩
  · cases child with
    | none =>
        refine Spec.strengthen (P := fun view => p (scene view) ∧ Current pid persisted (scene view))
          ?_ fun _ _ known => known.1
        refine Triple.bind (integrateCompletionTransfer_spec fact fun s known => known.2.owner)
          (fun read => .pure fun _ _ known => ⟨known.1.1, known.2⟩) fun _ _ known => known.1
    | some child =>
        refine Triple.bind ((admitCompletionChild_spec delivers).strengthen fun _ _ known =>
          ⟨known.1, known.2 child rfl⟩) (fun _ => .pure fun _ _ known => known) fun _ _ known => known

theorem Current.with_mirror {s : Scene} (current : Current pid observed s) (mirror : DeliveryMode) :
    Current pid { observed with deliveryMode := mirror } s :=
  ⟨current.owner, ⟨current.fits.mode, current.fits.whole, current.fits.names⟩, current.same⟩

theorem Current.with_delivery {s : Scene} (current : Current pid observed s)
    (delivery : CompletionDeliveryMeta) : Current pid { observed with delivery } s :=
  ⟨current.owner, ⟨current.fits.mode, current.fits.whole, current.fits.names⟩, current.same⟩

theorem settleOrphanedCompletion_spec (observed : Meta) (fact : Fact pid p) :
    Triple policy pid (fun s => p s ∧ Current pid observed s) (settleOrphanedCompletion observed)
      (outcome (fun record s => p s ∧ Current pid record s) fun _ => p) := by
  have both : Fact pid fun s => p s ∧ Current pid observed s := fact.and (.current observed)
  refine Spec.branch (fun _ => ?_) fun _ => .pure fun _ _ known => known
  refine Spec.bind (rewriteMeta_spec both fun s _ known => ?_) (fun _ => .pure fun _ _ known => ?_)
    fun _ _ _ known => known.1
  · have settled := known.2.with_delivery (completionDeliveryMetaFromUnknownTransfer
      (.other "delivery transfer owner is gone") observed.delivery.retryCount)
    exact ⟨settled.fits, settled.same⟩
  · exact ⟨known.1, known.2.with_delivery _⟩

theorem snapshotPending_spec (lawful : Lawful policy) (fact : Fact pid p) :
    Triple policy pid p snapshotPending fun result s => result = .ok false ∧ p s := by
  refine Spec.bind (continuationEnabled_spec lawful fact) (fun enabled => ?_)
    fun _ _ _ known => nomatch known.1
  refine Spec.assume fun known => ?_
  cases known
  exact .pure fun _ _ known => ⟨rfl, known⟩

theorem completionHandedOff_spec (lawful : Lawful policy) (fact : Fact pid p) :
    Triple policy pid p (completionHandedOff persisted) fun result s => result = .ok false ∧ p s := by
  refine Spec.bind (continuationEnabled_spec lawful fact) (fun enabled => ?_)
    fun _ _ _ known => nomatch known.1
  refine Spec.assume fun known => ?_
  cases known
  exact .pure fun _ _ known => ⟨rfl, known⟩

theorem startWithLock_spec (record : Meta) (lawful : Lawful policy) (delivers : Delivers pid p left) :
    Triple policy pid p (startWithLock record role external) (started pid p left record) := by
  have fact := delivers.fact
  refine Spec.bind (readCurrentOwner_spec fact fun s known => (delivers.may s known).owner)
    (fun read => ?_) fun _ _ _ known => known
  have both : Fact pid fun s => p s ∧ Current pid read s := fact.and (.current read)
  refine Spec.bind (both.steady readDeliveryMode_beside) (fun mirror => ?_) fun _ _ _ known => known.1
  refine Spec.bind (snapshotPending_spec lawful both) (fun pending => ?_)
    fun _ _ _ known => nomatch known.1
  refine Spec.assume fun known => ?_
  cases known
  refine Spec.bind ((settleOrphanedCompletion_spec { read with deliveryMode := mirror } fact).strengthen fun
      view _ (known : p (scene view) ∧ Current pid read (scene view)) =>
        ⟨known.1, known.2.with_mirror mirror⟩) (fun persisted => ?_) fun _ _ _ known => known
  have settled : Fact pid fun s => p s ∧ Current pid persisted s := fact.and (.current persisted)
  refine Spec.bind (completionHandedOff_spec lawful settled) (fun handed => ?_)
    fun _ _ _ known => nomatch known.1
  refine Spec.assume fun known => ?_
  cases known
  refine Spec.branch nofun fun _ => Spec.branch (fun _ => .pure fun _ _ known => known) fun _ => ?_
  exact forkCompletionChild_spec lawful delivers

theorem unlockDelivery_steady (fact : Fact pid p) : Stays policy pid p (unlock .delivery) :=
  fact.steady (.ask (by simp [concern, Concern.Beside]))

theorem startCompletionDelivery_spec (record : Meta) (lawful : Lawful policy) (delivers : Delivers pid p left) :
    Triple policy pid p (startCompletionDelivery record role external)
      (started pid p left record) := by
  refine Spec.handle (startWithLock_spec record lawful delivers) fun result => ?_
  have kept : Stays policy pid (started pid p left record result) (unlock .delivery) :=
    unlockDelivery_steady (delivers.started record result)
  rcases result with error | ⟨read, _ | _ | _⟩
  · exact Spec.bind kept (fun _ => .throw fun _ _ known => known) fun _ _ _ known => known
  · exact Spec.bind kept (fun _ => .pure fun _ _ known => known) fun _ _ _ known => known.1
  · exact Spec.bind kept (fun _ => .pure fun _ _ known => known) fun _ _ _ known => known.1
  · exact .pure fun _ _ known => known

theorem tryStartCompletionDelivery_spec (lawful : Lawful policy) (delivers : Delivers pid p left) :
    Triple policy pid p (tryStartCompletionDelivery record role)
      (started pid p left record) := by
  refine Spec.bind (delivers.fact.steady (.ask (by simp [concern, Concern.Beside])))
    (fun acquired => ?_) fun _ _ _ known => known
  refine Spec.branch (fun _ => startCompletionDelivery_spec record lawful delivers) fun _ => ?_
  exact .pure fun _ _ known => ⟨known, rfl⟩

theorem reconcileCompletionDelivery_spec (lawful : Lawful policy) :
    Triple policy pid (Working pid record) (reconcileCompletionDelivery record role)
      (outcome (fun read => Working pid read) fun _ => Apart pid) := by
  have fact : Fact pid (Working pid record) := .working record
  have delivers : Delivers pid (Working pid record) (Apart pid) :=
    { fact
      after := .apart
      may := fun _ known => .inl known.1.decided
      apart := fun _ known => known.2
      gated := fun _ _ known => ⟨⟨⟨known.1.fits.mode, known.1.fits.whole, known.1.fits.names⟩,
        known.1.decided, known.1.same⟩, known.2.born, known.2.absent⟩
      admitted := fun _ _ _ known => ⟨known.2.born, known.2.absent⟩ }
  refine Spec.bind (fact.steady (.ask (by simp [concern, Concern.Beside]))) (fun _ => ?_)
    fun _ _ _ known => known.2
  refine Spec.bind (startCompletionDelivery_spec record lawful delivers)
    (fun start => ?_) fun _ _ _ known => known.2
  rcases start with ⟨read, _ | _ | transfer⟩
  · refine .pure fun _ _ known => ?_
    obtain ⟨known, rfl⟩ := known
    exact known
  · exact .pure fun _ _ known => ⟨⟨known.2.fits, known.1.1.decided, known.2.same⟩, known.1.2⟩
  · have held : Fact pid fun s => Apart pid s ∧ s.Follows read := .and .apart (.follows read)
    refine Spec.bind (Q := fun _ view => Apart pid (scene view) ∧ (scene view).Follows read) ?_
      (fun status => ?_) fun _ _ _ known => known.1
    · refine Steady.bind (waitPid_spec held fun _ _ _ known _ => known) fun status => ?_
      exact Steady.branch (Steady.bind (held.steady (outsideAsk_beside nofun)) fun _ => .pure) .pure
    · refine Spec.handle (integrateCompletionTransfer_spec held fun _ known =>
        .inl known.2.decided) fun result => ?_
      cases result with
      | ok found =>
          have both : Fact pid fun s => (Apart pid s ∧ s.Follows read) ∧ Current pid found s :=
            held.and (.current found)
          refine Spec.bind (unlockDelivery_steady both) (fun _ => .pure fun _ _ known => ?_)
            fun _ _ _ known => known.1.1
          exact ⟨⟨known.2.fits, known.1.2.decided, known.2.same⟩, known.1.1⟩
      | error error =>
          exact Spec.bind (unlockDelivery_steady held) (fun _ => .throw fun _ _ known => known.1)
            fun _ _ _ known => known.1

end Start

end TerminalLane

end AgentBash
