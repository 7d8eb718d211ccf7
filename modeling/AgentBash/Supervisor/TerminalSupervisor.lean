import AgentBash.Supervisor.TerminalCalls

/-!
# The supervisor of a handle

A supervisor has the sole right to the verdict for as long as it runs. It delivers only once its
completion is recorded, so whatever it carries from then on belongs to a final record.
-/

namespace AgentBash

set_option autoImplicit false

open Durable

namespace TerminalLane

variable [setting : Setting] {policy : System.Policy legacySystem} {pid : Nat} {p : Scene → Prop}

/-- The running delegate of the keeper. -/
structure Supervising (pid : Nat) (s : Scene) : Prop where
  delegate : s.ghost.delegate = some pid
  running : s.ended pid = none

theorem Supervising.sole {s : Scene} (known : Supervising pid s) : s.tenure = .sole pid := by
  simp [Scene.tenure, known.delegate, known.running]

theorem Firm.supervising : Firm pid (Supervising pid) where
  fact := {
    stable := fun {s t} _ inv' moved known => by
      have delegate := moved.lasts.delegate pid known.delegate
      have sole := (moved.right pid rfl known.sole).1
      refine ⟨delegate, ?_⟩
      by_contra ceased
      have other := (inv'.peopled.delegate pid delegate).1
      simp only [Scene.tenure, delegate, if_neg ceased] at sole
      split at sole
      · cases sole
      · split at sole
        · cases sole
        · exact other (Tenure.sole.inj sole).symm
    rewritten := fun _ known => ⟨known.delegate, known.running⟩ }
  kept same _ known := by
    simp only [Scene.people, Prod.mk.injEq] at same
    exact ⟨same.2.2.1 ▸ known.delegate, same.2.1 ▸ known.running⟩

section Custody

variable {recorded : Bool} {custody : CompletionCustody}

/-- What a supervisor knows between two steps of its delivery. -/
structure Carried (pid : Nat) (recorded : Bool) (custody : CompletionCustody) (s : Scene) : Prop where
  supervising : Supervising pid s
  apart : Apart pid s
  fits : s.Fits custody.record
  same : custody.completionRecorded = recorded
  recorded : recorded = true → s.Decided
  carried : custody.transfer.isSome = true → s.Decided

theorem Fact.carried : Fact pid (Carried pid recorded custody) where
  stable inv inv' moved known :=
    ⟨Firm.supervising.fact.stable inv inv' moved known.supervising,
      Fact.apart.stable inv inv' moved known.apart, moved.lasts.fits known.fits, known.same,
      fun given => moved.lasts.decided (known.recorded given),
      fun given => moved.lasts.decided (known.carried given)⟩
  rewritten {s record} same known :=
    have decided : s.Decided → ({ s with record := some record } : Scene).Decided :=
      (Fact.decided : Fact pid Scene.Decided).rewritten same
    ⟨⟨known.supervising.delegate, known.supervising.running⟩, ⟨known.apart.born, known.apart.absent⟩,
      ⟨known.fits.mode, known.fits.whole, known.fits.names⟩, known.same,
      fun given => decided (known.recorded given), fun given => decided (known.carried given)⟩

/-- A step of the delivery, which may fail as long as the process still holds nothing. -/
abbrev carrying (pid : Nat) (recorded : Bool) : Except IoError CompletionCustody → Scene → Prop :=
  outcome (Carried pid recorded) fun _ => Apart pid

theorem retryCompletionIntegration_spec :
    Triple policy pid (Carried pid recorded custody) custody.retryCompletionIntegration
      (carrying pid recorded) := by
  unfold CompletionCustody.retryCompletionIntegration
  cases reaped : custody.reapedTransfer with
  | none => exact .pure fun _ _ known => known
  | some status =>
      cases running : custody.transfer with
      | none => exact .pure fun _ _ known => known
      | some transfer =>
          refine Spec.handle (integrateCompletionTransfer_spec .carried fun s known =>
            .inl (known.carried (by simp [running]))) fun result => ?_
          cases result with
          | error _ => exact .pure fun _ _ known => known
          | ok record =>
              refine Spec.bind (unlockDelivery_steady (Fact.carried.and (.current record)))
                (fun _ => .pure fun _ _ known => ?_) fun _ _ _ known => known.1.apart
              exact ⟨known.1.supervising, known.1.apart, known.2.fits, known.1.same,
                known.1.recorded, nofun⟩

theorem reapCompletionTransfer_spec :
    Triple policy pid (Carried pid recorded custody) custody.reapCompletionTransfer
      (carrying pid recorded) := by
  have fact : Fact pid (Carried pid recorded custody) := .carried
  unfold CompletionCustody.reapCompletionTransfer
  cases running : custody.transfer with
  | none => exact .pure fun _ _ known => known
  | some transfer =>
      cases reaped : custody.reapedTransfer with
      | some _ => exact .pure fun _ _ known => known
      | none =>
          refine Spec.bind (fact.steady (.ask trivial)) (fun found => ?_)
            fun _ _ _ known => known.apart
          cases found with
          | none => exact .pure fun _ _ known => known
          | some status =>
              refine Spec.bind (fact.steady (outsideAsk_beside nofun)) (fun _ => ?_)
                fun _ _ _ known => known.apart
              refine retryCompletionIntegration_spec.strengthen fun _ _ known => ?_
              exact ⟨known.supervising, known.apart, known.fits, known.same, known.recorded,
                fun _ => known.carried (by simp [running])⟩

theorem supervisor_delivers (given : recorded = true) :
    Delivers pid (Carried pid recorded custody) fun s => Supervising pid s ∧ Apart pid s where
  fact := .carried
  after := Firm.supervising.fact.and .apart
  may _ known := .inl (known.recorded given)
  apart _ known := known.apart
  gated _ _ known :=
    ⟨⟨known.supervising.delegate, known.supervising.running⟩, ⟨known.apart.born, known.apart.absent⟩,
      ⟨known.fits.mode, known.fits.whole, known.fits.names⟩, known.same, known.recorded,
      known.carried⟩
  admitted _ _ _ known :=
    ⟨⟨known.supervising.delegate, known.supervising.running⟩, known.apart.born, known.apart.absent⟩

theorem driveCompletionDelivery_spec (lawful : Lawful policy) :
    Triple policy pid (Carried pid recorded custody) custody.driveCompletionDelivery
      (carrying pid recorded) := by
  refine Spec.branch (fun _ => .pure fun _ _ known => known) fun due => ?_
  have given : custody.completionRecorded = true := by
    by_contra open_
    simp [open_] at due
  refine Spec.weaken (P := fun view => recorded = true ∧ Carried pid recorded custody (scene view))
    (Spec.assume fun done => ?_) (fun _ _ known => ⟨known.same.symm.trans given, known⟩)
    fun _ _ _ known => known
  refine Spec.bind (tryStartCompletionDelivery_spec lawful (supervisor_delivers done))
    (fun start => ?_) fun _ _ _ known => known.apart
  rcases start with ⟨read, _ | _ | transfer⟩
  · refine .pure fun _ _ known => ?_
    obtain ⟨known, rfl⟩ := known
    exact ⟨known.supervising, known.apart, known.fits, known.same, known.recorded, known.carried⟩
  · exact .pure fun _ _ known => ⟨known.1.supervising, known.1.apart, known.2.fits, known.1.same,
      known.1.recorded, known.1.carried⟩
  · exact .pure fun _ _ known => ⟨known.1.1, known.1.2, known.2.fits, given.trans done.symm,
      fun _ => known.2.decided, fun _ => known.2.decided⟩

/-- The owner of the verdict may merge the root status into the record. -/
theorem mergeRootStatus_spec {status : RootStatus} (fact : Fact pid p)
    (sole : ∀ s : Scene, p s → s.tenure = .sole pid) :
    Triple policy pid p (do
        let persisted ← readMeta
        let merged := CompletionCustody.applyRootStatusMetadata persisted status
        writeMetaAtomic merged
        pure merged)
      (outcome (fun merged s => p s ∧ Current pid merged s) fun _ => p) := by
  refine Spec.bind (readCurrentOwner_spec fact fun s known => .inr (sole s known)) (fun persisted => ?_)
    fun _ _ _ known => known
  have both : Fact pid fun s => p s ∧ Current pid persisted s := fact.and (.current persisted)
  refine Spec.bind (rewriteMeta_spec both fun s _ known => ?_) (fun _ => .pure fun _ _ known => ?_)
    fun _ _ _ known => known.1
  · have fits := known.2.fits
    exact ⟨⟨fits.mode, fits.whole, fits.names⟩, known.2.same⟩
  · have fits := known.2.fits
    exact ⟨known.1, known.2.owner, ⟨fits.mode, fits.whole, fits.names⟩, known.2.same⟩

theorem flushRootStatus_spec :
    Triple policy pid (Carried pid recorded custody) custody.flushRootStatus
      (carrying pid recorded) := by
  have fact : Fact pid (Carried pid recorded custody) := .carried
  unfold CompletionCustody.flushRootStatus
  cases custody.rootStatus with
  | none => exact .pure fun _ _ known => known
  | some status =>
      refine Spec.branch (fun _ => .pure fun _ _ known => known) fun _ => ?_
      refine Spec.bind (fact.steady (.ask (by simp [concern, Concern.Beside]))) (fun acquired => ?_)
        fun _ _ _ known => known.apart
      refine Spec.branch (fun _ => ?_) fun _ => .pure fun _ _ known => known
      refine Spec.handle (mergeRootStatus_spec fact fun _ known => known.supervising.sole)
        fun result => ?_
      cases result with
      | ok merged =>
          refine Spec.bind (unlockDelivery_steady (fact.and (.current merged))) (fun _ => ?_)
            fun _ _ _ known => known.1.apart
          exact .pure fun _ _ known => ⟨known.1.supervising, known.1.apart, known.2.fits,
            known.1.same, known.1.recorded, known.1.carried⟩
      | error _ =>
          exact Spec.bind (unlockDelivery_steady fact) (fun _ => .throw fun _ _ known => known.apart)
            fun _ _ _ known => known.apart

theorem recordRootStatus_spec (status : RootStatus) :
    Triple policy pid (Carried pid recorded custody) (custody.recordRootStatus (some status))
      (carrying pid recorded) := by
  have flushed : Triple policy pid
      (Carried pid recorded { custody with rootStatus := some status, rootStatusPending := true })
      (custody.recordRootStatus (some status)) (carrying pid recorded) := flushRootStatus_spec
  exact Spec.strengthen flushed fun _ _ known => ⟨known.supervising, known.apart, known.fits,
    known.same, known.recorded, known.carried⟩

theorem completionTurn_spec (lawful : Lawful policy) :
    Triple policy pid (Carried pid recorded custody) custody.completionTurn
      (carrying pid recorded) := by
  refine Spec.bind retryCompletionIntegration_spec (fun custody => ?_) fun _ _ _ known => known
  refine Spec.bind (driveCompletionDelivery_spec lawful) (fun custody => ?_) fun _ _ _ known => known
  exact flushRootStatus_spec

end Custody

section Loop

variable {loop : EventLoop}

/-- What a supervisor knows at every point of its loop. -/
abbrev Looping (pid : Nat) (loop : EventLoop) : Scene → Prop :=
  Carried pid loop.completionRecorded (LegacyLoop.custody loop)

abbrev looping (pid : Nat) : Except IoError EventLoop → Scene → Prop :=
  outcome (Looping pid) fun _ => Apart pid

theorem onCustody_spec {step : CompletionCustody → Script CompletionCustody}
    (verified : ∀ custody, Triple policy pid (Carried pid loop.completionRecorded custody)
      (step custody) (carrying pid loop.completionRecorded)) :
    Triple policy pid (Looping pid loop) (LegacyLoop.onCustody loop step) (looping pid) :=
  Spec.bind (verified _) (fun _ => .pure fun _ _ known => ⟨known.supervising, known.apart, known.fits,
    rfl, known.recorded, known.carried⟩) fun _ _ _ known => known

omit setting in
theorem explicitCancelObserved_beside :
    LegacyLoop.explicitCancelObserved.Makes concern.Beside := by
  refine .handle tryExists_beside fun result => ?_
  cases result <;> exact .pure

theorem driveCancellation_spec :
    Triple policy pid (Looping pid loop) (LegacyLoop.driveCancellation loop) (looping pid) := by
  have fact : Fact pid (Looping pid loop) := .carried
  refine Spec.branch (fun _ => .pure fun _ _ known => known) fun _ => ?_
  cases loop.cancellation with
  | none => exact .pure fun _ _ known => known
  | some cause =>
      exact Spec.bind (fact.steady explicitCancelObserved_beside)
        (fun _ => .pure fun _ _ known => known) fun _ _ _ known => known.apart

theorem requestCancellation_spec (cause : CancellationCause) :
    Triple policy pid (Looping pid loop) (LegacyLoop.requestCancellation loop cause)
      (looping pid) := by
  have fact : Fact pid (Looping pid loop) := .carried
  refine Spec.bind (fact.steady explicitCancelObserved_beside) (fun _ => ?_)
    fun _ _ _ known => known.apart
  exact Spec.strengthen driveCancellation_spec fun _ _ known => known

theorem checkExplicitCancel_spec :
    Triple policy pid (Looping pid loop) (LegacyLoop.checkExplicitCancel loop) (looping pid) := by
  have fact : Fact pid (Looping pid loop) := .carried
  refine Spec.bind (fact.steady explicitCancelObserved_beside) (fun _ => ?_)
    fun _ _ _ known => known.apart
  exact Spec.branch (fun _ => requestCancellation_spec .explicitRequest)
    fun _ => .pure fun _ _ known => known

theorem recordCaptureFailure_spec (error : IoError) :
    Triple policy pid (Looping pid loop) (LegacyLoop.recordCaptureFailure loop error)
      (looping pid) :=
  Spec.strengthen (requestCancellation_spec .outputCaptureFailure) fun _ _ known => known

theorem writeLog_spec (logged : Except IoError Unit) :
    Triple policy pid (Looping pid loop) (LegacyLoop.writeLog loop logged) (looping pid) := by
  refine Spec.branch (fun _ => .pure fun _ _ known => known) fun _ => ?_
  cases logged with
  | ok _ => exact .pure fun _ _ known => known
  | error error => exact recordCaptureFailure_spec error

/-- What the loop brings to a publication. -/
abbrev Publishing (pid : Nat) (loop : EventLoop) (s : Scene) : Prop :=
  Supervising pid s ∧ s.Fits loop.record ∧
    (loop.completionRecorded = true ∨ loop.completionTransfer.isSome = true → s.Decided)

theorem publishTerminal_looping (lawful : Lawful policy) (proposal : TerminalProposal) :
    Triple policy pid (Looping pid loop) (LegacyLoop.publishTerminal loop proposal)
      (outcome (fun found s => ∃ read, found.1 = { loop with record := read } ∧
        (Publishing pid loop s ∧ Apart pid s) ∧ handed loop.record (.ok (read, found.2)) s)
        fun _ => Apart pid) := by
  have firm : Firm pid (Publishing pid loop) :=
    Firm.supervising.and ((Firm.fits loop.record).and (Firm.decided.implied _))
  have published : Triple policy pid (fun s => Publishing pid loop s ∧ Apart pid s)
      (publishTerminalWithDeliveryDisposition loop.record true proposal (.liveLoop loop.treeEmpty)
        true)
      fun result s => (Publishing pid loop s ∧ Apart pid s) ∧ handed loop.record result s :=
    publishTerminal_spec_pending lawful firm (fun _ known => .inl known.1.sole)
      (fun _ known => known.2.1) (fun same => nomatch same)
  refine Spec.bind (Spec.strengthen published fun view _ known => ?_)
    (fun found => .pure fun _ _ known => ⟨found.1, rfl, known⟩) fun _ _ _ known => known.1.2
  have given : Looping pid loop (scene view) := known
  exact ⟨⟨given.supervising, given.fits, fun due => due.elim given.recorded given.carried⟩,
    given.apart⟩

/-- A publication of the loop: it is recorded, or an accepted cancellation comes first. -/
theorem settle_spec (lawful : Lawful policy) (proposal : TerminalProposal) :
    Triple policy pid (Looping pid loop) (LegacyLoop.settle loop proposal) (looping pid) := by
  refine Spec.bind (publishTerminal_looping lawful proposal) (fun found =>
    Spec.any fun read => Spec.assume fun same => ?_) fun _ _ _ known => known
  obtain ⟨next, result⟩ := found
  obtain rfl : next = { loop with record := read } := same
  cases result with
  | published =>
      refine .pure fun view _ known => ?_
      obtain ⟨⟨publishing, apart⟩, final⟩ := known
      have settled : (scene view).Follows read := final
      exact ⟨publishing.1, apart, settled.fits, rfl, fun _ => settled.decided,
        fun due => publishing.2.2 (.inr due)⟩
  | deferredForAcceptedCancel =>
      refine Spec.strengthen (requestCancellation_spec .explicitRequest) fun view _ known => ?_
      obtain ⟨⟨publishing, apart⟩, kept⟩ := known
      have fits : (scene view).Fits read := kept.1
      exact ⟨publishing.1, apart, fits, rfl, fun due => publishing.2.2 (.inl due),
        fun due => publishing.2.2 (.inr due)⟩

theorem recordReadySentinel_spec (lawful : Lawful policy) :
    Triple policy pid (Looping pid loop) (LegacyLoop.recordReadySentinel loop) (looping pid) := by
  have fact : Fact pid (Looping pid loop) := .carried
  exact Spec.bind (fact.steady (outsideAsk_beside nofun)) (fun _ => settle_spec lawful _)
    fun _ _ _ known => known.apart

theorem maybeFinish_spec (lawful : Lawful policy) :
    Triple policy pid (Looping pid loop) (LegacyLoop.maybeFinish loop) (looping pid) := by
  unfold LegacyLoop.maybeFinish
  cases loop.finishDecision with
  | none => exact .pure fun _ _ known => known
  | spawnError message => exact settle_spec lawful _
  | exit rootStatus reason => cases loop.captureError <;> exact settle_spec lawful _

theorem collectChildren_spec (children : List Reaped) :
    Triple policy pid (Looping pid loop) (LegacyLoop.collectChildren children loop)
      (looping pid) := by
  induction children generalizing loop with
  | nil => exact .pure fun _ _ known => known
  | cons child children rest =>
      refine Spec.bind (Q := fun result view => looping pid result (scene view)) ?_
        (fun loop => rest) fun _ _ _ known => known
      cases child with
      | completionTransfer => exact onCustody_spec fun _ => reapCompletionTransfer_spec
      | root status =>
          have recorded : Triple policy pid (Looping pid { loop with rootPidfd := false })
              (LegacyLoop.onCustody { loop with rootPidfd := false } fun custody =>
                custody.recordRootStatus (some (EventLoop.statusToRootStatus status)))
              (looping pid) :=
            onCustody_spec fun _ => recordRootStatus_spec _
          exact Spec.strengthen recorded fun _ _ known => ⟨known.supervising, known.apart, known.fits,
            known.same, known.recorded, known.carried⟩
      | other => exact .pure fun _ _ known => known

theorem reapChildren_spec (reaps : LegacyReaps) :
    Triple policy pid (Looping pid loop) (LegacyLoop.reapChildren loop reaps) (looping pid) := by
  refine Spec.bind (collectChildren_spec reaps.children) (fun loop => ?_) fun _ _ _ known => known
  unfold LegacyLoop.endReaping
  cases reaps.ending with
  | failed error => exact .throw fun _ _ known => known.apart
  | _ => exact .pure fun _ _ known => ⟨known.supervising, known.apart, known.fits, known.same,
      known.recorded, known.carried⟩

theorem handleStdoutBytes_spec (lawful : Lawful policy) (bytes : Bytes)
    (logged : Except IoError Unit) :
    Triple policy pid (Looping pid loop) (LegacyLoop.handleStdoutBytes loop bytes logged)
      (looping pid) := by
  have searched (s : Scene) (known : Looping pid loop s) :
      Looping pid (LegacyLoop.stdoutReachesSentinel loop bytes).2 s := by
    unfold LegacyLoop.stdoutReachesSentinel
    split
    · exact known
    · split <;> exact known
  refine Spec.branch (fun _ => .pure fun _ _ known => known) fun _ => ?_
  cases logged with
  | error error => exact recordCaptureFailure_spec error
  | ok _ =>
      refine Spec.branch (fun _ => ?_) fun _ => .pure fun _ _ known => searched _ known
      exact Spec.strengthen (recordReadySentinel_spec lawful) fun _ _ known => searched _ known

theorem dispatchReadiness_spec (errnoText : Bytes → String) (lawful : Lawful policy)
    (ready : Readiness) :
    Triple policy pid (Looping pid loop) (LegacyLoop.dispatchReadiness errnoText loop ready)
      (looping pid) := by
  cases ready with
  | stdout read logged =>
      refine Spec.branch (fun _ => .pure fun _ _ known => known) fun _ => ?_
      rcases read with error | _ | _ | _
      · exact .throw fun _ _ known => known.apart
      · exact handleStdoutBytes_spec lawful _ logged
      · exact .pure fun _ _ known => known
      · exact .pure fun _ _ known => known
  | stderr read logged =>
      refine Spec.branch (fun _ => .pure fun _ _ known => known) fun _ => ?_
      rcases read with error | _ | _ | _
      · exact .throw fun _ _ known => known.apart
      · exact writeLog_spec logged
      · exact .pure fun _ _ known => known
      · exact .pure fun _ _ known => known
  | execErr read =>
      refine .pure fun _ _ known => ?_
      change Looping pid (LegacyLoop.readExecError errnoText loop read) _
      unfold LegacyLoop.readExecError
      split
      · exact known
      · rcases read with error | _ | _ | _ <;> exact known
  | ownerPidfd => exact Spec.strengthen (requestCancellation_spec .ownerExit) fun _ _ known => known
  | sigchld cancelRequested reaps =>
      refine Spec.branch (fun _ => ?_) fun _ => reapChildren_spec reaps
      exact Spec.bind checkExplicitCancel_spec (fun loop => reapChildren_spec reaps)
        fun _ _ _ known => known
  | pidfd reaps => exact reapChildren_spec reaps
  | cgroup => exact .pure fun _ _ known => known

theorem dispatchReady_spec (errnoText : Bytes → String) (lawful : Lawful policy)
    (ready : List Readiness) :
    Triple policy pid (Looping pid loop) (LegacyLoop.dispatchReady errnoText ready loop)
      (looping pid) := by
  induction ready generalizing loop with
  | nil => exact .pure fun _ _ known => known
  | cons first rest again =>
      exact Spec.bind (dispatchReadiness_spec errnoText lawful first) (fun loop => again)
        fun _ _ _ known => known

section Beside

omit setting

theorem endPhysicalCustody_beside : endPhysicalCustody.Makes concern.Beside := by
  have tried : lockCustody.Makes concern.Beside :=
    .bind (.ask (by simp [concern, Concern.Beside])) fun _ => .branch .pure .throw
  have discharged : dischargeHoldingCustody.Makes concern.Beside := by
    refine .bind (.bind tryExists_beside fun _ => .branch recordCancellationDrained_beside .pure)
      fun _ => ?_
    exact .bind syncDirectory_beside fun _ => removeOptional_beside (by simp [concern])
  refine .handle tried fun result => ?_
  cases result with
  | error _ => exact .branch .pure .throw
  | ok _ =>
      refine .bind discharged.attempt fun _ => .bind (.ask (by simp [concern, Concern.Beside]))
        fun _ => .ofExcept

theorem noteDrained_beside {loop : EventLoop} : (LegacyLoop.noteDrained loop).Makes concern.Beside :=
  .branch (.bind tryExists_beside fun _ => .branch recordCancellationDrained_beside .pure) .pure

theorem leave_beside {loop : EventLoop} : (LegacyLoop.leave loop).Makes concern.Beside := by
  refine .branch (.handle endPhysicalCustody_beside fun result => ?_) .pure
  cases result with
  | ok _ => exact .pure
  | error _ => exact .branch .pure .throw

end Beside

theorem checkPolledOwner_spec (live : Bool) :
    Triple policy pid (Looping pid loop) (LegacyLoop.checkPolledOwner loop live) (looping pid) :=
  Spec.branch (fun _ => .pure fun _ _ known => known) fun _ =>
    Spec.branch (fun _ => requestCancellation_spec .ownerExit) fun _ => .pure fun _ _ known => known

theorem recoverImageService_spec (turn : LegacyTurn) :
    Triple policy pid (Looping pid loop) (LegacyLoop.recoverImageService loop turn)
      (looping pid) := by
  unfold LegacyLoop.recoverImageService
  cases turn.recoverImage with
  | ok _ => exact .pure fun _ _ known => known
  | error _ => exact writeLog_spec turn.recoveryLogged

theorem advance_spec (lawful : Lawful policy) (turn : LegacyTurn) :
    Triple policy pid (Looping pid loop) (LegacyLoop.advance turn loop) (looping pid) := by
  refine Spec.bind checkExplicitCancel_spec (fun loop => ?_) fun _ _ _ known => known
  refine Spec.bind (checkPolledOwner_spec turn.ownerLive) (fun loop => ?_) fun _ _ _ known => known
  refine Spec.bind driveCancellation_spec (fun loop => ?_) fun _ _ _ known => known
  refine Spec.bind (recoverImageService_spec turn) (fun loop => ?_) fun _ _ _ known => known
  refine Spec.bind (maybeFinish_spec lawful) (fun loop => ?_) fun _ _ _ known => known
  have fact : Fact pid (Looping pid loop) := .carried
  refine Spec.bind (fact.steady noteDrained_beside) (fun _ => ?_) fun _ _ _ known => known.apart
  exact onCustody_spec fun _ => completionTurn_spec lawful

theorem eventLoop_spec (errnoText : Bytes → String) (lawful : Lawful policy)
    (turns : List LegacyTurn) :
    Triple policy pid (Looping pid loop) (LegacyLoop.eventLoop errnoText turns loop)
      fun _ => Apart pid := by
  induction turns generalizing loop with
  | nil => exact park_spec
  | cons turn turns again =>
      refine Spec.bind (advance_spec lawful turn) (fun loop => ?_) fun _ _ _ known => known
      have fact : Fact pid (Looping pid loop) := .carried
      refine Spec.branch (fun _ => ?_) fun _ => ?_
      · refine Spec.bind (fact.steady leave_beside) (fun left => ?_) fun _ _ _ known => known.apart
        exact Spec.branch (fun _ => .pure fun _ _ known => known.apart) fun _ => again
      · refine Spec.bind (Q := fun result view => looping pid result (scene view)) ?_
          (fun loop => again) fun _ _ _ known => known
        refine Spec.bind (fact.steady .ofExcept) (fun _ => ?_) fun _ _ _ known => known.apart
        exact dispatchReady_spec errnoText lawful _

end Loop

section Start

variable {record : Meta}

/-- Nobody but the running supervisor ends the openness of the verdict. -/
theorem Fact.undecided : Fact pid fun s => Supervising pid s ∧ s.verdict = none where
  stable inv inv' moved known :=
    ⟨Firm.supervising.fact.stable inv inv' moved known.1,
      (moved.right pid rfl known.1.sole).2.trans known.2⟩
  rewritten same known := ⟨⟨known.1.delegate, known.1.running⟩, same.trans known.2⟩

/-- A supervisor before its loop. -/
structure Starting (pid : Nat) (record : Meta) (s : Scene) : Prop where
  undecided : Supervising pid s ∧ s.verdict = none
  fits : s.Fits record
  apart : Apart pid s

theorem Fact.starting : Fact pid (Starting pid record) where
  stable inv inv' moved known :=
    ⟨Fact.undecided.stable inv inv' moved known.undecided, moved.lasts.fits known.fits,
      Fact.apart.stable inv inv' moved known.apart⟩
  rewritten same known :=
    ⟨Fact.undecided.rewritten same known.undecided,
      ⟨known.fits.mode, known.fits.whole, known.fits.names⟩, ⟨known.apart.born, known.apart.absent⟩⟩

theorem recordSupervisorError_spec {message : String} {log role : Bool} (lawful : Lawful policy)
    (firm : Firm pid p) (may : ∀ s : Scene, p s → s.MayPublish pid)
    (fits : ∀ s : Scene, p s → s.Fits record) :
    Triple policy pid (fun s => p s ∧ Apart pid s) (recordSupervisorError record message log role)
      fun _ => Apart pid :=
  Spec.handle (publishTerminal_spec_delivering lawful firm may fits) fun _ =>
    .pure fun _ _ known => known.1

theorem orRecord_spec {α : Type} {step : Except IoError α} {message : String → String} {log : Bool}
    {rest : α → Script Unit} (lawful : Lawful policy)
    (continues : ∀ value, Triple policy pid (Starting pid record) (rest value) fun _ => Apart pid) :
    Triple policy pid (Starting pid record) (orRecord step record message log rest)
      fun _ => Apart pid := by
  unfold orRecord
  cases step with
  | ok value => exact continues value
  | error error =>
      have firm : Firm pid fun s => Supervising pid s ∧ s.Fits record :=
        Firm.supervising.and (.fits record)
      refine Spec.bind ((recordSupervisorError_spec lawful firm (fun _ known => .inl known.1.sole)
        fun _ known => known.2).strengthen fun _ _ known => ?_) (fun _ => exit_spec .apart)
        fun _ _ _ known => known
      exact ⟨⟨known.undecided.1, known.fits⟩, known.apart⟩

theorem persistSupervisorMeta_spec (open_ : terminal record = false) :
    Stays policy pid (Starting pid record) (persistSupervisorMetaBestEffort record) :=
  Steady.bind (Steady.attempt (rewriteMeta_spec .starting fun _ _ known =>
    ⟨known.fits, (Meta.verdict_of_open open_).trans known.undecided.2.symm⟩)) fun _ => Steady.pure

theorem superviseWorkload_spec {errnoText : Bytes → String} {start : SupervisorStart} {workload : Nat}
    (lawful : Lawful policy) (open_ : terminal record = false) :
    Triple policy pid (Starting pid record) (superviseWorkload errnoText start record workload)
      fun _ => Apart pid := by
  have kept (s : Scene) (known : Starting pid record s) : Starting pid
      (releasedMeta (applySpawnMetadata record start.observedWorkload) start.released) s := by
    refine ⟨known.undecided, ?_, known.apart⟩
    unfold releasedMeta
    cases start.released <;> exact ⟨known.fits.mode, known.fits.whole, known.fits.names⟩
  have still : terminal (releasedMeta (applySpawnMetadata record start.observedWorkload)
      start.released) = false := by
    unfold releasedMeta
    cases start.released <;> exact open_
  refine Spec.bind ((persistSupervisorMeta_spec still).strengthen fun _ _ known => kept _ known)
    (fun _ => ?_) fun _ _ _ known => known.apart
  refine orRecord_spec lawful fun sentinel => ?_
  exact Spec.strengthen (eventLoop_spec errnoText lawful start.turns) fun _ _ known =>
    ⟨known.undecided.1, known.apart, known.fits, rfl, nofun, nofun⟩

theorem startWorkload_spec {errnoText : Bytes → String} {start : SupervisorStart}
    (lawful : Lawful policy) (open_ : terminal record = false) :
    Triple policy pid (Starting pid record) (startWorkload errnoText start record)
      fun _ => Apart pid := by
  refine orRecord_spec lawful fun _ => ?_
  refine Spec.bind (persistSupervisorMeta_spec open_) (fun _ => ?_) fun _ _ _ known => known.apart
  refine orRecord_spec lawful fun _ => orRecord_spec lawful fun workload => ?_
  exact superviseWorkload_spec lawful open_

theorem runSupervisor_spec {errnoText : Bytes → String} {start : SupervisorStart}
    (lawful : Lawful policy) (open_ : terminal record = false) :
    Triple policy pid (Starting pid record)
      (runSupervisor setting.identityOf errnoText start record) fun _ => Apart pid := by
  have fact : Fact pid (Starting pid record) := .starting
  refine Spec.bind (self_spec (q := fun own s => own = pid ∧ Starting pid record s) fact
    fun _ known => ⟨rfl, known⟩) (fun own => Spec.assume fun same => ?_) fun _ _ _ known => known.elim
  subst same
  have named (s : Scene) (known : Starting own record s) :
      Starting own (supervisorMeta setting.identityOf record own start.identity) s := by
    refine ⟨known.undecided, ⟨known.fits.mode, known.fits.whole, fun number said => ?_⟩, known.apart⟩
    cases observed : start.identity with
    | none => simp [supervisorMeta, observed] at said
    | some identity =>
        simp only [supervisorMeta, observed, Option.map_some, Option.some.injEq] at said
        exact ⟨own, known.undecided.1.delegate, said⟩
  have still : terminal (supervisorMeta setting.identityOf record own start.identity) = false := open_
  refine Spec.strengthen (P := fun view => Starting own
    (supervisorMeta setting.identityOf record own start.identity) (scene view)) ?_
    fun _ _ known => named _ known
  refine orRecord_spec lawful fun _ => orRecord_spec lawful fun _ => orRecord_spec lawful fun _ => ?_
  refine Spec.bind (persistSupervisorMeta_spec still) (fun _ => ?_) fun _ _ _ known => known.apart
  exact startWorkload_spec lawful still

end Start

end TerminalLane

end AgentBash
