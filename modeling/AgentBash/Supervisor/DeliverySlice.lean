import AgentBash.Durable.Answered
import AgentBash.Supervisor.Legacy
import AgentBash.Supervisor.SettlementHandshake

/-!
# The delivery slice of the event loop

`CompletionCustody` follows a delivery on its own, with what the rest of the loop does left open.
Here the slice is read off the whole loop. The parts that carry a delivery do to its custody what
the custody's scripts may do; all that comes ahead of them in a turn changes the custody in its
record and in what it waits for; and the loop is left where the slice lets it be left.
-/

namespace AgentBash

set_option autoImplicit false

open Durable Durable.Sequential EventLoop

/-- Every script of the directory ends as some answers to its requests make it end. -/
def LoopEnvironment.Answering (env : LoopEnvironment) : Prop :=
  ∀ {α : Type} (tick : Nat) (script : Script α), script.Answers (env.perform tick script)

section Runs

variable {env : LoopEnvironment} {world : LoopWorld} {α β : Type} {script : Script β}

theorem getLoop_then (rest : EventLoop → Loop α) :
    (getLoop >>= rest) world = rest world.loop world := rfl

theorem setLoop_then (change : EventLoop → EventLoop) (rest : Unit → Loop α) :
    (setLoop change >>= rest) world = rest () { world with loop := change world.loop } := rfl

theorem attempt_then (rest : Except IoError β → Loop α) :
    ((perform env script).attempt >>= rest) world =
      rest (env.perform world.tick script) { world with tick := world.tick + 1 } := rfl

theorem perform_then (rest : β → Loop α) :
    (perform env script >>= rest) world =
      match env.perform world.tick script with
      | .ok value => rest value { world with tick := world.tick + 1 }
      | .error error => (.error error, { world with tick := world.tick + 1 }) := by
  simp only [Bind.bind, perform, tryLoop]
  cases env.perform world.tick script <;> rfl

/-- The lock is given up at the next tick, and how that ends is nobody's concern. -/
theorem underLock_then (name : Lock) (rest : β → Loop α) :
    (underLock env name (perform env script) >>= rest) world =
      match env.perform world.tick script with
      | .ok value => rest value { world with tick := world.tick + 2 }
      | .error error => (.error error, { world with tick := world.tick + 2 }) := by
  simp only [Bind.bind, underLock, Sequential.attempt, perform, tryLoop, Sequential.ofExcept]
  cases env.perform world.tick script <;> rfl

end Runs

section Parts

open LegacyLoop (custody)

variable {env : LoopEnvironment} {world : LoopWorld}

/-- What a part of the loop does to the custody, a script of the custody may do. -/
def Projects (part : Loop Unit) (script : CompletionCustody → Script CompletionCustody) : Prop :=
  ∀ world, (script (custody world.loop)).Answers
    ((part world).1.map fun _ => custody (part world).2.loop)

theorem Projects.bind {first second : Loop Unit}
    {begin_ end_ : CompletionCustody → Script CompletionCustody} (begun : Projects first begin_)
    (ended : Projects second end_) :
    Projects (do first; second) (fun custody => begin_ custody >>= end_) := by
  intro world
  have reached := begun world
  simp only [Bind.bind]
  cases ran : first world with
  | mk result middle =>
      rw [ran] at reached
      cases result with
      | error error => exact reached.fails
      | ok _ => exact reached.bind (ended middle)

theorem unlock_answers (name : Lock) : (unlock name).Answers (.ok ()) :=
  Io.Answers.ask (L := layout) (E := outside) (.unlock name) (.ok ())

theorem retryCompletionIntegration_projects (answering : env.Answering) :
    Projects (retryCompletionIntegration env) CompletionCustody.retryCompletionIntegration := by
  intro world
  have waits : (custody world.loop).reapedTransfer =
      world.loop.reapedCompletionTransfer.map exitCode := rfl
  have carries : (custody world.loop).transfer = world.loop.completionTransfer := rfl
  simp only [retryCompletionIntegration, getLoop_then,
    CompletionCustody.retryCompletionIntegration, waits, carries]
  cases world.loop.reapedCompletionTransfer with
  | none => exact .pure
  | some status =>
      cases world.loop.completionTransfer with
      | none => exact .pure
      | some transfer =>
          have answered := answering world.tick (transfer.finish (exitCode status))
          simp only [attempt_then, Option.map_some]
          cases finished : env.perform world.tick (transfer.finish (exitCode status)) with
          | error error =>
              rw [finished] at answered
              exact answered.attempt.bind .pure
          | ok record =>
              rw [finished] at answered
              exact answered.attempt.bind ((unlock_answers _).bind .pure)

theorem driveCompletionDelivery_projects (answering : env.Answering) :
    Projects (driveCompletionDelivery env) CompletionCustody.driveCompletionDelivery := by
  intro world
  have idle : (!(custody world.loop).completionRecorded || (custody world.loop).pendingSource ||
      (custody world.loop).deliverySettled || (custody world.loop).transfer.isSome) =
      (!world.loop.completionRecorded || world.loop.pendingSource.isSome ||
        world.loop.completionDeliverySettled || world.loop.completionTransfer.isSome) := rfl
  simp only [driveCompletionDelivery, getLoop_then, CompletionCustody.driveCompletionDelivery, idle]
  split
  · exact .pure
  · have answered := answering world.tick (tryStartCompletionDelivery world.loop.record true)
    simp only [perform_then]
    cases started : env.perform world.tick (tryStartCompletionDelivery world.loop.record true) with
    | error error =>
        rw [started] at answered
        exact answered.fails
    | ok progress =>
        rw [started] at answered
        obtain ⟨record, busy | settled | transfer⟩ := progress
        · exact answered.bind .pure
        · exact answered.bind .pure
        · exact answered.bind .pure

/-- The record is read and written under the lock, which is given up whichever way that ends. -/
theorem mergeRootStatus_answers (answering : env.Answering) (world : LoopWorld)
    (status : RootStatus) :
    let merge : Script Meta := do
      let persisted ← readMeta
      let merged := CompletionCustody.applyRootStatusMetadata persisted status
      writeMetaAtomic merged
      pure merged
    let kept : Loop Unit := do
      let persisted ← underLock env .delivery (perform env merge)
      setLoop fun loop => { loop with record := persisted, rootStatusPending := false }
    (do
      match ← merge.attempt with
      | .ok merged => do
          unlock .delivery
          pure { custody world.loop with record := merged, rootStatusPending := false }
      | .error error => do
          unlock .delivery
          Io.throw error : Script CompletionCustody).Answers
      ((kept world).1.map fun _ => custody (kept world).2.loop) := by
  intro merge kept
  have answered := answering world.tick merge
  simp only [kept, underLock_then]
  cases merged : env.perform world.tick merge with
  | error error =>
      rw [merged] at answered
      exact answered.attempt.bind ((unlock_answers _).bind .throw)
  | ok record =>
      rw [merged] at answered
      exact answered.attempt.bind ((unlock_answers _).bind .pure)

theorem flushRootStatus_projects (answering : env.Answering) :
    Projects (flushRootStatus env) CompletionCustody.flushRootStatus := by
  intro world
  have found : (custody world.loop).rootStatus = world.loop.rootStatus := rfl
  have idle : (!(custody world.loop).rootStatusPending || (custody world.loop).transfer.isSome) =
      (!world.loop.rootStatusPending || world.loop.completionTransfer.isSome) := rfl
  simp only [flushRootStatus, getLoop_then, CompletionCustody.flushRootStatus, found, idle]
  cases known : world.loop.rootStatus with
  | none => exact .pure
  | some status =>
      cases !world.loop.rootStatusPending || world.loop.completionTransfer.isSome with
      | true => exact .pure
      | false =>
          have locks := answering world.tick (tryLock .delivery)
          simp only [Bool.false_eq_true, if_false, perform_then]
          cases locked : env.perform world.tick (tryLock .delivery) with
          | error error =>
              rw [locked] at locks
              exact locks.fails
          | ok free =>
              rw [locked] at locks
              refine locks.bind ?_
              cases free with
              | false => exact .pure
              | true =>
                  simp only [if_true]
                  rw [← known]
                  exact mergeRootStatus_answers answering { world with tick := world.tick + 1 } status

theorem completionTurn_projects (answering : env.Answering) :
    Projects (do retryCompletionIntegration env; driveCompletionDelivery env; flushRootStatus env)
      CompletionCustody.completionTurn :=
  (retryCompletionIntegration_projects answering).bind
    ((driveCompletionDelivery_projects answering).bind (flushRootStatus_projects answering))

theorem integrateCompletionTransfer_answers (answering : env.Answering)
    {transfer : CompletionTransfer} (running : world.loop.completionTransfer = some transfer)
    (unreaped : world.loop.reapedCompletionTransfer = none) (status : Nat) :
    (custody world.loop).reapCompletionTransfer.Answers
      ((EventLoop.integrateCompletionTransfer env transfer.pid status world).1.map fun _ =>
        custody (EventLoop.integrateCompletionTransfer env transfer.pid status world).2.loop) := by
  have carries : (custody world.loop).transfer = some transfer := running
  have waits : (custody world.loop).reapedTransfer = none := by
    rw [custody, unreaped]
    rfl
  have polled : (pollPid transfer.pid).Answers (.ok (some (exitCode status))) :=
    Io.Answers.ask (L := layout) (E := outside) (.poll transfer.pid) _
  have retired : (outsideAsk (.retireRole transfer.pid)).Answers (.ok ()) :=
    Io.Answers.ask (L := layout) (E := outside) (.external (.retireRole transfer.pid)) _
  have same : world.loop.completionTransfer.map CompletionTransfer.pid = some transfer.pid := by
    rw [running]
    rfl
  simp only [EventLoop.integrateCompletionTransfer, getLoop_then, same, ne_eq, not_true, if_false,
    setLoop_then, CompletionCustody.reapCompletionTransfer]
  rw [carries, waits]
  refine polled.bind (retired.bind ?_)
  rw [← carries]
  exact retryCompletionIntegration_projects answering
    { world with loop := { world.loop with reapedCompletionTransfer := some status } }

theorem recordRootStatus_projects (answering : env.Answering) (status : Nat) :
    Projects (recordRootStatus env status)
      (CompletionCustody.recordRootStatus · (some (statusToRootStatus status))) :=
  fun world => flushRootStatus_projects answering
    { world with
      loop := { world.loop with
        rootStatus := some (statusToRootStatus status)
        rootStatusPending := true
        rootPidfd := false } }

end Parts

section Ahead

open LegacyLoop (custody)

variable {env : LoopEnvironment} {world after : LoopWorld}

/-- The custody apart from its record and from what it waits for. -/
def carried (record : Meta) (world : LoopWorld) : CompletionCustody :=
  { custody world.loop with record, completionRecorded := false, pendingSource := false }

variable {record : Meta}

instance carried_overlooks : Overlooks (carried record) :=
  ⟨fun _ _ => rfl, fun _ _ => rfl, fun _ _ => rfl⟩

theorem note_frames (event : LoopEvent) : Frames (carried record) (note event) := fun _ => rfl

theorem retryRootTerminal_frames : Frames (carried record) (retryRootTerminal env) := by
  refine Frames.bind getLoop_frames fun _ => Frames.branch (fun _ => Frames.pure) fun _ => ?_
  refine Frames.branch (fun _ => Frames.pure) fun _ => ?_
  refine Frames.bind (tryLoop_frames _).attempt fun result => ?_
  cases result with
  | ok _ => exact Frames.bind (setLoop_frames fun _ => rfl) fun _ => note_frames _
  | error error =>
      refine Frames.branch (fun _ => Frames.pure) fun _ => ?_
      exact Frames.bind (setLoop_frames fun _ => rfl) fun _ => note_frames _

theorem announceRootLocalReady_frames : Frames (carried record) (announceRootLocalReady env) := by
  refine Frames.bind getLoop_frames fun _ => Frames.branch (fun _ => Frames.pure) fun _ => ?_
  refine Frames.branch (fun _ => setLoop_frames fun _ => rfl) fun _ => ?_
  refine Frames.bind (tryLoop_frames _).attempt fun result => ?_
  cases result with
  | ok _ => exact Frames.bind (setLoop_frames fun _ => rfl) fun _ => note_frames _
  | error error =>
      refine Frames.branch (fun _ => Frames.pure) fun _ => ?_
      refine Frames.bind (setLoop_frames fun _ => rfl) fun _ => ?_
      exact Frames.bind (note_frames _) fun _ => requestCancellation_frames env _

/-- No output is given up, as on a handle that retains no event. -/
def LoopEnvironment.Keeps (env : LoopEnvironment) : Prop :=
  ∀ tick, env.recordMissingOutput tick ≠ .ok ()

theorem retireSource_refuses (keeps : env.Keeps) :
    Ends (fun _ => True) (retireSource env) fun result _ => result ≠ .ok true := by
  have failed (error : IoError) : (.error error : Except IoError Bool) ≠ .ok true := by simp
  have refused : (.ok false : Except IoError Bool) ≠ .ok true := by simp
  refine Ends.bind (Q := fun _ _ => True) (fun _ _ => trivial) (fun _ => ?_) fun _ _ _ => failed _
  refine Ends.branch (fun _ => ?_) fun _ => Ends.pure fun _ _ => refused
  refine Ends.bind (Q := fun _ _ => True) (fun _ _ => trivial) (fun _ => ?_) fun _ _ _ => failed _
  refine Ends.branch (fun _ => ?_) fun _ => Ends.pure fun _ _ => refused
  refine Ends.handle (Q := fun result _ => result ≠ .ok ()) (fun world _ => keeps world.tick)
    fun result => ?_
  cases result with
  | ok done => exact fun _ recorded => absurd rfl recorded
  | error error => exact Ends.pure fun _ _ => refused

theorem retrySourcePublication_carries (keeps : env.Keeps) :
    Frames (carried record) (retrySourcePublication env) := by
  refine Frames.bind getLoop_frames fun loop => ?_
  cases loop.pendingSource with
  | none => exact Frames.pure
  | some pending =>
      refine Frames.bind (askLoop_frames _) fun _ => Frames.branch (fun _ => ?_) fun _ => Frames.pure
      refine Frames.bind (advanceSource_frames env pending loop).attempt fun result => ?_
      cases result with
      | ok published =>
          cases published with
          | true => exact setLoop_frames fun _ => rfl
          | false => exact Frames.pure
      | error _ =>
          intro world
          have refused := retireSource_refuses keeps world trivial
          have still : carried record (retireSource env world).2 = carried record world :=
            retireSource_frames env world
          simp only [Bind.bind]
          cases ran : retireSource env world with
          | mk result middle =>
              rw [ran] at refused still
              cases result with
              | error error => exact still
              | ok retired =>
                  cases retired with
                  | true => exact absurd rfl refused
                  | false => exact still

theorem retainSource_carries (keeps : env.Keeps) (kind : SourceEventKind)
    (rootWaitStatus : Option Int) (treeDrained outputClosed : Bool) :
    Frames (carried record) (retainSource env kind rootWaitStatus treeDrained outputClosed) := by
  refine Frames.bind (perform_frames env _) fun _ => ?_
  refine Frames.bind (setLoop_frames fun _ => rfl) fun _ => ?_
  exact Frames.bind (selectInitialSourceEvent_frames env) fun _ =>
    retrySourcePublication_carries keeps

theorem publishTerminal_frames (occasion : Occasion) (proposal : TerminalProposal) :
    Frames (carried record) (EventLoop.publishTerminal env occasion proposal) := by
  refine Frames.bind (note_frames _) fun _ => Frames.bind getLoop_frames fun _ => ?_
  refine Frames.bind (perform_frames env _) fun _ => ?_
  exact Frames.bind (setLoop_frames fun _ => rfl) fun _ => Frames.pure

theorem integrateTerminalPublication_frames (result : TerminalPublishResult) :
    Frames (carried record) (integrateTerminalPublication env result) := by
  cases result with
  | published =>
      refine Frames.bind (setLoop_frames fun _ => rfl) fun _ => ?_
      exact Frames.bind (note_frames _) fun _ => retryRootTerminal_frames
  | deferredForAcceptedCancel => exact requestCancellation_frames env _

theorem publishReadySentinel_carries (keeps : env.Keeps) (occasion : Occasion) (time : Nat) :
    Frames (carried record) (publishReadySentinel env occasion time) := by
  refine Frames.bind (publishTerminal_frames _ _) fun result => Frames.bind getLoop_frames fun _ => ?_
  refine Frames.branch (fun _ => ?_) fun _ => integrateTerminalPublication_frames result
  exact Frames.bind (retainSource_carries keeps _ _ _ _) fun _ =>
    integrateTerminalPublication_frames result

theorem retryDeferredReady_carries (keeps : env.Keeps) :
    Frames (carried record) (retryDeferredReady env) := by
  refine Frames.bind getLoop_frames fun loop => ?_
  cases loop.deferredReadyAt with
  | none => exact Frames.pure
  | some time =>
      refine Frames.branch (fun _ => Frames.pure) fun _ => ?_
      exact Frames.bind (setLoop_frames fun _ => rfl) fun _ => publishReadySentinel_carries keeps _ _

theorem recordSupervisorErrorInLoop_carries (keeps : env.Keeps) (message : String) :
    Frames (carried record) (recordSupervisorErrorInLoop env message) := by
  refine Frames.bind (publishTerminal_frames _ _) fun result => Frames.bind getLoop_frames fun _ => ?_
  refine Frames.branch (fun _ => ?_) fun _ => integrateTerminalPublication_frames result
  exact Frames.bind (retainSource_carries keeps _ _ _ _) fun _ =>
    integrateTerminalPublication_frames result

theorem recordExitCompletion_carries (keeps : env.Keeps) (rootStatus : RootStatus)
    (reason : ExitCompletionReason) :
    Frames (carried record) (recordExitCompletion env rootStatus reason) := by
  refine Frames.bind (publishTerminal_frames _ _) fun result => Frames.bind getLoop_frames fun _ => ?_
  refine Frames.branch (fun _ => ?_) fun _ => integrateTerminalPublication_frames result
  exact Frames.bind (retainSource_carries keeps _ _ _ _) fun _ =>
    integrateTerminalPublication_frames result

theorem maybeFinish_carries (keeps : env.Keeps) : Frames (carried record) (maybeFinish env) := by
  refine Frames.bind getLoop_frames fun loop => ?_
  refine Frames.branch (fun _ => announceRootLocalReady_frames) fun _ => ?_
  cases loop.finishDecision with
  | none => exact Frames.pure
  | spawnError message => exact recordSupervisorErrorInLoop_carries keeps _
  | exit rootStatus reason =>
      cases loop.captureError with
      | some message => exact recordSupervisorErrorInLoop_carries keeps message
      | none => exact recordExitCompletion_carries keeps rootStatus reason

/-- A part that ends well comes to its last step with the view it began with. -/
def Reaches {τ : Type} (view : LoopWorld → τ) (last part : Loop Unit) : Prop :=
  ∀ world after, part world = (.ok (), after) →
    ∃ before, view before = view world ∧ last before = (.ok (), after)

theorem Reaches.refl {τ : Type} {view : LoopWorld → τ} {last : Loop Unit} :
    Reaches view last last :=
  fun world _ ran => ⟨world, rfl, ran⟩

theorem Reaches.step {τ : Type} {view : LoopWorld → τ} {last first part : Loop Unit}
    (frames : Frames view first) (reaches : Reaches view last part) :
    Reaches view last (do first; part) := by
  intro world after ran
  have still := frames world
  simp only [Bind.bind] at ran
  cases begun : first world with
  | mk result middle =>
      rw [begun] at ran still
      cases result with
      | error error => cases ran
      | ok _ =>
          obtain ⟨before, same, ends⟩ := reaches middle after ran
          exact ⟨before, same.trans still, ends⟩

/-- The delivery parts come last in a turn, and nothing ahead of them touches the custody. -/
theorem advance_reaches (record : Meta) (keeps : env.Keeps) :
    Reaches (carried record)
      (do retryCompletionIntegration env; driveCompletionDelivery env; flushRootStatus env)
      (advance env) :=
  .step (checkExplicitCancel_frames env) <| .step (checkPolledOwner_frames env) <|
    .step (driveCancellation_frames env) <| .step (recoverImageService_frames env) <|
    .step retryRootTerminal_frames <| .step (retryDeferredReady_carries keeps) <|
    .step (maybeFinish_carries keeps) <| .step (noteDrained_frames env) <|
    .step (retrySourcePublication_carries keeps) .refl

/-- What the rest of the loop brings to a turn of the slice. -/
def EventLoop.observed (loop : EventLoop) : LoopTurn where
  completionRecorded := loop.completionRecorded
  pendingSource := loop.pendingSource.isSome
  treeEmpty := loop.treeEmpty
  rootStatus := none
  restDone := loop.scopeComplete && (!loop.rootControlFd || loop.treeEmpty) &&
    (!loop.rootControlFd || loop.rootTerminalSent) && loop.outputClosed

/-- A turn of the loop does to the custody what the slice may do once it has observed what the
rest of the loop came to; only the record that is held may be newer. -/
theorem advance_projects (answering : env.Answering) (keeps : env.Keeps)
    (advanced : advance env world = (.ok (), after)) :
    ∃ seen : EventLoop,
      custody seen = { (custody world.loop).observe seen.observed with record := seen.record } ∧
      (custody seen).completionTurn.Answers (.ok (custody after.loop)) := by
  obtain ⟨before, same, ended⟩ := advance_reaches world.loop.record keeps _ _ advanced
  refine ⟨before.loop, ?_, ?_⟩
  · let shown (carried : CompletionCustody) : CompletionCustody :=
      { carried.observe before.loop.observed with record := before.loop.record }
    exact congrArg shown same
  · have projected := completionTurn_projects answering before
    rw [ended] at projected
    exact projected

theorem shouldExit_projects (loop : EventLoop) :
    loop.shouldExit = (custody loop).shouldExit loop.observed := by
  simp [EventLoop.shouldExit, CompletionCustody.shouldExit, custody, EventLoop.observed,
    Bool.and_assoc]

end Ahead

section Unregistered

variable {accepted drained treeEmpty : Bool} {record : Meta}

theorem exitCode_waitStatus {status : Option Nat} (code : ∀ code, status = some code → code < 256) :
    exitCode (LegacyLoop.waitStatus status) = status := by
  cases status with
  | none => rfl
  | some value =>
      have small : value % 256 = value := Nat.mod_eq_of_lt (code value rfl)
      have exited : value * 256 % 128 = 0 := by omega
      simp [exitCode, LegacyLoop.waitStatus, exited, small]

/-- A loop that took a custody back shows it again, apart from what only the loop decides. -/
theorem custody_withCustody (loop : EventLoop) {custody : CompletionCustody}
    (codes : ∀ code, custody.reapedTransfer = some (some code) → code < 256) :
    LegacyLoop.custody (LegacyLoop.withCustody loop custody) =
      { custody with
        completionRecorded := loop.completionRecorded
        pendingSource := loop.pendingSource.isSome } := by
  have reaped : (custody.reapedTransfer.map LegacyLoop.waitStatus).map exitCode =
      custody.reapedTransfer := by
    cases waits : custody.reapedTransfer with
    | none => rfl
    | some status =>
        have code (value : Nat) (same : status = some value) : value < 256 :=
          codes value (waits.trans (congrArg some same))
        exact congrArg some (exitCode_waitStatus code)
  simp only [LegacyLoop.custody, LegacyLoop.withCustody, reaped]

/-- Without an accepted cancellation the guardian of the whole loop goes on as the slice's does,
and settles the loss of the supervisor where the slice reads the record. -/
theorem guardianProgress_unaccepted {custody : GuardianCustody}
    (unreconciled : custody.reconciled = false) :
    guardianProgress custody false drained treeEmpty = (do
      let withheld ← GuardianCustody.roleWithheld treeEmpty
      if withheld then pure (some custody)
      else do
        let custody ← settleGuardianLoss custody false
        pure (some custody)) := by
  cases custody with
  | mk reconciled transfer reaped =>
      subst unreconciled
      cases treeEmpty <;> rfl

/-- On a terminal record the two settle alike: what the slice's delivery may come to, the whole
guardian may come to as well. -/
theorem settleGuardianLoss_delivers {custody : GuardianCustody}
    {result : Except IoError GuardianCustody} (settled : terminal record = true)
    (answers : (custody.startGuardianDelivery record).Answers result) :
    custody.deliverFromGuardian.Answers result ∧
      (settleGuardianLoss custody accepted).Answers result := by
  have found : readMeta.Answers (.ok record) :=
    Io.Answers.ask (L := layout) (E := outside) (.read .metaJson) (.ok record)
  have locks : (tryLock .reconciliation).Answers (.ok true) :=
    Io.Answers.ask (L := layout) (E := outside) (.tryLock .reconciliation) (.ok true)
  have kept : (reconcileLostSupervisorLocked .leavePending accepted true).Answers (.ok record) := by
    refine found.bind ?_
    simp only [settled, if_true]
    exact .pure
  have reconciled : (reconcileLostSupervisorAfterGuardian accepted true).Answers
      (.ok (some record)) :=
    locks.bind (kept.attempt.bind ((unlock_answers _).bind .pure))
  exact ⟨found.attempt.bind answers, reconciled.attempt.bind answers⟩

end Unregistered

end AgentBash
