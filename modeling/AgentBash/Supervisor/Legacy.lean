import AgentBash.Supervisor.LegacyLoop
import AgentBash.Supervisor.LostSupervisor
import AgentBash.Delivery.Activation

/-!
# Everybody who touches a handle without a registration

The worker that registers the handle becomes its guardian and forks the supervisor. Beside these
two, status, list, cancel, detach and mode calls may come at any time and any number of times.
-/

namespace AgentBash

set_option autoImplicit false

open Durable

/-- The start time and the boot of an identity, as far as the code can observe it. -/
structure ObservedProcess where
  starttimeTicks : Nat
  bootId : String
  deriving DecidableEq, Repr

/-- What the outside answers while a supervisor starts its workload. -/
structure SupervisorStart where
  identity : Option ObservedProcess
  openLog : Except IoError Unit := .ok ()
  subreaper : Except IoError Unit := .ok ()
  signalfd : Except IoError Unit := .ok ()
  imageOwner : Except IoError Unit := .ok ()
  argv : Except String Unit := .ok ()
  workload : Except IoError Nat
  rootPidfd : Bool := false
  ownerPidfd : Bool := false
  cgroup : Bool := false
  observedWorkload : Option (Int × Nat) := none
  released : Except IoError Unit := .ok ()
  sentinel : Except String (Option SentinelMatcher) := .ok none
  completionScope : RootWork.CompletionScope
  turns : List LegacyTurn

inductive RegistrationError
  | notStarted (error : IoError)
  | admitted (error : IoError)

/-- One turn of the guardian: whether the reaping failed, and whether it found the tree empty. -/
structure GuardianTurn where
  reapFailed : Bool := false
  treeEmpty : Bool := false
  deriving DecidableEq, Repr

/-- What the outside answers until the daemon has forked, and then to its two halves. -/
structure StartupOutside where
  prepare : Except IoError Unit := .ok ()
  register : Except RegistrationError Unit := .ok ()
  setsid : Except IoError Unit := .ok ()
  subreaper : Except IoError Unit := .ok ()
  role : Except IoError Unit := .ok ()
  supervisor : SupervisorStart
  guarding : List GuardianTurn

section Errors

def recordErrorUnlessTerminal (initial : Meta) (failed : Meta → Stamp → Meta) : Script Unit :=
  locked .completion do
    let read ← readMeta.attempt
    let record := match read with
      | .ok record => record
      | .error _ => initial
    if terminal record then pure ()
    else do
      let stamp ← readStamp
      writeRcAtomic exSoftware
      writeMetaAtomic (failed record stamp)

def recordPreAdmissionRegistrationError (initial : Meta) (detail : String) : Script Unit :=
  recordErrorUnlessTerminal initial fun record =>
    applySupervisorErrorMetadata record ("completion event registration failed: " ++ detail)

def applyRegistrationUnknownMetadata (record : Meta) (detail : String) (stamp : Stamp) : Meta :=
  { record with
    state := .error
    completionReason := some .registrationOutcomeUnknown
    rc := some exSoftware
    signal := none
    completedAt := some stamp.now
    error := some
      ("completion event registration outcome is unknown after helper admission: " ++ detail)
    updatedAt := stamp.touched }

def recordAdmittedRegistrationUnknown (initial : Meta) (detail : String) : Script Unit :=
  recordErrorUnlessTerminal initial fun record =>
    applyRegistrationUnknownMetadata record detail

/-- The result of the publication is given up by every caller. -/
def recordSupervisorError (record : Meta) (message : String) (log role : Bool) : Script Unit := do
  let _ ← (publishTerminalWithDeliveryDisposition record log (.supervisorError message)
    .claimPending role).attempt
  pure ()

end Errors

section Supervisor

variable (identityOf : Nat → Int) (errnoText : Bytes → String)

def supervisorMeta (record : Meta) (pid : Nat) (identity : Option ObservedProcess) : Meta :=
  { record with
    supervisorPid := identity.map fun _ => identityOf pid
    supervisorPidStarttimeTicks := identity.map ObservedProcess.starttimeTicks
    processBootId := identity.map ObservedProcess.bootId }

def applySpawnMetadata (record : Meta) (observed : Option (Int × Nat)) : Meta :=
  { record with
    workloadPid := observed.map Prod.fst
    workloadPidStarttimeTicks := observed.map Prod.snd }

def persistSupervisorMetaBestEffort (record : Meta) : Script Unit := do
  let _ ← (writeMetaAtomic record).attempt
  pure ()

/-- A failed step of the start is recorded, and the supervisor leaves with 70. -/
def orRecord {α : Type} (step : Except IoError α) (record : Meta) (message : String → String)
    (log : Bool) (rest : α → Script Unit) : Script Unit :=
  match step with
  | .ok value => rest value
  | .error error => do
      recordSupervisorError record (message error.detail) log true
      Io.exit 70

def releasedMeta (record : Meta) (released : Except IoError Unit) : Meta :=
  match released with
  | .ok _ => record
  | .error error => { record with error := some ("workload start gate failed: " ++ error.detail) }

def superviseWorkload (start : SupervisorStart) (record : Meta) (workload : Nat) : Script Unit := do
  let record := releasedMeta (applySpawnMetadata record start.observedWorkload) start.released
  persistSupervisorMetaBestEffort record
  orRecord (start.sentinel.mapError .other) record ("invalid ready sentinel after fork: " ++ ·) true
    fun sentinel => LegacyLoop.eventLoop errnoText start.turns
      (EventLoop.eventLoopState
        { record
          rootPid := workload
          rootPidfd := start.rootPidfd
          ownerPidfd := start.ownerPidfd
          cgroup := start.cgroup
          completionScope := start.completionScope
          sentinel
          rootControlFd := false })

def startWorkload (start : SupervisorStart) (record : Meta) : Script Unit :=
  orRecord start.imageOwner record ("image custodian bootstrap failed: " ++ ·) true fun _ => do
    persistSupervisorMetaBestEffort record
    orRecord (start.argv.mapError .other) record id true fun _ =>
      orRecord start.workload record ("spawn failed: " ++ ·) true fun workload =>
        superviseWorkload errnoText start record workload

def runSupervisor (start : SupervisorStart) (initial : Meta) : Script Unit := do
  let pid : Nat ← Io.ask .self
  let record := supervisorMeta identityOf initial pid start.identity
  orRecord start.openLog record ("open log failed: " ++ ·) false fun _ =>
    orRecord start.subreaper record ("PR_SET_CHILD_SUBREAPER failed: " ++ ·) true fun _ =>
      orRecord start.signalfd record ("signalfd failed: " ++ ·) true fun _ => do
        persistSupervisorMetaBestEffort record
        startWorkload errnoText start record

end Supervisor

section Guardian

/-- Neither a running workload that is to be cancelled nor a role that is still out lets the
guardian publish or deliver. -/
def guardianWithheld (reconciled cancelWorkload treeEmpty : Bool) : Script Bool :=
  if reconciled || (cancelWorkload && !treeEmpty) then pure true
  else if treeEmpty then pure false
  else do
    let slot : RoleSlot ← outsideAsk .roleSlot
    pure (slot != .free)

def settleGuardianLoss (custody : GuardianCustody) (acceptedTreeEmpty : Bool) :
    Script GuardianCustody := do
  match ← (reconcileLostSupervisorAfterGuardian acceptedTreeEmpty true).attempt with
  | .ok (some record) => custody.startGuardianDelivery record
  | .ok none | .error _ => pure custody

def markTreeDrained (treeEmpty : Bool) : Script Unit :=
  if treeEmpty then outsideAsk .guardianTreeDrained else pure ()

def noteWorkloadDrained (cancelWorkload treeEmpty : Bool) : Script Unit :=
  if cancelWorkload && treeEmpty then recordCancellationDrained else pure ()

/-- What the guardian does once its children are reaped and integrated; `none` is retirement. -/
def guardianProgress (custody : GuardianCustody) (accepted drained treeEmpty : Bool) :
    Script (Option GuardianCustody) := do
  markTreeDrained treeEmpty
  if custody.reconciled && treeEmpty then do
    match ← endPhysicalCustody.attempt with
    | .ok _ => pure none
    | .error _ => pure (some custody)
  else
    match ← (noteWorkloadDrained (accepted && !drained) treeEmpty).attempt with
    | .error _ => pure (some custody)
    | .ok _ => do
        if ← guardianWithheld custody.reconciled (accepted && !drained) treeEmpty then
          pure (some custody)
        else do
          let custody ← settleGuardianLoss custody (accepted && (treeEmpty || drained))
          pure (some custody)

def guardianTurn (custody : GuardianCustody) (turn : GuardianTurn) :
    Script (Option GuardianCustody) := do
  match ← explicitCancelAccepted.attempt with
  | .error _ => pure (some custody)
  | .ok accepted =>
      match ← (durableMarkerExists .cancellationDrained).attempt with
      | .error _ => pure (some custody)
      | .ok drained => do
          let custody ← custody.reapGuardianTransfer
          if turn.reapFailed then pure (some custody)
          else do
            let custody ← custody.integrateReapedTransfer
            let treeEmpty := turn.treeEmpty && custody.transfer.isNone
            if custody.reaped.isSome then pure (some custody)
            else guardianProgress custody accepted drained treeEmpty

def guardLoop : List GuardianTurn → GuardianCustody → Script Unit
  | [], _ => park
  | turn :: turns, custody => do
      match ← guardianTurn custody turn with
      | none => pure ()
      | some custody => guardLoop turns custody

/-- A supervisor that left with 0 has published and delivered by itself. -/
def guardSupervisorExit (turns : List GuardianTurn) (supervisor : Nat) : Script Unit := do
  let status ← waitPid supervisor
  guardLoop turns { reconciled := status == some 0 }

end Guardian

section Startup

variable (identityOf : Nat → Int) (errnoText : Bytes → String)

def beginPhysicalCustody : Script Unit := do
  let boot ← outsideAsk .currentBootId
  atomicWrite .physicalCustody boot

def supervisorForkRefused (record : Meta) : Script Unit := do
  let _ ← endPhysicalCustody.attempt
  recordSupervisorError record "agent-bash: supervisor fork failed: fork failed" false true
  Io.exit 70

/-- The half that returns from the fork stays as the guardian. -/
def forkSupervisor (startup : StartupOutside) (record : Meta) : Script Unit := do
  match ← Io.spawn ((runSupervisor identityOf errnoText startup.supervisor record).program
      softwareExit) with
  | none => supervisorForkRefused record
  | some supervisor => guardSupervisorExit startup.guarding supervisor

def daemonizationChild (startup : StartupOutside) (record : Meta) : Script Unit :=
  match startup.setsid with
  | .error _ => Io.exit 70
  | .ok _ =>
      match startup.subreaper with
      | .error error => do
          recordSupervisorError record ("PR_SET_CHILD_SUBREAPER failed: " ++ error.detail) false
            false
          Io.exit 70
      | .ok _ =>
          match startup.role with
          | .error _ => Io.exit 70
          | .ok _ => do
              match ← beginPhysicalCustody.attempt with
              | .error _ => Io.exit 70
              | .ok _ => forkSupervisor identityOf errnoText startup record

/-- The worker registers the handle before anything of it may run. -/
def registerAndStartSupervisor (startup : StartupOutside) (record : Meta) : Script Unit :=
  match startup.prepare with
  | .error error => do
      let _ ← (recordPreAdmissionRegistrationError record
        ("prepare completion continuation: " ++ error.detail)).attempt
      Io.exit 70
  | .ok _ =>
      match startup.register with
      | .error (.notStarted error) => do
          let _ ← (recordPreAdmissionRegistrationError record error.detail).attempt
          Io.exit 70
      | .error (.admitted error) => do
          let _ ← (recordAdmittedRegistrationUnknown record error.detail).attempt
          Io.exit 70
      | .ok _ => daemonizationChild identityOf errnoText startup record

end Startup

section Cancel

inductive CancelWake
  | notRequested | custodyPolling | sent | supervisorGone | failed
  deriving DecidableEq, Repr

structure CancelOutcome where
  requested : Bool
  wake : CancelWake
  wakeError : Option String
  deriving DecidableEq, Repr

def CancelOutcome.notRequested : CancelOutcome := ⟨false, .notRequested, none⟩

inductive PidfdOpen
  | opened | noProcess
  | failed (error : IoError)
  deriving DecidableEq, Repr

/-- What polling a pidfd that is already open shows. -/
inductive PidfdState
  | running | exited | broken
  | failed (error : IoError)
  deriving DecidableEq, Repr

inductive WakeAnswer
  | sent
  | noProcess (error : IoError)
  | failed (error : IoError)
  deriving DecidableEq, Repr

/-- What one cancel call sees of the supervisor, and how often it polls for its metadata. -/
structure CancelOutside where
  polls : Nat := 0
  opened : PidfdOpen := .opened
  evidence : ProcessIdentityEvidence := .live
  state : PidfdState := .running
  wake : WakeAnswer := .sent
  deriving Repr

/-- The descriptor is open before the identity is compared, so a reused pid is never captured. -/
def captureCancelSupervisorUsing (seen : CancelOutside) : Except IoError Bool :=
  match seen.opened with
  | .noProcess => .ok false
  | .failed error => .error error
  | .opened =>
      match seen.evidence with
      | .gone | .mismatch => .ok false
      | .unavailable =>
          .error (.other "supervisor identity unavailable after pidfd capture")
      | .live =>
          match seen.state with
          | .failed error => .error error
          | .broken => .error (.other "supervisor pidfd observation failed")
          | .exited => .ok false
          | .running => .ok true

def supervisorIdentity (record : Meta) : Option (Int × Nat × String) := do
  let pid ← record.supervisorPid
  let starttimeTicks ← record.supervisorPidStarttimeTicks
  let boot ← record.processBootId
  pure (pid, starttimeTicks, boot)

def waitForSupervisorMetadata : Nat → Script Meta
  | 0 => readMeta
  | polls + 1 => do
      let record ← readMeta
      if record.supervisorPid.isSome || terminal record then pure record
      else waitForSupervisorMetadata polls

def requestTerminalCancel : Script CancelOutcome := do
  if ← acceptTerminalCustodyCancel then pure ⟨true, .custodyPolling, none⟩
  else pure .notRequested

/-- How a request under the completion lock goes on once the lock is dropped. -/
inductive LockedCancel
  | terminalCustody
  | lostSupervisor
  | accepted (wake : CancelWake) (wakeError : Option String)
  deriving DecidableEq, Repr

def wakeOutcome : WakeAnswer → LockedCancel
  | .sent => .accepted .sent none
  | .noProcess error => .accepted .supervisorGone (some error.detail)
  | .failed error => .accepted .failed (some error.detail)

/-- Durability is the acceptance boundary; the signal only wakes the supervisor. -/
def acceptLiveCancel (seen : CancelOutside) : Script LockedCancel := do
  match captureCancelSupervisorUsing seen with
  | .error error => Io.throw error
  | .ok false => pure .lostSupervisor
  | .ok true => do
      let _ ← recordExplicitCancelAcceptance
      pure (wakeOutcome seen.wake)

def requestCancelLocked (seen : CancelOutside) : Script LockedCancel := do
  let current ← readMeta
  if terminal current then pure .terminalCustody
  else if (supervisorIdentity current).isSome then acceptLiveCancel seen
  else pure .lostSupervisor

/-- The exit of the supervisor is no proof that the tree has ceased. -/
def finishCancel : LockedCancel → Script CancelOutcome
  | .terminalCustody => requestTerminalCancel
  | .lostSupervisor => do
      let _ ← reconcileLostSupervisor false
      pure .notRequested
  | .accepted wake wakeError =>
      if wake = .supervisorGone then do
        match ← (reconcileLostSupervisor false).attempt with
        | .ok _ => pure ⟨true, wake, wakeError⟩
        | .error error =>
            pure ⟨true, wake, some ("supervisor gone; reconciliation failed: " ++ error.detail)⟩
      else pure ⟨true, wake, wakeError⟩

def requestCancel (seen : CancelOutside) : Script CancelOutcome := do
  let record ← waitForSupervisorMetadata seen.polls
  if terminal record then requestTerminalCancel
  else do
    let locked ← locked .completion (requestCancelLocked seen)
    finishCancel locked

end Cancel

section Calls

def completionDeliveryPending (record : Meta) : Bool :=
  terminal record && record.delivery.completionLifecycle.needsProgress

def reconcileStatusMeta : Script Meta := do
  let record ← readMeta
  if completionDeliveryPending record then reconcileCompletionDelivery record false
  else if !runningExitMode record then pure record
  else reconcileLostSupervisor false

def reconcileListMeta : Script Meta := do
  let record ← readMeta
  if !runningExitMode record then pure record else reconcileLostSupervisorForList false

inductive LegacyEntry
  | status | list
  | cancel (seen : CancelOutside)
  | detach | settledMode | observedMode

def LegacyEntry.program : LegacyEntry → HandleProgram
  | .status => reconcileStatusMeta.program softwareExit
  | .list => reconcileListMeta.program softwareExit
  | .cancel seen => (requestCancel seen).program softwareExit
  | .detach => AgentBash.detach.program softwareExit
  | .settledMode => settledDeliveryMode.program softwareExit
  | .observedMode => observedDeliveryMode.program softwareExit

def legacySystem : System (requests layout outside) HandleDisk :=
  system layout outside LegacyEntry.program

end Calls

end AgentBash
