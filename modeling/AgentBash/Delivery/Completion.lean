import AgentBash.State.Files

/-!
# The completion-delivery path

`start_completion_delivery` with everything it runs: the settlement of an orphaned record,
the gated fork, the role custodian with its worker, the helper execution and the
integration of a transfer by the process that forked it. The callers at the end are the
status reconciler, the delivery part of the supervisor's event loop and the guardian's.
-/

namespace AgentBash

set_option autoImplicit false

open Durable

section Records

def completionDeliveryMetaFromUnknownTransfer (error : IoError) (retryCount : Nat) :
    CompletionDeliveryMeta where
  attempted := true
  error := some ("delivery helper outcome is unknown: " ++ error.detail)
  errorCode := some .transferOutcomeUnknown
  retryable := some false
  retryCount := retryCount

def admittedCompletionDeliveryMeta : CompletionDeliveryMeta where
  attempted := true

def provisionalCompletionDeliveryTransferMeta : CompletionDeliveryMeta where
  attempted := true
  error := some "delivery helper outcome is unknown until the admitted attempt exits"
  errorCode := some .deliveryAttemptInProgress
  retryable := some false

def completionDeliveryMetaFromStatus : ExitStatus → CompletionDeliveryMeta
  | .code code => { admittedCompletionDeliveryMeta with exitCode := some code }
  | .signal signal =>
      { admittedCompletionDeliveryMeta with
        error := some ("terminated by signal " ++ toString signal) }

def completionDeliveryMetaFromError (error : IoError) : CompletionDeliveryMeta :=
  { admittedCompletionDeliveryMeta with error := some error.detail }

/-- The three records of an attempt that was never admitted; only the first may be retried. -/
def preAdmissionFailure (error : String) (code : DeliveryErrorCode) (retryable : Bool)
    (retryCount : Nat) : CompletionDeliveryMeta where
  attempted := false
  error := some error
  errorCode := some code
  retryable := some (retryable && retryCount == 0)
  retryCount := retryCount

def completionDeliveryMetaFromLaunchError (error : IoError) (retryCount : Nat) :
    CompletionDeliveryMeta :=
  preAdmissionFailure error.detail .deliveryHelperLaunchFailed true retryCount

def completionDeliveryMetaFromOwnerLaunchError (error : IoError) (retryCount : Nat) :
    CompletionDeliveryMeta :=
  preAdmissionFailure error.detail .deliveryTransferWorkerLaunchFailed true retryCount

def completionDeliveryMetaFromHelperError (error : DeliveryHelperError) (retryCount : Nat) :
    CompletionDeliveryMeta :=
  preAdmissionFailure error.toString error.code
    (error.code == .deliveryHelperUnavailable || error.code == .deliveryHelperChanged) retryCount

end Records

inductive DeliveryHelperCommandError
  | notStarted (error : IoError)
  | admitted (error : IoError)

section Helper

def HelperOperation.name : HelperOperation → String
  | .complete => "complete"
  | .activate => "activate"
  | .activationReadback => "activation-readback"

/-- Spawns one helper process, of the kind its errors name, and waits for it. -/
def waitHelper (kind : String) (operation : HelperOperation) :
    Script (Except DeliveryHelperCommandError ExitStatus) := do
  match ← (outsideAsk (.spawnHelper operation)).attempt with
  | .error error =>
      pure (.error (.notStarted ⟨error.kind,
        "spawn " ++ kind ++ " for " ++ operation.name ++ ": " ++ error.detail⟩))
  | .ok _ =>
      match ← (outsideAsk (.waitHelper operation)).attempt with
      | .error error =>
          pure (.error (.admitted ⟨error.kind,
            "wait " ++ kind ++ " for " ++ operation.name ++ ": " ++ error.detail⟩))
      | .ok status => pure (.ok status)

def waitDeliveryHelper : HelperOperation → Script (Except DeliveryHelperCommandError ExitStatus) :=
  waitHelper "delivery helper"

def reportExternalCustodyCleanup : Except IoError Unit → Script Unit
  | .ok _ => pure ()
  | .error error => do
      let _ ← (recordExternalCustodyCleanupError error).attempt
      pure ()

def wasAdmitted {α : Type} : Except DeliveryHelperCommandError α → Bool
  | .error (.admitted _) => true
  | _ => false

/-- Only a direct worker of an external caller brings its own custody marker. -/
def withExternalTransferCustody {α : Type} (external : Bool)
    (operation : Script (Except DeliveryHelperCommandError α)) :
    Script (Except DeliveryHelperCommandError α) :=
  if external then do
    match ← beginExternalTransferCustody.attempt with
    | .error error => pure (.error (.notStarted error))
    | .ok owned => do
        let result ← operation
        if owned && !wasAdmitted result then do
          let cleanup ← endExternalTransferCustody.attempt
          reportExternalCustodyCleanup cleanup
          pure result
        else pure result
  else operation

def runDeliveryHelperCommand (operation : HelperOperation) (external : Bool) :
    Script (Except DeliveryHelperCommandError ExitStatus) :=
  withExternalTransferCustody external (waitDeliveryHelper operation)

end Helper

section Transfer

/-- The evidence of an attempt and its intent are on disk before the spawn. -/
def prepareAttempt : Script String := do
  let retained ← outsideAsk .openAttempt
  readFile .registration
  outsideAsk (.system .attemptEvidence)
  pure retained

/-- Syncs the evidence, records the wait status and reads the reply of a helper that succeeded. -/
def recordAttempt (retained : String) (status : ExitStatus) : Script Unit := do
  outsideAsk (.system .attemptEvidence)
  if status.success then outsideAsk (.system .attemptEvidence)
  else Io.throw (.other ("structured helper failed; retained " ++ retained))

/-- The v2 helper answers with a reply, which its callers look at. -/
def structuredHelper (operation : HelperOperation) :
    Script (Except DeliveryHelperCommandError Unit) := do
  match ← prepareAttempt.attempt with
  | .error error => pure (.error (.notStarted error))
  | .ok retained =>
      match ← waitHelper "structured helper" operation with
      | .error error => pure (.error error)
      | .ok status =>
          match ← (recordAttempt retained status).attempt with
          | .error error => pure (.error (.admitted error))
          | .ok _ => pure (.ok ())

def runStructuredHelper (operation : HelperOperation) (external : Bool) :
    Script (Except DeliveryHelperCommandError Unit) :=
  withExternalTransferCustody external (structuredHelper operation)

def acceptContinuation : Script Unit := do
  outsideAsk .acceptanceReply
  locked .continuation do
    let record ← readFile .continuationLocal
    atomicWrite .continuationLocal { record with enqueueAccepted := true }

/-- The reply counts only once it was accepted for this handle. -/
def runContinuationHelper (external : Bool) : Script (Except IoError Unit) := do
  match ← runStructuredHelper .complete external with
  | .error (.notStarted error) | .error (.admitted error) => pure (.error error)
  | .ok _ => acceptContinuation.attempt

def executeContinuationTransfer (record : Meta) (external : Bool) : Script Unit := do
  match ← outsideAsk .deliveryRequest with
  | .error error => Io.throw (.other error.toString)
  | .ok _ => do
      writeMetaAtomic { record with delivery := provisionalCompletionDeliveryTransferMeta }
      match ← runContinuationHelper external with
      | .ok _ =>
          writeMetaAtomic { record with delivery := completionDeliveryMetaFromStatus (.code 0) }
      | .error error =>
          writeMetaAtomic { record with delivery := completionDeliveryMetaFromError error }

/-- The legacy execution, in the worker: the provisional record is written before the spawn. -/
def executeLegacyTransfer (persisted : Meta) (retryCount : Nat) (external : Bool) :
    Script Unit := do
  match ← outsideAsk .deliveryRequest with
  | .error error =>
      writeMetaAtomic
        { persisted with delivery := completionDeliveryMetaFromHelperError error retryCount }
  | .ok _ => do
      writeMetaAtomic { persisted with delivery := provisionalCompletionDeliveryTransferMeta }
      match ← runDeliveryHelperCommand .complete external with
      | .ok status =>
          writeMetaAtomic { persisted with delivery := completionDeliveryMetaFromStatus status }
      | .error (.notStarted error) =>
          writeMetaAtomic
            { persisted with delivery := completionDeliveryMetaFromLaunchError error retryCount }
      | .error (.admitted error) =>
          writeMetaAtomic { persisted with delivery := completionDeliveryMetaFromError error }

def executeCompletionTransfer (persisted : Meta) (retryCount : Nat) (external : Bool) :
    Script Unit := do
  if ← continuationEnabled then executeContinuationTransfer persisted external
  else executeLegacyTransfer persisted retryCount external

def transferStatus : Option Nat → Except IoError Unit
  | some 0 => .ok ()
  | _ => .error (.other "delivery transfer worker failed")

def integrateCompletionTransfer (workerResult : Except IoError Unit) (retryCount : Nat) :
    Script Meta := do
  let observed ← readMeta
  match workerResult with
  | .ok _ => pure observed
  | .error error =>
      match observed.delivery.completionLifecycle with
      | .unclaimed | .retryablePreAdmissionFailure => do
          let observed := { observed with
            delivery := completionDeliveryMetaFromOwnerLaunchError error retryCount }
          writeMetaAtomic observed
          pure observed
      | .provisionalTransfer => do
          let observed := { observed with
            delivery := completionDeliveryMetaFromUnknownTransfer error retryCount }
          writeMetaAtomic observed
          pure observed
      | _ => pure observed

structure CompletionTransfer where
  pid : Nat
  retryCount : Nat
  deriving DecidableEq, Repr

def CompletionTransfer.finish (transfer : CompletionTransfer) (status : Option Nat) :
    Script Meta :=
  integrateCompletionTransfer (transferStatus status) transfer.retryCount

inductive CompletionStart
  | busy
  | settled
  | running (transfer : CompletionTransfer)
  deriving DecidableEq, Repr

def softwareExit {α : Type} : Except IoError α → Nat
  | .ok _ => 0
  | .error _ => 70

/-- `run_custodian`: a second fork below the owner's child; it integrates the worker's end. -/
def runCustodian (work : Script Unit) (outcome : Option Nat → Script Unit) : Script Unit := do
  match ← (outsideAsk (.system .setSubreaper)).attempt with
  | .error _ => do
      outsideAsk .drainRole
      Io.exit 70
  | .ok _ =>
      match ← Io.spawn (work.program softwareExit) with
      | none => do
          outsideAsk .drainRole
          Io.exit 70
      | some worker => do
          let status ← waitPid worker
          let result ← (outcome status).attempt
          outsideAsk .drainRole
          Io.exit (softwareExit result)

def drainIf (role : Bool) : Script Unit :=
  if role then outsideAsk .drainRole else pure ()

def prepareCompletionWorker : Script Unit := do
  outsideAsk (.system .closeRange)
  keepOnly .delivery

/-- The child of the gated fork. Nothing runs before its owner has published it. -/
def completionChild (persisted : Meta) (retryCount : Nat) (role external : Bool) :
    Script Unit := do
  if ← enterGate then
    match ← prepareCompletionWorker.attempt with
    | .error _ => do
        drainIf role
        Io.exit 70
    | .ok _ =>
        if role then
          runCustodian (executeCompletionTransfer persisted retryCount external)
            fun status => do
              let _ ← integrateCompletionTransfer (transferStatus status) retryCount
              pure ()
        else do
          let result ← (executeCompletionTransfer persisted retryCount external).attempt
          Io.exit (softwareExit result)
  else do
    drainIf role
    Io.exit 70

def publishRoleIf (role : Bool) (child : Nat) : Script Unit :=
  if role then outsideAsk (.publishRole child) else pure ()

/-- Publishing the custodian can fail only after the fork; the child then reads end of file. -/
def admitCompletionChild (role : Bool) (child : Nat) : Script Unit := do
  match ← (publishRoleIf role child).attempt with
  | .error error => do
      dismissChild child
      Io.throw error
  | .ok _ => admitChild child

def forkCompletionChild (persisted : Meta) (retryCount : Nat) (role external : Bool) :
    Script (Meta × CompletionStart) := do
  outsideAsk (.system .socketPair)
  match ← Io.spawn ((completionChild persisted retryCount role external).program softwareExit) with
  | none => do
      let record ← integrateCompletionTransfer (.error (.other "fork failed")) retryCount
      pure (record, .settled)
  | some child => do
      admitCompletionChild role child
      pure (persisted, .running ⟨child, retryCount⟩)

/-- An orphaned provisional record becomes an unknown outcome, never another attempt. -/
def settleOrphanedCompletion (observed : Meta) : Script Meta :=
  if observed.delivery.completionLifecycle = .provisionalTransfer then do
    let settled := { observed with
      delivery := completionDeliveryMetaFromUnknownTransfer
        (.other "delivery transfer owner is gone") observed.delivery.retryCount }
    writeMetaAtomic settled
    pure settled
  else pure observed

/-- A v2 handle is not delivered before its snapshot was published. -/
def snapshotPending : Script Bool := do
  if ← continuationEnabled then
    let published ← tryExists .snapshot
    pure !published
  else pure false

def completionHandedOff (persisted : Meta) : Script Bool := do
  if ← continuationEnabled then
    if persisted.delivery.attempted then handedOff else pure false
  else pure false

def nextRetryCount (delivery : CompletionDeliveryMeta)
    (lifecycle : CompletionDeliveryLifecycle) : Nat :=
  min 255 (delivery.retryCount + if lifecycle = .retryablePreAdmissionFailure then 1 else 0)

def startWithLock (record : Meta) (role external : Bool) : Script (Meta × CompletionStart) := do
  let read ← readMeta
  let mode ← readDeliveryMode
  let observed := { read with deliveryMode := mode }
  if ← snapshotPending then pure (record, .busy)
  else do
    let lifecycle := observed.delivery.completionLifecycle
    let persisted ← settleOrphanedCompletion observed
    if ← completionHandedOff persisted then pure (persisted, .settled)
    else if !lifecycle.permitsAttempt then pure (persisted, .settled)
    else
      forkCompletionChild persisted (nextRetryCount persisted.delivery lifecycle) role external

/-- The guard leaves scope unless the transfer takes it along. -/
def startCompletionDelivery (record : Meta) (role external : Bool) :
    Script (Meta × CompletionStart) := do
  match ← (startWithLock record role external).attempt with
  | .ok (record, .running transfer) => pure (record, .running transfer)
  | .ok (record, start) => do
      unlock .delivery
      pure (record, start)
  | .error error => do
      unlock .delivery
      Io.throw error

def tryStartCompletionDelivery (record : Meta) (role : Bool) :
    Script (Meta × CompletionStart) := do
  if ← tryLock .delivery then startCompletionDelivery record role false
  else pure (record, .busy)

def waitForCompletionCustodian (pid : Nat) (role : Bool) : Script (Option Nat) := do
  let status ← waitPid pid
  if role then do
    outsideAsk (.retireRole pid)
    pure status
  else pure status

def reconcileCompletionDelivery (record : Meta) (role : Bool) : Script Meta := do
  lock .delivery
  match ← startCompletionDelivery record role true with
  | (_, .running transfer) => do
      let status ← waitForCompletionCustodian transfer.pid role
      let result ← (transfer.finish status).attempt
      unlock .delivery
      Io.ofExcept result
  | (record, _) => pure record

end Transfer

end AgentBash
