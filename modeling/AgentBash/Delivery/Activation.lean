import AgentBash.Delivery.Completion
import AgentBash.Durable.Rules

/-!
# Activation of a synchronous handle

`detach` and the two mode reads of `delivery.rs`. The claim marker, the outcome and the mode
file are three durable objects: a claim is recorded before the mode turns async, the outcome
is pending before the helper starts, and a failed admission is rolled back in the order
mode, mirror, outcome, marker.
-/

namespace AgentBash

set_option autoImplicit false

open Durable

structure DetachOutcome where
  deliveryMode : DeliveryMode
  state : State
  transitioned : Bool
  terminalActivationRequestsNotification : Bool
  deriving DecidableEq

def detachOutcome (record : Meta) (transitioned terminalActivationRequestsNotification : Bool) :
    DetachOutcome where
  deliveryMode := record.deliveryMode
  state := record.state
  transitioned := transitioned
  terminalActivationRequestsNotification := terminalActivationRequestsNotification

section Helper

def DeliveryHelperCommandError.inner : DeliveryHelperCommandError → IoError
  | .notStarted error | .admitted error => error

/-- The request is built from the record's provenance; no helper is involved yet. -/
def activateRequest : Script Unit := do
  match ← outsideAsk .deliveryRequest with
  | .ok _ => pure ()
  | .error error => Io.throw (.other error.toString)

def waitRequiredDeliveryHelper (operation : HelperOperation) :
    Script (Except DeliveryHelperCommandError (ExitStatus × Option String)) := do
  match ← (outsideAsk (.spawnHelper operation)).attempt with
  | .error error =>
      pure (.error (.notStarted ⟨error.kind,
        "spawn delivery helper for " ++ operation.name ++ ": " ++ error.detail⟩))
  | .ok _ =>
      match ← (outsideAsk (.waitHelperOutput operation)).attempt with
      | .error error =>
          pure (.error (.admitted ⟨error.kind,
            "wait delivery helper for " ++ operation.name ++ ": " ++ error.detail⟩))
      | .ok output => pure (.ok output)

def requireHelperSuccess : ExitStatus × Option String → Except DeliveryHelperCommandError Unit
  | (status, detail) =>
      if status.success then .ok ()
      else
        let code := match status with
          | .code code => toString code
          | .signal _ => "no exit code"
        .error (.admitted (.other ("delivery helper exited with " ++ code ++
          (detail.map (": " ++ ·)).getD "")))

def runRequiredDeliveryHelperCommandDetailed (operation : HelperOperation) (external : Bool) :
    Script (Except DeliveryHelperCommandError Unit) := do
  match ← withExternalTransferCustody external (waitRequiredDeliveryHelper operation) with
  | .error error => pure (.error error)
  | .ok output => pure (requireHelperSuccess output)

end Helper

section Settlement

def repairMirror (mode : DeliveryMode) : Script Meta := do
  let record ← readMeta
  if record.deliveryMode = mode then pure record
  else do
    let repaired := { record with deliveryMode := mode }
    writeMetaAtomic repaired
    pure repaired

def repairDeliveryModeMirror (mode : DeliveryMode) : Script Meta :=
  locked .completion (repairMirror mode)

def requireSettledActivation : Script Unit := do
  let activation ← activationTransferState
  match activation.outcome with
  | .unclaimed | .succeeded => pure ()
  | .claimedWithoutOutcome | .pending =>
      Io.throw (.other "delivery activation outcome is unknown")
  | .preAdmissionFailed error | .failed error => Io.throw (.other error)
  | .transferOutcomeUnknown => Io.throw (.other "transfer_outcome_unknown")

/-- The marker goes last: until then the claim shows that something was under way. -/
def rollBackActivation : Script Unit := do
  writeDeliveryModeAtomic .sync
  let _ ← repairDeliveryModeMirror .sync
  removeActivationOutcome
  rollbackActivationAttempt

def settleOrphanedActivation : Script Unit := do
  let activation ← activationTransferState
  match activation.outcome with
  | .claimedWithoutOutcome | .preAdmissionFailed _ => rollBackActivation
  | .pending => writeActivationOutcome .transferOutcomeUnknown
  | _ => pure ()

def observedDeliveryMode : Script DeliveryMode := do
  let activation ← activationTransferState
  if activation.mode = .async then do
    requireSettledActivation
    pure activation.mode
  else pure activation.mode

def settledDeliveryMode : Script DeliveryMode :=
  locked .delivery do
    settleOrphanedActivation
    observedDeliveryMode

end Settlement

section Detach

/-- The worker inherits the delivery lock; durable files are its only way to answer. -/
def runDeliveryTransferWorkerHoldingLock (operation : Script Unit) : Script Unit := do
  match ← Io.spawn (operation.program softwareExit) with
  | none => Io.throw (.other "fork failed")
  | some worker => do
      let status ← waitPid worker
      Io.ofExcept (transferStatus status)

/-- The pending outcome is on disk before the helper may start. -/
def runClaimedActivation : Script (Except DeliveryHelperCommandError Unit) := do
  match ← (writeActivationOutcome .pending).attempt with
  | .error error => do
      settleOrphanedActivation
      Io.throw error
  | .ok _ => runRequiredDeliveryHelperCommandDetailed .activate true

/-- Without a claim of its own the worker adopts an activation that is already settled. -/
def adoptSettledActivation : Script (Except DeliveryHelperCommandError Unit) := do
  requireSettledActivation
  pure (.ok ())

def activateClaimed (claimed : Bool) : Script (Except DeliveryHelperCommandError Unit) :=
  if claimed then runClaimedActivation else adoptSettledActivation

def finishActivation : Except DeliveryHelperCommandError Unit → Script Unit
  | .error (.notStarted error) => do
      writeActivationOutcome (.preAdmissionFailed error.detail)
      settleOrphanedActivation
      Io.throw error
  | .error (.admitted error) => do
      writeActivationOutcome (.failed ("failed: " ++ error.detail))
      let _ ← repairDeliveryModeMirror .async
      Io.throw error
  | .ok _ => do
      writeActivationOutcome .succeeded
      let _ ← repairDeliveryModeMirror .async
      pure ()

def rollbackOwnClaim (claimed : Bool) : Script Unit :=
  if claimed then do
    let _ ← rollbackActivationAttempt.attempt
    pure ()
  else pure ()

def activateWorker : Script Unit := do
  let claimed ← recordActivationAttempt
  match ← (writeDeliveryModeAtomic .async).attempt with
  | .error error => do
      rollbackOwnClaim claimed
      Io.throw error
  | .ok _ => do
      let result ← activateClaimed claimed
      finishActivation result

def readbackActivationCommitted : Script Bool := do
  activateRequest
  match ← runStructuredHelper .activationReadback true with
  | .error error => Io.throw error.inner
  | .ok _ => outsideAsk .readbackActivationCommitted

def readbackConfirms : Script Bool := do
  match ← readbackActivationCommitted.attempt with
  | .ok committed => pure committed
  | .error _ => pure false

/-- An unsuccessful retry leaves the uncertain outcome as it was. -/
def retryActivation : Script Unit := do
  match ← runRequiredDeliveryHelperCommandDetailed .activate true with
  | .ok _ => writeActivationOutcome .succeeded
  | .error error => do
      let committed ← readbackConfirms
      if committed then writeActivationOutcome .succeeded else Io.throw error.inner

def uncertainActivation : Script Bool := do
  if ← continuationEnabled then do
    let activation ← activationTransferState
    match activation.outcome with
    | .failed _ | .transferOutcomeUnknown => pure true
    | _ => pure false
  else pure false

def retryUncertainActivation : Script Unit := do
  if ← uncertainActivation then do
    let _ ← readMeta
    activateRequest
    runDeliveryTransferWorkerHoldingLock retryActivation
  else pure ()

def detachHoldingLock : Script DetachOutcome := do
  settleOrphanedActivation
  let activation ← activationTransferState
  if activation.mode = .async then do
    retryUncertainActivation
    requireSettledActivation
    let record ← repairDeliveryModeMirror .async
    pure (detachOutcome record false false)
  else do
    let _ ← readMeta
    activateRequest
    let result ← (runDeliveryTransferWorkerHoldingLock activateWorker).attempt
    settleOrphanedActivation
    requireSettledActivation
    Io.ofExcept result
    let record ← readMeta
    pure (detachOutcome record true (terminal record))

def detach : Script DetachOutcome := locked .delivery detachHoldingLock

end Detach

/-- Who may touch the activation of a handle. -/
inductive ActivationEntry
  | detach
  | settledMode
  | observedMode
  deriving DecidableEq, Repr

def ActivationEntry.program : ActivationEntry → HandleProgram
  | .detach => AgentBash.detach.program softwareExit
  | .settledMode => settledDeliveryMode.program softwareExit
  | .observedMode => observedDeliveryMode.program softwareExit

def activationSystem : System (requests layout outside) HandleDisk :=
  system layout outside ActivationEntry.program

end AgentBash
