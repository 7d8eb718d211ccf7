import AgentBash.Delivery.Completion
import AgentBash.Durable.Rules

/-!
# Who carries completion delivery

The three callers of the delivery path. The supervisor drives it from its event loop and
integrates a transfer it has reaped; the guardian does the same once the supervisor is
gone; a status call reconciles it while holding the lock.
-/

namespace AgentBash

set_option autoImplicit false

open Durable

structure RootStatus where
  raw : Int
  rc : Int
  signal : Option Int
  deriving DecidableEq, Repr

/-- The fields of the event loop that completion delivery and the root status use. -/
structure CompletionCustody where
  record : Meta
  completionRecorded : Bool := false
  pendingSource : Bool := false
  transfer : Option CompletionTransfer := none
  reapedTransfer : Option (Option Nat) := none
  deliverySettled : Bool := false
  treePending : Bool := false
  treeEmpty : Bool := false
  rootStatus : Option RootStatus := none
  rootStatusPending : Bool := false
  deriving DecidableEq

/-- What the rest of the event loop brings to one turn: whether it has published a terminal
record, what its reaping saw, and whether its own conditions for leaving hold. -/
structure LoopTurn where
  completionRecorded : Bool
  pendingSource : Bool
  treeEmpty : Bool
  rootStatus : Option RootStatus
  restDone : Bool
  deriving DecidableEq, Repr

namespace CompletionCustody

/-- Unknown is not physical discharge: the tree stays pending on an unknown outcome. -/
def markCompletionDeliverySettled (custody : CompletionCustody) : CompletionCustody :=
  { custody with
    treePending :=
      custody.record.delivery.completionLifecycle == .nonReplayableUnknownTransfer
    deliverySettled := true }

/-- A failed integration is retried on a later turn, with the lock still held. -/
def retryCompletionIntegration (custody : CompletionCustody) : Script CompletionCustody :=
  match custody.reapedTransfer, custody.transfer with
  | some status, some transfer => do
      match ← (transfer.finish status).attempt with
      | .error _ => pure custody
      | .ok record => do
          unlock .delivery
          pure (markCompletionDeliverySettled
            { custody with record, reapedTransfer := none, transfer := none })
  | _, _ => pure custody

/-- The part of `reap_children` that concerns the running transfer. -/
def reapCompletionTransfer (custody : CompletionCustody) : Script CompletionCustody :=
  match custody.transfer, custody.reapedTransfer with
  | some transfer, none => do
      match ← pollPid transfer.pid with
      | none => pure custody
      | some status => do
          outsideAsk (.retireRole transfer.pid)
          retryCompletionIntegration { custody with reapedTransfer := some status }
  | _, _ => pure custody

def driveCompletionDelivery (custody : CompletionCustody) : Script CompletionCustody :=
  if !custody.completionRecorded || custody.pendingSource || custody.deliverySettled ||
      custody.transfer.isSome then
    pure custody
  else do
    match ← tryStartCompletionDelivery custody.record true with
    | (record, .busy) => pure { custody with record }
    | (record, .settled) => pure (markCompletionDeliverySettled { custody with record })
    | (record, .running transfer) =>
        pure { custody with record, transfer := some transfer, treeEmpty := false }

def applyRootStatusMetadata (record : Meta) (status : RootStatus) : Meta :=
  { record with workloadRc := some status.rc, workloadSignal := status.signal }

/-- Merges the observed root status into the persisted record, never over a transfer. -/
def flushRootStatus (custody : CompletionCustody) : Script CompletionCustody :=
  match custody.rootStatus with
  | none => pure custody
  | some status =>
      if !custody.rootStatusPending || custody.transfer.isSome then pure custody
      else do
        if ← tryLock .delivery then
          match ← (do
              let persisted ← readMeta
              let merged := applyRootStatusMetadata persisted status
              writeMetaAtomic merged
              pure merged : Script Meta).attempt with
          | .ok merged => do
              unlock .delivery
              pure { custody with record := merged, rootStatusPending := false }
          | .error error => do
              unlock .delivery
              Io.throw error
        else pure custody

def recordRootStatus (custody : CompletionCustody) : Option RootStatus → Script CompletionCustody
  | none => pure custody
  | some status =>
      flushRootStatus { custody with rootStatus := some status, rootStatusPending := true }

def observe (custody : CompletionCustody) (turn : LoopTurn) : CompletionCustody :=
  { custody with
    completionRecorded := turn.completionRecorded
    pendingSource := turn.pendingSource }

def shouldExit (custody : CompletionCustody) (turn : LoopTurn) : Bool :=
  custody.completionRecorded && !custody.pendingSource && custody.deliverySettled &&
    (!custody.treePending || custody.treeEmpty) && !custody.rootStatusPending &&
    custody.rootStatus.isSome && turn.restDone

/-- What one turn of the event loop does for completion delivery, ahead of its polling. -/
def completionTurn (custody : CompletionCustody) : Script CompletionCustody := do
  let custody ← retryCompletionIntegration custody
  let custody ← driveCompletionDelivery custody
  flushRootStatus custody

def reapChildren (custody : CompletionCustody) (turn : LoopTurn) : Script CompletionCustody := do
  let custody ← reapCompletionTransfer custody
  let custody ← recordRootStatus custody turn.rootStatus
  pure { custody with treeEmpty := turn.treeEmpty && custody.transfer.isNone }

def superviseCompletion : List LoopTurn → CompletionCustody → Script Unit
  | [], _ => park
  | turn :: turns, custody => do
      let custody ← completionTurn (custody.observe turn)
      if custody.shouldExit turn then pure ()
      else do
        let custody ← reapChildren custody turn
        superviseCompletion turns custody

end CompletionCustody

structure GuardianCustody where
  reconciled : Bool := false
  transfer : Option CompletionTransfer := none
  reaped : Option (CompletionTransfer × Option Nat) := none
  deriving DecidableEq

namespace GuardianCustody

def reapGuardianTransfer (custody : GuardianCustody) : Script GuardianCustody :=
  match custody.transfer with
  | none => pure custody
  | some transfer => do
      match ← pollPid transfer.pid with
      | none => pure custody
      | some status => do
          outsideAsk (.retireRole transfer.pid)
          pure { custody with transfer := none, reaped := some (transfer, status) }

def integrateReapedTransfer (custody : GuardianCustody) : Script GuardianCustody :=
  match custody.reaped with
  | none => pure custody
  | some (transfer, status) => do
      match ← (do
          let _ ← readMeta
          transfer.finish status : Script Meta).attempt with
      | .error _ => pure custody
      | .ok _ => do
          unlock .delivery
          pure { custody with reaped := none }

/-- A record that is still running in sentinel mode is delivered as well. -/
def startGuardianDelivery (custody : GuardianCustody) (record : Meta) :
    Script GuardianCustody :=
  if terminal record || !runningExitMode record then do
    match ← (tryStartCompletionDelivery record true).attempt with
    | .error _ | .ok (_, .busy) => pure custody
    | .ok (_, .settled) => pure { custody with reconciled := true }
    | .ok (_, .running transfer) =>
        pure { custody with reconciled := true, transfer := some transfer }
  else pure custody

/-- The delivery part of one turn after the reaped transfer was integrated. -/
def deliverFromGuardian (custody : GuardianCustody) : Script GuardianCustody := do
  match ← readMeta.attempt with
  | .error _ => pure custody
  | .ok record => startGuardianDelivery custody record

/-- No old role descendant survives the proof that the whole tree is empty. Without that
proof a role that is not free withholds the delivery. -/
def roleWithheld (treeEmpty : Bool) : Script Bool :=
  if treeEmpty then do
    outsideAsk .guardianTreeDrained
    pure false
  else do
    let slot : RoleSlot ← outsideAsk .roleSlot
    pure (slot != .free)

/-- One turn for each observation of whether the adopted tree is empty. -/
def guardTurns : List Bool → GuardianCustody → Script Unit
  | [], _ => park
  | observed :: turns, custody => do
      let custody ← reapGuardianTransfer custody
      let custody ← integrateReapedTransfer custody
      if custody.reaped.isSome then guardTurns turns custody
      else do
        let treeEmpty := observed && custody.transfer.isNone
        let withheld ← roleWithheld treeEmpty
        if custody.reconciled then
          if treeEmpty then pure () else guardTurns turns custody
        else if withheld then guardTurns turns custody
        else do
          let custody ← deliverFromGuardian custody
          guardTurns turns custody

/-- What the guardian starts from: a v2 handle that was handed off, or a supervisor that went
well. -/
def reconciledAtExit (status : Option Nat) : Script Bool := do
  if ← continuationEnabled then do
    match ← handedOff.attempt with
    | .ok handed => pure handed
    | .error _ => pure false
  else pure (status == some 0)

def guardCompletion (turns : List Bool) (supervisor : Nat) : Script Unit := do
  let status ← waitPid supervisor
  let reconciled ← reconciledAtExit status
  guardTurns turns { reconciled }

end GuardianCustody

/-- The daemon forks its supervisor and stays behind as the guardian. -/
def completionDaemon (turns : List LoopTurn) (guarding : List Bool) (record : Meta) :
    Script Unit := do
  match ← Io.spawn
      ((CompletionCustody.superviseCompletion turns { record }).program softwareExit) with
  | none => Io.exit 70
  | some supervisor => GuardianCustody.guardCompletion guarding supervisor

/-- The locked path of a status or detach call, and of a supervisor that could not start. -/
def reconcileTerminal (role : Bool) : Script Meta := do
  let record ← readMeta
  if terminal record then reconcileCompletionDelivery record role else pure record

/-- Who may come to deliver: daemons, whatever the rest of their loops observes, and calls
that reconcile. -/
inductive CompletionEntry
  | daemon (turns : List LoopTurn) (guarding : List Bool) (record : Meta)
  | reconcile (role : Bool)

def CompletionEntry.program : CompletionEntry → HandleProgram
  | .daemon turns guarding record => (completionDaemon turns guarding record).program softwareExit
  | .reconcile role => (reconcileTerminal role).program softwareExit

def completionSystem : System (requests layout outside) HandleDisk :=
  system layout outside CompletionEntry.program

end AgentBash
