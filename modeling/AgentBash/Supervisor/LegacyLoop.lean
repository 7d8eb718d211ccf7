import AgentBash.Supervisor.EventLoop

/-!
# The event loop of a handle without a registration

The same loop as a script of the handle directory, so that it can run beside everybody else who
touches that directory. Without a registration no source event is retained, and nobody but the
loop decides when to settle: the root channel is closed from the start. What the descriptors and
the process table answer in a turn is data of that turn.
-/

namespace AgentBash

set_option autoImplicit false

open Durable

/-- What one reaping collects beside the running transfer, in its order. -/
inductive Reaped
  | completionTransfer
  | root (status : Nat)
  | other
  deriving DecidableEq, Repr

structure LegacyReaps where
  children : List Reaped
  ending : ReapEnd
  onlyChild : Bool := false
  deriving DecidableEq, Repr

/-- One ready descriptor with what its handler reads there and whether the log takes it. -/
inductive Readiness
  | stdout (read : Except IoError FdRead) (logged : Except IoError Unit)
  | stderr (read : Except IoError FdRead) (logged : Except IoError Unit)
  | execErr (read : Except IoError FdRead)
  | ownerPidfd
  | sigchld (cancelRequested : Bool) (reaps : LegacyReaps)
  | pidfd (reaps : LegacyReaps)
  | cgroup

def Readiness.key : Readiness → PollKey
  | .stdout _ _ => .stdout
  | .stderr _ _ => .stderr
  | .execErr _ => .execErr
  | .ownerPidfd => .ownerPidfd
  | .sigchld _ _ => .sigchld
  | .pidfd _ => .pidfd
  | .cgroup => .cgroup

structure LegacyTurn where
  ownerLive : Bool := true
  recoverImage : Except IoError Unit := .ok ()
  recoveryLogged : Except IoError Unit := .ok ()
  poll : Except IoError Unit := .ok ()
  ready : List Readiness := []

namespace LegacyLoop

section Cancellation

def explicitCancelObserved : Script Bool := do
  match ← explicitCancelAccepted.attempt with
  | .ok accepted => pure accepted
  | .error _ => pure false

def driveCancellation (loop : EventLoop) : Script EventLoop :=
  if loop.completionRecorded &&
      (loop.record.completionReason.bind CancellationCause.fromCompletionReason).isSome then
    pure loop
  else match loop.cancellation with
    | none => pure loop
    | some cause => do
        let observed ← explicitCancelObserved
        pure { loop with cancellation := some (cause.withObservedExplicitCancel observed) }

def requestCancellation (loop : EventLoop) (proposedCause : CancellationCause) :
    Script EventLoop := do
  let observed ← explicitCancelObserved
  let proposedCause := proposedCause.withObservedExplicitCancel observed
  driveCancellation
    { loop with
      cancellation := some (match loop.cancellation with
        | some cause => cause.withPrecedenceOver proposedCause
        | none => proposedCause) }

def checkExplicitCancel (loop : EventLoop) : Script EventLoop := do
  if ← explicitCancelObserved then requestCancellation loop .explicitRequest else pure loop

def checkPolledOwner (loop : EventLoop) (ownerLive : Bool) : Script EventLoop :=
  if loop.ownerPidfd || loop.cancellation.isSome then pure loop
  else if loop.record.cancelOwner.isSome && !ownerLive then requestCancellation loop .ownerExit
  else pure loop

def recordCaptureFailure (loop : EventLoop) (error : IoError) : Script EventLoop :=
  requestCancellation
    { loop with
      captureError := some
        ("output capture failed: " ++ error.detail ++ "; raw output incomplete and unconfirmed") }
    .outputCaptureFailure

/-- Nothing is written any more once the capture has failed. -/
def writeLog (loop : EventLoop) (logged : Except IoError Unit) : Script EventLoop :=
  if loop.captureError.isSome then pure loop
  else match logged with
    | .ok _ => pure loop
    | .error error => recordCaptureFailure loop error

def recoverImageService (loop : EventLoop) (turn : LegacyTurn) : Script EventLoop :=
  match turn.recoverImage with
  | .ok _ => pure loop
  | .error _ => writeLog loop turn.recoveryLogged

end Cancellation

section Publication

def publishTerminal (loop : EventLoop) (proposal : TerminalProposal) :
    Script (EventLoop × TerminalPublishResult) := do
  let published ← publishTerminalWithDeliveryDisposition loop.record true proposal
    (.liveLoop loop.treeEmpty) true
  pure ({ loop with record := published.1 }, published.2)

def integrateTerminalPublication :
    EventLoop × TerminalPublishResult → Script EventLoop
  | (loop, .published) => pure { loop with completionRecorded := true }
  | (loop, .deferredForAcceptedCancel) => requestCancellation loop .explicitRequest

/-- The three callers of the publisher differ in their proposals alone. -/
def settle (loop : EventLoop) (proposal : TerminalProposal) : Script EventLoop := do
  let published ← publishTerminal loop proposal
  integrateTerminalPublication published

def recordReadySentinel (loop : EventLoop) : Script EventLoop := do
  let now : Nat ← outsideAsk .unixMs
  settle loop (.readySentinel now)

def recordExitCompletion (loop : EventLoop) (rootStatus : RootStatus)
    (reason : ExitCompletionReason) : Script EventLoop :=
  settle loop (.exit rootStatus reason)

def recordSupervisorErrorInLoop (loop : EventLoop) (message : String) : Script EventLoop :=
  settle loop (.supervisorError message)

def maybeFinish (loop : EventLoop) : Script EventLoop :=
  match loop.finishDecision with
  | .none => pure loop
  | .spawnError message => recordSupervisorErrorInLoop loop (loop.captureError.getD message)
  | .exit rootStatus reason =>
      match loop.captureError with
      | some message => recordSupervisorErrorInLoop loop message
      | none => recordExitCompletion loop rootStatus reason

def noteDrained (loop : EventLoop) : Script Unit :=
  if loop.treeEmpty && loop.outputClosed then do
    if ← explicitCancelAccepted then recordCancellationDrained else pure ()
  else pure ()

end Publication

section Children

/-- A wait status as `waitpid` encodes it; a killed process has no exit code. -/
def waitStatus : Option Nat → Nat
  | some code => code * 256
  | none => 9

/-- The part of the loop that completion delivery and the root status use. -/
def custody (loop : EventLoop) : CompletionCustody where
  record := loop.record
  completionRecorded := loop.completionRecorded
  pendingSource := loop.pendingSource.isSome
  transfer := loop.completionTransfer
  reapedTransfer := loop.reapedCompletionTransfer.map EventLoop.exitCode
  deliverySettled := loop.completionDeliverySettled
  treePending := loop.completionTreePending
  treeEmpty := loop.treeEmpty
  rootStatus := loop.rootStatus
  rootStatusPending := loop.rootStatusPending

def withCustody (loop : EventLoop) (custody : CompletionCustody) : EventLoop :=
  { loop with
    record := custody.record
    completionTransfer := custody.transfer
    reapedCompletionTransfer := custody.reapedTransfer.map waitStatus
    completionDeliverySettled := custody.deliverySettled
    completionTreePending := custody.treePending
    treeEmpty := custody.treeEmpty
    rootStatus := custody.rootStatus
    rootStatusPending := custody.rootStatusPending }

def onCustody (loop : EventLoop) (step : CompletionCustody → Script CompletionCustody) :
    Script EventLoop := do
  let custody ← step (custody loop)
  pure (withCustody loop custody)

def collectChild (loop : EventLoop) : Reaped → Script EventLoop
  | .completionTransfer => onCustody loop CompletionCustody.reapCompletionTransfer
  | .root status =>
      onCustody { loop with rootPidfd := false } fun custody =>
        custody.recordRootStatus (some (EventLoop.statusToRootStatus status))
  | .other => pure loop

def collectChildren : List Reaped → EventLoop → Script EventLoop
  | [], loop => pure loop
  | child :: children, loop => do
      let loop ← collectChild loop child
      collectChildren children loop

/-- A transfer that runs is a child that is left. -/
def endReaping (loop : EventLoop) (reaps : LegacyReaps) : Script EventLoop :=
  match reaps.ending with
  | .alive => pure { loop with treeEmpty := reaps.onlyChild && loop.completionTransfer.isNone }
  | .noChild => pure { loop with treeEmpty := loop.completionTransfer.isNone }
  | .failed error => Io.throw error

def reapChildren (loop : EventLoop) (reaps : LegacyReaps) : Script EventLoop := do
  let loop ← collectChildren reaps.children loop
  endReaping loop reaps

def handleSigchld (loop : EventLoop) (cancelRequested : Bool) (reaps : LegacyReaps) :
    Script EventLoop :=
  if cancelRequested then do
    let loop ← checkExplicitCancel loop
    reapChildren loop reaps
  else reapChildren loop reaps

end Children

section Output

/-- The search of the appended bytes, which a recorded completion has ended. -/
def stdoutReachesSentinel (loop : EventLoop) (bytes : Bytes) : Bool × EventLoop :=
  match loop.sentinel with
  | none => (false, loop)
  | some matcher =>
      if loop.completionRecorded then (false, loop)
      else ((matcher.pushStdout bytes).1,
        { loop with sentinel := some (matcher.pushStdout bytes).2 })

def handleStdoutBytes (loop : EventLoop) (bytes : Bytes) (logged : Except IoError Unit) :
    Script EventLoop :=
  if loop.captureError.isSome then pure loop
  else match logged with
    | .error error => recordCaptureFailure loop error
    | .ok _ =>
        if (stdoutReachesSentinel loop bytes).1 then
          recordReadySentinel (stdoutReachesSentinel loop bytes).2
        else pure (stdoutReachesSentinel loop bytes).2

def readStdout (loop : EventLoop) (read : Except IoError FdRead) (logged : Except IoError Unit) :
    Script EventLoop :=
  if !loop.stdoutFd then pure loop
  else match read with
    | .error error => Io.throw error
    | .ok (.bytes chunk) => handleStdoutBytes loop chunk logged
    | .ok .closed => pure { loop with stdoutFd := false }
    | .ok .pending => pure loop

def readStderr (loop : EventLoop) (read : Except IoError FdRead) (logged : Except IoError Unit) :
    Script EventLoop :=
  if !loop.stderrFd then pure loop
  else match read with
    | .error error => Io.throw error
    | .ok (.bytes _) => writeLog loop logged
    | .ok .closed => pure { loop with stderrFd := false }
    | .ok .pending => pure loop

/-- `errnoText` is the text that the system has for an error number. -/
def readExecError (errnoText : Bytes → String) (loop : EventLoop) (read : Except IoError FdRead) :
    EventLoop :=
  if !loop.execErrFd then loop
  else match read with
    | .error error => { loop with spawnError := some error.detail, execErrFd := false }
    | .ok (.bytes chunk) =>
        { loop with
          spawnError := some (if chunk.length = 4 then errnoText chunk else "exec setup failed") }
    | .ok .closed => { loop with execErrFd := false }
    | .ok .pending => loop

end Output

section Turns

variable (errnoText : Bytes → String)

def dispatchReadiness (loop : EventLoop) : Readiness → Script EventLoop
  | .stdout read logged => readStdout loop read logged
  | .stderr read logged => readStderr loop read logged
  | .execErr read => pure (readExecError errnoText loop read)
  | .ownerPidfd => requestCancellation { loop with ownerPidfd := false } .ownerExit
  | .sigchld cancelRequested reaps => handleSigchld loop cancelRequested reaps
  | .pidfd reaps => reapChildren loop reaps
  | .cgroup => pure loop

def dispatchReady : List Readiness → EventLoop → Script EventLoop
  | [], loop => pure loop
  | ready :: rest, loop => do
      let loop ← dispatchReadiness errnoText loop ready
      dispatchReady rest loop

/-- What one turn does before it considers leaving. -/
def advance (turn : LegacyTurn) (loop : EventLoop) : Script EventLoop := do
  let loop ← checkExplicitCancel loop
  let loop ← checkPolledOwner loop turn.ownerLive
  let loop ← driveCancellation loop
  let loop ← recoverImageService loop turn
  let loop ← maybeFinish loop
  noteDrained loop
  onCustody loop CompletionCustody.completionTurn

/-- Only descriptors that were open when the poll began are ready. -/
def pollAndDispatch (turn : LegacyTurn) (loop : EventLoop) : Script EventLoop := do
  Io.ofExcept turn.poll
  dispatchReady errnoText
    (turn.ready.filter fun ready => loop.pollEntries.contains ready.key) loop

/-- The custody may still be locked, and then the turn is taken again without a poll. -/
def leave (loop : EventLoop) : Script Bool :=
  if loop.treeEmpty then do
    match ← endPhysicalCustody.attempt with
    | .ok _ => pure true
    | .error error => if error.kind = .wouldBlock then pure false else Io.throw error
  else pure true

def eventLoop : List LegacyTurn → EventLoop → Script Unit
  | [], _ => park
  | turn :: turns, loop => do
      let loop ← advance turn loop
      if loop.shouldExit then do
        if ← leave loop then pure () else eventLoop turns loop
      else do
        let loop ← pollAndDispatch errnoText turn loop
        eventLoop turns loop

end Turns

end LegacyLoop

end AgentBash
