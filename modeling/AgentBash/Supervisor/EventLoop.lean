import AgentBash.Durable.Sequential
import AgentBash.RootWork.Submission
import AgentBash.Supervisor.TerminalCancel
import Mathlib.Data.List.Infix

/-!
# The supervisor's event loop

`event_loop` of `supervisor.rs` with every function that it runs between two polls. What the
outside answers is a record of functions of a counter that each question advances, so that one
record stands for one order of answers. A script of the handle's directory is asked as a whole.
The loop notes what it does towards the root, newest first.
-/

namespace AgentBash

set_option autoImplicit false

open Durable RootWork

section Sentinel

def oneMib : Nat := 1024 * 1024

/-- `isMatch` is the compiled expression. -/
structure SentinelMatcher where
  isMatch : Bytes → Bool
  buffer : Bytes := []
  limit : Nat
  literalLen : Option Nat
  previousMatch : Bool := false

namespace SentinelMatcher

def wordByte (byte : UInt8) : Bool :=
  (48 ≤ byte && byte ≤ 57) || (65 ≤ byte && byte ≤ 90) || (97 ≤ byte && byte ≤ 122) || byte == 95

def new (isMatch : Bytes → Bool) (pattern : Bytes) : SentinelMatcher where
  isMatch
  limit := max oneMib (min (pattern.length * 4) (2 ^ 64 - 1))
  literalLen := if !pattern.isEmpty && pattern.all wordByte then some pattern.length else none

/-- After a negative literal search a new match must end in new bytes. -/
def searchStart (matcher : SentinelMatcher) (retainedOldLen : Nat) : Nat :=
  match matcher.literalLen, matcher.previousMatch with
  | some len, false => retainedOldLen - (len - 1)
  | _, _ => 0

def pushStdout (matcher : SentinelMatcher) (bytes : Bytes) : Bool × SentinelMatcher :=
  let appended := matcher.buffer ++ bytes
  let removed := appended.length - matcher.limit
  let buffer := appended.drop removed
  let start := matcher.searchStart (matcher.buffer.length - removed)
  let found := matcher.isMatch (buffer.drop start)
  (found, { matcher with buffer, previousMatch := found })

end SentinelMatcher

end Sentinel

section State

inductive SourceEventKind
  | ready | cancelled | exitRoot | exitTree | ceasedStatusUnknown
  deriving DecidableEq, Repr

structure Observation where
  kind : SourceEventKind
  rootWaitStatus : Option Int
  treeDrained : Bool
  outputClosed : Bool
  readySentinel : Option String
  outputTrusted : Bool
  deriving DecidableEq, Repr

/-- The original finalized event, apart from the mutable status. -/
structure PendingSource where
  record : Meta
  kind : SourceEventKind
  rootWaitStatus : Option Int
  treeDrained : Bool
  outputClosed : Bool
  deriving DecidableEq

/-- A descriptor is kept as whether it is open. -/
structure EventLoop where
  record : Meta
  rootPid : Nat
  rootPidfd : Bool
  ownerPidfd : Bool
  cgroup : Bool
  completionScope : CompletionScope
  stdoutFd : Bool := true
  stderrFd : Bool := true
  execErrFd : Bool := true
  rootStatus : Option RootStatus := none
  treeEmpty : Bool := false
  completionRecorded : Bool := false
  pendingSource : Option PendingSource := none
  completionTransfer : Option CompletionTransfer := none
  reapedCompletionTransfer : Option Nat := none
  completionDeliverySettled : Bool := false
  completionTreePending : Bool := false
  rootStatusPending : Bool := false
  sentinel : Option SentinelMatcher
  spawnError : Option String := none
  cancellation : Option CancellationCause := none
  rootControlFd : Bool
  rootLocalReadySent : Bool := false
  rootSettlementGranted : Bool := !rootControlFd
  rootTerminalSent : Bool := false
  deferredReadyAt : Option Nat := none
  captureError : Option String := none

/-- The loop's four occasions for a terminal publication. -/
inductive Occasion
  | deferredReady | directReady | exit | supervisorError
  deriving DecidableEq, Repr

/-- What the loop does towards the root, and what it learns from it. -/
inductive LoopEvent
  | sentinelMatch (time : Nat)
  | settlementRead | controlLost | readySent | terminalSent
  | publication (occasion : Occasion) (proposal : TerminalProposal)
  | completionRecorded
  deriving DecidableEq, Repr

structure LoopWorld where
  loop : EventLoop
  events : List LoopEvent := []
  tick : Nat := 0

end State

section Environment

inductive FdRead
  | bytes (chunk : Bytes)
  | closed | pending
  deriving DecidableEq, Repr

/-- The batches that one call of `read_root_control` reads, and what ends them. -/
inductive ControlEnd
  | closed | wouldBlock
  | failed (error : IoError)
  deriving DecidableEq, Repr

structure ControlReads where
  batches : List Bytes
  ending : ControlEnd
  deriving DecidableEq, Repr

/-- The children that one call of `reap_children` collects, and what ends it. -/
inductive ReapEnd
  | alive | noChild
  | failed (error : IoError)
  deriving DecidableEq, Repr

structure Reaps where
  children : List (Nat × Nat)
  ending : ReapEnd
  deriving DecidableEq, Repr

inductive PollKey
  | stdout | stderr | execErr | sigchld | pidfd | ownerPidfd | cgroup | rootControl
  deriving DecidableEq, Repr

structure LoopEnvironment where
  perform : {α : Type} → Nat → Script α → Except IoError α
  unixMs : Nat → Nat
  processIdentityIsLive : Nat → Nat → Bool
  recoverImage : Nat → Except IoError Unit
  onlyChild : Nat → Bool
  writeLog : Nat → Except IoError Unit
  retryDue : Nat → Bool
  poll : Nat → Except IoError (PollKey → Bool)
  cancelRequested : Nat → Bool
  readFd : Nat → Except IoError FdRead
  errnoText : Bytes → String
  reap : Nat → Reaps
  writeControlByte : Nat → Except IoError Unit
  readControl : Nat → ControlReads
  selectObservedEvent : Nat → Meta → Observation → Except IoError Unit
  retainEvent : Nat → Meta → Observation → Except IoError Unit
  advancePublication : Nat → Meta → Observation → Except IoError Bool
  outputUnavailable : Nat → Except IoError Bool
  notificationOwned : Nat → Except IoError Bool
  recordMissingOutput : Nat → Except IoError Unit

abbrev Loop (α : Type) : Type := Sequential LoopWorld α

def askLoop {α : Type} (answer : Nat → α) : Loop α := fun world =>
  (.ok (answer world.tick), { world with tick := world.tick + 1 })

def tryLoop {α : Type} (answer : Nat → Except IoError α) : Loop α := fun world =>
  (answer world.tick, { world with tick := world.tick + 1 })

def getLoop : Loop EventLoop := fun world => (.ok world.loop, world)

def setLoop (change : EventLoop → EventLoop) : Loop Unit :=
  Sequential.modify fun world => { world with loop := change world.loop }

def note (event : LoopEvent) : Loop Unit :=
  Sequential.modify fun world => { world with events := event :: world.events }

def perform (env : LoopEnvironment) {α : Type} (script : Script α) : Loop α :=
  tryLoop fun tick => env.perform tick script

/-- A body under a lock of the handle that is given up however the body ends. -/
def underLock (env : LoopEnvironment) {α : Type} (name : Lock) (body : Loop α) : Loop α := do
  let result ← body.attempt
  let _ ← (perform env (unlock name)).attempt
  Sequential.ofExcept result

end Environment

namespace EventLoop

variable (env : LoopEnvironment)

section Cancellation

def explicitCancelObserved : Loop Bool := do
  match ← (perform env explicitCancelAccepted).attempt with
  | .ok accepted => pure accepted
  | .error _ => pure false

/-- The signal itself goes to the workload's tree and comes back only as a reaped child. -/
def driveCancellation : Loop Unit := do
  let loop ← getLoop
  if loop.completionRecorded &&
      (loop.record.completionReason.bind CancellationCause.fromCompletionReason).isSome then
    pure ()
  else match loop.cancellation with
    | none => pure ()
    | some cause => do
        let observed ← explicitCancelObserved env
        setLoop fun loop =>
          { loop with cancellation := some (cause.withObservedExplicitCancel observed) }

def requestCancellation (proposedCause : CancellationCause) : Loop Unit := do
  let observed ← explicitCancelObserved env
  let proposedCause := proposedCause.withObservedExplicitCancel observed
  setLoop fun loop =>
    { loop with
      cancellation := some (match loop.cancellation with
        | some cause => cause.withPrecedenceOver proposedCause
        | none => proposedCause) }
  driveCancellation env

def checkExplicitCancel : Loop Unit := do
  if ← explicitCancelObserved env then requestCancellation env .explicitRequest else pure ()

def checkPolledOwner : Loop Unit := do
  let loop ← getLoop
  if loop.rootControlFd || loop.ownerPidfd || loop.cancellation.isSome then pure ()
  else match loop.record.cancelOwner with
    | none => pure ()
    | some owner => do
        if ← askLoop fun tick => env.processIdentityIsLive tick owner then pure ()
        else requestCancellation env .ownerExit

def recordCaptureFailure (error : IoError) : Loop Unit := do
  setLoop fun loop =>
    { loop with
      captureError := some
        ("output capture failed: " ++ error.detail ++ "; raw output incomplete and unconfirmed") }
  requestCancellation env .outputCaptureFailure

def writeLogOrFail : Loop Bool := do
  match ← (tryLoop env.writeLog).attempt with
  | .ok _ => pure true
  | .error error => do
      recordCaptureFailure env error
      pure false

def recoverImageService : Loop Unit := do
  match ← (tryLoop env.recoverImage).attempt with
  | .ok _ => pure ()
  | .error _ => do
      let loop ← getLoop
      if loop.captureError.isSome then pure ()
      else do
        let _ ← writeLogOrFail env
        pure ()

end Cancellation

section RootControl

def retryRootTerminal : Loop Unit := do
  let loop ← getLoop
  if !loop.completionRecorded || loop.rootTerminalSent then pure ()
  else if !loop.rootControlFd then pure ()
  else match ← (tryLoop env.writeControlByte).attempt with
    | .ok _ => do
        setLoop fun loop => { loop with rootTerminalSent := true }
        note .terminalSent
    | .error error =>
        if error.kind = .wouldBlock then pure ()
        else do
          setLoop fun loop => { loop with rootControlFd := false, rootSettlementGranted := true }
          note .controlLost

def announceRootLocalReady : Loop Unit := do
  let loop ← getLoop
  if loop.rootLocalReadySent then pure ()
  else if !loop.rootControlFd then
    setLoop fun loop => { loop with rootSettlementGranted := true }
  else match ← (tryLoop env.writeControlByte).attempt with
    | .ok _ => do
        setLoop fun loop => { loop with rootLocalReadySent := true }
        note .readySent
    | .error error =>
        if error.kind = .wouldBlock then pure ()
        else do
          setLoop fun loop => { loop with rootControlFd := false, rootSettlementGranted := true }
          note .controlLost
          requestCancellation env .rootAuthorityLost

def readControlByte (byte : UInt8) : Loop Unit :=
  if byte = 83 then do
    setLoop fun loop => { loop with rootSettlementGranted := true }
    note .settlementRead
  else if byte = 67 then requestCancellation env .explicitRequest
  else if byte = 79 then requestCancellation env .ownerExit
  else if byte = 75 then requestCancellation env .causalParent
  else if byte = 70 then requestCancellation env .rootAuthorityLost
  else Sequential.throw (.other "invalid root control phase")

def readControlBytes : Bytes → Loop Unit
  | [] => pure ()
  | byte :: bytes => do
      readControlByte env byte
      readControlBytes bytes

def endRootControl : ControlEnd → Loop Unit
  | .closed => do
      setLoop fun loop => { loop with rootControlFd := false, rootSettlementGranted := true }
      note .controlLost
      requestCancellation env .rootAuthorityLost
  | .wouldBlock => pure ()
  | .failed error => Sequential.throw error

def readRootControl : Loop Unit := do
  let loop ← getLoop
  if !loop.rootControlFd then pure ()
  else do
    let reads ← askLoop env.readControl
    readControlBytes env reads.batches.flatten
    endRootControl env reads.ending

end RootControl

section SourceEvent

def PendingSource.observation (pending : PendingSource) (loop : EventLoop) : Observation where
  kind := pending.kind
  rootWaitStatus := pending.rootWaitStatus
  treeDrained := pending.treeDrained
  outputClosed := pending.outputClosed
  readySentinel := if pending.kind = .ready then pending.record.readySentinel else none
  outputTrusted := loop.captureError.isNone

/-- Unknown is not physical discharge. -/
def markCompletionDeliverySettled : Loop Unit :=
  setLoop fun loop =>
    { loop with
      completionTreePending :=
        loop.record.delivery.completionLifecycle == .nonReplayableUnknownTransfer
      completionDeliverySettled := true }

def selectInitialSourceEvent : Loop Unit := do
  let loop ← getLoop
  match loop.pendingSource with
  | none => pure ()
  | some pending => do
      perform env (lock .completion)
      underLock env .completion
        (tryLoop fun tick =>
          env.selectObservedEvent tick pending.record (PendingSource.observation pending loop))

def advanceSource (pending : PendingSource) (loop : EventLoop) : Loop Bool := do
  if ← perform env (tryLock .completion) then
    underLock env .completion do
      tryLoop fun tick => env.retainEvent tick pending.record (PendingSource.observation pending loop)
      tryLoop fun tick =>
        env.advancePublication tick pending.record (PendingSource.observation pending loop)
  else pure false

def truthful (answer : Nat → Except IoError Bool) : Loop Bool := do
  match ← (tryLoop answer).attempt with
  | .ok value => pure value
  | .error _ => pure false

/-- Whether a failed publication may give its output up. -/
def retireSource : Loop Bool := do
  if ← truthful env.outputUnavailable then
    if ← truthful env.notificationOwned then
      match ← (tryLoop env.recordMissingOutput).attempt with
      | .ok _ => pure true
      | .error _ => pure false
    else pure false
  else pure false

def retrySourcePublication : Loop Unit := do
  let loop ← getLoop
  match loop.pendingSource with
  | none => pure ()
  | some pending => do
      if ← askLoop env.retryDue then
        match ← (advanceSource env pending loop).attempt with
        | .ok true => setLoop fun loop => { loop with pendingSource := none }
        | .ok false => pure ()
        | .error _ => do
            if ← retireSource env then do
              setLoop fun loop => { loop with pendingSource := none }
              markCompletionDeliverySettled
            else pure ()
      else pure ()

/-- A published event becomes pending where the handle has a registration. -/
def retainSource (kind : SourceEventKind) (rootWaitStatus : Option Int)
    (treeDrained outputClosed : Bool) : Loop Unit := do
  let enabled ← perform env continuationEnabled
  setLoop fun loop =>
    { loop with
      pendingSource :=
        if enabled then some ⟨loop.record, kind, rootWaitStatus, treeDrained, outputClosed⟩
        else none }
  selectInitialSourceEvent env
  retrySourcePublication env

end SourceEvent

section Publication

def outputClosed (loop : EventLoop) : Bool := !loop.stdoutFd && !loop.stderrFd && !loop.execErrFd

def publishTerminal (occasion : Occasion) (proposal : TerminalProposal) :
    Loop TerminalPublishResult := do
  note (.publication occasion proposal)
  let loop ← getLoop
  let published ← perform env
    (publishTerminalWithDeliveryDisposition loop.record true proposal (.liveLoop loop.treeEmpty) true)
  setLoop fun loop => { loop with record := published.1 }
  pure published.2

def integrateTerminalPublication : TerminalPublishResult → Loop Unit
  | .published => do
      setLoop fun loop => { loop with completionRecorded := true }
      note .completionRecorded
      retryRootTerminal env
  | .deferredForAcceptedCancel => requestCancellation env .explicitRequest

def publishReadySentinel (occasion : Occasion) (time : Nat) : Loop Unit := do
  let result ← publishTerminal env occasion (.readySentinel time)
  let loop ← getLoop
  if result = .published && loop.record.completionReason = some .readySentinel then do
    retainSource env .ready none false false
    integrateTerminalPublication env result
  else integrateTerminalPublication env result

/-- The first match before the settlement keeps its time. -/
def deferReady : Loop Unit := do
  let loop ← getLoop
  if loop.deferredReadyAt.isSome then pure ()
  else do
    let now ← askLoop env.unixMs
    setLoop fun loop => { loop with deferredReadyAt := some now }

def recordReadySentinel : Loop Unit := do
  let loop ← getLoop
  if !loop.rootSettlementGranted then do
    deferReady env
    announceRootLocalReady env
  else do
    let now ← askLoop env.unixMs
    publishReadySentinel env .directReady now

def retryDeferredReady : Loop Unit := do
  let loop ← getLoop
  match loop.deferredReadyAt with
  | none => pure ()
  | some time =>
      if !loop.rootSettlementGranted then pure ()
      else do
        setLoop fun loop => { loop with deferredReadyAt := none }
        publishReadySentinel env .deferredReady time

def exitSourceKind (loop : EventLoop) : SourceEventKind :=
  if (loop.record.completionReason.bind CancellationCause.fromCompletionReason).isSome then
    .cancelled
  else if loop.completionScope = .root then .exitRoot else .exitTree

def recordExitCompletion (rootStatus : RootStatus) (reason : ExitCompletionReason) :
    Loop Unit := do
  let result ← publishTerminal env .exit (.exit rootStatus reason)
  let loop ← getLoop
  if result = .published then do
    retainSource env loop.exitSourceKind (some rootStatus.raw) loop.treeEmpty loop.outputClosed
    integrateTerminalPublication env result
  else integrateTerminalPublication env result

def recordSupervisorErrorInLoop (message : String) : Loop Unit := do
  let result ← publishTerminal env .supervisorError (.supervisorError message)
  let loop ← getLoop
  if result = .published && loop.treeEmpty && loop.outputClosed then do
    retainSource env .ceasedStatusUnknown none true true
    integrateTerminalPublication env result
  else integrateTerminalPublication env result

end Publication

section Finish

inductive FinishDecision
  | none
  | spawnError (message : String)
  | exit (rootStatus : RootStatus) (reason : ExitCompletionReason)
  deriving DecidableEq, Repr

def spawnErrorComplete (loop : EventLoop) : Bool :=
  loop.spawnError.isSome && loop.rootStatus.isSome && loop.treeEmpty && loop.outputClosed

def scopeComplete (loop : EventLoop) : Bool := loop.completionScope = .root || loop.treeEmpty

def exitCompletionReady (loop : EventLoop) : Bool :=
  if loop.cancellation.isSome then loop.treeEmpty && loop.outputClosed
  else loop.scopeComplete && loop.outputClosed

def exitCompletionReason (loop : EventLoop) : ExitCompletionReason :=
  match loop.cancellation with
  | some cause => .cancellation cause
  | none => if loop.sentinel.isSome then .exitBeforeReady else .exit

def finishDecision (loop : EventLoop) : FinishDecision :=
  if loop.completionRecorded then .none
  else if loop.spawnErrorComplete then
    .spawnError ("workload spawn failed: " ++ loop.spawnError.getD "")
  else match loop.rootStatus with
    | none => .none
    | some rootStatus =>
        if !loop.exitCompletionReady then .none else .exit rootStatus loop.exitCompletionReason

def maybeFinish : Loop Unit := do
  let loop ← getLoop
  if loop.finishDecision ≠ .none && !loop.rootSettlementGranted then announceRootLocalReady env
  else match loop.finishDecision with
    | .none => pure ()
    | .spawnError message => recordSupervisorErrorInLoop env (loop.captureError.getD message)
    | .exit rootStatus reason =>
        match loop.captureError with
        | some message => recordSupervisorErrorInLoop env message
        | none => recordExitCompletion env rootStatus reason

end Finish

section Children

/-- `WIFEXITED`, `WEXITSTATUS`, `WIFSIGNALED` and `WTERMSIG` of a wait status. -/
def exitCode (status : Nat) : Option Nat :=
  if status % 128 = 0 then some (status / 256 % 256) else none

def statusToRootStatus (status : Nat) : RootStatus :=
  if status % 128 = 0 then ⟨status, (status / 256 % 256 : Nat), none⟩
  else if status % 128 ≠ 127 then
    ⟨status, signalToShellRc (status % 128 : Nat), some (status % 128 : Nat)⟩
  else ⟨status, exSoftware, none⟩

/-- Merges the observed root status into the persisted record, never over a transfer. -/
def flushRootStatus : Loop Unit := do
  let loop ← getLoop
  match loop.rootStatus with
  | none => pure ()
  | some status =>
      if !loop.rootStatusPending || loop.completionTransfer.isSome then pure ()
      else do
        if ← perform env (tryLock .delivery) then do
          let persisted ← underLock env .delivery (perform env (do
            let persisted ← readMeta
            let merged := CompletionCustody.applyRootStatusMetadata persisted status
            writeMetaAtomic merged
            pure merged : Script Meta))
          setLoop fun loop => { loop with record := persisted, rootStatusPending := false }
        else pure ()

def recordRootStatus (status : Nat) : Loop Unit := do
  setLoop fun loop =>
    { loop with
      rootStatus := some (statusToRootStatus status)
      rootStatusPending := true
      rootPidfd := false }
  flushRootStatus env

/-- A failed integration is retried on a later turn, with the lock still held. -/
def retryCompletionIntegration : Loop Unit := do
  let loop ← getLoop
  match loop.reapedCompletionTransfer, loop.completionTransfer with
  | some status, some transfer => do
      match ← (perform env (transfer.finish (exitCode status))).attempt with
      | .error _ => pure ()
      | .ok record => do
          let _ ← (perform env (unlock .delivery)).attempt
          setLoop fun loop =>
            { loop with record, reapedCompletionTransfer := none, completionTransfer := none }
          markCompletionDeliverySettled
  | _, _ => pure ()

def integrateCompletionTransfer (pid status : Nat) : Loop Unit := do
  let loop ← getLoop
  if loop.completionTransfer.map CompletionTransfer.pid ≠ some pid then pure ()
  else do
    setLoop fun loop => { loop with reapedCompletionTransfer := some status }
    retryCompletionIntegration env

def driveCompletionDelivery : Loop Unit := do
  let loop ← getLoop
  if !loop.completionRecorded || loop.pendingSource.isSome || loop.completionDeliverySettled ||
      loop.completionTransfer.isSome then
    pure ()
  else do
    let started ← perform env (tryStartCompletionDelivery loop.record true)
    setLoop fun loop => { loop with record := started.1 }
    match started.2 with
    | .busy => pure ()
    | .settled => markCompletionDeliverySettled
    | .running transfer =>
        setLoop fun loop => { loop with completionTransfer := some transfer, treeEmpty := false }

def collectChild (pid status : Nat) : Loop Unit := do
  integrateCompletionTransfer env pid status
  let loop ← getLoop
  if pid = loop.rootPid then recordRootStatus env status else pure ()

def collectChildren : List (Nat × Nat) → Loop Unit
  | [] => pure ()
  | (pid, status) :: children => do
      collectChild env pid status
      collectChildren children

def endReaping : ReapEnd → Loop Unit
  | .alive => do
      let only ← askLoop env.onlyChild
      setLoop fun loop => { loop with treeEmpty := only }
  | .noChild => setLoop fun loop => { loop with treeEmpty := true }
  | .failed error => Sequential.throw error

def reapChildren : Loop Unit := do
  let reaps ← askLoop env.reap
  collectChildren env reaps.children
  endReaping env reaps.ending

def handleSigchld : Loop Unit := do
  if ← askLoop env.cancelRequested then do
    checkExplicitCancel env
    reapChildren env
  else reapChildren env

end Children

section Output

/-- A completion that was recorded ends the search. -/
def stdoutReachesSentinel (bytes : Bytes) : Loop Bool := do
  let loop ← getLoop
  match loop.sentinel with
  | none => pure false
  | some matcher =>
      if loop.completionRecorded then pure false
      else do
        setLoop fun loop => { loop with sentinel := some (matcher.pushStdout bytes).2 }
        pure (matcher.pushStdout bytes).1

def handleStdoutBytes (bytes : Bytes) : Loop Unit := do
  let loop ← getLoop
  if loop.captureError.isSome then pure ()
  else do
    if ← writeLogOrFail env then
      if ← stdoutReachesSentinel bytes then do
        Sequential.modify fun world =>
          { world with events := .sentinelMatch (env.unixMs world.tick) :: world.events }
        recordReadySentinel env
      else pure ()
    else pure ()

def readStdout : Loop Unit := do
  let loop ← getLoop
  if !loop.stdoutFd then pure ()
  else match ← tryLoop env.readFd with
    | .bytes chunk => handleStdoutBytes env chunk
    | .closed => setLoop fun loop => { loop with stdoutFd := false }
    | .pending => pure ()

def writeStderr : Loop Unit := do
  let loop ← getLoop
  if loop.captureError.isSome then pure ()
  else do
    let _ ← writeLogOrFail env
    pure ()

def readStderr : Loop Unit := do
  let loop ← getLoop
  if !loop.stderrFd then pure ()
  else match ← tryLoop env.readFd with
    | .bytes _ => writeStderr env
    | .closed => setLoop fun loop => { loop with stderrFd := false }
    | .pending => pure ()

def execErrorMessage (bytes : Bytes) : String :=
  if bytes.length = 4 then env.errnoText bytes else "exec setup failed"

def readExecError : Loop Unit := do
  let loop ← getLoop
  if !loop.execErrFd then pure ()
  else match ← (tryLoop env.readFd).attempt with
    | .ok (.bytes chunk) =>
        setLoop fun loop => { loop with spawnError := some (execErrorMessage env chunk) }
    | .ok .closed => setLoop fun loop => { loop with execErrFd := false }
    | .ok .pending => pure ()
    | .error error =>
        setLoop fun loop => { loop with spawnError := some error.detail, execErrFd := false }

end Output

section Turns

/-- Standard output is always read first and the control channel last. -/
def pollEntries (loop : EventLoop) : List PollKey :=
  (if loop.stdoutFd then [.stdout] else []) ++ (if loop.stderrFd then [.stderr] else []) ++
    (if loop.execErrFd then [.execErr] else []) ++ (if loop.ownerPidfd then [.ownerPidfd] else []) ++
    [.sigchld] ++ (if loop.rootPidfd then [.pidfd] else []) ++
    (if loop.cgroup then [.cgroup] else []) ++ (if loop.rootControlFd then [.rootControl] else [])

def dispatchPollKey : PollKey → Loop Unit
  | .stdout => readStdout env
  | .stderr => readStderr env
  | .execErr => readExecError env
  | .sigchld => handleSigchld env
  | .pidfd => reapChildren env
  | .ownerPidfd => do
      setLoop fun loop => { loop with ownerPidfd := false }
      requestCancellation env .ownerExit
  | .cgroup => pure ()
  | .rootControl => readRootControl env

def dispatchReady : List PollKey → Loop Unit
  | [] => pure ()
  | key :: keys => do
      dispatchPollKey env key
      dispatchReady keys

def shouldExit (loop : EventLoop) : Bool :=
  loop.completionRecorded && loop.pendingSource.isNone && loop.completionDeliverySettled &&
    (!loop.completionTreePending || loop.treeEmpty) && !loop.rootStatusPending &&
    loop.rootStatus.isSome && loop.scopeComplete && (!loop.rootControlFd || loop.treeEmpty) &&
    (!loop.rootControlFd || loop.rootTerminalSent) && loop.outputClosed

/-- Actual reaping and closure evidence is independent of publication. -/
def noteDrained : Loop Unit := do
  let loop ← getLoop
  if loop.treeEmpty && loop.outputClosed then do
    if ← perform env explicitCancelAccepted then perform env recordCancellationDrained
    else pure ()
  else pure ()

/-- What one turn does before it considers leaving. -/
def advance : Loop Unit := do
  checkExplicitCancel env
  checkPolledOwner env
  driveCancellation env
  recoverImageService env
  retryRootTerminal env
  retryDeferredReady env
  maybeFinish env
  noteDrained env
  retrySourcePublication env
  retryCompletionIntegration env
  driveCompletionDelivery env
  flushRootStatus env

def pollAndDispatch : Loop Unit := do
  let loop ← getLoop
  let ready ← tryLoop env.poll
  dispatchReady env (loop.pollEntries.filter ready)

/-- The custody may still be locked, and then the turn is taken again without a poll. -/
def leave : Loop Bool := do
  let loop ← getLoop
  if loop.treeEmpty then
    match ← (perform env endPhysicalCustody).attempt with
    | .ok _ => pure true
    | .error error => if error.kind = .wouldBlock then pure false else Sequential.throw error
  else pure true

/-- One turn; the result is whether the loop is over. -/
def turn : Loop Bool := do
  advance env
  let loop ← getLoop
  if loop.shouldExit then leave env
  else do
    pollAndDispatch env
    pure false

/-- The first turns of the loop. -/
def eventLoop : Nat → Loop Unit
  | 0 => pure ()
  | turns + 1 => do
      if ← turn env then pure () else eventLoop turns

end Turns

/-- `EventLoopSeed` with what `event_loop_state` reads of it. -/
structure EventLoopSeed where
  record : Meta
  rootPid : Nat
  rootPidfd : Bool
  ownerPidfd : Bool
  cgroup : Bool
  completionScope : CompletionScope
  sentinel : Option SentinelMatcher
  rootControlFd : Bool

def eventLoopState (seed : EventLoopSeed) : EventLoop where
  record := seed.record
  rootPid := seed.rootPid
  rootPidfd := seed.rootPidfd
  ownerPidfd := seed.ownerPidfd
  cgroup := seed.cgroup
  completionScope := seed.completionScope
  sentinel := seed.sentinel
  rootControlFd := seed.rootControlFd

end EventLoop

end AgentBash
