import AgentBash.Supervisor.CompletionCustody

/-!
# Terminal publication

Every terminal record of a handle goes through one publisher. It holds the completion lock,
rereads the record, resolves the proposal against the durable cancellation marker and writes
the status file before the record.
-/

namespace AgentBash

set_option autoImplicit false

open Durable

def exSoftware : Int := 70

def signalToShellRc (signal : Int) : Int := 128 + signal

def sigterm : Int := 15

inductive CancellationCause
  | ownerExit | explicitRequest | causalParent | rootAuthorityLost | outputCaptureFailure
  deriving DecidableEq, Repr

namespace CancellationCause

/-- Transport loss is a fallback only; an explicit request is never relabelled. -/
def rank : CancellationCause → Nat
  | .rootAuthorityLost => 0
  | .ownerExit => 1
  | .causalParent => 2
  | .outputCaptureFailure => 3
  | .explicitRequest => 4

def withPrecedenceOver (self other : CancellationCause) : CancellationCause :=
  if other.rank ≤ self.rank then self else other

def withObservedExplicitCancel (self : CancellationCause) (explicitCancelAccepted : Bool) :
    CancellationCause :=
  if explicitCancelAccepted then self.withPrecedenceOver .explicitRequest else self

def completionReason : CancellationCause → CompletionReason
  | .explicitRequest => .cancelRequest
  | .ownerExit => .ownerExit
  | .causalParent => .causalParentCancelled
  | .rootAuthorityLost => .rootAuthorityLost
  | .outputCaptureFailure => .outputCaptureFailed

def fromCompletionReason : CompletionReason → Option CancellationCause
  | .cancelRequest => some .explicitRequest
  | .ownerExit => some .ownerExit
  | .causalParentCancelled => some .causalParent
  | .rootAuthorityLost => some .rootAuthorityLost
  | .outputCaptureFailed => some .outputCaptureFailure
  | _ => none

end CancellationCause

inductive ExitCompletionReason
  | exit | exitBeforeReady
  | cancellation (cause : CancellationCause)
  deriving DecidableEq, Repr

structure TerminalStatus where
  rc : Int
  signal : Option Int
  deriving DecidableEq, Repr

def cancellationTerminalStatus : TerminalStatus := ⟨signalToShellRc sigterm, some sigterm⟩

namespace ExitCompletionReason

def completionReason : ExitCompletionReason → CompletionReason
  | .exit => .exit
  | .exitBeforeReady => .exitBeforeReady
  | .cancellation cause => cause.completionReason

def terminalStatus : ExitCompletionReason → RootStatus → TerminalStatus
  | .cancellation _, _ => cancellationTerminalStatus
  | _, status => ⟨status.rc, status.signal⟩

end ExitCompletionReason

section Metadata

/-- `unix_ms` is read once for the event and once for the update time. -/
structure Stamp where
  now : Nat
  touched : Nat
  deriving DecidableEq, Repr

def applyReadySentinelMetadata (record : Meta) (now : Nat) (stamp : Stamp) : Meta :=
  { record with
    state := .done
    completionReason := some .readySentinel
    rc := some 0
    signal := none
    readyAt := some now
    completedAt := some now
    updatedAt := stamp.touched }

def applyTerminalMetadata (record : Meta) (status : TerminalStatus) (reason : CompletionReason)
    (stamp : Stamp) : Meta :=
  { record with
    state := .done
    completionReason := some reason
    rc := some status.rc
    signal := status.signal
    completedAt := some stamp.now
    updatedAt := stamp.touched }

def applyCancellationMetadata (record : Meta) (cause : CancellationCause) (stamp : Stamp) : Meta :=
  { applyTerminalMetadata record cancellationTerminalStatus cause.completionReason stamp with
    error := none }

def applySupervisorErrorMetadata (record : Meta) (message : String) (stamp : Stamp) : Meta :=
  { record with
    state := .error
    completionReason := some .supervisorError
    rc := some exSoftware
    error := some message
    completedAt := some stamp.now
    updatedAt := stamp.touched }

def applyLostSupervisorMetadata (record : Meta) (stamp : Stamp) : Meta :=
  { record with
    state := .error
    completionReason := some .supervisorLost
    rc := some exSoftware
    signal := none
    completedAt := some stamp.now
    error := some "supervisor and workload process identities are gone"
    updatedAt := stamp.touched }

end Metadata

inductive TerminalProposal
  | readySentinel (now : Nat)
  | exit (rootStatus : RootStatus) (reason : ExitCompletionReason)
  | cancellation (cause : CancellationCause)
  | supervisorError (message : String)
  | supervisorLost
  deriving DecidableEq, Repr

namespace TerminalProposal

def isCancellation : TerminalProposal → Bool
  | .exit _ (.cancellation _) | .cancellation _ => true
  | _ => false

def apply (record : Meta) (stamp : Stamp) : TerminalProposal → Meta
  | .readySentinel now => applyReadySentinelMetadata record now stamp
  | .exit status reason =>
      applyTerminalMetadata record (reason.terminalStatus status) reason.completionReason stamp
  | .cancellation cause => applyCancellationMetadata record cause stamp
  | .supervisorError message => applySupervisorErrorMetadata record message stamp
  | .supervisorLost => applyLostSupervisorMetadata record stamp

theorem apply_terminal (record : Meta) (stamp : Stamp) (proposal : TerminalProposal) :
    terminal (proposal.apply record stamp) = true := by
  cases proposal <;> rfl

end TerminalProposal

/-- `none` where an accepted cancellation defers the proposal. -/
def finalizeTerminalProposal (proposal : TerminalProposal) (explicitCancelAccepted : Bool) :
    Option TerminalProposal :=
  if !explicitCancelAccepted then some proposal
  else match proposal with
    | .readySentinel _ => none
    | _ => some (.cancellation .explicitRequest)

inductive TerminalPublishResult
  | published | deferredForAcceptedCancel
  deriving DecidableEq, Repr

inductive CompletionDeliveryDisposition
  | claimPending | leavePending
  | liveLoop (treeEmpty : Bool)
  deriving DecidableEq, Repr

section Publication

def explicitCancelAccepted : Script Bool := durableMarkerExists .acceptedCancel

def readStamp : Script Stamp := do
  let now ← outsideAsk .unixMs
  let touched ← outsideAsk .unixMs
  pure ⟨now, touched⟩

/-- A terminal projection is not original v2 evidence until a bundle was published. -/
def alreadyPublished (current : Meta) : Script Bool :=
  if terminal current then do
    if ← continuationEnabled then tryExists .sourceBundle else pure true
  else pure false

def drainBeforePublication (acceptedCancel : Bool) (disposition : CompletionDeliveryDisposition)
    (proposal : TerminalProposal) : Script Unit :=
  if disposition = .liveLoop true && (acceptedCancel || proposal.isCancellation) then
    recordCancellationDrained
  else pure ()

def syncOptionalLog (log : Bool) : Script Unit :=
  if log then outsideAsk (.system .syncLog) else pure ()

def writeTerminal (record : Meta) (proposal : TerminalProposal) : Script Meta := do
  let stamp ← readStamp
  let published := proposal.apply record stamp
  writeRcAtomic (published.rc.getD exSoftware)
  writeMetaAtomic published
  pure published

/-- The part under the completion lock. The second component says whether this call or an
earlier one published, and whether delivery may follow. -/
def publishTerminalLocked (record : Meta) (log : Bool) (proposal : TerminalProposal)
    (disposition : CompletionDeliveryDisposition) : Script (Meta × TerminalPublishResult) := do
  let current ← readMeta
  if ← alreadyPublished current then pure (current, .published)
  else do
    let record := { record with delivery := current.delivery }
    let acceptedCancel ← explicitCancelAccepted
    if acceptedCancel && disposition = .liveLoop false then
      pure (record, .deferredForAcceptedCancel)
    else match finalizeTerminalProposal proposal acceptedCancel with
      | none => pure (record, .deferredForAcceptedCancel)
      | some proposal => do
          drainBeforePublication acceptedCancel disposition proposal
          syncOptionalLog log
          let published ← writeTerminal record proposal
          pure (published, .published)

def deliverAfterPublication (published : Meta × TerminalPublishResult)
    (disposition : CompletionDeliveryDisposition) (role : Bool) :
    Script (Meta × TerminalPublishResult) :=
  if published.2 = .published && disposition = .claimPending then do
    let record ← reconcileCompletionDelivery published.1 role
    pure (record, .published)
  else pure published

/-- `role` is whether the publishing process has a role slot to hand a custodian to. -/
def publishTerminalWithDeliveryDisposition (record : Meta) (log : Bool)
    (proposal : TerminalProposal) (disposition : CompletionDeliveryDisposition) (role : Bool) :
    Script (Meta × TerminalPublishResult) := do
  let published ← locked .completion (publishTerminalLocked record log proposal disposition)
  deliverAfterPublication published disposition role

end Publication

end AgentBash
