import AgentBash.State.Files
import AgentBash.Durable.Rules

/-!
# Terminal cancellation and the discharge of physical custody

A handle whose completion is recorded may still own processes. A cancellation is then admitted
against the custody marker, and whoever observes an empty tree discharges the marker; both do
so under the custody lock.
-/

namespace AgentBash

set_option autoImplicit false

open Durable

section Custody

/-- A try that finds the lock busy changes nothing, so every run of tries is its last one. -/
def lockCustody : Script Unit := do
  if ← tryLock .custody then pure ()
  else Io.throw ⟨.wouldBlock, "custody serialization busy; retry"⟩

/-- A lock guard leaves its scope whatever the body answers. -/
def holdingCustody {α : Type} (body : Script α) : Script α := do
  let result ← body.attempt
  unlock .custody
  Io.ofExcept result

/-- An admission against a marker of this boot, unless the cancellation was drained before. -/
def acceptUndrained : Script Bool := do
  if ← durableMarkerExists .cancellationDrained then pure false
  else recordExplicitCancelAcceptance

def acceptRecordedCustody (recorded boot : BootId) : Script Bool :=
  if recorded.isNone || boot.isNone then
    Io.throw (.other "physical custody boot identity unavailable")
  else if recorded ≠ boot then pure false
  else acceptUndrained

def acceptHoldingCustody : Script Bool := do
  match ← readOptional .physicalCustody with
  | none => pure false
  | some recorded =>
      let boot ← outsideAsk .currentBootId
      acceptRecordedCustody recorded boot

/-- `cancelAdmitted` marks the answer `true`, which is settled before the guard is dropped. -/
def answerAdmission (accepted : Bool) : Script Bool := do
  if accepted then do
    outsideAsk .cancelAdmitted
    pure true
  else pure false

def acceptTerminalCustodyCancel : Script Bool := do
  lockCustody
  holdingCustody do
    let accepted ← acceptHoldingCustody
    answerAdmission accepted

/-- Acceptance is read under the lock of the admission, however late the request came. -/
def drainAccepted : Script Unit := do
  if ← durableMarkerExists .acceptedCancel then recordCancellationDrained
  else pure ()

def dischargeHoldingCustody : Script Unit := do
  drainAccepted
  openDirectory
  rollbackCreatedMarker .physicalCustody

/-- A directory that is gone was discharged by somebody else. -/
def endPhysicalCustody : Script Unit := do
  match ← lockCustody.attempt with
  | .ok _ => holdingCustody dischargeHoldingCustody
  | .error error => if error.kind = .notFound then pure () else Io.throw error

end Custody

/-- Any number of admissions and of empty-tree observers. -/
inductive CustodyEntry
  | admission
  | discharge
  deriving DecidableEq, Repr

def CustodyEntry.program : CustodyEntry → HandleProgram
  | .admission => acceptTerminalCustodyCancel.program fun
      | .ok true => 0
      | .ok false => 1
      | .error _ => 2
  | .discharge => endPhysicalCustody.program fun
      | .ok _ => 0
      | .error _ => 2

def custodySystem : System (requests layout outside) HandleDisk :=
  system layout outside CustodyEntry.program

end AgentBash
