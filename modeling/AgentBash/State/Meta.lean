import AgentBash.Durable.Directory

/-!
# The persisted record of one handle

`meta.json` with the fields that the modelled code reads or writes. The cgroup report is left
out, since no modelled function reads it back.
-/

namespace AgentBash

set_option autoImplicit false

open Durable

inductive DeliveryMode
  | sync | async
  deriving DecidableEq, Repr

inductive State
  | running | done | error
  deriving DecidableEq, Repr

inductive Mode
  | exit | sentinel
  deriving DecidableEq, Repr

inductive CompletionReason
  | exit | exitBeforeReady | readySentinel | cancelRequest | ownerExit | causalParentCancelled
  | rootAuthorityLost | outputCaptureFailed | supervisorError | supervisorLost
  | registrationOutcomeUnknown | registrationNeverLaunched
  deriving DecidableEq, Repr

inductive DeliveryErrorCode
  | deliveryAttemptInProgress | transferOutcomeUnknown | deliveryHelperLaunchFailed
  | deliveryTransferWorkerLaunchFailed | deliveryHelperLegacyUnsupported
  | deliveryHelperUnavailable | deliveryHelperProvenanceInvalid | deliveryHelperChanged
  deriving DecidableEq, Repr

def DeliveryErrorCode.text : DeliveryErrorCode → String
  | .deliveryAttemptInProgress => "delivery_attempt_in_progress"
  | .transferOutcomeUnknown => "transfer_outcome_unknown"
  | .deliveryHelperLaunchFailed => "delivery_helper_launch_failed"
  | .deliveryTransferWorkerLaunchFailed => "delivery_transfer_worker_launch_failed"
  | .deliveryHelperLegacyUnsupported => "delivery_helper_legacy_unsupported"
  | .deliveryHelperUnavailable => "delivery_helper_unavailable"
  | .deliveryHelperProvenanceInvalid => "delivery_helper_provenance_invalid"
  | .deliveryHelperChanged => "delivery_helper_changed"

inductive CompletionDeliveryLifecycle
  | unclaimed | provisionalTransfer | retryablePreAdmissionFailure | closedPreAdmissionFailure
  | nonReplayableUnknownTransfer | admittedOutcome | legacySkipped | invalid
  deriving DecidableEq, Repr

namespace CompletionDeliveryLifecycle

def permitsAttempt : CompletionDeliveryLifecycle → Bool
  | .unclaimed | .retryablePreAdmissionFailure => true
  | _ => false

def needsProgress : CompletionDeliveryLifecycle → Bool
  | .unclaimed | .provisionalTransfer | .retryablePreAdmissionFailure => true
  | _ => false

end CompletionDeliveryLifecycle

structure CompletionDeliveryMeta where
  attempted : Bool := false
  exitCode : Option Nat := none
  error : Option String := none
  errorCode : Option DeliveryErrorCode := none
  retryable : Option Bool := none
  retryCount : Nat := 0
  skipped : Option String := none
  deriving DecidableEq

namespace CompletionDeliveryMeta

def completionLifecycle (delivery : CompletionDeliveryMeta) : CompletionDeliveryLifecycle :=
  if delivery.skipped.isSome then
    if !delivery.attempted && delivery.errorCode.isNone then .legacySkipped else .invalid
  else if delivery.attempted then
    match delivery.errorCode with
    | some .deliveryAttemptInProgress => .provisionalTransfer
    | some .transferOutcomeUnknown => .nonReplayableUnknownTransfer
    | _ => .admittedOutcome
  else
    match delivery.errorCode.isSome, delivery.retryable with
    | false, _ => .unclaimed
    | true, some true => .retryablePreAdmissionFailure
    | true, _ => .closedPreAdmissionFailure

/-- An attempt that was ever admitted is never offered for another one. -/
theorem not_permits_of_attempted {delivery : CompletionDeliveryMeta}
    (attempted : delivery.attempted = true) :
    delivery.completionLifecycle.permitsAttempt = false := by
  unfold completionLifecycle
  split
  · simp [attempted, CompletionDeliveryLifecycle.permitsAttempt]
  · split <;> rfl

theorem attempted_of_provisional {delivery : CompletionDeliveryMeta}
    (provisional : delivery.completionLifecycle = .provisionalTransfer) :
    delivery.attempted = true := by
  unfold completionLifecycle at provisional
  split at provisional
  · split at provisional <;> cases provisional
  · split at provisional
    · next attempted => exact attempted
    · split at provisional <;> cases provisional

end CompletionDeliveryMeta

structure Meta where
  schemaVersion : Nat := 1
  state : State := .running
  completionReason : Option CompletionReason := none
  cancelOwner : Option Nat := none
  supervisorPid : Option Int := none
  supervisorPidStarttimeTicks : Option Nat := none
  workloadPid : Option Int := none
  workloadPidStarttimeTicks : Option Nat := none
  processBootId : Option String := none
  mode : Mode := .exit
  deliveryMode : DeliveryMode := .async
  readySentinel : Option String := none
  readyAt : Option Nat := none
  completedAt : Option Nat := none
  updatedAt : Nat := 0
  rc : Option Int := none
  signal : Option Int := none
  workloadRc : Option Int := none
  workloadSignal : Option Int := none
  delivery : CompletionDeliveryMeta := {}
  error : Option String := none
  deriving DecidableEq

def runningExitMode (record : Meta) : Bool :=
  record.state == .running && record.mode == .exit

def terminal (record : Meta) : Bool :=
  (record.state == .done || record.state == .error) && record.completedAt.isSome

end AgentBash
