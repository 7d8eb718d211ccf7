import AgentBash.State.Identity

/-!
# The handle directory and what surrounds it

The files and locks of one handle, and the parts of the outside that the modelled code
asks about: helper processes, the role slot shared by supervisor and guardian, the boot
identity, the clock and process evidence. Every outside answer is a choice of the
environment, limited only by what the code is promised about it.
-/

namespace AgentBash

set_option autoImplicit false

open Durable

/-- What `activation-outcome` says; the failure texts are kept as the caller sees them. -/
inductive ActivationRecord
  | pending
  | succeeded
  | preAdmissionFailed (error : String)
  | failed (error : String)
  | transferOutcomeUnknown
  deriving DecidableEq, Repr

inductive File
  | metaJson | rc | deliveryMode | acceptedCancel | cancellationDrained | physicalCustody
  | externalTransferCustody | externalTransferCleanupError | activationAttempted
  | activationOutcome | registration | continuationLocal | snapshot | sourceBundle
  deriving DecidableEq, Repr

/-- A boot identity, or nothing where it is not a valid one. -/
abbrev BootId := Option Nat

/-- How far the v2 registration of a handle is known to the local continuation record. -/
inductive LocalRegistration
  | intent | confirmed | completionOnlyConfirmed
  deriving DecidableEq, Repr

/-- `continuation-v2.json`: notification duty known locally, never a recipient's ACK. -/
structure ContinuationLocal where
  registration : LocalRegistration
  enqueueAccepted : Bool := false
  deriving DecidableEq, Repr

/-- Markers carry nothing; custody markers carry the boot they were written in. -/
def File.Content : File → Type
  | .metaJson => Meta
  | .rc => Int
  | .deliveryMode => DeliveryMode
  | .physicalCustody | .externalTransferCustody => BootId
  | .continuationLocal => ContinuationLocal
  | .externalTransferCleanupError => String
  | .activationOutcome => ActivationRecord
  | .acceptedCancel | .cancellationDrained | .activationAttempted | .registration
  | .snapshot | .sourceBundle => Unit

inductive Lock
  | delivery | completion | custody | reconciliation | continuation
  deriving DecidableEq, Repr

abbrev layout : Layout where
  File := File
  Content := File.Content
  Lock := Lock
  fileEq := inferInstance
  lockEq := inferInstance

/-- The slot of `delivery_role`: no custodian, a live one, a drained one, or a lost one. -/
inductive RoleSlot
  | free
  | owned (pid : Nat)
  | drained (pid : Nat)
  | unknown
  deriving DecidableEq, Repr

inductive HelperOperation
  | complete | activate | activationReadback
  deriving DecidableEq, Repr

inductive ExitStatus
  | code (code : Nat)
  | signal (signal : Nat)
  deriving DecidableEq, Repr

def ExitStatus.success (status : ExitStatus) : Bool := status == .code 0

/-- System calls that acquire something or change the calling process. -/
inductive SystemCall
  | socketPair | closeRange | setSubreaper | attemptEvidence | syncLog
  deriving DecidableEq, Repr

structure DeliveryHelperError where
  code : DeliveryErrorCode
  detail : String
  deriving DecidableEq

def DeliveryHelperError.toString (error : DeliveryHelperError) : String :=
  error.code.text ++ ": " ++ error.detail

/-- `completions` and `activations` count every helper process ever spawned, `admissions` every
terminal cancellation that was answered with `true`; `unwaited` lists the spawner of every
helper whose wait status was never returned. An activation is reported once its helper exited
with success, and confirmed once the owner said on a readback that it was committed. -/
structure World where
  role : RoleSlot := .free
  completions : Nat := 0
  activations : Nat := 0
  admissions : Nat := 0
  unwaited : List Nat := []
  activationReported : Bool := false
  activationConfirmed : Bool := false
  deriving DecidableEq

/-- `openAttempt` creates the evidence files of a structured helper under a fresh name and answers
with the prefix they share. -/
inductive Outside
  | system (call : SystemCall)
  | openAttempt
  | deliveryRequest
  | acceptanceReply
  | cancelAdmitted
  | spawnHelper (operation : HelperOperation)
  | waitHelper (operation : HelperOperation)
  | waitHelperOutput (operation : HelperOperation)
  | readbackActivationCommitted
  | currentBootId
  | bootId
  | processTable
  | unixMs
  | publishRole (pid : Nat)
  | drainRole
  | retireRole (pid : Nat)
  | guardianTreeDrained
  | roleSlot

def Outside.Result : Outside → Type
  | .deliveryRequest => Except DeliveryHelperError Unit
  | .waitHelper _ => ExitStatus
  | .waitHelperOutput _ => ExitStatus × Option String
  | .readbackActivationCommitted => Bool
  | .currentBootId => BootId
  | .bootId | .openAttempt => String
  | .processTable => ProcessTable
  | .unixMs => Nat
  | .roleSlot => RoleSlot
  | .system _ | .acceptanceReply | .cancelAdmitted | .spawnHelper _ | .publishRole _ | .drainRole
  | .retireRole _ | .guardianTreeDrained => Unit

inductive Decision
  | agree
  | fail (error : IoError)
  | refuse (error : DeliveryHelperError)
  | exited (status : ExitStatus)
  | output (status : ExitStatus) (detail : Option String)
  | boot (id : BootId)
  | text (answer : String)
  | processes (table : ProcessTable)
  | time (now : Nat)
  | decline

/-- `retired_slot`: reaping a custodian that never certified its drain loses it. -/
def retiredSlot (value : RoleSlot) (pid : Nat) : RoleSlot :=
  if value = .owned pid then .unknown
  else if value = .drained pid then .free
  else value

namespace World

def spawned (world : World) (pid : Nat) : HelperOperation → World
  | .complete =>
      { world with completions := world.completions + 1, unwaited := pid :: world.unwaited }
  | .activate =>
      { world with activations := world.activations + 1, unwaited := pid :: world.unwaited }
  | .activationReadback => { world with unwaited := pid :: world.unwaited }

def waited (world : World) (pid : Nat) : World :=
  { world with unwaited := world.unwaited.erase pid }

def reported (world : World) (pid : Nat) (operation : HelperOperation) (status : ExitStatus) :
    World :=
  if operation = .activate && status.success then
    { world.waited pid with activationReported := true }
  else world.waited pid

end World

/-- A spawn error means that no helper ran; any other failure comes after the spawn. -/
def Outside.act (pid : Nat) : (op : Outside) → Decision → Disk layout World →
    Option (Except IoError op.Result × World)
  | .system _, .agree, disk => some (.ok (), disk.world)
  | .system _, .fail error, disk => some (.error error, disk.world)
  | .openAttempt, .text retained, disk => some (.ok retained, disk.world)
  | .openAttempt, .fail error, disk => some (.error error, disk.world)
  | .acceptanceReply, .agree, disk => some (.ok (), disk.world)
  | .acceptanceReply, .fail error, disk => some (.error error, disk.world)
  | .cancelAdmitted, .agree, disk =>
      some (.ok (), { disk.world with admissions := disk.world.admissions + 1 })
  | .deliveryRequest, .agree, disk => some (.ok (.ok ()), disk.world)
  | .deliveryRequest, .refuse error, disk => some (.ok (.error error), disk.world)
  | .spawnHelper operation, .agree, disk => some (.ok (), disk.world.spawned pid operation)
  | .spawnHelper _, .fail error, disk => some (.error error, disk.world)
  | .waitHelper operation, .exited status, disk =>
      some (.ok status, disk.world.reported pid operation status)
  | .waitHelper _, .fail error, disk => some (.error error, disk.world)
  | .waitHelperOutput operation, .output status detail, disk =>
      some (.ok (status, detail), disk.world.reported pid operation status)
  | .waitHelperOutput _, .fail error, disk => some (.error error, disk.world)
  | .readbackActivationCommitted, .agree, disk =>
      some (.ok true, { disk.world with activationConfirmed := true })
  | .readbackActivationCommitted, .decline, disk => some (.ok false, disk.world)
  | .readbackActivationCommitted, .fail error, disk => some (.error error, disk.world)
  | .currentBootId, .boot boot, disk => some (.ok boot, disk.world)
  | .bootId, .text boot, disk => some (.ok boot, disk.world)
  | .processTable, .processes table, disk => some (.ok table, disk.world)
  | .unixMs, .time now, disk => some (.ok now, disk.world)
  | .publishRole custodian, .agree, disk =>
      if disk.world.role = .free then
        some (.ok (), { disk.world with role := .owned custodian })
      else some (.error (.other "delivery role still owns responsibility"), disk.world)
  | .drainRole, .agree, disk =>
      if disk.world.role = .owned pid then
        some (.ok (), { disk.world with role := .drained pid })
      else some (.ok (), disk.world)
  | .retireRole child, .agree, disk =>
      some (.ok (), { disk.world with role := retiredSlot disk.world.role child })
  | .guardianTreeDrained, .agree, disk =>
      if disk.world.role = .unknown then some (.ok (), { disk.world with role := .free })
      else some (.ok (), disk.world)
  | .roleSlot, .agree, disk => some (.ok disk.world.role, disk.world)
  | _, _, _ => none

theorem World.reported_completions (world : World) (pid : Nat) (operation : HelperOperation)
    (status : ExitStatus) :
    (world.reported pid operation status).completions = world.completions := by
  unfold World.reported
  split <;> rfl

theorem Outside.act_completions {pid : Nat} {op : Outside} {choice : Decision}
    {disk : Disk layout World} {answer : Except IoError op.Result} {world : World}
    (acted : op.act pid choice disk = some (answer, world))
    (other : op ≠ .spawnHelper .complete) : world.completions = disk.world.completions := by
  cases op with
  | spawnHelper operation =>
      cases choice <;> simp only [act, Option.some.injEq, Prod.mk.injEq, reduceCtorEq] at acted
      all_goals obtain ⟨-, rfl⟩ := acted
      · cases operation with
        | complete => exact absurd rfl other
        | _ => rfl
      · rfl
  | waitHelper operation | waitHelperOutput operation =>
      cases choice <;> simp only [act, Option.some.injEq, Prod.mk.injEq, reduceCtorEq] at acted
      all_goals obtain ⟨-, rfl⟩ := acted
      · rfl
      · exact World.reported_completions _ _ _ _
  | _ =>
      cases choice <;> simp only [act, reduceCtorEq] at acted <;> (try split at acted) <;>
        cases acted <;> rfl

abbrev outside : Surroundings layout where
  World := World
  Op := Outside
  Result := Outside.Result
  Choice := Decision
  act := Outside.act
  Change := Empty
  change := nofun

abbrev Script (α : Type) := Io (requests layout outside) α

abbrev HandleProgram := Program (requests layout outside)

abbrev HandleDisk := Disk layout World

end AgentBash
