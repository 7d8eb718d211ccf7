import AgentBash.Continuation.Binding
import AgentBash.Json.Record

/-!
# Acceptance and activation receipts

`accept` and `activation_committed` of `continuation.rs`. The local record is the only
file that an acceptance changes; it is read, updated field by field and replaced under its lock.
-/

namespace AgentBash

set_option autoImplicit false

open Durable

namespace SourceFile

def local_ : String := "continuation-v2.json"

end SourceFile

namespace Acceptance

/-- What ends a call early: an error it returns, or a panic. -/
inductive Failure
  | io (error : IoError)
  | panic

section Receipt

def validDigest (value : String) : Bool :=
  (utf8 value).length == 64 && (utf8 value).all fun byte =>
    (48 ≤ byte && byte ≤ 57) || (97 ≤ byte && byte ≤ 102)

def refused : Except IoError Unit := .error (.other "not an exact completion acceptance receipt")

variable [Codec]

/-- The rest of the receipt, once the published files were compared. -/
def namesPayload (registration reply : Value) : Bool :=
  (reply.get "payload_sha256").asStr.any validDigest &&
    (reply.get "payload_byte_len").asU64.isSome &&
    (reply.get "listener_revision").asU64.any fun revision =>
      (registration.get "listener_revision").asU64.getD (2 ^ 64 - 1) ≤ revision

/-- The condition of `accept` in the order in which it is evaluated. -/
def exactReceipt (dir : StateDirectory) (registration reply : Value) : Except IoError Unit :=
  if (reply.get "status").asStr = some "accepted" ∨
      (reply.get "status").asStr = some "already_accepted" then do
    let snapshot ← (dir.entry SourceFile.snapshot).readBounded (16 * maxSource)
    if reply.get "snapshot_sha256" = .string (Codec.sha256 snapshot) then do
      let outcome ← (dir.entry SourceFile.outcome).readBounded maxSource
      if reply.get "outcome_sha256" = .string (Codec.sha256 outcome) ∧
          namesPayload registration reply then .ok ()
      else refused
    else refused
  else refused

/-- Everything that `accept` checks before it takes the lock. -/
def checkReceipt (dir : StateDirectory) (reply : Value) : Except IoError Unit := do
  let (registration, identity) ← binding dir
  exact identity reply
  exactReceipt dir registration reply

end Receipt

section Local

/-- How `atomic_write` ends: with the new file under the name, with the previous one, or with the
new one whose directory was not synced. -/
inductive Saving
  | done
  | unchanged (error : IoError)
  | unsynced (error : IoError)

/-- One call under the lock of the local record; `created` is what the new file is besides its
bytes. -/
structure Custody where
  lock : Except IoError Unit := .ok ()
  saving : Saving := .done
  created : RegularFile := { bytes := [] }

def acceptedKeys : List String :=
  ["snapshot_sha256", "outcome_sha256", "payload_sha256", "payload_byte_len"]

/-- The loop of `accept`: no field that is already there may be another one. -/
def recordFields (reply : Value) : List String → Value → Except Failure Value
  | [], recorded => .ok recorded
  | key :: rest, recorded =>
      if (recorded.field? key).any (· ≠ reply.get key) then
        .error (.io (.other "accepted payload conflict"))
      else
        match recorded.assign key (reply.get key) with
        | none => .error .panic
        | some assigned => recordFields reply rest assigned

/-- The directory once another file has the name of the local record. -/
def replaced (dir : StateDirectory) (file : RegularFile) : StateDirectory :=
  { dir with entry := Function.update dir.entry SourceFile.local_ (.regular file) }

variable [Codec]

def save (dir : StateDirectory) (custody : Custody) (recorded : Value) :
    Except Failure Unit × StateDirectory :=
  let file := { custody.created with bytes := Codec.encode recorded, readable := true }
  match custody.saving with
  | .done => (.ok (), replaced dir file)
  | .unchanged error => (.error (.io error), dir)
  | .unsynced error => (.error (.io error), replaced dir file)

def readLocal (dir : StateDirectory) (custody : Custody) : Except Failure Value :=
  match custody.lock with
  | .error error => .error (.io error)
  | .ok () => (dir.entry SourceFile.local_).value.mapError .io

/-- What `accept` is about to write. -/
def acceptedRecord (dir : StateDirectory) (custody : Custody) (reply : Value) :
    Except Failure Value := do
  (checkReceipt dir reply).mapError .io
  let recorded ← readLocal dir custody
  let recorded ← recordFields reply acceptedKeys recorded
  (recorded.assign "enqueue" (.string "accepted")).elim (.error .panic) .ok

def accept (dir : StateDirectory) (custody : Custody) (reply : Value) :
    Except Failure Unit × StateDirectory :=
  match acceptedRecord dir custody reply with
  | .error failure => (.error failure, dir)
  | .ok recorded => save dir custody recorded

/-- `confirm_launch` and the recovery write how the registration was confirmed; nothing is a record
they could not read. -/
def confirm (dir : StateDirectory) (custody : Custody) (registration : String) : StateDirectory :=
  match readLocal dir custody with
  | .error _ => dir
  | .ok recorded =>
      match recorded.assign "registration" (.string registration) with
      | none => dir
      | some assigned => (save dir custody assigned).2

end Local

section Activation

/-- `Value::as_array`. -/
def items : Value → Option (List Value)
  | .nil => some []
  | .item value rest => (items rest).map (value :: ·)
  | _ => none

def requested (owner : String) (row : Value) : Bool := row.get "listener_id" == .string owner

variable [Codec]

/-- One read back of an explicit activation request. -/
def activationCommitted (dir : StateDirectory) (reply : Value) : Except IoError Bool := do
  let (registration, identity) ← binding dir
  exact identity reply
  if reply.get "status" = .string "exact_committed" ∧
      reply.get "registration_committed" = .bool true then do
    let owner ← ((registration.get "owner_invocation_uuid").asStr.filter fun owner =>
      !owner.isEmpty).elim (.error (.other "missing original activation listener")) .ok
    match items (reply.get "notification_dispositions") with
    | none => .ok false
    | some dispositions =>
        match dispositions.filter (requested owner) with
        | [] => .ok false
        | request :: others =>
            .ok (others.isEmpty && (request.get "requested_at").nonemptyStr &&
              request.get "request_basis" == .string "explicit_listener_activation_unattributed")
  else .ok false

end Activation

end Acceptance

end AgentBash
