import AgentBash.Continuation.OwnerBinding
import AgentBash.Retention.Reaper

/-!
# The owner witness of accepted work

`completion_owner_witness` of `root_work.rs`: the registration authority is restored from the intent
that the root accepted, once the acceptance, the handle's own record, the caller's helper and the
committed registration all name the same work and the same owner.
-/

namespace AgentBash

set_option autoImplicit false

open Durable

/-- `Path::exists`: what cannot be looked up is not there. -/
def Node.exists_ (node : Node) : Bool :=
  match node.tryExists with
  | .ok found => found
  | .error _ => false

namespace OwnerWitness

def intentFile : String := "root-work-intent-v1.json"

section Data

/-- `DeliveryHelperProvenance`, as far as a witness depends on it. -/
structure Helper where
  path : String
  sha256 : String
  deriving DecidableEq, Repr

/-- The fields of `Meta` that name the owner of a completion. -/
structure OwnerRecord where
  ownerSessionId : Option String
  ownerInvocationUuid : Option String
  deliveryHelper : Option Helper
  deriving DecidableEq, Repr

/-- The fields of `WorkIntent` that a witness is taken from. -/
structure OwnerIntent where
  protocol : String
  workId : String
  rootId : String
  supervisorAuthorityId : String
  handle : String
  stateRoot : String
  record : OwnerRecord
  registrationAuthority : Option Bytes
  deriving DecidableEq, Repr

structure CompletionOwnerWitness where
  sessionId : String
  invocationUuid : String
  registrationAuthority : Bytes
  deriving DecidableEq, Repr

/-- The reader of an intent comes from outside as well. -/
class IntentCodec extends Codec where
  parseIntent : Bytes → Option OwnerIntent

end Data

section Paths

/-- The components of a path, which its equality compares: a root, and the names without empty ones
and without dots; only the first name of a relative path may be a dot. -/
def components (path : String) : Bool × List (List Char) :=
  let names := path.toList.splitOn '/'
  let named := fun name => !name.isEmpty && name != ['.']
  if path.toList.head? = some '/' then (true, names.filter named)
  else (false, names.head?.toList.filter (!·.isEmpty) ++ names.tail.filter named)

def samePath (one two : String) : Bool := components one == components two

def join (directory name : String) : String :=
  if directory.isEmpty || directory.toList.getLast? == some '/' then directory ++ name
  else directory ++ "/" ++ name

def deliveryHelper (paths : StatePaths) : String := join paths.stateDir "delivery-helper"

end Paths

section Witness

def validAuthority (authority : Bytes) : Bool :=
  authority.length == 64 && authority.all fun byte =>
    (48 ≤ byte && byte ≤ 57) || (97 ≤ byte && byte ≤ 102)

variable [IntentCodec]

/-- The acceptance and the intent name this handle and each other. -/
def acceptedIntent (paths : StatePaths) (intentBytes : Bytes) (intent : OwnerIntent)
    (accepted : Value) : Bool :=
  intent.protocol == rootWorkProtocol && intent.handle == paths.handle &&
    intent.workId == paths.handle && samePath intent.stateRoot paths.root &&
    accepted.get "protocol" == .string rootWorkProtocol &&
    accepted.get "work_id" == .string paths.handle &&
    accepted.get "root_id" == .string intent.rootId &&
    accepted.get "supervisor_authority_id" == .string intent.supervisorAuthorityId &&
    accepted.get "request_sha256" == .string (Codec.sha256 intentBytes)

omit [IntentCodec] in
/-- The handle's record and the caller's helper are those of the intent. -/
def matchesHandle (paths : StatePaths) (record : OwnerRecord) (helperSha256 session invocation : String)
    (authority : Bytes) (helper : Helper) : Bool :=
  !session.isEmpty && !invocation.isEmpty && validAuthority authority &&
    record.ownerSessionId == some session && record.ownerInvocationUuid == some invocation &&
    record.deliveryHelper.map (·.sha256) == some helperSha256 && helper.sha256 == helperSha256 &&
    helper.path == deliveryHelper paths

def completionOwnerWitness (dir : StateDirectory) (record : OwnerRecord) (helperSha256 : String) :
    Except IoError (Option CompletionOwnerWitness) :=
  if (dir.entry intentFile).exists_ then do
    let intentBytes ← (dir.entry intentFile).readBounded maxSource
    let intent ← (IntentCodec.parseIntent intentBytes).elim (.error (.other "malformed JSON")) .ok
    let accepted ← (dir.entry EvidenceFile.accepted).value
    if acceptedIntent dir.paths intentBytes intent accepted then
      match intent.record.ownerSessionId, intent.record.ownerInvocationUuid,
          intent.registrationAuthority, intent.record.deliveryHelper with
      | some session, some invocation, some authority, some helper =>
          if matchesHandle dir.paths record helperSha256 session invocation authority helper then do
            confirmedOwnerBinding dir session invocation helperSha256
            .ok (some ⟨session, invocation, authority⟩)
          else .error (.other "accepted owner witness differs from handle")
      | _, _, _, _ => .error (.other "accepted owner witness is incomplete")
    else .error (.other "accepted owner intent binding conflict")
  else if (dir.entry EvidenceFile.accepted).exists_ then
    .error (.other "accepted work has no original intent")
  else .ok none

end Witness

section Readings

/-- What the five files of a handle say. -/
structure Reading where
  intentBytes : Bytes
  intent : OwnerIntent
  accepted : Value
  registrationBytes : Bytes
  registration : Value
  reply : Value
  recovered : Bool

variable [IntentCodec]

/-- One reading of the five files; the receipt may be replaced by the confirmation. -/
def reading (dir : StateDirectory) : Except IoError Reading := do
  let intentBytes ← (dir.entry intentFile).readBounded maxSource
  let intent ← (IntentCodec.parseIntent intentBytes).elim (.error (.other "malformed JSON")) .ok
  let accepted ← (dir.entry EvidenceFile.accepted).value
  let registrationBytes ← (dir.entry SourceFile.registration).readBounded maxSource
  let (registration, _) ← binding dir
  let (reply, recovered) ← registrationReply dir
  .ok { intentBytes, intent, accepted, registrationBytes, registration, reply, recovered }

/-- What a released witness has had compared. -/
structure Released (paths : StatePaths) (record : OwnerRecord) (helperSha256 : String)
    (read : Reading) (witness : CompletionOwnerWitness) : Prop where
  protocol : read.intent.protocol = rootWorkProtocol
  handle : read.intent.handle = paths.handle
  work : read.intent.workId = paths.handle
  stateRoot : samePath read.intent.stateRoot paths.root = true
  acceptedProtocol : read.accepted.get "protocol" = .string rootWorkProtocol
  acceptedWork : read.accepted.get "work_id" = .string paths.handle
  acceptedRoot : read.accepted.get "root_id" = .string read.intent.rootId
  acceptedAuthority : read.accepted.get "supervisor_authority_id" =
    .string read.intent.supervisorAuthorityId
  acceptedRequest : read.accepted.get "request_sha256" = .string (Codec.sha256 read.intentBytes)
  session : read.intent.record.ownerSessionId = some witness.sessionId
  sessionNamed : witness.sessionId ≠ ""
  invocation : read.intent.record.ownerInvocationUuid = some witness.invocationUuid
  invocationNamed : witness.invocationUuid ≠ ""
  authority : read.intent.registrationAuthority = some witness.registrationAuthority
  authorityValid : validAuthority witness.registrationAuthority = true
  recordSession : record.ownerSessionId = some witness.sessionId
  recordInvocation : record.ownerInvocationUuid = some witness.invocationUuid
  recordHelper : record.deliveryHelper.map (·.sha256) = some helperSha256
  intentHelper : read.intent.record.deliveryHelper = some ⟨deliveryHelper paths, helperSha256⟩
  registered : ∀ key expected conflict, (key, expected, conflict) ∈ registeredFields paths →
    read.registration.get key = expected
  committed : CommittedBinding witness.sessionId witness.invocationUuid helperSha256
    read.registration read.registrationBytes read.reply read.recovered

variable {dir : StateDirectory} {record : OwnerRecord} {helperSha256 : String}
  {witness : CompletionOwnerWitness}

theorem released_of_witness
    (succeeds : completionOwnerWitness dir record helperSha256 = .ok (some witness)) :
    ∃ read, reading dir = .ok read ∧ Released dir.paths record helperSha256 read witness := by
  unfold completionOwnerWitness at succeeds
  split at succeeds
  · obtain ⟨intentBytes, intentRead, rest⟩ := ok_of_bind succeeds
    obtain ⟨intent, intentParses, rest⟩ := ok_of_bind rest
    obtain ⟨accepted, acceptedRead, rest⟩ := ok_of_bind rest
    split at rest
    · next accepts =>
      split at rest
      · next session invocation authority helper has_session has_invocation has_authority
          has_helper =>
        split at rest
        · next agrees =>
          obtain ⟨_, confirmed, rest⟩ := ok_of_bind rest
          obtain rfl := Option.some.inj (Except.ok.inj rest)
          obtain ⟨registration, identity, data, reply, recovered, bound, registered, found,
            committed⟩ := committed_of_confirmed confirmed
          simp only [acceptedIntent, Bool.and_eq_true, beq_iff_eq] at accepts
          simp only [matchesHandle, Bool.and_eq_true, beq_iff_eq, Bool.not_eq_true',
            String.isEmpty_eq_false_iff] at agrees
          obtain ⟨⟨⟨⟨⟨⟨⟨⟨protocol, handle⟩, work⟩, stateRoot⟩, acceptedProtocol⟩, acceptedWork⟩,
            acceptedRoot⟩, acceptedAuthority⟩, acceptedRequest⟩ := accepts
          obtain ⟨⟨⟨⟨⟨⟨⟨sessionNamed, invocationNamed⟩, authorityValid⟩, recordSession⟩,
            recordInvocation⟩, recordHelper⟩, helperDigest⟩, helperPath⟩ := agrees
          refine ⟨⟨intentBytes, intent, accepted, data, registration, reply, recovered⟩, ?_, ?_⟩
          · unfold reading
            simp only [bind, Except.bind, intentRead, intentParses, acceptedRead, registered.read,
              bound, found]
          · have pinned : helper = ⟨deliveryHelper dir.paths, helperSha256⟩ := by
              rw [← helperDigest, ← helperPath]
            exact {
              protocol, handle, work, stateRoot, acceptedProtocol, acceptedWork, acceptedRoot
              acceptedAuthority, acceptedRequest, sessionNamed, invocationNamed, authorityValid
              recordSession, recordInvocation, recordHelper, committed
              session := has_session
              invocation := has_invocation
              authority := has_authority
              intentHelper := has_helper.trans (congrArg some pinned)
              registered := registered.fields }
        · cases rest
      · cases rest
    · cases rest
  · split at succeeds
    · cases succeeds
    · cases succeeds

end Readings

section Changes

/-- The comparisons that a release rests on. -/
inductive Bound
  | protocol | handle | work | stateRoot
  | acceptedProtocol | acceptedWork | acceptedRoot | acceptedAuthority | acceptedRequest
  | session | sessionNamed | invocation | invocationNamed | authority
  | recordHelper | intentHelper | intentHelperPath
  | registered (index : Nat)
  | registrationSession | registrationInvocation | registrationHelper
  | replyDigest | replyIdentity (key : String)
  | committed | status | replyAuthority | domain | revision | listeners
  deriving DecidableEq, Repr

def text (value : Option String) : Value := value.elim .null .string

def path (value : String) : Value :=
  .item (.bool (components value).1) (.array ((components value).2.map fun name =>
    .string (.ofList name)))

variable [IntentCodec]

/-- Both sides of a comparison; one that the reply at hand is not asked for compares nothing. -/
def sides (paths : StatePaths) (record : OwnerRecord) (helperSha256 : String) (read : Reading) :
    Bound → Value × Value
  | .protocol => (.string read.intent.protocol, .string rootWorkProtocol)
  | .handle => (.string read.intent.handle, .string paths.handle)
  | .work => (.string read.intent.workId, .string paths.handle)
  | .stateRoot => (path read.intent.stateRoot, path paths.root)
  | .acceptedProtocol => (read.accepted.get "protocol", .string rootWorkProtocol)
  | .acceptedWork => (read.accepted.get "work_id", .string paths.handle)
  | .acceptedRoot => (read.accepted.get "root_id", .string read.intent.rootId)
  | .acceptedAuthority =>
      (read.accepted.get "supervisor_authority_id", .string read.intent.supervisorAuthorityId)
  | .acceptedRequest =>
      (read.accepted.get "request_sha256", .string (Codec.sha256 read.intentBytes))
  | .session => (text read.intent.record.ownerSessionId, text record.ownerSessionId)
  | .sessionNamed => (.bool (read.intent.record.ownerSessionId.any (!·.isEmpty)), .bool true)
  | .invocation => (text read.intent.record.ownerInvocationUuid, text record.ownerInvocationUuid)
  | .invocationNamed =>
      (.bool (read.intent.record.ownerInvocationUuid.any (!·.isEmpty)), .bool true)
  | .authority => (.bool (read.intent.registrationAuthority.any validAuthority), .bool true)
  | .recordHelper => (text (record.deliveryHelper.map (·.sha256)), .string helperSha256)
  | .intentHelper => (text (read.intent.record.deliveryHelper.map (·.sha256)), .string helperSha256)
  | .intentHelperPath =>
      (text (read.intent.record.deliveryHelper.map (·.path)), .string (deliveryHelper paths))
  | .registered index =>
      (registeredFields paths)[index]?.elim (.null, .null) fun (key, expected, _) =>
        (read.registration.get key, expected)
  | .registrationSession =>
      (read.registration.get "owner_session_id", text read.intent.record.ownerSessionId)
  | .registrationInvocation =>
      (read.registration.get "owner_invocation_uuid", text read.intent.record.ownerInvocationUuid)
  | .registrationHelper => ((read.registration.get "helper").get "sha256", .string helperSha256)
  | .replyDigest =>
      (read.reply.get "registration_digest", .string (Codec.sha256 read.registrationBytes))
  | .replyIdentity key =>
      if key ∈ identityKeys then (read.reply.get key, read.registration.get key) else (.null, .null)
  | .committed => (read.reply.get "registration_committed", .bool true)
  | .status =>
      if read.recovered then (read.reply.get "status", .string "exact_committed")
      else (.bool (wasRegistered read.reply), .bool true)
  | .replyAuthority =>
      if read.recovered then (read.reply.get "authority", .string "completion_only")
      else (.null, .null)
  | .domain =>
      if read.recovered then (.null, .null)
      else (read.reply.get "continuation_owner_domain", read.registration.get "domain_id")
  | .revision =>
      if read.recovered then (.null, .null)
      else (read.reply.get "listener_revision", read.registration.get "listener_revision")
  | .listeners =>
      if read.recovered then (.null, .null)
      else (read.reply.get "listeners", read.registration.get "listeners")

/-- One side of a comparison is another value, and the other is still the same. -/
def Changed (before after : Value × Value) : Prop :=
  (after.1 ≠ before.1 ∧ after.2 = before.2) ∨ (after.1 = before.1 ∧ after.2 ≠ before.2)

variable {dir : StateDirectory} {record : OwnerRecord} {helperSha256 : String}
  {witness : CompletionOwnerWitness} {read : Reading} {paths : StatePaths}

theorem Released.sides_eq (released : Released paths record helperSha256 read witness)
    (bound : Bound) : (sides paths record helperSha256 read bound).1 =
      (sides paths record helperSha256 read bound).2 := by
  have committed := released.committed
  cases bound with
  | protocol => exact congrArg Value.string released.protocol
  | handle => exact congrArg Value.string released.handle
  | work => exact congrArg Value.string released.work
  | stateRoot =>
      have same : components read.intent.stateRoot = components paths.root := by
        simpa [samePath] using released.stateRoot
      simp only [sides, path, same]
  | acceptedProtocol => exact released.acceptedProtocol
  | acceptedWork => exact released.acceptedWork
  | acceptedRoot => exact released.acceptedRoot
  | acceptedAuthority => exact released.acceptedAuthority
  | acceptedRequest => exact released.acceptedRequest
  | session => exact congrArg text (released.session.trans released.recordSession.symm)
  | sessionNamed => simp [sides, released.session, released.sessionNamed]
  | invocation => exact congrArg text (released.invocation.trans released.recordInvocation.symm)
  | invocationNamed => simp [sides, released.invocation, released.invocationNamed]
  | authority => simp [sides, released.authority, released.authorityValid]
  | recordHelper => simp [sides, released.recordHelper, text]
  | intentHelper => simp [sides, released.intentHelper, text]
  | intentHelperPath => simp [sides, released.intentHelper, text]
  | registered index =>
      cases found : (registeredFields paths)[index]? with
      | none => simp only [sides, found, Option.elim]
      | some field =>
          obtain ⟨key, expected, conflict⟩ := field
          simp only [sides, found, Option.elim]
          exact released.registered key expected conflict (List.mem_of_getElem? found)
  | registrationSession =>
      simp only [sides, released.session]
      exact committed.session
  | registrationInvocation =>
      simp only [sides, released.invocation]
      exact committed.invocation
  | registrationHelper => exact committed.helper
  | replyDigest => exact committed.identified.digest
  | replyIdentity key =>
      by_cases member : key ∈ identityKeys
      · simp only [sides, if_pos member]
        exact (committed.identified.same key member).2
      · simp only [sides, if_neg member]
  | committed => exact committed.committed
  | status =>
      cases recovered : read.recovered with
      | true => simpa [sides, recovered] using (committed.confirmation recovered).1
      | false => simpa [sides, recovered] using (committed.receipt recovered).1
  | replyAuthority =>
      cases recovered : read.recovered with
      | true => simpa [sides, recovered] using (committed.confirmation recovered).2
      | false => simp [sides, recovered]
  | domain =>
      cases recovered : read.recovered with
      | true => simp [sides, recovered]
      | false => simpa [sides, recovered] using (committed.receipt recovered).2.1
  | revision =>
      cases recovered : read.recovered with
      | true => simp [sides, recovered]
      | false => simpa [sides, recovered] using (committed.receipt recovered).2.2.1
  | listeners =>
      cases recovered : read.recovered with
      | true => simp [sides, recovered]
      | false => simpa [sides, recovered] using (committed.receipt recovered).2.2.2

omit [IntentCodec] in
theorem ne_of_changed {before after : Value × Value} (same : before.1 = before.2)
    (changed : Changed before after) : after.1 ≠ after.2 := by
  rcases changed with ⟨differs, kept⟩ | ⟨kept, differs⟩
  · rwa [kept, ← same]
  · rw [kept, same]
    exact differs.symm

theorem none_iff : completionOwnerWitness dir record helperSha256 = .ok none ↔
    (dir.entry intentFile).exists_ = false ∧
      (dir.entry EvidenceFile.accepted).exists_ = false := by
  unfold completionOwnerWitness
  constructor
  · intro none_
    split at none_
    · obtain ⟨_, _, rest⟩ := ok_of_bind none_
      obtain ⟨_, _, rest⟩ := ok_of_bind rest
      obtain ⟨_, _, rest⟩ := ok_of_bind rest
      split at rest
      · split at rest
        · split at rest
          · obtain ⟨_, _, rest⟩ := ok_of_bind rest
            cases rest
          · cases rest
        · cases rest
      · cases rest
    · next absent =>
      split at none_
      · cases none_
      · next unaccepted => exact ⟨by simpa using absent, by simpa using unaccepted⟩
  · rintro ⟨absent, unaccepted⟩
    rw [absent, unaccepted]
    rfl

/-- An authority is released only for the owner that every file names. Without an intent there is
none, and an acceptance without one is an error. Where one of the compared values is another one, or
a file cannot be read any more, nothing is released. -/
theorem owner_witness_released (dir : StateDirectory) (record : OwnerRecord)
    (helperSha256 : String) :
    (∀ witness, completionOwnerWitness dir record helperSha256 = .ok (some witness) →
      ∃ read, reading dir = .ok read ∧ Released dir.paths record helperSha256 read witness) ∧
    (completionOwnerWitness dir record helperSha256 = .ok none ↔
      (dir.entry intentFile).exists_ = false ∧
        (dir.entry EvidenceFile.accepted).exists_ = false) ∧
    ∀ witness read, completionOwnerWitness dir record helperSha256 = .ok (some witness) →
      reading dir = .ok read →
      ∀ (changed : StateDirectory) (changedRecord : OwnerRecord) (changedHelper : String),
        (changed.entry intentFile).exists_ = true →
        (∀ after, reading changed = .ok after → ∃ bound,
          Changed (sides dir.paths record helperSha256 read bound)
            (sides changed.paths changedRecord changedHelper after bound)) →
        ∃ error, completionOwnerWitness changed changedRecord changedHelper = .error error := by
  refine ⟨fun witness succeeds => released_of_witness succeeds, none_iff, ?_⟩
  intro witness read succeeds reads changed changedRecord changedHelper present differs
  obtain ⟨found, foundReads, released⟩ := released_of_witness succeeds
  obtain rfl : read = found := Except.ok.inj (reads.symm.trans foundReads)
  cases outcome : completionOwnerWitness changed changedRecord changedHelper with
  | error error => exact ⟨error, rfl⟩
  | ok answer =>
      cases answer with
      | none =>
          have absent := (none_iff.mp outcome).1
          rw [present] at absent
          cases absent
      | some other =>
          obtain ⟨after, afterReads, afterReleased⟩ := released_of_witness outcome
          obtain ⟨bound, changes⟩ := differs after afterReads
          exact absurd (afterReleased.sides_eq bound)
            (ne_of_changed (released.sides_eq bound) changes)

end Changes

end OwnerWitness

end AgentBash
