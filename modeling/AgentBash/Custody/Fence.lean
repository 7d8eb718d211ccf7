import AgentBash.Custody.Directory

/-!
# The launch fence

`prepare`, `confirm_launch`, `transition`, `abandon` and `launched` of `continuation.rs` with the
capability check of `delivery.rs` in front of them. The fence is prepared unreleased and is spent or
revoked under the launch lock.
-/

namespace AgentBash

set_option autoImplicit false

open Durable

def CallerChainEntry.value (entry : CallerChainEntry) : Value :=
  .object [("pid", .number entry.pid), ("starttime_ticks", .number entry.starttimeTicks),
    ("boot_id", .string entry.bootId)]

/-- `CallerChainEntry` as it is read from an object; its pid has 32 bits. -/
def CallerChainEntry.ofValue (value : Value) : Option CallerChainEntry := do
  let pid ← (value.get "pid").asI64
  if -2 ^ 31 ≤ pid ∧ pid < 2 ^ 31 then do
    let ticks ← (value.get "starttime_ticks").asU64
    let boot ← (value.get "boot_id").asStr
    pure ⟨pid, ticks, boot⟩
  else none

namespace SourceCustody

/-- `unreleased` and `may_launch` are left; `launched` and `revoked_never_launched` are final. -/
inductive Phase
  | unreleased | mayLaunch | launched | revokedNeverLaunched
  deriving DecidableEq, Repr

def Phase.text : Phase → String
  | .unreleased => "unreleased"
  | .mayLaunch => "may_launch"
  | .launched => "launched"
  | .revokedNeverLaunched => "revoked_never_launched"

variable [Codec] (site : Site)

section Binding

def readIdentity (value : Value) : CustodyScript CallerChainEntry :=
  required "malformed JSON" (CallerChainEntry.ofValue value)

/-- What `binding` makes of the registration that was read. -/
def bindRegistration (registration : Value) : Except IoError (Value × Value) := do
  requireFields registration (registeredFields site.paths)
  let identity := common registration (Codec.sha256 (Codec.encode registration))
  exact identity identity
  .ok (registration, identity)

def binding : CustodyScript (Value × Value) := do
  let registration ← value .registration
  Io.ofExcept (bindRegistration site registration)

/-- Any unreadable registration is retained, not mistaken for legacy state. -/
def enabled : CustodyScript Bool := do
  match ← (readFile .registration).attempt with
  | .ok _ => pure true
  | .error error => pure (error.kind != .notFound)

end Binding

section Prepare

def completionKind : Mode → String
  | .exit => "exit"
  | .sentinel => "ready"

def deliveryModeText : DeliveryMode → String
  | .sync => "sync"
  | .async => "async"

/-- The numbers that a registration draws, and what it pins of its worker and its image. -/
structure Drawn where
  sourceId : String
  registrationId : String
  worker : CallerChainEntry
  recoveryHash : String

def registrationValue (record : SourceMeta) (domain scope session invocation environment : String)
    (drawn : Drawn) : Value :=
  .object [("protocol", .string continuationProtocol), ("domain_id", .string domain),
    ("source_id", .string drawn.sourceId), ("registration_id", .string drawn.registrationId),
    ("handle", .string site.paths.handle), ("handle_dir", .string site.paths.stateDir),
    ("spool_root", .string site.paths.root), ("meta_relative", .string "meta.json"),
    ("log_relative", .string "log"), ("rc_relative", .string "rc"),
    ("registration_relative", .string SourceFile.registration.name),
    ("outcome_relative", .string SourceFile.outcome.name),
    ("snapshot_relative", .string SourceFile.snapshot.name),
    ("owner_session_id", .string session), ("owner_invocation_uuid", .string invocation),
    ("registering_caller", drawn.worker.value),
    ("delivery_mode", .string (deliveryModeText record.deliveryMode)),
    ("completion_kind", .string (completionKind record.mode)), ("completion_scope", .string scope),
    ("helper", .object [("path", .string record.helperPath), ("sha256", .string record.helperSha256),
      ("environment_sha256", .string environment)]),
    ("recovery", .object [
      ("path", .string (site.paths.stateDir ++ "/" ++ SourceFile.recoveryImage.name)),
      ("sha256", .string drawn.recoveryHash), ("environment_sha256", .string environment)]),
    ("source_evidence_protocol", .string continuationProtocol), ("listener_revision", .number 1),
    ("listeners", .array [.object [("listener_id", .string invocation),
      ("session_id", .string session), ("owner_invocation_uuid", .string invocation)]])]

/-- The fence of a registration before anything happened to it. -/
def unreleasedFence (identity : Value) (worker : CallerChainEntry) : Value :=
  [("revision", .number 0), ("phase", .string Phase.unreleased.text),
    ("registration_worker", worker.value), ("workload_identity", .null)].foldl
      (fun fence (key, assigned) => fence.set key assigned) identity

def intentLocal (identity : Value) : Value :=
  (identity.set "registration" (.string "intent")).set "enqueue" (.string "waiting_evidence")

/-- Registration, fence and local record are published under the launch lock. -/
def publishRegistration (registration : Value) (worker : CallerChainEntry) : CustodyScript Unit := do
  let identity := common registration (Codec.sha256 (Codec.encode registration))
  locked .launch do
    immutable .registration registration
    immutable .fence (unreleasedFence identity worker)
    save .continuationLocal (intentLocal identity)

/-- The executing image is copied once; whoever finds a copy there has no registration. -/
def pinRecoveryImage : CustodyScript String := do
  let image ← ask .currentImage
  createFile .recoveryImage ([] : Bytes)
  replaceFile .recoveryImage image
  syncAll
  let recovery ← readFile .recoveryImage
  pure (Codec.sha256 recovery)

def prepare (record : SourceMeta) (domain scope : String) : CustodyScript Unit := do
  let _ ← required "missing pinned helper" (if record.pinnedHelper then some () else none)
  let session ← required "missing owner session" record.ownerSessionId
  let invocation ← required "missing owner invocation" record.ownerInvocationUuid
  let canonical ← ask .canonicalDirectory
  match canonical, record.environmentSha256.filter Acceptance.validDigest with
  | true, some environment => do
      let recoveryHash ← pinRecoveryImage
      let worker ← ask .identity
      let sourceId ← ask .uuid
      let registrationId ← ask .uuid
      let drawn : Drawn := ⟨sourceId, registrationId, worker, recoveryHash⟩
      publishRegistration
        (registrationValue site record domain scope session invocation environment drawn) worker
  | _, _ => fail "noncanonical source directory or missing sealed environment"

/-- Both processes that the owner names have to be alive. -/
def ownersLive (hello : Value) : List String → CustodyScript Unit
  | [] => pure ()
  | key :: rest => do
      let identity ← readIdentity (hello.get key)
      let live : Bool ← ask (.processIdentityIsLive identity)
      if live then ownersLive hello rest else fail "owner identity not live"

def prepareContinuation (record : SourceMeta) (scope : String) : CustodyScript Unit := do
  let capability ← ask .capability
  let domain ← required "missing capability domain" (Value.asStr (Value.get capability "domain_id"))
  if Value.get capability "protocol" = .string continuationProtocol then do
    let hello : Value ← ask .hello
    if hello.get "protocol" = .string continuationProtocol ∧
        hello.get "domain_id" = .string domain ∧
        hello.get "endpoint" = .string site.endpoint then do
      ownersLive hello ["guardian_identity", "driver_identity"]
      prepare site record domain scope
    else fail "owner hello domain conflict"
  else fail "unsupported completion protocol"

end Prepare

section Transitions

/-- The fence of the next revision in another phase. -/
def advanced (fence : Value) (revision : Nat) (phase : Phase) : Value :=
  (fence.set "revision" (.number (revision + 1 : Nat))).set "phase" (.string phase.text)

def transition (fence : Value) (phase : Phase) : CustodyScript Unit := do
  let revision ← required "invalid launch revision" (fence.get "revision").asU64
  if revision + 1 < 2 ^ 64 then save .fence (advanced fence revision phase)
  else fail "launch revision overflow"

/-- A reply that proves the commitment of exactly this registration. -/
def committedReceipt (registration identity reply : Value) : Bool :=
  wasRegistered reply && reply.get "registration_committed" == .bool true &&
    reply.get "continuation_owner_domain" == identity.get "domain_id" &&
    reply.get "listener_revision" == registration.get "listener_revision" &&
    reply.get "listeners" == registration.get "listeners"

/-- The fence under the launch lock, of this source. -/
def readFence (identity : Value) : CustodyScript Value := do
  let fence : Value ← value .fence
  Io.ofExcept (exact identity fence)
  pure fence

/-- Whether the caller is the worker that the fence names, in front of an unreleased fence. -/
def mayTransition (fence : Value) : CustodyScript Bool := do
  let worker ← readIdentity (fence.get "registration_worker")
  let self : CallerChainEntry ← ask .identity
  pure (worker = self ∧ fence.get "phase" = .string Phase.unreleased.text)

def updateLocal (registration : String) : CustodyScript Unit := do
  let recorded : Value ← value .continuationLocal
  save .continuationLocal (recorded.set "registration" (.string registration))

def confirmLocal (registration : String) : CustodyScript Unit :=
  locked .continuation (updateLocal registration)

/-- The launch is confirmed once, by the worker that registered it. -/
def spendFence (identity reply : Value) : CustodyScript Unit := do
  let fence ← readFence identity
  let spendable ← mayTransition fence
  if spendable then do
    immutable .registrationReceipt reply
    transition fence .mayLaunch
    confirmLocal "confirmed"
  else fail "original launch authority is not spendable"

def confirmLaunch (reply : Value) : CustodyScript Unit := do
  let (registration, identity) ← binding site
  Io.ofExcept (exact identity reply)
  if committedReceipt registration identity reply then locked .launch (spendFence identity reply)
  else fail "not an exact committed registration receipt"

def revokeOwn : CustodyScript Unit := do
  let (_, identity) ← binding site
  let fence ← readFence identity
  let revocable ← mayTransition fence
  if revocable then transition fence .revokedNeverLaunched else pure ()

def abandon : CustodyScript Unit := do
  if ← enabled then locked .launch (revokeOwn site) else pure ()

/-- The workload's identity is recorded with the launch. -/
def recordLaunch (child : Nat) : CustodyScript (Option CallerChainEntry) := do
  let (_, identity) ← binding site
  let fence ← readFence identity
  if fence.get "phase" = .string Phase.mayLaunch.text then do
    let workload : CallerChainEntry ← ask (.childIdentity child)
    transition (fence.set "workload_identity" workload.value) .launched
    pure (some workload)
  else fail "launch fence conflict"

def launched (child : Nat) : CustodyScript (Option CallerChainEntry) := do
  if ← enabled then locked .launch (recordLaunch site child) else pure none

/-- The recovery revokes what is unreleased, once the worker is proven gone. -/
def revokeGone (fence : Value) : CustodyScript Bool := do
  if fence.get "phase" = .string Phase.unreleased.text then do
    let worker ← readIdentity (fence.get "registration_worker")
    let evidence : ProcessIdentityEvidence ← ask (.processIdentityEvidence worker)
    if evidence.conclusive then do
      transition fence .revokedNeverLaunched
      pure true
    else pure false
  else pure true

end Transitions

end SourceCustody

end AgentBash
