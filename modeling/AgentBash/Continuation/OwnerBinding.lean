import AgentBash.Continuation.Binding

/-!
# The committed registration of an owner

`confirmed_owner_binding` of `continuation.rs`: a later helper may stand for the original owner only
once the very registration was committed. The receipt of the registration proves that; where there is
none, the confirmation that the recovery left.
-/

namespace AgentBash

set_option autoImplicit false

open Durable

namespace SourceFile

def registrationReceipt : String := "registration-receipt-v2.json"
def confirmation : String := "registration-confirmation-v2.json"

end SourceFile

variable [Codec]

/-- The reply that proves a commitment, and whether it is the one the recovery left. -/
def registrationReply (dir : StateDirectory) : Except IoError (Value × Bool) :=
  match (dir.entry SourceFile.registrationReceipt).value with
  | .ok reply => .ok (reply, false)
  | .error error =>
      if error.kind = .notFound then
        (dir.entry SourceFile.confirmation).value.map fun reply => (reply, true)
      else .error error

def wasRegistered (reply : Value) : Bool :=
  (reply.get "status").asStr == some "registered" ||
    (reply.get "status").asStr == some "already_registered"

def confirmedOwnerBinding (dir : StateDirectory) (session invocation helperSha256 : String) :
    Except IoError Unit := do
  let (registration, identity) ← binding dir
  if registration.get "owner_session_id" = .string session ∧
      registration.get "owner_invocation_uuid" = .string invocation ∧
      (registration.get "helper").get "sha256" = .string helperSha256 then do
    let (reply, recovered) ← registrationReply dir
    exact identity reply
    if reply.get "registration_committed" = .bool true then
      if recovered then
        if reply.get "status" = .string "exact_committed" ∧
            reply.get "authority" = .string "completion_only" then .ok ()
        else .error (.other "registration confirmation has wrong authority")
      else if wasRegistered reply ∧
          reply.get "continuation_owner_domain" = identity.get "domain_id" ∧
          reply.get "listener_revision" = registration.get "listener_revision" ∧
          reply.get "listeners" = registration.get "listeners" then .ok ()
      else .error (.other "registration receipt does not match original source")
    else .error (.other "registration receipt does not prove commitment")
  else .error (.other "registration owner or helper binding conflict")

/-- A registration that was committed for one owner and one helper. -/
structure CommittedBinding (session invocation helperSha256 : String) (registration : Value)
    (data : Bytes) (reply : Value) (recovered : Bool) : Prop where
  session : registration.get "owner_session_id" = .string session
  invocation : registration.get "owner_invocation_uuid" = .string invocation
  helper : (registration.get "helper").get "sha256" = .string helperSha256
  identified : Identified registration (Codec.sha256 data) reply
  committed : reply.get "registration_committed" = .bool true
  receipt : recovered = false → wasRegistered reply = true ∧
    reply.get "continuation_owner_domain" = registration.get "domain_id" ∧
    reply.get "listener_revision" = registration.get "listener_revision" ∧
    reply.get "listeners" = registration.get "listeners"
  confirmation : recovered = true → reply.get "status" = .string "exact_committed" ∧
    reply.get "authority" = .string "completion_only"

variable {dir : StateDirectory} {session invocation helperSha256 : String}

theorem committed_of_confirmed
    (confirmed : confirmedOwnerBinding dir session invocation helperSha256 = .ok ()) :
    ∃ registration identity data reply recovered, binding dir = .ok (registration, identity) ∧
      Registered dir registration identity data ∧
      registrationReply dir = .ok (reply, recovered) ∧
      CommittedBinding session invocation helperSha256 registration data reply recovered := by
  obtain ⟨⟨registration, identity⟩, bound, rest⟩ := ok_of_bind confirmed
  obtain ⟨data, registered⟩ := registered_of_binding bound
  have domain : identity.get "domain_id" = registration.get "domain_id" := by
    rw [registered.identity, Value.get_eq_field?, field?_common (by decide), Option.getD_some]
  simp only at rest
  split at rest
  · next owned =>
    obtain ⟨⟨reply, recovered⟩, found, rest⟩ := ok_of_bind rest
    obtain ⟨_, agrees, rest⟩ := ok_of_bind rest
    have identified : Identified registration (Codec.sha256 data) reply :=
      identified_of_exact (registered.identity ▸ agrees)
    split at rest
    · next committed =>
      refine ⟨registration, identity, data, reply, recovered, bound, registered, found, ?_⟩
      cases recovered with
      | true =>
          simp only [if_true] at rest
          split at rest
          · next confirmation =>
            exact ⟨owned.1, owned.2.1, owned.2.2, identified, committed, nofun, fun _ => confirmation⟩
          · cases rest
      | false =>
          simp only [Bool.false_eq_true, if_false] at rest
          split at rest
          · next receipt =>
            rw [domain] at receipt
            exact ⟨owned.1, owned.2.1, owned.2.2, identified, committed, fun _ => receipt, nofun⟩
          · cases rest
    · cases rest
  · cases rest

end AgentBash
