import AgentBash.Retention.ExactRelease

/-!
# What binds a reply to a source

`exact` and `binding` read back: a reply that passes carries the digest of the very registration
that was read and every field that identifies it, and the registration names the handle it lies in.
-/

namespace AgentBash

set_option autoImplicit false

open Durable

def identityKeys : List String := ["protocol", "domain_id", "source_id", "handle", "registration_id"]

/-- A reply that carries the identity of a registration, none of it null. -/
structure Identified (registration : Value) (digest : String) (reply : Value) : Prop where
  digest : reply.get "registration_digest" = .string digest
  same : ∀ key ∈ identityKeys, registration.get key ≠ .null ∧ reply.get key = registration.get key

section Exact

variable {identity registration reply : Value} {digest : String}

theorem field_of_exact (agreed : exact identity reply = .ok ()) :
    ∀ key expected, identity.field? key = some expected →
      expected ≠ .null ∧ reply.get key = expected := by
  induction identity with
  | field first value rest _ ih =>
      intro key expected found
      simp only [exact] at agreed
      split at agreed
      · next holds =>
        rw [Value.field?] at found
        by_cases same : first = key
        · rw [if_pos same] at found
          rw [← same, ← Option.some.inj found]
          exact holds
        · rw [if_neg same] at found
          exact ih agreed key expected found
      · cases agreed
  | _ =>
      intro key expected found
      cases found

theorem common_eq_object : common registration digest =
    .object [("registration_digest", .string digest),
      ("protocol", registration.get "protocol"), ("domain_id", registration.get "domain_id"),
      ("source_id", registration.get "source_id"), ("handle", registration.get "handle"),
      ("registration_id", registration.get "registration_id")] := rfl

theorem field?_common {key : String} (member : key ∈ identityKeys) :
    (common registration digest).field? key = some (registration.get key) := by
  rw [common_eq_object, Value.field?_object]
  simp only [identityKeys, List.mem_cons, List.not_mem_nil, or_false] at member
  rcases member with rfl | rfl | rfl | rfl | rfl <;> rfl

theorem field?_common_digest :
    (common registration digest).field? "registration_digest" = some (.string digest) := by
  rw [common_eq_object, Value.field?_object]
  rfl

theorem identified_of_exact (agreed : exact (common registration digest) reply = .ok ()) :
    Identified registration digest reply := by
  have fields := field_of_exact agreed
  exact {
    digest := (fields _ _ field?_common_digest).2
    same := fun key member => fields key _ (field?_common member) }

end Exact

section Binding

variable {registration identity : Value}

theorem registered_of_require {expectations : List (String × Value × String)}
    (required : requireFields registration expectations = .ok ()) :
    ∀ key expected conflict, (key, expected, conflict) ∈ expectations →
      registration.get key = expected := by
  induction expectations with
  | nil => intro key expected conflict member; cases member
  | cons first rest ih =>
      intro key expected conflict member
      simp only [requireFields] at required
      split at required
      · next holds =>
        rcases List.mem_cons.mp member with same | later
        · rw [← same] at holds
          exact holds
        · exact ih required key expected conflict later
      · cases required

variable [Codec] {dir : StateDirectory}

/-- The registration that stands in a directory, with the bytes its digest is taken of. -/
structure Registered (dir : StateDirectory) (registration identity : Value) (data : Bytes) :
    Prop where
  read : (dir.entry SourceFile.registration).readBounded maxSource = .ok data
  parses : Codec.parse data = some registration
  identity : identity = common registration (Codec.sha256 data)
  fields : ∀ key expected conflict, (key, expected, conflict) ∈ registeredFields dir.paths →
    registration.get key = expected

theorem registered_of_binding (bound : binding dir = .ok (registration, identity)) :
    ∃ data, Registered dir registration identity data := by
  obtain ⟨data, read, rest⟩ := ok_of_bind bound
  obtain ⟨parsed, parses, rest⟩ := ok_of_bind rest
  obtain ⟨_, required, rest⟩ := ok_of_bind rest
  obtain ⟨_, _, rest⟩ := ok_of_bind rest
  obtain ⟨rfl, rfl⟩ := Prod.mk.inj (Except.ok.inj rest)
  exact ⟨data, read, some_of_elim parses, rfl, registered_of_require required⟩

theorem binding_of_fields {data : Bytes}
    (read : (dir.entry SourceFile.registration).readBounded maxSource = .ok data)
    (parses : Codec.parse data = some registration)
    (required : requireFields registration (registeredFields dir.paths) = .ok ())
    (identical : exact (common registration (Codec.sha256 data))
      (common registration (Codec.sha256 data)) = .ok ()) :
    binding dir = .ok (registration, common registration (Codec.sha256 data)) := by
  unfold binding
  simp only [bind, Except.bind, read, parses, Option.elim, required, identical]

end Binding

end AgentBash
