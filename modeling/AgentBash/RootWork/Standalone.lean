import AgentBash.RootWork.SessionRing

/-!
# Standalone admission

`selected` of `root_work.rs`: which route a launch takes. Without a requirement marker and without
root authority it may only stand alone where neither the session keyring nor the ancestors of the
caller belong to paired work, and where both queries were answered.
-/

namespace AgentBash

set_option autoImplicit false

open Durable

namespace RootWork

section Selection

/-- The environment variables that choose a route. -/
structure Route where
  required : Option Bytes := none
  endpoint : Option Bytes := none
  rootAuthority : Option Bytes := none

/-- The ring is asked first, and the ancestors only where it is not paired. -/
def classifyStandalone (ring ancestor : Except IoError Bool) : Except IoError Unit :=
  match ring with
  | .ok true => .error (.other
      "inherited paired session keyring but original-work authority is missing")
  | .error error => .error (operationError "standalone selection: session keyring classification" error)
  | .ok false =>
      match ancestor with
      | .ok true => .error (.other ("paired worker or guardian ancestor is live but inherited " ++
          "original-work authority is missing"))
      | .error error => .error (operationError "standalone selection: ancestor classification" error)
      | .ok false => .ok ()

/-- The marker is either absent or exactly `1`. -/
def requiredMarker (route : Route) : Except IoError Bool :=
  match route.required with
  | none => .ok false
  | some value =>
      if value = utf8 "1" then .ok true
      else .error (.other "paired original-work requirement marker is invalid")

/-- Whether the launch is paired; what `preaccept_failure` records beside the error that it hands on
is part of the submission. -/
def selected (route : Route) (ring ancestor : Except IoError Bool) : Except IoError Bool := do
  let required ← requiredMarker route
  if !required && route.rootAuthority.isNone then classifyStandalone ring ancestor
  match route.endpoint.isSome, route.rootAuthority.isSome with
  | false, false =>
      if !required then .ok false
      else .error (.other ("paired original-work context is required but endpoint and root " ++
        "authority are missing"))
  | true, false =>
      if !required then .ok false
      else .error (.other ("paired root endpoint is present but root authority is missing; " ++
        "standalone fallback is forbidden"))
  | true, true => .ok true
  | false, true => .error (.other ("paired root authority is present but endpoint is missing; " ++
      "standalone fallback is forbidden"))

/-- The route of a caller, by what `keyctl` answers and what its ancestry is. -/
def selectedRoute (route : Route) (keyctl : Keyctl) (effectiveUid : UInt32)
    (ancestor : Except IoError Bool) : Except IoError Bool :=
  selected route (inheritedPairedSessionRing keyctl effectiveUid) ancestor

end Selection

section Conclusive

variable {route : Route} {keyctl : Keyctl} {effectiveUid : UInt32} {paired : Bool}
  {ring ancestor : Except IoError Bool}

/-- Every query for the session ring was answered, for one ring and with the whole of its record. -/
structure Conclusive (keyctl : Keyctl) (record : Bytes) : Prop where
  ring : ∃ id, keyctl.initial = .ok id ∧ keyctl.recheck = .ok id ∧ 0 < id ∧ id < 2 ^ 31
  described : keyctl.describe = .ok (record.length + 1)
  terminated : record ++ [0] <+: keyctl.description

theorem classifyStandalone_iff : classifyStandalone ring ancestor = .ok () ↔
    ring = .ok false ∧ ancestor = .ok false := by
  unfold classifyStandalone
  rcases ring with error | _ | _ <;> rcases ancestor with other | _ | _ <;> simp

theorem sessionRingId_iff {answer : Except IoError Nat} {id : Nat} :
    sessionRingId answer = .ok id ↔ answer = .ok id ∧ 0 < id ∧ id < 2 ^ 31 := by
  unfold sessionRingId
  constructor
  · intro found
    obtain ⟨other, answered, rest⟩ := ok_of_bind found
    split at rest
    · cases rest
    · next valid =>
      obtain rfl := Except.ok.inj rest
      exact ⟨answered, by omega, by omega⟩
  · rintro ⟨rfl, positive, small⟩
    exact if_neg (by omega)

theorem ok_of_mapError {ε α : Type} {result : Except ε α} {relabel : ε → ε} {value : α} :
    result.mapError relabel = .ok value ↔ result = .ok value := by
  cases result with
  | error error => exact ⟨nofun, nofun⟩
  | ok found => exact Iff.rfl

/-- The ring is paired or not exactly where its description is conclusive and tells so. -/
theorem inheritedPairedSessionRing_iff :
    inheritedPairedSessionRing keyctl effectiveUid = .ok paired ↔
      ∃ record, Conclusive keyctl record ∧
        parseSessionRingDescription record effectiveUid = .ok paired := by
  constructor
  · intro found
    obtain ⟨session, first, rest⟩ := ok_of_bind found
    obtain ⟨length, described, rest⟩ := ok_of_bind rest
    split at rest
    · cases rest
    · next whole =>
      simp only [not_or, not_not] at whole
      obtain ⟨some_, within, ends⟩ := whole
      obtain ⟨again, second, rest⟩ := ok_of_bind rest
      split at rest
      · cases rest
      · next same =>
        obtain ⟨answered, positive, small⟩ := sessionRingId_iff.mp (ok_of_mapError.mp first)
        obtain ⟨rechecked, _⟩ := sessionRingId_iff.mp (ok_of_mapError.mp second)
        rw [not_not.mp same] at rechecked
        have taken : (keyctl.description.take (length - 1)).length = length - 1 := by
          rw [List.length_take]
          omega
        refine ⟨keyctl.description.take (length - 1), ⟨⟨session, answered, rechecked, positive,
          small⟩, ?_, ?_⟩, rest⟩
        · rw [taken, ok_of_mapError.mp described]
          exact congrArg Except.ok (by omega)
        · have next_ : keyctl.description.take (length - 1) ++ [0] =
              keyctl.description.take (length - 1 + 1) := by
            rw [List.take_add_one, ends]
            rfl
          rw [next_]
          exact List.take_prefix _ _
  · rintro ⟨record, conclusive, parses⟩
    obtain ⟨id, answered, rechecked, positive, small⟩ := conclusive.ring
    obtain ⟨rest, is_rest⟩ := conclusive.terminated
    have first : sessionRingId keyctl.initial = .ok id :=
      sessionRingId_iff.mpr ⟨answered, positive, small⟩
    have second : sessionRingId keyctl.recheck = .ok id :=
      sessionRingId_iff.mpr ⟨rechecked, positive, small⟩
    have ends : keyctl.description[record.length]? = some 0 := by
      rw [← is_rest, List.append_assoc, List.getElem?_append_right (Nat.le_refl _), Nat.sub_self]
      rfl
    have within : record.length + 1 ≤ keyctl.description.length := by
      rw [← is_rest]
      simp
    have front : keyctl.description.take record.length = record := by
      rw [← is_rest, List.append_assoc, List.take_left]
    have whole : ¬ (record.length + 1 = 0 ∨ record.length + 1 > keyctl.description.length ∨
        keyctl.description[record.length + 1 - 1]? ≠ some 0) := by
      rw [Nat.add_sub_cancel, ends]
      simp only [not_or]
      exact ⟨by omega, by omega, by simp⟩
    unfold inheritedPairedSessionRing
    rw [first, second, conclusive.described]
    simp only [Except.mapError, bind, Except.bind, ne_eq, not_true_eq_false, if_false,
      Nat.add_sub_cancel, front, parses]
    rw [Nat.add_sub_cancel] at whole
    exact if_neg whole

theorem requiredMarker_iff {required : Bool} : requiredMarker route = .ok required ↔
    (route.required = none ∧ required = false) ∨
      (route.required = some (utf8 "1") ∧ required = true) := by
  unfold requiredMarker
  cases marker : route.required with
  | none => simp [eq_comm]
  | some value =>
      by_cases one : value = utf8 "1"
      · simp [one, eq_comm]
      · simp [one]

/-- A launch stands alone exactly without marker and authority, and where both queries are
conclusive negatives. -/
theorem selected_alone_iff : selected route ring ancestor = .ok false ↔
    route.required = none ∧ route.rootAuthority = none ∧ ring = .ok false ∧
      ancestor = .ok false := by
  unfold selected
  constructor
  · intro alone
    obtain ⟨required, marker, rest⟩ := ok_of_bind alone
    rcases requiredMarker_iff.mp marker with ⟨absent, rfl⟩ | ⟨_, rfl⟩
    · cases authority : route.rootAuthority with
      | none =>
          simp only [authority, Bool.not_false, Option.isNone_none, Bool.and_self, if_true] at rest
          obtain ⟨_, classified, _⟩ := ok_of_bind rest
          exact ⟨absent, rfl, classifyStandalone_iff.mp classified⟩
      | some value =>
          rw [authority] at rest
          cases endpoint : route.endpoint.isSome <;> rw [endpoint] at rest <;> cases rest
    · simp only [Bool.not_true, Bool.false_and, Bool.false_eq_true, if_false] at rest
      cases endpoint : route.endpoint.isSome <;>
        cases authority : route.rootAuthority.isSome <;>
        rw [endpoint, authority] at rest <;> cases rest
  · rintro ⟨absent, authority, rfl, rfl⟩
    have marker : requiredMarker route = .ok false := requiredMarker_iff.mpr (.inl ⟨absent, rfl⟩)
    rw [marker, authority]
    cases route.endpoint.isSome <;> rfl

/-- A launch is paired exactly with an endpoint and root authority, and a marker that is valid. -/
theorem selected_paired_iff : selected route ring ancestor = .ok true ↔
    (route.required = none ∨ route.required = some (utf8 "1")) ∧ route.endpoint.isSome = true ∧
      route.rootAuthority.isSome = true := by
  unfold selected
  constructor
  · intro paired
    obtain ⟨required, marker, rest⟩ := ok_of_bind paired
    have valid := (requiredMarker_iff.mp marker).imp And.left And.left
    cases authority : route.rootAuthority with
    | none =>
        simp only [authority] at rest
        cases required with
        | false =>
            obtain ⟨_, _, rest⟩ := ok_of_bind rest
            cases endpoint : route.endpoint.isSome <;> rw [endpoint] at rest <;> cases rest
        | true =>
            cases endpoint : route.endpoint.isSome <;> rw [endpoint] at rest <;> cases rest
    | some value =>
        simp only [authority, Option.isNone_some, Bool.and_false, Bool.false_eq_true, if_false,
          Option.isSome_some] at rest
        cases endpoint : route.endpoint.isSome with
        | false =>
            rw [endpoint] at rest
            cases rest
        | true => exact ⟨valid, rfl, rfl⟩
  · rintro ⟨valid, endpoint, authority⟩
    have present : route.rootAuthority.isNone = false := by
      rw [← Option.not_isSome, authority]
      rfl
    have marker : ∃ required, requiredMarker route = .ok required := by
      rcases valid with absent | one
      · exact ⟨false, requiredMarker_iff.mpr (.inl ⟨absent, rfl⟩)⟩
      · exact ⟨true, requiredMarker_iff.mpr (.inr ⟨one, rfl⟩)⟩
    obtain ⟨required, marked⟩ := marker
    rw [marked, present, endpoint, authority]
    cases required <;> rfl

/-- Only conclusive negatives let a launch stand alone: no marker, no root authority, one unchanged
ring of the caller's own whose whole description names no paired ring, and ancestors that are known
not to be paired. Every other answer to a query is an error, and a description is one exactly unless
it is the record of such a ring or of a paired one. -/
theorem standalone_fails_closed :
    (∀ route keyctl effectiveUid ancestor,
      selectedRoute route keyctl effectiveUid ancestor = .ok false ↔
        route.required = none ∧ route.rootAuthority = none ∧
          inheritedPairedSessionRing keyctl effectiveUid = .ok false ∧ ancestor = .ok false) ∧
    (∀ route keyctl effectiveUid ancestor,
      selectedRoute route keyctl effectiveUid ancestor = .ok true →
        route.endpoint.isSome = true ∧ route.rootAuthority.isSome = true) ∧
    (∀ keyctl effectiveUid paired,
      inheritedPairedSessionRing keyctl effectiveUid = .ok paired ↔
        ∃ record, Conclusive keyctl record ∧
          parseSessionRingDescription record effectiveUid = .ok paired) ∧
    (∀ description effectiveUid,
      parseSessionRingDescription description effectiveUid = .ok true ↔
        ∃ gid permissions uuid, V4Uuid uuid ∧ RingRecord description effectiveUid.toNat gid
          permissions (pairedRingPrefix.toList ++ uuid)) ∧
    ∀ description effectiveUid,
      parseSessionRingDescription description effectiveUid = .ok false ↔
        ∃ gid permissions name, ¬ pairedRingPrefix.toList <+: name ∧
          RingRecord description effectiveUid.toNat gid permissions name := by
  refine ⟨fun _ _ _ _ => selected_alone_iff, fun _ _ _ _ paired =>
    (selected_paired_iff.mp paired).2, fun _ _ _ => inheritedPairedSessionRing_iff, ?_, ?_⟩
  · intro description effectiveUid
    rw [parseSessionRingDescription_iff]
    constructor
    · rintro ⟨gid, permissions, name, record, ⟨_, uuid, rfl, v4⟩ | ⟨differs, _⟩⟩
      · exact ⟨gid, permissions, uuid, v4, record⟩
      · cases differs
    · rintro ⟨gid, permissions, uuid, v4, record⟩
      exact ⟨gid, permissions, _, record, .inl ⟨rfl, uuid, rfl, v4⟩⟩
  · intro description effectiveUid
    rw [parseSessionRingDescription_iff]
    constructor
    · rintro ⟨gid, permissions, name, record, ⟨differs, _⟩ | ⟨_, unmarked⟩⟩
      · cases differs
      · exact ⟨gid, permissions, name, unmarked, record⟩
    · rintro ⟨gid, permissions, name, unmarked, record⟩
      exact ⟨gid, permissions, name, record, .inr ⟨rfl, unmarked⟩⟩

end Conclusive

end RootWork

end AgentBash
