import AgentBash.Durable.Program
import AgentBash.Json.Value
import AgentBash.Text.Words
import Mathlib.Data.List.Infix

/-!
# The session keyring of a caller

`inherited_paired_session_ring` of `root_work.rs`: the kernel describes the session keyring in one
bounded record, and the name of a paired ring ends in a random UUID. Only a well-formed record of a
ring that stayed the same says anything about the caller.
-/

namespace AgentBash

set_option autoImplicit false

open Durable Text

namespace RootWork

/-- An error keeps its kind under the operation that met it. -/
def operationError (operation : String) (error : IoError) : IoError :=
  ⟨error.kind, operation ++ ": " ++ error.detail⟩

section Description

def pairedRingPrefix : String := "oulipoly-paired-original-work-v1:"

def maxKeyDescriptionBytes : Nat := 256

def isLowerHex (c : Char) : Bool := c.isDigit || ('a' ≤ c && c ≤ 'f')

def isAsciiHexdigit (c : Char) : Bool := isLowerHex c || ('A' ≤ c && c ≤ 'F')

/-- An ASCII character that is not a control character. -/
def isNameCharacter (c : Char) : Bool := 32 ≤ c.toNat && c.toNat < 127

def isUuidCharacter : Char × Nat → Bool
  | (c, index) =>
      if index = 8 ∨ index = 13 ∨ index = 18 ∨ index = 23 then c == '-' else isLowerHex c

/-- The name is ASCII already, so its characters are its bytes. -/
def validPairedRingUuid (uuid : List Char) : Bool :=
  uuid.length == 36 && uuid.zipIdx.all isUuidCharacter && uuid[14]? == some '4' &&
    uuid[19]?.any fun c => c == '8' || c == '9' || c == 'a' || c == 'b'

/-- A number of 32 bits in the one spelling it prints in. -/
def canonicalDecimal (text : List Char) : Except IoError Nat :=
  match parseUnsigned 32 text with
  | none => .error (.other "invalid session keyring owner")
  | some parsed =>
      if decimal parsed = text then .ok parsed
      else .error (.other "noncanonical session keyring owner")

/-- What the name of a ring tells; the permissions are eight digits, so that they are eight bytes. -/
def parseRingName (permissions name : List Char) : Except IoError Bool :=
  if permissions.length ≠ 8 ∨ !permissions.all isAsciiHexdigit then
    .error (.other "invalid session keyring permission description")
  else if name = [] ∨ !name.all isNameCharacter then
    .error (.other "invalid session keyring name")
  else if pairedRingPrefix.toList.isPrefixOf name then
    if validPairedRingUuid (name.drop pairedRingPrefix.toList.length) then .ok true
    else .error (.other "invalid paired session keyring UUID")
  else .ok false

def parseSessionRingDescription (description : Bytes) (effectiveUid : UInt32) :
    Except IoError Bool :=
  match readUtf8 description with
  | none => .error (.other "invalid session keyring description encoding")
  | some record =>
      match record.toList.splitOn ';' with
      | [kind, uid, gid, permissions, name] =>
          if kind = "keyring".toList then do
            let owner ← canonicalDecimal uid
            if owner = effectiveUid.toNat then do
              let _ ← canonicalDecimal gid
              parseRingName permissions name
            else .error (.other "session keyring owner UID differs from caller")
          else .error (.other "invalid session keyring description fields")
      | _ => .error (.other "invalid session keyring description fields")

end Description


section Meaning

/-- A random UUID in lower case: version four, of the variant of RFC 4122. -/
def V4Uuid (uuid : List Char) : Prop :=
  ∃ time mid high variant sequence node,
    uuid = time ++ '-' :: (mid ++ '-' :: '4' :: (high ++ '-' :: variant ::
      (sequence ++ '-' :: node))) ∧
    time.length = 8 ∧ mid.length = 4 ∧ high.length = 3 ∧ sequence.length = 3 ∧ node.length = 12 ∧
    (∀ c ∈ time ++ mid ++ high ++ sequence ++ node, isLowerHex c = true) ∧
    variant ∈ ['8', '9', 'a', 'b']

theorem all_isUuidCharacter {group : List Char} {start : Nat}
    (digits : ∀ c ∈ group, isLowerHex c = true)
    (clear : ∀ index, start ≤ index → index < start + group.length →
      index ≠ 8 ∧ index ≠ 13 ∧ index ≠ 18 ∧ index ≠ 23) :
    (group.zipIdx start).all isUuidCharacter = true := by
  refine List.all_eq_true.mpr fun (c, index) inside => ?_
  obtain ⟨low, high, stands⟩ := List.mem_zipIdx inside
  have apart : ¬ (index = 8 ∨ index = 13 ∨ index = 18 ∨ index = 23) := by
    have := clear index low high
    omega
  rw [isUuidCharacter, if_neg apart, stands]
  exact digits _ (List.getElem_mem _)

theorem valid_of_v4Uuid {uuid : List Char} (v4 : V4Uuid uuid) : validPairedRingUuid uuid = true := by
  obtain ⟨time, mid, high, variant, sequence, node, rfl, time8, mid4, high3, sequence3, node12,
    digits, variants⟩ := v4
  have hex : isLowerHex variant = true ∧
      (variant == '8' || variant == '9' || variant == 'a' || variant == 'b') = true := by
    simp only [List.mem_cons, List.not_mem_nil, or_false] at variants
    rcases variants with rfl | rfl | rfl | rfl <;> decide
  have groups {group : List Char} (inside : ∀ c ∈ group, c ∈ time ++ mid ++ high ++ sequence ++ node) :
      ∀ c ∈ group, isLowerHex c = true := fun c member => digits c (inside c member)
  have characters : (time ++ '-' :: (mid ++ '-' :: '4' :: (high ++ '-' :: variant ::
      (sequence ++ '-' :: node)))).zipIdx.all isUuidCharacter = true := by
    simp only [List.zipIdx_append, List.zipIdx_cons, List.all_append, List.all_cons, time8, mid4,
      high3, sequence3, Nat.zero_add, Nat.reduceAdd, Bool.and_eq_true]
    refine ⟨all_isUuidCharacter (groups (by simp; tauto)) (by omega), rfl,
      all_isUuidCharacter (groups (by simp; tauto)) (by omega), rfl, rfl,
      all_isUuidCharacter (groups (by simp; tauto)) (by omega), rfl, hex.1,
      all_isUuidCharacter (groups (by simp; tauto)) (by omega), rfl,
      all_isUuidCharacter (groups (by simp; tauto)) (by omega)⟩
  have length : (time ++ '-' :: (mid ++ '-' :: '4' :: (high ++ '-' :: variant ::
      (sequence ++ '-' :: node)))).length = 36 := by
    simp only [List.length_append, List.length_cons]
    omega
  have version : (time ++ '-' :: (mid ++ '-' :: '4' :: (high ++ '-' :: variant ::
      (sequence ++ '-' :: node))))[14]? = some '4' := by
    simp [List.getElem?_append, time8, mid4]
  have variants : (time ++ '-' :: (mid ++ '-' :: '4' :: (high ++ '-' :: variant ::
      (sequence ++ '-' :: node))))[19]? = some variant := by
    simp [List.getElem?_append, time8, mid4, high3]
  rw [validPairedRingUuid, characters, length, version, variants, Option.any_some, hex.2]
  rfl

theorem v4Uuid_of_valid {uuid : List Char} (valid : validPairedRingUuid uuid = true) :
    V4Uuid uuid := by
  simp only [validPairedRingUuid, Bool.and_eq_true, beq_iff_eq] at valid
  obtain ⟨⟨⟨length, characters⟩, version⟩, variant⟩ := valid
  match uuid, length with
  | c0 :: c1 :: c2 :: c3 :: c4 :: c5 :: c6 :: c7 :: c8 :: c9 :: c10 :: c11 :: c12 :: c13 ::
      c14 :: c15 :: c16 :: c17 :: c18 :: c19 :: c20 :: c21 :: c22 :: c23 :: c24 :: c25 :: c26 ::
      c27 :: c28 :: c29 :: c30 :: c31 :: c32 :: c33 :: c34 :: c35 :: [], _ =>
      have is_version : c14 = '4' := Option.some.inj version
      have is_variant : c19 ∈ ['8', '9', 'a', 'b'] := by simpa [or_assoc] using variant
      simp only [List.zipIdx_cons, List.zipIdx_nil, List.all_cons, List.all_nil, Nat.reduceAdd,
        isUuidCharacter, Bool.and_eq_true] at characters
      simp at characters
      refine ⟨[c0, c1, c2, c3, c4, c5, c6, c7], [c9, c10, c11, c12], [c15, c16, c17], c19,
        [c20, c21, c22], [c24, c25, c26, c27, c28, c29, c30, c31, c32, c33, c34, c35], ?_, rfl, rfl,
        rfl, rfl, rfl, ?_, is_variant⟩
      · simp [characters, is_version]
      · simp [characters]

/-- A description of a keyring of one owner, with the rest of its fields. -/
structure RingRecord (description : Bytes) (uid gid : Nat) (permissions name : List Char) :
    Prop where
  written : description = utf8 (.ofList ([';'].intercalate
    ["keyring".toList, decimal uid, decimal gid, permissions, name]))
  gid_fits : gid < 2 ^ 32
  permissions_length : permissions.length = 8
  permissions_digits : ∀ c ∈ permissions, isAsciiHexdigit c = true
  name_some : name ≠ []
  name_characters : ∀ c ∈ name, isNameCharacter c = true
  name_whole : ';' ∉ name

/-- What a name tells of its ring. -/
def NameSays (name : List Char) (paired : Bool) : Prop :=
  (paired = true ∧ ∃ uuid, name = pairedRingPrefix.toList ++ uuid ∧ V4Uuid uuid) ∨
    (paired = false ∧ ¬ pairedRingPrefix.toList <+: name)

theorem canonicalDecimal_iff {text : List Char} {value : Nat} :
    canonicalDecimal text = .ok value ↔ value < 2 ^ 32 ∧ text = decimal value := by
  unfold canonicalDecimal
  constructor
  · intro parses
    split at parses
    · cases parses
    · next parsed found =>
      split at parses
      · next prints =>
        obtain rfl := Except.ok.inj parses
        obtain ⟨_, fits⟩ := Option.filter_eq_some_iff.mp found
        exact ⟨of_decide_eq_true fits, prints.symm⟩
      · cases parses
  · rintro ⟨fits, rfl⟩
    rw [parseUnsigned_decimal fits]
    simp only [if_true]

theorem parseRingName_iff {permissions name : List Char} {paired : Bool} :
    parseRingName permissions name = .ok paired ↔
      (permissions.length = 8 ∧ (∀ c ∈ permissions, isAsciiHexdigit c = true) ∧ name ≠ [] ∧
        ∀ c ∈ name, isNameCharacter c = true) ∧ NameSays name paired := by
  unfold parseRingName NameSays
  by_cases shape : permissions.length ≠ 8 ∨ (!permissions.all isAsciiHexdigit) = true
  · rw [if_pos shape]
    refine ⟨nofun, fun ⟨⟨length, digits, _⟩, _⟩ => ?_⟩
    rcases shape with other | other
    · exact absurd length other
    · rw [List.all_eq_true.mpr digits] at other
      cases other
  · rw [if_neg shape]
    simp only [not_or, not_not, Bool.not_eq_true', Bool.not_eq_false, List.all_eq_true] at shape
    by_cases naming : name = [] ∨ (!name.all isNameCharacter) = true
    · rw [if_pos naming]
      refine ⟨nofun, fun ⟨⟨_, _, some_, characters⟩, _⟩ => ?_⟩
      rcases naming with other | other
      · exact absurd other some_
      · rw [List.all_eq_true.mpr characters] at other
        cases other
    · rw [if_neg naming]
      simp only [not_or, Bool.not_eq_true', Bool.not_eq_false, List.all_eq_true] at naming
      have named : permissions.length = 8 ∧ (∀ c ∈ permissions, isAsciiHexdigit c = true) ∧
          name ≠ [] ∧ ∀ c ∈ name, isNameCharacter c = true :=
        ⟨shape.1, shape.2, naming.1, naming.2⟩
      refine Iff.trans ?_ (and_iff_right named).symm
      by_cases marked : pairedRingPrefix.toList <+: name
      · rw [if_pos (List.isPrefixOf_iff_prefix.mpr marked)]
        obtain ⟨uuid, rfl⟩ := marked
        rw [List.drop_left]
        by_cases valid : validPairedRingUuid uuid = true
        · rw [if_pos valid]
          constructor
          · intro same
            exact .inl ⟨(Except.ok.inj same).symm, uuid, rfl, v4Uuid_of_valid valid⟩
          · rintro (⟨rfl, _⟩ | ⟨_, unmarked⟩)
            · rfl
            · exact absurd (List.prefix_append _ _) unmarked
        · rw [if_neg valid]
          refine ⟨nofun, ?_⟩
          rintro (⟨_, other, same, v4⟩ | ⟨_, unmarked⟩)
          · rw [← List.append_cancel_left same] at v4
            exact absurd (valid_of_v4Uuid v4) valid
          · exact absurd (List.prefix_append _ _) unmarked
      · rw [if_neg fun found => marked (List.isPrefixOf_iff_prefix.mp found)]
        constructor
        · intro same
          exact .inr ⟨(Except.ok.inj same).symm, marked⟩
        · rintro (⟨_, uuid, rfl, _⟩ | ⟨rfl, _⟩)
          · exact absurd (List.prefix_append _ _) marked
          · rfl

theorem notMem_permissions {permissions : List Char}
    (digits : ∀ c ∈ permissions, isAsciiHexdigit c = true) : ';' ∉ permissions := fun inside =>
  absurd (digits ';' inside) (by decide)

theorem notMem_decimal (value : Nat) : ';' ∉ decimal value := fun inside =>
  absurd (isDigit_of_mem_decimal inside) (by decide)

/-- A description is paired or not exactly where it is a record of the caller's own ring whose name
tells so. -/
theorem parseSessionRingDescription_iff {description : Bytes} {effectiveUid : UInt32}
    {paired : Bool} : parseSessionRingDescription description effectiveUid = .ok paired ↔
      ∃ gid permissions name,
        RingRecord description effectiveUid.toNat gid permissions name ∧ NameSays name paired := by
  constructor
  · intro parses
    unfold parseSessionRingDescription at parses
    split at parses
    · cases parses
    · next record read =>
      split at parses
      · next kind uid gid permissions name fields =>
        split at parses
        · next keyring =>
          obtain ⟨owner, owned, parses⟩ := ok_of_bind parses
          split at parses
          · next same =>
            obtain ⟨group, grouped, parses⟩ := ok_of_bind parses
            obtain ⟨_, is_uid⟩ := canonicalDecimal_iff.mp owned
            obtain ⟨fits, is_gid⟩ := canonicalDecimal_iff.mp grouped
            obtain ⟨⟨length, digits, some_, characters⟩, meaning⟩ := parseRingName_iff.mp parses
            have whole : [';'].intercalate (record.toList.splitOn ';') = record.toList :=
              List.intercalate_splitOn ';'
            rw [fields, keyring, is_uid, is_gid, same] at whole
            have separate : ';' ∉ name := by
              have inside : name ∈ record.toList.splitOn ';' := by
                rw [fields]
                simp
              exact notMem_of_mem_splitOn inside
            refine ⟨group, permissions, name, ?_, meaning⟩
            exact {
              written := by rw [whole, String.ofList_toList, readUtf8_eq_some.mp read]
              gid_fits := fits
              permissions_length := length
              permissions_digits := digits
              name_some := some_
              name_characters := characters
              name_whole := separate }
          · cases parses
        · cases parses
      · cases parses
  · rintro ⟨gid, permissions, name, record, meaning⟩
    have fields : ([';'].intercalate ["keyring".toList, decimal effectiveUid.toNat, decimal gid,
        permissions, name]).splitOn ';' =
        ["keyring".toList, decimal effectiveUid.toNat, decimal gid, permissions, name] := by
      refine List.splitOn_intercalate ';' ?_ (by simp)
      intro part inside
      simp only [List.mem_cons, List.not_mem_nil, or_false] at inside
      rcases inside with rfl | rfl | rfl | rfl | rfl
      · decide
      · exact notMem_decimal _
      · exact notMem_decimal _
      · exact notMem_permissions record.permissions_digits
      · exact record.name_whole
    have owned : canonicalDecimal (decimal effectiveUid.toNat) = .ok effectiveUid.toNat :=
      canonicalDecimal_iff.mpr ⟨effectiveUid.toNat_lt, rfl⟩
    have grouped : canonicalDecimal (decimal gid) = .ok gid :=
      canonicalDecimal_iff.mpr ⟨record.gid_fits, rfl⟩
    have named : parseRingName permissions name = .ok paired :=
      parseRingName_iff.mpr ⟨⟨record.permissions_length, record.permissions_digits,
        record.name_some, record.name_characters⟩, meaning⟩
    unfold parseSessionRingDescription
    rw [record.written, readUtf8_eq_some.mpr rfl]
    simp only [String.toList_ofList, fields, if_true, owned, grouped, named, bind, Except.bind]

end Meaning

section Queries

/-- What `keyctl` answers to the three queries, and the buffer that it described the ring into. -/
structure Keyctl where
  initial : Except IoError Nat
  describe : Except IoError Nat
  description : Bytes
  bounded : description.length = maxKeyDescriptionBytes
  recheck : Except IoError Nat

def sessionRingId (answer : Except IoError Nat) : Except IoError Nat := do
  let id ← answer
  if id = 0 ∨ id > 2 ^ 31 - 1 then .error (.other "invalid session keyring identifier")
  else .ok id

def inheritedPairedSessionRing (keyctl : Keyctl) (effectiveUid : UInt32) : Except IoError Bool := do
  let session ← (sessionRingId keyctl.initial).mapError
    (operationError "keyctl GET_KEYRING_ID initial")
  let length ← keyctl.describe.mapError (operationError "keyctl DESCRIBE session keyring")
  if length = 0 ∨ length > keyctl.description.length ∨
      keyctl.description[length - 1]? ≠ some 0 then
    .error (.other "session keyring description is missing or truncated")
  else do
    let again ← (sessionRingId keyctl.recheck).mapError
      (operationError "keyctl GET_KEYRING_ID recheck")
    if again ≠ session then
      .error (.other "session keyring identity changed during classification")
    else parseSessionRingDescription (keyctl.description.take (length - 1)) effectiveUid

end Queries

end RootWork

end AgentBash
