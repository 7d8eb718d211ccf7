import AgentBash.Json.Record

/-!
# Maps of strings

`BTreeMap<String, String>` as it is written: a flat record that holds nothing but strings.
-/

namespace AgentBash

set_option autoImplicit false

namespace Value

/-- A field of this value would come after the key. -/
def startsAfter (key : String) : Value → Bool
  | .field next _ _ => decide (key < next)
  | _ => true

/-- An object of strings whose keys are sorted. -/
def isStringMap : Value → Bool
  | .empty => true
  | .field key (.string _) rest => rest.startsAfter key && rest.isStringMap
  | _ => false

def Texts (value : Value) : Prop :=
  ∀ key found, value.field? key = some found → ∃ text, found = .string text

theorem field_of_isStringMap {key : String} {value rest : Value}
    (map : (Value.field key value rest).isStringMap = true) :
    (∃ text, value = .string text) ∧ rest.startsAfter key = true ∧ rest.isStringMap = true := by
  cases value with
  | string text =>
      obtain ⟨after, more⟩ := Bool.and_eq_true_iff.mp map
      exact ⟨⟨text, rfl⟩, after, more⟩
  | _ => cases map

theorem record_of_isStringMap {value : Value} (map : value.isStringMap = true) :
    value.Record ∧ value.Texts := by
  induction value with
  | empty => exact ⟨.empty, nofun⟩
  | field key found rest _ ih =>
      obtain ⟨⟨text, rfl⟩, after, more⟩ := field_of_isStringMap map
      obtain ⟨record, texts⟩ := ih more
      constructor
      · cases rest with
        | empty => exact .single rfl
        | field next other rest => exact .cons rfl (of_decide_eq_true after) record
        | _ => cases more
      · intro wanted found present
        rw [field?_field] at present
        split at present
        · exact ⟨text, (Option.some.inj present).symm⟩
        · exact texts wanted found present
  | _ => cases map

theorem isStringMap_of_record {value : Value} (record : value.Record) (texts : value.Texts) :
    value.isStringMap = true := by
  induction record with
  | empty => rfl
  | @field key found rest plain sorted record ih =>
      obtain ⟨text, rfl⟩ := texts key found (if_pos rfl)
      have later : rest.Texts := by
        intro wanted other present
        have differs : key ≠ wanted :=
          String.ne_of_lt (sorted wanted (by rw [present]; exact Option.some_ne_none _))
        exact texts wanted other ((if_neg differs).trans present)
      have after : rest.startsAfter key = true := by
        cases rest with
        | field next other rest =>
            exact decide_eq_true (sorted next (by rw [field?_field, if_pos rfl]; exact Option.some_ne_none _))
        | _ => rfl
      exact Bool.and_eq_true_iff.mpr ⟨after, ih later⟩

end Value

structure StringMap where
  object : Value
  record : object.Record
  texts : object.Texts

namespace StringMap

variable {map : StringMap} {name wanted text : String}

def empty : StringMap := ⟨.empty, .empty, nofun⟩

def get? (map : StringMap) (name : String) : Option String :=
  (map.object.field? name).bind Value.asStr

/-- `insert` replaces what was there. -/
def insert (map : StringMap) (name text : String) : StringMap where
  object := map.object.set name (.string text)
  record := map.record.set rfl
  texts := by
    intro wanted found present
    rw [Value.field?_set map.record.isObject] at present
    split at present
    · exact ⟨text, (Option.some.inj present).symm⟩
    · exact map.texts wanted found present

/-- A value read as a map. -/
def ofValue (value : Value) : Option StringMap :=
  if map : value.isStringMap = true then
    some ⟨value, (Value.record_of_isStringMap map).1, (Value.record_of_isStringMap map).2⟩
  else none

def isEmpty (map : StringMap) : Bool := map.object == .empty

/-- The entries in the order of their names. -/
def entriesOf : Value → List (String × String)
  | .field key (.string text) rest => (key, text) :: entriesOf rest
  | _ => []

def entries (map : StringMap) : List (String × String) := entriesOf map.object

theorem get?_empty : empty.get? name = none := rfl

theorem get?_insert : (map.insert name text).get? wanted =
    if name = wanted then some text else map.get? wanted := by
  unfold get? insert
  rw [Value.field?_set map.record.isObject]
  split <;> rfl

theorem ofValue_object (map : StringMap) : ofValue map.object = some map :=
  dif_pos (Value.isStringMap_of_record map.record map.texts)

theorem object_of_ofValue {value : Value} (read : ofValue value = some map) :
    value = map.object := by
  unfold ofValue at read
  split at read
  · rw [← Option.some.inj read]
  · cases read

theorem eq_empty_of_isEmpty (nothing : map.isEmpty = true) : map = empty := by
  obtain ⟨object, record, texts⟩ := map
  obtain rfl : object = .empty := by simpa [isEmpty] using nothing
  rfl

theorem mem_entriesOf {value : Value} (record : value.Record) (texts : value.Texts) :
    (name, text) ∈ entriesOf value ↔ value.field? name = some (.string text) := by
  induction record with
  | empty => exact ⟨nofun, nofun⟩
  | @field key found rest plain sorted record ih =>
      have later : rest.Texts :=
        (Value.record_of_isStringMap (Value.field_of_isStringMap
          (Value.isStringMap_of_record (.field plain sorted record) texts)).2.2).2
      obtain ⟨first, rfl⟩ := texts key found (if_pos rfl)
      rw [entriesOf, List.mem_cons, ih later, Value.field?_field]
      by_cases same : key = name
      · subst same
        have absent : rest.field? key = none := by
          cases present : rest.field? key with
          | none => rfl
          | some other =>
              have after := sorted key (by rw [present]; exact Option.some_ne_none _)
              exact absurd after (String.lt_irrefl key)
        rw [if_pos rfl, absent]
        simp [eq_comm]
      · rw [if_neg same]
        constructor
        · rintro (head | tail)
          · exact absurd (congrArg Prod.fst head).symm same
          · exact tail
        · exact .inr

theorem mem_entries : (name, text) ∈ map.entries ↔ map.get? name = some text := by
  rw [entries, mem_entriesOf map.record map.texts, get?, Option.bind_eq_some_iff]
  constructor
  · intro present
    exact ⟨_, present, rfl⟩
  · rintro ⟨found, present, is_text⟩
    rw [present, string_of_asStr is_text]

end StringMap

end AgentBash
