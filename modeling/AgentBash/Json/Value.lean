import Mathlib.Algebra.Group.Int.Defs
import Mathlib.Algebra.Group.Nat.Defs
import Mathlib.Data.Rat.Init

/-!
# JSON values

The values that the source reads and writes with `serde_json`, with the accessors it uses, and the
bytes of a text.
-/

namespace AgentBash

set_option autoImplicit false

/-- JSON values; an array is a chain of items, an object one of fields, sorted by their keys. A
number that is not an integer, or too large for one, is a `float`. -/
inductive Value
  | null
  | bool (value : Bool)
  | number (value : Int)
  | float (value : Rat)
  | string (value : String)
  | nil
  | item (value rest : Value)
  | empty
  | field (key : String) (value rest : Value)
  deriving DecidableEq, Repr

namespace Value

/-- `Value::get` with a key. -/
def field? : Value → String → Option Value
  | .field key value rest, wanted => if key = wanted then some value else rest.field? wanted
  | _, _ => none

/-- Indexing a value that has no such field gives `null`. -/
def get : Value → String → Value
  | .field key value rest, wanted => if key = wanted then value else rest.get wanted
  | _, _ => .null

def asStr : Value → Option String
  | .string value => some value
  | _ => none

def asU64 : Value → Option Nat
  | .number value => if 0 ≤ value ∧ value < 2 ^ 64 then some value.toNat else none
  | _ => none

def asI64 : Value → Option Int
  | .number value => if -2 ^ 63 ≤ value ∧ value < 2 ^ 63 then some value else none
  | _ => none

def isArray : Value → Bool
  | .nil | .item _ _ => true
  | _ => false

def isObject : Value → Bool
  | .empty => true
  | .field _ _ rest => rest.isObject
  | _ => false

def array (items : List Value) : Value := items.foldr .item .nil

/-- Assigning a field keeps the keys sorted; what is not an object does not take one. -/
def set : Value → String → Value → Value
  | .field key value rest, wanted, assigned =>
      if key = wanted then .field key assigned rest
      else if wanted < key then .field wanted assigned (.field key value rest)
      else .field key value (rest.set wanted assigned)
  | .empty, wanted, assigned => .field wanted assigned .empty
  | other, _, _ => other

def object (fields : List (String × Value)) : Value :=
  fields.foldl (fun value (key, assigned) => value.set key assigned) .empty

def nonemptyStr (value : Value) : Bool :=
  value.asStr.any fun text => !text.isEmpty

/-- What a list of fields holds for a key: the last one counts. -/
def assigned : List (String × Value) → String → Option Value
  | [], _ => none
  | (key, value) :: rest, wanted =>
      match assigned rest wanted with
      | some later => some later
      | none => if key = wanted then some value else none

section Fields

variable {value assigned_ : Value} {key wanted : String}

theorem field?_field {first : String} {found rest : Value} :
    (Value.field first found rest).field? wanted =
      if first = wanted then some found else rest.field? wanted := rfl

theorem set_field {first : String} {found rest : Value} :
    (Value.field first found rest).set key assigned_ =
      if first = key then .field first assigned_ rest
      else if key < first then .field key assigned_ (.field first found rest)
      else .field first found (rest.set key assigned_) := rfl

theorem get_eq_field? : value.get wanted = (value.field? wanted).getD .null := by
  induction value with
  | field key found rest _ ih =>
      rw [get, field?_field]
      by_cases same : key = wanted
      · rw [if_pos same, if_pos same]
        rfl
      · rw [if_neg same, if_neg same]
        exact ih
  | _ => rfl

theorem field?_of_get {found : Value} (present : value.get wanted = found) (real : found ≠ .null) :
    value.field? wanted = some found := by
  rw [get_eq_field?] at present
  cases there : value.field? wanted with
  | none =>
      rw [there] at present
      exact absurd present.symm real
  | some other =>
      rw [there] at present
      exact congrArg some present

theorem isObject_set (object : value.isObject = true) : (value.set key assigned_).isObject = true := by
  induction value with
  | empty => rfl
  | field first found rest _ ih =>
      rw [set_field]
      split
      · exact object
      · split
        · exact object
        · exact ih object
  | _ => cases object

theorem field?_set_same (object : value.isObject = true) :
    (value.set key assigned_).field? key = some assigned_ := by
  induction value with
  | empty => exact if_pos rfl
  | field first found rest _ ih =>
      rw [set_field]
      split
      · next same => rw [field?_field, if_pos same]
      · next differs =>
        split
        · exact if_pos rfl
        · rw [field?_field, if_neg differs]
          exact ih object
  | _ => cases object

theorem field?_set_other (differs : key ≠ wanted) :
    (value.set key assigned_).field? wanted = value.field? wanted := by
  induction value with
  | empty => exact if_neg differs
  | field first found rest _ ih =>
      rw [set_field]
      split
      · next same => rw [field?_field, field?_field, same, if_neg differs, if_neg differs]
      · split
        · exact if_neg differs
        · rw [field?_field, field?_field, ih]
  | _ => rfl

theorem field?_set (object : value.isObject = true) :
    (value.set key assigned_).field? wanted =
      if key = wanted then some assigned_ else value.field? wanted := by
  by_cases same : key = wanted
  · rw [if_pos same, ← same, field?_set_same object]
  · rw [if_neg same, field?_set_other same]

theorem field?_foldl (fields : List (String × Value)) (wanted : String)
    (object : value.isObject = true) :
    (fields.foldl (fun value (key, assigned) => value.set key assigned) value).isObject = true ∧
    (fields.foldl (fun value (key, assigned) => value.set key assigned) value).field? wanted =
      (assigned fields wanted).or (value.field? wanted) := by
  induction fields generalizing value with
  | nil => exact ⟨object, rfl⟩
  | cons first fields ih =>
      obtain ⟨key, found⟩ := first
      obtain ⟨still, reads⟩ := ih (isObject_set object)
      refine ⟨still, reads.trans ?_⟩
      rw [assigned, field?_set object]
      cases assigned fields wanted with
      | some later => rfl
      | none => split <;> rfl

theorem isObject_object (fields : List (String × Value)) : (object fields).isObject = true :=
  (field?_foldl fields "" rfl).1

theorem field?_object (fields : List (String × Value)) :
    (object fields).field? wanted = assigned fields wanted :=
  (field?_foldl fields wanted rfl).2.trans (Option.or_none)

theorem get_object (fields : List (String × Value)) :
    (object fields).get wanted = (assigned fields wanted).getD .null := by
  rw [get_eq_field?, field?_object]

end Fields

end Value

theorem string_of_asStr {value : Value} {found : String} (present : value.asStr = some found) :
    value = .string found := by
  cases value with
  | string stored => exact congrArg Value.string (Option.some.inj present)
  | null => cases present
  | bool stored => cases present
  | number stored => cases present
  | float stored => cases present
  | nil => cases present
  | item stored rest => cases present
  | empty => cases present
  | field key stored rest => cases present

theorem number_of_asU64 {value : Value} {found : Nat} (present : value.asU64 = some found) :
    value = .number found := by
  cases value with
  | number stored =>
      rw [Value.asU64, Option.ite_none_right_eq_some] at present
      obtain ⟨⟨positive, _⟩, same⟩ := present
      have is_found : stored.toNat = found := Option.some.inj same
      rw [← is_found, Int.toNat_of_nonneg positive]
  | null => cases present
  | bool stored => cases present
  | float stored => cases present
  | string stored => cases present
  | nil => cases present
  | item stored rest => cases present
  | empty => cases present
  | field key stored rest => cases present

abbrev Bytes := List UInt8

def utf8 (text : String) : Bytes := text.toUTF8.toList

def readUtf8 (bytes : Bytes) : Option String := String.fromUTF8? ⟨bytes.toArray⟩

section Reading

theorem toList_loop (array : ByteArray) (index : Nat) (read : List UInt8) :
    ByteArray.toList.loop array index read = read.reverse ++ array.data.toList.drop index := by
  fun_induction ByteArray.toList.loop array index read with
  | case1 index read inside ih =>
      have here : index < array.data.toList.length := inside
      have got : array.get! index = array.data.toList[index] := by
        rw [Array.getElem_toList]
        exact getElem!_pos array.data index inside
      rw [ih, List.drop_eq_getElem_cons here, List.reverse_cons, List.append_assoc, got]
      rfl
  | case2 index read outside =>
      rw [List.drop_eq_nil_of_le (Nat.le_of_not_lt outside), List.append_nil]

theorem utf8_eq (text : String) : utf8 text = text.toByteArray.data.toList :=
  toList_loop text.toByteArray 0 []

theorem utf8_append (one two : String) : utf8 (one ++ two) = utf8 one ++ utf8 two := by
  rw [utf8_eq, utf8_eq, utf8_eq, String.toByteArray_append, ByteArray.toList_data_append]

theorem utf8_ofList (text : List Char) :
    utf8 (.ofList text) = text.flatMap String.utf8EncodeChar := by
  rw [utf8_eq, String.toByteArray_ofList, List.utf8Encode]
  exact List.toList_data_toByteArray

theorem readUtf8_eq_some {bytes : Bytes} {text : String} :
    readUtf8 bytes = some text ↔ utf8 text = bytes := by
  rw [utf8_eq, readUtf8, String.fromUTF8?]
  constructor
  · intro read
    split at read
    · rw [← Option.some.inj read]
      rfl
    · cases read
  · rintro rfl
    have valid : ByteArray.IsValidUTF8 ⟨text.toByteArray.data.toList.toArray⟩ := by
      rw [Array.toArray_toList]
      exact text.isValidUTF8
    rw [dif_pos valid]
    refine congrArg some (String.toByteArray_inj.mp ?_)
    rfl

end Reading

end AgentBash
