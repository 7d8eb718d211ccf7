import AgentBash.Json.Value

/-!
# Flat records

The records of the source that are updated field by field: an object of scalars under sorted keys.
An assignment keeps that shape, and assigning what is already there changes nothing.
-/

namespace AgentBash

set_option autoImplicit false

namespace Value

/-- A value with nothing inside that is written in one way; an integer has 64 bits. -/
def scalar : Value → Bool
  | .null | .bool _ | .string _ => true
  | .number value => decide (-2 ^ 63 ≤ value ∧ value < 2 ^ 64)
  | _ => false

/-- An object of scalars whose keys are sorted. -/
inductive Record : Value → Prop
  | empty : Record .empty
  | field {key : String} {value rest : Value} (plain : value.scalar = true)
      (sorted : ∀ other, rest.field? other ≠ none → key < other) (record : Record rest) :
      Record (.field key value rest)

/-- `value[key] = assigned`: null becomes an object; nothing is the panic of any other value that
takes no field. -/
def assign (value : Value) (key : String) (assigned : Value) : Option Value :=
  if value = .null then some (.field key assigned .empty)
  else if value.isObject then some (value.set key assigned)
  else none

section Assigning

variable {value assigned_ : Value} {key wanted : String}

theorem Record.single {key : String} (plain : value.scalar = true) :
    (Value.field key value .empty).Record :=
  .field plain (fun _ present => absurd rfl present) .empty

theorem Record.cons {key next : String} {found rest : Value} (plain : value.scalar = true)
    (before : key < next) (record : (Value.field next found rest).Record) :
    (Value.field key value (.field next found rest)).Record := by
  refine .field plain (fun other present => ?_) record
  cases record with
  | field _ sorted _ =>
      rw [field?_field] at present
      by_cases same : next = other
      · exact same ▸ before
      · rw [if_neg same] at present
        exact String.lt_trans before (sorted other present)

theorem Record.isObject (record : value.Record) : value.isObject = true := by
  induction record with
  | empty => rfl
  | field plain sorted record ih => exact ih

theorem Record.assign_eq (record : value.Record) :
    value.assign key assigned_ = some (value.set key assigned_) := by
  have object := record.isObject
  have real : value ≠ .null := fun same => by rw [same] at object; cases object
  rw [assign, if_neg real, if_pos object]

theorem Record.set (record : value.Record) (plain : assigned_.scalar = true) :
    (value.set key assigned_).Record := by
  induction record with
  | empty => exact .field plain (fun other present => absurd rfl present) .empty
  | @field first found rest scalar sorted record ih =>
      rw [set_field]
      by_cases same : first = key
      · rw [if_pos same]
        exact .field plain sorted record
      · rw [if_neg same]
        by_cases before : key < first
        · rw [if_pos before]
          refine .field plain (fun other present => ?_) (.field scalar sorted record)
          rw [field?_field] at present
          by_cases head : first = other
          · exact head ▸ before
          · rw [if_neg head] at present
            exact String.lt_trans before (sorted other present)
        · rw [if_neg before]
          refine .field scalar (fun other present => ?_) ih
          by_cases assigns : key = other
          · subst assigns
            have above : first ≤ key := String.not_lt.mp before
            exact String.not_le.mp fun below => same (String.le_antisymm above below)
          · rw [field?_set_other assigns] at present
            exact sorted other present

theorem Record.set_eq_self (record : value.Record) (held : value.field? key = some assigned_) :
    value.set key assigned_ = value := by
  induction record with
  | empty => cases held
  | @field first found rest scalar sorted record ih =>
      rw [field?_field] at held
      rw [set_field]
      by_cases same : first = key
      · rw [if_pos same] at held
        rw [if_pos same, Option.some.inj held]
      · rw [if_neg same] at held
        have after : first < key := sorted key (by rw [held]; exact Option.some_ne_none _)
        have not_before : ¬ key < first := String.lt_asymm after
        rw [if_neg same, if_neg not_before, ih held]

end Assigning

end Value

end AgentBash
