import AgentBash.Text.Words

/-!
# The first lines of a text

The pieces of a text between its marks, as many of them as are wanted, joined again. The result
begins the text and leaves out the mark that would start a piece too many.
-/

set_option autoImplicit false

namespace Text

def firstPieces (mark : Char) (count : Nat) (text : List Char) : List Char :=
  [mark].intercalate ((text.splitOn mark).take count)

section Pieces

variable {mark : Char} {count : Nat} {text : List Char}

theorem intercalate_take_prefix (mark : Char) (count : Nat) (pieces : List (List Char)) :
    [mark].intercalate (pieces.take count) <+: [mark].intercalate pieces := by
  induction pieces generalizing count with
  | nil => simp
  | cons first pieces ih =>
    cases count with
    | zero => exact List.nil_prefix
    | succ count =>
      rw [List.take_succ_cons]
      by_cases more : pieces.take count = []
      · rw [more, List.intercalate_singleton]
        cases pieces with
        | nil => simp
        | cons second pieces =>
          rw [List.intercalate_cons_of_ne_nil (List.cons_ne_nil second pieces), List.append_assoc]
          exact List.prefix_append first _
      · have some_ : pieces ≠ [] := fun none_ => more (by rw [none_, List.take_nil])
        rw [List.intercalate_cons_of_ne_nil more, List.intercalate_cons_of_ne_nil some_]
        exact (List.prefix_append_right_inj _).mpr (ih count)

theorem firstPieces_prefix : firstPieces mark count text <+: text := by
  have joined := intercalate_take_prefix mark count (text.splitOn mark)
  rwa [List.intercalate_splitOn] at joined

theorem splitOn_firstPieces (some_ : 0 < count) :
    (firstPieces mark count text).splitOn mark = (text.splitOn mark).take count := by
  refine List.splitOn_intercalate mark (fun piece inside => ?_) fun none_ => ?_
  · exact notMem_of_mem_splitOn (List.mem_of_mem_take inside)
  · rcases List.take_eq_nil_iff.mp none_ with zero | empty
    · exact Nat.ne_of_gt some_ zero
    · exact List.splitOn_ne_nil mark text empty

theorem firstPieces_eq_self (few : (text.splitOn mark).length ≤ count) :
    firstPieces mark count text = text := by
  rw [firstPieces, List.take_of_length_le few, List.intercalate_splitOn]

end Pieces

end Text
