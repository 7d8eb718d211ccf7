import Mathlib.Algebra.Group.Int.Defs
import Mathlib.Algebra.Group.Nat.Defs
import Mathlib.Data.List.Basic
import Mathlib.Data.List.DropRight

/-!
# Words and numbers in a line of text

Splitting a text at white space, the text after the last place where a mark stands, and decimal
numbers, which are read with an optional sign and rejected when they do not fit.
-/

set_option autoImplicit false

namespace Text

/-- `char::is_whitespace`: the Unicode property `White_Space`. -/
def isWhitespace (c : Char) : Bool :=
  (9 ≤ c.toNat && c.toNat ≤ 13) || c.toNat == 0x20 || c.toNat == 0x85 || c.toNat == 0xA0 ||
    c.toNat == 0x1680 || (0x2000 ≤ c.toNat && c.toNat ≤ 0x200A) || c.toNat == 0x2028 ||
    c.toNat == 0x2029 || c.toNat == 0x202F || c.toNat == 0x205F || c.toNat == 0x3000

def splitWhitespace (text : List Char) : List (List Char) :=
  (text.splitOnP isWhitespace).filter fun word => !word.isEmpty

/-- What follows the last place where the mark stands. -/
def afterLast (mark : List Char) : List Char → Option (List Char)
  | [] => none
  | c :: text =>
      match afterLast mark text with
      | some rest => some rest
      | none => if mark.isPrefixOf (c :: text) then some ((c :: text).drop mark.length) else none

def parseDigits (text : List Char) : Option Nat :=
  if !text.isEmpty && text.all Char.isDigit then some (Nat.ofDigitChars 10 text 0) else none

def stripPlus : List Char → List Char
  | '+' :: digits => digits
  | digits => digits

/-- An unsigned number of so many bits may have a plus. -/
def parseUnsigned (bits : Nat) (text : List Char) : Option Nat :=
  (parseDigits (stripPlus text)).filter fun value => decide (value < 2 ^ bits)

/-- A signed number of so many bits may have a plus or a minus. -/
def parseSigned (bits : Nat) (text : List Char) : Option Int :=
  match text with
  | '-' :: digits =>
      ((parseDigits digits).filter fun value => decide (value ≤ 2 ^ (bits - 1))).map fun value =>
        -(value : Int)
  | text => (parseUnsigned (bits - 1) text).map Int.ofNat

def decimal (value : Nat) : List Char := Nat.toDigits 10 value

def signedDecimal : Int → List Char
  | .ofNat value => decimal value
  | .negSucc value => '-' :: decimal (value + 1)

/-- A word of a line: it is not empty and has no white space. -/
def Word (text : List Char) : Prop := text ≠ [] ∧ ∀ c ∈ text, isWhitespace c = false

section Splitting

variable {word text : List Char} {sep : Char}

theorem splitWhitespace_blank (white : isWhitespace sep = true) :
    splitWhitespace (sep :: text) = splitWhitespace text := by
  unfold splitWhitespace
  rw [← List.nil_append (sep :: text),
    List.splitOnP_append_cons_of_forall_mem (by simp) sep white]
  exact List.filter_cons_of_neg (by simp)

theorem splitWhitespace_word (is_word : Word word) (white : isWhitespace sep = true) :
    splitWhitespace (word ++ sep :: text) = word :: splitWhitespace (sep :: text) := by
  rw [splitWhitespace_blank white]
  unfold splitWhitespace
  rw [List.splitOnP_append_cons_of_forall_mem is_word.2 sep white]
  have kept : (!word.isEmpty) = true := by simp [is_word.1]
  exact List.filter_cons_of_pos kept

theorem splitWhitespace_line {last : Char} (words : List (List Char))
    (are_words : ∀ word ∈ words, Word word) (white : isWhitespace sep = true)
    (ends : isWhitespace last = true) :
    splitWhitespace ((words.flatMap fun word => sep :: word) ++ [last]) = words := by
  induction words with
  | nil => exact splitWhitespace_blank ends
  | cons word words ih =>
      have rest := ih fun other inside => are_words other (List.mem_cons_of_mem _ inside)
      have is_word := are_words word List.mem_cons_self
      rw [List.flatMap_cons, List.cons_append, List.cons_append, List.append_assoc,
        splitWhitespace_blank white]
      -- what follows the word starts with a blank, the one of the next word or the last one
      cases words with
      | nil =>
          rw [List.flatMap_nil, List.nil_append] at rest ⊢
          rw [splitWhitespace_word is_word ends, rest]
      | cons next words =>
          rw [List.flatMap_cons, List.cons_append, List.cons_append] at rest ⊢
          rw [splitWhitespace_word is_word white, rest]

theorem notMem_of_mem_splitOn {mark : Char} (inside : word ∈ text.splitOn mark) : mark ∉ word := by
  induction text generalizing word with
  | nil =>
      rw [List.splitOn_nil, List.mem_singleton] at inside
      rw [inside]
      exact List.not_mem_nil
  | cons c text ih =>
      rw [List.splitOn_cons_eq_if_modifyHead] at inside
      split at inside
      · rcases List.mem_cons.mp inside with rfl | inside
        · exact List.not_mem_nil
        · exact ih inside
      · next differs =>
        cases pieces : text.splitOn mark with
        | nil => exact absurd pieces (List.splitOn_ne_nil mark text)
        | cons first rest =>
            rw [pieces] at inside ih
            rcases List.mem_cons.mp inside with rfl | inside
            · have other : mark ≠ c := fun same => differs (beq_iff_eq.mpr same.symm)
              exact List.not_mem_cons_of_ne_of_not_mem other (ih List.mem_cons_self)
            · exact ih (List.mem_cons_of_mem _ inside)

end Splitting

section Marks

variable {front rest tail : List Char} {c : Char}

theorem afterLast_of_notMem (absent : c ∉ rest) : afterLast (c :: tail) rest = none := by
  induction rest with
  | nil => rfl
  | cons d rest ih =>
      obtain ⟨differs, absent⟩ := not_or.mp (fun either => absent (List.mem_cons.mpr either))
      have here : (c :: tail).isPrefixOf (d :: rest) = false := by
        simp [List.isPrefixOf, differs]
      rw [afterLast, ih absent, here]
      rfl

/-- The last mark is the one whose first character does not come again. -/
theorem afterLast_mark (front : List Char) (absent : c ∉ tail ++ rest) :
    afterLast (c :: tail) (front ++ c :: tail ++ rest) = some rest := by
  induction front with
  | nil =>
      have here : (c :: tail).isPrefixOf (c :: (tail ++ rest)) = true :=
        List.isPrefixOf_iff_prefix.mpr (List.prefix_append (c :: tail) rest)
      rw [List.nil_append, List.cons_append, afterLast, afterLast_of_notMem absent, here, if_pos rfl,
        ← List.cons_append, List.drop_left]
  | cons d front ih =>
      rw [List.cons_append, List.cons_append, afterLast, ih]

end Marks

section Numbers

variable {value bits : Nat}

theorem isDigit_of_mem_decimal {c : Char} (inside : c ∈ decimal value) : c.isDigit = true :=
  Nat.isDigit_of_mem_toDigits (by decide) (by decide) inside

theorem parseDigits_decimal : parseDigits (decimal value) = some value := by
  have digits : (decimal value).all Char.isDigit = true :=
    List.all_eq_true.mpr fun _ inside => isDigit_of_mem_decimal inside
  have some_ : (!(decimal value).isEmpty) = true := by simp [decimal, Nat.toDigits_ne_nil]
  rw [parseDigits, some_, digits, Bool.and_self, if_pos rfl]
  exact congrArg some Nat.ofDigitChars_ten_toDigits

theorem decimal_cons {c : Char} (sign : c.isDigit = false) {digits : List Char} :
    decimal value ≠ c :: digits := by
  intro same
  have digit : c.isDigit = true := isDigit_of_mem_decimal (same ▸ List.mem_cons_self)
  exact Bool.false_ne_true (sign.symm.trans digit)

theorem parseUnsigned_decimal (fits : value < 2 ^ bits) :
    parseUnsigned bits (decimal value) = some value := by
  have plain : stripPlus (decimal value) = decimal value := by
    unfold stripPlus
    split
    · exact absurd ‹_› (decimal_cons (by decide))
    · rfl
  rw [parseUnsigned, plain, parseDigits_decimal]
  exact Option.filter_some_pos (p := fun value => decide (value < 2 ^ bits)) (decide_eq_true fits)

theorem parseSigned_decimal (fits : value < 2 ^ (bits - 1)) :
    parseSigned bits (decimal value) = some (value : Int) := by
  unfold parseSigned
  split
  · exact absurd ‹_› (decimal_cons (by decide))
  · rw [parseUnsigned_decimal fits]
    rfl

theorem isWhitespace_of_isDigit {c : Char} (digit : c.isDigit = true) : isWhitespace c = false := by
  have bounds : 48 ≤ c.toNat ∧ c.toNat ≤ 57 := by
    rw [Char.isDigit, Bool.and_eq_true, decide_eq_true_eq, decide_eq_true_eq] at digit
    exact digit
  simp only [isWhitespace, Bool.or_eq_false_iff, Bool.and_eq_false_iff, decide_eq_false_iff_not,
    beq_eq_false_iff_ne]
  omega

theorem word_decimal : Word (decimal value) :=
  ⟨Nat.toDigits_ne_nil, fun _ inside => isWhitespace_of_isDigit (isDigit_of_mem_decimal inside)⟩

theorem word_signedDecimal {value : Int} : Word (signedDecimal value) := by
  cases value with
  | ofNat value => exact word_decimal
  | negSucc value =>
      refine ⟨List.cons_ne_nil _ _, fun c inside => ?_⟩
      rcases List.mem_cons.mp inside with rfl | inside
      · decide
      · exact word_decimal.2 c inside

/-- A mark that is neither a digit nor a minus does not stand in a number. -/
theorem notMem_signedDecimal {value : Int} {c : Char} (other : c.isDigit = false) (sign : c ≠ '-') :
    c ∉ signedDecimal value := by
  have absent : ∀ value, c ∉ decimal value := fun value inside =>
    Bool.false_ne_true (other.symm.trans (isDigit_of_mem_decimal inside))
  cases value with
  | ofNat value => exact absent value
  | negSucc value => exact List.not_mem_cons_of_ne_of_not_mem sign (absent _)

end Numbers

end Text
