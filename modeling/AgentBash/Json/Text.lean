import AgentBash.Json.Record
import AgentBash.Text.Words

/-!
# The text of a flat record

A flat record as `serde_json` writes it, with its line end, and a reader of such texts: what is
written reads back.
-/

namespace AgentBash

set_option autoImplicit false

open Text

namespace Value

section Strings

def hexDigit (value : Nat) : Char := Nat.digitChar value

def escape (c : Char) : List Char :=
  if c = '"' then ['\\', '"']
  else if c = '\\' then ['\\', '\\']
  else if c = '\n' then ['\\', 'n']
  else if c = '\r' then ['\\', 'r']
  else if c = '\t' then ['\\', 't']
  else if c = '\x08' then ['\\', 'b']
  else if c = '\x0c' then ['\\', 'f']
  else if c.toNat < 32 then
    ['\\', 'u', '0', '0', hexDigit (c.toNat / 16), hexDigit (c.toNat % 16)]
  else [c]

/-- What one character after a backslash stands for. -/
def unescaped : Char → Option Char
  | '"' => some '"'
  | '\\' => some '\\'
  | '/' => some '/'
  | 'n' => some '\n'
  | 'r' => some '\r'
  | 't' => some '\t'
  | 'b' => some '\x08'
  | 'f' => some '\x0c'
  | _ => none

/-- What two digits of a control character stand for. -/
def control (high low : Char) : Option Char :=
  ((List.range 32).find? fun value =>
    hexDigit (value / 16) == high && hexDigit (value % 16) == low).map Char.ofNat

/-- The text up to its closing quote, with what follows. -/
def readText : List Char → Option (List Char × List Char)
  | [] => none
  | '"' :: rest => some ([], rest)
  | '\\' :: 'u' :: '0' :: '0' :: high :: low :: rest =>
      (control high low).bind fun c => (readText rest).map fun (text, rest) => (c :: text, rest)
  | '\\' :: marked :: rest =>
      (unescaped marked).bind fun c => (readText rest).map fun (text, rest) => (c :: text, rest)
  | c :: rest => (readText rest).map fun (text, rest) => (c :: text, rest)

theorem control_hexDigit {value : Nat} (bound : value < 32) :
    control (hexDigit (value / 16)) (hexDigit (value % 16)) = some (Char.ofNat value) := by
  have all : ∀ value : Fin 32, control (hexDigit (value / 16)) (hexDigit (value % 16)) =
      some (Char.ofNat value) := by decide
  exact all ⟨value, bound⟩

theorem readText_escape (c : Char) (more : List Char) :
    readText (escape c ++ more) = (readText more).map fun (text, rest) => (c :: text, rest) := by
  unfold escape
  split_ifs with quote backslash newline return_ tab back feed low
  · subst quote; rfl
  · subst backslash; rfl
  · subst newline; rfl
  · subst return_; rfl
  · subst tab; rfl
  · subst back; rfl
  · subst feed; rfl
  · simp only [List.cons_append, List.nil_append, readText, control_hexDigit low,
      Char.ofNat_toNat, Option.bind_some]
  · rw [List.singleton_append]
    conv_lhs => unfold readText
    split
    · next same => cases same
    · next same => exact absurd (List.cons.inj same).1 quote
    · next same => exact absurd (List.cons.inj same).1 backslash
    · next same => exact absurd (List.cons.inj same).1 backslash
    · next same =>
      obtain ⟨rfl, rfl⟩ := List.cons.inj same
      rfl

theorem readText_escaped (text more : List Char) :
    readText (text.flatMap escape ++ '"' :: more) = some (text, more) := by
  induction text with
  | nil => rfl
  | cons c text ih =>
      rw [List.flatMap_cons, List.append_assoc, readText_escape, ih]
      rfl

end Strings

section Scalars

def numeric (c : Char) : Bool := c.isDigit || c == '-'

/-- A number in the range of 64 bits, signed or not. -/
def number? (text : List Char) : Option Int :=
  (match text with
    | '-' :: digits => (parseDigits digits).map fun value : Nat => -Int.ofNat value
    | digits => (parseDigits digits).map Int.ofNat).filter
      fun value => -2 ^ 63 ≤ value ∧ value < 2 ^ 64

def scalarText : Value → List Char
  | .null => "null".toList
  | .bool true => "true".toList
  | .bool false => "false".toList
  | .string text => '"' :: (text.toList.flatMap escape ++ ['"'])
  | .number value => signedDecimal value
  | _ => []

/-- One scalar, with what follows it. -/
def readScalar : List Char → Option (Value × List Char)
  | 'n' :: 'u' :: 'l' :: 'l' :: rest => some (.null, rest)
  | 't' :: 'r' :: 'u' :: 'e' :: rest => some (.bool true, rest)
  | 'f' :: 'a' :: 'l' :: 's' :: 'e' :: rest => some (.bool false, rest)
  | '"' :: rest => (readText rest).map fun (text, rest) => (.string (.ofList text), rest)
  | text => (number? (text.takeWhile numeric)).map fun value =>
      (.number value, text.dropWhile numeric)

theorem number?_signedDecimal {value : Int} (range : -2 ^ 63 ≤ value ∧ value < 2 ^ 64) :
    number? (signedDecimal value) = some value := by
  unfold number?
  cases value with
  | ofNat value =>
      have plain : ∀ digits, signedDecimal (.ofNat value) ≠ '-' :: digits :=
        fun digits => decimal_cons (by decide)
      split
      · next same => exact absurd same (plain _)
      · rw [signedDecimal, parseDigits_decimal, Option.map_some]
        exact Option.filter_some_pos (decide_eq_true range)
  | negSucc value =>
      simp only [signedDecimal, parseDigits_decimal, Option.map_some]
      have same : -Int.ofNat (value + 1) = .negSucc value := rfl
      rw [same]
      exact Option.filter_some_pos (decide_eq_true range)

theorem numeric_of_mem {value : Int} {c : Char} (inside : c ∈ signedDecimal value) :
    numeric c = true := by
  by_contra other
  rw [numeric, Bool.or_eq_true, not_or, Bool.not_eq_true, beq_iff_eq] at other
  exact notMem_signedDecimal other.1 other.2 inside

theorem readScalar_number {value : Int} {mark : Char} (rest : List Char)
    (range : -2 ^ 63 ≤ value ∧ value < 2 ^ 64) (ends : numeric mark = false) :
    readScalar (signedDecimal value ++ mark :: rest) = some (.number value, mark :: rest) := by
  have digits : ∀ c ∈ signedDecimal value, numeric c = true := fun _ inside => numeric_of_mem inside
  have taken : (signedDecimal value ++ mark :: rest).takeWhile numeric = signedDecimal value := by
    rw [List.takeWhile_append_of_pos digits, List.takeWhile_cons_of_neg (by simp [ends]),
      List.append_nil]
  have dropped : (signedDecimal value ++ mark :: rest).dropWhile numeric = mark :: rest := by
    rw [List.dropWhile_append_of_pos digits, List.dropWhile_cons_of_neg (by simp [ends])]
  have first : ∃ c tail, signedDecimal value ++ mark :: rest = c :: tail ∧ numeric c = true := by
    cases shape : signedDecimal value with
    | nil =>
        have found := number?_signedDecimal range
        rw [shape] at found
        cases found
    | cons c tail => exact ⟨c, tail ++ mark :: rest, rfl, digits c (shape ▸ List.mem_cons_self)⟩
  obtain ⟨c, tail, starts, is_numeric⟩ := first
  rw [starts] at taken dropped ⊢
  unfold readScalar
  split
  · next same => rw [(List.cons.inj same).1] at is_numeric; cases is_numeric
  · next same => rw [(List.cons.inj same).1] at is_numeric; cases is_numeric
  · next same => rw [(List.cons.inj same).1] at is_numeric; cases is_numeric
  · next same => rw [(List.cons.inj same).1] at is_numeric; cases is_numeric
  · rw [taken, dropped, number?_signedDecimal range]
    rfl

theorem readScalar_scalarText {value : Value} {mark : Char} (rest : List Char)
    (plain : value.scalar = true) (ends : numeric mark = false) :
    readScalar (value.scalarText ++ mark :: rest) = some (value, mark :: rest) := by
  cases value with
  | null => rfl
  | bool flag => cases flag <;> rfl
  | number value => exact readScalar_number rest (of_decide_eq_true plain) ends
  | string text =>
      have joined : (Value.string text).scalarText ++ mark :: rest =
          '"' :: (text.toList.flatMap escape ++ '"' :: mark :: rest) := by
        simp only [scalarText, List.cons_append, List.append_assoc, List.nil_append]
      rw [joined, readScalar, readText_escaped, Option.map_some]
      simp only [String.ofList_toList]
  | float value => cases plain
  | nil => cases plain
  | item value rest => cases plain
  | empty => cases plain
  | field key value rest => cases plain

end Scalars

section Records

def entryText (key : String) (value : Value) : List Char :=
  '"' :: (key.toList.flatMap escape ++ '"' :: ':' :: value.scalarText)

/-- The entries of a record up to the end of its line. -/
def entriesText : Value → List Char
  | .field key value .empty => entryText key value ++ ['}', '\n']
  | .field key value rest => entryText key value ++ ',' :: rest.entriesText
  | _ => []

def recordText : Value → List Char
  | .empty => ['{', '}', '\n']
  | value => '{' :: value.entriesText

/-- As many entries as the fuel allows. -/
def readEntries : Nat → List Char → Option Value
  | fuel + 1, '"' :: text => do
      let (key, text) ← readText text
      match text with
      | ':' :: text =>
          let (value, text) ← readScalar text
          match text with
          | ['}', '\n'] => some (.field (.ofList key) value .empty)
          | ',' :: text => (readEntries fuel text).map (.field (.ofList key) value ·)
          | _ => none
      | _ => none
  | _, _ => none

def readRecord : List Char → Option Value
  | ['{', '}', '\n'] => some .empty
  | '{' :: text => readEntries text.length text
  | _ => none

theorem readEntries_entry {fuel : Nat} {key : String} {value : Value} {mark : Char}
    (rest : List Char) (plain : value.scalar = true) (ends : numeric mark = false) :
    readEntries (fuel + 1) (entryText key value ++ mark :: rest) =
      match mark :: rest with
      | ['}', '\n'] => some (.field key value .empty)
      | ',' :: text => (readEntries fuel text).map (.field key value ·)
      | _ => none := by
  have joined : entryText key value ++ mark :: rest =
      '"' :: (key.toList.flatMap escape ++ '"' :: ':' :: (value.scalarText ++ mark :: rest)) := by
    simp only [entryText, List.cons_append, List.append_assoc]
  rw [joined]
  simp only [readEntries, readText_escaped, Option.bind_eq_bind, Option.bind_some,
    readScalar_scalarText rest plain ends, String.ofList_toList]

theorem entriesText_field {key : String} {value rest : Value} (some_ : rest ≠ .empty) :
    (Value.field key value rest).entriesText = entryText key value ++ ',' :: rest.entriesText := by
  cases rest with
  | empty => exact absurd rfl some_
  | _ => rfl

theorem readEntries_entriesText {record : Value} {fuel : Nat} (flat : record.Record)
    (some_ : record ≠ .empty) (enough : record.entriesText.length ≤ fuel) :
    readEntries fuel record.entriesText = some record := by
  induction flat generalizing fuel with
  | empty => exact absurd rfl some_
  | @field key value rest plain sorted flat ih =>
      obtain ⟨fuel, rfl⟩ : ∃ less, fuel = less + 1 := by
        cases fuel with
        | zero => cases rest <;> cases enough
        | succ fuel => exact ⟨fuel, rfl⟩
      by_cases last : rest = .empty
      · subst last
        exact readEntries_entry _ plain rfl
      · rw [entriesText_field last] at enough ⊢
        rw [readEntries_entry _ plain rfl]
        have fits : rest.entriesText.length ≤ fuel := by
          simp only [List.length_append, List.length_cons] at enough
          omega
        simp only [ih last fits, Option.map_some]

theorem readRecord_recordText {record : Value} (flat : record.Record) :
    readRecord record.recordText = some record := by
  by_cases last : record = .empty
  · subst last
    rfl
  · have whole : record.recordText = '{' :: record.entriesText := by
      cases record with
      | empty => exact absurd rfl last
      | _ => rfl
    have reads := readEntries_entriesText flat last (Nat.le_refl _)
    rw [whole]
    unfold readRecord
    split
    · next same =>
      rw [(List.cons.inj same).2] at reads
      cases reads
    · next same =>
      rw [← (List.cons.inj same).2]
      exact reads
    · next none_ => exact absurd rfl (none_ _)

def recordBytes (record : Value) : Bytes := utf8 (.ofList record.recordText)

def ofRecordBytes (bytes : Bytes) : Option Value :=
  (readUtf8 bytes).bind fun text => readRecord text.toList

theorem ofRecordBytes_recordBytes {record : Value} (flat : record.Record) :
    ofRecordBytes record.recordBytes = some record := by
  rw [ofRecordBytes, recordBytes, readUtf8_eq_some.mpr rfl, Option.bind_some, String.toList_ofList]
  exact readRecord_recordText flat

theorem length_flatMap_utf8EncodeChar (text : List Char) :
    (text.flatMap String.utf8EncodeChar).length ≤ 4 * text.length := by
  induction text with
  | nil => exact Nat.le_refl 0
  | cons c text ih =>
      have one := Char.utf8Size_le_four c
      rw [List.flatMap_cons, List.length_append, List.length_cons, String.length_utf8EncodeChar]
      omega

theorem length_recordBytes (record : Value) :
    record.recordBytes.length ≤ 4 * record.recordText.length := by
  have bytes : record.recordBytes = record.recordText.flatMap String.utf8EncodeChar := by
    rw [recordBytes, utf8_eq, String.toByteArray_ofList, List.utf8Encode]
    exact List.toList_data_toByteArray
  rw [bytes]
  exact length_flatMap_utf8EncodeChar _

end Records

end Value

end AgentBash
