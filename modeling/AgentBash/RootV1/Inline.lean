import AgentBash.RetainedOutput.Prefix
import AgentBash.RootV1.Adapter
import AgentBash.Text.Lines
import AgentBash.Text.Utf8

/-!
# What is shown of an output

`rootV1Utf8Prefix` and `rootV1InlinePrefix` of `bash.ts`, and the counts that `rootV1Response`
prints beside what they show.
-/

namespace AgentBash

set_option autoImplicit false

namespace Adapter

open RetainedOutput RootV1

def rootV1PayloadRenderedBytes : Nat := 48 * 1024

def rootV1PayloadLines : Nat := 1900

/-- A decoder that puts U+FFFD for each longest piece that begins no character. Every piece takes
a byte, so there are no more of them than bytes. -/
def replaced : Nat → Bytes → List Char
  | 0, _ => []
  | rounds + 1, bytes =>
    match Text.fromUtf8 bytes with
    | .ok _ => ((readUtf8 bytes).getD "").toList
    | .error error =>
      ((readUtf8 (bytes.take error.validUpTo)).getD "").toList ++
        Char.ofNat 0xFFFD ::
          match error.errorLen with
          | none => []
          | some length => replaced rounds (bytes.drop (error.validUpTo + length))

/-- `bytes.toString("utf8")` -/
def bufferToString (bytes : Bytes) : String :=
  (readUtf8 bytes).getD (.ofList (replaced (bytes.length + 1) bytes))

theorem bufferToString_utf8 (text : String) : bufferToString (utf8 text) = text := by
  rw [bufferToString, readUtf8_eq_some.mpr rfl, Option.getD_some]

/-- The loop of `rootV1Utf8Prefix`. No bytes encode the empty text, so it ends there if not before. -/
def withoutIncomplete (bytes : Bytes) : Bytes :=
  if utf8 (bufferToString bytes) = bytes then bytes
  else withoutIncomplete (bytes.take (bytes.length - 1))
termination_by bytes.length
decreasing_by
  rename_i differs
  have some_ : bytes ≠ [] := by
    rintro rfl
    have nothing : utf8 "" = [] := by
      rw [utf8_eq]
      rfl
    exact differs (by rw [← nothing, bufferToString_utf8])
  have positive := List.length_pos_iff.mpr some_
  rw [List.length_take]
  omega

def rootV1Utf8Prefix (bytes : Bytes) : Bytes :=
  withoutIncomplete (bytes.take rootV1PayloadRenderedBytes)

structure Inline where
  bytes : Bytes
  utf8 : Bool
  text : String
  deriving DecidableEq, Repr

def rootV1InlinePrefix (bytes : Bytes) : Inline :=
  let isText := !bytes.contains 0 && utf8 (bufferToString bytes) = bytes
  if !isText then
    let shown := bytes.take (rootV1PayloadRenderedBytes / 2)
    ⟨shown, isText, hex shown⟩
  else
    let text := String.ofList (Text.firstPieces '\n' rootV1PayloadLines
      (bufferToString (rootV1Utf8Prefix bytes)).toList)
    ⟨utf8 text, isText, text⟩

def carriedBytes (output : Option Value) : Bytes :=
  bufferFrom (((chain output "base64").bind Value.asStr).getD "").toList

/-- The counts in an answer: received, carried, left out by the producer, shown, left out here. -/
structure Counts where
  received : Int
  presented : Int
  omitted : Int
  shown : Nat
  additionallyOmitted : Int
  deriving DecidableEq, Repr

def rootV1Counts (output : Option Value) : Option Counts := do
  let received ← safeInteger (chain output "bytes")
  let presented ← presentedOf output
  let omitted ← omittedOf output
  let shown := (rootV1InlinePrefix (carriedBytes output)).bytes.length
  pure ⟨received, presented, omitted, shown, presented - shown⟩

/-- Bytes that are shown as the text that they encode. -/
def IsText (bytes : Bytes) : Prop := 0 ∉ bytes ∧ ∃ text, utf8 text = bytes

/-- What the whole of the bytes would be shown as. -/
def rendered (bytes : Bytes) : String :=
  if (rootV1InlinePrefix bytes).utf8 then bufferToString bytes else hex bytes

def lineCount (text : String) : Nat := (text.toList.splitOn '\n').length

def FitsBudgets (text : String) : Prop :=
  (utf8 text).length ≤ rootV1PayloadRenderedBytes ∧ lineCount text ≤ rootV1PayloadLines

/-- What is shown begins the bytes and fits. A text is the beginning of the whole text, in whole
characters, and what is no text is shown in hexadecimal digits. Nothing is left out that fits. -/
structure Presents (bytes : Bytes) (inline : Inline) : Prop where
  begins : inline.bytes <+: bytes
  fits : FitsBudgets inline.text
  kind : inline.utf8 = true ↔ IsText bytes
  characters : ∀ whole, inline.utf8 = true → utf8 whole = bytes →
    utf8 inline.text = inline.bytes ∧ inline.text.toList <+: whole.toList
  digits : inline.utf8 = false → inline.text = hex inline.bytes
  whole : FitsBudgets (rendered bytes) → inline.bytes = bytes

/-- The parts of a stream make up the whole. -/
structure Counts.AddUp (counts : Counts) : Prop where
  shown_le : (counts.shown : Int) ≤ counts.presented
  omitted_nonneg : 0 ≤ counts.omitted
  total : counts.shown + counts.additionallyOmitted + counts.omitted = counts.received

section Text

variable {bytes : Bytes}

theorem encodes_iff : utf8 (bufferToString bytes) = bytes ↔ ∃ text, utf8 text = bytes := by
  constructor
  · exact fun encodes => ⟨bufferToString bytes, encodes⟩
  · rintro ⟨text, rfl⟩
    rw [bufferToString_utf8]

theorem utf8EncodeChar_append_inj {c d : Char} {one two : Bytes}
    (same : String.utf8EncodeChar c ++ one = String.utf8EncodeChar d ++ two) : c = d := by
  have decodes (c : Char) (rest : Bytes) :
      ((String.utf8EncodeChar c ++ rest).toByteArray).utf8DecodeChar? 0 = some c := by
    rw [List.toByteArray_append]
    exact ByteArray.utf8DecodeChar?_utf8EncodeChar_append
  have first := decodes c one
  rw [same, decodes d two] at first
  exact (Option.some.inj first).symm

theorem toList_prefix {one two : String} (begins : utf8 one <+: utf8 two) :
    one.toList <+: two.toList := by
  rw [← String.ofList_toList (s := one), ← String.ofList_toList (s := two), utf8_ofList,
    utf8_ofList] at begins
  generalize one.toList = one, two.toList = two at begins ⊢
  induction one generalizing two with
  | nil => exact List.nil_prefix
  | cons c one ih =>
    obtain ⟨rest, split⟩ := begins
    cases two with
    | nil =>
      have some_ : String.utf8EncodeChar c ≠ [] := String.utf8EncodeChar_ne_nil
      rw [List.flatMap_cons, List.flatMap_nil, List.append_assoc] at split
      exact absurd (List.append_eq_nil_iff.mp split).1 some_
    | cons d two =>
      rw [List.flatMap_cons, List.flatMap_cons, List.append_assoc] at split
      obtain rfl := utf8EncodeChar_append_inj split
      rw [List.append_cancel_left_eq] at split
      exact (List.prefix_cons_inj c).mpr (ih two ⟨rest, split⟩)

theorem utf8_prefix {one two : List Char} (begins : one <+: two) :
    utf8 (.ofList one) <+: utf8 (.ofList two) := by
  obtain ⟨rest, rfl⟩ := begins
  rw [String.ofList_append, utf8_append]
  exact List.prefix_append _ _

end Text

section Inline

variable {bytes : Bytes}

theorem withoutIncomplete_spec (bytes : Bytes) :
    withoutIncomplete bytes <+: bytes ∧ ∃ text, utf8 text = withoutIncomplete bytes := by
  fun_induction withoutIncomplete bytes with
  | case1 bytes encodes => exact ⟨List.prefix_rfl, bufferToString bytes, encodes⟩
  | case2 bytes differs ih => exact ⟨ih.1.trans (List.take_prefix _ _), ih.2⟩

theorem withoutIncomplete_text {text : String} : withoutIncomplete (utf8 text) = utf8 text := by
  rw [withoutIncomplete, if_pos (by rw [bufferToString_utf8])]

theorem digitChar_plain {digit : Nat} (small : digit < 16) :
    (String.utf8EncodeChar (Nat.digitChar digit)).length = 1 ∧ Nat.digitChar digit ≠ '\n' := by
  have all : ∀ digit : Fin 16, (String.utf8EncodeChar (Nat.digitChar digit)).length = 1 ∧
      Nat.digitChar digit ≠ '\n' := by decide
  exact all ⟨digit, small⟩

theorem length_utf8_hex (bytes : Bytes) : (utf8 (hex bytes)).length = 2 * bytes.length := by
  rw [hex, utf8_ofList]
  induction bytes with
  | nil => rfl
  | cons byte bytes ih =>
    have bound := byte.toNat_lt
    have high := (digitChar_plain (show byte.toNat / 16 < 16 by omega)).1
    have low := (digitChar_plain (show byte.toNat % 16 < 16 by omega)).1
    rw [List.flatMap_cons, List.flatMap_append, List.length_append, ih, List.length_cons]
    simp only [List.flatMap_cons, List.flatMap_nil, List.length_append, List.length_nil, high, low]
    omega

theorem lineCount_hex (bytes : Bytes) : lineCount (hex bytes) = 1 := by
  have one_line : '\n' ∉ (hex bytes).toList := by
    rw [hex, String.toList_ofList, List.mem_flatMap]
    rintro ⟨byte, -, inside⟩
    simp only [List.mem_cons, List.not_mem_nil, or_false] at inside
    rcases inside with high | low
    · exact (digitChar_plain (by have := byte.toNat_lt; omega)).2 high.symm
    · exact (digitChar_plain (by omega)).2 low.symm
  have lines : ∀ line ∈ [(hex bytes).toList], '\n' ∉ line := fun line inside => by
    rwa [List.mem_singleton.mp inside]
  have split := List.splitOn_intercalate '\n' lines (List.cons_ne_nil _ _)
  rw [List.intercalate_singleton] at split
  rw [lineCount, split]
  rfl

theorem isText_iff :
    (!bytes.contains 0 && decide (utf8 (bufferToString bytes) = bytes)) = true ↔ IsText bytes := by
  rw [IsText, ← encodes_iff]
  simp

def shownText (bytes : Bytes) : String :=
  .ofList (Text.firstPieces '\n' rootV1PayloadLines
    (bufferToString (rootV1Utf8Prefix bytes)).toList)

theorem inlinePrefix_text (is_text : IsText bytes) :
    rootV1InlinePrefix bytes = ⟨utf8 (shownText bytes), true, shownText bytes⟩ := by
  have flag := isText_iff.mpr is_text
  simp only [rootV1InlinePrefix, flag, Bool.not_true, Bool.false_eq_true, if_false]
  rfl

theorem inlinePrefix_digits (other : ¬IsText bytes) :
    rootV1InlinePrefix bytes =
      ⟨bytes.take (rootV1PayloadRenderedBytes / 2), false,
        hex (bytes.take (rootV1PayloadRenderedBytes / 2))⟩ := by
  have flag := Bool.eq_false_iff.mpr (isText_iff.not.mpr other)
  simp only [rootV1InlinePrefix, flag, Bool.not_false, if_true]

/-- What is cut of a text is a text that begins it and has no more bytes than may be shown. -/
theorem utf8Prefix_text (bytes : Bytes) :
    ∃ text, rootV1Utf8Prefix bytes = utf8 text ∧ utf8 text <+: bytes ∧
      (utf8 text).length ≤ rootV1PayloadRenderedBytes := by
  obtain ⟨begins, text, encodes⟩ := withoutIncomplete_spec (bytes.take rootV1PayloadRenderedBytes)
  have within := List.length_take_le rootV1PayloadRenderedBytes bytes
  rw [← encodes] at begins
  exact ⟨text, encodes.symm, begins.trans (List.take_prefix _ _), begins.length_le.trans within⟩

theorem shownText_spec (bytes : Bytes) :
    utf8 (shownText bytes) <+: bytes ∧ FitsBudgets (shownText bytes) := by
  obtain ⟨text, cut, begins, within⟩ := utf8Prefix_text bytes
  have shown : utf8 (shownText bytes) <+: utf8 text := by
    rw [shownText, cut, bufferToString_utf8]
    conv_rhs => rw [← String.ofList_toList (s := text)]
    exact utf8_prefix Text.firstPieces_prefix
  refine ⟨shown.trans begins, shown.length_le.trans within, ?_⟩
  rw [lineCount, shownText, String.toList_ofList, Text.splitOn_firstPieces (by decide)]
  exact List.length_take_le _ _

theorem shownText_whole {text : String} (fits : FitsBudgets text) : shownText (utf8 text) = text := by
  rw [shownText, rootV1Utf8Prefix, List.take_of_length_le fits.1, withoutIncomplete_text,
    bufferToString_utf8, Text.firstPieces_eq_self fits.2, String.ofList_toList]

theorem presents_text {text : String} (is_text : IsText (utf8 text)) :
    Presents (utf8 text) (rootV1InlinePrefix (utf8 text)) := by
  have shown := inlinePrefix_text is_text
  obtain ⟨begins, fits⟩ := shownText_spec (utf8 text)
  have all : rendered (utf8 text) = text := by
    rw [rendered, shown, if_pos rfl, bufferToString_utf8]
  rw [shown]
  refine ⟨begins, fits, iff_of_true rfl is_text, fun whole _ same => ?_, nofun, fun fits => ?_⟩
  · obtain rfl : whole = text := by rw [← bufferToString_utf8 whole, same, bufferToString_utf8]
    exact ⟨rfl, toList_prefix begins⟩
  · rw [all] at fits
    exact congrArg utf8 (shownText_whole fits)

theorem presents_digits (other : ¬IsText bytes) : Presents bytes (rootV1InlinePrefix bytes) := by
  have shown := inlinePrefix_digits other
  have within := List.length_take_le (rootV1PayloadRenderedBytes / 2) bytes
  have all : rendered bytes = hex bytes := by
    rw [rendered, shown, if_neg Bool.false_ne_true]
  rw [shown]
  refine ⟨List.take_prefix _ _, ⟨?_, ?_⟩, iff_of_false Bool.false_ne_true other,
    fun _ is_text => absurd is_text Bool.false_ne_true, fun _ => rfl, fun fits => ?_⟩
  · rw [length_utf8_hex]
    unfold rootV1PayloadRenderedBytes at within ⊢
    omega
  · rw [lineCount_hex]
    decide
  · have small := fits.1
    rw [all, length_utf8_hex] at small
    refine List.take_of_length_le ?_
    unfold rootV1PayloadRenderedBytes at small ⊢
    omega

theorem presents (bytes : Bytes) : Presents bytes (rootV1InlinePrefix bytes) := by
  by_cases is_text : IsText bytes
  · obtain ⟨text, rfl⟩ := is_text.2
    exact presents_text is_text
  · exact presents_digits is_text

/-- A result that passes the check of its lengths carries as many bytes as it says it presents, and
its counts come out whole. -/
theorem counts_addUp {output : Option Value} (matched : lengthMismatch output = false) :
    ∃ counts, rootV1Counts output = some counts ∧ counts.AddUp ∧
      safeInteger (chain output "bytes") = some counts.received ∧
      counts.presented = (carriedBytes output).length ∧
      counts.shown = (rootV1InlinePrefix (carriedBytes output)).bytes.length := by
  rw [lengthMismatch] at matched
  split at matched
  · next presented omitted presents_ omits =>
    simp only [Bool.or_eq_false_iff, decide_eq_false_iff_not, Decidable.not_not, ne_eq,
      Int.not_lt] at matched
    obtain ⟨⟨⟨⟨⟨-, omitted_nonneg⟩, received⟩, carried⟩, -⟩, -⟩ := matched
    let shown := (rootV1InlinePrefix (carriedBytes output)).bytes.length
    refine ⟨⟨presented + omitted, presented, omitted, shown, presented - shown⟩, ?_,
      ⟨?_, omitted_nonneg, ?_⟩, received, carried.symm, rfl⟩
    · rw [rootV1Counts, received, presents_, omits]
      rfl
    · have shown_le := (presents (carriedBytes output)).begins.length_le
      rw [← carried]
      exact Int.ofNat_le.mpr shown_le
    · dsimp only
      omega
  · cases matched

end Inline

/-- Every buffer is shown as a text that begins it, or as its digits, within both budgets and whole
if it fits them; and in every result that passes the checks, the bytes shown, left out here and left
out by the producer add up to those received. -/
theorem inline_presentation :
    (∀ bytes, Presents bytes (rootV1InlinePrefix bytes)) ∧
      ∀ value, surfaceInvalid value = false → lengthMismatch (value.field? "output") = false →
        ∃ counts, rootV1Counts (value.field? "output") = some counts ∧ counts.AddUp ∧
          safeInteger (chain (value.field? "output") "bytes") = some counts.received ∧
          counts.presented = (carriedBytes (value.field? "output")).length ∧
          counts.shown =
            (rootV1InlinePrefix (carriedBytes (value.field? "output"))).bytes.length :=
  ⟨presents, fun _ _ matched => counts_addUp matched⟩

/-- A command that ended, with two of the three bytes of its output. -/
def greeting : Value :=
  .field "result_surface" (.string resultSurface) <| .field "version" (.number 1) <|
    .field "delivery_mode" (.string "sync") <| .field "outcome" (.string "ended") <|
    .field "effects_possible" (.bool true) <| .field "retry_safe" (.bool false) <|
    .field "stages" .nil <| .field "faults" .nil <|
    .field "output" (.field "base64" (.string "aGk=") <| .field "bytes" (.number 3) <|
      .field "presented_bytes" (.number 2) <| .field "omitted_bytes" (.number 1) <|
      .field "remainder" (.string "discarded") .empty) .empty

theorem inline_presentation_greeting :
    ∃ counts, rootV1Counts (greeting.field? "output") = some counts ∧ counts.AddUp ∧
      counts.received = 3 := by
  obtain ⟨counts, counted, addUp, received, -⟩ :=
    inline_presentation.2 greeting (by decide +kernel) (by decide +kernel)
  have three : safeInteger (chain (greeting.field? "output") "bytes") = some 3 := by decide +kernel
  rw [three] at received
  exact ⟨counts, counted, addUp, (Option.some.inj received).symm⟩

end Adapter

end AgentBash
