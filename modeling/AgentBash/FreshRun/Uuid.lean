import AgentBash.RootWork.SessionRing
import AgentBash.Text.Utf8

/-!
# Identities as UUIDs

`uuid_bytes` of `fresh_run.rs`: the dashes are taken out of a text of 36 bytes that has four of them
in their places, and the integer parser of the standard library reads the pairs that are left.
-/

namespace AgentBash

set_option autoImplicit false

open RootWork

namespace FreshRun

inductive UuidFailure
  | message (text : String)
  | panicked
  deriving DecidableEq, Repr

/-- Indexing out of bounds panics. -/
def byteAt (bytes : Bytes) (index : Nat) : Except UuidFailure UInt8 :=
  match bytes[index]? with
  | some byte => .ok byte
  | none => .error .panicked

/-- `char::to_digit(16)`, of a byte. -/
def toDigit (byte : UInt8) : Option Nat :=
  if 48 ≤ byte ∧ byte ≤ 57 then some (byte.toNat - 48)
  else if 97 ≤ byte ∧ byte ≤ 102 then some (byte.toNat - 87)
  else if 65 ≤ byte ∧ byte ≤ 70 then some (byte.toNat - 55)
  else none

def readDigits : Bytes → Nat → Except UuidFailure Nat
  | [], value => .ok value
  | byte :: rest, value =>
    match toDigit byte with
    | none => .error (.message "invalid digit found in string")
    | some digit =>
      if value * 16 + digit < 256 then readDigits rest (value * 16 + digit)
      else .error (.message "number too large to fit in target type")

/-- `u8::from_str_radix(_, 16)`: a plus may stand before the digits. -/
def fromStrRadix : Bytes → Except UuidFailure Nat
  | [] => .error (.message "cannot parse integer from empty string")
  | [43] => .error (.message "invalid digit found in string")
  | [45] => .error (.message "invalid digit found in string")
  | 43 :: digits => readDigits digits 0
  | digits => readDigits digits 0

/-- How a `Utf8Error` prints. -/
def utf8Message (error : Text.Utf8Error) : String :=
  match error.errorLen with
  | some length =>
    s!"invalid utf-8 sequence of {length} bytes from index {error.validUpTo}"
  | none => s!"incomplete utf-8 byte sequence from index {error.validUpTo}"

def readPart (part : Bytes) : Except UuidFailure UInt8 :=
  match Text.fromUtf8 part with
  | .error error => .error (.message (utf8Message error))
  | .ok _ => (fromStrRadix part).map UInt8.ofNat

/-- `as_chunks::<2>().0` -/
def pairs {Item : Type} : List Item → List (Item × Item)
  | one :: two :: rest => (one, two) :: pairs rest
  | _ => []

/-- The loop over the parts, from an index on. -/
def storeParts : Nat → List (UInt8 × UInt8) → Bytes → Except UuidFailure Bytes
  | _, [], bytes => .ok bytes
  | index, (one, two) :: parts, bytes =>
    match readPart [one, two] with
    | .error failure => .error failure
    | .ok value =>
      if index < bytes.length then storeParts (index + 1) parts (bytes.set index value)
      else .error .panicked

/-- The tests of the guard, each made only if those before it let the text pass. -/
def dashesStand (bytes : Bytes) : List Nat → Except UuidFailure Bool
  | [] => .ok true
  | index :: indices =>
    match byteAt bytes index with
    | .error failure => .error failure
    | .ok byte => if byte = 45 then dashesStand bytes indices else .ok false

def uuidBytes (value : String) : Except UuidFailure Bytes :=
  let hex := String.ofList (value.toList.filter fun c => c ≠ '-')
  if (utf8 value).length ≠ 36 ∨ (utf8 hex).length ≠ 32 then .error (.message "invalid UUID")
  else
    match dashesStand (utf8 value) [8, 13, 18, 23] with
    | .error failure => .error failure
    | .ok false => .error (.message "invalid UUID")
    | .ok true =>
      match storeParts 0 (pairs (utf8 hex)) (List.replicate 16 0) with
      | .error failure => .error failure
      | .ok bytes =>
        if bytes = List.replicate 16 0 then .error (.message "nil UUID") else .ok bytes

def dashed {Item : Type} (dash : Item) (hex : List Item) : List Item :=
  hex.take 8 ++ dash :: ((hex.drop 8).take 4 ++ dash :: ((hex.drop 12).take 4 ++
    dash :: ((hex.drop 16).take 4 ++ dash :: hex.drop 20)))

/-- `{byte:02x}` -/
def lowerHex (byte : UInt8) : List Char :=
  [Nat.digitChar (byte.toNat / 16), Nat.digitChar (byte.toNat % 16)]

/-- The text `random_uuid` makes of its bytes. -/
def renderUuid (bytes : Bytes) : List Char := dashed '-' (bytes.flatMap lowerHex)

def UuidForm (value : String) : Prop :=
  ∃ hex : List Char, hex.length = 32 ∧ (∀ c ∈ hex, isAsciiHexdigit c = true) ∧
    value.toList = dashed '-' hex

def NilUuid (value : String) : Prop := value.toList = dashed '-' (List.replicate 32 '0')

/-- A text of the form of a UUID with a plus for the first digit of a pair, and not all zero. -/
def SignedForm (value : String) : Prop :=
  ∃ hex : List Char, hex.length = 32 ∧ value.toList = dashed '-' hex ∧
    (∀ pair ∈ pairs hex, (isAsciiHexdigit pair.1 = true ∨ pair.1 = '+') ∧
      isAsciiHexdigit pair.2 = true) ∧
    (∃ pair ∈ pairs hex, pair.1 = '+') ∧ ∃ c ∈ hex, c ≠ '0' ∧ c ≠ '+'

/-- The text decodes to exactly the bytes that it is a rendering of, if it is a UUID and not the
nil one, and decoding does not panic. -/
def DecodesUuid (value : String) : Prop :=
  (∀ bytes, uuidBytes value = .ok bytes ↔
    bytes.length = 16 ∧ UuidForm value ∧ ¬NilUuid value ∧
      renderUuid bytes = value.toList.map Char.toLower) ∧
  uuidBytes value ≠ .error .panicked

section Characters

theorem utf8EncodeChar_ascii {c : Char} (ascii : c.toNat < 128) :
    String.utf8EncodeChar c = [UInt8.ofNat c.toNat] := by
  have small : c.val.toNat ≤ 127 := Nat.lt_succ_iff.mp ascii
  rw [String.utf8EncodeChar, if_pos small]
  rfl

theorem utf8EncodeChar_wide {c : Char} (wide : 128 ≤ c.toNat) :
    ∀ byte ∈ String.utf8EncodeChar c, 128 ≤ byte.toNat := by
  have large : ¬c.val.toNat ≤ 127 := Nat.not_le.mpr wide
  rw [String.utf8EncodeChar, if_neg large]
  intro byte inside
  split at inside
  · simp only [List.mem_cons, List.not_mem_nil, or_false] at inside
    rcases inside with rfl | rfl <;> simp only [UInt8.toNat_ofNat'] <;> omega
  · split at inside
    · simp only [List.mem_cons, List.not_mem_nil, or_false] at inside
      rcases inside with rfl | rfl | rfl <;> simp only [UInt8.toNat_ofNat'] <;> omega
    · simp only [List.mem_cons, List.not_mem_nil, or_false] at inside
      rcases inside with rfl | rfl | rfl | rfl <;> simp only [UInt8.toNat_ofNat'] <;> omega

theorem utf8_filter_dash (text : List Char) :
    utf8 (.ofList (text.filter fun c => c ≠ '-')) =
      (utf8 (.ofList text)).filter fun byte => byte ≠ 45 := by
  rw [utf8_ofList, utf8_ofList]
  induction text with
  | nil => rfl
  | cons c text ih =>
    rw [List.flatMap_cons, List.filter_append, ← ih]
    by_cases dash : c = '-'
    · subst dash
      rw [List.filter_cons_of_neg (by simp)]
      rfl
    · rw [List.filter_cons_of_pos (by simpa using dash), List.flatMap_cons]
      congr 1
      refine (List.filter_eq_self.mpr fun byte inside => ?_).symm
      rcases Nat.lt_or_ge c.toNat 128 with ascii | wide
      · rw [utf8EncodeChar_ascii ascii, List.mem_singleton] at inside
        subst inside
        have other : c.toNat ≠ 45 := fun same => dash (Char.toNat_inj.mp same)
        refine decide_eq_true fun same => other ?_
        have value := congrArg UInt8.toNat same
        rw [UInt8.toNat_ofNat', Nat.mod_eq_of_lt (by omega)] at value
        exact value
      · have high := utf8EncodeChar_wide wide byte inside
        refine decide_eq_true fun same => ?_
        rw [same] at high
        exact absurd high (by decide)

def codes (text : List Char) : Bytes := text.map fun c => UInt8.ofNat c.toNat

theorem utf8_codes {text : List Char} (ascii : ∀ c ∈ text, c.toNat < 128) :
    utf8 (.ofList text) = codes text := by
  rw [utf8_ofList]
  induction text with
  | nil => rfl
  | cons c text ih =>
    rw [List.flatMap_cons, utf8EncodeChar_ascii (ascii c List.mem_cons_self),
      ih fun other inside => ascii other (List.mem_cons_of_mem _ inside)]
    rfl

theorem toList_of_utf8 {value : String} {text : List Char} (ascii : ∀ c ∈ text, c.toNat < 128) :
    utf8 value = codes text ↔ value.toList = text := by
  constructor
  · intro same
    rw [← utf8_codes ascii] at same
    have read := readUtf8_eq_some.mpr same
    rw [readUtf8_eq_some.mpr rfl, Option.some.injEq] at read
    rw [← read, String.toList_ofList]
  · rintro rfl
    rw [← utf8_codes ascii, String.ofList_toList]

theorem toNat_ofNat_ascii {code : Nat} (small : code < 128) : (Char.ofNat code).toNat = code := by
  rw [Char.ofNat, dif_pos (Or.inl (by omega))]
  rfl

theorem exists_codes {bytes : Bytes} (ascii : ∀ byte ∈ bytes, byte.toNat < 128) :
    ∃ text : List Char, codes text = bytes ∧ ∀ c ∈ text, c.toNat < 128 := by
  refine ⟨bytes.map fun byte => Char.ofNat byte.toNat, ?_, ?_⟩
  · rw [codes, List.map_map]
    conv_rhs => rw [← List.map_id bytes]
    refine List.map_congr_left fun byte inside => ?_
    simp [Function.comp, toNat_ofNat_ascii (ascii byte inside)]
  · intro c inside
    obtain ⟨byte, member, rfl⟩ := List.mem_map.mp inside
    rw [toNat_ofNat_ascii (ascii byte member)]
    exact ascii byte member

end Characters

section Parts

theorem toDigit_ascii {byte : UInt8} {digit : Nat} (reads : toDigit byte = some digit) :
    byte.toNat < 128 ∧ digit < 16 := by
  unfold toDigit at reads
  simp only [UInt8.le_iff_toNat_le, UInt8.reduceToNat] at reads
  split at reads
  · cases reads
    omega
  · split at reads
    · cases reads
      omega
    · split at reads
      · cases reads
        omega
      · cases reads

/-- What a pair of bytes is read as: two digits, or one behind a plus. -/
def Reads (pair : UInt8 × UInt8) (value : UInt8) : Prop :=
  ∃ low, toDigit pair.2 = some low ∧
    ((∃ high, toDigit pair.1 = some high ∧ value = UInt8.ofNat (high * 16 + low)) ∨
      (pair.1 = 43 ∧ value = UInt8.ofNat low))

theorem readDigits_one {byte : UInt8} {value : Nat} :
    readDigits [byte] 0 = .ok value ↔ toDigit byte = some value := by
  cases reads : toDigit byte with
  | none => simp [readDigits, reads]
  | some digit =>
    have small := (toDigit_ascii reads).2
    simp [readDigits, reads, show digit < 256 by omega]

theorem readDigits_two {high low : UInt8} {value : Nat} :
    readDigits [high, low] 0 = .ok value ↔
      ∃ first second, toDigit high = some first ∧ toDigit low = some second ∧
        value = first * 16 + second := by
  cases readsHigh : toDigit high with
  | none => simp [readDigits, readsHigh]
  | some first =>
    have firstSmall := (toDigit_ascii readsHigh).2
    cases readsLow : toDigit low with
    | none => simp [readDigits, readsHigh, readsLow, show first < 256 by omega]
    | some second =>
      have secondSmall := (toDigit_ascii readsLow).2
      simp [readDigits, readsHigh, readsLow, show first < 256 by omega,
        show first * 16 + second < 256 by omega, eq_comm]

theorem fromUtf8_ascii {one two : UInt8} (first : one.toNat < 128) (second : two.toNat < 128) :
    Text.fromUtf8 [one, two] = .ok () := by
  have leads {byte : UInt8} (small : byte.toNat < 128) : Text.lead byte = some none := by
    rw [Text.lead, if_pos (UInt8.lt_iff_toNat_lt.mpr small)]
  simp [Text.fromUtf8, Text.scanUtf8, leads first, leads second]

theorem fromStrRadix_two {one two : UInt8} (unsigned : one ≠ 43) :
    fromStrRadix [one, two] = readDigits [one, two] 0 := by
  unfold fromStrRadix
  split
  · rename_i same
    cases same
  · rename_i same
    cases same
  · rename_i same
    cases same
  · rename_i same
    exact absurd (List.cons.inj same).1 unsigned
  · rfl

theorem reads_ascii {one two value : UInt8} (reads : Reads (one, two) value) :
    one.toNat < 128 ∧ two.toNat < 128 := by
  obtain ⟨low, readsLow, ⟨high, readsHigh, -⟩ | ⟨plus, -⟩⟩ := reads
  · exact ⟨(toDigit_ascii readsHigh).1, (toDigit_ascii readsLow).1⟩
  · obtain rfl : one = 43 := plus
    exact ⟨by decide, (toDigit_ascii readsLow).1⟩

theorem fromStrRadix_ok {one two value : UInt8} :
    (fromStrRadix [one, two]).map UInt8.ofNat = .ok value ↔ Reads (one, two) value := by
  by_cases plus : one = 43
  · subst plus
    have unread : toDigit 43 = none := by decide
    show (readDigits [two] 0).map UInt8.ofNat = .ok value ↔ _
    cases read : readDigits [two] 0 with
    | error failure =>
      refine iff_of_false (by simp [Except.map]) ?_
      rintro ⟨low, readsLow, -⟩
      rw [readDigits_one.mpr readsLow] at read
      cases read
    | ok low =>
      have readsLow := readDigits_one.mp read
      simp [Except.map, Reads, readsLow, unread, eq_comm]
  · rw [fromStrRadix_two plus]
    cases read : readDigits [one, two] 0 with
    | error failure =>
      refine iff_of_false (by simp [Except.map]) ?_
      rintro ⟨low, readsLow, ⟨high, readsHigh, -⟩ | ⟨same, -⟩⟩
      · rw [readDigits_two.mpr ⟨high, low, readsHigh, readsLow, rfl⟩] at read
        cases read
      · exact plus same
    | ok total =>
      obtain ⟨high, low, readsHigh, readsLow, rfl⟩ := readDigits_two.mp read
      simp [Except.map, Reads, readsHigh, readsLow, plus, eq_comm]

theorem readPart_ok {one two value : UInt8} :
    readPart [one, two] = .ok value ↔ Reads (one, two) value := by
  constructor
  · intro read
    unfold readPart at read
    split at read
    · cases read
    · exact fromStrRadix_ok.mp read
  · intro reads
    have ascii := reads_ascii reads
    rw [readPart, fromUtf8_ascii ascii.1 ascii.2]
    exact fromStrRadix_ok.mpr reads

theorem readDigits_message {bytes : Bytes} {start : Nat} {failure : UuidFailure}
    (fails : readDigits bytes start = .error failure) : failure ≠ .panicked := by
  fun_induction readDigits bytes start with
  | case1 => cases fails
  | case2 => cases fails; exact UuidFailure.noConfusion
  | case3 _ _ _ _ _ _ ih => exact ih fails
  | case4 => cases fails; exact UuidFailure.noConfusion

theorem readPart_message {part : Bytes} {failure : UuidFailure}
    (fails : readPart part = .error failure) : failure ≠ .panicked := by
  unfold readPart at fails
  split at fails
  · cases fails
    exact UuidFailure.noConfusion
  · cases read : fromStrRadix part with
    | ok value => simp [read, Except.map] at fails
    | error other =>
      rw [read] at fails
      obtain rfl := Except.error.inj fails
      unfold fromStrRadix at read
      split at read
      · cases read; exact UuidFailure.noConfusion
      · cases read; exact UuidFailure.noConfusion
      · cases read; exact UuidFailure.noConfusion
      · exact readDigits_message read
      · exact readDigits_message read

/-- The loop fills the array with what the parts are read as, and never leaves it. -/
theorem storeParts_ok (parts : List (UInt8 × UInt8)) (done rest : Bytes)
    (room : parts.length = rest.length) {result : Bytes} :
    storeParts done.length parts (done ++ rest) = .ok result ↔
      ∃ values, List.Forall₂ Reads parts values ∧ result = done ++ values := by
  induction parts generalizing done rest with
  | nil =>
    obtain rfl : rest = [] := List.eq_nil_of_length_eq_zero room.symm
    rw [storeParts, List.append_nil]
    constructor
    · intro same
      exact ⟨[], .nil, by rw [← Except.ok.inj same, List.append_nil]⟩
    · rintro ⟨values, all, rfl⟩
      cases all
      rw [List.append_nil]
  | cons pair parts ih =>
    obtain ⟨one, two⟩ := pair
    cases rest with
    | nil => cases room
    | cons zero rest =>
      rw [storeParts]
      cases read : readPart [one, two] with
      | error failure =>
        refine iff_of_false (by simp) ?_
        rintro ⟨values, all, -⟩
        cases all with
        | cons reads _ =>
          rw [readPart_ok.mpr reads] at read
          cases read
      | ok value =>
        have inside : done.length < (done ++ zero :: rest).length := by simp
        have set : (done ++ zero :: rest).set done.length value = (done ++ [value]) ++ rest := by
          simp
        have next := ih (done ++ [value]) rest (by simpa using room)
        rw [List.length_append, List.length_singleton] at next
        simp only [inside, if_true, set, next]
        have reads := readPart_ok.mp read
        constructor
        · rintro ⟨values, all, rfl⟩
          exact ⟨value :: values, .cons reads all, by simp⟩
        · rintro ⟨values, all, rfl⟩
          cases all with
          | cons other all =>
            rw [readPart_ok.mpr other] at read
            obtain rfl := Except.ok.inj read
            exact ⟨_, all, by simp⟩

theorem storeParts_message (parts : List (UInt8 × UInt8)) (index : Nat) (bytes : Bytes)
    (room : index + parts.length ≤ bytes.length) {failure : UuidFailure}
    (fails : storeParts index parts bytes = .error failure) : failure ≠ .panicked := by
  induction parts generalizing index bytes with
  | nil => cases fails
  | cons pair parts ih =>
    rw [List.length_cons] at room
    rw [storeParts] at fails
    cases read : readPart [pair.1, pair.2] with
    | error other =>
      simp only [read] at fails
      obtain rfl := Except.error.inj fails
      exact readPart_message read
    | ok value =>
      simp only [read, show index < bytes.length by omega, if_true] at fails
      exact ih (index + 1) _ (by rw [List.length_set]; omega) fails

end Parts

section Dashes

variable {Item : Type} {dash : Item}

theorem split_at {items : List Item} {index : Nat} {item : Item}
    (stands : items[index]? = some item) :
    ∃ front back, items = front ++ item :: back ∧ front.length = index := by
  obtain ⟨inside, same⟩ := List.getElem?_eq_some_iff.mp stands
  refine ⟨items.take index, items.drop (index + 1), ?_, by simp; omega⟩
  rw [← same, List.getElem_cons_drop, List.take_append_drop]

theorem dashed_groups {one two three four five : List Item} (one8 : one.length = 8)
    (two4 : two.length = 4) (three4 : three.length = 4) (four4 : four.length = 4) :
    dashed dash (one ++ (two ++ (three ++ (four ++ five)))) =
      one ++ dash :: (two ++ dash :: (three ++ dash :: (four ++ dash :: five))) := by
  have ones (most : Nat) (above : 8 ≤ most) : one.drop most = [] :=
    List.drop_eq_nil_of_le (one8.trans_le above)
  have twos (most : Nat) (above : 4 ≤ most) : two.drop most = [] :=
    List.drop_eq_nil_of_le (two4.trans_le above)
  have threes : three.drop 8 = [] := List.drop_eq_nil_of_le (by omega)
  simp [dashed, List.drop_append, one8, two4, three4, four4, ones, twos, threes]

theorem exists_groups {hex : List Item} (length : hex.length = 32) :
    ∃ one two three four five, hex = one ++ (two ++ (three ++ (four ++ five))) ∧
      one.length = 8 ∧ two.length = 4 ∧ three.length = 4 ∧ four.length = 4 ∧ five.length = 12 := by
  refine ⟨hex.take 8, (hex.drop 8).take 4, (hex.drop 12).take 4, (hex.drop 16).take 4,
    hex.drop 20, ?_, ?_, ?_, ?_, ?_, ?_⟩
  · conv_lhs => rw [← List.take_append_drop 8 hex, ← List.take_append_drop 4 (hex.drop 8),
      List.drop_drop, ← List.take_append_drop 4 (hex.drop 12), List.drop_drop,
      ← List.take_append_drop 4 (hex.drop 16), List.drop_drop]
  all_goals simp only [List.length_take, List.length_drop]; omega

theorem dashed_map {Other : Type} (f : Item → Other) (hex : List Item) :
    (dashed dash hex).map f = dashed (f dash) (hex.map f) := by
  simp [dashed, List.map_take, List.map_drop]

theorem length_dashed {hex : List Item} (length : hex.length = 32) :
    (dashed dash hex).length = 36 := by
  simp only [dashed, List.length_append, List.length_cons, List.length_take, List.length_drop]
  omega

theorem mem_dashed {hex : List Item} (length : hex.length = 32) {item : Item} :
    item ∈ dashed dash hex ↔ item = dash ∨ item ∈ hex := by
  obtain ⟨one, two, three, four, five, rfl, one8, two4, three4, four4, -⟩ := exists_groups length
  rw [dashed_groups one8 two4 three4 four4]
  simp only [List.mem_append, List.mem_cons]
  tauto

theorem dashed_inj {hex other : List Item} (length : hex.length = 32)
    (otherLength : other.length = 32) (same : dashed dash hex = dashed dash other) :
    hex = other := by
  obtain ⟨one, two, three, four, five, rfl, one8, two4, three4, four4, -⟩ := exists_groups length
  obtain ⟨one', two', three', four', five', rfl, one8', two4', three4', four4', -⟩ :=
    exists_groups otherLength
  rw [dashed_groups one8 two4 three4 four4, dashed_groups one8' two4' three4' four4'] at same
  obtain ⟨ones, rest⟩ := List.append_inj same (one8.trans one8'.symm)
  obtain ⟨twos, rest⟩ := List.append_inj (List.cons.inj rest).2 (two4.trans two4'.symm)
  obtain ⟨threes, rest⟩ := List.append_inj (List.cons.inj rest).2 (three4.trans three4'.symm)
  obtain ⟨fours, rest⟩ := List.append_inj (List.cons.inj rest).2 (four4.trans four4'.symm)
  rw [ones, twos, threes, fours, (List.cons.inj rest).2]

/-- A list of which as much is left as stands between its dashes has no other dash. -/
theorem filter_dash [DecidableEq Item] {items : List Item} {length : Nat}
    (most : items.length ≤ length)
    (left : length ≤ (items.filter fun item => item ≠ dash).length) :
    items.filter (fun item => item ≠ dash) = items ∧ dash ∉ items := by
  have fewer := List.length_filter_le (fun item => decide (item ≠ dash)) items
  have all := List.length_filter_eq_length_iff.mp (Nat.le_antisymm fewer (by omega))
  refine ⟨List.filter_eq_self.mpr all, fun inside => ?_⟩
  have other := all dash inside
  simp at other

theorem filter_dashed [DecidableEq Item] {hex : List Item} (length : hex.length = 32)
    (clean : dash ∉ hex) : (dashed dash hex).filter (fun item => item ≠ dash) = hex := by
  obtain ⟨one, two, three, four, five, rfl, one8, two4, three4, four4, -⟩ := exists_groups length
  rw [dashed_groups one8 two4 three4 four4]
  conv_rhs => rw [← List.filter_eq_self (p := fun item => decide (item ≠ dash)) |>.mpr
    fun item inside => decide_eq_true fun same => clean (same ▸ inside)]
  simp [List.filter_append]

theorem dashed_iff [DecidableEq Item] (items : List Item) :
    (items.length = 36 ∧ (items.filter fun item => item ≠ dash).length = 32 ∧
        items[8]? = some dash ∧ items[13]? = some dash ∧ items[18]? = some dash ∧
        items[23]? = some dash) ↔
      ∃ hex, hex.length = 32 ∧ dash ∉ hex ∧ items = dashed dash hex := by
  constructor
  · rintro ⟨length, left, at8, at13, at18, at23⟩
    obtain ⟨one, rest, rfl, one8⟩ := split_at at8
    have at13 : rest[4]? = some dash := by
      simpa [List.getElem?_append, one8] using at13
    have at18 : rest[9]? = some dash := by
      simpa [List.getElem?_append, one8] using at18
    have at23 : rest[14]? = some dash := by
      simpa [List.getElem?_append, one8] using at23
    obtain ⟨two, rest, rfl, two4⟩ := split_at at13
    have at18 : rest[4]? = some dash := by
      simpa [List.getElem?_append, two4] using at18
    have at23 : rest[9]? = some dash := by
      simpa [List.getElem?_append, two4] using at23
    obtain ⟨three, rest, rfl, three4⟩ := split_at at18
    have at23 : rest[4]? = some dash := by
      simpa [List.getElem?_append, three4] using at23
    obtain ⟨four, five, rfl, four4⟩ := split_at at23
    simp only [List.length_append, List.length_cons, one8, two4, three4, four4] at length
    have most : (one ++ (two ++ (three ++ (four ++ five)))).length = 32 := by
      simp only [List.length_append, one8, two4, three4, four4]
      omega
    have kept : (one ++ dash :: (two ++ dash :: (three ++ dash :: (four ++ dash :: five)))).filter
        (fun item => item ≠ dash) =
          (one ++ (two ++ (three ++ (four ++ five)))).filter (fun item => item ≠ dash) := by
      simp [List.filter_append]
    rw [kept] at left
    exact ⟨_, most, (filter_dash most.le left.ge).2,
      (dashed_groups one8 two4 three4 four4).symm⟩
  · rintro ⟨hex, length, clean, rfl⟩
    refine ⟨length_dashed length, by rw [filter_dashed length clean, length], ?_⟩
    obtain ⟨one, two, three, four, five, rfl, one8, two4, three4, four4, five12⟩ :=
      exists_groups length
    rw [dashed_groups one8 two4 three4 four4]
    refine ⟨?_, ?_, ?_, ?_⟩ <;>
      simp [List.getElem?_append, one8, two4, three4, four4]

end Dashes

section Decoding

theorem length_pairs {Item : Type} {items : List Item} {half : Nat}
    (length : items.length = 2 * half) : (pairs items).length = half := by
  induction half generalizing items with
  | zero =>
    obtain rfl := List.eq_nil_of_length_eq_zero length
    rfl
  | succ half ih =>
    match items, length with
    | _ :: _ :: rest, length =>
      rw [pairs, List.length_cons, ih (by simp only [List.length_cons] at length; omega)]

theorem dashesStand_iff {bytes : Bytes} {indices : List Nat} :
    dashesStand bytes indices = .ok true ↔ ∀ index ∈ indices, bytes[index]? = some 45 := by
  induction indices with
  | nil => simp [dashesStand]
  | cons index indices ih =>
    rw [dashesStand, byteAt]
    cases read : bytes[index]? with
    | none => simp [read]
    | some byte =>
      by_cases dash : byte = 45
      · simp [dash, read, ih]
      · simp [dash, read]

theorem dashesStand_error {bytes : Bytes} {indices : List Nat}
    (inside : ∀ index ∈ indices, index < bytes.length) (failure : UuidFailure) :
    dashesStand bytes indices ≠ .error failure := by
  induction indices with
  | nil => simp [dashesStand]
  | cons index indices ih =>
    rw [dashesStand, byteAt, List.getElem?_eq_getElem (inside index List.mem_cons_self)]
    dsimp only
    split
    · exact ih fun other member => inside other (List.mem_cons_of_mem _ member)
    · intro stands
      cases stands

/-- Bytes with dashes in the places of a UUID and nowhere else. -/
def Grouped (bytes hex : Bytes) : Prop :=
  hex.length = 32 ∧ 45 ∉ hex ∧ bytes = dashed 45 hex

theorem uuidBytes_grouped {value : String} {hex : Bytes} (grouped : Grouped (utf8 value) hex) :
    uuidBytes value =
      match storeParts 0 (pairs hex) (List.replicate 16 0) with
      | .error failure => .error failure
      | .ok bytes =>
        if bytes = List.replicate 16 0 then .error (.message "nil UUID") else .ok bytes := by
  obtain ⟨length, clean, whole⟩ := grouped
  obtain ⟨all, left, at8, at13, at18, at23⟩ := (dashed_iff (utf8 value)).mpr ⟨hex, length, clean, whole⟩
  have taken := utf8_filter_dash value.toList
  rw [String.ofList_toList, whole, filter_dashed length clean] at taken
  have stand : dashesStand (utf8 value) [8, 13, 18, 23] = .ok true := by
    rw [dashesStand_iff]
    simp [at8, at13, at18, at23]
  simp only [uuidBytes, taken, all, length, stand]
  rfl

theorem uuidBytes_other {value : String} (other : ¬∃ hex, Grouped (utf8 value) hex) :
    uuidBytes value = .error (.message "invalid UUID") := by
  have taken := utf8_filter_dash value.toList
  rw [String.ofList_toList] at taken
  unfold uuidBytes
  dsimp only
  rw [taken]
  split
  · rfl
  · rename_i lengths
    obtain ⟨length, left⟩ := not_or.mp lengths
    have inside : ∀ index ∈ [8, 13, 18, 23], index < (utf8 value).length := by
      rw [not_not.mp length]
      decide
    split
    · rename_i failure fails
      exact absurd fails (dashesStand_error inside failure)
    · rfl
    · rename_i stand
      have stand := dashesStand_iff.mp stand
      exact absurd ((dashed_iff (utf8 value)).mp ⟨not_not.mp length, not_not.mp left,
        stand 8 (by simp), stand 13 (by simp), stand 18 (by simp), stand 23 (by simp)⟩) other

theorem storeParts_zeros {hex : Bytes} (length : hex.length = 32) {result : Bytes} :
    storeParts 0 (pairs hex) (List.replicate 16 0) = .ok result ↔
      List.Forall₂ Reads (pairs hex) result := by
  have parts : (pairs hex).length = (List.replicate 16 (0 : UInt8)).length :=
    @length_pairs _ hex 16 length
  have stored := @storeParts_ok (pairs hex) [] (List.replicate 16 0) parts result
  rw [List.length_nil, List.nil_append] at stored
  rw [stored]
  constructor
  · rintro ⟨values, all, rfl⟩
    exact all
  · exact fun all => ⟨result, all, rfl⟩

theorem uuidBytes_ok {value : String} {bytes : Bytes} :
    uuidBytes value = .ok bytes ↔
      ∃ hex, Grouped (utf8 value) hex ∧ List.Forall₂ Reads (pairs hex) bytes ∧
        bytes ≠ List.replicate 16 0 := by
  by_cases known : ∃ hex, Grouped (utf8 value) hex
  · obtain ⟨hex, grouped⟩ := known
    have only {other : Bytes} (also : Grouped (utf8 value) other) : other = hex :=
      dashed_inj also.1 grouped.1 (also.2.2.symm.trans grouped.2.2)
    rw [uuidBytes_grouped grouped]
    constructor
    · intro decodes
      split at decodes
      · cases decodes
      · rename_i result stored
        split at decodes
        · cases decodes
        · rename_i some_
          obtain rfl := Except.ok.inj decodes
          exact ⟨hex, grouped, (storeParts_zeros grouped.1).mp stored, some_⟩
    · rintro ⟨other, also, reads, some_⟩
      obtain rfl := only also
      rw [(storeParts_zeros grouped.1).mpr reads]
      exact if_neg some_
  · rw [uuidBytes_other known]
    refine iff_of_false (by simp) ?_
    rintro ⟨hex, grouped, -⟩
    exact known ⟨hex, grouped⟩

theorem uuidBytes_message (value : String) : uuidBytes value ≠ .error .panicked := by
  by_cases known : ∃ hex, Grouped (utf8 value) hex
  · obtain ⟨hex, grouped⟩ := known
    rw [uuidBytes_grouped grouped]
    split
    · rename_i failure fails
      have room : 0 + (pairs hex).length ≤ (List.replicate 16 (0 : UInt8)).length := by
        rw [@length_pairs _ hex 16 grouped.1]
        decide
      exact fun same => storeParts_message _ _ _ room fails (Except.error.inj same)
    · split <;> simp
  · rw [uuidBytes_other known]
    simp

/-! ### The same, on characters -/

def digitOf (c : Char) : Option Nat := if c.toNat < 128 then toDigit (UInt8.ofNat c.toNat) else none

theorem digitOf_cases {c : Char} (ascii : c.toNat < 128) :
    (digitOf c).map Nat.digitChar = if isAsciiHexdigit c then some c.toLower else none := by
  have table : ∀ code < 128, (digitOf (Char.ofNat code)).map Nat.digitChar =
      if isAsciiHexdigit (Char.ofNat code) then some (Char.ofNat code).toLower else none := by
    decide +kernel
  have here := table c.toNat ascii
  rwa [Char.ofNat_toNat] at here

theorem isAsciiHexdigit_ascii {c : Char} (digit : isAsciiHexdigit c = true) : c.toNat < 128 := by
  simp only [isAsciiHexdigit, isLowerHex, Char.isDigit, Bool.or_eq_true, Bool.and_eq_true,
    decide_eq_true_eq, Char.le_def, UInt32.le_iff_toNat_le] at digit
  have values : '9'.val.toNat = 57 ∧ 'f'.val.toNat = 102 ∧ 'F'.val.toNat = 70 := by decide
  show c.val.toNat < 128
  omega

def ReadsText (pair : Char × Char) (value : UInt8) : Prop :=
  ∃ low, digitOf pair.2 = some low ∧
    ((∃ high, digitOf pair.1 = some high ∧ value = UInt8.ofNat (high * 16 + low)) ∨
      (pair.1 = '+' ∧ value = UInt8.ofNat low))

theorem digitOf_ascii {c : Char} {digit : Nat} (reads : digitOf c = some digit) :
    c.toNat < 128 ∧ digit < 16 := by
  unfold digitOf at reads
  split at reads
  · rename_i ascii
    exact ⟨ascii, (toDigit_ascii reads).2⟩
  · cases reads

theorem readsText_ascii {pair : Char × Char} {value : UInt8} (reads : ReadsText pair value) :
    pair.1.toNat < 128 ∧ pair.2.toNat < 128 := by
  obtain ⟨low, readsLow, ⟨high, readsHigh, -⟩ | ⟨plus, -⟩⟩ := reads
  · exact ⟨(digitOf_ascii readsHigh).1, (digitOf_ascii readsLow).1⟩
  · exact ⟨by rw [plus]; decide, (digitOf_ascii readsLow).1⟩

theorem code_eq_iff {c other : Char} (ascii : c.toNat < 128) (also : other.toNat < 128) :
    UInt8.ofNat c.toNat = UInt8.ofNat other.toNat ↔ c = other := by
  refine ⟨fun same => Char.toNat_inj.mp ?_, fun same => same ▸ rfl⟩
  have values := congrArg UInt8.toNat same
  rwa [UInt8.toNat_ofNat', UInt8.toNat_ofNat', Nat.mod_eq_of_lt (by omega),
    Nat.mod_eq_of_lt (by omega)] at values

theorem reads_codes {pair : Char × Char} {value : UInt8} (first : pair.1.toNat < 128)
    (second : pair.2.toNat < 128) :
    Reads (UInt8.ofNat pair.1.toNat, UInt8.ofNat pair.2.toNat) value ↔ ReadsText pair value := by
  have plus : UInt8.ofNat pair.1.toNat = 43 ↔ pair.1 = '+' := @code_eq_iff pair.1 '+' first (by decide)
  simp only [Reads, ReadsText, digitOf, first, second, if_true, plus]

theorem pairs_map {Item Other : Type} (f : Item → Other) (items : List Item) :
    pairs (items.map f) = (pairs items).map (Prod.map f f) := by
  fun_induction pairs items with
  | case1 one two rest ih => simp [pairs, ih]
  | case2 items short => 
    match items, short with
    | [], _ => rfl
    | [_], _ => rfl
    | one :: two :: rest, short => exact absurd rfl (short one two rest)

theorem mem_pairs {Item : Type} {items : List Item} {half : Nat} (length : items.length = 2 * half)
    {item : Item} (inside : item ∈ items) : ∃ pair ∈ pairs items, item = pair.1 ∨ item = pair.2 := by
  induction half generalizing items with
  | zero =>
    obtain rfl := List.eq_nil_of_length_eq_zero length
    cases inside
  | succ half ih =>
    match items, length, inside with
    | one :: two :: rest, length, inside =>
      rw [pairs]
      simp only [List.mem_cons] at inside
      obtain rfl | rfl | inside := inside
      · exact ⟨_, List.mem_cons_self, .inl rfl⟩
      · exact ⟨_, List.mem_cons_self, .inr rfl⟩
      · obtain ⟨pair, member, stands⟩ :=
          ih (by simp only [List.length_cons] at length; omega) inside
        exact ⟨pair, List.mem_cons_of_mem _ member, stands⟩

theorem forall₂_exists {Item Other : Type} {rel : Item → Other → Prop} {items : List Item}
    {others : List Other} (all : List.Forall₂ rel items others) :
    ∀ item ∈ items, ∃ other ∈ others, rel item other := by
  induction all with
  | nil => simp
  | cons here _ ih =>
    intro item inside
    obtain rfl | inside := List.mem_cons.mp inside
    · exact ⟨_, List.mem_cons_self, here⟩
    · obtain ⟨other, member, holds⟩ := ih item inside
      exact ⟨other, List.mem_cons_of_mem _ member, holds⟩

theorem forall₂_codes {parts : List (Char × Char)} {bytes : Bytes}
    (ascii : ∀ pair ∈ parts, pair.1.toNat < 128 ∧ pair.2.toNat < 128) :
    List.Forall₂ Reads (parts.map (Prod.map (fun c => UInt8.ofNat c.toNat)
        fun c => UInt8.ofNat c.toNat)) bytes ↔
      List.Forall₂ ReadsText parts bytes := by
  induction parts generalizing bytes with
  | nil =>
    constructor
    · intro all
      cases all
      exact .nil
    · intro all
      cases all
      exact .nil
  | cons pair parts ih =>
    obtain ⟨first, second⟩ := ascii pair List.mem_cons_self
    have rest {bytes} := @ih bytes fun other member => ascii other (List.mem_cons_of_mem _ member)
    constructor
    · intro all
      cases all with
      | cons here all => exact .cons ((reads_codes first second).mp here) (rest.mp all)
    · intro all
      cases all with
      | cons here all => exact .cons ((reads_codes first second).mpr here) (rest.mpr all)

theorem mem_of_mem_pairs {Item : Type} {items : List Item} {pair : Item × Item}
    (inside : pair ∈ pairs items) : pair.1 ∈ items ∧ pair.2 ∈ items := by
  fun_induction pairs items with
  | case1 one two rest ih =>
    obtain rfl | inside := List.mem_cons.mp inside
    · simp
    · have held := ih inside
      exact ⟨by simp [held.1], by simp [held.2]⟩
  | case2 => cases inside

theorem codes_dashed (hex : List Char) : codes (dashed '-' hex) = dashed 45 (codes hex) :=
  dashed_map _ hex

theorem uuidBytes_text {value : String} {bytes : Bytes} :
    uuidBytes value = .ok bytes ↔
      ∃ hex : List Char, hex.length = 32 ∧ value.toList = dashed '-' hex ∧
        List.Forall₂ ReadsText (pairs hex) bytes ∧ bytes ≠ List.replicate 16 0 := by
  rw [uuidBytes_ok]
  constructor
  · rintro ⟨digits, ⟨length, -, whole⟩, reads, some_⟩
    have small : ∀ byte ∈ digits, byte.toNat < 128 := fun byte inside => by
      obtain ⟨pair, member, stands⟩ := @mem_pairs _ digits 16 length byte inside
      obtain ⟨value, -, read⟩ := forall₂_exists reads pair member
      have ascii := reads_ascii read
      obtain rfl | rfl := stands
      · exact ascii.1
      · exact ascii.2
    obtain ⟨hex, rfl, ascii⟩ := exists_codes small
    have hexLength : hex.length = 32 := by simpa [codes] using length
    refine ⟨hex, hexLength, ?_, ?_, some_⟩
    · rw [← codes_dashed] at whole
      refine (toList_of_utf8 fun c inside => ?_).mp whole
      obtain rfl | inside := (mem_dashed hexLength).mp inside
      · decide
      · exact ascii c inside
    · rw [codes, pairs_map] at reads
      exact (forall₂_codes fun pair inside => ⟨ascii _ (mem_of_mem_pairs inside).1,
        ascii _ (mem_of_mem_pairs inside).2⟩).mp reads
  · rintro ⟨hex, length, whole, reads, some_⟩
    have found {c : Char} (inside : c ∈ hex) :
        c.toNat < 128 ∧ ((∃ digit, digitOf c = some digit) ∨ c = '+') := by
      obtain ⟨pair, member, stands⟩ := @mem_pairs _ hex 16 length c inside
      obtain ⟨value, -, read⟩ := forall₂_exists reads pair member
      have ascii := readsText_ascii read
      obtain ⟨low, readsLow, ⟨high, readsHigh, -⟩ | ⟨plus, -⟩⟩ := read
      · obtain rfl | rfl := stands
        · exact ⟨ascii.1, .inl ⟨high, readsHigh⟩⟩
        · exact ⟨ascii.2, .inl ⟨low, readsLow⟩⟩
      · obtain rfl | rfl := stands
        · exact ⟨ascii.1, .inr plus⟩
        · exact ⟨ascii.2, .inl ⟨low, readsLow⟩⟩
    refine ⟨codes hex, ⟨by simpa [codes] using length, ?_, ?_⟩, ?_, some_⟩
    · intro dash
      obtain ⟨c, inside, same⟩ := List.mem_map.mp dash
      obtain ⟨ascii, digit⟩ := found inside
      obtain rfl := (@code_eq_iff c '-' ascii (by decide)).mp same
      obtain ⟨digit, read⟩ | plus := digit
      · have none_ : digitOf '-' = none := by decide
        rw [none_] at read
        cases read
      · exact absurd plus (by decide)
    · rw [← codes_dashed]
      refine (toList_of_utf8 fun c inside => ?_).mpr whole
      obtain rfl | inside := (mem_dashed length).mp inside
      · decide
      · exact (found inside).1
    · rw [codes, pairs_map]
      exact (forall₂_codes fun pair inside => ⟨(found (mem_of_mem_pairs inside).1).1,
        (found (mem_of_mem_pairs inside).2).1⟩).mpr reads

end Decoding

section Exactness

theorem digitChar_inj {one two : Nat} (first : one < 16) (second : two < 16)
    (same : Nat.digitChar one = Nat.digitChar two) : one = two := by
  have table : ∀ one < 16, ∀ two < 16, Nat.digitChar one = Nat.digitChar two → one = two := by
    decide
  exact table one first two second same

theorem digitOf_eq_some {c : Char} {digit : Nat} (reads : digitOf c = some digit) :
    isAsciiHexdigit c = true ∧ Nat.digitChar digit = c.toLower := by
  have cases_ := digitOf_cases (digitOf_ascii reads).1
  rw [reads, Option.map_some] at cases_
  split at cases_
  · rename_i hex
    exact ⟨hex, Option.some.inj cases_⟩
  · cases cases_

theorem exists_digitOf {c : Char} (hex : isAsciiHexdigit c = true) :
    ∃ digit, digitOf c = some digit := by
  have cases_ := digitOf_cases (isAsciiHexdigit_ascii hex)
  rw [if_pos hex, Option.map_eq_some_iff] at cases_
  obtain ⟨digit, reads, -⟩ := cases_
  exact ⟨digit, reads⟩

theorem digitOf_zero {c : Char} (reads : digitOf c = some 0) : c = '0' := by
  have table : ∀ code < 128, digitOf (Char.ofNat code) = some 0 → Char.ofNat code = '0' := by
    decide +kernel
  have here := table c.toNat (digitOf_ascii reads).1
  rw [Char.ofNat_toNat] at here
  exact here reads

/-- Two digits are read as the byte that prints as them in lower case. -/
theorem readsText_iff {pair : Char × Char} {value : UInt8} (first : isAsciiHexdigit pair.1 = true)
    (second : isAsciiHexdigit pair.2 = true) :
    ReadsText pair value ↔ lowerHex value = [pair.1.toLower, pair.2.toLower] := by
  obtain ⟨high, readsHigh⟩ := exists_digitOf first
  obtain ⟨low, readsLow⟩ := exists_digitOf second
  have highSmall := (digitOf_ascii readsHigh).2
  have lowSmall := (digitOf_ascii readsLow).2
  rw [← (digitOf_eq_some readsHigh).2, ← (digitOf_eq_some readsLow).2, lowerHex]
  constructor
  · rintro ⟨other, readsOther, ⟨also, readsAlso, rfl⟩ | ⟨plus, -⟩⟩
    · obtain rfl : low = other := Option.some.inj (readsLow.symm.trans readsOther)
      obtain rfl : high = also := Option.some.inj (readsHigh.symm.trans readsAlso)
      have exact_ : (UInt8.ofNat (high * 16 + low)).toNat = high * 16 + low := by
        rw [UInt8.toNat_ofNat', Nat.mod_eq_of_lt (by omega)]
      rw [exact_, show (high * 16 + low) / 16 = high by omega,
        show (high * 16 + low) % 16 = low by omega]
    · rw [plus] at first
      exact absurd first (by decide)
  · intro prints
    have bound := value.toNat_lt
    have highs := digitChar_inj (by omega) highSmall (List.cons.inj prints).1
    have lows := digitChar_inj (by omega) lowSmall (List.cons.inj (List.cons.inj prints).2).1
    refine ⟨low, readsLow, .inl ⟨high, readsHigh, ?_⟩⟩
    rw [← highs, ← lows, show value.toNat / 16 * 16 + value.toNat % 16 = value.toNat by omega,
      UInt8.ofNat_toNat]

theorem forall₂_readsText {half : Nat} {hex : List Char} {bytes : Bytes}
    (length : hex.length = 2 * half) (digits : ∀ c ∈ hex, isAsciiHexdigit c = true) :
    List.Forall₂ ReadsText (pairs hex) bytes ↔ bytes.flatMap lowerHex = hex.map Char.toLower := by
  induction half generalizing hex bytes with
  | zero =>
    obtain rfl := List.eq_nil_of_length_eq_zero length
    constructor
    · intro all
      cases all
      rfl
    · intro prints
      cases bytes with
      | nil => exact .nil
      | cons byte bytes => simp [lowerHex] at prints
  | succ half ih =>
    match hex, length, digits with
    | one :: two :: rest, length, digits =>
      simp only [List.mem_cons, forall_eq_or_imp] at digits
      obtain ⟨first, second, digits⟩ := digits
      have here {value} := @readsText_iff (one, two) value first second
      have tail {bytes} := @ih rest bytes (by simp only [List.length_cons] at length; omega) digits
      rw [pairs]
      constructor
      · intro all
        cases all with
        | cons reads all =>
          rw [List.flatMap_cons, here.mp reads, tail.mp all]
          rfl
      · intro prints
        cases bytes with
        | nil => cases prints
        | cons byte bytes =>
          rw [List.flatMap_cons] at prints
          have split := List.append_inj prints (by simp [lowerHex] :
            (lowerHex byte).length = [one.toLower, two.toLower].length)
          exact .cons (here.mpr split.1) (tail.mpr split.2)

theorem readsText_zero {pair : Char × Char} (reads : ReadsText pair 0) :
    (pair.1 = '0' ∨ pair.1 = '+') ∧ pair.2 = '0' := by
  obtain ⟨low, readsLow, ⟨high, readsHigh, same⟩ | ⟨plus, same⟩⟩ := reads
  · have lowSmall := (digitOf_ascii readsLow).2
    have highSmall := (digitOf_ascii readsHigh).2
    have values := congrArg UInt8.toNat same
    rw [UInt8.toNat_ofNat', Nat.mod_eq_of_lt (by omega)] at values
    have zero : (0 : UInt8).toNat = 0 := rfl
    obtain rfl : low = 0 := by omega
    obtain rfl : high = 0 := by omega
    exact ⟨.inl (digitOf_zero readsHigh), digitOf_zero readsLow⟩
  · have lowSmall := (digitOf_ascii readsLow).2
    have values := congrArg UInt8.toNat same
    rw [UInt8.toNat_ofNat', Nat.mod_eq_of_lt (by omega)] at values
    have zero : (0 : UInt8).toNat = 0 := rfl
    obtain rfl : low = 0 := by omega
    exact ⟨.inr plus, digitOf_zero readsLow⟩

theorem readsText_blank {pair : Char × Char} {value : UInt8} (reads : ReadsText pair value)
    (first : pair.1 = '0' ∨ pair.1 = '+') (second : pair.2 = '0' ∨ pair.2 = '+') : value = 0 := by
  have zero : digitOf '0' = some 0 := by decide
  have sign : digitOf '+' = none := by decide
  obtain ⟨low, readsLow, high⟩ := reads
  have lowZero : low = 0 := by
    obtain second | second := second
    · rw [second, zero] at readsLow
      exact (Option.some.inj readsLow).symm
    · rw [second, sign] at readsLow
      cases readsLow
  obtain ⟨high, readsHigh, rfl⟩ | ⟨-, rfl⟩ := high
  · obtain first | first := first
    · rw [first, zero] at readsHigh
      rw [lowZero, ← Option.some.inj readsHigh]
      rfl
    · rw [first, sign] at readsHigh
      cases readsHigh
  · rw [lowZero]
    rfl

theorem length_of_forall₂ {Item Other : Type} {rel : Item → Other → Prop} {items : List Item}
    {others : List Other} (all : List.Forall₂ rel items others) : items.length = others.length := by
  induction all with
  | nil => rfl
  | cons _ _ ih => exact congrArg (· + 1) ih

theorem zeros_of_forall₂ {parts : List (Char × Char)} {bytes : Bytes}
    (all : List.Forall₂ ReadsText parts bytes)
    (blank : ∀ pair ∈ parts, (pair.1 = '0' ∨ pair.1 = '+') ∧ (pair.2 = '0' ∨ pair.2 = '+')) :
    bytes = List.replicate parts.length 0 := by
  induction all with
  | nil => rfl
  | @cons pair value parts bytes reads all ih =>
    have here := blank pair List.mem_cons_self
    rw [readsText_blank reads here.1 here.2,
      ih fun other inside => blank other (List.mem_cons_of_mem _ inside)]
    rfl

theorem forall₂_total {parts : List (Char × Char)}
    (readable : ∀ pair ∈ parts, ∃ value, ReadsText pair value) :
    ∃ bytes, List.Forall₂ ReadsText parts bytes := by
  induction parts with
  | nil => exact ⟨[], .nil⟩
  | cons pair parts ih =>
    obtain ⟨value, reads⟩ := readable pair List.mem_cons_self
    obtain ⟨bytes, all⟩ := ih fun other inside => readable other (List.mem_cons_of_mem _ inside)
    exact ⟨value :: bytes, .cons reads all⟩

theorem toLower_zero {c : Char} (ascii : c.toNat < 128) (lower : c.toLower = '0') : c = '0' := by
  have table : ∀ code < 128, (Char.ofNat code).toLower = '0' → Char.ofNat code = '0' := by
    decide +kernel
  have here := table c.toNat ascii
  rw [Char.ofNat_toNat] at here
  exact here lower

theorem decodes_of_signedForm {value : String} (signed : SignedForm value) :
    (∃ bytes, uuidBytes value = .ok bytes) ∧ ¬UuidForm value := by
  obtain ⟨hex, length, whole, pairwise, ⟨signedPair, signedIn, plus⟩, c, inside, other⟩ := signed
  constructor
  · have readable : ∀ pair ∈ pairs hex, ∃ value, ReadsText pair value := fun pair member => by
      obtain ⟨first, second⟩ := pairwise pair member
      obtain ⟨low, readsLow⟩ := exists_digitOf second
      obtain first | first := first
      · obtain ⟨high, readsHigh⟩ := exists_digitOf first
        exact ⟨_, low, readsLow, .inl ⟨high, readsHigh, rfl⟩⟩
      · exact ⟨_, low, readsLow, .inr ⟨first, rfl⟩⟩
    obtain ⟨bytes, all⟩ := forall₂_total readable
    refine ⟨bytes, uuidBytes_text.mpr ⟨hex, length, whole, all, ?_⟩⟩
    rintro rfl
    obtain ⟨pair, member, stands⟩ := @mem_pairs _ hex 16 length c inside
    obtain ⟨value, zero, reads⟩ := forall₂_exists all pair member
    rw [List.eq_of_mem_replicate zero] at reads
    have blank := readsText_zero reads
    obtain rfl | rfl := stands
    · exact blank.1.elim other.1 other.2
    · exact other.1 blank.2
  · rintro ⟨digits, digitsLength, hexadecimal, also⟩
    obtain rfl := dashed_inj length digitsLength (whole.symm.trans also)
    have digit := hexadecimal _ (mem_of_mem_pairs signedIn).1
    rw [plus] at digit
    exact absurd digit (by decide)

/-- `uuid_bytes` accepts exactly the UUIDs but the nil one, and gives their bytes, apart from the
texts with a plus for the first digit of a pair, which it accepts as well. -/
theorem uuid_bytes_exact (value : String) : DecodesUuid value ↔ ¬SignedForm value := by
  constructor
  · rintro ⟨decodes, -⟩ signed
    obtain ⟨⟨bytes, accepted⟩, foreign_⟩ := decodes_of_signedForm signed
    exact foreign_ ((decodes bytes).mp accepted).2.1
  · intro unsigned
    refine ⟨fun bytes => ?_, uuidBytes_message value⟩
    rw [uuidBytes_text]
    constructor
    · rintro ⟨hex, length, whole, all, some_⟩
      have readPair {pair : Char × Char} (member : pair ∈ pairs hex) :
          (isAsciiHexdigit pair.1 = true ∨ pair.1 = '+') ∧ isAsciiHexdigit pair.2 = true := by
        obtain ⟨value, -, low, readsLow, high⟩ := forall₂_exists all pair member
        refine ⟨?_, (digitOf_eq_some readsLow).1⟩
        obtain ⟨high, readsHigh, -⟩ | ⟨plus, -⟩ := high
        · exact .inl (digitOf_eq_some readsHigh).1
        · exact .inr plus
      have parts : (pairs hex).length = 16 := @length_pairs _ hex 16 length
      have nonzero : ∃ c ∈ hex, c ≠ '0' ∧ c ≠ '+' := by
        by_contra blank
        have only {c : Char} (inside : c ∈ hex) : c = '0' ∨ c = '+' := by
          by_contra other
          exact blank ⟨c, inside, not_or.mp other⟩
        refine some_ ?_
        rw [← parts]
        exact zeros_of_forall₂ all fun pair member =>
          ⟨only (mem_of_mem_pairs member).1, only (mem_of_mem_pairs member).2⟩
      have digits : ∀ c ∈ hex, isAsciiHexdigit c = true := fun c inside => by
        obtain ⟨pair, member, stands⟩ := @mem_pairs _ hex 16 length c inside
        obtain ⟨first, second⟩ := readPair member
        obtain rfl | rfl := stands
        · refine first.resolve_right fun plus => unsigned ?_
          exact ⟨hex, length, whole, fun _ => readPair, ⟨pair, member, plus⟩, nonzero⟩
        · exact second
      have prints := (@forall₂_readsText 16 hex bytes length digits).mp all
      refine ⟨(length_of_forall₂ all).symm.trans parts, ⟨hex, length, digits, whole⟩, ?_, ?_⟩
      · intro nil_
        have zeros := dashed_inj length (List.length_replicate) (whole.symm.trans nil_)
        obtain ⟨c, inside, other, -⟩ := nonzero
        rw [zeros] at inside
        exact other (List.eq_of_mem_replicate inside)
      · rw [renderUuid, prints, whole, dashed_map]
        rfl
    · rintro ⟨sixteen, ⟨hex, length, digits, whole⟩, other, prints⟩
      rw [renderUuid, whole, dashed_map] at prints
      have printed : (bytes.flatMap lowerHex).length = 32 := by
        have total := congrArg List.length prints
        simp only [List.length_flatMap, lowerHex, List.length_cons, List.length_nil]
        simp [sixteen]
      have lowered := dashed_inj printed (by simpa using length) prints
      refine ⟨hex, length, whole, (@forall₂_readsText 16 hex bytes length digits).mpr lowered, ?_⟩
      rintro rfl
      refine other ?_
      have zeros : hex = List.replicate 32 '0' := by
        refine List.eq_replicate_iff.mpr ⟨length, fun c inside => ?_⟩
        have lower : c.toLower ∈ hex.map Char.toLower := List.mem_map_of_mem inside
        rw [← lowered] at lower
        have table : (List.replicate 16 (0 : UInt8)).flatMap lowerHex = List.replicate 32 '0' := by
          decide
        rw [table] at lower
        exact toLower_zero (isAsciiHexdigit_ascii (digits c inside)) (List.eq_of_mem_replicate lower)
      rw [NilUuid, whole, zeros]

/-- Sixteen bytes of a text that is no UUID. -/
theorem uuid_bytes_signed : ¬∀ value, DecodesUuid value := by
  intro decodes
  have signed : SignedForm "+0000000-0000-0000-0000-000000000001" := by
    refine ⟨'+' :: (List.replicate 30 '0' ++ ['1']), by decide, by decide +kernel, by decide +kernel,
      ⟨('+', '0'), by decide, rfl⟩, '1', by decide, by decide⟩
  obtain ⟨⟨bytes, accepted⟩, foreign_⟩ := decodes_of_signedForm signed
  exact foreign_ (((decodes _).1 bytes).mp accepted).2.1

end Exactness

end FreshRun

end AgentBash
