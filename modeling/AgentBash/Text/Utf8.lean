import Mathlib.Data.List.Basic

/-!
# Where a text stops being UTF-8

A reader that takes one byte at a time and knows how many continuation bytes it is owed, and
between which bounds the next one lies. It reports how much of the text is valid and whether it
stopped at a wrong byte or because the bytes ran out inside a character.
-/

set_option autoImplicit false

namespace Text

/-- Continuation bytes still owed: the bounds of the next one and the number of those after it. -/
structure Owed where
  low : UInt8
  high : UInt8
  further : Nat
  deriving DecidableEq, Repr

/-- What a first byte announces; `none` for one that starts no character. -/
def lead (byte : UInt8) : Option (Option Owed) :=
  if byte < 0x80 then some none
  else if byte < 0xC2 then none
  else if byte < 0xE0 then some (some ⟨0x80, 0xBF, 0⟩)
  else if byte = 0xE0 then some (some ⟨0xA0, 0xBF, 1⟩)
  else if byte = 0xED then some (some ⟨0x80, 0x9F, 1⟩)
  else if byte < 0xF0 then some (some ⟨0x80, 0xBF, 1⟩)
  else if byte = 0xF0 then some (some ⟨0x90, 0xBF, 2⟩)
  else if byte < 0xF4 then some (some ⟨0x80, 0xBF, 2⟩)
  else if byte = 0xF4 then some (some ⟨0x80, 0x8F, 2⟩)
  else none

/-- `std::str::Utf8Error`: no length means that the text ended too early. -/
structure Utf8Error where
  validUpTo : Nat
  errorLen : Option Nat
  deriving DecidableEq, Repr

/-- The bytes are read after so many valid ones and so many of a character that is not complete. -/
def scanUtf8 : Nat → Nat → Option Owed → List UInt8 → Except Utf8Error Unit
  | _, _, none, [] => .ok ()
  | valid, _, some _, [] => .error ⟨valid, none⟩
  | valid, _, none, byte :: rest =>
      match lead byte with
      | none => .error ⟨valid, some 1⟩
      | some none => scanUtf8 (valid + 1) 0 none rest
      | some (some owed) => scanUtf8 valid 1 (some owed) rest
  | valid, pending, some owed, byte :: rest =>
      if owed.low ≤ byte ∧ byte ≤ owed.high then
        match owed.further with
        | 0 => scanUtf8 (valid + (pending + 1)) 0 none rest
        | further + 1 => scanUtf8 valid (pending + 1) (some ⟨0x80, 0xBF, further⟩) rest
      else .error ⟨valid, some pending⟩

/-- `std::str::from_utf8`, without the text itself. -/
def fromUtf8 (bytes : List UInt8) : Except Utf8Error Unit := scanUtf8 0 0 none bytes

inductive Pays : Owed → List UInt8 → Prop
  | last {low high byte} (above : low ≤ byte) (below : byte ≤ high) : Pays ⟨low, high, 0⟩ [byte]
  | next {low high byte further rest} (above : low ≤ byte) (below : byte ≤ high)
      (pays : Pays ⟨0x80, 0xBF, further⟩ rest) : Pays ⟨low, high, further + 1⟩ (byte :: rest)

inductive OneChar : List UInt8 → Prop
  | ascii {byte} (starts : lead byte = some none) : OneChar [byte]
  | wide {byte owed rest} (starts : lead byte = some (some owed)) (pays : Pays owed rest) :
      OneChar (byte :: rest)

/-- Some bytes of one character, not all of them. -/
def IncompleteChar (bytes : List UInt8) : Prop :=
  bytes ≠ [] ∧ ∃ more, more ≠ [] ∧ OneChar (bytes ++ more)

section Incomplete

variable {bytes : List UInt8} {owed : Owed} {valid pending stopped : Nat}

abbrev Owed.Payable (owed : Owed) : Prop := owed.low ≤ owed.high

theorem lead_owed {byte : UInt8} (starts : lead byte = some (some owed)) :
    owed.Payable ∧ owed.further ≤ 2 := by
  unfold lead at starts
  repeat' split at starts
  all_goals first
    | cases starts; done
    | cases starts; decide

theorem continuation_payable {further : Nat} : Owed.Payable ⟨0x80, 0xBF, further⟩ :=
  show (0x80 : UInt8) ≤ 0xBF by decide

theorem exists_pays (payable : owed.Payable) : ∃ more, more ≠ [] ∧ Pays owed more := by
  obtain ⟨low, high, further⟩ := owed
  induction further generalizing low high with
  | zero => exact ⟨[low], List.cons_ne_nil _ _, .last (UInt8.le_refl low) payable⟩
  | succ further ih =>
      obtain ⟨more, _, pays⟩ := ih 0x80 0xBF continuation_payable
      exact ⟨low :: more, List.cons_ne_nil _ _, .next (UInt8.le_refl low) payable pays⟩

/-- What has been read of a character: any payment of what is owed completes it. -/
structure Pending (started : List UInt8) (owed : Owed) : Prop where
  some_ : started ≠ []
  payable : owed.Payable
  completes : ∀ more, Pays owed more → OneChar (started ++ more)

theorem Pending.incomplete {started : List UInt8} (holds : Pending started owed) :
    IncompleteChar started := by
  obtain ⟨more, some_, pays⟩ := exists_pays holds.payable
  exact ⟨holds.some_, more, some_, holds.completes more pays⟩

theorem pending_lead {byte : UInt8} (starts : lead byte = some (some owed)) :
    Pending [byte] owed :=
  ⟨List.cons_ne_nil _ _, (lead_owed starts).1, fun _ pays => .wide starts pays⟩

theorem Pending.next {started : List UInt8} {low high byte : UInt8} {further : Nat}
    (holds : Pending started ⟨low, high, further + 1⟩) (above : low ≤ byte) (below : byte ≤ high) :
    Pending (started ++ [byte]) ⟨0x80, 0xBF, further⟩ where
  some_ := List.append_ne_nil_of_right_ne_nil _ (List.cons_ne_nil _ _)
  payable := continuation_payable
  completes more pays := by
    rw [List.append_assoc]
    exact holds.completes _ (.next above below pays)

/-- What stands before the bytes that are left. -/
inductive Started : Option Owed → List UInt8 → Prop
  | between : Started none []
  | inside {started owed} (holds : Pending started owed) : Started (some owed) started

/-- Where the bytes run out, the valid ones are followed by the start of one character. -/
theorem scanUtf8_ran_out {waiting : Option Owed} {started : List UInt8}
    (holds : Started waiting started)
    (ran_out : scanUtf8 valid started.length waiting bytes = .error ⟨stopped, none⟩) :
    ∃ read rest, started ++ bytes = read ++ rest ∧ stopped = valid + read.length ∧
      IncompleteChar rest := by
  induction bytes generalizing valid waiting started with
  | nil =>
      cases holds with
      | between => cases ran_out
      | inside holds =>
          have same : valid = stopped := (Utf8Error.mk.inj (Except.error.inj ran_out)).1
          refine ⟨[], started, List.append_nil _, same.symm, holds.incomplete⟩
  | cons byte bytes ih =>
      cases holds with
      | between =>
          rw [scanUtf8] at ran_out
          split at ran_out
          · cases ran_out
          · obtain ⟨read, rest, split_, stops, incomplete⟩ := ih .between ran_out
            exact ⟨byte :: read, rest, congrArg (byte :: ·) split_,
              by rw [List.length_cons]; omega, incomplete⟩
          · next owed starts => exact ih (.inside (pending_lead starts)) ran_out
      | inside holds =>
          next owed =>
          obtain ⟨low, high, further⟩ := owed
          rw [scanUtf8] at ran_out
          split at ran_out
          · next bounds =>
            cases further with
            | zero =>
                obtain ⟨read, rest, split_, stops, incomplete⟩ := ih .between ran_out
                refine ⟨started ++ byte :: read, rest, ?_, ?_, incomplete⟩
                · rw [List.append_assoc]
                  exact congrArg (started ++ byte :: ·) split_
                · rw [List.length_append, List.length_cons]
                  omega
            | succ further =>
                have grown : (started ++ [byte]).length = started.length + 1 := List.length_append
                rw [← grown] at ran_out
                obtain ⟨read, rest, split_, stops, incomplete⟩ :=
                  ih (.inside (holds.next bounds.1 bounds.2)) ran_out
                refine ⟨read, rest, ?_, stops, incomplete⟩
                rw [← split_, List.append_assoc]
                rfl
          · cases ran_out

/-- A text that ends too early is a valid part and the start of one character. -/
theorem fromUtf8_ran_out (ran_out : fromUtf8 bytes = .error ⟨stopped, none⟩) :
    stopped ≤ bytes.length ∧ IncompleteChar (bytes.drop stopped) := by
  obtain ⟨read, rest, split_, stops, incomplete⟩ :=
    scanUtf8_ran_out .between ran_out
  rw [List.nil_append] at split_
  rw [Nat.zero_add] at stops
  rw [split_, stops, List.drop_left, List.length_append]
  exact ⟨Nat.le_add_right _ _, incomplete⟩

end Incomplete

end Text
