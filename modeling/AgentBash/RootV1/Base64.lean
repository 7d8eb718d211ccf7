import AgentBash.Json.Value
import Mathlib.Algebra.GroupWithZero.Nat

/-!
# Base64

The two functions of `root_v1.rs`, on the characters of a text: a character that is not ASCII stands
in no alphabet, so nothing depends on the bytes it has.
-/

namespace AgentBash

set_option autoImplicit false

namespace RootV1

def alphabet : List Char :=
  "ABCDEFGHIJKLMNOPQRSTUVWXYZabcdefghijklmnopqrstuvwxyz0123456789+/".toList

/-- Up to three bytes as one number, the first one highest. -/
def packBytes (chunk : Bytes) : Nat :=
  (chunk.zipIdx.map fun (byte, i) => byte.toNat <<< (16 - 8 * i)).sum

/-- Four characters for up to three bytes. -/
def encodeChunk (chunk : Bytes) : List Char :=
  (List.range 4).map fun i =>
    if i ≤ chunk.length then (alphabet[packBytes chunk >>> (18 - 6 * i) &&& 63]?).getD '=' else '='

def base64Chars : Bytes → List Char
  | a :: b :: c :: rest => encodeChunk [a, b, c] ++ base64Chars rest
  | [] => []
  | chunk => encodeChunk chunk

/-- Standard padded base64. -/
def base64 (bytes : Bytes) : String := .ofList (base64Chars bytes)

def padding (quad : List Char) : Nat := (quad.reverse.takeWhile (· = '=')).length

/-- Four characters as one number; padding counts as zero. -/
def packQuad (quad : List Char) : Option Nat :=
  (quad.zipIdx.mapM fun (c, i) =>
    (if 4 - padding quad ≤ i then some 0 else alphabet.idxOf? c).map fun value =>
      value <<< (18 - 6 * i)).map List.sum

def decodeQuad (quad : List Char) : Option Bytes :=
  if padding quad > 2 then none
  else (packQuad quad).map fun triple =>
    ([triple >>> 16, triple >>> 8, triple].map UInt8.ofNat).take (3 - padding quad)

def decodeQuads : List Char → Option Bytes
  | a :: b :: c :: d :: rest => do
      let chunk ← decodeQuad [a, b, c, d]
      let more ← decodeQuads rest
      pure (chunk ++ more)
  | [] => some []
  | _ => none

/-- Canonical standard base64 only: what does not re-encode to itself is rejected. -/
def unbase64 (text : String) : Option Bytes :=
  match decodeQuads text.toList with
  | some out => if base64 out = text then some out else none
  | none => none

section RoundTrip

def symbol (index : Nat) : Char := (alphabet[index]?).getD '='

theorem symbol_spec : ∀ index, index < 64 →
    alphabet.idxOf? (symbol index) = some index ∧ symbol index ≠ '=' := by decide

variable {i j k l : Nat}

theorem decodeQuad_full (one : i < 64) (two : j < 64) (three : k < 64) (four : l < 64) :
    decodeQuad [symbol i, symbol j, symbol k, symbol l] =
      some ([(i * 262144 + (j * 4096 + (k * 64 + l))) / 65536,
        (i * 262144 + (j * 4096 + (k * 64 + l))) / 256,
        i * 262144 + (j * 4096 + (k * 64 + l))].map UInt8.ofNat) := by
  have unpadded : padding [symbol i, symbol j, symbol k, symbol l] = 0 := by
    simp [padding, (symbol_spec l four).2]
  simp [decodeQuad, packQuad, unpadded, (symbol_spec i one).1, (symbol_spec j two).1,
    (symbol_spec k three).1, (symbol_spec l four).1, Nat.shiftLeft_eq, Nat.shiftRight_eq_div_pow]

theorem decodeQuad_one_pad (one : i < 64) (two : j < 64) (three : k < 64) :
    decodeQuad [symbol i, symbol j, symbol k, '='] =
      some ([(i * 262144 + (j * 4096 + k * 64)) / 65536,
        (i * 262144 + (j * 4096 + k * 64)) / 256].map UInt8.ofNat) := by
  have padded : padding [symbol i, symbol j, symbol k, '='] = 1 := by
    simp [padding, (symbol_spec k three).2]
  simp [decodeQuad, packQuad, padded, (symbol_spec i one).1, (symbol_spec j two).1,
    (symbol_spec k three).1, Nat.shiftLeft_eq, Nat.shiftRight_eq_div_pow]

theorem decodeQuad_two_pads (one : i < 64) (two : j < 64) :
    decodeQuad [symbol i, symbol j, '=', '='] =
      some ([(i * 262144 + j * 4096) / 65536].map UInt8.ofNat) := by
  have padded : padding [symbol i, symbol j, '=', '='] = 2 := by
    simp [padding, (symbol_spec j two).2]
  simp [decodeQuad, packQuad, padded, (symbol_spec i one).1, (symbol_spec j two).1,
    Nat.shiftLeft_eq, Nat.shiftRight_eq_div_pow]

theorem low_six (value : Nat) : value &&& 63 = value % 64 := Nat.and_two_pow_sub_one_eq_mod value 6

theorem ofNat_eq {value : Nat} (byte : UInt8) (same : value % 256 = byte.toNat) :
    UInt8.ofNat value = byte := by
  refine UInt8.toNat_inj.mp ?_
  rw [UInt8.toNat_ofNat']
  exact same

theorem encodeChunk_full (a b c : UInt8) :
    ∃ i j k l, i < 64 ∧ j < 64 ∧ k < 64 ∧ l < 64 ∧
      encodeChunk [a, b, c] = [symbol i, symbol j, symbol k, symbol l] ∧
      i * 262144 + (j * 4096 + (k * 64 + l)) = a.toNat * 65536 + b.toNat * 256 + c.toNat := by
  have pack : packBytes [a, b, c] = a.toNat * 65536 + b.toNat * 256 + c.toNat := by
    simp [packBytes, Nat.shiftLeft_eq, Nat.add_assoc]
  have bounds := (⟨a.toNat_lt, b.toNat_lt, c.toNat_lt⟩ : _ ∧ _ ∧ _)
  refine ⟨packBytes [a, b, c] / 262144 % 64, packBytes [a, b, c] / 4096 % 64,
    packBytes [a, b, c] / 64 % 64, packBytes [a, b, c] % 64, ?_, ?_, ?_, ?_, ?_, ?_⟩
  · omega
  · omega
  · omega
  · omega
  · simp [encodeChunk, symbol, List.range_succ, low_six, Nat.shiftRight_eq_div_pow]
  · rw [pack]
    omega

theorem encodeChunk_two (a b : UInt8) :
    ∃ i j k, i < 64 ∧ j < 64 ∧ k < 64 ∧ encodeChunk [a, b] = [symbol i, symbol j, symbol k, '='] ∧
      i * 262144 + (j * 4096 + k * 64) = a.toNat * 65536 + b.toNat * 256 := by
  have pack : packBytes [a, b] = a.toNat * 65536 + b.toNat * 256 := by
    simp [packBytes, Nat.shiftLeft_eq]
  have bounds := (⟨a.toNat_lt, b.toNat_lt⟩ : _ ∧ _)
  refine ⟨packBytes [a, b] / 262144 % 64, packBytes [a, b] / 4096 % 64, packBytes [a, b] / 64 % 64,
    ?_, ?_, ?_, ?_, ?_⟩
  · omega
  · omega
  · omega
  · simp [encodeChunk, symbol, List.range_succ, low_six, Nat.shiftRight_eq_div_pow]
  · rw [pack]
    omega

theorem encodeChunk_one (a : UInt8) :
    ∃ i j, i < 64 ∧ j < 64 ∧ encodeChunk [a] = [symbol i, symbol j, '=', '='] ∧
      i * 262144 + j * 4096 = a.toNat * 65536 := by
  have pack : packBytes [a] = a.toNat * 65536 := by
    simp [packBytes, Nat.shiftLeft_eq]
  have bound := a.toNat_lt
  refine ⟨packBytes [a] / 262144 % 64, packBytes [a] / 4096 % 64, ?_, ?_, ?_, ?_⟩
  · omega
  · omega
  · simp [encodeChunk, symbol, List.range_succ, low_six, Nat.shiftRight_eq_div_pow]
  · rw [pack]
    omega

theorem decodeQuads_base64Chars (bytes : Bytes) : decodeQuads (base64Chars bytes) = some bytes := by
  fun_induction base64Chars bytes with
  | case1 a b c rest ih =>
      obtain ⟨i, j, k, l, one, two, three, four, encodes, packs⟩ := encodeChunk_full a b c
      have bounds := (⟨a.toNat_lt, b.toNat_lt, c.toNat_lt⟩ : _ ∧ _ ∧ _)
      have bytes : [UInt8.ofNat ((a.toNat * 65536 + b.toNat * 256 + c.toNat) / 65536),
          UInt8.ofNat ((a.toNat * 65536 + b.toNat * 256 + c.toNat) / 256),
          UInt8.ofNat (a.toNat * 65536 + b.toNat * 256 + c.toNat)] = [a, b, c] := by
        rw [ofNat_eq a (by omega), ofNat_eq b (by omega),
          ofNat_eq c (by omega)]
      rw [encodes]
      simp only [List.cons_append, List.nil_append, decodeQuads, ih,
        decodeQuad_full one two three four, packs, List.map_cons, List.map_nil, bytes]
      rfl
  | case2 => rfl
  | case3 chunk not_full some_ =>
      match chunk, not_full, some_ with
      | [], _, some_ => exact absurd rfl some_
      | [a], _, _ =>
          obtain ⟨i, j, one, two, encodes, packs⟩ := encodeChunk_one a
          have bound := a.toNat_lt
          rw [encodes]
          simp only [decodeQuads, decodeQuad_two_pads one two, packs, List.map_cons, List.map_nil]
          rw [ofNat_eq a (by omega)]
          rfl
      | [a, b], _, _ =>
          obtain ⟨i, j, k, one, two, three, encodes, packs⟩ := encodeChunk_two a b
          have bounds := (⟨a.toNat_lt, b.toNat_lt⟩ : _ ∧ _)
          rw [encodes]
          simp only [decodeQuads, decodeQuad_one_pad one two three, packs, List.map_cons,
            List.map_nil]
          rw [ofNat_eq a (by omega), ofNat_eq b (by omega)]
          rfl
      | a :: b :: c :: rest, not_full, _ => exact absurd rfl (not_full a b c rest)

theorem unbase64_base64 (bytes : Bytes) : unbase64 (base64 bytes) = some bytes := by
  rw [unbase64, base64, String.toList_ofList, decodeQuads_base64Chars]
  exact if_pos rfl

end RoundTrip

example : base64 [104, 105, 10] = "aGkK" ∧ unbase64 "aGk=" = some [104, 105] ∧
    unbase64 "aG==aGkK" = none ∧ unbase64 "a===" = none := by decide

end RootV1

end AgentBash
