import AgentBash.Durable.Sequential
import AgentBash.Retention.Evidence
import AgentBash.RootV1.Base64

/-!
# Encoding a stream for the caller

`write_base64` of `fresh_run.rs`, the third of the hand-written codecs: it reads a file in blocks,
encodes each block in a buffer of its own and checks the digest of what it read at the end. Blocks
hold a whole number of chunks, so the text has no seam.
-/

namespace AgentBash

set_option autoImplicit false

open Durable RootV1

namespace FreshRun

/-- An open file: the length in its metadata and the bytes ahead of the reader. -/
structure Input where
  metadata : Except IoError Nat
  ahead : Bytes

/-- What becomes of the writes, by their number: one is taken whole, or fails after so many
characters. -/
abbrev Output := Nat → Option Nat

structure Encoding where
  ahead : Bytes
  digested : Bytes := []
  written : List Char := []
  writes : Nat := 0

def inputBytes : Nat := 48 * 1024

def readExact (n : Nat) : Sequential Encoding Bytes := fun state =>
  if n ≤ state.ahead.length then
    (.ok (state.ahead.take n), { state with ahead := state.ahead.drop n })
  else (.error (.other "failed to fill whole buffer"), { state with ahead := [] })

def updateDigest (block : Bytes) : Sequential Encoding Unit :=
  .modify fun state => { state with digested := state.digested ++ block }

def writeAll (output : Output) (text : List Char) : Sequential Encoding Unit := fun state =>
  match output state.writes with
  | none => (.ok (), { state with written := state.written ++ text, writes := state.writes + 1 })
  | some taken => (.error (.other "write failed"),
      { state with written := state.written ++ text.take taken, writes := state.writes + 1 })

/-- An entry of the table; the source masks each index to six bits. -/
def tableAt (index : UInt8) : Char := (alphabet[index.toNat]?).getD '='

def encodeTriple (chunk : Bytes) : List Char :=
  let a := chunk.getD 0 0
  let b := chunk.getD 1 0
  let c := chunk.getD 2 0
  [tableAt (a >>> 2), tableAt (((a &&& 3) <<< 4) ||| (b >>> 4)),
    if chunk.length > 1 then tableAt (((b &&& 15) <<< 2) ||| (c >>> 6)) else '=',
    if chunk.length > 2 then tableAt (c &&& 63) else '=']

def encodeBlock : Bytes → List Char
  | a :: b :: c :: rest => encodeTriple [a, b, c] ++ encodeBlock rest
  | [] => []
  | chunk => encodeTriple chunk

def writeBlocks (output : Output) (remaining : Nat) : Sequential Encoding Unit :=
  if _more : 0 < remaining then do
    let block ← readExact (min remaining inputBytes)
    updateDigest block
    writeAll output (encodeBlock block)
    writeBlocks output (remaining - min remaining inputBytes)
  else pure ()
termination_by remaining
decreasing_by
  have block : 0 < inputBytes := by decide
  omega

section Chunks

variable {a b c : UInt8}

theorem toNat_joined (high low : UInt8) (up : Nat) (narrow : up < 8)
    (fits : low.toNat < 2 ^ up) (room : high.toNat <<< up < 256) :
    ((high <<< UInt8.ofNat up) ||| low).toNat = high.toNat * 2 ^ up + low.toNat := by
  have shift : (UInt8.ofNat up).toNat % 8 = up := by
    rw [UInt8.toNat_ofNat']
    omega
  rw [UInt8.toNat_or, UInt8.toNat_shiftLeft, shift, Nat.mod_eq_of_lt room,
    ← Nat.shiftLeft_add_eq_or_of_lt fits, Nat.shiftLeft_eq]

theorem tableAt_eq {index : UInt8} {value : Nat} (same : index.toNat = value) :
    tableAt index = symbol value := by
  rw [tableAt, symbol, same]

theorem toNat_top (a : UInt8) : (a >>> 2).toNat = a.toNat / 4 := by
  rw [UInt8.toNat_shiftRight, Nat.shiftRight_eq_div_pow]
  rfl

theorem toNat_low {mask : UInt8} (bits : Nat) (a : UInt8) (ones : mask.toNat = 2 ^ bits - 1) :
    (a &&& mask).toNat = a.toNat % 2 ^ bits := by
  rw [UInt8.toNat_and, ones, Nat.and_two_pow_sub_one_eq_mod]

theorem toNat_second (a b : UInt8) :
    (((a &&& 3) <<< 4) ||| (b >>> 4)).toNat = a.toNat % 4 * 16 + b.toNat / 16 := by
  have high : (a &&& 3).toNat = a.toNat % 4 := toNat_low 2 a rfl
  have low : (b >>> 4).toNat = b.toNat / 16 := by
    rw [UInt8.toNat_shiftRight, Nat.shiftRight_eq_div_pow]
    rfl
  have bound := b.toNat_lt
  have joined := toNat_joined (a &&& 3) (b >>> 4) 4 (by decide) (by omega)
    (by rw [high, Nat.shiftLeft_eq]; omega)
  rw [high, low] at joined
  exact joined

theorem toNat_third (b c : UInt8) :
    (((b &&& 15) <<< 2) ||| (c >>> 6)).toNat = b.toNat % 16 * 4 + c.toNat / 64 := by
  have high : (b &&& 15).toNat = b.toNat % 16 := toNat_low 4 b rfl
  have low : (c >>> 6).toNat = c.toNat / 64 := by
    rw [UInt8.toNat_shiftRight, Nat.shiftRight_eq_div_pow]
    rfl
  have bound := c.toNat_lt
  have joined := toNat_joined (b &&& 15) (c >>> 6) 2 (by decide) (by omega)
    (by rw [high, Nat.shiftLeft_eq]; omega)
  rw [high, low] at joined
  exact joined

theorem toNat_fourth (c : UInt8) : (c &&& 63).toNat = c.toNat % 64 := toNat_low 6 c rfl

theorem encodeTriple_full : encodeTriple [a, b, c] = encodeChunk [a, b, c] := by
  have bounds := (⟨a.toNat_lt, b.toNat_lt, c.toNat_lt⟩ : _ ∧ _ ∧ _)
  have pack : packBytes [a, b, c] = a.toNat * 65536 + b.toNat * 256 + c.toNat := by
    simp [packBytes, Nat.shiftLeft_eq, Nat.add_assoc]
  have first : packBytes [a, b, c] / 262144 % 64 = a.toNat / 4 := by omega
  have second : packBytes [a, b, c] / 4096 % 64 = a.toNat % 4 * 16 + b.toNat / 16 := by omega
  have third : packBytes [a, b, c] / 64 % 64 = b.toNat % 16 * 4 + c.toNat / 64 := by omega
  have fourth : packBytes [a, b, c] % 64 = c.toNat % 64 := by omega
  have chunk : encodeChunk [a, b, c] = [symbol (packBytes [a, b, c] / 262144 % 64),
      symbol (packBytes [a, b, c] / 4096 % 64), symbol (packBytes [a, b, c] / 64 % 64),
      symbol (packBytes [a, b, c] % 64)] := by
    simp [encodeChunk, symbol, List.range_succ, low_six, Nat.shiftRight_eq_div_pow]
  have triple : encodeTriple [a, b, c] = [tableAt (a >>> 2),
      tableAt (((a &&& 3) <<< 4) ||| (b >>> 4)), tableAt (((b &&& 15) <<< 2) ||| (c >>> 6)),
      tableAt (c &&& 63)] := rfl
  rw [triple, chunk, first, second, third, fourth, tableAt_eq (toNat_top a),
    tableAt_eq (toNat_second a b), tableAt_eq (toNat_third b c), tableAt_eq (toNat_fourth c)]

theorem encodeTriple_two : encodeTriple [a, b] = encodeChunk [a, b] := by
  have bounds := (⟨a.toNat_lt, b.toNat_lt⟩ : _ ∧ _)
  have pack : packBytes [a, b] = a.toNat * 65536 + b.toNat * 256 := by
    simp [packBytes, Nat.shiftLeft_eq]
  have first : packBytes [a, b] / 262144 % 64 = a.toNat / 4 := by omega
  have second : packBytes [a, b] / 4096 % 64 = a.toNat % 4 * 16 + b.toNat / 16 := by omega
  have third : packBytes [a, b] / 64 % 64 = b.toNat % 16 * 4 := by omega
  have last : (((b &&& 15) <<< 2) ||| ((0 : UInt8) >>> 6)).toNat = b.toNat % 16 * 4 := toNat_third b 0
  have chunk : encodeChunk [a, b] = [symbol (packBytes [a, b] / 262144 % 64),
      symbol (packBytes [a, b] / 4096 % 64), symbol (packBytes [a, b] / 64 % 64), '='] := by
    simp [encodeChunk, symbol, List.range_succ, low_six, Nat.shiftRight_eq_div_pow]
  have triple : encodeTriple [a, b] = [tableAt (a >>> 2),
      tableAt (((a &&& 3) <<< 4) ||| (b >>> 4)), tableAt (((b &&& 15) <<< 2) ||| ((0 : UInt8) >>> 6)),
      '='] := rfl
  rw [triple, chunk, first, second, third, tableAt_eq (toNat_top a),
    tableAt_eq (toNat_second a b), tableAt_eq last]

theorem encodeTriple_one : encodeTriple [a] = encodeChunk [a] := by
  have bound := a.toNat_lt
  have pack : packBytes [a] = a.toNat * 65536 := by
    simp [packBytes, Nat.shiftLeft_eq]
  have first : packBytes [a] / 262144 % 64 = a.toNat / 4 := by omega
  have second : packBytes [a] / 4096 % 64 = a.toNat % 4 * 16 := by omega
  have last : (((a &&& 3) <<< 4) ||| ((0 : UInt8) >>> 4)).toNat = a.toNat % 4 * 16 := toNat_second a 0
  have chunk : encodeChunk [a] = [symbol (packBytes [a] / 262144 % 64),
      symbol (packBytes [a] / 4096 % 64), '=', '='] := by
    simp [encodeChunk, symbol, List.range_succ, low_six, Nat.shiftRight_eq_div_pow]
  have triple : encodeTriple [a] = [tableAt (a >>> 2),
      tableAt (((a &&& 3) <<< 4) ||| ((0 : UInt8) >>> 4)), '=', '='] := rfl
  rw [triple, chunk, first, second, tableAt_eq (toNat_top a), tableAt_eq last]

/-- The encoder of the stream and the one of a whole text agree on a block. -/
theorem encodeBlock_eq (block : Bytes) : encodeBlock block = base64Chars block := by
  fun_induction encodeBlock block with
  | case1 a b c rest ih => rw [base64Chars, encodeTriple_full, ih]
  | case2 => rfl
  | case3 chunk not_full some_ =>
      match chunk, not_full, some_ with
      | [], _, some_ => exact absurd rfl some_
      | [a], _, _ => exact encodeTriple_one
      | [a, b], _, _ => exact encodeTriple_two
      | a :: b :: c :: rest, not_full, _ => exact absurd rfl (not_full a b c rest)

end Chunks

section Seams

theorem base64Chars_append (chunks : Nat) (front rest : Bytes) (whole : front.length = 3 * chunks) :
    base64Chars (front ++ rest) = base64Chars front ++ base64Chars rest := by
  induction chunks generalizing front with
  | zero =>
      rw [List.eq_nil_of_length_eq_zero whole]
      rfl
  | succ chunks ih =>
      match front, whole with
      | a :: b :: c :: front, whole =>
          have shorter : front.length = 3 * chunks := by
            simp only [List.length_cons] at whole
            omega
          rw [List.cons_append, List.cons_append, List.cons_append, base64Chars, base64Chars,
            ih front shorter, List.append_assoc]
      | [a, b], whole => simp only [List.length_cons, List.length_nil] at whole; omega
      | [a], whole => simp only [List.length_cons, List.length_nil] at whole; omega
      | [], whole => simp only [List.length_nil] at whole; omega

theorem base64Chars_block {n : Nat} (content : Bytes) (block : n = min content.length inputBytes) :
    base64Chars (content.take n) ++ base64Chars (content.drop n) = base64Chars content := by
  rcases Nat.lt_or_ge content.length inputBytes with last | before
  · rw [List.take_of_length_le (by omega), List.drop_of_length_le (by omega), base64Chars,
      List.append_nil]
  · have whole : (content.take n).length = 3 * (16 * 1024) := by
      rw [List.length_take, block]
      simp only [inputBytes] at before ⊢
      omega
    rw [← base64Chars_append _ _ _ whole, List.take_append_drop]

end Seams

section Streaming

def accepting : Output := fun _ => none

theorem readExact_ok {n : Nat} {state : Encoding} (enough : n ≤ state.ahead.length) :
    readExact n state =
      (.ok (state.ahead.take n), { state with ahead := state.ahead.drop n }) := if_pos enough

theorem writeBlocks_done (output : Output) : writeBlocks output 0 = pure () := by
  rw [writeBlocks, dif_neg (Nat.lt_irrefl 0)]

theorem writeBlocks_turn {content rest : Bytes} {state : Encoding} {n : Nat}
    (ahead : state.ahead = content ++ rest) (more : 0 < content.length)
    (block : n = min content.length inputBytes) :
    writeBlocks accepting content.length state =
      writeBlocks accepting (content.drop n).length
        { ahead := content.drop n ++ rest
          digested := state.digested ++ content.take n
          written := state.written ++ base64Chars (content.take n)
          writes := state.writes + 1 } := by
  have fits : n ≤ content.length := by omega
  have enough : n ≤ state.ahead.length := by
    rw [ahead, List.length_append]
    omega
  have taken : state.ahead.take n = content.take n := by
    rw [ahead, List.take_append_of_le_length fits]
  have left : state.ahead.drop n = content.drop n ++ rest := by
    rw [ahead, List.drop_append_of_le_length fits]
  rw [writeBlocks, dif_pos more, ← block, List.length_drop]
  simp only [bind, readExact_ok enough, taken, left, updateDigest, Sequential.modify, writeAll,
    accepting, encodeBlock_eq]

/-- What is left to read is read block by block, and the text grows by its encoding. -/
theorem writeBlocks_ok {content rest : Bytes} {state : Encoding}
    (ahead : state.ahead = content ++ rest) :
    (writeBlocks accepting content.length state).1 = .ok () ∧
      (writeBlocks accepting content.length state).2.digested = state.digested ++ content ∧
      (writeBlocks accepting content.length state).2.written =
        state.written ++ base64Chars content := by
  induction remaining : content.length using Nat.strongRecOn generalizing content state with
  | _ remaining ih =>
      subst remaining
      rcases Nat.eq_zero_or_pos content.length with done | more
      · have empty : content = [] := List.eq_nil_of_length_eq_zero done
        subst empty
        rw [List.length_nil, writeBlocks_done]
        simp [base64Chars, pure]
      · obtain ⟨n, block⟩ : ∃ n, n = min content.length inputBytes := ⟨_, rfl⟩
        have some_ : 0 < inputBytes := by decide
        have shorter : (content.drop n).length < content.length := by
          rw [List.length_drop]
          omega
        have onward : ({ ahead := content.drop n ++ rest
                         digested := state.digested ++ content.take n
                         written := state.written ++ base64Chars (content.take n)
                         writes := state.writes + 1 } : Encoding).ahead =
            content.drop n ++ rest := rfl
        obtain ⟨result, digested, written⟩ := ih _ shorter onward rfl
        rw [writeBlocks_turn ahead more block]
        refine ⟨result, ?_, ?_⟩
        · rw [digested, List.append_assoc, List.take_append_drop]
        · rw [written, List.append_assoc]
          congr 1
          exact base64Chars_block content block

end Streaming

variable [Codec]

def writeBase64 (input : Input) (output : Output) (expectedHash : String) :
    Except IoError Unit × Encoding :=
  (do
    let remaining ← Sequential.ofExcept input.metadata
    writeBlocks output remaining
    let state ← Sequential.get
    if Codec.sha256 state.digested ≠ expectedHash then
      Sequential.throw (.other "sync stream changed during caller encoding")
    : Sequential Encoding Unit) { ahead := input.ahead }

/-- The three codecs agree: one reads back what the other two write, and nothing else. -/
theorem codecs_agree :
    (∀ bytes, unbase64 (base64 bytes) = some bytes) ∧
    (∀ text bytes, unbase64 text = some bytes ↔ text = base64 bytes) ∧
    ∀ (content rest : Bytes) (hash : String),
      (writeBase64 ⟨.ok content.length, content ++ rest⟩ accepting hash).2.written =
        (base64 content).toList ∧
      ((writeBase64 ⟨.ok content.length, content ++ rest⟩ accepting hash).1 = .ok () ↔
        Codec.sha256 content = hash) := by
  refine ⟨unbase64_base64, fun text bytes => ⟨fun read => ?_, fun same => ?_⟩,
    fun content rest hash => ?_⟩
  · rw [unbase64] at read
    split at read
    · split at read
      · next canonical =>
        rw [← canonical, Option.some.inj read]
      · cases read
    · cases read
  · rw [same, unbase64_base64]
  · have ahead : ({ ahead := content ++ rest } : Encoding).ahead = content ++ rest := rfl
    obtain ⟨result, digested, written⟩ := writeBlocks_ok ahead
    generalize ends : writeBlocks accepting content.length { ahead := content ++ rest } = run
      at result digested written
    rw [List.nil_append] at digested written
    have runs : writeBase64 ⟨.ok content.length, content ++ rest⟩ accepting hash =
        if Codec.sha256 content ≠ hash then
          (.error (.other "sync stream changed during caller encoding"), run.2)
        else (.ok (), run.2) := by
      obtain ⟨outcome, final⟩ := run
      cases result
      have found : final.digested = content := digested
      simp only [writeBase64, bind, Sequential.ofExcept, ends, Sequential.get, found]
      split <;> rfl
    have text : run.2.written = (base64 content).toList := by
      rw [written, base64, String.toList_ofList]
    rw [runs]
    by_cases same : Codec.sha256 content = hash
    · rw [if_neg (not_not_intro same)]
      exact ⟨text, fun _ => same, fun _ => rfl⟩
    · rw [if_pos same]
      exact ⟨text, (fun impossible => by cases impossible), fun found => absurd found same⟩

end FreshRun

end AgentBash
