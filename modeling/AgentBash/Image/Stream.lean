import AgentBash.Durable.Program
import AgentBash.Retention.Evidence
import AgentBash.Text.Words

/-!
# Reading an image

The limits of the image custodian, and how `image.rs` reads a source of a known length and seals a
private copy of it. A source is a file that others may write, so each system call has an answer of
its own, and the copy is made of the bytes that were in fact read.
-/

namespace AgentBash

set_option autoImplicit false

open Durable Text

namespace Image

def invalid (message : String) : IoError := ⟨.invalidData, message⟩

section Settings

/-- `std::env::var`. -/
inductive EnvVar
  | notPresent
  | notUnicode
  | text (value : String)
  deriving DecidableEq, Repr

structure Limits where
  bytes : Nat
  count : Nat
  deadlineMs : Nat
  bytes_mem : 1 ≤ bytes ∧ bytes ≤ 1024 * 1024 * 1024
  count_mem : 1 ≤ count ∧ count ≤ 64
  deadline_mem : 1 ≤ deadlineMs ∧ deadlineMs ≤ 60000

def settingKey (name : String) : String := "AGENT_BASH_IMAGE_" ++ name

def settingValue (name : String) (default : Nat) : EnvVar → Except IoError Nat
  | .text value =>
      (parseUnsigned 64 value.toList).elim (.error (invalid ("invalid " ++ settingKey name))) .ok
  | .notPresent => .ok default
  | .notUnicode => .error (invalid ("invalid " ++ settingKey name))

def setting (name : String) (default min max : Nat) (variable_ : EnvVar) :
    Except IoError { value : Nat // min ≤ value ∧ value ≤ max } := do
  let value ← settingValue name default variable_
  if inside : min ≤ value ∧ value ≤ max then pure ⟨value, inside⟩
  else throw (invalid (settingKey name ++ " must be " ++ toString min ++ "..=" ++ toString max))

def Limits.fromEnv (env : String → EnvVar) : Except IoError Limits := do
  let bytes ← setting "BYTES" (256 * 1024 * 1024) 1 (1024 * 1024 * 1024) (env "BYTES")
  let count ← setting "COUNT" 8 1 64 (env "COUNT")
  let deadline ← setting "DEADLINE_MS" 10000 1 60000 (env "DEADLINE_MS")
  return ⟨bytes.1, count.1, deadline.1, bytes.2, count.2, deadline.2⟩

/-- The check that the custodian makes of the limits it is started with. -/
def Limits.ofArguments (bytes count deadlineMs : Nat) : Except IoError Limits :=
  if outside : bytes = 0 ∨ bytes > 1024 * 1024 * 1024 ∨ count = 0 ∨ count > 64 ∨ deadlineMs = 0 ∨
      deadlineMs > 60000 then .error (invalid "invalid custodian limits")
  else .ok ⟨bytes, count, deadlineMs, by omega, by omega, by omega⟩

/-- The custodian admits whatever its owner has admitted. -/
theorem Limits.ofArguments_self (limits : Limits) :
    Limits.ofArguments limits.bytes limits.count limits.deadlineMs = .ok limits := by
  have bytes := limits.bytes_mem
  have count := limits.count_mem
  have deadline := limits.deadline_mem
  rw [Limits.ofArguments, dif_neg (by omega)]

end Settings

structure Metadata where
  isFile : Bool
  mode : Nat
  len : Nat
  deriving DecidableEq, Repr

/-- What the system calls answer while one source is copied. A turn of the loop fails when it is
late, cannot read or cannot write; it reads at most what is asked of it. -/
structure Copying where
  metadata : Except IoError Metadata
  memfd : Except IoError Unit
  turns : List (Except IoError Bytes)
  past : Except IoError Bytes
  size : Except IoError Nat
  time : Except IoError Unit
  sealing : Except IoError Unit

/-- A sealed image: nobody can write it any more. -/
structure File where
  bytes : Bytes
  deriving DecidableEq, Repr

def bufferBytes : Nat := 65536

def sourceSize (metadata : Except IoError Metadata) (limit : Nat) : Except IoError Nat := do
  let found ← metadata
  if !found.isFile || found.mode &&& 0o111 = 0 || found.len > limit then
    throw (invalid "image must be executable regular file within byte budget")
  return found.len

/-- The loop of `stream`; `got` is what was read so far, and its length is the offset. -/
def streamFrom (len : Nat) : List (Except IoError Bytes) → Bytes → Except IoError Bytes
  | turns, got =>
      if got.length < len then
        match turns with
        | [] => .error ⟨.other, "image acquisition deadline"⟩
        | .error error :: _ => .error error
        | .ok read :: turns =>
            if read.isEmpty then .error (invalid "image shortened during read")
            else streamFrom len turns (got ++ read.take (min (len - got.length) bufferBytes))
      else .ok got

def stream (copying : Copying) (len : Nat) : Except IoError Bytes := do
  let got ← streamFrom len copying.turns []
  if !(← copying.past).isEmpty || (← copying.size) ≠ len then
    throw (invalid "image grew during read")
  copying.time
  return got

variable [Codec]

def materialize (copying : Copying) (len : Nat) (expected : String) : Except IoError File := do
  if (← sourceSize copying.metadata len) ≠ len then throw (invalid "source length mismatch")
  copying.memfd
  let got ← stream copying len
  if Codec.sha256 got ≠ expected then
    throw (invalid "source digest changed before publication")
  copying.sealing
  return ⟨got⟩

section Exact

omit [Codec]

theorem sourceSize_le {metadata : Except IoError Metadata} {limit len : Nat}
    (measured : sourceSize metadata limit = .ok len) : len ≤ limit := by
  obtain ⟨found, _, rest⟩ := ok_of_bind measured
  split at rest
  · cases rest
  · next admitted =>
    have same : found.len = len := Except.ok.inj rest
    simp only [Bool.or_eq_true, Bool.not_eq_true', decide_eq_true_eq, not_or, not_lt] at admitted
    exact same ▸ admitted.2

theorem streamFrom_length {len : Nat} {turns : List (Except IoError Bytes)} {got bytes : Bytes}
    (fits : got.length ≤ len) (read : streamFrom len turns got = .ok bytes) :
    bytes.length = len := by
  induction turns generalizing got with
  | nil =>
      unfold streamFrom at read
      split at read
      · cases read
      · have same : got = bytes := Except.ok.inj read
        rw [← same]
        omega
  | cons turn turns ih =>
      unfold streamFrom at read
      split at read
      · cases turn with
        | error error => cases read
        | ok piece =>
            simp only at read
            split at read
            · cases read
            · refine ih ?_ read
              rw [List.length_append, List.length_take]
              omega
      · have same : got = bytes := Except.ok.inj read
        rw [← same]
        omega

theorem stream_length {copying : Copying} {len : Nat} {bytes : Bytes}
    (read : stream copying len = .ok bytes) : bytes.length = len := by
  obtain ⟨got, streamed, rest⟩ := ok_of_bind read
  obtain ⟨past, _, rest⟩ := ok_of_bind rest
  obtain ⟨size, _, rest⟩ := ok_of_bind rest
  split at rest
  · cases rest
  · obtain ⟨_, _, rest⟩ := ok_of_bind rest
    have same : got = bytes := Except.ok.inj rest
    have length : got.length = len := by
      refine streamFrom_length ?_ streamed
      exact Nat.zero_le len
    exact same ▸ length

end Exact

/-- An image that was made has the length and the digest it was asked for. -/
theorem materialize_ok {copying : Copying} {len : Nat} {expected : String} {image : File}
    (made : materialize copying len expected = .ok image) :
    image.bytes.length = len ∧ Codec.sha256 image.bytes = expected := by
  obtain ⟨size, _, rest⟩ := ok_of_bind made
  split at rest
  · cases rest
  · obtain ⟨_, _, rest⟩ := ok_of_bind rest
    obtain ⟨got, streamed, rest⟩ := ok_of_bind rest
    split at rest
    · cases rest
    · next agrees =>
      obtain ⟨_, _, rest⟩ := ok_of_bind rest
      have same : File.mk got = image := Except.ok.inj rest
      rw [← same]
      exact ⟨stream_length streamed, not_not.mp agrees⟩

end Image

end AgentBash
