import AgentBash.Json.Text
import AgentBash.Retention.Evidence

/-!
# Identities of a retained prefix

`retained_output.rs` freezes a length when it opens the log and names the bytes up to there. The
producers keep appending, so an identity is about a prefix and never about the end of the file.
-/

namespace AgentBash

set_option autoImplicit false

open Durable

namespace RetainedOutput

structure Identity where
  version : Nat
  handle : String
  createdAtUnixMs : Nat
  bytes : Nat
  sha256 : String
  encoding : String
  deriving DecidableEq, Repr

structure Snapshot where
  identity : Identity
  output : String
  deriving DecidableEq, Repr

/-- The fields of the handle's record that an identity is about. -/
structure Recorded where
  handle : String
  createdAtUnixMs : Nat
  deriving DecidableEq, Repr

def invalid (message : String) : IoError := ⟨.invalidData, message⟩

/-- One opening of the log. A file has some bytes when its length is taken, and its reads return
some up to its end, or fail. -/
inductive Opening
  | failed (error : IoError)
  | irregular
  | file (atOpen reads : Bytes) (readError : Option IoError)
  deriving DecidableEq, Repr

def readBounded (reads : Bytes) (readError : Option IoError) (bytes : Nat) :
    Except IoError Bytes :=
  match readError with
  | some error => .error error
  | none =>
      if (reads.take bytes).length ≠ bytes then .error (invalid "incomplete retained source read")
      else .ok (reads.take bytes)

def readPrefix (log : Opening) (bytes : Option Nat) : Except IoError Bytes :=
  match log with
  | .failed error => .error error
  | .irregular => .error (invalid "retained source is not a regular file")
  | .file atOpen reads readError =>
      let bytes := bytes.getD atOpen.length
      if bytes > atOpen.length then
        .error (invalid "retained source shorter than requested prefix")
      else readBounded reads readError bytes

def hex (bytes : Bytes) : String :=
  .ofList (bytes.flatMap fun byte =>
    [Nat.digitChar (byte.toNat / 16), Nat.digitChar (byte.toNat % 16)])

section Acquiring

variable [Codec]

def identity (recorded : Recorded) (output : Bytes) : Identity where
  version := 1
  handle := recorded.handle
  createdAtUnixMs := recorded.createdAtUnixMs
  bytes := output.length
  sha256 := Codec.sha256 output
  encoding := "hex"

def acquire (log : Opening) (recorded : Recorded) (bytes : Option Nat) : Except IoError Snapshot := do
  let output ← readPrefix log bytes
  return { identity := identity recorded output, output := hex output }

def validate (log : Opening) (recorded : Recorded) (expected : Identity) : Except IoError Unit :=
  if expected.version ≠ 1 ∨ expected.handle ≠ recorded.handle ∨
      expected.createdAtUnixMs ≠ recorded.createdAtUnixMs ∨ expected.encoding ≠ "hex" then
    .error (invalid "snapshot source identity mismatch")
  else do
    let output ← readPrefix log (some expected.bytes)
    if identity recorded output ≠ expected then
      .error (invalid "snapshot bytes do not match retained source")
    else .ok ()

end Acquiring

section Reading

variable {log : Opening} {bytes : Option Nat} {output : Bytes}

/-- A readable file that begins with these bytes, and began with as many when it was opened. -/
def Covers (log : Opening) (output : Bytes) : Prop :=
  ∃ atOpen reads, log = .file atOpen reads none ∧ output.length ≤ atOpen.length ∧ output <+: reads

theorem readBounded_eq_ok {reads : Bytes} {readError : Option IoError} {bytes : Nat} :
    readBounded reads readError bytes = .ok output ↔
      readError = none ∧ output.length = bytes ∧ output <+: reads := by
  cases readError with
  | some error => simp [readBounded]
  | none =>
      simp only [readBounded, true_and]
      constructor
      · intro read
        split at read
        · cases read
        · next whole =>
          rw [← Except.ok.inj read]
          exact ⟨not_not.mp whole, List.take_prefix _ _⟩
      · rintro ⟨rfl, found⟩
        rw [← List.prefix_iff_eq_take.mp found, if_neg (not_not.mpr rfl)]

theorem readPrefix_some_eq_ok {bytes : Nat} :
    readPrefix log (some bytes) = .ok output ↔ output.length = bytes ∧ Covers log output := by
  cases log with
  | failed error => simp [readPrefix, Covers]
  | irregular => simp [readPrefix, Covers]
  | file atOpen reads readError =>
      simp only [readPrefix, Option.getD_some]
      constructor
      · intro read
        split at read
        · cases read
        · next enough =>
          obtain ⟨rfl, rfl, found⟩ := readBounded_eq_ok.mp read
          exact ⟨rfl, atOpen, reads, rfl, not_lt.mp enough, found⟩
      · rintro ⟨rfl, _, _, same, enough, found⟩
        cases same
        rw [if_neg (not_lt.mpr enough)]
        exact readBounded_eq_ok.mpr ⟨rfl, rfl, found⟩

theorem covers_of_readPrefix (read : readPrefix log bytes = .ok output) : Covers log output := by
  cases bytes with
  | some bytes => exact (readPrefix_some_eq_ok.mp read).2
  | none =>
      cases log with
      | failed error => cases read
      | irregular => cases read
      | file atOpen reads readError =>
          have bounded : readPrefix (.file atOpen reads readError) (some atOpen.length) =
              .ok output := read
          exact (readPrefix_some_eq_ok.mp bounded).2

theorem Covers.append {atOpen reads : Bytes} {readError : Option IoError}
    (covers : Covers log output) (earlier : log = .file atOpen reads readError)
    {openedLater readsLater : Bytes} (opened : reads <+: openedLater)
    (read : openedLater <+: readsLater) : Covers (.file openedLater readsLater none) output := by
  obtain ⟨_, found, same, _, inside⟩ := covers
  rw [earlier] at same
  cases same
  have whole := inside.trans opened
  exact ⟨openedLater, readsLater, rfl, whole.length_le, whole.trans read⟩

end Reading

section Validating

variable [Codec] {log later : Opening} {recorded : Recorded} {bytes : Option Nat}
  {snapshot : Snapshot} {output : Bytes}

theorem acquired (ran : acquire log recorded bytes = .ok snapshot) :
    ∃ output, Covers log output ∧ snapshot.identity = identity recorded output ∧
      snapshot.output = hex output := by
  obtain ⟨output, read, made⟩ := ok_of_bind ran
  cases made
  exact ⟨output, covers_of_readPrefix read, rfl, rfl⟩

/-- What validates is a readable prefix of the named length with the named digest. -/
theorem validate_identity_eq_ok :
    validate later recorded (identity recorded output) = .ok () ↔
      ∃ found, Covers later found ∧ found.length = output.length ∧
        Codec.sha256 found = Codec.sha256 output := by
  have source : ¬ ((identity recorded output).version ≠ 1 ∨
      (identity recorded output).handle ≠ recorded.handle ∨
      (identity recorded output).createdAtUnixMs ≠ recorded.createdAtUnixMs ∨
      (identity recorded output).encoding ≠ "hex") := by
    simp [identity]
  rw [validate, if_neg source]
  constructor
  · intro validated
    obtain ⟨found, read, compared⟩ := ok_of_bind validated
    obtain ⟨length, covers⟩ := readPrefix_some_eq_ok.mp read
    split at compared
    · cases compared
    · next same =>
      exact ⟨found, covers, length, congrArg Identity.sha256 (not_not.mp same)⟩
  · rintro ⟨found, covers, length, digest⟩
    have read : readPrefix later (some (identity recorded output).bytes) = .ok found :=
      readPrefix_some_eq_ok.mpr ⟨length, covers⟩
    have same : identity recorded found = identity recorded output := by
      simp only [identity, length, digest]
    rw [read]
    exact if_neg (not_not.mpr same)

end Validating

end RetainedOutput

end AgentBash
