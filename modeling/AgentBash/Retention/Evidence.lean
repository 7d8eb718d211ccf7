import AgentBash.Json.Text
import AgentBash.State.Identity

/-!
# Evidence in a handle directory

The reaper decides from whatever stands in a directory: a path may lead nowhere, to something
that is not a regular file, to a file nobody can read or to bytes that say nothing. The three
ways in which the source looks at a path differ in what they follow and in what they accept.
JSON and digests come from outside the repository, so a `Codec` stands for them.
-/

namespace AgentBash

set_option autoImplicit false

open Durable

/-- The JSON reader and writer, the record's reader and the digest that the source imports. -/
class Codec where
  parse : Bytes → Option Value
  encode : Value → Bytes
  parseMeta : Bytes → Option Meta
  sha256 : Bytes → String

/-- The readers and writers where all they meet are flat records; what is digested is left open. -/
@[reducible] def flatCodec (digest : Bytes → String) : Codec where
  parse := Value.ofRecordBytes
  encode := Value.recordBytes
  parseMeta := fun _ => none
  sha256 := digest

theorem parse_flatCodec {digest : Bytes → String} {record : Value} (flat : record.Record) :
    (flatCodec digest).parse ((flatCodec digest).encode record) = some record :=
  Value.ofRecordBytes_recordBytes flat

structure RegularFile where
  bytes : Bytes
  readable : Bool := true
  device : Nat := 0
  inode : Nat := 0
  uid : Nat := 0
  links : Nat := 1
  writable : Bool := false
  deriving DecidableEq, Repr

/-- What a path leads to; a `special` file is neither a directory nor regular. -/
inductive Node
  | absent
  | unreachable
  | dangling
  | link (target : RegularFile)
  | directory
  | special
  | regular (file : RegularFile)
  deriving DecidableEq, Repr

def Durable.IoError.missing : IoError := ⟨.notFound, "No such file or directory"⟩

theorem some_of_elim {ε α : Type} {value : Option α} {error : ε} {result : α}
    (succeeded : value.elim (Except.error error) Except.ok = .ok result) : value = some result := by
  cases value with
  | none => cases succeeded
  | some found => exact congrArg some (Except.ok.inj succeeded)

namespace Node

/-- `try_exists` follows links, so a link to nothing does not exist. -/
def tryExists : Node → Except IoError Bool
  | .absent | .dangling => .ok false
  | .unreachable => .error (.other "lookup failed")
  | .link _ | .directory | .special | .regular _ => .ok true

def open_ (file : RegularFile) : Except IoError RegularFile :=
  if file.readable then .ok file else .error (.other "Permission denied")

/-- `fs::read` follows links. -/
def read : Node → Except IoError RegularFile
  | .absent | .dangling => .error .missing
  | .unreachable => .error (.other "lookup failed")
  | .directory | .special => .error (.other "not a regular file")
  | .link file | .regular file => open_ file

/-- An open that follows no link; what was opened need not be a regular file. -/
def openNoFollow : Node → Except IoError (Option RegularFile)
  | .absent => .error .missing
  | .unreachable => .error (.other "lookup failed")
  | .dangling | .link _ => .error (.other "Too many levels of symbolic links")
  | .directory | .special => .ok none
  | .regular file => (open_ file).map some

/-- `continuation::read`: a bounded regular file, reached without a link. -/
def readBounded (node : Node) (max : Nat) : Except IoError Bytes :=
  match node.openNoFollow with
  | .error error => .error error
  | .ok none => .error (.other "source is not a bounded regular file")
  | .ok (some file) =>
      if file.bytes.length ≤ max then .ok file.bytes
      else .error (.other "source is not a bounded regular file")

/-- `symlink_metadata` does not find the path. -/
def notFound : Node → Bool
  | .absent => true
  | _ => false

end Node

def maxSource : Nat := 1024 * 1024

variable [Codec]

/-- `value`: a bounded file that parses. -/
def Node.value (node : Node) : Except IoError Value :=
  match node.readBounded maxSource with
  | .error error => .error error
  | .ok bytes =>
      match Codec.parse bytes with
      | some value => .ok value
      | none => .error (.other "malformed JSON")

structure StatePaths where
  root : String
  stateDir : String
  handle : String
  deriving DecidableEq, Repr

/-- A handle directory as one pass finds it: its own metadata, its entries and its siblings. -/
structure StateDirectory where
  paths : StatePaths
  isDirectory : Bool := true
  canonical : Bool := true
  device : Nat := 0
  inode : Nat := 0
  uid : Nat := 0
  mtime : Option Nat := none
  entry : String → Node
  sibling : String → Node

end AgentBash
