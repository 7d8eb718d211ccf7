import AgentBash.Durable.Sequential
import AgentBash.RetainedOutput.Prefix

/-!
# The local output receipt

`publish_receipt` replaces the one visible receipt of a handle through a staging slot that it never
cleans up. Every operation may fail, the process may stop between any two of them, and the power may
go at any time: then a file that was not synced may hold anything, and a directory that was not
synced may still name an earlier file.
-/

namespace AgentBash

set_option autoImplicit false

open Durable Durable.Sequential

namespace RetainedOutput

/-- What a name leads to without following it. -/
inductive Entry
  | absent
  | file (content : Bytes)
  | other
  deriving DecidableEq, Repr

structure Slot where
  entry : Entry
  synced : Bool
  deriving DecidableEq, Repr

/-- The two names of the handle directory, and the receipts that the directory on the medium may
still name. -/
structure Disk where
  receipt : Slot
  staging : Slot
  older : List Slot
  deriving DecidableEq, Repr

/-- What may be found under a slot after the power went. -/
def Slot.MayHold (slot : Slot) (found : Entry) : Prop :=
  found = slot.entry ∨
    slot.synced = false ∧ ∃ written content, slot.entry = .file written ∧ found = .file content

def Disk.MayShow (disk : Disk) (found : Entry) : Prop :=
  ∃ slot ∈ disk.receipt :: disk.older, slot.MayHold found

/-- The disks that a crash or a reader may meet on the way, the last one first. -/
structure History where
  now : Disk
  past : List Disk
  renamed : Bool
  deriving DecidableEq, Repr

def History.visited (history : History) : List Disk := history.now :: history.past

def History.start (disk : Disk) : History where
  now := disk
  past := []
  renamed := false

inductive Phase
  | lookup
  | opening
  | read
  | duplicateFileSync
  | prepare
  | write
  | prepareFileSync
  | publish
  | directoryOpen
  | publishedDirectorySync
  deriving DecidableEq, Repr

def Phase.text : Phase → String
  | .lookup | .opening | .read => "read"
  | .duplicateFileSync => "duplicate-file-sync"
  | .prepare => "prepare"
  | .write => "write"
  | .prepareFileSync => "prepare-file-sync"
  | .publish => "publish"
  | .directoryOpen => "directory-open"
  | .publishedDirectorySync => "published-directory-sync"

/-- What happens in one call: the operations that fail, and how many bytes reach the staging file
before the rest of them, or the failure. -/
structure Outcomes where
  fails : Phase → Option IoError
  written : Nat

def publicationError (phase : Phase) (error : IoError) : IoError :=
  .other ("local-receipt " ++ phase.text ++ ": " ++ error.detail ++ "; acceptance unconfirmed")

def notPlain : IoError := .other "not a plain file"

/-- The compact text of an identity, its fields as they are declared. -/
def Identity.encoded (identity : Identity) : Bytes :=
  let fields := [
    ("version", Value.number identity.version),
    ("handle", .string identity.handle),
    ("created_at_unix_ms", .number identity.createdAtUnixMs),
    ("bytes", .number identity.bytes),
    ("sha256", .string identity.sha256),
    ("encoding", .string identity.encoding)]
  let entries := fields.map fun (key, value) => Value.entryText key value
  utf8 (.ofList ('{' :: [','].intercalate entries ++ ['}']))

def durableMarkerExists (marker : String) (looked : Option IoError) (entry : Entry) :
    Except IoError Bool :=
  match looked, entry with
  | some error, _ => if error.kind = .notFound then .ok false else .error error
  | none, .absent => .ok false
  | none, .file _ => .ok true
  | none, .other => .error (invalid ("durable marker is not a regular file: " ++ marker))

def openReadNoFollow (opened : Option IoError) (entry : Entry) : Except IoError Bytes :=
  match opened, entry with
  | some error, _ => .error error
  | none, .absent => .error .missing
  | none, .file content => .ok content
  | none, .other => .error notPlain

section Publishing

variable (outcomes : Outcomes)

def change (update : Disk → Disk) : Sequential History Unit :=
  modify fun history =>
    { history with now := update history.now, past := history.now :: history.past }

def reporting {α : Type} (phase : Phase) (result : Except IoError α) : Sequential History α :=
  ofExcept (result.mapError (publicationError phase))

/-- One operation: it fails and changes nothing, or it takes place. -/
def operation (phase : Phase) (update : Disk → Disk) : Sequential History Unit := do
  reporting phase ((outcomes.fails phase).elim (.ok ()) .error)
  change update

def syncReceiptDirectory : Sequential History Unit := do
  reporting .directoryOpen ((outcomes.fails .directoryOpen).elim (.ok ()) .error)
  operation outcomes .publishedDirectorySync fun disk => { disk with older := [] }

/-- `O_TRUNC` empties what an interrupted call has left; only a file or nothing can be opened. -/
def openStaging : Sequential History Unit := do
  let history ← get
  if history.now.staging.entry = .other then reporting .prepare (.error notPlain)
  else operation outcomes .prepare fun disk => { disk with staging := ⟨.file [], false⟩ }

def writeAll (encoded : Bytes) : Sequential History Unit := do
  change fun disk => { disk with staging := ⟨.file (encoded.take outcomes.written), false⟩ }
  operation outcomes .write fun disk => { disk with staging := ⟨.file encoded, false⟩ }

def renameStaging : Sequential History Unit := do
  operation outcomes .publish fun disk =>
    { receipt := disk.staging
      staging := ⟨.absent, false⟩
      older := disk.receipt :: disk.older }
  modify fun history => { history with renamed := true }

def publishStaged (encoded : Bytes) : Sequential History Bool := do
  openStaging outcomes
  writeAll outcomes encoded
  operation outcomes .prepareFileSync fun disk =>
    { disk with staging := { disk.staging with synced := true } }
  renameStaging outcomes
  syncReceiptDirectory outcomes
  return true

def resync : Sequential History Bool := do
  operation outcomes .duplicateFileSync fun disk =>
    { disk with receipt := { disk.receipt with synced := true } }
  syncReceiptDirectory outcomes
  return false

def publishReceipt (directory : String) (identity : Identity) : Sequential History Bool := do
  let encoded := identity.encoded
  let history ← get
  let held := history.now.receipt.entry
  let destination := directory ++ "/output-receipt.json"
  let _ ← reporting .lookup (durableMarkerExists destination (outcomes.fails .lookup) held)
  match openReadNoFollow (outcomes.fails .opening) held with
  | .error error =>
      if error.kind = .notFound then publishStaged outcomes encoded
      else throw (publicationError .opening error)
  | .ok content =>
      -- a failed read is reported as it is
      ofExcept ((outcomes.fails .read).elim (.ok ()) .error)
      if content.take (encoded.length + 1) = encoded then resync outcomes
      else publishStaged outcomes encoded

end Publishing

def rejectLegacy (consumed : Except IoError Unit) : Except IoError Unit :=
  match consumed with
  | .error error => if error.kind = .notFound then .ok () else .error error
  | .ok () => .error (invalid
      "legacy-state: consumed entry exists; previous suppression cannot be reversed locally")

def recordReceipt (consumed : Except IoError Unit) (outcomes : Outcomes) (directory : String)
    (identity : Identity) : Sequential History Bool := do
  ofExcept (rejectLegacy consumed)
  publishReceipt outcomes directory identity

end RetainedOutput

end AgentBash
