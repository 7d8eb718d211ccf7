import AgentBash.Durable.Directory
import AgentBash.Durable.Links
import AgentBash.Retention.Evidence
import AgentBash.State.Identity

/-!
# The source directory of a continuation

The names and nodes that capture, recovery and publication of a v2 source meet in, with the
requests they make of them. Paths are names here; a file handle is the number of its node.
-/

namespace AgentBash

set_option autoImplicit false

open Durable

/-- What `immutable` publishes. -/
inductive Document
  | registration | observation | sourceBundle | outcome | snapshot | missingOutput
  deriving DecidableEq, Repr

def Document.name : Document → String
  | .registration => "source-registration-v2.json"
  | .observation => "source-observation-v2.json"
  | .sourceBundle => "completion-source-bundle-v2.json"
  | .outcome => "source-outcome-v2.json"
  | .snapshot => "completion-snapshot-v2.json"
  | .missingOutput => "missing-output-observation-v2.json"

/-- The copy a selection names by its digest, or another name of the same shape. -/
inductive Copy
  | slot
  | foreign (number : Nat)
  deriving DecidableEq, Repr

/-- `body`, `receipt` and `pending` belong to one `.completion-output-*.tmp`; `stray` is any other
name that starts that way. A temporary name of `immutable` is drawn by one process and is never
drawn again. -/
inductive SourceName
  | output
  | document (document : Document)
  | selectedLog
  | body (copy : Copy)
  | receipt (copy : Copy)
  | pending (copy : Copy)
  | stray (number : Nat)
  | temp (document : Document) (owner serial : Nat)
  | other (number : Nat)
  deriving DecidableEq, Repr

/-- `CallerChainEntry`: one incarnation of a process. -/
structure CallerChainEntry where
  pid : Int
  starttimeTicks : Nat
  bootId : String
  deriving DecidableEq, Repr

/-- `output-selection-v2.json` names the node and the length of the selected log, or says why
there is none. -/
inductive Selection
  | missing (detail : String)
  | pinned (inode byteLen linkCount : Nat)
  deriving DecidableEq, Repr

namespace Selection

def inode : Selection → Option Nat
  | .missing _ => none
  | .pinned inode _ _ => some inode

def byteLen : Selection → Option Nat
  | .missing _ => none
  | .pinned _ byteLen _ => some byteLen

end Selection

/-- The receipt of a copy; the digest of a selection stands for the selection. -/
structure CopyReceipt where
  inode : Nat
  selection : Selection
  byteLen : Nat
  writer : Option CallerChainEntry
  complete : Bool
  deriving DecidableEq, Repr

inductive LossReason
  | originalSelectionNotRetained | selectedStorageLost | selectedStorageShort
  deriving DecidableEq, Repr

/-- What the retained event says about its observer and its outcome. -/
structure Staged where
  observer : Option CallerChainEntry
  completionRevision : Nat
  outcomeSha256 : String
  deriving DecidableEq, Repr

/-- The missing-output proof; its constant fields are left out. -/
structure MissingOutput where
  reason : LossReason
  producer : CallerChainEntry
  originalObserver : CallerChainEntry
  completionRevision : Nat
  outcomeSha256 : String
  selected : Option (Nat × Nat)
  observedByteLen : Option Nat
  deriving DecidableEq, Repr

/-- What a node holds; `torn` is a record whose writing was interrupted. -/
inductive SourceNode
  | bytes (content : Bytes)
  | copyReceipt (record : CopyReceipt)
  | bundle (outcome snapshot : Bytes)
  | missing (proof : MissingOutput)
  | torn
  | special
  | symlink
  deriving DecidableEq, Repr

namespace SourceNode

def content : SourceNode → Bytes
  | .bytes content => content
  | _ => []

def isFile : SourceNode → Bool
  | .special | .symlink => false
  | _ => true

end SourceNode

structure Metadata where
  inode : Nat
  isFile : Bool
  isSymlink : Bool
  len : Nat
  nlink : Nat
  deriving DecidableEq, Repr

/-- `outside` counts the links to a node from other directories. -/
structure SourceStorage where
  links : Links SourceName SourceNode
  selection : Selection
  outside : Nat → Nat

namespace SourceStorage

def find (storage : SourceStorage) (name : SourceName) : Option Nat := storage.links.find name

def nodes (storage : SourceStorage) (inode : Nat) : SourceNode := storage.links.nodes inode

def next (storage : SourceStorage) : Nat := storage.links.next

def metadata (storage : SourceStorage) (inode : Nat) : Metadata where
  inode := inode
  isFile := (storage.nodes inode).isFile
  isSymlink := storage.nodes inode = .symlink
  len := (storage.nodes inode).content.length
  nlink := storage.links.count inode + storage.outside inode

def link (storage : SourceStorage) (name : SourceName) (inode : Nat) : SourceStorage :=
  { storage with links := storage.links.link name inode }

def unlink (storage : SourceStorage) (name : SourceName) : SourceStorage :=
  { storage with links := storage.links.unlink name }

def write (storage : SourceStorage) (inode : Nat) (node : SourceNode) : SourceStorage :=
  { storage with links := storage.links.write inode node }

def allocate (storage : SourceStorage) (node : SourceNode) : SourceStorage :=
  { storage with links := storage.links.allocate node }

def create (storage : SourceStorage) (name : SourceName) (node : SourceNode) : SourceStorage :=
  (storage.allocate node).link name storage.next

/-- The bytes that a read from an offset finds, up to a limit. -/
def chunk (storage : SourceStorage) (source offset limit : Nat) : Bytes :=
  ((storage.nodes source).content.drop offset).take limit

def extend (storage : SourceStorage) (target : Nat) (more : Bytes) : SourceStorage :=
  storage.write target (.bytes ((storage.nodes target).content ++ more))

end SourceStorage

/-- One request each; `copy` is `io::copy` between two handles and `stage` is what `immutable`
does before it links: draw a name, create it, write it and sync it. -/
inductive SourceOp
  | tryExists (name : SourceName)
  | symlinkMetadata (name : SourceName)
  | readDir
  | open_ (name : SourceName)
  | metadata (inode : Nat)
  | read (name : SourceName)
  | create (name : SourceName)
  | createAnonymous
  | write (inode : Nat) (node : SourceNode)
  | copy (source target offset limit : Nat)
  | syncAll (inode : Nat)
  | syncDirectory
  | hardLink (source target : SourceName)
  | linkAnonymous (inode : Nat) (target : SourceName)
  | rename (source target : SourceName)
  | removeFile (name : SourceName)
  | stage (document : Document) (data : SourceNode)
  | selection
  | sameDirectory
  | staged
  | identity
  | processIdentityEvidence (observer : CallerChainEntry)
  | renderBundle
  | checkBinding
  | recordError
  deriving DecidableEq

namespace SourceOp

def Result : SourceOp → Type
  | .tryExists _ | .sameDirectory => Bool
  | .symlinkMetadata _ | .metadata _ => Metadata
  | .readDir => List SourceName
  | .open_ _ | .create _ | .createAnonymous | .copy _ _ _ _ => Nat
  | .read _ => SourceNode
  | .stage _ _ => SourceName
  | .selection => Selection
  | .staged => Staged
  | .identity => CallerChainEntry
  | .processIdentityEvidence _ => ProcessIdentityEvidence
  | .renderBundle => Bytes × Bytes
  | .write _ _ | .syncAll _ | .syncDirectory | .hardLink _ _ | .linkAnonymous _ _ | .rename _ _
  | .removeFile _ | .checkBinding | .recordError => Unit

end SourceOp

/-- `tear` fails a write half way and `stop` fails a copy after some bytes. -/
inductive SourceChoice
  | agree
  | decline
  | fail (error : IoError)
  | tear (serial : Nat) (error : IoError)
  | stop (count : Nat) (error : IoError)
  | listing (names : List SourceName)
  | serial (serial : Nat)
  | staged (staged : Staged)
  | identity (identity : CallerChainEntry)
  | evidence (evidence : ProcessIdentityEvidence)
  | rendered (outcome snapshot : Bytes)

/-- The log grows, and names that capture does not own come and go. -/
inductive SourceChange
  | append (more : Bytes)
  | appear (name : SourceName) (node : SourceNode)
  | vanish (name : SourceName)

def Durable.IoError.exists_ : IoError := ⟨.alreadyExists, "File exists"⟩

namespace SourceStorage

def outsideName : SourceName → Bool
  | .selectedLog | .other _ => true
  | _ => false

def change : SourceChange → SourceStorage → Option SourceStorage
  | .append more, storage =>
      match storage.selection.inode with
      | some inode => some (storage.extend inode more)
      | none => none
  | .appear name node, storage =>
      if outsideName name && (storage.find name).isNone then some (storage.create name node)
      else none
  | .vanish name, storage => if outsideName name then some (storage.unlink name) else none

def perform (pid : Nat) :
    (op : SourceOp) → SourceChoice → SourceStorage → Option (Except IoError op.Result × SourceStorage)
  | .tryExists name, choice, storage =>
      match storage.find name, choice with
      | none, _ => some (.ok false, storage)
      | some inode, .decline =>
          if storage.nodes inode = .symlink then some (.ok false, storage) else none
      | some _, _ => some (.ok true, storage)
  | .symlinkMetadata name, _, storage =>
      match storage.find name with
      | none => some (.error .missing, storage)
      | some inode => some (.ok (storage.metadata inode), storage)
  | .readDir, .listing names, storage =>
      if names.Perm storage.links.names then some (.ok names, storage) else none
  | .open_ name, _, storage =>
      match storage.find name with
      | none => some (.error .missing, storage)
      | some inode =>
          if storage.nodes inode = .symlink then
            some (.error (.other "Too many levels of symbolic links"), storage)
          else some (.ok inode, storage)
  | .metadata inode, _, storage => some (.ok (storage.metadata inode), storage)
  | .read name, _, storage =>
      match storage.find name with
      | none => some (.error .missing, storage)
      | some inode =>
          if (storage.nodes inode).isFile then some (.ok (storage.nodes inode), storage)
          else some (.error (.other "source is not a bounded regular file"), storage)
  | .create name, _, storage =>
      match storage.find name with
      | some _ => some (.error .exists_, storage)
      | none => some (.ok storage.next, storage.create name (.bytes []))
  | .createAnonymous, _, storage => some (.ok storage.next, storage.allocate (.bytes []))
  | .write inode node, .agree, storage => some (.ok (), storage.write inode node)
  | .write inode _, .tear _ error, storage =>
      if error.plain then some (.error error, storage.write inode .torn) else none
  | .copy source target offset limit, .agree, storage =>
      let more := storage.chunk source offset limit
      some (.ok more.length, storage.extend target more)
  | .copy source target offset limit, .stop count error, storage =>
      if error.plain then
        some (.error error, storage.extend target ((storage.chunk source offset limit).take count))
      else none
  | .syncAll _, _, storage => some (.ok (), storage)
  | .syncDirectory, _, storage => some (.ok (), storage)
  | .hardLink source target, _, storage =>
      match storage.find source, storage.find target with
      | none, _ => some (.error .missing, storage)
      | some _, some _ => some (.error .exists_, storage)
      | some inode, none => some (.ok (), storage.link target inode)
  | .linkAnonymous inode target, _, storage =>
      match storage.find target with
      | some _ => some (.error .exists_, storage)
      | none => some (.ok (), storage.link target inode)
  | .rename source target, _, storage =>
      match storage.find source with
      | none => some (.error .missing, storage)
      | some inode => some (.ok (), (storage.link target inode).unlink source)
  | .removeFile name, _, storage =>
      match storage.find name with
      | none => some (.error .missing, storage)
      | some _ => some (.ok (), storage.unlink name)
  | .stage document data, .serial serial, storage =>
      let name := .temp document pid serial
      match storage.find name with
      | some _ => some (.error .exists_, storage)
      | none => some (.ok name, storage.create name data)
  | .stage document _, .tear serial error, storage =>
      let name := .temp document pid serial
      if error.plain && (storage.find name).isNone then
        some (.error error, storage.create name .torn)
      else none
  | .selection, _, storage => some (.ok storage.selection, storage)
  | .sameDirectory, .agree, storage => some (.ok true, storage)
  | .sameDirectory, .decline, storage => some (.ok false, storage)
  | .staged, .staged staged, storage => some (.ok staged, storage)
  | .identity, .identity identity, storage => some (.ok identity, storage)
  | .processIdentityEvidence _, .evidence evidence, storage => some (.ok evidence, storage)
  | .renderBundle, .rendered outcome snapshot, storage => some (.ok (outcome, snapshot), storage)
  | .checkBinding, _, storage => some (.ok (), storage)
  | .recordError, _, storage => some (.ok (), storage)
  | _, _, _ => none

/-- Any request may fail without an effect. -/
def act (pid : Nat) (op : SourceOp) (choice : SourceChoice) (storage : SourceStorage) :
    Option (Except IoError op.Result × SourceStorage) :=
  match choice with
  | .fail error => if error.plain then some (.error error, storage) else none
  | choice => storage.perform pid op choice

end SourceStorage

inductive SourceLock
  | sourceCapture
  deriving DecidableEq, Repr

abbrev sourceLayout : Layout where
  File := Empty
  Content := nofun
  Lock := SourceLock
  fileEq := inferInstance
  lockEq := inferInstance

abbrev sourceOutside : Surroundings sourceLayout where
  World := SourceStorage
  Op := SourceOp
  Result := SourceOp.Result
  Choice := SourceChoice
  act pid op choice disk := disk.world.act pid op choice
  Change := SourceChange
  change what disk := disk.world.change what

abbrev SourceDisk := Disk sourceLayout SourceStorage

abbrev SourceScript (α : Type) := Io (requests sourceLayout sourceOutside) α

def sourceAsk (op : SourceOp) : SourceScript op.Result :=
  Io.ask (L := sourceLayout) (E := sourceOutside) (.external op)

end AgentBash
