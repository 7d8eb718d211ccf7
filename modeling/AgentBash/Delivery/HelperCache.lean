import AgentBash.Durable.Directory
import AgentBash.Durable.Links
import AgentBash.Retention.Evidence

/-!
# The cache of delivery helpers

`pin_to_handle` of `delivery.rs` links a snapshot of the helper, and of its interpreter, into the
directory of a handle. The snapshots stand in one cache under their digests; a new one is written
under a temporary name first. Who holds the cache lock may install and clean up, while directories of
recorded handles disappear at any time.
-/

namespace AgentBash

set_option autoImplicit false

open Durable

abbrev Handle := String

/-- The names that pinning makes: in the cache and in the directory of a handle. -/
inductive HelperName
  | cached (sha256 : String)
  | temp (sha256 : String) (handle : Handle)
  | helper (handle : Handle)
  | interpreter (handle : Handle)
  deriving DecidableEq, Repr

namespace HelperName

/-- The handle whose launcher makes the name. -/
def owner : HelperName → Option Handle
  | .cached _ => none
  | .temp _ handle | .helper handle | .interpreter handle => some handle

/-- The handle whose directory the name stands in. -/
def directory : HelperName → Option Handle
  | .helper handle | .interpreter handle => some handle
  | _ => none

def path : HelperName → String
  | .cached sha256 => ".delivery-helpers/" ++ sha256
  | .temp sha256 handle => ".delivery-helpers/." ++ sha256 ++ "." ++ handle ++ ".tmp"
  | .helper handle => handle ++ "/delivery-helper"
  | .interpreter handle => handle ++ "/delivery-helper-interpreter"

def isTemp : HelperName → Bool
  | .temp _ _ => true
  | _ => false

end HelperName

/-- What `same_file_version` and the provenance compare. -/
structure FileVersion where
  device : Nat
  inode : Nat
  size : Nat
  mtime : Int
  mtimeNsec : Int
  mode : Nat
  deriving DecidableEq, Repr

/-- Every node is a regular file. -/
structure CacheFile where
  content : Bytes
  synced : Bool
  version : FileVersion
  deriving DecidableEq, Repr

structure InterpreterProvenance where
  path : HelperName
  sha256 : String
  deriving DecidableEq, Repr

structure HelperBinding where
  path : HelperName
  version : FileVersion
  sha256 : String
  environmentSha256 : String
  interpreter : Option InterpreterProvenance
  deriving DecidableEq, Repr

/-- `drawn` says which process has made the directory of a handle; a handle is drawn once. The last
two fields are histories: the bindings that were recorded and what was linked into directories. -/
structure HelperStorage where
  links : Links HelperName CacheFile
  drawn : Handle → Option Nat
  records : List (Handle × HelperBinding)
  linked : List (Handle × Nat)

/-- One request each; `append` is one write of a copy. -/
inductive HelperOp
  | createCacheDir
  | createHandle (handle : Handle)
  | openFile (name : HelperName)
  | metadata (file : Nat)
  | digest (file : Nat)
  | stat (name : HelperName)
  | tryExists (name : HelperName)
  | createNew (name : HelperName)
  | append (file : Nat) (more : Bytes)
  | syncAll (file : Nat)
  | hardLink (source target : HelperName)
  | removeFile (name : HelperName)
  | readCache
  | linkCount (name : HelperName)
  | syncDirectory (handle : Handle)
  | canonicalize (name : HelperName)
  | persistEnvironment (handle : Handle)
  | readHandle (handle : Handle)
  | record (handle : Handle) (binding : HelperBinding)
  deriving DecidableEq

namespace HelperOp

def Result : HelperOp → Type
  | .openFile _ | .createNew _ | .append _ _ | .linkCount _ => Nat
  | .metadata _ | .stat _ => FileVersion
  | .digest _ | .persistEnvironment _ => String
  | .tryExists _ => Bool
  | .readCache => List String
  | .canonicalize _ => HelperName
  | .readHandle _ => List HelperName
  | .createCacheDir | .createHandle _ | .syncAll _ | .hardLink _ _ | .removeFile _
  | .syncDirectory _ | .record _ _ => Unit

end HelperOp

/-- A change gives a file a new version, and a write takes some of its bytes. What a listing names
is up to the outside. -/
inductive HelperChoice
  | agree
  | fail (error : IoError)
  | version (version : FileVersion)
  | wrote (count : Nat) (version : FileVersion)
  | entries (names : List String)
  | names (names : List HelperName)
  | text (text : String)

/-- A name disappears from the directory of a handle. The reaper removes only directories whose record
it can read; a launcher removes its own by requests. -/
inductive HelperChange
  | vanish (name : HelperName)

def Durable.IoError.taken : IoError := ⟨.alreadyExists, "File exists"⟩

namespace HelperStorage

def recorded (storage : HelperStorage) (handle : Handle) : Option HelperBinding :=
  storage.records.lookup handle

def setLinks (storage : HelperStorage) (links : Links HelperName CacheFile) : HelperStorage :=
  { storage with links := links }

def link (storage : HelperStorage) (name : HelperName) (inode : Nat) : HelperStorage :=
  { storage with
    links := storage.links.link name inode
    linked := (name.directory.map fun handle => (handle, inode)).toList ++ storage.linked }

def change : HelperChange → HelperStorage → Option HelperStorage
  | .vanish name, storage =>
      if (name.directory.bind storage.recorded).isSome then
        some (storage.setLinks (storage.links.unlink name))
      else none

variable [Codec]

def perform (pid : Nat) : (op : HelperOp) → HelperChoice → HelperStorage →
    Option (Except IoError op.Result × HelperStorage)
  | .createHandle handle, _, storage =>
      match storage.drawn handle with
      | some _ => some (.error .taken, storage)
      | none => some (.ok (),
          { storage with drawn := Function.update storage.drawn handle (some pid) })
  | .openFile name, _, storage =>
      match storage.links.find name with
      | none => some (.error .missing, storage)
      | some file => some (.ok file, storage)
  | .metadata file, _, storage => some (.ok (storage.links.nodes file).version, storage)
  | .digest file, _, storage =>
      some (.ok (Codec.sha256 (storage.links.nodes file).content), storage)
  | .stat name, _, storage =>
      match storage.links.find name with
      | none => some (.error .missing, storage)
      | some file => some (.ok (storage.links.nodes file).version, storage)
  | .tryExists name, _, storage => some (.ok (storage.links.find name).isSome, storage)
  | .createNew name, .version version, storage =>
      match storage.links.find name with
      | some _ => some (.error .taken, storage)
      | none => some (.ok storage.links.next,
          storage.setLinks (storage.links.create name ⟨[], false, version⟩))
  | .append file more, .wrote count version, storage =>
      if 0 < count ∧ count ≤ more.length then
        some (.ok count, storage.setLinks (storage.links.write file
          ⟨(storage.links.nodes file).content ++ more.take count, false, version⟩))
      else none
  | .syncAll file, _, storage =>
      some (.ok (), storage.setLinks
        (storage.links.write file { storage.links.nodes file with synced := true }))
  | .hardLink source target, _, storage =>
      match storage.links.find source, storage.links.find target with
      | none, _ => some (.error .missing, storage)
      | some _, some _ => some (.error .taken, storage)
      | some file, none => some (.ok (), storage.link target file)
  | .removeFile name, _, storage =>
      match storage.links.find name with
      | none => some (.error .missing, storage)
      | some _ => some (.ok (), storage.setLinks (storage.links.unlink name))
  | .readCache, .entries names, storage => some (.ok names, storage)
  | .linkCount name, _, storage =>
      match storage.links.find name with
      | none => some (.error .missing, storage)
      | some file => some (.ok (storage.links.count file), storage)
  | .canonicalize name, _, storage =>
      match storage.links.find name with
      | none => some (.error .missing, storage)
      | some _ => some (.ok name, storage)
  | .persistEnvironment _, .text sha256, storage => some (.ok sha256, storage)
  | .readHandle handle, .names names, storage =>
      if ∀ name ∈ names, name.directory = some handle then some (.ok names, storage) else none
  | .record handle binding, _, storage =>
      some (.ok (), { storage with records := (handle, binding) :: storage.records })
  | .createCacheDir, _, storage | .syncDirectory _, _, storage => some (.ok (), storage)
  | _, _, _ => none

/-- Any request may fail without an effect; `exists` then answers that nothing is there. -/
def act (pid : Nat) (op : HelperOp) (choice : HelperChoice) (storage : HelperStorage) :
    Option (Except IoError op.Result × HelperStorage) :=
  match op, choice with
  | .tryExists _, .fail _ => some (.ok false, storage)
  | _, .fail error => some (.error error, storage)
  | op, choice => storage.perform pid op choice

end HelperStorage

inductive HelperLock
  | cacheLock
  deriving DecidableEq, Repr

abbrev helperLayout : Layout where
  File := Empty
  Content := nofun
  Lock := HelperLock
  fileEq := inferInstance
  lockEq := inferInstance

abbrev helperOutside [Codec] : Surroundings helperLayout where
  World := HelperStorage
  Op := HelperOp
  Result := HelperOp.Result
  Choice := HelperChoice
  act pid op choice disk := disk.world.act pid op choice
  Change := HelperChange
  change what disk := disk.world.change what

abbrev HelperDisk := Disk helperLayout HelperStorage

namespace HelperCache

variable [Codec]

abbrev HelperScript (α : Type) := Io (requests helperLayout helperOutside) α

def ask (op : HelperOp) : HelperScript op.Result :=
  Io.ask (L := helperLayout) (E := helperOutside) (.external op)

/-- An image whose bytes cannot change any more, with their digest. -/
structure SealedImage where
  bytes : Bytes
  sha256 : String
  exact_ : Codec.sha256 bytes = sha256

structure ConfiguredHelper where
  executable : SealedImage
  interpreter : Option SealedImage

/-- Reports a failure as `DeliveryHelperError::unavailable` does. -/
def unavailable {α : Type} (what : String) (script : HelperScript α) : HelperScript α := do
  match ← script.attempt with
  | .ok value => pure value
  | .error error =>
      Io.throw (.other ("delivery_helper_unavailable: " ++ what ++ ": " ++ error.detail))

def sameFileVersion (left right : FileVersion) : Bool :=
  left.device == right.device && left.inode == right.inode && left.size == right.size &&
    left.mtime == right.mtime && left.mtimeNsec == right.mtimeNsec && left.mode == right.mode

def validateMetadata (name : HelperName) (version : FileVersion) : Except IoError Unit :=
  if version.mode &&& 0o111 = 0 then
    .error ⟨.invalidData, "delivery helper " ++ name.path ++ " is not executable"⟩
  else .ok ()

section Installing

def validateCachedHelper (sha256 : String) : HelperScript FileVersion := do
  let file ← ask (.openFile (.cached sha256))
  let version ← ask (.metadata file)
  Io.ofExcept (validateMetadata (.cached sha256) version)
  let observed : String ← ask (.digest file)
  if observed = sha256 then pure version
  else Io.throw ⟨.invalidData, "cached delivery helper digest mismatch"⟩

/-- Writes what is left of an image; every write takes at least one byte. -/
def copyRest (file : Nat) (bytes : Bytes) : Nat → Nat → HelperScript Unit
  | 0, _ => pure ()
  | fuel + 1, offset =>
      if offset < bytes.length then do
        let count : Nat ← ask (.append file ((bytes.drop offset).take 65536))
        copyRest file bytes fuel (offset + count)
      else pure ()

def copyImage (file : Nat) (image : SealedImage) : HelperScript Unit :=
  copyRest file image.bytes image.bytes.length 0

def linkTemp (temp cached : HelperName) : HelperScript Unit := do
  match ← (ask (.hardLink temp cached)).attempt with
  | .ok _ => pure ()
  | .error error =>
      if error.kind = .alreadyExists then pure ()
      else do
        let _ ← (ask (.removeFile temp)).attempt
        Io.throw error

def installCachedHelper (image : SealedImage) (handle : Handle) : HelperScript Unit := do
  let present : Bool ← ask (.tryExists (.cached image.sha256))
  if present then do
    let _ ← validateCachedHelper image.sha256
    pure ()
  else do
    let temp := .temp image.sha256 handle
    let file ← ask (.createNew temp)
    copyImage file image
    ask (.syncAll file)
    linkTemp temp (.cached image.sha256)
    ask (.removeFile temp)
    let _ ← validateCachedHelper image.sha256
    pure ()

end Installing

section Cleaning

def isDigestName (name : String) : Bool :=
  name.length == 64 &&
    name.toList.all fun c => c.isDigit || ('a' ≤ c && c ≤ 'f') || ('A' ≤ c && c ≤ 'F')

def cleanupEntry (name : String) : HelperScript Unit := do
  match ← (ask (.linkCount (.cached name))).attempt with
  | .error _ => pure ()
  | .ok (links : Nat) =>
      if links = 1 then do
        let _ ← (ask (.removeFile (.cached name))).attempt
        pure ()
      else pure ()

def cleanupEntries : List String → HelperScript Unit
  | [] => pure ()
  | name :: rest => do
      if isDigestName name then cleanupEntry name else pure ()
      cleanupEntries rest

def cleanupUnreferencedHelperSnapshots : HelperScript Unit := do
  match ← (ask .readCache).attempt with
  | .error _ => pure ()
  | .ok names => cleanupEntries (names.take 128)

end Cleaning

section Pinning

/-- The lock is given back however its scope is left. -/
def withCacheLock (script : HelperScript Unit) : HelperScript Unit := do
  let result ← script.attempt
  Io.ask (L := helperLayout) (E := helperOutside) (.unlock .cacheLock)
  Io.ofExcept result

def cacheUnchanged (validated : Except IoError FileVersion) (sha256 : String) :
    HelperScript Bool :=
  match validated with
  | .error _ => pure false
  | .ok validated => do
      match ← (ask (.stat (.cached sha256))).attempt with
      | .error _ => pure false
      | .ok current => pure (sameFileVersion validated current)

def pinInterpreter (interpreter : SealedImage) (handle : Handle) : HelperScript Unit := do
  unavailable ("cannot cache delivery helper interpreter for " ++ handle)
    (installCachedHelper interpreter handle)
  unavailable ("cannot pin delivery helper interpreter for " ++ handle)
    (ask (.hardLink (.cached interpreter.sha256) (.interpreter handle)))

def pinConfiguredInterpreter (helper : ConfiguredHelper) (handle : Handle) : HelperScript Unit :=
  match helper.interpreter with
  | none => pure ()
  | some interpreter => pinInterpreter interpreter handle

def pinExecutable (helper : ConfiguredHelper) (handle : Handle) : HelperScript Unit := do
  unavailable ("cannot pin delivery helper for " ++ handle)
    (ask (.hardLink (.cached helper.executable.sha256) (.helper handle)))
  cleanupUnreferencedHelperSnapshots
  unavailable ("cannot persist delivery helper binding for " ++ handle)
    (ask (.syncDirectory handle))

def pinLocked (helper : ConfiguredHelper) (handle : Handle)
    (validated : Except IoError FileVersion) : HelperScript Unit := do
  let unchanged ← cacheUnchanged validated helper.executable.sha256
  if unchanged then pure ()
  else do
    unavailable ("cannot cache delivery helper for " ++ handle)
      (installCachedHelper helper.executable handle)
  pinConfiguredInterpreter helper handle
  pinExecutable helper handle

/-- The interpreter as the record of the handle names it. -/
def resolveInterpreter (interpreter : Option SealedImage) (handle : Handle) :
    HelperScript (Option InterpreterProvenance) :=
  match interpreter with
  | none => pure none
  | some interpreter => do
      let path ← unavailable ("cannot resolve pinned delivery helper interpreter for " ++ handle)
        (ask (.canonicalize (.interpreter handle)))
      pure (some ⟨path, interpreter.sha256⟩)

def pinToHandle (helper : ConfiguredHelper) (handle : Handle) : HelperScript HelperBinding := do
  unavailable "cannot create delivery helper cache" (ask .createCacheDir)
  let validated ← (validateCachedHelper helper.executable.sha256).attempt
  unavailable "cannot lock delivery helper cache"
    (Io.ask (L := helperLayout) (E := helperOutside) (.lock .cacheLock))
  withCacheLock (pinLocked helper handle validated)
  let path ← unavailable ("cannot resolve pinned delivery helper for " ++ handle)
    (ask (.canonicalize (.helper handle)))
  let version ← unavailable ("cannot inspect pinned delivery helper for " ++ handle)
    (ask (.stat path))
  let interpreter ← resolveInterpreter helper.interpreter handle
  let environmentSha256 ← ask (.persistEnvironment handle)
  pure ⟨path, version, helper.executable.sha256, environmentSha256, interpreter⟩

end Pinning

/-- `remove_dir_all` over what it finds. -/
def removeAll : List HelperName → HelperScript Unit
  | [] => pure ()
  | name :: rest => do
      let _ ← (ask (.removeFile name)).attempt
      removeAll rest

/-- The launcher's own removal of a directory, after which it reports what went wrong. -/
def giveUp {α : Type} (handle : Handle) (error : IoError) : HelperScript α := do
  match ← (ask (.readHandle handle)).attempt with
  | .ok names =>
      removeAll names
      Io.throw error
  | .error _ => Io.throw error

/-- One launch: its handle is drawn, pinned and recorded, or given up. -/
structure Launch where
  helper : ConfiguredHelper
  handle : Handle

def Launch.script (launch : Launch) : HelperScript Unit := do
  ask (.createHandle launch.handle)
  match ← (pinToHandle launch.helper launch.handle).attempt with
  | .ok binding => ask (.record launch.handle binding)
  | .error error => giveUp launch.handle error

def Launch.program (launch : Launch) : Program (requests helperLayout helperOutside) :=
  launch.script.program fun
    | .ok _ => 0
    | .error _ => 1

def helperSystem : System (requests helperLayout helperOutside) HelperDisk :=
  { directory helperLayout helperOutside with Entry := Launch, entry := Launch.program }

end HelperCache

end AgentBash
