import AgentBash.Retention.Release

/-!
# The reaper

`reap_state_entry` takes the three locks of a handle without waiting for its users and then
asks one veto after the other. Whatever cannot be read is a veto.
-/

namespace AgentBash

set_option autoImplicit false

open Durable

def rootWorkProtocol : String := "original-work-v1"

namespace EvidenceFile

def accepted : String := "root-work-accepted-v1.json"
def result : String := "root-work-result-v1.json"
def metaJson : String := "meta.json"
def physicalCustody : String := "physical-custody"
def externalTransferCustody : String := "external-transfer-custody"

end EvidenceFile

structure ReapConfig where
  ttlSecs : Nat
  nowUnixMs : Nat
  deriving DecidableEq, Repr

/-- `secs_to_ms` saturates. -/
def ReapConfig.ttlMs (config : ReapConfig) : Nat := min (config.ttlSecs * 1000) (2 ^ 64 - 1)

section Boot

def isHexDigit (byte : UInt8) : Bool :=
  (48 ≤ byte && byte ≤ 57) || (97 ≤ byte && byte ≤ 102) || (65 ≤ byte && byte ≤ 70)

/-- A UUID: 36 bytes, four of them dashes. -/
def validBootId (id : String) : Bool :=
  let bytes := utf8 id
  bytes.length == 36 && bytes.zipIdx.all fun (byte, index) =>
    if index == 8 || index == 13 || index == 18 || index == 23 then byte == 45
    else isHexDigit byte

/-- A reboot ends the whole former tree; whatever is not known to be from another boot may
still be custody. -/
def custodyMayRemain (marker : Node) (boot : String) : Bool :=
  match marker.read with
  | .ok file =>
      match readUtf8 file.bytes with
      | some recorded => !validBootId recorded || !validBootId boot || recorded == boot
      | none => true
  | .error error => error.kind != .notFound

def physicalCustodyMayRemain (dir : StateDirectory) (boot : String) : Bool :=
  custodyMayRemain (dir.entry EvidenceFile.physicalCustody) boot ||
    custodyMayRemain (dir.entry EvidenceFile.externalTransferCustody) boot

end Boot

section Acceptance

variable [Codec]

/-- `ReapRegistration`: a root, or a nested work with its parent's handle. -/
inductive ReapRegistration
  | root
  | nested (parentWorkId : String)
  deriving DecidableEq, Repr

def ReapRegistration.ofValue (acceptance : Value) : Option ReapRegistration :=
  let registration := acceptance.get "registration"
  match (registration.get "kind").asStr, (registration.get "parent_work_id").asStr with
  | some "root", _ => some .root
  | some "nested", some parent => some (.nested parent)
  | _, _ => none

/-- `Path::components` of a path that begins with a name: slashes in a row are one, and a dot behind
one is none. -/
def components (path : String) : List (List Char) :=
  (path.toList.splitOn '/').filter fun part => part != [] && part != ['.']

/-- A handle name of one path component. -/
def isHandleName (name : String) : Bool :=
  name.startsWith "ab_" && (components name).length == 1

def siblingRetains : Node → Except IoError Bool
  | .absent => .ok false
  | .unreachable => .error (.other "lookup failed")
  | .directory => .ok true
  | .dangling | .link _ | .special | .regular _ => .ok false

/-- A nested handle is causal evidence for as long as its parent's directory is there. -/
def causalParentRetains (dir : StateDirectory) : Except IoError Bool := do
  let accepted := dir.entry EvidenceFile.accepted
  if ← accepted.tryExists then
    let file ← accepted.read
    if file.bytes.length ≤ maxSource then
      match (Codec.parse file.bytes).bind ReapRegistration.ofValue with
      | none => .error (.other "malformed root acceptance")
      | some .root => .ok false
      | some (.nested parent) =>
          if isHandleName parent then siblingRetains (dir.sibling parent)
          else .error (.other "invalid causal parent handle")
    else .error (.other "root acceptance exceeds retention bound")
  else .ok false

def acceptanceIsExact (handle : String) (acceptance : Value) : Bool :=
  acceptance.get "protocol" == .string rootWorkProtocol &&
    acceptance.get "work_id" == .string handle && (acceptance.get "root_id").nonemptyStr &&
    ((acceptance.get "registration").get "kind").asStr.isSome

/-- The private result discharges exactly the root that was accepted, with an empty tree. -/
def resultIsExact (handle : String) (acceptance result : Value) : Bool :=
  result.get "protocol" == .string rootWorkProtocol && result.get "work_id" == .string handle &&
    result.get "root_id" == acceptance.get "root_id" && (result.get "result_nonce").nonemptyStr &&
    result.get "physical_tree_drained" == .bool true && (result.get "outcome").nonemptyStr

def acceptedRootResultPending (dir : StateDirectory) : Except IoError Bool := do
  let accepted := dir.entry EvidenceFile.accepted
  if ← accepted.tryExists then
    let acceptance ← accepted.value
    if acceptanceIsExact dir.paths.handle acceptance then
      if (acceptance.get "registration").get "kind" == .string "root" then
        let result := dir.entry EvidenceFile.result
        if ← result.tryExists then
          let result ← result.value
          .ok (!resultIsExact dir.paths.handle acceptance result)
        else .ok true
      else .ok false
    else .ok true
  else .ok false

end Acceptance

section Record

variable [Codec]

/-- `read_meta` opens without following a link. -/
def StateDirectory.readMeta (dir : StateDirectory) : Except IoError Meta :=
  match (dir.entry EvidenceFile.metaJson).openNoFollow with
  | .error error => .error error
  | .ok none => .error (.other "Is a directory")
  | .ok (some file) =>
      match Codec.parseMeta file.bytes with
      | some record => .ok record
      | none => .error (.other "malformed record")

/-- A ready sentinel may leave its workload behind. -/
def readySentinelWorkloadMayBeRunning (record : Meta) (table : ProcessTable) (boot : String) :
    Bool :=
  record.completionReason == some .readySentinel && record.workloadRc.isNone &&
    record.workloadSignal.isNone && !(record.workloadEvidence table boot).conclusive

def metaIsReapTerminal (record : Meta) (table : ProcessTable) (boot : String) : Bool :=
  (record.state == .done || record.state == .error) && record.completedAt.isSome &&
    !readySentinelWorkloadMayBeRunning record table boot

/-- Without any recorded time the directory's own is used; without that one it is young. -/
def stateDirReapAgeMs (dir : StateDirectory) (record : Meta) (now : Nat) : Nat :=
  let reference := max (record.completedAt.getD 0) record.updatedAt
  if 0 < reference then now - reference
  else (dir.mtime.map fun mtime => now - mtime).getD 0

/-- The supervisor may still be tearing down after the custody marker went away. -/
def supervisorMayRemain (record : Meta) (table : ProcessTable) (boot : String) : Bool :=
  record.supervisorPid.isSome &&
    !processIsGoneOrReused table record.supervisorPid record.supervisorPidStarttimeTicks
      record.processBootId boot

def retentionWithheld (dir : StateDirectory) (creates : Bool) : Bool :=
  !(dir.entry SourceFile.registration).notFound &&
    match retentionReleased dir creates with
    | .ok released => !released
    | .error _ => true

/-- Every failed reading is the veto. -/
def vetoed : Except IoError Bool → Bool
  | .ok veto => veto
  | .error _ => true

def recordIsEligible (dir : StateDirectory) (config : ReapConfig) (record : Meta)
    (table : ProcessTable) (boot : String) : Bool :=
  if physicalCustodyMayRemain dir boot then false
  else if supervisorMayRemain record table boot then false
  else if stateDirReapAgeMs dir record config.nowUnixMs < config.ttlMs then false
  else if metaIsReapTerminal record table boot then
    !record.delivery.completionLifecycle.needsProgress
  else record.state == .running && metaProcessesAreGoneOrReused record table boot

def stateDirReapEligible (dir : StateDirectory) (config : ReapConfig) (table : ProcessTable)
    (boot : String) (creates : Bool) : Bool :=
  if vetoed (causalParentRetains dir) then false
  else if retentionWithheld dir creates then false
  else if vetoed (acceptedRootResultPending dir) then false
  else match dir.readMeta with
    | .error _ => false
    | .ok record => recordIsEligible dir config record table boot

/-- What each attempt to take a lock answers: the output and delivery locks may be busy. -/
structure ReapLocks where
  delivery : Except IoError Bool
  custody : Except IoError Unit
  output : Except IoError Bool

inductive ReapOutcome
  | kept
  | lockFailed
  | removed
  | vanished
  | removalFailed
  deriving DecidableEq, Repr

/-- Whether `remove_dir_all` was called at all. -/
def ReapOutcome.attempted : ReapOutcome → Bool
  | .removed | .vanished | .removalFailed => true
  | .kept | .lockFailed => false

def removeDirAll : Except IoError Unit → ReapOutcome
  | .ok _ => .removed
  | .error error => if error.kind = .notFound then .vanished else .removalFailed

/-- One entry of a reap pass; `removal` is what removing the directory answers. -/
def reapStateEntry (locks : ReapLocks) (dir : StateDirectory) (config : ReapConfig)
    (table : ProcessTable) (boot : String) (creates : Bool) (removal : Except IoError Unit) :
    ReapOutcome :=
  match locks.delivery with
  | .error _ => .lockFailed
  | .ok false => .kept
  | .ok true =>
      match locks.custody with
      | .error _ => .kept
      | .ok _ =>
          match locks.output with
          | .error _ => .lockFailed
          | .ok false => .kept
          | .ok true =>
              if stateDirReapEligible dir config table boot creates then
                removeDirAll removal
              else .kept

end Record

end AgentBash
