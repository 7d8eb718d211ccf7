import AgentBash.Continuation.OwnerBinding
import AgentBash.Continuation.Acceptance
import AgentBash.Continuation.Source
import AgentBash.Durable.Publishing
import AgentBash.Supervisor.EventLoop

/-!
# The files of source custody

The files and locks that the registration worker, the supervisor, the guardian and the recoveries of
one v2 source meet in, and what they ask of the outside. A JSON document is the value it stands for;
what is published for others to digest is its bytes. The capture of the selected output is one
request here: it may fail, and its bytes are left open.
-/

namespace AgentBash

set_option autoImplicit false

open Durable

namespace SourceCustody

/-- The fields of a record that `continuation.rs` reads. -/
structure SourceMeta where
  mode : Mode
  helperPath : String
  helperSha256 : String
  environmentSha256 : Option String
  pinnedHelper : Bool
  ownerSessionId : Option String
  ownerInvocationUuid : Option String
  deliveryMode : DeliveryMode
  rc : Option Int
  completionReason : Option CompletionReason
  cancelOwner : Option CallerChainEntry
  deriving DecidableEq

/-- What a handle's helper was pinned with: where it lies and the endpoint of its owner. -/
structure Site where
  paths : StatePaths
  endpoint : String

/-- The bytes of an outcome and of its snapshot, retained together before either is published. -/
structure SourceBundle where
  outcome : Bytes
  snapshot : Bytes
  deriving DecidableEq

inductive SourceFile
  | recoveryImage | registration | fence | registrationReceipt | confirmation | continuationLocal
  | selection | observation | output | missingOutput | sourceBundle | outcome | snapshot
  | sourceCancellation | captureError | publicationError
  deriving DecidableEq, Repr

def SourceFile.Content : SourceFile → Type
  | .recoveryImage | .output | .outcome | .snapshot => Bytes
  | .sourceBundle => SourceBundle
  | .captureError | .publicationError => String
  | .registration | .fence | .registrationReceipt | .confirmation | .continuationLocal | .selection
  | .observation | .missingOutput | .sourceCancellation => Value

instance (file : SourceFile) : DecidableEq file.Content := by
  cases file <;> unfold SourceFile.Content <;> infer_instance

inductive CustodyLock
  | launch | continuation | sourceRecovery | sourceCapture | completion
  deriving DecidableEq, Repr

abbrev custodyLayout : Layout where
  File := SourceFile
  Content := SourceFile.Content
  Lock := CustodyLock
  fileEq := inferInstance
  lockEq := inferInstance

/-- What a selection keeps of the log it pinned. -/
structure PinnedLog where
  byteLen : Nat
  device : Nat
  inode : Nat
  linkCount : Nat
  deriving DecidableEq, Repr

/-- What the registration helper answered: it was not started, or something of it was admitted. -/
inductive HelperAnswer
  | notStarted (error : IoError)
  | admitted (error : IoError)
  | response (reply : Value)
  deriving DecidableEq

inductive ExecutionGrant
  | granted | cancelled
  deriving DecidableEq, Repr

/-- Files of the directory that other parts of the program keep. -/
inductive BesideFile
  | acceptedCancel | rootWorkIntent | rootWorkAccepted | rootWorkCancel | helperEnvironment
  deriving DecidableEq, Repr

inductive CustodyOp
  | capability
  | hello
  | processIdentityIsLive (identity : CallerChainEntry)
  | canonicalDirectory
  | directoryMetadata
  | currentImage
  | uuid
  | identity
  | childIdentity (child : Nat)
  | processIdentityEvidence (identity : CallerChainEntry)
  | registrationHelper
  | readMeta
  | writeMeta (record : SourceMeta)
  | writeRc (rc : Int)
  | recordRegistrationError (detail : String)
  | recordRegistrationUnknown (detail : String)
  | sendRegistrationResult (outcome : Nat) (detail : String)
  | daemonize
  | supervisorStartup
  | awaitExecutionGrant
  | releaseWorkload (child : Nat)
  | closeLaunchGate (child : Nat)
  | waitForWorkloadRelease
  | exec
  | markerExists (file : BesideFile)
  | readBeside (file : BesideFile)
  | pinOutput
  | capture
  | loss
  | readOutput (offset : Nat)
  deriving DecidableEq

/-- The reason of a loss with what is still known of the selected log. -/
structure LossInventory where
  reason : String
  selected : Value
  observed : Value
  deriving DecidableEq

namespace CustodyOp

def Result : CustodyOp → Type
  | .capability | .hello => Value
  | .processIdentityIsLive _ | .canonicalDirectory | .waitForWorkloadRelease | .markerExists _ => Bool
  | .directoryMetadata => Nat × Nat
  | .currentImage | .readBeside _ | .capture | .readOutput _ => Bytes
  | .uuid => String
  | .identity | .childIdentity _ => CallerChainEntry
  | .processIdentityEvidence _ => ProcessIdentityEvidence
  | .registrationHelper => HelperAnswer
  | .readMeta => SourceMeta
  | .awaitExecutionGrant => ExecutionGrant
  | .pinOutput => PinnedLog
  | .loss => Option LossInventory
  | .writeMeta _ | .writeRc _ | .recordRegistrationError _ | .recordRegistrationUnknown _
  | .sendRegistrationResult _ _ | .daemonize | .supervisorStartup | .releaseWorkload _
  | .closeLaunchGate _ | .exec => Unit

end CustodyOp

/-- How the outside answers; `fail` is without an effect. -/
inductive CustodyChoice
  | agree
  | decline
  | fail (error : IoError)
  | value (value : Value)
  | text (text : String)
  | bytes (bytes : Bytes)
  | directory (device inode : Nat)
  | evidence (evidence : ProcessIdentityEvidence)
  | helper (answer : HelperAnswer)
  | record (record : SourceMeta)
  | grant (grant : ExecutionGrant)
  | pinned (log : PinnedLog)
  | inventory (loss : Option LossInventory)
  | count (count : Nat)

/-- Incarnations do not change; a workload is released, barred or executed by its number. -/
structure CustodyWorld where
  identityOf : Nat → CallerChainEntry
  released : List Nat := []
  barred : List Nat := []
  executed : List Nat := []

abbrev CustodyDisk := Disk custodyLayout CustodyWorld

/-- A read of the published output finds at least one byte, or its end. -/
def readChunk (content : Bytes) (offset count : Nat) : Bytes :=
  (content.drop offset).take (min (count + 1) (64 * 1024))

namespace CustodyOp

/-- What an open gate answers once it can answer. -/
def gateAnswer (caller : Nat) (disk : CustodyDisk) : Option Bool :=
  if caller ∈ disk.world.released then some true
  else if caller ∈ disk.world.barred ∨
      (disk.parent caller).all (fun parent => (disk.ended parent).isSome) then some false
  else none

def perform (caller : Nat) : (op : CustodyOp) → CustodyChoice → CustodyDisk →
    Option (Except IoError op.Result × CustodyWorld)
  | .capability, .value value, disk => some (.ok value, disk.world)
  | .hello, .value value, disk => some (.ok value, disk.world)
  | .processIdentityIsLive _, .agree, disk => some (.ok true, disk.world)
  | .processIdentityIsLive _, .decline, disk => some (.ok false, disk.world)
  | .canonicalDirectory, .agree, disk => some (.ok true, disk.world)
  | .canonicalDirectory, .decline, disk => some (.ok false, disk.world)
  | .directoryMetadata, .directory device inode, disk => some (.ok (device, inode), disk.world)
  | .currentImage, .bytes bytes, disk => some (.ok bytes, disk.world)
  | .uuid, .text text, disk => some (.ok text, disk.world)
  | .identity, .agree, disk => some (.ok (disk.world.identityOf caller), disk.world)
  | .childIdentity child, .agree, disk => some (.ok (disk.world.identityOf child), disk.world)
  | .processIdentityEvidence _, .evidence evidence, disk => some (.ok evidence, disk.world)
  | .registrationHelper, .helper answer, disk => some (.ok answer, disk.world)
  | .readMeta, .record record, disk => some (.ok record, disk.world)
  | .writeMeta _, .agree, disk => some (.ok (), disk.world)
  | .writeRc _, .agree, disk => some (.ok (), disk.world)
  | .recordRegistrationError _, .agree, disk => some (.ok (), disk.world)
  | .recordRegistrationUnknown _, .agree, disk => some (.ok (), disk.world)
  | .sendRegistrationResult _ _, .agree, disk => some (.ok (), disk.world)
  | .daemonize, .agree, disk => some (.ok (), disk.world)
  | .supervisorStartup, .agree, disk => some (.ok (), disk.world)
  | .awaitExecutionGrant, .grant grant, disk => some (.ok grant, disk.world)
  | .releaseWorkload child, .agree, disk =>
      some (.ok (), { disk.world with released := child :: disk.world.released })
  | .closeLaunchGate child, .agree, disk =>
      some (.ok (), { disk.world with barred := child :: disk.world.barred })
  | .waitForWorkloadRelease, .agree, disk =>
      (gateAnswer caller disk).map fun answer => (.ok answer, disk.world)
  | .exec, .agree, disk =>
      some (.ok (), { disk.world with executed := caller :: disk.world.executed })
  | .markerExists _, .agree, disk => some (.ok true, disk.world)
  | .markerExists _, .decline, disk => some (.ok false, disk.world)
  | .readBeside _, .bytes bytes, disk => some (.ok bytes, disk.world)
  | .pinOutput, .pinned log, disk => some (.ok log, disk.world)
  | .capture, .bytes bytes, disk => some (.ok bytes, disk.world)
  | .loss, .inventory found, disk => some (.ok found, disk.world)
  | .readOutput offset, .count count, disk =>
      (disk.files SourceFile.output).map fun content =>
        (.ok (readChunk content offset count), disk.world)
  | _, _, _ => none

/-- Any request may fail without an effect. -/
def act (caller : Nat) (op : CustodyOp) (choice : CustodyChoice) (disk : CustodyDisk) :
    Option (Except IoError op.Result × CustodyWorld) :=
  match choice with
  | .fail error => if error.plain then some (.error error, disk.world) else none
  | choice => op.perform caller choice disk

end CustodyOp

abbrev custodyOutside : Surroundings custodyLayout where
  World := CustodyWorld
  Op := CustodyOp
  Result := CustodyOp.Result
  Choice := CustodyChoice
  act := CustodyOp.act
  Change := Empty
  change := nofun

abbrev CustodyScript (α : Type) := Io (requests custodyLayout custodyOutside) α

section Requests

def ask (op : CustodyOp) : CustodyScript op.Result :=
  Io.ask (L := custodyLayout) (E := custodyOutside) (.external op)

def readFile (file : SourceFile) : CustodyScript file.Content :=
  Io.read (L := custodyLayout) (E := custodyOutside) file

def createFile (file : SourceFile) (content : file.Content) : CustodyScript Unit :=
  Io.ask (L := custodyLayout) (E := custodyOutside) (.create file content)

def replaceFile (file : SourceFile) (content : file.Content) : CustodyScript Unit :=
  Io.ask (L := custodyLayout) (E := custodyOutside) (.replace file content)

def syncAll : CustodyScript Unit := Io.ask (L := custodyLayout) (E := custodyOutside) .sync

def tryExists (file : SourceFile) : CustodyScript Bool :=
  Io.tryExists (L := custodyLayout) (E := custodyOutside) file

/-- `value` of the documents, and a bounded read of the published bytes. -/
def value (file : SourceFile) : CustodyScript file.Content := readFile file

/-- `save` and the other atomic writes. -/
def save (file : SourceFile) (content : file.Content) : CustodyScript Unit :=
  Io.atomicWrite (L := custodyLayout) (E := custodyOutside) file content

def SourceFile.name : SourceFile → String
  | .recoveryImage => "agent-bash-recovery-v2"
  | .registration => "source-registration-v2.json"
  | .fence => "source-launch-v2.json"
  | .registrationReceipt => "registration-receipt-v2.json"
  | .confirmation => "registration-confirmation-v2.json"
  | .continuationLocal => "continuation-v2.json"
  | .selection => "output-selection-v2.json"
  | .observation => "source-observation-v2.json"
  | .output => "completion-output-v2.bin"
  | .missingOutput => "missing-output-observation-v2.json"
  | .sourceBundle => "completion-source-bundle-v2.json"
  | .outcome => "source-outcome-v2.json"
  | .snapshot => "completion-snapshot-v2.json"
  | .sourceCancellation => "source-cancellation-v2.json"
  | .captureError => "source-capture-error.txt"
  | .publicationError => "source-publication-error.txt"

def immutable (file : SourceFile) (content : file.Content) : CustodyScript Unit :=
  Io.immutable (L := custodyLayout) (E := custodyOutside) file
    (.other ("immutable source conflict: " ++ file.name)) content

def locked {α : Type} (name : CustodyLock) (body : CustodyScript α) : CustodyScript α :=
  Io.locked (L := custodyLayout) (E := custodyOutside) name body

def tryLocked {α : Type} (name : CustodyLock) (busy body : CustodyScript α) : CustodyScript α :=
  Io.tryLocked (L := custodyLayout) (E := custodyOutside) name busy body

def fail {α : Type} (detail : String) : CustodyScript α := Io.throw (.other detail)

/-- `ok_or_else` with an error of this text. -/
def required {α : Type} (detail : String) : Option α → CustodyScript α
  | some value => pure value
  | none => fail detail

end Requests

end SourceCustody

end AgentBash
