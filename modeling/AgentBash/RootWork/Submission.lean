import AgentBash.Durable.Sequential
import AgentBash.Json.Value
import AgentBash.Supervisor.Terminal

/-!
# Submitting original work to the root

`submit_inner` of `root_work.rs` with everything that decides what it answers. The outside is a
record of what each fallible step answers; a step changes nothing but the handle's terminal
record and the number of bytes of the work frame that have left.
-/

namespace AgentBash

set_option autoImplicit false

open Durable

inductive StartupOutcome
  | running | registrationOutcomeUnknown | rootAccepted | rootEffectsPossibleNoReplay
  deriving DecidableEq, Repr

namespace RootWork

def protocol : String := "original-work-v1"

def rootProtocol : String := "root-authority-v1"

def legacyControlProtocol : String := "stream-control-v1"

def sourceControlProtocol : String := "source-control-v2"

def rootWorkIdEnv : String := "OULIPOLY_ROOT_WORK_ID"

def rootParentCapabilityEnv : String := "OULIPOLY_ROOT_PARENT_CAPABILITY_V1"

def maxResponseBytes : Nat := 64 * 1024

def maxWorkFrameBytes : Nat := 64 * 1024

section Messages

structure ProcessIdentity where
  pid : Int
  bootId : String
  starttimeTicks : Nat
  deriving DecidableEq, Repr

structure RootAuthorityGrant where
  protocol : String
  controlProtocol : String := legacyControlProtocol
  completionProtocol : String
  domainId : String
  supervisorAuthorityId : String
  rootId : String
  capability : String
  rootIdentity : ProcessIdentity
  guardianIdentity : ProcessIdentity
  deriving DecidableEq, Repr

inductive WorkRegistration
  | root
  | nested (parentWorkId parentCapability : String)
  deriving DecidableEq, Repr

structure WorkSubmission where
  protocol : String
  rootAuthority : RootAuthorityGrant
  workId : String
  requestSha256 : String
  registration : WorkRegistration
  cancelCapability : String
  deriving DecidableEq, Repr

structure WorkResponse where
  protocol : String
  workId : String
  status : String
  rootId : String
  supervisorAuthorityId : String
  workerIdentity : Option ProcessIdentity := none
  detail : Option String := none
  deriving DecidableEq, Repr

structure EnvironmentEntry where
  key : Bytes
  value : Bytes
  deriving DecidableEq, Repr

inductive CompletionScope
  | tree | root
  deriving DecidableEq, Repr

def CompletionScope.text : CompletionScope → String
  | .tree => "tree"
  | .root => "root"

structure WorkIntent where
  protocol : String
  workId : String
  rootId : String
  domainId : String
  controlProtocol : String
  rootIdentity : Option ProcessIdentity
  rootEndpoint : Bytes
  supervisorAuthorityId : String
  guardianIdentity : ProcessIdentity
  cancelCapability : String
  handle : String
  stateRoot : String
  record : Meta
  argv : List String
  completionScope : String
  readySentinel : Option String
  registrationAuthority : Option Bytes
  environment : List EnvironmentEntry
  cancelOwner : Option ProcessIdentity

/-- The fields of a diagnostic record that the submission chooses. -/
structure Diagnostic where
  phase : String
  rootId : Option String
  supervisorAuthorityId : Option String
  workerPid : Option Int := none
  workerStarttimeTicks : Option Nat := none
  detail : Option String := none
  deriving DecidableEq, Repr

inductive SourceScope
  | root
  | nested (parentWorkId : String)
  deriving DecidableEq, Repr

structure ProcessWitness where
  hostPid : Int
  bootId : String
  starttimeTicks : Nat
  deriving DecidableEq, Repr

structure SourceSocketWitness where
  rootId : String
  domainId : String
  supervisorId : String
  guardian : ProcessWitness
  source : ProcessWitness
  scope : SourceScope
  delegatedRootHRequestId : Option String
  deriving DecidableEq, Repr

end Messages

section Environment

/-- What the kernel offers as a random identifier: 32 digits once its dashes are gone. -/
structure Uuid where
  digits : List Char
  length : digits.length = 32

/-- A file that is replaced: success means that it was. -/
structure Replacement where
  result : Except IoError Unit
  replaced : Bool
  replaced_of_ok : result = .ok () → replaced = true

/-- What the submission is called with: the record of a handle that was just created. -/
structure SubmitRequest where
  handle : String
  stateRoot : String
  record : Meta
  cancelOwner : Option ProcessIdentity := none
  argv : List String
  completionScope : CompletionScope
  readySentinel : Option String
  registrationAuthority : Option Bytes
  unfinished : terminal record = false

/-- Everything outside the submission: its environment variables, what the system answers to
each of its steps, the bytes of the root's reply, and how messages are encoded. -/
structure SubmitEnvironment where
  endpoint : Option Bytes
  grant : Except IoError RootAuthorityGrant
  parentWorkId : Option String
  parentCapability : Option String
  environment : List EnvironmentEntry
  delegatedRootHRequestId : Option String
  randomUuid : Nat → Except IoError Uuid
  encodeIntent : WorkIntent → Except IoError Bytes
  encodeSubmission : WorkSubmission → Except IoError Bytes
  hexDigest : Bytes → String
  decodeResponse : Bytes → Except IoError WorkResponse
  writeIntent : Bytes → Except IoError Unit
  appendDiagnostic : Diagnostic → Except IoError Unit
  openExecutable : Except IoError Unit
  openRequest : Except IoError Unit
  openCwd : Except IoError Unit
  openStateDir : Except IoError Unit
  connect : Bytes → Except IoError Unit
  authenticatePeer : ProcessIdentity → Except IoError Unit
  hostObservedSource : Except IoError ProcessWitness
  verifySourceSocket : SourceSocketWitness → Except IoError Unit
  sendFirst : Except IoError Unit
  writtenBeforeError : Option (Nat × IoError)
  shutdownWrite : Except IoError Unit
  reply : Nat → Except IoError UInt8
  lockCompletion : Except IoError Unit
  readRecord : Except IoError Unit
  readDeliveryMode : Except IoError DeliveryMode
  stamp : Stamp
  writeRc : Except IoError Unit
  writeRecord : Replacement

/-- The record of the handle, its status file and how much of the work frame has left. -/
structure SubmitWorld where
  record : Option Meta
  rc : Option Int := none
  sent : Nat := 0
  deriving DecidableEq

end Environment

abbrev Submit (α : Type) := Sequential SubmitWorld α

variable (env : SubmitEnvironment)

section Failure

open Sequential

def appendDiagnostic (diagnostic : Diagnostic) : Submit Unit :=
  ofExcept (env.appendDiagnostic diagnostic)

/-- A diagnostic whose own failure changes nothing. -/
def noteDiagnostic (diagnostic : Diagnostic) : Submit Unit := do
  let _ ← (appendDiagnostic env diagnostic).attempt
  pure ()

def readRecord : Submit Meta := do
  ofExcept env.readRecord
  match (← get).record with
  | some record => pure record
  | none => throw ⟨.notFound, "No such file or directory"⟩

def readRecordOr (initial : Meta) : Submit Meta := do
  match ← (readRecord env).attempt with
  | .ok record => pure record
  | .error _ => pure initial

def writeRcAtomic (rc : Int) : Submit Unit := do
  ofExcept env.writeRc
  modify fun world => { world with rc := some rc }

def persisted (record : Meta) : Meta :=
  match env.readDeliveryMode with
  | .ok mode => { record with deliveryMode := mode }
  | .error _ => record

def writeRecordAtomic (record : Meta) : Submit Unit := do
  modify fun world =>
    if env.writeRecord.replaced then { world with record := some (persisted env record) } else world
  ofExcept env.writeRecord.result

def recordRootPreacceptFailure (initial : Meta) (detail : String) : Submit Unit := do
  ofExcept env.lockCompletion
  let record ← readRecordOr env initial
  if terminal record then pure ()
  else do
    writeRcAtomic env exSoftware
    writeRecordAtomic env (applySupervisorErrorMetadata record
      ("root original-work failed before acceptance: " ++ detail) env.stamp)

def grantDiagnostic (grant : Option RootAuthorityGrant) (phase : String) (detail : String) :
    Diagnostic where
  phase := phase
  rootId := grant.map (·.rootId)
  supervisorAuthorityId := grant.map (·.supervisorAuthorityId)
  detail := some detail

/-- `preaccept_failure`: the handle becomes terminal before the error is handed on. -/
def preacceptFailure {α : Type} (request : SubmitRequest) (error : IoError) : Submit α := do
  noteDiagnostic env (grantDiagnostic env.grant.toOption "preaccept_failed" error.detail)
  let _ ← (recordRootPreacceptFailure env request.record error.detail).attempt
  throw error

def preaccept {α : Type} (request : SubmitRequest) (result : Except IoError α) : Submit α :=
  match result with
  | .ok value => pure value
  | .error error => preacceptFailure env request error

/-- A preaccept failure with a diagnostic of its own. -/
def preacceptNoted {α : Type} (request : SubmitRequest) (grant : RootAuthorityGrant)
    (phase : String) (detail : IoError → String) (result : Except IoError α) : Submit α :=
  match result with
  | .ok value => pure value
  | .error error => do
      noteDiagnostic env (grantDiagnostic (some grant) phase (detail error))
      preacceptFailure env request error

end Failure

section Preparation

def nonEmpty (value : Option String) : Option String := value.filter fun text => !text.isEmpty

def controlRoute (protocol : String) : Except IoError Unit :=
  if protocol = legacyControlProtocol ∨ protocol = sourceControlProtocol then .ok ()
  else .error (.other "unsupported root control protocol")

def requireEndpoint : Except IoError Bytes :=
  match env.endpoint with
  | some endpoint => .ok endpoint
  | none => .error (.other "root endpoint missing; original work was not dispatched")

def requireRootProtocol (grant : RootAuthorityGrant) : Except IoError Unit :=
  if grant.protocol = rootProtocol then .ok ()
  else .error (.other "unsupported root authority protocol")

/-- Causal-parent authority is inherited whole or not at all. -/
def registrationMode : Except IoError WorkRegistration :=
  match nonEmpty env.parentWorkId, nonEmpty env.parentCapability with
  | some parentWorkId, some parentCapability => .ok (.nested parentWorkId parentCapability)
  | none, none => .ok .root
  | _, _ => .error (.other "incomplete inherited causal-parent authority")

def inheritedEnvironment : List EnvironmentEntry :=
  env.environment.filter fun entry =>
    entry.key ≠ rootWorkIdEnv.toUTF8.toList && entry.key ≠ rootParentCapabilityEnv.toUTF8.toList

/-- Identifiers are read until there are 64 digits. -/
def drawCapability (drawn : Nat) (value : List Char) : Except IoError (List Char) :=
  if value.length < 64 then do
    let uuid ← env.randomUuid drawn
    drawCapability (drawn + 1) (value ++ uuid.digits)
  else .ok (value.take 64)
termination_by 64 - value.length
decreasing_by
  have digits := uuid.length
  simp only [List.length_append]
  omega

def newCapability : Except IoError String :=
  (drawCapability env 0 []).map String.ofList

def workIntent (request : SubmitRequest) (endpoint : Bytes) (grant : RootAuthorityGrant)
    (cancelCapability : String) : WorkIntent where
  protocol := protocol
  workId := request.handle
  rootId := grant.rootId
  domainId := grant.domainId
  controlProtocol := grant.controlProtocol
  rootIdentity := some grant.rootIdentity
  rootEndpoint := endpoint
  supervisorAuthorityId := grant.supervisorAuthorityId
  guardianIdentity := grant.guardianIdentity
  cancelCapability := cancelCapability
  handle := request.handle
  stateRoot := request.stateRoot
  record := request.record
  argv := request.argv
  completionScope := request.completionScope.text
  readySentinel := request.readySentinel
  registrationAuthority := request.registrationAuthority
  environment := inheritedEnvironment env
  cancelOwner := request.cancelOwner

def initiated (grant : RootAuthorityGrant) : Diagnostic where
  phase := "initiated"
  rootId := some grant.rootId
  supervisorAuthorityId := some grant.supervisorAuthorityId

/-- The executable, the intent, the working directory and the state directory. -/
def pinDescriptors : Except IoError Unit := do
  env.openExecutable
  env.openRequest
  env.openCwd
  env.openStateDir

def workSubmission (request : SubmitRequest) (grant : RootAuthorityGrant) (intentBytes : Bytes)
    (registration : WorkRegistration) (cancelCapability : String) : WorkSubmission where
  protocol := protocol
  rootAuthority := grant
  workId := request.handle
  requestSha256 := env.hexDigest intentBytes
  registration := registration
  cancelCapability := cancelCapability

def workFrame (submission : WorkSubmission) : Except IoError Bytes := do
  let encoded ← env.encodeSubmission submission
  pure ("work!\n".toUTF8.toList ++ encoded ++ [10])

def boundedFrame (frame : Bytes) : Except IoError Unit :=
  if maxWorkFrameBytes ≤ frame.length then
    .error (.other "root work frame exceeds bounded size")
  else .ok ()

def sourceScope : WorkRegistration → SourceScope
  | .root => .root
  | .nested parentWorkId _ => .nested parentWorkId

def delegatedRequest : SourceScope → Option String
  | .root => env.delegatedRootHRequestId
  | .nested _ => none

/-- The guardian's pid has to fit the broker's 32 bits. -/
def hostPid (guardian : ProcessIdentity) : Except IoError Int :=
  if -2 ^ 31 ≤ guardian.pid ∧ guardian.pid < 2 ^ 31 then .ok guardian.pid
  else .error (.other "invalid guardian host PID")

def authenticateSource (grant : RootAuthorityGrant) (scope : SourceScope) : Except IoError Unit := do
  let source ← env.hostObservedSource
  let guardianPid ← hostPid grant.guardianIdentity
  env.verifySourceSocket
    { rootId := grant.rootId
      domainId := grant.domainId
      supervisorId := grant.supervisorAuthorityId
      guardian :=
        ⟨guardianPid, grant.guardianIdentity.bootId, grant.guardianIdentity.starttimeTicks⟩
      source := source
      scope := scope
      delegatedRootHRequestId := delegatedRequest env scope }

def authenticateControl (grant : RootAuthorityGrant) (scope : SourceScope) : Except IoError Unit :=
  if grant.controlProtocol = legacyControlProtocol then env.authenticatePeer grant.guardianIdentity
  else if grant.controlProtocol = sourceControlProtocol then authenticateSource env grant scope
  else .error (.other "unsupported root control protocol")

end Preparation

section Reply

/-- The reply ends with a newline, within the bound of a frame. -/
def readFrame : Nat → Bytes → Except IoError Bytes
  | 0, _ => .error (.other "root response exceeds bounded frame")
  | remaining + 1, bytes => do
      let byte ← env.reply bytes.length
      if byte = 10 then pure bytes else readFrame remaining (bytes ++ [byte])

def readResponse : Except IoError WorkResponse := do
  let bytes ← readFrame env maxResponseBytes []
  env.decodeResponse bytes

def validateResponse (response : WorkResponse) (submission : WorkSubmission) :
    Except IoError Unit :=
  if response.protocol ≠ protocol ∨ response.workId ≠ submission.workId ∨
      response.rootId ≠ submission.rootAuthority.rootId ∨
      response.supervisorAuthorityId ≠ submission.rootAuthority.supervisorAuthorityId then
    .error (.other "root original-work response identity conflict")
  else if response.status = "accepted" ∧ response.workerIdentity = none then
    .error (.other "accepted original work has no exact worker identity")
  else .ok ()

inductive SubmitResponseDisposition
  | accepted | rejectedPreaccept | effectsPossibleNoReplay
  deriving DecidableEq, Repr

/-- Once the request was transferred no unrecognized reply makes a replay safe. -/
def submitResponseDisposition (response : WorkResponse) (submission : WorkSubmission) :
    SubmitResponseDisposition :=
  match validateResponse response submission with
  | .error _ => .effectsPossibleNoReplay
  | .ok _ =>
      if response.status = "accepted" ∨ response.status = "already_accepted_no_replay" then
        .accepted
      else if response.status = "rejected_preaccept" then .rejectedPreaccept
      else .effectsPossibleNoReplay

def responseDiagnostic (grant : RootAuthorityGrant) (response : WorkResponse) (phase : String)
    (detail : Option String) : Diagnostic where
  phase := phase
  rootId := some grant.rootId
  supervisorAuthorityId := some grant.supervisorAuthorityId
  workerPid := response.workerIdentity.map (·.pid)
  workerStarttimeTicks := response.workerIdentity.map (·.starttimeTicks)
  detail := detail

end Reply

section Submission

open Sequential

/-- The first byte carries the descriptors; the rest of the frame may stop half way. -/
def sendWithFds (frame : Bytes) : Submit Unit := do
  ofExcept env.sendFirst
  match env.writtenBeforeError with
  | none => modify fun world => { world with sent := frame.length }
  | some (written, error) => do
      modify fun world => { world with sent := 1 + min written (frame.length - 1) }
      throw error

def halfClose (grant : RootAuthorityGrant) : Except IoError Unit :=
  if grant.controlProtocol = sourceControlProtocol then env.shutdownWrite else .ok ()

def effectsPossible (grant : RootAuthorityGrant) (detail : String) : Submit StartupOutcome := do
  noteDiagnostic env (grantDiagnostic (some grant) "acceptance_outcome_unknown" detail)
  pure .rootEffectsPossibleNoReplay

def noteIdentityConflict (grant : RootAuthorityGrant) (response : WorkResponse) :
    Except IoError Unit → Submit Unit
  | .ok _ => pure ()
  | .error error =>
      noteDiagnostic env
        (responseDiagnostic grant response "response_identity_conflict" (some error.detail))

def settleResponse (request : SubmitRequest) (submission : WorkSubmission)
    (response : WorkResponse) : Submit StartupOutcome := do
  let grant := submission.rootAuthority
  noteIdentityConflict env grant response (validateResponse response submission)
  noteDiagnostic env (responseDiagnostic grant response response.status response.detail)
  match submitResponseDisposition response submission with
  | .accepted => pure .rootAccepted
  | .rejectedPreaccept =>
      preacceptFailure env request (.other (response.detail.getD response.status))
  | .effectsPossibleNoReplay => pure .rootEffectsPossibleNoReplay

/-- From the first byte on, only the root's own answer decides. -/
def transmit (request : SubmitRequest) (submission : WorkSubmission) (frame : Bytes) :
    Submit StartupOutcome := do
  let grant := submission.rootAuthority
  match ← (sendWithFds env frame).attempt with
  | .error error => effectsPossible env grant error.detail
  | .ok _ =>
      match halfClose env grant with
      | .error _ => effectsPossible env grant "root frame half-close failed; replay forbidden"
      | .ok _ =>
          match readResponse env with
          | .error _ => effectsPossible env grant "root reply lost; replay forbidden"
          | .ok response => settleResponse env request submission response

def submitInner (request : SubmitRequest) : Submit StartupOutcome := do
  let endpoint ← preaccept env request (requireEndpoint env)
  let grant ← preaccept env request env.grant
  preaccept env request (requireRootProtocol grant)
  preaccept env request (controlRoute grant.controlProtocol)
  let registration ← preaccept env request (registrationMode env)
  -- The only step ahead of the transfer whose error does not pass `preacceptFailure`.
  let cancelCapability ← ofExcept (newCapability env)
  let intentBytes ← preaccept env request
    (env.encodeIntent (workIntent env request endpoint grant cancelCapability))
  preacceptNoted env request grant "intent_persist_failed_preaccept" (·.detail)
    (env.writeIntent intentBytes)
  preaccept env request (env.appendDiagnostic (initiated grant))
  preacceptNoted env request grant "descriptor_pin_failed_preaccept" (·.detail)
    (pinDescriptors env)
  let submission := workSubmission env request grant intentBytes registration cancelCapability
  preacceptNoted env request grant "transport_failed_preaccept"
    (fun _ => "root endpoint connect failed") (env.connect endpoint)
  let frame ← preaccept env request (workFrame env submission)
  preaccept env request (boundedFrame frame)
  preacceptNoted env request grant "peer_identity_rejected_preaccept" (·.detail)
    (authenticateControl env grant (sourceScope registration))
  transmit env request submission frame

end Submission

end RootWork

end AgentBash
