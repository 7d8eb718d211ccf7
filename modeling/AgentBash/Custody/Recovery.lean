import AgentBash.Custody.Publication

/-!
# Registration, supervision and recovery of a source

The processes that meet in a source directory: the registration worker with its supervisor, its
workload and its guardian, the worker of a paired root, and completion-only recoveries. No launch
operation is reachable from a recovery.
-/

namespace AgentBash

set_option autoImplicit false

open Durable

namespace SourceCustody

variable [Codec] (site : Site)

section Recovery

def recordMissingOutput : CustodyScript Unit :=
  save .publicationError
    ("original_output_capture_incomplete: original selection unavailable; registered native " ++
      "continuation retains notification duty; capture remains pending unless attributable " ++
      "permanent-loss evidence can be published\n")

/-- A failed capture is adjudicated under the same lease. -/
def recoverHoldingCapture : CustodyScript Bool := do
  match ← freeze.attempt with
  | .ok _ => pure true
  | .error captureError => do
      save .captureError captureError.detail
      recordMissingOutput
      match ← observeMissing with
      | some proof => do
          finishObservationWithOutput site proof
          pure true
      | none => pure false

def recoverOutput : CustodyScript Bool := do
  if ← tryExists .sourceBundle then do
    finishSnapshot site
    pure true
  else tryLocked .sourceCapture (pure false) (recoverHoldingCapture site)

def outputCaptured : CustodyScript Bool := do
  if ← tryExists .output then pure true else recoverOutput site

/-- Brings a retained event to its publication, or says why it is still pending. -/
def recoverEvent : CustodyScript (Option String) := do
  if ← tryExists .observation then do
    if ← outputCaptured site then do
      if ← tryExists .sourceBundle then pure none
      else do
        finishObservation site
        pure none
    else pure (some "original_output_capture_incomplete")
  else pure none

def restoreHeader : CustodyScript (Option String) := do
  if ← tryExists .observation then pure none
  else do
    if ← tryExists .selection then do
      match ← (restoreSelectedEvent site).attempt with
      | .ok _ => pure none
      | .error error => pure (some error.detail)
    else pure none

def neverLaunched : SourceObservation where
  kind := .neverLaunched
  rootWaitStatus := none
  treeDrained := true
  outputClosed := true
  readySentinel := none
  outputTrusted := true

def exSoftware : Int := 70

/-- A source that was revoked and has no outcome is completed as one that never ran. -/
def publishNeverLaunched (fence : Value) : CustodyScript Unit := do
  if fence.get "phase" = .string Phase.revokedNeverLaunched.text then do
    if ← tryExists .outcome then pure ()
    else do
      let record : SourceMeta ← ask .readMeta
      let record := { record with
        rc := some exSoftware, completionReason := some .registrationNeverLaunched }
      publish site record neverLaunched
      ask (.writeRc exSoftware)
      ask (.writeMeta record)
  else pure ()

def pendingReply (identity : Value) (reason : String) : Value :=
  (identity.set "status" (.string "pending")).set "reason" (.string reason)

/-- What stands under the published names is answered by its digests. -/
def answerSource (identity : Value) : CustodyScript Value := do
  if ← tryExists .snapshot then do
    let snapshot : Bytes ← value .snapshot
    let outcome : Bytes ← value .outcome
    let document ← parsed snapshot
    let status :=
      if (document.get "output").get "representation" = .string "missing-original-output-v1" then
        "source_output_missing"
      else "source_ready"
    pure (((identity.set "snapshot_sha256" (.string (Codec.sha256 snapshot))).set "outcome_sha256"
      (.string (Codec.sha256 outcome))).set "status" (.string status))
  else pure (identity.set "status" (.string "pending"))

def completionOnly (confirmation : Value) : Bool :=
  confirmation.get "status" == .string "exact_committed" &&
    confirmation.get "authority" == .string "completion_only" &&
    confirmation.get "registration_committed" == .bool true

/-- The confirmation is retained once the launch is decided. -/
def settleLaunch (identity confirmation : Value) : CustodyScript Bool := do
  let fence ← readFence identity
  let decided ← revokeGone fence
  if decided then do
    immutable .confirmation confirmation
    pure true
  else pure false

def recoverFenced (identity fence : Value) : CustodyScript Value := do
  match ← restoreHeader site with
  | some reason => pure (pendingReply identity reason)
  | none => do
      match ← recoverEvent site with
      | some reason => pure (pendingReply identity reason)
      | none => do
          publishNeverLaunched site fence
          if ← tryExists .sourceBundle then do
            finishSnapshot site
            answerSource identity
          else answerSource identity

def recoverSource (identity : Value) : CustodyScript Value := do
  confirmLocal "completion_only_confirmed"
  let fence : Value ← value .fence
  recoverFenced site identity fence

def pinnedRecovery (registration : Value) (image environment : Bytes) : Bool :=
  (registration.get "recovery").get "sha256" == .string (Codec.sha256 image) &&
    (registration.get "recovery").get "environment_sha256" == .string (Codec.sha256 environment)

def reconcile (confirmation : Value) : CustodyScript Value := do
  let (registration, identity) ← binding site
  Io.ofExcept (exact identity confirmation)
  if completionOnly confirmation then do
    let image : Bytes ← ask .currentImage
    let environment ← readBeside .helperEnvironment
    if pinnedRecovery registration image environment then do
      if ← locked .launch (settleLaunch identity confirmation) then
        locked .sourceRecovery (recoverSource site identity)
      else pure (pendingReply identity "registration_worker_not_proven_gone")
    else fail "pinned recovery identity conflict"
  else fail "no completion-only authority"

end Recovery

section Live

/-- What a live observer does for an event: it selects it, goes on with its publication, or
publishes it at once, as a guardian does only where there is no outcome. A new event starts a
publication of its own. -/
inductive Turn
  | select (record : SourceMeta) (kind : SourceEventKind) (observation : SourceObservation)
  | retry (record : SourceMeta) (kind : SourceEventKind) (observation : SourceObservation)
  | publish (record : SourceMeta) (kind : SourceEventKind) (observation : SourceObservation)
  | guard (kind : SourceEventKind) (observation : SourceObservation)

/-- A live observer never saw that nothing was launched. -/
def seen (kind : SourceEventKind) (observation : SourceObservation) : SourceObservation :=
  { observation with kind := .live kind }

def retrySourcePublication (record : SourceMeta) (observation : SourceObservation) :
    Progressing Bool := do
  Keeping.lift (retainEvent site record observation)
  advancePublication site record observation

/-- The guardian completes a source whose supervisor is gone. -/
def publishLost (observation : SourceObservation) : CustodyScript Unit := do
  let record : SourceMeta ← ask .readMeta
  if ← tryExists .outcome then pure ()
  else do
    publish site record observation
    ask (.writeRc (record.rc.getD exSoftware))
    ask (.writeMeta record)

/-- Failures of the publication never unwind the observer. -/
def observe : List Turn → Publication → CustodyScript Unit
  | [], _ => pure ()
  | .select record kind observation :: rest, _ => do
      let _ ← (locked .completion (selectObservedEvent site record (seen kind observation))).attempt
      observe rest {}
  | .retry record kind observation :: rest, progress => do
      let result ← (tryLocked .completion (pure (.ok false, progress))
        (retrySourcePublication site record (seen kind observation) progress)).attempt
      match result with
      | .ok (.ok _, progress) => observe rest progress
      | .ok (.error error, progress) => do
          let _ ← (save .publicationError (error.detail ++ "\n")).attempt
          observe rest progress
      | .error error => do
          let _ ← (save .publicationError (error.detail ++ "\n")).attempt
          observe rest progress
  | .publish record kind observation :: rest, progress => do
      let _ ← (locked .completion (publish site record (seen kind observation))).attempt
      observe rest progress
  | .guard kind observation :: rest, progress => do
      let _ ← (locked .completion (publishLost site (seen kind observation))).attempt
      observe rest progress

end Live

section Workload

def workloadChild : CustodyScript Unit := do
  let released : Bool ← ask .waitForWorkloadRelease
  if released then ask .exec else Io.exit 126

/-- The gate is opened only where the launch was published. -/
def releaseWorkload (child : Nat) (launchPublished : Bool) : CustodyScript Unit := do
  if launchPublished then do
    let _ ← (ask (.releaseWorkload child)).attempt
    ask (.closeLaunchGate child)
  else ask (.closeLaunchGate child)

def workloadProgram : Program (requests custodyLayout custodyOutside) :=
  workloadChild.program fun
    | .ok _ => 0
    | .error _ => 127

/-- A failure to bind the identity leaves the fence uncertain and the workload unreleased. -/
def runSupervisor (record : SourceMeta) (turns : List Turn) : CustodyScript Unit := do
  let _ ← enabled
  ask .supervisorStartup
  let child : Option Nat ← Io.spawn workloadProgram
  match child with
  | none => fail "agent-bash: spawn failed"
  | some child => do
      let launch ← (launched site child).attempt
      let _ ← (releaseWorkload child launch.isOk).attempt
      let _ ← (ask (.writeMeta record)).attempt
      observe site turns {}

def exitStatus (result : Except IoError Unit) : Nat :=
  match result with
  | .ok _ => 0
  | .error _ => 70

/-- The worker becomes the guardian of the supervisor it forks. -/
def daemonizationChild (record : SourceMeta) (turns guardian : List Turn) : CustodyScript Unit := do
  ask .daemonize
  let supervisor : Option Nat ← Io.spawn ((runSupervisor site record turns).program exitStatus)
  match supervisor with
  | none => fail "agent-bash: supervisor fork failed"
  | some supervisor => do
      let _ ← Io.ask (L := custodyLayout) (E := custodyOutside) (.wait supervisor)
      observe site guardian {}

end Workload

section Registration

/-- What the registration came to before anything was launched. -/
inductive RegistrationOutcome
  | registered
  | unprepared (detail : String)
  | unwritten (detail : String)
  | refused (detail : String)
  | unknown (detail : String)

/-- A helper that was not started leaves the registration refused, any other failure unknown. -/
def register : CustodyScript RegistrationOutcome := do
  match ← (ask .registrationHelper).attempt with
  | .error error => pure (.refused error.detail)
  | .ok (HelperAnswer.notStarted error) => pure (.refused error.detail)
  | .ok (HelperAnswer.admitted error) => pure (.unknown error.detail)
  | .ok (HelperAnswer.response reply) => do
      match ← (confirmLaunch site reply).attempt with
      | .ok _ => pure .registered
      | .error error => pure (.unknown error.detail)

def abandonAs (outcome : RegistrationOutcome) : CustodyScript RegistrationOutcome := do
  let _ ← (abandon site).attempt
  pure outcome

def registerPrepared (record : SourceMeta) : CustodyScript RegistrationOutcome := do
  match ← (ask (.writeMeta record)).attempt with
  | .error error => abandonAs site (.unwritten error.detail)
  | .ok _ => do
      match ← register site with
      | .registered => pure .registered
      | outcome => abandonAs site outcome

/-- Prepares and registers; whatever fails after the preparation abandons the fence. -/
def registerSource (record : SourceMeta) (scope : String) : CustodyScript RegistrationOutcome := do
  match ← (prepareContinuation site record scope).attempt with
  | .error error => pure (.unprepared error.detail)
  | .ok _ => registerPrepared site record

/-- The record and the parent are told on a best effort. -/
def reportRegistration (outcome : RegistrationOutcome) : CustodyScript Unit := do
  match outcome with
  | .registered | .unwritten _ => pure ()
  | .unprepared detail => do
      let detail := "prepare completion continuation: " ++ detail
      let _ ← (ask (.recordRegistrationError detail)).attempt
      ask (.sendRegistrationResult 0 detail)
  | .refused detail => do
      let _ ← (ask (.recordRegistrationError detail)).attempt
      ask (.sendRegistrationResult 0 detail)
  | .unknown detail => do
      let _ ← (ask (.recordRegistrationUnknown detail)).attempt
      ask (.sendRegistrationResult 2 "")

def registerAndStartSupervisor (record : SourceMeta) (scope : String) (turns guardian : List Turn) :
    CustodyScript Unit := do
  match ← registerSource site record scope with
  | .registered => do
      let _ ← (ask (.sendRegistrationResult 1 "")).attempt
      daemonizationChild site record turns guardian
  | outcome => do
      let _ ← (reportRegistration outcome).attempt
      Io.exit 70

/-- A paired worker supervises in the process that registered, or completes without a launch. -/
def runRootWorker (record : SourceMeta) (scope : String) (turns : List Turn) :
    CustodyScript Unit := do
  match ← registerSource site record scope with
  | .registered => do
      match ← (ask .awaitExecutionGrant).attempt with
      | .ok ExecutionGrant.granted => runSupervisor site record turns
      | _ => observe site turns {}
  | .unknown detail => do
      let _ ← (ask (.recordRegistrationUnknown detail)).attempt
      Io.exit 70
  | .unprepared detail | .unwritten detail | .refused detail => do
      let _ ← (ask (.recordRegistrationError detail)).attempt
      Io.exit 70

end Registration

/-- A process may come in as any of these at any time. -/
inductive CustodyEntry
  | worker (record : SourceMeta) (scope : String) (turns guardian : List Turn)
  | rootWorker (record : SourceMeta) (scope : String) (turns : List Turn)
  | recovery (confirmation : Value)

def CustodyEntry.program : CustodyEntry → Program (requests custodyLayout custodyOutside)
  | .worker record scope turns guardian =>
      (registerAndStartSupervisor site record scope turns guardian).program exitStatus
  | .rootWorker record scope turns => (runRootWorker site record scope turns).program exitStatus
  | .recovery confirmation =>
      (reconcile site confirmation).program fun
        | .ok _ => 0
        | .error _ => 70

abbrev custodySystem : System (requests custodyLayout custodyOutside) CustodyDisk :=
  system custodyLayout custodyOutside (CustodyEntry.program site)

end SourceCustody

end AgentBash
