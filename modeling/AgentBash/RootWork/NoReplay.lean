import AgentBash.RootWork.Submission

/-!
# No replay of work that may have had effects

Up to the first byte of the work frame every failure ends the handle; from then on only an
answer of the root that identifies itself decides between acceptance and rejection.
-/

namespace AgentBash

set_option autoImplicit false

open Durable

namespace RootWork

variable {env : SubmitEnvironment} {request : SubmitRequest} {α : Type}

/-- The writes of a terminal record succeed. -/
structure SubmitEnvironment.Records (env : SubmitEnvironment) : Prop where
  lock : env.lockCompletion = .ok ()
  rc : env.writeRc = .ok ()
  record : env.writeRecord.result = .ok ()

def Ended (world : SubmitWorld) : Prop :=
  ∃ record, world.record = some record ∧ terminal record = true

section Failure

open Sequential

/-- The world of a submission that sent this much so far. -/
def At (sent : Nat) (world : SubmitWorld) : Prop := world.sent = sent

/-- An error that the handle's record knows of, provided that it could be written. -/
def Failed (env : SubmitEnvironment) (sent : Nat) (result : Except IoError α)
    (world : SubmitWorld) : Prop :=
  (∃ error, result = .error error) ∧ At sent world ∧ (env.Records → Ended world)

theorem noteDiagnostic_ends {P : SubmitWorld → Prop} (diagnostic : Diagnostic) :
    Ends P (noteDiagnostic env diagnostic) fun result world => result = .ok () ∧ P world :=
  fun _ holds => ⟨rfl, holds⟩

theorem readRecord_ends (sent : Nat) :
    Ends (At sent) (readRecord env) fun result world =>
      At sent world ∧ ∀ record, result = .ok record → world.record = some record := by
  refine Ends.bind (Q := fun _ => At sent) (Ends.ofExcept fun _ holds => holds) (fun _ => ?_) ?_
  · refine Ends.bind Ends.get (fun world => ?_) fun _ _ known => nomatch known.1
    cases stored : world.record with
    | none =>
        refine Ends.throw fun now known => ⟨known.2, fun record same => ?_⟩
        cases same
    | some record =>
        refine Ends.pure fun now known => ⟨known.2, fun found same => ?_⟩
        obtain rfl := Except.ok.inj known.1
        rw [← Except.ok.inj same]
        exact stored
  · intro error world holds
    refine ⟨holds, fun record same => ?_⟩
    cases same

theorem readRecordOr_ends (initial : Meta) (sent : Nat) :
    Ends (At sent) (readRecordOr env initial) fun result world =>
      At sent world ∧ ∃ record, result = .ok record ∧
        (record = initial ∨ world.record = some record) := by
  refine Ends.handle (readRecord_ends sent) fun result => ?_
  cases result with
  | ok record =>
      exact Ends.pure fun _ known => ⟨known.1, record, rfl, .inr (known.2 record rfl)⟩
  | error _ => exact Ends.pure fun _ known => ⟨known.1, initial, rfl, .inl rfl⟩

theorem terminal_persisted (record : Meta) : terminal (persisted env record) = terminal record := by
  unfold persisted
  split <;> rfl

theorem writeRecordAtomic_ends (record : Meta) (sent : Nat) :
    Ends (At sent) (writeRecordAtomic env record) fun _ world =>
      At sent world ∧
        (env.writeRecord.result = .ok () → world.record = some (persisted env record)) := by
  refine Ends.bind (Q := fun _ world => At sent world ∧
    (env.writeRecord.replaced = true → world.record = some (persisted env record)))
    (Ends.modify fun world holds => ?_) (fun _ => ?_) fun _ _ known =>
      ⟨known.1, fun ok => known.2 (env.writeRecord.replaced_of_ok ok)⟩
  · split
    · exact ⟨holds, fun _ => rfl⟩
    · next kept => exact ⟨holds, fun replaced => absurd replaced kept⟩
  · exact Ends.ofExcept fun _ known =>
      ⟨known.1, fun ok => known.2 (env.writeRecord.replaced_of_ok ok)⟩

/-- With all its writes the failure record of an unfinished handle is terminal. -/
theorem recordRootPreacceptFailure_ends {initial : Meta} (unfinished : terminal initial = false)
    (detail : String) (sent : Nat) :
    Ends (At sent) (recordRootPreacceptFailure env initial detail) fun _ world =>
      At sent world ∧ (env.Records → Ended world) := by
  refine Ends.bind (Q := fun result world => At sent world ∧ result = env.lockCompletion)
    (Ends.ofExcept fun _ holds => ⟨holds, rfl⟩) (fun _ => ?_) fun error _ known =>
      ⟨known.1, fun records => nomatch known.2.trans records.lock⟩
  refine Ends.bind (Q := fun result world => At sent world ∧ ∃ record, result = .ok record ∧
      (record = initial ∨ world.record = some record))
    ((readRecordOr_ends initial sent).weaken (fun _ known => known.1) fun _ _ known => known)
    (fun record => ?_) fun _ _ known => nomatch known.2.choose_spec.1
  refine Ends.branch (fun ended => Ends.pure fun world known => ?_) fun _ => ?_
  · obtain ⟨holds, found, same, origin⟩ := known
    obtain rfl := Except.ok.inj same
    refine ⟨holds, fun _ => ?_⟩
    rcases origin with rfl | stored
    · exact absurd ended (by simp [unfinished])
    · exact ⟨record, stored, ended⟩
  · refine Ends.bind (Q := fun result world => At sent world ∧ (env.writeRc = .ok () → result = .ok ()))
      ?_ (fun _ => ?_) fun error world known =>
        ⟨known.1, fun records => nomatch known.2 records.rc⟩
    · refine Ends.bind (Q := fun result world => At sent world ∧ result = env.writeRc)
        (Ends.ofExcept fun _ known => ⟨known.1, rfl⟩) (fun _ => Ends.modify fun _ known =>
          ⟨known.1, fun _ => rfl⟩) fun error _ known => ⟨known.1, fun ok => known.2.trans ok⟩
    · refine (writeRecordAtomic_ends _ sent).weaken (fun _ known => known.1) fun _ world known =>
        ⟨known.1, fun records => ⟨_, known.2 records.record, ?_⟩⟩
      exact terminal_persisted _

theorem preacceptFailure_ends (error : IoError) (sent : Nat) :
    Ends (At sent) (preacceptFailure env request error : Submit α) (Failed env sent) := by
  refine Ends.bind (noteDiagnostic_ends _) (fun _ => ?_) fun _ _ known => nomatch known.1
  have throws (result : Except IoError Unit) : Ends (fun world => At sent world ∧
      (env.Records → Ended world)) (Sequential.throw error : Submit α) (Failed env sent) :=
    Ends.throw fun _ known => ⟨⟨error, rfl⟩, known⟩
  exact Ends.handle ((recordRootPreacceptFailure_ends request.unfinished error.detail sent).weaken
    (fun _ known => known.2) fun _ _ known => known) throws

variable {β : Type} {result : Except IoError β} {rest : β → Submit α} {start : SubmitWorld}
  {R : Except IoError α → SubmitWorld → Prop}

theorem preaccept_ok (value : β) (rest : β → Submit α) :
    preaccept env request (.ok value) >>= rest = rest value := rfl

/-- A step that passes leaves the world as it is; one that fails ends the handle. -/
theorem preaccept_bind (value : ∀ value, result = .ok value → Ends (· = start) (rest value) R)
    (failed : ∀ result world, Failed env start.sent result world → R result world) :
    Ends (· = start) (preaccept env request result >>= rest) R := by
  cases result with
  | ok found => exact value found rfl
  | error error =>
      refine Ends.bind (Q := Failed env start.sent) ((preacceptFailure_ends error start.sent).weaken
        (fun world same => congrArg SubmitWorld.sent same) fun _ _ known => known)
        (fun _ => ?_) fun error world known => failed _ _ ⟨⟨error, rfl⟩, known.2⟩
      exact fun _ impossible => nomatch impossible.1.choose_spec

theorem preacceptNoted_bind {grant : RootAuthorityGrant} {phase : String}
    {detail : IoError → String}
    (value : ∀ value, result = .ok value → Ends (· = start) (rest value) R)
    (failed : ∀ result world, Failed env start.sent result world → R result world) :
    Ends (· = start) (preacceptNoted env request grant phase detail result >>= rest) R := by
  cases result with
  | ok found => exact value found rfl
  | error error =>
      have ended : Ends (· = start)
          (preacceptNoted env request grant phase detail (Except.error error : Except IoError β))
          (Failed env start.sent) := by
        refine Ends.bind (noteDiagnostic_ends _) (fun _ => ?_) fun _ _ known => nomatch known.1
        exact (preacceptFailure_ends error start.sent).weaken
          (fun world known => congrArg SubmitWorld.sent known.2) fun _ _ known => known
      refine Ends.bind ended (fun _ => ?_) fun error world known =>
        failed _ _ ⟨⟨error, rfl⟩, known.2⟩
      exact fun _ impossible => nomatch impossible.1.choose_spec

end Failure

section Answer

/-- The reply names this submission and the root that was asked. -/
def RepliedBy (env : SubmitEnvironment) (request : SubmitRequest) (statuses : List String) : Prop :=
  ∃ grant submission response, env.grant = .ok grant ∧ submission.rootAuthority = grant ∧
    submission.workId = request.handle ∧ readResponse env = .ok response ∧
    validateResponse response submission = .ok () ∧ response.status ∈ statuses

def AcceptedByRoot (env : SubmitEnvironment) (request : SubmitRequest) : Prop :=
  RepliedBy env request ["accepted", "already_accepted_no_replay"]

def RejectedByRoot (env : SubmitEnvironment) (request : SubmitRequest) : Prop :=
  RepliedBy env request ["rejected_preaccept"]

/-- What the environment grants a submission before it asks for a capability. -/
def authority (env : SubmitEnvironment) :
    Except IoError (Bytes × RootAuthorityGrant × WorkRegistration) := do
  let endpoint ← requireEndpoint env
  let grant ← env.grant
  requireRootProtocol grant
  controlRoute grant.controlProtocol
  let registration ← registrationMode env
  pure (endpoint, grant, registration)

/-- Whoever is granted all that can draw a cancel capability as well. -/
def CapabilityDrawn (env : SubmitEnvironment) : Prop :=
  ∀ granted, authority env = .ok granted → ∃ capability, newCapability env = .ok capability

/-- What a submission answers, and what it leaves behind when it fails. -/
def Answered (env : SubmitEnvironment) (request : SubmitRequest) (start : SubmitWorld) :
    Except IoError StartupOutcome → SubmitWorld → Prop
  | .ok outcome, _ =>
      (outcome = .rootAccepted ∧ AcceptedByRoot env request) ∨
        outcome = .rootEffectsPossibleNoReplay
  | .error _, world =>
      (world.sent = 0 ∨ RejectedByRoot env request) ∧
        (env.Records → Ended world ∨ ¬ CapabilityDrawn env ∧ world = start)

theorem Answered.of_failed {start world : SubmitWorld} {sent : Nat}
    {result : Except IoError StartupOutcome} (failed : Failed env sent result world)
    (excused : sent = 0 ∨ RejectedByRoot env request) : Answered env request start result world := by
  obtain ⟨⟨error, rfl⟩, left, ended⟩ := failed
  refine ⟨?_, fun records => .inl (ended records)⟩
  rcases excused with none | rejected
  · exact .inl (left.trans none)
  · exact .inr rejected

open Sequential

variable {start : SubmitWorld} {submission : WorkSubmission} {P : SubmitWorld → Prop}

theorem effectsPossible_ends (grant : RootAuthorityGrant) (detail : String) :
    Ends P (effectsPossible env grant detail) (Answered env request start) := by
  refine Ends.bind (noteDiagnostic_ends _) (fun _ => ?_) fun _ _ known => nomatch known.1
  exact Ends.pure fun _ _ => .inr rfl

theorem disposition_valid {response : WorkResponse}
    (recognized : submitResponseDisposition response submission ≠ .effectsPossibleNoReplay) :
    validateResponse response submission = .ok () := by
  unfold submitResponseDisposition at recognized
  split at recognized
  · exact absurd rfl recognized
  · next valid => exact valid

theorem status_of_accepted {response : WorkResponse}
    (accepted : submitResponseDisposition response submission = .accepted) :
    response.status ∈ ["accepted", "already_accepted_no_replay"] := by
  unfold submitResponseDisposition at accepted
  split at accepted
  · cases accepted
  · split at accepted
    · next known => simpa using known
    · split at accepted <;> cases accepted

theorem status_of_rejected {response : WorkResponse}
    (rejected : submitResponseDisposition response submission = .rejectedPreaccept) :
    response.status ∈ ["rejected_preaccept"] := by
  unfold submitResponseDisposition at rejected
  split at rejected
  · cases rejected
  · split at rejected
    · cases rejected
    · split at rejected
      · next known => simpa using known
      · cases rejected

theorem settleResponse_ends {response : WorkResponse}
    (granted : env.grant = .ok submission.rootAuthority)
    (own : submission.workId = request.handle) (replied : readResponse env = .ok response) :
    Ends (fun _ => True) (settleResponse env request submission response)
      (Answered env request start) := by
  have identified {statuses : List String}
      (recognized : submitResponseDisposition response submission ≠ .effectsPossibleNoReplay)
      (status : response.status ∈ statuses) : RepliedBy env request statuses :=
    ⟨_, submission, response, granted, rfl, own, replied, disposition_valid recognized, status⟩
  have conflicts : Ends (fun _ => True) (noteIdentityConflict env submission.rootAuthority response
      (validateResponse response submission)) fun result _ => result = .ok () := by
    cases validateResponse response submission with
    | ok _ => exact Ends.pure fun _ _ => rfl
    | error error => exact (noteDiagnostic_ends _).weaken (fun _ holds => holds) fun _ _ known => known.1
  refine Ends.bind conflicts (fun _ => ?_) fun _ _ impossible => nomatch impossible
  refine Ends.bind (noteDiagnostic_ends _) (fun _ => ?_) fun _ _ known => nomatch known.1
  cases disposed : submitResponseDisposition response submission with
  | accepted =>
      exact Ends.pure fun _ _ =>
        .inl ⟨rfl, identified (by rw [disposed]; exact nofun) (status_of_accepted disposed)⟩
  | rejectedPreaccept =>
      have rejected : RejectedByRoot env request :=
        identified (by rw [disposed]; exact nofun) (status_of_rejected disposed)
      intro world _
      exact .of_failed (preacceptFailure_ends _ world.sent world rfl) (.inr rejected)
  | effectsPossibleNoReplay => exact Ends.pure fun _ _ => .inr rfl

theorem transmit_ends (granted : env.grant = .ok submission.rootAuthority)
    (own : submission.workId = request.handle) (frame : Bytes) :
    Ends (· = start) (transmit env request submission frame) (Answered env request start) := by
  refine Ends.handle (Q := fun _ _ => True) (fun _ _ => trivial) fun sent => ?_
  cases sent with
  | error error => exact effectsPossible_ends _ _
  | ok _ =>
      cases closed : halfClose env submission.rootAuthority with
      | error error => exact effectsPossible_ends _ _
      | ok _ =>
          cases replied : readResponse env with
          | error error => exact effectsPossible_ends _ _
          | ok response => exact settleResponse_ends granted own replied

theorem submitInner_ends (unsent : start.sent = 0) :
    Ends (· = start) (submitInner env request) (Answered env request start) := by
  have failed : ∀ (result : Except IoError StartupOutcome) world,
      Failed env start.sent result world → Answered env request start result world :=
    fun _ _ failed => .of_failed failed (.inl unsent)
  refine preaccept_bind (fun endpoint offered => ?_) failed
  refine preaccept_bind (fun grant granted => ?_) failed
  refine preaccept_bind (fun _ supported => ?_) failed
  refine preaccept_bind (fun _ routed => ?_) failed
  refine preaccept_bind (fun registration inherited => ?_) failed
  have whole : authority env = .ok (endpoint, grant, registration) := by
    simp only [authority, Bind.bind, Except.bind, offered, granted, supported, routed, inherited]
    rfl
  refine Ends.bind (Q := fun result world => result = newCapability env ∧ world = start)
    (Ends.ofExcept fun _ same => ⟨rfl, same⟩) (fun capability => ?_) fun error world known => ?_
  · refine Ends.weaken (P := (· = start)) ?_ (fun _ known => known.2) fun _ _ known => known
    refine preaccept_bind (fun intentBytes _ => ?_) failed
    refine preacceptNoted_bind (fun _ _ => ?_) failed
    refine preaccept_bind (fun _ _ => ?_) failed
    refine preacceptNoted_bind (fun _ _ => ?_) failed
    refine preacceptNoted_bind (fun _ _ => ?_) failed
    refine preaccept_bind (fun frame _ => ?_) failed
    refine preaccept_bind (fun _ _ => ?_) failed
    exact preacceptNoted_bind (fun _ _ => transmit_ends granted rfl frame) failed
  · obtain ⟨drawn, rfl⟩ := known
    refine ⟨.inl unsent, fun _ => .inr ⟨fun draws => ?_, rfl⟩⟩
    obtain ⟨capability, same⟩ := draws _ whole
    exact nomatch drawn.trans same

theorem submitInner_undrawn (undrawn : ¬ CapabilityDrawn env) (start : SubmitWorld) :
    ∃ error, submitInner env request start = (.error error, start) := by
  simp only [CapabilityDrawn, not_forall] at undrawn
  obtain ⟨granted, whole, none⟩ := undrawn
  obtain ⟨endpoint, offered, whole⟩ := ok_of_bind whole
  obtain ⟨grant, granted, whole⟩ := ok_of_bind whole
  obtain ⟨_, supported, whole⟩ := ok_of_bind whole
  obtain ⟨_, routed, whole⟩ := ok_of_bind whole
  obtain ⟨registration, inherited, _⟩ := ok_of_bind whole
  cases drawn : newCapability env with
  | ok capability => exact absurd ⟨capability, drawn⟩ none
  | error error =>
      refine ⟨error, ?_⟩
      simp only [submitInner, offered, granted, supported, routed, inherited, drawn, preaccept_ok]
      rfl

/-- What a submission owes: an error only without effects or on the root's own word, acceptance
on its word only, and a handle that has ended after every error. -/
structure NoReplay (env : SubmitEnvironment) (request : SubmitRequest) (start : SubmitWorld) :
    Prop where
  refused : ∀ error, (submitInner env request start).1 = .error error →
    (submitInner env request start).2.sent = 0 ∨ RejectedByRoot env request
  accepted : (submitInner env request start).1 = .ok .rootAccepted → AcceptedByRoot env request
  answered : ∀ outcome, (submitInner env request start).1 = .ok outcome →
    outcome = .rootAccepted ∨ outcome = .rootEffectsPossibleNoReplay
  ended : env.Records → ∀ error, (submitInner env request start).1 = .error error →
    Ended (submitInner env request start).2

/-- A submission that has sent nothing yet keeps all of this exactly where it can draw its cancel
capability, unless the handle had ended before or cannot be recorded as ended. -/
theorem submit_never_replays_iff (env : SubmitEnvironment) (request : SubmitRequest)
    (record : Option Meta) :
    NoReplay env request { record } ↔
      (env.Records → CapabilityDrawn env ∨ Ended { record }) := by
  have ends : Answered env request { record } (submitInner env request { record }).1
      (submitInner env request { record }).2 := submitInner_ends rfl _ rfl
  constructor
  · intro owes records
    by_contra neither
    obtain ⟨undrawn, unended⟩ := not_or.mp neither
    have gave : ∃ error, submitInner env request { record } = (.error error, { record }) :=
      submitInner_undrawn undrawn { record }
    obtain ⟨error, gaveUp⟩ := gave
    have ended := owes.ended records error (congrArg Prod.fst gaveUp)
    rw [gaveUp] at ended
    exact unended ended
  · intro condition
    refine ⟨fun error failed => ?_, fun accepted => ?_, fun outcome answered => ?_,
      fun records error failed => ?_⟩
    · rw [failed] at ends
      exact ends.1
    · rw [accepted] at ends
      exact ends.elim And.right fun other => nomatch other
    · rw [answered] at ends
      exact ends.imp And.left id
    · rw [failed] at ends
      rcases ends.2 records with ended | ⟨undrawn, same⟩
      · exact ended
      · rw [same]
        exact (condition records).resolve_left undrawn

/-- A root that grants everything and accepts every frame, on a host whose random identifiers
cannot be read. -/
def grantedWithoutRandomness : SubmitEnvironment where
  endpoint := some []
  grant := .ok
    { protocol := rootProtocol
      completionProtocol := ""
      domainId := "domain"
      supervisorAuthorityId := "supervisor"
      rootId := "root"
      capability := ""
      rootIdentity := ⟨2, "boot", 1⟩
      guardianIdentity := ⟨3, "boot", 1⟩ }
  parentWorkId := none
  parentCapability := none
  environment := []
  delegatedRootHRequestId := none
  randomUuid _ := .error (.other "Permission denied")
  encodeIntent _ := .ok []
  encodeSubmission _ := .ok []
  hexDigest _ := ""
  decodeResponse _ := .error (.other "EOF")
  writeIntent _ := .ok ()
  appendDiagnostic _ := .ok ()
  openExecutable := .ok ()
  openRequest := .ok ()
  openCwd := .ok ()
  openStateDir := .ok ()
  connect _ := .ok ()
  authenticatePeer _ := .ok ()
  hostObservedSource := .ok ⟨4, "boot", 1⟩
  verifySourceSocket _ := .ok ()
  sendFirst := .ok ()
  writtenBeforeError := none
  shutdownWrite := .ok ()
  reply _ := .error (.other "EOF")
  lockCompletion := .ok ()
  readRecord := .ok ()
  readDeliveryMode := .ok .async
  stamp := ⟨1, 1⟩
  writeRc := .ok ()
  writeRecord := ⟨.ok (), true, fun _ => rfl⟩

def runningRequest : SubmitRequest where
  handle := "ab_1"
  stateRoot := "/state"
  record := {}
  argv := ["true"]
  completionScope := .tree
  readySentinel := none
  registrationAuthority := none
  unfinished := rfl

theorem grantedWithoutRandomness_undrawn : ¬ CapabilityDrawn grantedWithoutRandomness := by
  intro drawn
  have granted : ∃ found, authority grantedWithoutRandomness = .ok found := ⟨_, rfl⟩
  obtain ⟨found, whole⟩ := granted
  obtain ⟨capability, same⟩ := drawn found whole
  unfold newCapability drawCapability at same
  exact nomatch same

/-- The submission gives up and leaves a handle that looks as if it were still running. -/
theorem submit_leaves_running :
    ¬ ∀ env request record, NoReplay env request { record } := by
  intro unreplayed
  have owes := unreplayed grantedWithoutRandomness runningRequest (some {})
  have gave : ∃ error, submitInner grantedWithoutRandomness runningRequest { record := some {} } =
      (.error error, { record := some {} }) :=
    submitInner_undrawn grantedWithoutRandomness_undrawn _
  obtain ⟨error, gaveUp⟩ := gave
  have ended := owes.ended ⟨rfl, rfl, rfl⟩ error (congrArg Prod.fst gaveUp)
  rw [gaveUp] at ended
  obtain ⟨record, same, finished⟩ := ended
  obtain rfl := Option.some.inj same
  cases finished

end Answer

end RootWork

end AgentBash
