import AgentBash.Delivery.Activation
import AgentBash.Delivery.Rules

/-!
# One helper for a legacy activation

Without a v2 registration the delivery lock owns the right to start a helper: whoever reads a
replayable claim under the lock knows that no helper was ever started, and a helper is only
started below a marked claim whose pending outcome takes this right away.
-/

namespace AgentBash

set_option autoImplicit false

open Durable

/-- An outcome below which a later call may still start a helper, or take the claim back. -/
def ActivationTransferOutcome.Replayable : ActivationTransferOutcome → Prop
  | .unclaimed | .claimedWithoutOutcome | .preAdmissionFailed _ => True
  | .pending | .succeeded | .failed _ | .transferOutcomeUnknown => False

def ActivationTransferState.Replayable (state : ActivationTransferState) : Prop :=
  state.mode = .sync ∨ state.outcome.Replayable

namespace ActivationOnce

abbrev View := HandleDisk × Unit

structure Attempt where
  registration : Option Unit
  mode : Option DeliveryMode
  marker : Option Unit
  outcome : Option ActivationRecord
  activations : Nat

namespace Attempt

def state (attempt : Attempt) : ActivationTransferState :=
  activationStateOf attempt.mode attempt.marker attempt.outcome

def write (attempt : Attempt) : (file : File) → Option file.Content → Attempt
  | .registration, content => { attempt with registration := content }
  | .deliveryMode, content => { attempt with mode := content }
  | .activationAttempted, content => { attempt with marker := content }
  | .activationOutcome, content => { attempt with outcome := content }
  | _, _ => attempt

/-- A helper starts as the first one, below a marked claim with a pending outcome. -/
def Starts (before after : Attempt) : Prop :=
  after.activations ≠ before.activations →
    before.marker.isSome ∧ before.outcome = some .pending ∧ after.activations = 1

end Attempt

structure Valid (attempt : Attempt) : Prop where
  legacy : attempt.registration = none
  once : attempt.activations ≤ 1
  unspent : attempt.state.Replayable → attempt.activations = 0

def attemptOf (files : (file : File) → Option file.Content) (world : World) : Attempt where
  registration := files .registration
  mode := files .deliveryMode
  marker := files .activationAttempted
  outcome := files .activationOutcome
  activations := world.activations

def owned : Owned layout outside Unit where
  name := Lock.delivery
  Resource := Attempt
  resource files world _ := attemptOf files world
  Log := Unit
  log _ _ := ()
  Valid _ := Valid
  Moves _ := Attempt.Starts
  Drops _ _ := False
  growth := .none _ _
  Depth count := count ≤ 2
  shallow := @shallow_shared
  one := shared_one
  taken valid := valid
  left valid := ⟨(), valid, .inl rfl⟩

abbrev discipline : Discipline activationSystem Unit := owned.discipline ActivationEntry.program

abbrev Fact := Attempt → Prop

abbrev Frame (pid : Nat) (F : View → Prop) : Prop := owned.Frame ActivationEntry.program pid F

abbrev Local (pid : Nat) (P : View → Prop) : Prop := owned.Local ActivationEntry.program pid P

abbrev Holds (pid : Nat) (F : View → Prop) (fact : Fact) : View → Prop := owned.Holds pid F fact

abbrev Stays (pid : Nat) (F : View → Prop) : View → Prop := owned.Stays pid F

variable {policy : System.Policy activationSystem} {pid : Nat} {α : Type} {P F F' : View → Prop}
  {fact : Fact}

theorem holds_local (frame : Frame pid F) : Local pid (Holds pid F fact) :=
  Owned.Holds.local_ frame

theorem value_put (view : View) (file : File) (content : Option file.Content) :
    owned.value (view.1.put (L := layout) file content, view.2) =
      (owned.value view).write file content := by
  cases file <;> simp [Owned.value, owned, attemptOf, Disk.put, Attempt.write]

/-- Everything but the files of the attempt and the helper that counts for it. -/
def margin : Margin where
  files file := ∀ (attempt : Attempt) content, attempt.write file content = attempt
  ops op := op ≠ .spawnHelper .activate

theorem act_activations {caller : Nat} {op : Outside} {choice : Decision} {disk : HandleDisk}
    {answer : Except IoError op.Result} {world : World} (free : margin.ops op)
    (acted : op.act caller choice disk = some (answer, world)) :
    world.activations = disk.world.activations := by
  cases op with
  | spawnHelper operation =>
      cases choice <;> simp only [Outside.act, Option.some.injEq, Prod.mk.injEq,
        reduceCtorEq] at acted
      all_goals obtain ⟨-, rfl⟩ := acted
      · cases operation with
        | activate => exact absurd rfl free
        | _ => rfl
      · rfl
  | waitHelper operation | waitHelperOutput operation =>
      cases choice <;> simp only [Outside.act, Option.some.injEq, Prod.mk.injEq,
        reduceCtorEq] at acted
      all_goals obtain ⟨-, rfl⟩ := acted
      · rfl
      · unfold World.reported
        split <;> rfl
  | _ =>
      cases choice <;> simp only [Outside.act, reduceCtorEq] at acted <;>
        (try split at acted) <;> cases acted <;> rfl

theorem blind : Blind owned margin where
  writes content view free := by
    refine ⟨?_, rfl⟩
    rw [value_put]
    exact free _ _
  asks view free acted := by
    have count := act_activations free acted
    refine ⟨?_, rfl⟩
    simp only [Owned.value, owned, attemptOf, count]

theorem custody : margin.Custody where
  marker _ _ := rfl
  cleanup _ _ := rfl
  boot := by exact nofun

theorem spectator (known : Local pid P) :
    Spectator owned.lane ActivationEntry.program margin pid P :=
  blind.spectator known

section Updates

/-- No helper was ever started. -/
def fresh : Fact := fun attempt => attempt.activations = 0

def marked : Fact := fun attempt => fresh attempt ∧ attempt.marker.isSome

def turned : Fact := fun attempt => marked attempt ∧ attempt.mode = some .async

/-- All that has to be on disk before a helper starts. -/
def claimed : Fact := fun attempt => turned attempt ∧ attempt.outcome = some .pending

theorem Valid.of_fresh {attempt : Attempt} (legacy : attempt.registration = none)
    (unspent : fresh attempt) : Valid attempt where
  legacy := legacy
  once := by
    have none : attempt.activations = 0 := unspent
    omega
  unspent _ := unspent

theorem Valid.fresh_of_sync {attempt : Attempt} (valid : Valid attempt)
    (mode : attempt.state.mode = .sync) : fresh attempt :=
  valid.unspent (.inl mode)

theorem update_of {op : Request layout outside} {file : File} {content : Option file.Content}
    {D : Fact}
    (count : ∀ attempt : Attempt, (attempt.write file content).activations = attempt.activations)
    (kept : ∀ attempt, Valid attempt → fact attempt →
      Valid (attempt.write file content) ∧ D (attempt.write file content)) :
    Update owned policy pid op file content fact D := by
  intro view _ valid known
  rw [value_put]
  obtain ⟨valid', known'⟩ := kept _ valid known
  exact ⟨fun started => absurd (count _) started, rfl, valid', trivial, known'⟩

theorem writeMode_spec (frame : Frame pid F) {mode : DeliveryMode} {D : Fact}
    (before : ∀ attempt, fact attempt → fresh attempt)
    (kept : ∀ attempt : Attempt, fact attempt → D { attempt with mode := some mode }) :
    Spec discipline policy pid (Holds pid F fact) (writeDeliveryModeAtomic mode)
      fun result => Holds pid F (updated fact D result) :=
  atomicWrite_spec blind frame (update_of (fun _ => rfl) fun attempt valid known =>
    ⟨.of_fresh valid.legacy (before attempt known), kept attempt known⟩)

theorem writeOutcome_spec (frame : Frame pid F) {outcome : ActivationRecord} {D : Fact}
    (kept : ∀ attempt, Valid attempt → fact attempt →
      Valid { attempt with outcome := some outcome } ∧ D { attempt with outcome := some outcome }) :
    Spec discipline policy pid (Holds pid F fact) (writeActivationOutcome outcome)
      fun result => Holds pid F (updated fact D result) :=
  atomicWrite_spec blind frame (update_of (fun _ => rfl) kept)

/-- An outcome that says that a helper may have run can be recorded at any time. -/
theorem writeSpent_spec (frame : Frame pid F) {outcome : ActivationRecord}
    (spent : ¬ outcome.outcome.Replayable) :
    Spec discipline policy pid (Holds pid F fact) (writeActivationOutcome outcome)
      fun _ => Stays pid F := by
  refine (writeOutcome_spec (D := fun _ => True) frame fun attempt valid _ =>
    ⟨⟨valid.legacy, valid.once, fun replayable => ?_⟩, trivial⟩).relax
      fun _ _ _ holds => holds.stays
  rcases replayable with sync | replayable
  · exact valid.fresh_of_sync sync
  · exact absurd replayable spent

theorem writePending_spec (frame : Frame pid F) :
    Spec discipline policy pid (Holds pid F turned) (writeActivationOutcome .pending)
      fun result => Holds pid F (updated turned claimed result) :=
  writeOutcome_spec frame fun _ valid known => ⟨.of_fresh valid.legacy known.1.1, known, rfl⟩

/-- A helper that was never started may be recorded as such. -/
theorem writeFresh_spec (frame : Frame pid F) {outcome : ActivationRecord} :
    Spec discipline policy pid (Holds pid F fresh) (writeActivationOutcome outcome)
      fun _ => Stays pid F :=
  (writeOutcome_spec (D := fresh) frame fun _ valid known =>
    ⟨.of_fresh valid.legacy known, known⟩).relax fun _ _ _ holds => holds.stays

theorem removeFresh_spec (frame : Frame pid F) {file : File}
    (legacy : ∀ attempt : Attempt, (attempt.write file none).registration = attempt.registration ∨
      (attempt.write file none).registration = none)
    (count : ∀ attempt : Attempt, (attempt.write file none).activations = attempt.activations) :
    Steady discipline policy pid (Holds pid F fresh) (removeOptional file) := by
  have update : Update owned policy pid (.remove file) file none fresh fresh :=
    update_of count fun attempt valid known => by
      have unspent : fresh (attempt.write file none) := (count attempt).trans known
      exact ⟨.of_fresh ((legacy attempt).elim (·.trans valid.legacy) id) unspent, unspent⟩
  refine (removeOptional_spec blind frame update fun _ _ known => known).relax
    fun result _ _ holds => holds.imp fun _ known => ?_
  cases result with
  | ok _ => exact known
  | error _ => exact known.elim id id

theorem rollbackActivationAttempt_spec (frame : Frame pid F) :
    Steady discipline policy pid (Holds pid F fresh) rollbackActivationAttempt :=
  .bind (spectator (holds_local frame)).syncDirectory fun _ =>
    removeFresh_spec frame (fun _ => .inl rfl) fun _ => rfl

end Updates

section Settlement

theorem shows : @ShowsActivation _ owned Attempt.mode Attempt.marker Attempt.outcome :=
  ⟨fun _ => rfl, fun _ => rfl, fun _ => rfl⟩

def observed (fact : Fact) : Except IoError ActivationTransferState → Fact
  | .ok state => fun attempt => fact attempt ∧ attempt.state = state
  | .error _ => fact

theorem activationTransferState_spec (frame : Frame pid F) :
    Spec discipline policy pid (Holds pid F fact) activationTransferState
      fun result => Holds pid F (observed fact result) := by
  refine (activationTransferState_reads _ _ _ shows frame).relax fun result _ _ holds => ?_
  cases result <;> exact holds

theorem repairDeliveryModeMirror_spec {mode : DeliveryMode}
    (within : owned.Section ActivationEntry.program pid Lock.completion F F') :
    Steady discipline policy pid (Holds pid F fact) (repairDeliveryModeMirror mode) := by
  have own : owned.name ≠ Lock.completion := nofun
  have known := spectator (P := Holds pid F' fact) (holds_local within.inner)
  refine lockedElsewhere_spec (Q := fun _ => fact) within own (fun _ _ known => known) ?_
  refine Steady.bind (known.readFile _) fun record => ?_
  refine Steady.branch .pure (Steady.bind ?_ fun _ => .pure)
  exact known.writeMetaAtomic (by exact fun _ _ => rfl)

theorem rollBackActivation_spec
    (within : owned.Section ActivationEntry.program pid Lock.completion F F') :
    Spec discipline policy pid (Holds pid F fresh) rollBackActivation fun _ => Stays pid F := by
  have frame := within.outer
  refine Spec.bind (writeMode_spec (D := fresh) frame (fun _ known => known)
    fun _ known => known) (fun _ => ?_) fun _ _ _ holds => holds.stays
  refine Steady.before (P := Holds pid F fresh) (repairDeliveryModeMirror_spec within)
    (fun _ => ?_) fun _ _ _ holds => holds.stays
  refine Steady.before (P := Holds pid F fresh)
    (removeFresh_spec frame (fun _ => .inl rfl) fun _ => rfl) (fun _ => ?_)
    fun _ _ _ holds => holds.stays
  exact (rollbackActivationAttempt_spec frame).relax fun _ _ _ holds => holds.stays

/-- What is rolled back was read as replayable, so no helper was started for it. -/
theorem settleOrphanedActivation_spec
    (within : owned.Section ActivationEntry.program pid Lock.completion F F') :
    Steady discipline policy pid (Stays pid F) settleOrphanedActivation := by
  have frame := within.outer
  refine Spec.bind (activationTransferState_spec frame) (fun state => ?_)
    fun _ _ _ holds => holds.stays
  obtain ⟨mode, outcome⟩ := state
  have unspent (replayable : outcome.Replayable) (view : View) (inv : discipline.Inv view)
      (holds : Holds pid F (observed (fun _ => True) (.ok ⟨mode, outcome⟩)) view) :
      Holds pid F fresh view := by
    have valid := holds.valid inv.2
    refine ⟨holds.1, holds.2.1, valid.unspent (.inr ?_)⟩
    rw [holds.2.2.2]
    exact replayable
  cases outcome with
  | claimedWithoutOutcome => exact (rollBackActivation_spec within).strengthen (unspent trivial)
  | preAdmissionFailed _ => exact (rollBackActivation_spec within).strengthen (unspent trivial)
  | pending => exact writeSpent_spec frame (by exact id)
  | _ => exact .pure fun _ _ holds => holds.stays

end Settlement

section Helper

/-- Only an attempt that never started a helper is reported as not started. -/
def unstarted : Except DeliveryHelperCommandError α → Fact
  | .error (.notStarted _) => fresh
  | _ => fun _ => True

def answered (pid : Nat) (F : View → Prop) :
    Except IoError (Except DeliveryHelperCommandError α) → View → Prop
  | .ok answer => Holds pid F (unstarted answer)
  | .error _ => Stays pid F

theorem answered_local (frame : Frame pid F)
    (result : Except IoError (Except DeliveryHelperCommandError α)) :
    Local pid (answered pid F result) := by
  cases result with
  | ok answer => exact holds_local frame
  | error _ =>
      have known : Local pid (Stays pid F) := holds_local frame
      exact known

/-- The pending outcome of a marked claim is what the count of helpers rests on. -/
theorem spawnHelper_spec (frame : Frame pid F) :
    Spec discipline policy pid (Holds pid F claimed) (outsideAsk (.spawnHelper .activate)) fun
      | .ok _ => Stays pid F
      | .error _ => Holds pid F claimed := by
  refine Lane.external (holds_local frame).stable ?_
  intro view choice answer world _ inv holds _ _ acted
  cases choice with
  | agree =>
      obtain ⟨rfl, rfl⟩ := Prod.mk.inj (Option.some.inj acted)
      obtain ⟨newest, framed, ⟨⟨unspent, present⟩, async⟩, pending⟩ := holds
      have none : view.1.world.activations = 0 := unspent
      have one : (view.1.world.spawned pid .activate).activations = 1 := by
        simp [World.spawned, none]
      have valid : Valid (owned.value
          ({ view.1 with world := view.1.world.spawned pid .activate }, ())) := by
        refine ⟨inv.valid.legacy, one.le, fun replayable => ?_⟩
        rcases replayable with sync | replayable
        · simp [Attempt.state, activationStateOf, Owned.value, owned, attemptOf] at sync async
          simp [async] at sync
        · simp [Attempt.state, activationStateOf, Owned.value, owned, attemptOf] at replayable pending
          simp [pending, ActivationRecord.outcome, ActivationTransferOutcome.Replayable] at replayable
      have moved : owned.Moved pid view
          ({ view.1 with world := view.1.world.spawned pid .activate }, ()) :=
        ⟨newest, fun _ => ⟨present, pending, one⟩, rfl⟩
      exact Owned.keeps_moved inv rfl moved valid
        ⟨newest, frame.same rfl rfl (moved.passed trivial) framed, trivial⟩
  | fail error =>
      obtain ⟨rfl, rfl⟩ := Prod.mk.inj (Option.some.inj acted)
      exact Owned.keeps_quiet inv rfl (.of_disk rfl rfl) holds
  | _ => cases acted

theorem waitRequiredDeliveryHelper_spec (frame : Frame pid F) :
    Spec discipline policy pid (Holds pid F claimed) (waitRequiredDeliveryHelper .activate)
      (answered pid F) := by
  refine Spec.handle (spawnHelper_spec frame) fun started => ?_
  cases started with
  | error _ => exact .pure fun _ _ holds => holds.imp fun _ known => known.1.1.1
  | ok _ =>
      have known : Local pid (Stays pid F) := holds_local frame
      refine Spec.handle (Q := fun _ => Stays pid F)
        ((spectator known).outsideAsk (by exact nofun)) fun output => ?_
      cases output <;> exact .pure fun _ _ holds => holds

theorem runActivate_spec (frame : Frame pid F) :
    Spec discipline policy pid (Holds pid F claimed)
      (runRequiredDeliveryHelperCommandDetailed .activate true) (answered pid F) := by
  refine Spec.bind (withExternalTransferCustody_spec custody true
    (spectator (holds_local frame)) (fun result => spectator (answered_local frame (.ok result)))
    (fun _ _ holds => holds.imp fun _ known => known.1.1.1)
    (fun _ _ _ holds => Owned.Holds.stays holds) (waitRequiredDeliveryHelper_spec frame))
    (fun answer => ?_) fun _ _ _ holds => holds
  cases answer with
  | error error => cases error <;> exact .pure fun _ _ holds => holds
  | ok output =>
      refine .pure fun view _ holds => ?_
      have stays : Stays pid F view := holds
      simp only [answered, requireHelperSuccess]
      split <;> exact stays

end Helper

section Worker

abbrev Working (pid : Nat) (fact : Fact) : View → Prop := Holds pid (fun _ => True) fact

theorem recordActivationAttempt_spec (frame : Frame pid F) :
    Spec discipline policy pid (Holds pid F fresh) recordActivationAttempt fun
      | .ok true => Holds pid F marked
      | _ => Holds pid F fresh := by
  have creates : Update owned policy pid (.create File.activationAttempted ())
      .activationAttempted (some ()) fresh marked :=
    update_of (fun _ => rfl) fun _ valid known => ⟨.of_fresh valid.legacy known, known, rfl⟩
  have removes : Update owned policy pid (.remove File.activationAttempted) .activationAttempted
      none marked fresh :=
    update_of (fun _ => rfl) fun _ valid known => ⟨.of_fresh valid.legacy known.1, known.1⟩
  have spec := recordDurableCreateOnceMarker_spec fresh fresh fresh blind frame
    (fun _ _ known => known) (fun _ _ known => known) creates removes
    (fun _ known => known) fun _ known => known.1
  refine spec.relax fun result _ _ holds => ?_
  match result with
  | .ok true => exact holds
  | .ok false => exact holds
  | .error _ => exact holds

theorem rollbackOwnClaim_spec (frame : Frame pid F) (claimed : Bool) :
    Steady discipline policy pid (Holds pid F fresh) (rollbackOwnClaim claimed) :=
  .branch (.bind (.attempt (rollbackActivationAttempt_spec frame)) fun _ => .pure) .pure

theorem runClaimedActivation_spec (frame : Frame pid F)
    (within : owned.Section ActivationEntry.program pid Lock.completion F F') :
    Spec discipline policy pid (Holds pid F turned) runClaimedActivation (answered pid F) := by
  refine Spec.handle (writePending_spec frame) fun pending => ?_
  cases pending with
  | error error =>
      refine Spec.strengthen (P := Stays pid F) ?_ fun _ _ holds => Owned.Holds.stays holds
      exact Spec.bind (settleOrphanedActivation_spec within) (fun _ => .throw fun _ _ holds => holds)
        fun _ _ _ holds => holds
  | ok _ => exact runActivate_spec frame

theorem adoptSettledActivation_spec (frame : Frame pid F) :
    Spec discipline policy pid (Holds pid F fresh) adoptSettledActivation (answered pid F) := by
  have known : Local pid (Stays pid F) := holds_local frame
  refine Spec.strengthen (P := Stays pid F) ?_ fun _ _ holds => holds.stays
  exact Spec.bind (spectator known).requireSettledActivation (fun _ => .pure fun _ _ holds => holds)
    fun _ _ _ holds => holds

theorem finishActivation_spec (frame : Frame pid F)
    (within : owned.Section ActivationEntry.program pid Lock.completion F F')
    (result : Except DeliveryHelperCommandError Unit) :
    Spec discipline policy pid (Holds pid F (unstarted result)) (finishActivation result)
      fun _ => Stays pid F := by
  match result with
  | .error (.notStarted error) =>
      refine Spec.bind (writeFresh_spec frame) (fun _ => ?_) fun _ _ _ holds => holds
      exact Spec.bind (settleOrphanedActivation_spec within) (fun _ => .throw fun _ _ holds => holds)
        fun _ _ _ holds => holds
  | .error (.admitted error) =>
      refine Spec.bind (writeSpent_spec frame (by exact id)) (fun _ => ?_) fun _ _ _ holds => holds
      exact Spec.bind (repairDeliveryModeMirror_spec within)
        (fun _ => .throw fun _ _ holds => holds) fun _ _ _ holds => holds
  | .ok _ =>
      refine Spec.bind (writeSpent_spec frame (by exact id)) (fun _ => ?_) fun _ _ _ holds => holds
      exact Spec.bind (repairDeliveryModeMirror_spec within) (fun _ => .pure fun _ _ holds => holds)
        fun _ _ _ holds => holds

/-- Marker, mode and pending outcome are on disk, in this order, before the helper starts. -/
theorem activateWorker_spec :
    Spec discipline policy pid (Working pid fresh) activateWorker fun _ => Stays pid fun _ => True := by
  have frame : Frame pid fun _ => True := .top
  have within : owned.Section ActivationEntry.program pid Lock.completion (fun _ => True)
    fun _ => True := .top
  refine Spec.bind (recordActivationAttempt_spec frame) (fun own => ?_)
    fun _ _ _ holds => Owned.Holds.stays holds
  cases own with
  | true =>
      refine Spec.handle (writeMode_spec (D := turned) frame (fun _ known => known.1)
        fun _ known => ⟨known, rfl⟩) fun written => ?_
      cases written with
      | error error =>
          refine Spec.strengthen (P := Working pid fresh) ?_ fun _ _ holds =>
            Owned.Holds.imp holds fun _ known => known.elim And.left fun known => known.1.1
          exact Steady.before (rollbackOwnClaim_spec frame true)
            (fun _ => .throw fun _ _ holds => holds.stays) fun _ _ _ holds => holds.stays
      | ok _ =>
          exact Spec.bind (runClaimedActivation_spec frame within)
            (finishActivation_spec frame within) fun _ _ _ holds => holds
  | false =>
      refine Spec.handle (writeMode_spec (D := fresh) frame (fun _ known => known)
        fun _ known => known) fun written => ?_
      cases written with
      | error error =>
          refine Spec.strengthen (P := Working pid fresh) ?_ fun _ _ holds =>
            Owned.Holds.imp holds fun _ known => known.elim id id
          exact Steady.before (rollbackOwnClaim_spec frame false)
            (fun _ => .throw fun _ _ holds => holds.stays) fun _ _ _ holds => holds.stays
      | ok _ =>
          exact Spec.bind (adoptSettledActivation_spec frame)
            (finishActivation_spec frame within) fun _ _ _ holds => holds

end Worker

section Detach

/-- The absence of a registration can be looked up. -/
def absenceShown : System.Policy activationSystem where
  call _ op choice _ := op = .read File.registration → ∀ error, choice ≠ .fault error
  kill _ _ := True
  change _ _ := True

abbrev Bottom (pid : Nat) : View → Prop := owned.Bottom pid

abbrev Free (pid : Nat) : View → Prop := owned.Free pid

theorem bottom_frame : Frame pid (Bottom pid) := Owned.Bottom.frame

theorem within_bottom : owned.Section ActivationEntry.program pid Lock.completion (Bottom pid)
    fun view => view.1.Oldest pid owned.name ∧ owned.CleanBut Lock.completion pid view :=
  Owned.Bottom.within nofun

theorem runDeliveryTransferWorkerHoldingLock_spec {operation : Script Unit}
    (worker : ∀ born, Spec discipline policy born (Working born fact) operation
      fun _ => Stays born fun _ => True) :
    Spec discipline policy pid (Holds pid (Bottom pid) fact)
      (runDeliveryTransferWorkerHoldingLock operation) fun _ => Stays pid (Bottom pid) := by
  refine Spec.bind (Owned.spawn_spec (Owned.Bottom.forkable (le_refl 2)) fun born view inv holds =>
    Owned.safe_of_spec (holds_local .top) (fun _ holds => holds.edge) (worker born) inv
      ⟨holds.1, trivial, holds.2.2⟩) (fun child => ?_) fun _ _ _ impossible => impossible.elim
  cases child with
  | none =>
      refine .throw fun view _ holds => ?_
      have free : Holds pid (Bottom pid) fact view := holds
      exact free.stays
  | some child =>
      exact Spec.bind (Owned.wait_spec bottom_frame)
        (fun _ => .ofExcept fun _ _ holds => holds) fun _ _ _ holds => holds

/-- A legacy handle is never mistaken for one with a registration. -/
theorem continuationEnabled_spec :
    Spec discipline absenceShown pid (Stays pid (Bottom pid)) continuationEnabled
      fun result view => result = .ok false ∧ Stays pid (Bottom pid) view := by
  have known : Local pid (Stays pid (Bottom pid)) := holds_local bottom_frame
  refine Spec.handle (Q := fun result view =>
    result = .error ⟨.notFound, "No such file or directory"⟩ ∧ Stays pid (Bottom pid) view)
    (Lane.readPermitted known.stable ?_ ?_ ?_) fun answer => ?_
  · intro view content inv holds present
    have absent : view.1.files File.registration = none := (holds.valid inv).legacy
    rw [absent] at present
    cases present
  · exact fun _ _ holds _ => ⟨rfl, holds⟩
  · exact fun error view _ permitted _ _ => absurd rfl (permitted rfl error)
  · cases answer with
    | ok _ => exact .pure fun _ _ holds => nomatch holds.1
    | error error =>
        refine .pure fun _ _ holds => ⟨?_, holds.2⟩
        obtain rfl : error = ⟨.notFound, "No such file or directory"⟩ := Except.error.inj holds.1
        rfl

theorem retryUncertainActivation_spec :
    Steady discipline absenceShown pid (Stays pid (Bottom pid)) retryUncertainActivation := by
  refine Spec.bind (Q := fun result view => result = .ok false ∧ Stays pid (Bottom pid) view)
    ?_ (fun uncertain => ?_) fun _ _ _ holds => holds.2
  · refine Spec.bind continuationEnabled_spec (fun enabled => .assume fun legacy => ?_)
      fun _ _ _ holds => holds
    obtain rfl := Except.ok.inj legacy
    exact .branch nofun fun _ => .pure fun _ _ holds => ⟨rfl, holds⟩
  · refine .assume fun legacy => ?_
    obtain rfl := Except.ok.inj legacy
    exact .branch nofun fun _ => .pure fun _ _ holds => holds

theorem detachHoldingLock_spec :
    Steady discipline absenceShown pid (Stays pid (Bottom pid)) detachHoldingLock := by
  have known {fact : Fact} : Local pid (Holds pid (Bottom pid) fact) := holds_local bottom_frame
  refine Steady.bind (settleOrphanedActivation_spec within_bottom) fun _ => ?_
  refine Spec.bind (activationTransferState_spec bottom_frame) (fun activation => ?_)
    fun _ _ _ holds => holds
  refine .branch (fun _ => ?_) fun sync => ?_
  · refine Spec.strengthen (P := Stays pid (Bottom pid)) ?_ fun _ _ holds => holds.stays
    refine Steady.bind retryUncertainActivation_spec fun _ => ?_
    refine Steady.bind (spectator known).requireSettledActivation fun _ => ?_
    exact Steady.bind (repairDeliveryModeMirror_spec within_bottom) fun _ => .pure
  · refine Spec.strengthen (P := Holds pid (Bottom pid) fresh) ?_ fun view inv holds => ?_
    · refine Steady.before (P := Holds pid (Bottom pid) fresh) ((spectator known).readFile _)
        (fun _ => ?_) fun _ _ _ holds => holds.stays
      refine Steady.before (P := Holds pid (Bottom pid) fresh) ((spectator known).activateRequest (by exact nofun))
        (fun _ => ?_) fun _ _ _ holds => holds.stays
      refine Spec.handle (runDeliveryTransferWorkerHoldingLock_spec fun _ => activateWorker_spec)
        fun result => ?_
      refine Steady.bind (settleOrphanedActivation_spec within_bottom) fun _ => ?_
      refine Steady.bind (spectator known).requireSettledActivation fun _ => ?_
      exact Steady.bind .ofExcept fun _ => Steady.bind ((spectator known).readFile _) fun _ => .pure
    · have mode : (owned.value view).state.mode ≠ .async := by
        rw [holds.2.2.2]
        exact sync
      refine ⟨holds.1, holds.2.1, (holds.valid inv.2).fresh_of_sync ?_⟩
      cases read : (owned.value view).state.mode with
      | sync => rfl
      | async => exact absurd read mode

theorem entry_safe (entry : ActivationEntry) (born : Nat) (view : View)
    (inv : discipline.Inv view) (free : Free born view) :
    Safe discipline absenceShown entry.program born view := by
  have leaves : ∀ view, Free born view → AtEdge born (view.1.held owned.name) :=
    fun _ free => .inl free.1
  have watched : Local born (Stays born (Bottom born)) := holds_local bottom_frame
  have spec : Steady discipline absenceShown born (Free born) detach ∧
      Steady discipline absenceShown born (Free born) settledDeliveryMode :=
    ⟨lockedOwn_spec rfl detachHoldingLock_spec,
      lockedOwn_spec rfl (Steady.bind (settleOrphanedActivation_spec within_bottom)
        fun _ => (spectator watched).observedDeliveryMode)⟩
  cases entry with
  | detach => exact Owned.safe_of_spec Owned.Free.frame.local_ leaves spec.1 inv free
  | settledMode => exact Owned.safe_of_spec Owned.Free.frame.local_ leaves spec.2 inv free
  | observedMode =>
      exact Owned.safe_of_spec Owned.Free.frame.local_ leaves
        (spectator Owned.Free.frame.local_).observedDeliveryMode inv free

end Detach

section Run

theorem closed : discipline.Closed absenceShown :=
  Owned.closed (fun _ _ inv _ => .of_length inv.depth) nofun entry_safe

theorem starts_of_moves {event : Event activationSystem} {before after : View}
    (moves : discipline.Moves event before after) :
    (owned.value before).Starts (owned.value after) := by
  obtain ⟨_, promise⟩ := Owned.promise_of_moves moves
  cases promise with
  | same same =>
      rw [same.value]
      exact fun started => absurd rfl started
  | left left => exact left.drops.elim
  | moved moved => exact moved.moves
  | noted noted =>
      rw [noted.value]
      exact fun started => absurd rfl started

/-- A handle without a registration, in whatever mode, that no helper was started for. -/
structure LegacyHandle (config : Config (requests layout outside) HandleDisk) : Prop where
  idle : ∀ pid, config.procs pid = none
  free : ∀ name, config.state.held name = []
  unregistered : config.state.files File.registration = none
  unspent : config.state.world.activations = 0

def activationState (disk : HandleDisk) : ActivationTransferState :=
  (attemptOf disk.files disk.world).state

/-- One helper at most is started, below a marked claim with a pending outcome, and only while
none was started does the handle ever return to a state that permits one. -/
theorem legacy_activation_at_most_once
    {start final : Config (requests layout outside) HandleDisk} (legacy : LegacyHandle start)
    (run : System.Run absenceShown start final) :
    final.state.world.activations ≤ 1 ∧
    ((activationState final.state).Replayable → final.state.world.activations = 0) ∧
    ∀ event after, absenceShown.permits final event →
      activationSystem.apply event final = some after →
      ((activationState after.state).Replayable → final.state.world.activations = 0) ∧
      (after.state.world.activations ≠ final.state.world.activations →
        final.state.files File.activationAttempted ≠ none ∧
        final.state.files File.activationOutcome = some .pending ∧
        final.state.world.activations = 0 ∧ after.state.world.activations = 1) := by
  have valid : Valid (owned.value (start.state, ())) :=
    .of_fresh legacy.unregistered legacy.unspent
  have good : discipline.Good absenceShown start () :=
    Owned.good_of_idle legacy.idle legacy.free valid trivial
  obtain ⟨_, good'⟩ := Discipline.run_good closed good run
  have reached : Valid (attemptOf final.state.files final.state.world) := good'.1.2.valid
  refine ⟨reached.once, reached.unspent, fun event after permitted applied => ?_⟩
  obtain ⟨_, moves, good''⟩ := Discipline.apply_good closed event good' permitted applied
  have later : Valid (attemptOf after.state.files after.state.world) := good''.1.2.valid
  have starts : (attemptOf final.state.files final.state.world).Starts
    (attemptOf after.state.files after.state.world) := starts_of_moves moves
  have once : final.state.world.activations ≤ 1 := reached.once
  refine ⟨fun replayable => ?_, fun started => ?_⟩
  · have none : after.state.world.activations = 0 := later.unspent replayable
    by_contra spent
    have one : after.state.world.activations = 1 :=
      (starts fun same => spent (same.symm.trans none)).2.2
    omega
  · obtain ⟨marked, pending, one⟩ := starts started
    have first : after.state.world.activations = 1 := one
    exact ⟨Option.isSome_iff_ne_none.mp marked, pending, by omega, first⟩

abbrev pass (pid : Nat) : Event activationSystem := .step pid .pass

/-- A handle that was registered in synchronous mode without a durable continuation. -/
def legacyHandle : Config (requests layout outside) HandleDisk where
  state :=
    { files := fun
        | .metaJson => some { deliveryMode := .sync }
        | .deliveryMode => some .sync
        | _ => none
      held := fun _ => []
      next := 1
      ended := fun _ => none
      parent := fun _ => none
      gates := fun _ => .waiting
      world := {} }
  procs _ := none

/-- No request fails but the helper itself. -/
def faultless (_ : Config (requests layout outside) HandleDisk) : Event activationSystem → Bool
  | .step _ (.fault _) => false
  | _ => true

theorem faultless_sound (config : Config (requests layout outside) HandleDisk)
    (event : Event activationSystem) (allowed : faultless config event = true) :
    absenceShown.permits config event := by
  cases event with
  | step pid choice =>
      rintro op next running rfl error rfl
      cases allowed
  | kill _ => trivial
  | change what => exact nomatch what
  | _ => trivial

/-- The worker 2 of a detach 1 starts the helper and is killed while it waits; the caller
records that the outcome is unknown, and another detach 3 starts nothing. -/
def lostWorker : List (Event activationSystem) :=
  .enter .detach :: List.replicate 8 (pass 1) ++ [.step 1 (.outside .agree), .fork 1] ++
  List.replicate 8 (pass 2) ++ [.step 2 (.outside (.boot none))] ++ List.replicate 3 (pass 2) ++
  [.step 2 (.outside .agree), .kill 2] ++ List.replicate 8 (pass 1) ++ [.leave 1] ++
  .enter .detach :: List.replicate 9 (pass 3) ++ [.leave 3]

theorem lostWorker_state :
    (activationSystem.play faultless lostWorker legacyHandle).map
      (fun config => (activationState config.state, config.state.world.activations)) =
        some (⟨.async, .transferOutcomeUnknown⟩, 1) := by
  rfl

theorem legacy_activation_at_most_once_lost :
    ∃ final, System.Run absenceShown legacyHandle final ∧
      final.state.world.activations = 1 ∧ ¬ (activationState final.state).Replayable := by
  obtain ⟨final, played, known⟩ := Option.map_eq_some_iff.mp lostWorker_state
  obtain ⟨-, one⟩ := Prod.mk.inj known
  have run : System.Run absenceShown legacyHandle final := System.Run.of_play faultless_sound played
  have legacy : LegacyHandle legacyHandle := ⟨fun _ => rfl, fun _ => rfl, rfl, rfl⟩
  have unspent := (legacy_activation_at_most_once legacy run).2.1
  refine ⟨final, run, one, fun replayable => ?_⟩
  have none := unspent replayable
  omega

end Run


end ActivationOnce

end AgentBash
