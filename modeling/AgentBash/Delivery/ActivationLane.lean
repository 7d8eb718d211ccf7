import AgentBash.Delivery.Activation
import AgentBash.Delivery.Rules

/-!
# The activation lane

The delivery lock owns the claim of a handle: mode file, claim marker and outcome, together
with the helpers that were started. An async mode without marker and outcome has to be earned
by a helper that reported success, and so has a recorded success.
-/

namespace AgentBash

set_option autoImplicit false

open Durable

def ActivationTransferOutcome.Settled (outcome : ActivationTransferOutcome) : Prop :=
  outcome = .unclaimed ∨ outcome = .succeeded

namespace ActivationLane

abbrev View := HandleDisk × Unit

structure Claim where
  mode : Option DeliveryMode
  marker : Option Unit
  outcome : Option ActivationRecord
  activations : Nat
  reported : Bool
  confirmed : Bool
  registered : Bool

namespace Claim

def state (claim : Claim) : ActivationTransferState where
  mode := claim.mode.getD .async
  outcome := match claim.outcome with
    | some record => record.outcome
    | none => if claim.marker.isSome then .claimedWithoutOutcome else .unclaimed

/-- A helper was started and reported success, to its worker or to the owner of a registered
handle, which confirmed it later. -/
def Earned (claim : Claim) : Prop :=
  1 ≤ claim.activations ∧
    (claim.reported = true ∨ (claim.registered = true ∧ claim.confirmed = true))

def write (claim : Claim) : (file : File) → Option file.Content → Claim
  | .deliveryMode, content => { claim with mode := content }
  | .activationAttempted, content => { claim with marker := content }
  | .activationOutcome, content => { claim with outcome := content }
  | .registration, content => { claim with registered := content.isSome }
  | _, _ => claim

end Claim

structure Valid (claim : Claim) : Prop where
  unclaimed : claim.state.mode = .async → claim.marker = none → claim.outcome = none →
    claim.Earned
  succeeded : claim.outcome = some .succeeded → claim.Earned

def claimOf (files : (file : File) → Option file.Content) (world : World) : Claim where
  mode := files .deliveryMode
  marker := files .activationAttempted
  outcome := files .activationOutcome
  activations := world.activations
  reported := world.activationReported
  confirmed := world.activationConfirmed
  registered := (files .registration).isSome

def owned : Owned layout outside Unit where
  name := Lock.delivery
  Resource := Claim
  resource files world _ := claimOf files world
  Log := Unit
  log _ _ := ()
  Valid _ := Valid
  Moves _ _ _ := True
  Drops _ _ := False
  growth := .none _ _
  Depth count := count ≤ 2
  shallow := @shallow_shared
  one := shared_one
  taken valid := valid
  left valid := ⟨(), valid, .inl rfl⟩

abbrev discipline : Discipline activationSystem Unit := owned.discipline ActivationEntry.program

abbrev Fact := Claim → Prop

abbrev Frame (pid : Nat) (F : View → Prop) : Prop := owned.Frame ActivationEntry.program pid F

abbrev Local (pid : Nat) (P : View → Prop) : Prop := owned.Local ActivationEntry.program pid P

abbrev Holds (pid : Nat) (F : View → Prop) (fact : Fact) : View → Prop := owned.Holds pid F fact

abbrev Stays (pid : Nat) (F : View → Prop) : View → Prop := owned.Stays pid F

variable {policy : System.Policy activationSystem} {pid : Nat} {α : Type} {P F F' : View → Prop}
  {fact : Fact}

theorem holds_local (frame : Frame pid F) : Local pid (Holds pid F fact) :=
  Owned.Holds.local_ frame

theorem value_put (view : View) (file : File) (content : Option file.Content) :
    owned.value (view.1.put (L := layout) file content, view.2) =
      (owned.value view).write file content := by
  cases file <;> simp [Owned.value, owned, claimOf, Disk.put, Claim.write]

/-- Everything but the claim's files and the helpers that count for it. -/
def margin : Margin where
  files file := ∀ (claim : Claim) content, claim.write file content = claim
  ops
    | .spawnHelper .activate | .waitHelper .activate | .waitHelperOutput .activate
    | .readbackActivationCommitted => False
    | _ => True

theorem act_claim {caller : Nat} {op : Outside} {choice : Decision} {disk : HandleDisk}
    {answer : Except IoError op.Result} {world : World} (free : margin.ops op)
    (acted : op.act caller choice disk = some (answer, world)) :
    world.activations = disk.world.activations ∧
      world.activationReported = disk.world.activationReported ∧
      world.activationConfirmed = disk.world.activationConfirmed := by
  cases op with
  | spawnHelper operation =>
      cases choice <;> simp only [Outside.act, Option.some.injEq, Prod.mk.injEq,
        reduceCtorEq] at acted
      all_goals obtain ⟨-, rfl⟩ := acted
      · cases operation with
        | activate => exact free.elim
        | _ => exact ⟨rfl, rfl, rfl⟩
      · exact ⟨rfl, rfl, rfl⟩
  | waitHelper operation | waitHelperOutput operation =>
      cases choice <;> simp only [Outside.act, Option.some.injEq, Prod.mk.injEq,
        reduceCtorEq] at acted
      all_goals obtain ⟨-, rfl⟩ := acted
      · exact ⟨rfl, rfl, rfl⟩
      · cases operation with
        | activate => exact free.elim
        | _ => exact ⟨rfl, rfl, rfl⟩
  | readbackActivationCommitted => exact free.elim
  | _ =>
      cases choice <;> simp only [Outside.act, reduceCtorEq] at acted <;>
        (try split at acted) <;> cases acted <;> exact ⟨rfl, rfl, rfl⟩

theorem blind : Blind owned margin where
  writes content view free := by
    refine ⟨?_, rfl⟩
    rw [value_put]
    exact free _ _
  asks view free acted := by
    obtain ⟨count, report, confirm⟩ := act_claim free acted
    refine ⟨?_, rfl⟩
    simp only [Owned.value, owned, claimOf, count, report, confirm]

theorem custody : margin.Custody where
  marker _ _ := rfl
  cleanup _ _ := rfl
  boot := trivial

theorem spectator (known : Local pid P) :
    Spectator owned.lane ActivationEntry.program margin pid P :=
  blind.spectator known

section Updates

/-- Nobody turns the mode async while the holder of the lock does not. -/
def synchronous : Fact := fun claim => claim.mode = some .sync

def marked : Fact := fun claim => claim.marker.isSome

theorem Valid.of_synchronous {claim : Claim} (mode : synchronous claim)
    (succeeded : claim.outcome = some .succeeded → claim.Earned) : Valid claim where
  unclaimed async := by
    simp [Claim.state, show claim.mode = some .sync from mode] at async
  succeeded := succeeded

theorem Valid.of_outcome {claim : Claim} (recorded : claim.outcome.isSome)
    (succeeded : claim.outcome = some .succeeded → claim.Earned) : Valid claim where
  unclaimed _ _ none := by
    rw [none] at recorded
    cases recorded
  succeeded := succeeded

theorem Valid.of_marked {claim : Claim} (claimed : marked claim)
    (succeeded : claim.outcome = some .succeeded → claim.Earned) : Valid claim where
  unclaimed _ none _ := by
    rw [marked, none] at claimed
    cases claimed
  succeeded := succeeded

theorem update_of {op : Request layout outside} {file : File} {content : Option file.Content}
    {D : Fact}
    (kept : ∀ claim, Valid claim → fact claim →
      Valid (claim.write file content) ∧ D (claim.write file content)) :
    Update owned policy pid op file content fact D := by
  intro view _ valid known
  rw [value_put]
  obtain ⟨valid', known'⟩ := kept _ valid known
  exact ⟨trivial, rfl, valid', trivial, known'⟩

theorem writeMode_spec (frame : Frame pid F) {mode : DeliveryMode} {D : Fact}
    (kept : ∀ claim, Valid claim → fact claim →
      Valid { claim with mode := some mode } ∧ D { claim with mode := some mode }) :
    Spec discipline policy pid (Holds pid F fact) (writeDeliveryModeAtomic mode)
      fun result => Holds pid F (updated fact D result) :=
  atomicWrite_spec blind frame (update_of kept)

/-- Any outcome but a success may be recorded at any time; a success has to be earned. -/
theorem writeOutcome_spec (frame : Frame pid F) {outcome : ActivationRecord}
    (earned : outcome = .succeeded → ∀ claim, fact claim → claim.Earned) :
    Spec discipline policy pid (Holds pid F fact) (writeActivationOutcome outcome)
      fun _ => Stays pid F := by
  refine (atomicWrite_spec (D := fun _ => True) blind frame
    (update_of fun claim _ known => ⟨.of_outcome rfl fun succeeded => ?_, trivial⟩)).relax
      fun _ _ _ holds => holds.stays
  exact earned (Option.some.inj succeeded) claim known

theorem removeOutcome_spec (frame : Frame pid F) :
    Spec discipline policy pid (Holds pid F synchronous) removeActivationOutcome
      fun _ => Holds pid F synchronous := by
  have update : Update owned policy pid (.remove File.activationOutcome) .activationOutcome none
      synchronous synchronous :=
    update_of fun claim _ mode => ⟨.of_synchronous mode nofun, mode⟩
  refine (removeOptional_spec blind frame update fun _ _ mode => mode).relax
    fun result _ _ holds => holds.imp fun _ mode => ?_
  cases result with
  | ok _ => exact mode
  | error _ => exact mode.elim id id

/-- Only a claim that keeps the mode sync, or has an outcome, may lose its marker. -/
def releasable : Fact := fun claim => synchronous claim ∨ claim.outcome.isSome

theorem rollbackActivationAttempt_spec (frame : Frame pid F) :
    Steady discipline policy pid (Holds pid F releasable) rollbackActivationAttempt := by
  have update : Update owned policy pid (.remove File.activationAttempted) .activationAttempted none
      releasable releasable := by
    refine update_of fun claim valid free => ⟨?_, free⟩
    rcases free with mode | recorded
    · exact .of_synchronous mode valid.succeeded
    · exact .of_outcome recorded valid.succeeded
  refine .bind (spectator (holds_local frame)).syncDirectory fun _ => ?_
  refine (removeOptional_spec blind frame update fun _ _ free => free).relax
    fun result _ _ holds => holds.imp fun _ free => ?_
  cases result with
  | ok _ => exact free
  | error _ => exact free.elim id id

end Updates

section Reads

/-- The state that was read is the state of the claim. -/
def observed (fact : Fact) : Except IoError ActivationTransferState → Fact
  | .ok state => fun claim => fact claim ∧ claim.state = state
  | .error _ => fact

theorem activationTransferState_spec (frame : Frame pid F) :
    Spec discipline policy pid (Holds pid F fact) activationTransferState
      fun result => Holds pid F (observed fact result) := by
  have known {fact : Fact} : Local pid (Holds pid F fact) := holds_local frame
  refine Spec.bind (Q := byResult
    (fun mode => Holds pid F fun claim => fact claim ∧ claim.state.mode = mode)
    fun _ => Holds pid F fact) ?_ (fun mode => ?_) fun _ _ _ holds => holds
  · refine Spec.bind (readOptional_spec (Q := byResult
      (fun (mode : Option File.deliveryMode.Content) => Holds pid F fun claim => fact claim ∧ claim.mode = mode)
      fun _ => Holds pid F fact) known.stable
      (fun _ _ holds => ⟨holds.1, holds.2.1, holds.2.2, rfl⟩) fun _ _ _ holds => holds)
      (fun mode => .pure fun _ _ holds => ?_) fun _ _ _ holds => holds
    exact holds.imp fun claim known => ⟨known.1, congrArg (·.getD .async) known.2⟩
  refine Spec.bind (Q := byResult
    (fun outcome => Holds pid F fun claim => fact claim ∧ claim.state = ⟨mode, outcome⟩)
    fun _ => Holds pid F fact) ?_ (fun outcome => .pure fun _ _ holds => holds)
    fun _ _ _ holds => holds
  refine Spec.bind (readOptional_spec (Q := byResult
    (fun (outcome : Option File.activationOutcome.Content) => Holds pid F fun claim =>
      (fact claim ∧ claim.state.mode = mode) ∧ claim.outcome = outcome)
    fun _ => Holds pid F fact) known.stable
    (fun _ _ holds => ⟨holds.1, holds.2.1, holds.2.2, rfl⟩)
    fun _ _ _ holds => holds.imp fun _ known => known.1) (fun outcome => ?_) fun _ _ _ holds => holds
  cases outcome with
  | some record =>
      refine .pure fun _ _ holds => holds.imp fun claim known => ⟨known.1.1, ?_⟩
      obtain ⟨⟨-, rfl⟩, recorded⟩ := known
      simp only [Claim.state, recorded]
  | none =>
      refine Spec.bind (Q := byResult
        (fun marker => Holds pid F fun claim =>
          ((fact claim ∧ claim.state.mode = mode) ∧ claim.outcome = none) ∧
            claim.marker.isSome = marker)
        fun _ => Holds pid F fact) ?_ (fun marker => ?_) fun _ _ _ holds => holds
      · refine Spec.bind (readOptional_spec (Q := byResult
          (fun (marker : Option File.activationAttempted.Content) => Holds pid F fun claim =>
            ((fact claim ∧ claim.state.mode = mode) ∧ claim.outcome = none) ∧
              claim.marker = marker)
          fun _ => Holds pid F fact) known.stable
          (fun _ _ holds => ⟨holds.1, holds.2.1, holds.2.2, rfl⟩)
          fun _ _ _ holds => holds.imp fun _ known => known.1.1)
          (fun marker => .pure fun _ _ holds => ?_) fun _ _ _ holds => holds
        exact holds.imp fun claim known => ⟨known.1, congrArg Option.isSome known.2⟩
      · refine .pure fun _ _ holds => holds.imp fun claim known => ⟨known.1.1.1, ?_⟩
        obtain ⟨⟨⟨-, rfl⟩, recorded⟩, rfl⟩ := known
        simp only [Claim.state, recorded]

/-- Passing the check means that the claim is settled. -/
def settledFact (fact : Fact) : Except IoError Unit → Fact
  | .ok _ => fun claim => fact claim ∧ claim.state.outcome.Settled
  | .error _ => fact

theorem requireSettledActivation_spec (frame : Frame pid F) :
    Spec discipline policy pid (Holds pid F fact) requireSettledActivation
      fun result => Holds pid F (settledFact fact result) := by
  refine Spec.bind (activationTransferState_spec frame) (fun state => ?_) fun _ _ _ holds => holds
  obtain ⟨mode, outcome⟩ := state
  cases outcome with
  | unclaimed =>
      exact .pure fun _ _ holds => holds.imp fun claim known =>
        ⟨known.1, .inl (congrArg ActivationTransferState.outcome known.2)⟩
  | succeeded =>
      exact .pure fun _ _ holds => holds.imp fun claim known =>
        ⟨known.1, .inr (congrArg ActivationTransferState.outcome known.2)⟩
  | _ => exact .throw fun _ _ holds => holds.imp fun _ known => known.1

/-- A settled claim with its marker has been earned: the marker rules out an unclaimed one. -/
theorem earned_of_settled {claim : Claim} (valid : Valid claim) (claimed : marked claim)
    (settled : claim.state.outcome.Settled) : claim.Earned := by
  refine valid.succeeded ?_
  rcases claim with ⟨mode, marker, outcome, count, report, confirm, enrolled⟩
  have present : marker.isSome = true := claimed
  rcases settled with unclaimed | succeeded
  · cases outcome with
    | none => simp [Claim.state, present] at unclaimed
    | some record => cases record <;> simp [Claim.state, ActivationRecord.outcome] at unclaimed
  · cases outcome with
    | none => simp [Claim.state, present] at succeeded
    | some record =>
        cases record <;> simp [Claim.state, ActivationRecord.outcome] at succeeded
        rfl

end Reads

end ActivationLane

end AgentBash
