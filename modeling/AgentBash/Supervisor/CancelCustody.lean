import AgentBash.Supervisor.TerminalCancel
import AgentBash.State.Rules

/-!
# An admitted cancellation is drained before custody ends

The custody lock owns the three markers and the admissions that were answered. Once the custody
marker is gone nothing of it is admitted any more, and an answered admission keeps the marker
in place until its drain is recorded.
-/

namespace AgentBash

set_option autoImplicit false

open Durable

namespace CancelCustody

abbrev View := HandleDisk × Unit

structure Duty where
  custody : Option BootId
  accepted : Option Unit
  drained : Option Unit
  admissions : Nat

namespace Duty

def write (duty : Duty) : (file : File) → Option file.Content → Duty
  | .physicalCustody, content => { duty with custody := content }
  | .acceptedCancel, content => { duty with accepted := content }
  | .cancellationDrained, content => { duty with drained := content }
  | _, _ => duty

/-- One admission at most is answered, and it is never left behind without its drain. -/
structure Valid (duty : Duty) : Prop where
  once : duty.admissions ≤ 1
  accepted : duty.admissions = 1 → duty.accepted.isSome
  drained : duty.admissions = 1 → duty.custody = none → duty.drained.isSome

/-- What was discharged is ended: no marker comes back, and nothing more is admitted. -/
def Settles (before after : Duty) : Prop :=
  before.custody = none →
    after.custody = none ∧ after.accepted = before.accepted ∧ after.admissions = before.admissions

theorem Settles.refl (duty : Duty) : Settles duty duty := fun discharged => ⟨discharged, rfl, rfl⟩

theorem Settles.trans {first second third : Duty} (one : Settles first second)
    (two : Settles second third) : Settles first third := by
  intro discharged
  obtain ⟨custody, accepted, admissions⟩ := one discharged
  obtain ⟨custody', accepted', admissions'⟩ := two custody
  exact ⟨custody', accepted'.trans accepted, admissions'.trans admissions⟩

theorem Settles.of_custody {before after : Duty} (held : before.custody.isSome) :
    Settles before after := by
  intro discharged
  rw [discharged] at held
  cases held

end Duty

def dutyOf (files : (file : File) → Option file.Content) (world : World) : Duty where
  custody := files .physicalCustody
  accepted := files .acceptedCancel
  drained := files .cancellationDrained
  admissions := world.admissions

def owned : Owned layout outside Unit where
  name := Lock.custody
  Resource := Duty
  resource files world _ := dutyOf files world
  Log := Unit
  log _ _ := ()
  Valid _ := Duty.Valid
  Moves _ := Duty.Settles
  Drops _ _ := False
  growth :=
    { Grows := Duty.Settles
      Extends := fun _ _ => True
      Adds := fun _ _ _ => False
      Backed := fun _ _ => True
      grows_refl := Duty.Settles.refl
      grows_trans := Duty.Settles.trans
      extends_refl := fun _ => trivial
      extends_trans := fun _ _ => trivial
      moves := id
      drops := False.elim
      adds := False.elim
      backed := fun _ _ => trivial
      added := fun _ _ => trivial }
  Depth count := count ≤ 1
  shallow := @shallow_alone
  one := alone_one
  taken valid := valid
  left valid := ⟨(), valid, .inl rfl⟩

abbrev discipline : Discipline custodySystem Unit := owned.discipline CustodyEntry.program

abbrev Fact := Duty → Prop

variable {policy : System.Policy custodySystem} {pid : Nat} {α : Type} {P : View → Prop}
  {fact : Fact}

abbrev Bottom (pid : Nat) : View → Prop := owned.Bottom pid

abbrev Free (pid : Nat) : View → Prop := owned.Free pid

/-- The holder of the custody lock knows `fact`. -/
abbrev Holds (pid : Nat) (fact : Fact) : View → Prop := owned.Holds pid (Bottom pid) fact

abbrev Stays (pid : Nat) : View → Prop := owned.Stays pid (Bottom pid)

theorem holds_local : owned.Local CustodyEntry.program pid (Holds pid fact) :=
  Owned.Holds.local_ Owned.Bottom.frame

theorem value_put (view : View) (file : File) (content : Option file.Content) :
    owned.value (view.1.put (L := layout) file content, view.2) =
      (owned.value view).write file content := by
  cases file <;> simp [Owned.value, owned, dutyOf, Disk.put, Duty.write]

def margin : Margin where
  files file := ∀ (duty : Duty) content, duty.write file content = duty
  ops op := op ≠ .cancelAdmitted

theorem act_admissions {caller : Nat} {op : Outside} {choice : Decision} {disk : HandleDisk}
    {answer : Except IoError op.Result} {world : World} (free : margin.ops op)
    (acted : op.act caller choice disk = some (answer, world)) :
    world.admissions = disk.world.admissions := by
  have reported (operation : HelperOperation) (status : ExitStatus) :
      (disk.world.reported caller operation status).admissions = disk.world.admissions := by
    unfold World.reported
    split <;> rfl
  cases op with
  | cancelAdmitted => exact absurd rfl free
  | spawnHelper operation =>
      cases choice <;> simp only [Outside.act, Option.some.injEq, Prod.mk.injEq,
        reduceCtorEq] at acted
      all_goals obtain ⟨-, rfl⟩ := acted
      · cases operation <;> rfl
      · rfl
  | waitHelper operation | waitHelperOutput operation =>
      cases choice <;> simp only [Outside.act, Option.some.injEq, Prod.mk.injEq,
        reduceCtorEq] at acted
      all_goals obtain ⟨-, rfl⟩ := acted
      · rfl
      · exact reported _ _
  | _ =>
      cases choice <;> simp only [Outside.act, reduceCtorEq] at acted <;>
        (try split at acted) <;> cases acted <;> rfl

theorem blind : Blind owned margin where
  writes content view free := by
    refine ⟨?_, rfl⟩
    rw [value_put]
    exact free _ _
  asks view free acted := by
    refine ⟨?_, rfl⟩
    simp only [Owned.value, owned, dutyOf, act_admissions free acted]

theorem spectator : Spectator owned.lane CustodyEntry.program margin pid (Holds pid fact) :=
  blind.spectator holds_local

theorem update_of {op : Request layout outside} {file : File} {content : Option file.Content}
    {D : Fact}
    (kept : ∀ duty : Duty, duty.Valid → fact duty → duty.Settles (duty.write file content) ∧
      (duty.write file content).Valid ∧ D (duty.write file content)) :
    Update owned policy pid op file content fact D := by
  intro view _ valid known
  rw [value_put]
  obtain ⟨settles, valid', known'⟩ := kept _ valid known
  exact ⟨settles, rfl, valid', trivial, known'⟩

section Admission

def inCustody : Fact := fun duty => duty.custody.isSome

/-- The admission that just created the marker is the first one. -/
def admitting : Fact := fun duty =>
  duty.custody.isSome ∧ duty.accepted.isSome ∧ duty.admissions = 0

def admissionFact : Except IoError Bool → Fact
  | .ok true => admitting
  | _ => fun _ => True

theorem none_admitted {duty : Duty} (valid : duty.Valid) (unaccepted : duty.accepted = none) :
    duty.admissions = 0 := by
  have once := valid.once
  have accepted := valid.accepted
  rw [unaccepted] at accepted
  have other : duty.admissions ≠ 1 := fun one => nomatch accepted one
  omega

theorem valid_of_unadmitted {duty : Duty} (none : duty.admissions = 0) : duty.Valid where
  once := by omega
  accepted one := by omega
  drained one := by omega

theorem recordExplicitCancelAcceptance_spec :
    Spec discipline policy pid (Holds pid inCustody) recordExplicitCancelAcceptance
      fun result => Holds pid (admissionFact result) := by
  have creates : Update owned policy pid (.create File.acceptedCancel ()) .acceptedCancel
      (some ()) (fun duty => inCustody duty ∧ duty.accepted = none) admitting :=
    update_of fun duty valid known => by
      have unadmitted := none_admitted valid known.2
      exact ⟨.of_custody known.1, valid_of_unadmitted unadmitted, known.1, rfl, unadmitted⟩
  have removes : Update owned policy pid (.remove File.acceptedCancel) .acceptedCancel none
      admitting fun _ => True :=
    update_of fun duty _ known => ⟨.of_custody known.1, valid_of_unadmitted known.2.2, trivial⟩
  have missing (view : View) (absent : view.1.files File.acceptedCancel = none)
      (known : inCustody (owned.value view)) :
      inCustody (owned.value view) ∧ (owned.value view).accepted = none := ⟨known, absent⟩
  have frame : owned.Frame CustodyEntry.program pid (Bottom pid) := Owned.Bottom.frame
  have spec := recordDurableCreateOnceMarker_spec inCustody (fun _ => True) (fun _ => True) blind
    frame missing (fun _ _ _ => trivial) creates removes (fun _ _ => trivial) fun _ _ => trivial
  refine spec.relax fun result _ _ holds => ?_
  match result with
  | .ok true => exact holds
  | .ok false => exact holds
  | .error _ => exact holds

theorem acceptRecordedCustody_spec (recorded boot : BootId) :
    Spec discipline policy pid (Holds pid inCustody) (acceptRecordedCustody recorded boot)
      fun result => Holds pid (admissionFact result) := by
  refine .branch (fun _ => .throw fun _ _ holds => holds.stays) fun _ => ?_
  refine .branch (fun _ => .pure fun _ _ holds => holds.stays) fun _ => ?_
  refine Steady.before (spectator.tryExists .cancellationDrained) (fun _ => ?_)
    fun _ _ _ holds => holds.stays
  exact .branch (fun _ => .pure fun _ _ holds => holds.stays)
    fun _ => recordExplicitCancelAcceptance_spec

theorem acceptHoldingCustody_spec :
    Spec discipline policy pid (Stays pid) acceptHoldingCustody
      fun result => Holds pid (admissionFact result) := by
  refine Spec.bind (readOptional_spec (Q := byResult
    (fun (recorded : Option File.physicalCustody.Content) => Holds pid fun duty => duty.custody = recorded)
    fun _ => Stays pid) holds_local.stable (fun _ _ holds => ⟨holds.1, holds.2.1, rfl⟩)
    fun _ _ _ holds => holds) (fun recorded => ?_) fun _ _ _ holds => holds
  cases recorded with
  | none => exact .pure fun _ _ holds => Owned.Holds.stays holds
  | some recorded =>
      refine Spec.strengthen (P := Holds pid inCustody) ?_ fun _ _ holds =>
        Owned.Holds.imp holds fun duty known => by
          unfold inCustody
          rw [known]
          rfl
      have boots : margin.ops .currentBootId := by exact nofun
      exact Steady.before (spectator.outsideAsk boots)
        (fun boot => acceptRecordedCustody_spec recorded boot) fun _ _ _ holds => holds.stays

theorem answerAdmission_spec (accepted : Bool) :
    Spec discipline policy pid (Holds pid (admissionFact (.ok accepted))) (answerAdmission accepted)
      fun _ => Stays pid := by
  cases accepted with
  | false => exact .pure fun _ _ holds => holds
  | true =>
      refine Spec.bind (Q := fun _ => Stays pid) ?_ (fun _ => .pure fun _ _ holds => holds)
        fun _ _ _ holds => holds
      refine Lane.external holds_local.stable ?_
      intro view choice answer world _ inv holds _ _ acted
      cases choice with
      | agree =>
          obtain ⟨rfl, rfl⟩ := Prod.mk.inj (Option.some.inj acted)
          obtain ⟨newest, framed, custody, accepted, unadmitted⟩ := holds
          have first : view.1.world.admissions = 0 := unadmitted
          have counted : (owned.value ({ view.1 with world :=
              { view.1.world with admissions := view.1.world.admissions + 1 } }, ())).Valid :=
            ⟨by simp [Owned.value, owned, dutyOf, first], fun _ => accepted, fun _ gone => by
              have held : (owned.value view).custody.isSome := custody
              rw [show (owned.value view).custody = none from gone] at held
              cases held⟩
          have settles : owned.Moves pid (owned.value view) (owned.value ({ view.1 with world :=
              { view.1.world with admissions := view.1.world.admissions + 1 } }, ())) :=
            Duty.Settles.of_custody custody
          have moved : owned.Moved pid view ({ view.1 with world :=
              { view.1.world with admissions := view.1.world.admissions + 1 } }, ()) :=
            ⟨newest, settles, rfl⟩
          have frame : owned.Frame CustodyEntry.program pid (Bottom pid) := Owned.Bottom.frame
          exact Owned.keeps_moved inv rfl moved counted
            ⟨newest, frame.same rfl rfl (moved.passed trivial) framed, trivial⟩
      | _ => cases acted

theorem holdingCustody_spec {body : Script α}
    (inside : Steady discipline policy pid (Stays pid) body) :
    Spec discipline policy pid (Stays pid) (holdingCustody body) fun _ => Free pid := by
  refine Spec.handle inside fun result => ?_
  exact Spec.bind (Owned.unlock_spec fun _ holds => holds.2.1)
    (fun _ => .ofExcept fun _ _ free => free) fun _ _ _ free => free

theorem lockCustody_spec :
    Spec discipline policy pid (Free pid) lockCustody fun
      | .ok _ => Stays pid
      | .error _ => Free pid := by
  have failed (error : IoError) : owned.attempted pid (.error error) = Free pid := rfl
  refine Spec.bind Owned.tryLock_spec (fun taken => ?_) fun error view _ free => failed error ▸ free
  cases taken with
  | true => exact .pure fun _ _ holds => Owned.Holds.stays holds
  | false => exact .throw fun _ _ free => free

theorem acceptTerminalCustodyCancel_spec :
    Steady discipline policy pid (Free pid) acceptTerminalCustodyCancel := by
  refine Spec.bind lockCustody_spec (fun _ => holdingCustody_spec ?_) fun _ _ _ free => free
  exact Spec.bind acceptHoldingCustody_spec answerAdmission_spec fun _ _ _ holds => holds.stays

end Admission

section Discharge

/-- Whatever was admitted has its drain recorded. -/
def handled : Fact := fun duty => duty.admissions = 1 → duty.drained.isSome

/-- A drain that is recorded only now: what was admitted is still in custody. -/
def draining : Fact := fun duty => duty.drained.isSome ∧ (duty.admissions = 1 → duty.custody.isSome)

def handledFact : Except IoError Unit → Fact
  | .ok _ => handled
  | .error _ => fun _ => True

theorem recordCancellationDrained_spec :
    Spec discipline policy pid (Stays pid) recordCancellationDrained
      fun result => Holds pid (handledFact result) := by
  have creates : Update owned policy pid (.create File.cancellationDrained ()) .cancellationDrained
      (some ()) (fun duty => duty.drained = none) draining :=
    update_of fun duty valid undrained => by
      have covered (one : duty.admissions = 1) : duty.custody.isSome := by
        by_contra gone
        have drained := valid.drained one (by simpa using gone)
        rw [undrained] at drained
        cases drained
      exact ⟨fun discharged => ⟨discharged, rfl, rfl⟩,
        ⟨valid.once, valid.accepted, fun _ _ => rfl⟩, rfl, covered⟩
  have removes : Update owned policy pid (.remove File.cancellationDrained) .cancellationDrained
      none draining fun _ => True :=
    update_of fun duty valid known => by
      refine ⟨fun discharged => ⟨discharged, rfl, rfl⟩,
        ⟨valid.once, valid.accepted, fun one gone => ?_⟩, trivial⟩
      have held := known.2 one
      rw [show duty.custody = none from gone] at held
      cases held
  have missing (view : View) (absent : view.1.files File.cancellationDrained = none) (_ : True) :
      (owned.value view).drained = none := absent
  have found (view : View) (taken : view.1.files File.cancellationDrained ≠ none) (_ : True) :
      handled (owned.value view) := fun _ => Option.isSome_iff_ne_none.mpr taken
  have frame : owned.Frame CustodyEntry.program pid (Bottom pid) := Owned.Bottom.frame
  have spec := recordDurableCreateOnceMarker_spec (fun _ => True) handled (fun _ => True) blind
    frame missing found creates removes (fun _ _ => trivial) fun _ _ => trivial
  refine Spec.bind spec (fun created => .pure fun _ _ holds => ?_) fun _ _ _ holds => holds
  cases created with
  | true =>
      have known : Holds pid draining _ := holds
      exact known.imp fun _ drained _ => drained.1
  | false => exact holds

theorem drainAccepted_spec :
    Spec discipline policy pid (Stays pid) drainAccepted
      fun result => Holds pid (handledFact result) := by
  refine Spec.bind (Q := byResult
    (fun accepted => Holds pid fun duty => duty.accepted.isSome = accepted)
    fun _ => Stays pid) ?_ (fun accepted => ?_) fun _ _ _ holds => holds
  · exact Spec.bind (readOptional_spec (Q := byResult
      (fun (accepted : Option File.acceptedCancel.Content) => Holds pid fun duty => duty.accepted = accepted)
      fun _ => Stays pid) holds_local.stable (fun _ _ holds => ⟨holds.1, holds.2.1, rfl⟩)
      fun _ _ _ holds => holds)
      (fun _ => .pure fun _ _ holds =>
        Owned.Holds.imp holds fun _ known => congrArg Option.isSome known)
      fun _ _ _ holds => holds
  · refine .branch (fun _ => ?_) fun unaccepted => .pure fun view inv holds => ?_
    · exact recordCancellationDrained_spec.strengthen fun _ _ holds => Owned.Holds.stays holds
    · have known : Holds pid (fun duty => duty.accepted.isSome = accepted) view := holds
      refine ⟨known.1, known.2.1, fun one => ?_⟩
      have asked := (known.valid inv.2).accepted one
      rw [known.2.2] at asked
      exact absurd asked unaccepted

theorem dischargeHoldingCustody_spec :
    Steady discipline policy pid (Stays pid) dischargeHoldingCustody := by
  refine Spec.bind drainAccepted_spec (fun _ => ?_) fun _ _ _ holds => holds
  refine Steady.before (P := Holds pid handled) spectator.syncDirectory (fun _ => ?_)
    fun _ _ _ holds => holds.stays
  have update : Update owned policy pid (.remove File.physicalCustody) .physicalCustody none
      handled fun _ => True :=
    update_of fun duty valid known =>
      ⟨fun _ => ⟨rfl, rfl, rfl⟩, ⟨valid.once, valid.accepted, fun one _ => known one⟩, trivial⟩
  exact (removeOptional_spec blind Owned.Bottom.frame update fun _ _ _ => trivial).relax
    fun _ _ _ holds => holds.stays

theorem endPhysicalCustody_spec : Steady discipline policy pid (Free pid) endPhysicalCustody := by
  refine Spec.handle lockCustody_spec fun taken => ?_
  cases taken with
  | ok _ => exact holdingCustody_spec dischargeHoldingCustody_spec
  | error error => exact .branch (fun _ => .pure fun _ _ free => free) fun _ => .throw fun _ _ free => free

end Discharge

section Run

theorem closed : discipline.Closed policy := by
  refine Owned.closed (fun _ _ inv _ => .of_length (inv.depth.trans (by decide))) nofun ?_
  intro entry born view inv free
  have leaves : ∀ view, Free born view → AtEdge born (view.1.held owned.name) :=
    fun _ free => .inl free.1
  cases entry with
  | admission =>
      exact Owned.safe_of_spec Owned.Free.frame.local_ leaves acceptTerminalCustodyCancel_spec inv
        free
  | discharge =>
      exact Owned.safe_of_spec Owned.Free.frame.local_ leaves endPhysicalCustody_spec inv free

/-- A handle with whatever markers, nobody at work and no admission answered so far. -/
structure Resting (config : Config (requests layout outside) HandleDisk) : Prop where
  idle : ∀ pid, config.procs pid = none
  free : ∀ name, config.state.held name = []
  unanswered : config.state.world.admissions = 0

/-- What a discharged handle keeps, whatever is asked of it later. -/
structure Discharged (before after : HandleDisk) : Prop where
  custody : after.files File.physicalCustody = none
  accepted : after.files File.acceptedCancel = before.files File.acceptedCancel
  admissions : after.world.admissions = before.world.admissions

theorem good_of_resting {start : Config (requests layout outside) HandleDisk}
    (resting : Resting start) : discipline.Good policy start () :=
  Owned.good_of_idle resting.idle resting.free (valid_of_unadmitted resting.unanswered) trivial

theorem discharged_of_run {start middle final : Config (requests layout outside) HandleDisk}
    (resting : Resting start) (run : System.Run policy start middle)
    (more : System.Run policy middle final) :
    Duty.Settles (dutyOf middle.state.files middle.state.world)
      (dutyOf final.state.files final.state.world) := by
  obtain ⟨_, good⟩ := Discipline.run_good closed (good_of_resting resting) run
  obtain ⟨_, _, settles⟩ := Discipline.run_keeps closed
    (K := fun view => Duty.Settles (dutyOf middle.state.files middle.state.world)
      (owned.value view)) (fun _ _ _ _ _ moves settles => by
        obtain ⟨_, promise⟩ := Owned.promise_of_moves moves
        exact settles.trans promise.grown.value) good (Duty.Settles.refl _) more
  exact settles

/-- After the discharge no cancellation is admitted, before it an admitted one is drained, and
one at most is ever admitted. -/
theorem terminal_cancel_custody {start middle : Config (requests layout outside) HandleDisk}
    (resting : Resting start)
    (run : System.Run (System.Policy.free custodySystem) start middle) :
    middle.state.world.admissions ≤ 1 ∧
    (middle.state.world.admissions = 1 → middle.state.files File.physicalCustody = none →
      middle.state.files File.cancellationDrained ≠ none) ∧
    (middle.state.files File.physicalCustody = none → ∀ final,
      System.Run (System.Policy.free custodySystem) middle final →
        Discharged middle.state final.state) := by
  obtain ⟨_, good⟩ := Discipline.run_good closed (good_of_resting resting) run
  have valid : (dutyOf middle.state.files middle.state.world).Valid := good.1.2.valid
  refine ⟨valid.once, fun one gone => Option.isSome_iff_ne_none.mp (valid.drained one gone), ?_⟩
  intro gone final more
  obtain ⟨custody, accepted, admissions⟩ := discharged_of_run resting run more gone
  exact ⟨custody, accepted, admissions⟩

abbrev pass (pid : Nat) : Event custodySystem := .step pid .pass

/-- A finished handle in the custody of boot 7. -/
def finishedHandle : Config (requests layout outside) HandleDisk where
  state :=
    { files := fun
        | .physicalCustody => some (some 7)
        | _ => none
      held := fun _ => []
      next := 1
      ended := fun _ => none
      parent := fun _ => none
      gates := fun _ => .waiting
      world := {} }
  procs _ := none

/-- A cancellation 1 is admitted; the observer 2 drains it and discharges the custody. -/
def admittedThenDischarged : List (Event custodySystem) :=
  .enter .admission :: List.replicate 2 (pass 1) ++ [.step 1 (.outside (.boot (some 7)))] ++
  List.replicate 5 (pass 1) ++ [.step 1 (.outside .agree), pass 1, .leave 1] ++
  .enter .discharge :: List.replicate 10 (pass 2) ++ [.leave 2]

theorem admittedThenDischarged_state :
    (custodySystem.play (fun _ _ => true) admittedThenDischarged finishedHandle).map
      (fun config => (config.state.world.admissions, config.state.files File.physicalCustody)) =
        some (1, none) := by
  rfl

theorem terminal_cancel_custody_discharged :
    ∃ final, System.Run (System.Policy.free custodySystem) finishedHandle final ∧
      final.state.world.admissions = 1 ∧
      final.state.files File.cancellationDrained ≠ none ∧ Discharged final.state final.state := by
  obtain ⟨final, played, known⟩ := Option.map_eq_some_iff.mp admittedThenDischarged_state
  obtain ⟨admitted, gone⟩ := Prod.mk.inj known
  have run : System.Run (System.Policy.free custodySystem) finishedHandle final :=
    System.Run.of_play (fun config event _ => System.Policy.free_permits config event) played
  have resting : Resting finishedHandle := ⟨fun _ => rfl, fun _ => rfl, rfl⟩
  obtain ⟨_, drained, ended⟩ := terminal_cancel_custody resting run
  exact ⟨final, run, admitted, drained admitted gone, ended gone final .start⟩

end Run

end CancelCustody

end AgentBash
