import AgentBash.Supervisor.TerminalSupervisor

/-!
# The guardian of a handle

The guardian takes over once the supervisor is gone. It publishes a loss of its own as long as it
has not handed the handle to delivery; a sentinel handle may be handed over without a verdict, and
then there is never going to be one.
-/

namespace AgentBash

set_option autoImplicit false

open Durable

namespace TerminalLane

variable [setting : Setting] {policy : System.Policy legacySystem} {pid : Nat} {p : Scene → Prop}
  {record : Meta}

/-- The supervisor was forked and is gone. -/
structure Bereft (pid : Nat) (s : Scene) : Prop where
  keeper : pid = setting.keeper
  ceased : ∃ delegate, s.ghost.delegate = some delegate ∧ s.ended delegate ≠ none

theorem Firm.bereft : Firm pid (Bereft pid) where
  fact := {
    stable := fun {s t} inv _ moved known => by
      obtain ⟨delegate, supervisor, ceased⟩ := known.ceased
      obtain ⟨status, ended⟩ := Option.ne_none_iff_exists'.mp ceased
      have born := (inv.peopled.delegate delegate supervisor).2
      refine ⟨known.keeper, delegate, moved.lasts.delegate delegate supervisor, ?_⟩
      rw [moved.lasts.ended delegate status born ended]
      nofun
    rewritten := fun _ known => ⟨known.keeper, known.ceased⟩ }
  kept same _ known := by
    simp only [Scene.people, Prod.mk.injEq] at same
    refine ⟨known.keeper, ?_⟩
    rw [same.2.1, same.2.2.1]
    exact known.ceased

/-- The guardian still has its office. -/
structure InOffice (pid : Nat) (s : Scene) : Prop where
  bereft : Bereft pid s
  kept : s.ghost.renounced = false

theorem Firm.inOffice : Firm pid (InOffice pid) where
  fact := {
    stable := fun inv inv' moved known =>
      ⟨Firm.bereft.fact.stable inv inv' moved known.bereft,
        (moved.office known.bereft.keeper.symm known.kept).1⟩
    rewritten := fun same known => ⟨Firm.bereft.fact.rewritten same known.bereft, known.kept⟩ }
  kept same verdict known := by
    refine ⟨Firm.bereft.kept same verdict known.bereft, ?_⟩
    simp only [Scene.people, Prod.mk.injEq] at same
    exact same.2.2.2.trans known.kept

theorem InOffice.mayPublish {s : Scene} (known : InOffice pid s) : s.MayPublish pid := by
  obtain ⟨delegate, supervisor, ceased⟩ := known.bereft.ceased
  have keeper := known.bereft.keeper
  by_cases mode : setting.mode = .exit
  · exact .inr (by simp [Scene.tenure, supervisor, ceased, mode])
  · exact .inl (by simp [Scene.tenure, supervisor, ceased, mode, known.kept, keeper])

/-- A record that the guardian delivers: a final one, or that of a sentinel handle. -/
theorem InOffice.deliverable {s : Scene} (known : InOffice pid s) (grounded : Grounded record s)
    (due : terminal record || !runningExitMode record) : s.Deliverable pid := by
  by_cases terminated : terminal record = true
  · exact .inl (grounded.2 terminated).decided
  · have running : record.state = .running :=
      grounded.1.whole.resolve_left terminated
    have mode : record.mode ≠ .exit := fun exits => by
      simp [terminated, runningExitMode, running, exits] at due
    have sentinel : setting.mode = .sentinel := by
      rw [← grounded.1.mode]
      cases other : record.mode with
      | exit => exact absurd other mode
      | sentinel => rfl
    obtain ⟨delegate, supervisor, ceased⟩ := known.bereft.ceased
    refine .inr ⟨known.bereft.keeper, sentinel, ?_, by simp [supervisor], known.kept⟩
    have keeper := known.bereft.keeper
    simp [Scene.tenure, supervisor, ceased, sentinel, known.kept, keeper]

section Custody

variable {custody : GuardianCustody}

/-- What a guardian knows between two steps. -/
structure Guarding (pid : Nat) (custody : GuardianCustody) (s : Scene) : Prop where
  bereft : Bereft pid s
  apart : Apart pid s
  office : custody.reconciled = false → s.ghost.renounced = false
  carried : custody.transfer.isSome = true ∨ custody.reaped.isSome = true → s.Decided

theorem Fact.guarding : Fact pid (Guarding pid custody) where
  stable inv inv' moved known :=
    ⟨Firm.bereft.fact.stable inv inv' moved known.bereft,
      Fact.apart.stable inv inv' moved known.apart,
      fun given => (moved.office known.bereft.keeper.symm (known.office given)).1,
      fun given => moved.lasts.decided (known.carried given)⟩
  rewritten same known :=
    ⟨Firm.bereft.fact.rewritten same known.bereft, ⟨known.apart.born, known.apart.absent⟩,
      known.office, fun given => (Fact.decided : Fact pid Scene.Decided).rewritten same
        (known.carried given)⟩

abbrev guarding (pid : Nat) : Except IoError GuardianCustody → Scene → Prop :=
  outcome (Guarding pid) fun _ => Apart pid

theorem reapGuardianTransfer_spec :
    Triple policy pid (Guarding pid custody) custody.reapGuardianTransfer (guarding pid) := by
  have fact : Fact pid (Guarding pid custody) := .guarding
  unfold GuardianCustody.reapGuardianTransfer
  cases running : custody.transfer with
  | none => exact .pure fun _ _ known => known
  | some transfer =>
      refine Spec.bind (fact.steady (.ask trivial)) (fun found => ?_) fun _ _ _ known => known.apart
      cases found with
      | none => exact .pure fun _ _ known => known
      | some status =>
          exact Spec.bind (fact.steady (outsideAsk_beside nofun)) (fun _ => .pure fun _ _ known =>
            ⟨known.bereft, known.apart, known.office, fun _ => known.carried (by simp [running])⟩)
            fun _ _ _ known => known.apart

theorem integrateReapedTransfer_spec :
    Triple policy pid (Guarding pid custody) custody.integrateReapedTransfer (guarding pid) := by
  have fact : Fact pid (Guarding pid custody) := .guarding
  unfold GuardianCustody.integrateReapedTransfer
  cases reaped : custody.reaped with
  | none => exact .pure fun _ _ known => known
  | some finished =>
      obtain ⟨transfer, status⟩ := finished
      have owner (s : Scene) (known : Guarding pid custody s) :
          s.Decided ∨ s.tenure = .sole pid := .inl (known.carried (by simp [reaped]))
      have finishing : Stays policy pid (Guarding pid custody) (do
          let _ ← readMeta
          transfer.finish status : Script Meta) := by
        refine Steady.bind (readMeta_spec fact (fun _ _ _ known _ => known) fun _ _ _ known => known)
          fun _ => ?_
        refine (integrateCompletionTransfer_spec fact owner).relax fun result _ _ known => ?_
        cases result with
        | ok _ => exact known.1
        | error _ => exact known
      refine Spec.handle finishing fun result => ?_
      cases result with
      | error _ => exact .pure fun _ _ known => known
      | ok _ =>
          exact Spec.bind (unlockDelivery_steady fact) (fun _ => .pure fun _ _ known =>
            ⟨known.bereft, known.apart, known.office,
              fun given => known.carried (given.imp id nofun)⟩) fun _ _ _ known => known.apart

theorem guardian_delivers (open_ : custody.reconciled = false)
    (due : terminal record || !runningExitMode record) :
    Delivers pid (fun s => Guarding pid custody s ∧ Grounded record s)
      fun s => Bereft pid s ∧ Apart pid s where
  fact := Fact.guarding.and (.grounded record)
  after := Firm.bereft.fact.and .apart
  may _ known := InOffice.deliverable ⟨known.1.bereft, known.1.office open_⟩ known.2 due
  apart _ known := known.1.apart
  gated _ _ known :=
    ⟨⟨⟨known.1.bereft.keeper, known.1.bereft.ceased⟩, ⟨known.1.apart.born, known.1.apart.absent⟩,
      known.1.office, known.1.carried⟩, ⟨known.2.1.mode, known.2.1.whole, known.2.1.names⟩,
      fun terminated =>
        have final := known.2.2 terminated
        ⟨⟨final.fits.mode, final.fits.whole, final.fits.names⟩, final.decided, final.same⟩⟩
  admitted _ _ _ known :=
    ⟨⟨known.1.bereft.keeper, known.1.bereft.ceased⟩, known.1.apart.born, known.1.apart.absent⟩

theorem startGuardianDelivery_spec (lawful : Lawful policy) (open_ : custody.reconciled = false) :
    Triple policy pid (fun s => Guarding pid custody s ∧ Grounded record s)
      (custody.startGuardianDelivery record) (guarding pid) := by
  refine Spec.branch (fun due => ?_) fun _ => .pure fun _ _ known => known.1
  refine Spec.handle (tryStartCompletionDelivery_spec lawful (guardian_delivers open_ due))
    fun result => ?_
  rcases result with error | ⟨read, _ | _ | transfer⟩
  · exact .pure fun _ _ known => known.1
  · exact .pure fun _ _ known => known.1.1
  · exact .pure fun _ _ known =>
      ⟨known.1.1.bereft, known.1.1.apart, nofun, known.1.1.carried⟩
  · exact .pure fun _ _ known => ⟨known.1.1, known.1.2, nofun, fun _ => known.2.decided⟩

/-- A guardian in office, with what it knows of a delivery that it carries. -/
abbrev OnDuty (pid : Nat) (custody : GuardianCustody) (s : Scene) : Prop :=
  InOffice pid s ∧ (custody.transfer.isSome = true ∨ custody.reaped.isSome = true → s.Decided)

theorem settleGuardianLoss_spec {accepted : Bool} (lawful : Lawful policy)
    (open_ : custody.reconciled = false) :
    Triple policy pid (Guarding pid custody) (settleGuardianLoss custody accepted)
      (guarding pid) := by
  have firm : Firm pid (OnDuty pid custody) := Firm.inOffice.and (Firm.decided.implied _)
  have reconciled : Triple policy pid (fun s => OnDuty pid custody s ∧ Apart pid s)
      (reconcileLostSupervisorAfterGuardian accepted true)
      (outcome (fun found s => (OnDuty pid custody s ∧ Apart pid s) ∧
        ∀ record, found = some record → Grounded record s)
        fun _ s => OnDuty pid custody s ∧ Apart pid s) :=
    reconcileAfterGuardian_spec lawful firm fun _ _ known => known.1.mayPublish
  refine Spec.handle (reconciled.strengthen fun _ _ known =>
    ⟨⟨⟨known.bereft, known.office open_⟩, known.carried⟩, known.apart⟩) fun result => ?_
  rcases result with error | _ | record
  · exact .pure fun _ _ known =>
      ⟨known.1.1.bereft, known.2, fun _ => known.1.1.kept, known.1.2⟩
  · exact .pure fun _ _ known =>
      ⟨known.1.1.1.bereft, known.1.2, fun _ => known.1.1.1.kept, known.1.1.2⟩
  · exact (startGuardianDelivery_spec lawful open_).strengthen fun _ _ known =>
      ⟨⟨known.1.1.1.bereft, known.1.2, fun _ => known.1.1.1.kept, known.1.1.2⟩, known.2 record rfl⟩

/-- Nothing is withheld only where the guardian has not delivered before. -/
theorem guardianWithheld_spec {reconciled cancelWorkload treeEmpty : Bool} (fact : Fact pid p) :
    Triple policy pid p (guardianWithheld reconciled cancelWorkload treeEmpty)
      (outcome (fun withheld s => p s ∧ (withheld = false → reconciled = false)) fun _ => p) := by
  refine Spec.branch (fun _ => .pure fun _ _ known => ⟨known, nofun⟩) fun free => ?_
  have open_ : reconciled = false := by
    by_contra done
    simp [done] at free
  refine Spec.branch (fun _ => .pure fun _ _ known => ⟨known, fun _ => open_⟩) fun _ => ?_
  exact Spec.bind (fact.steady (outsideAsk_beside nofun))
    (fun _ => .pure fun _ _ known => ⟨known, fun _ => open_⟩) fun _ _ _ known => known

/-- A guardian that goes on knows what it knew; one that retires holds nothing. -/
def progressed (pid : Nat) : Except IoError (Option GuardianCustody) → Scene → Prop
  | .ok (some custody) => Guarding pid custody
  | _ => Apart pid

theorem guardianProgress_spec {accepted drained treeEmpty : Bool} (lawful : Lawful policy) :
    Triple policy pid (Guarding pid custody) (guardianProgress custody accepted drained treeEmpty)
      (progressed pid) := by
  have fact : Fact pid (Guarding pid custody) := .guarding
  have marked : (markTreeDrained treeEmpty).Makes concern.Beside :=
    .branch (outsideAsk_beside nofun) .pure
  have noted : (noteWorkloadDrained (accepted && !drained) treeEmpty).Makes concern.Beside :=
    .branch recordCancellationDrained_beside .pure
  refine Spec.bind (fact.steady marked) (fun _ => ?_) fun _ _ _ known => known.apart
  refine Spec.branch (fun _ => ?_) fun _ => ?_
  · refine Spec.handle (fact.steady endPhysicalCustody_beside) fun result => ?_
    cases result with
    | ok _ => exact .pure fun _ _ known => known.apart
    | error _ => exact .pure fun _ _ known => known
  · refine Spec.handle (fact.steady noted) fun result => ?_
    cases result with
    | error _ => exact .pure fun _ _ known => known
    | ok _ =>
        refine Spec.bind (guardianWithheld_spec fact) (fun withheld => ?_)
          fun _ _ _ known => known.apart
        refine Spec.branch (fun _ => .pure fun _ _ known => known.1) fun free => ?_
        have free' : withheld = false := by simpa using free
        refine Spec.weaken (P := fun view => custody.reconciled = false ∧
          Guarding pid custody (scene view)) (Spec.assume fun open_ => ?_)
          (fun _ _ known => ⟨known.2 free', known.1⟩) fun _ _ _ known => known
        exact Spec.bind (settleGuardianLoss_spec lawful open_)
          (fun _ => .pure fun _ _ known => known) fun _ _ _ known => known

theorem guardianTurn_spec (lawful : Lawful policy) (turn : GuardianTurn) :
    Triple policy pid (Guarding pid custody) (guardianTurn custody turn) (progressed pid) := by
  have fact : Fact pid (Guarding pid custody) := .guarding
  refine Spec.handle (fact.steady tryExists_beside) fun result => ?_
  cases result with
  | error _ => exact .pure fun _ _ known => known
  | ok accepted =>
      refine Spec.handle (fact.steady tryExists_beside) fun result => ?_
      cases result with
      | error _ => exact .pure fun _ _ known => known
      | ok drained =>
          refine Spec.bind reapGuardianTransfer_spec (fun custody => ?_) fun _ _ _ known => known
          refine Spec.branch (fun _ => .pure fun _ _ known => known) fun _ => ?_
          refine Spec.bind integrateReapedTransfer_spec (fun custody => ?_) fun _ _ _ known => known
          exact Spec.branch (fun _ => .pure fun _ _ known => known)
            fun _ => guardianProgress_spec lawful

theorem guardLoop_spec (lawful : Lawful policy) (turns : List GuardianTurn) :
    Triple policy pid (Guarding pid custody) (guardLoop turns custody) fun _ => Apart pid := by
  induction turns generalizing custody with
  | nil => exact park_spec
  | cons turn turns again =>
      refine Spec.bind (guardianTurn_spec lawful turn) (fun next => ?_) fun _ _ _ known => known
      cases next with
      | none => exact .pure fun _ _ known => known
      | some custody => exact again

end Custody

section Keeper

/-- The keeper before the fork. -/
structure Unforked (pid : Nat) (s : Scene) : Prop where
  keeper : pid = setting.keeper
  kept : s.ghost.renounced = false
  alone : s.ghost.delegate = none

theorem Unforked.sole {s : Scene} (known : Unforked pid s) : s.tenure = .sole pid := by
  have keeper := known.keeper
  simp [Scene.tenure, known.alone, keeper]

theorem Firm.unforked : Firm pid (Unforked pid) where
  fact := {
    stable := fun _ _ moved known => by
      obtain ⟨kept, same⟩ := moved.office known.keeper.symm known.kept
      exact ⟨known.keeper, kept, same.trans known.alone⟩
    rewritten := fun _ known => ⟨known.keeper, known.kept, known.alone⟩ }
  kept same _ known := by
    simp only [Scene.people, Prod.mk.injEq] at same
    exact ⟨known.keeper, same.2.2.2.trans known.kept, same.2.2.1.trans known.alone⟩

/-- What the worker knows until it forks the supervisor. -/
structure Registering (pid : Nat) (record : Meta) (s : Scene) : Prop where
  unforked : Unforked pid s
  open_ : s.verdict = none
  fits : s.Fits record
  apart : Apart pid s

theorem Fact.registering : Fact pid (Registering pid record) where
  stable inv inv' moved known :=
    ⟨Firm.unforked.fact.stable inv inv' moved known.unforked,
      (moved.right pid rfl known.unforked.sole).2.trans known.open_, moved.lasts.fits known.fits,
      Fact.apart.stable inv inv' moved known.apart⟩
  rewritten same known :=
    ⟨Firm.unforked.fact.rewritten same known.unforked, same.trans known.open_,
      ⟨known.fits.mode, known.fits.whole, known.fits.names⟩, ⟨known.apart.born, known.apart.absent⟩⟩

theorem Registering.firmly {s : Scene} (known : Registering pid record s) :
    (Unforked pid s ∧ s.Fits record) ∧ Apart pid s :=
  ⟨⟨known.unforked, known.fits⟩, known.apart⟩

section Errors

variable {failed : Meta → Stamp → Meta}

/-- How a failed registration marks a record. -/
structure MarksFailure (failed : Meta → Stamp → Meta) : Prop where
  terminated : ∀ found stamp, terminal (failed found stamp) = true
  rc : ∀ found stamp, (failed found stamp).rc = some exSoftware
  mode : ∀ found stamp, (failed found stamp).mode = found.mode
  names : ∀ found stamp, (failed found stamp).supervisorPid = found.supervisorPid

/-- A record that was found open is marked; no cancellation was accepted before the fork. -/
theorem markFailure_spec {found : Meta} {standing : Option Verdict × Option Int × Bool × Bool}
    (marks : MarksFailure failed) (open_ : standing.1 = none) (unaccepted : standing.2.2.1 = false) :
    Triple policy pid (Inside pid (fun s => Unforked pid s ∧ s.Fits found) standing)
      (if terminal found then pure () else do
        let stamp ← readStamp
        writeRcAtomic exSoftware
        writeMetaAtomic (failed found stamp))
      fun _ s => s.holders = [pid] := by
  have firm : Firm pid fun s => Unforked pid s ∧ s.Fits found := Firm.unforked.and (.fits found)
  have timed : readStamp.Makes concern.Beside :=
    .bind (outsideAsk_beside nofun) fun _ => .bind (outsideAsk_beside nofun) fun _ => .pure
  refine Spec.branch (fun _ => .pure fun _ _ known => known.2.held) fun _ => ?_
  refine Spec.bind (firm.inside.steady timed) (fun stamp => ?_) fun _ _ _ known => known.2.held
  refine Spec.bind (writeStatus_spec firm open_) (fun _ => ?_) fun _ _ _ known => known.2
  have fits (s : Scene) (known : Unforked pid s ∧ s.Fits found) : s.Fits (failed found stamp) := by
    refine ⟨(marks.mode found stamp).trans known.2.mode, .inl (marks.terminated found stamp), ?_⟩
    rw [marks.names]
    exact known.2.names
  refine Spec.relax (writeVerdict_spec firm (fun _ known => .inl known.1.sole) fits
    (Meta.verdict_of_terminal (marks.terminated found stamp)) (marks.rc found stamp) rfl rfl
    fun accepted => absurd (unaccepted.symm.trans accepted) nofun) fun result _ _ known => ?_
  cases result with
  | ok _ => exact known.1.2
  | error _ => exact known.2

/-- The worker in the critical section: the handle is open, and no cancellation was accepted. -/
def Unsettled (pid : Nat) (record : Meta) (s : Scene) : Prop :=
  ∃ standing : Option Verdict × Option Int × Bool × Bool,
    (standing.1 = none ∧ standing.2.2.1 = false) ∧
      Inside pid (fun s => Unforked pid s ∧ s.Fits record) standing s

theorem Registering.unsettled {s : Scene} (inv : s.Inv) (known : Registering pid record s) :
    Unsettled pid record { s with holders := [pid] } := by
  have unaccepted : s.accepted = false := inv.pledged.unborn known.unforked.alone
  exact ⟨_, ⟨known.open_, unaccepted⟩, ⟨⟨known.unforked.keeper, known.unforked.kept,
    known.unforked.alone⟩, known.fits.mode, known.fits.whole, known.fits.names⟩, rfl, rfl⟩

theorem recordErrorUnlessTerminal_spec (marks : MarksFailure failed) :
    Triple policy pid (Registering pid record) (recordErrorUnlessTerminal record failed)
      fun _ => Apart pid := by
  have firm : Firm pid fun s => Unforked pid s ∧ s.Fits record := Firm.unforked.and (.fits record)
  refine locked_spec .registering (fun _ => .held) (fun _ inv known _ _ => known.unsettled inv)
    (fun _ _ _ known => known.apart) ?_ fun _ _ inv born _ => .leave inv born
  refine Spec.any fun standing => Spec.assume fun unsettled => ?_
  refine Spec.handle (readCurrent_spec firm) fun result => ?_
  cases result with
  | ok found =>
      refine Spec.strengthen (markFailure_spec marks unsettled.1 unsettled.2) fun _ _ known => ?_
      exact ⟨⟨known.1.1.1, known.2.1⟩, known.1.2⟩
  | error _ => exact markFailure_spec marks unsettled.1 unsettled.2

end Errors

section Fork

/-- The worker once it has forked the supervisor. -/
structure Delegated (pid supervisor : Nat) (s : Scene) : Prop where
  keeper : pid = setting.keeper
  kept : s.ghost.renounced = false
  delegate : s.ghost.delegate = some supervisor
  apart : Apart pid s

theorem Fact.delegated {supervisor : Nat} : Fact pid (Delegated pid supervisor) where
  stable inv inv' moved known :=
    ⟨known.keeper, (moved.office known.keeper.symm known.kept).1,
      moved.lasts.delegate supervisor known.delegate,
      Fact.apart.stable inv inv' moved known.apart⟩
  rewritten _ known := ⟨known.keeper, known.kept, known.delegate, known.apart.born, known.apart.absent⟩

/-- What the worker knows after the fork, by what the fork returned. -/
def forked (pid : Nat) (record : Meta) : Except IoError (Option Nat) → Scene → Prop
  | .ok (some supervisor) => Delegated pid supervisor
  | .ok none => Registering pid record
  | .error _ => fun _ => False

theorem spawnSupervisor_spec {errnoText : Bytes → String} {start : SupervisorStart}
    (lawful : Lawful policy) (open_ : terminal record = false) :
    Triple policy pid (Registering pid record)
      (Io.spawn ((runSupervisor setting.identityOf errnoText start record).program softwareExit))
      (forked pid record) := by
  have fact : Fact pid (Registering pid record) := .registering
  refine Spec.spawn fact.local_.stable (fun _ _ known => known) ?_
  intro view inv known _
  have absent := known.apart.absent
  let ghost : Ghost := { view.2 with delegate := some view.1.next }
  have newborn : scene ((system layout outside LegacyEntry.program).birth (some pid) view.1, ghost) =
      (scene view).birth ghost :=
    scene_birth view ghost fun other same => Option.some.inj same ▸ absent
  have leads : Scene.Leads pid (scene view) ((scene view).birth ghost) :=
    (Scene.Inv.delegate inv known.unforked.alone known.unforked.keeper).1
  have starting : Starting view.1.next record ((scene view).birth ghost) :=
    ⟨⟨⟨rfl, Function.update_self _ _ _⟩, known.open_⟩, leads.moves.lasts.fits known.fits,
      Nat.lt_succ_self _, fun held => Nat.lt_irrefl _ (inv.peopled.holder _ held).2⟩
  have safe : watch.Inv ((system layout outside LegacyEntry.program).birth (some pid) view.1,
      ghost) := by
    change (scene _).Inv
    rw [newborn]
    exact leads.inv
  refine ⟨ghost, safe, ?_, safe_of_triple (runSupervisor_spec lawful open_) (fun _ => .apart) safe ?_,
    ?_⟩
  · apply Scene.moves_of_scene
    rw [newborn]
    exact leads.moves
  · rw [newborn]
    exact starting
  · change Delegated pid view.1.next (scene _)
    rw [newborn]
    exact ⟨known.unforked.keeper, known.unforked.kept, rfl, Nat.lt_succ_of_lt known.apart.born,
      known.apart.absent⟩

theorem guardSupervisorExit_spec {supervisor : Nat} (lawful : Lawful policy)
    (turns : List GuardianTurn) :
    Triple policy pid (Delegated pid supervisor) (guardSupervisorExit turns supervisor)
      fun _ => Apart pid := by
  have waited : Triple policy pid (Delegated pid supervisor) (waitPid supervisor)
      (outcome (fun status => Guarding pid { reconciled := status == some 0 })
        fun _ _ => False) := by
    refine waitPid_spec .delegated fun s status _ known ceased => ?_
    exact ⟨⟨known.keeper, supervisor, known.delegate, by simp [ceased]⟩, known.apart,
      fun _ => known.kept, fun given => by simp at given⟩
  exact Spec.bind waited (fun _ => guardLoop_spec lawful turns) fun _ _ _ known => known.elim

end Fork

section Registration

variable {errnoText : Bytes → String} {startup : StartupOutside}

/-- A failure before the fork is recorded, and the worker leaves with 70. -/
theorem registrationFailed_spec {failed : Meta → Stamp → Meta} (marks : MarksFailure failed) :
    Triple policy pid (Registering pid record) (do
        let _ ← (recordErrorUnlessTerminal record failed).attempt
        Io.exit 70 : Script Unit) fun _ => Apart pid :=
  Spec.handle (recordErrorUnlessTerminal_spec marks) fun _ => exit_spec .apart

theorem startupError_spec {message : String} {role : Bool} (lawful : Lawful policy) :
    Triple policy pid (Registering pid record) (do
        recordSupervisorError record message false role
        Io.exit 70 : Script Unit) fun _ => Apart pid := by
  have firm : Firm pid fun s => Unforked pid s ∧ s.Fits record := Firm.unforked.and (.fits record)
  have recorded : Triple policy pid (fun s => (Unforked pid s ∧ s.Fits record) ∧ Apart pid s)
      (recordSupervisorError record message false role) fun _ => Apart pid :=
    recordSupervisorError_spec lawful firm (fun _ known => .inl known.1.sole) fun _ known => known.2
  exact Spec.bind (Spec.strengthen recorded fun _ _ known => known.firmly)
    (fun _ => exit_spec .apart) fun _ _ _ known => known

theorem forkSupervisor_spec (lawful : Lawful policy) (open_ : terminal record = false) :
    Triple policy pid (Registering pid record)
      (forkSupervisor setting.identityOf errnoText startup record) fun _ => Apart pid := by
  have fact : Fact pid (Registering pid record) := .registering
  refine Spec.bind (spawnSupervisor_spec lawful open_) (fun child => ?_) fun _ _ _ known => known.elim
  cases child with
  | some supervisor => exact guardSupervisorExit_spec lawful startup.guarding
  | none =>
      exact Spec.handle (fact.steady endPhysicalCustody_beside) fun _ => startupError_spec lawful

theorem daemonizationChild_spec (lawful : Lawful policy) (open_ : terminal record = false) :
    Triple policy pid (Registering pid record)
      (daemonizationChild setting.identityOf errnoText startup record) fun _ => Apart pid := by
  have fact : Fact pid (Registering pid record) := .registering
  have begun : beginPhysicalCustody.Makes concern.Beside :=
    .bind (outsideAsk_beside nofun) fun _ => atomicWrite_beside (by simp [concern])
  have left : Triple policy pid (Registering pid record) (Io.exit 70 : Script Unit)
      fun _ => Apart pid := exit_spec fact
  unfold daemonizationChild
  cases startup.setsid with
  | error _ => exact left
  | ok _ =>
      cases startup.subreaper with
      | error _ => exact startupError_spec lawful
      | ok _ =>
          cases startup.role with
          | error _ => exact left
          | ok _ =>
              refine Spec.handle (fact.steady begun) fun result => ?_
              cases result with
              | error _ => exact left
              | ok _ => exact forkSupervisor_spec lawful open_

/-- The worker is safe from the moment the record of the handle is there. -/
theorem registerAndStartSupervisor_spec (lawful : Lawful policy) (open_ : terminal record = false) :
    Triple policy pid (Registering pid record)
      (registerAndStartSupervisor setting.identityOf errnoText startup record)
      fun _ => Apart pid := by
  have never (detail : String) : MarksFailure fun record => applySupervisorErrorMetadata record
      ("completion event registration failed: " ++ detail) :=
    ⟨fun _ _ => rfl, fun _ _ => rfl, fun _ _ => rfl, fun _ _ => rfl⟩
  have unknown (detail : String) : MarksFailure fun record =>
      applyRegistrationUnknownMetadata record detail :=
    ⟨fun _ _ => rfl, fun _ _ => rfl, fun _ _ => rfl, fun _ _ => rfl⟩
  unfold registerAndStartSupervisor
  cases startup.prepare with
  | error _ => exact registrationFailed_spec (never _)
  | ok _ =>
      cases startup.register with
      | ok _ => exact daemonizationChild_spec lawful open_
      | error failure =>
          cases failure with
          | notStarted _ => exact registrationFailed_spec (never _)
          | admitted _ => exact registrationFailed_spec (unknown _)

end Registration

end Keeper

end TerminalLane

end AgentBash
