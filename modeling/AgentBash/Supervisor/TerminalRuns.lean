import AgentBash.Supervisor.TerminalGuardian

/-!
# A handle ends once

Every run of a handle without a registration, from the moment its record is there: the worker, its
supervisor and every call may interleave in any order, fail and be killed. The verdict is given
once, and a completion is handed over only for a handle that has it or never gets it.
-/

namespace AgentBash

set_option autoImplicit false

open Durable

namespace TerminalLane

abbrev LegacyConfig := Config (requests layout outside) HandleDisk

def verdictOf (disk : HandleDisk) : Option Verdict :=
  (disk.files File.metaJson).bind Meta.verdict

section Runs

variable [setting : Setting] {policy : System.Policy legacySystem} {start middle final : LegacyConfig}

/-- The handle is there and open, and nobody but the worker that is to register it is running. -/
structure Launched (start : LegacyConfig) : Prop where
  alone : ∀ pid program, start.procs pid = some program → pid = setting.keeper ∧
    ∃ errnoText startup record, start.state.files File.metaJson = some record ∧
      program = (registerAndStartSupervisor setting.identityOf errnoText startup record).program
        softwareExit
  live : start.state.live setting.keeper
  recorded : ∃ record : Meta, start.state.files File.metaJson = some record ∧
    record.mode = setting.mode ∧ record.state = .running ∧ record.supervisorPid = none
  free : start.state.held Lock.completion = []
  unaccepted : start.state.files File.acceptedCancel = none
  legacy : start.state.files File.registration = none
  undelivered : start.state.world.completions = 0

theorem Launched.registering (launched : Launched start) {record : Meta}
    (present : start.state.files File.metaJson = some record) :
    terminal record = false ∧ Registering setting.keeper record (scene (start.state, {})) := by
  obtain ⟨stored, same, mode, running, unnamed⟩ := launched.recorded
  obtain rfl : stored = record := Option.some.inj (same.symm.trans present)
  have open_ : terminal stored = false := by simp [terminal, running]
  refine ⟨open_, ⟨rfl, rfl, rfl⟩, ?_, ⟨mode, .inr running, fun number named => ?_⟩,
    launched.live.1, fun held => ?_⟩
  · simp [scene, Scene.verdict, same, Meta.verdict_of_open open_]
  · cases unnamed.symm.trans named
  · simp [scene, launched.free] at held

theorem Launched.inv (launched : Launched start) : (scene (start.state, {})).Inv := by
  obtain ⟨record, present, -⟩ := launched.recorded
  obtain ⟨-, registering⟩ := launched.registering present
  have unmarked : (scene (start.state, {})).marker = false := by
    simp [scene, launched.unaccepted]
  have unaccepted : (scene (start.state, {})).accepted = false := by
    simp [Scene.accepted, unmarked]
  have free : (scene (start.state, {})).holders = [] := launched.free
  have undelegated : (scene (start.state, {})).ghost.delegate = none := rfl
  have unpledged : (scene (start.state, {})).ghost.pledged = false := rfl
  have unrenounced : (scene (start.state, {})).ghost.renounced = false := rfl
  have unwarded (child : Nat) : (scene (start.state, {})).ghost.wards child = none := rfl
  refine ⟨by simp [scene, launched.legacy], ⟨record, present, registering.fits⟩,
    fun verdict same => ?_,
    ⟨fun pid held => ?_, launched.live.1, fun pid same => ?_⟩,
    ⟨fun pledged => ?_, fun _ accepted => ?_, fun _ => unaccepted⟩,
    fun renounced => ?_, fun child _ same => ?_,
    fun delivered => absurd launched.undelivered delivered⟩
  · cases registering.open_.symm.trans same
  · rw [free] at held
    cases held
  · cases undelegated.symm.trans same
  · cases unpledged.symm.trans pledged
  · cases unaccepted.symm.trans accepted
  · cases unrenounced.symm.trans renounced
  · cases (unwarded child).symm.trans same

theorem Launched.good (lawful : Lawful policy) (launched : Launched start) :
    (watch.discipline LegacyEntry.program).Good policy start {} := by
  refine ⟨launched.inv, fun pid program running => ?_⟩
  obtain ⟨rfl, errnoText, startup, record, present, rfl⟩ := launched.alone pid program running
  obtain ⟨open_, registering⟩ := launched.registering present
  exact ⟨launched.live, safe_of_triple (registerAndStartSupervisor_spec lawful open_)
    (fun _ => .apart) launched.inv registering⟩

/-- Processes may be killed, and calls may come, at any time. -/
theorem terminal_closed (lawful : Lawful policy) :
    (watch.discipline LegacyEntry.program).Closed policy where
  kill pid view inv live _ := finish_reaches none inv live
  change what := nomatch what
  enter entry view inv := by
    obtain ⟨inv', moves⟩ := Scene.Inv.birth none (fun _ => True) inv
    have newborn : scene ((system layout outside LegacyEntry.program).birth none view.1,
        view.2.adopt view.1.next none) = (scene view).birth (view.2.adopt view.1.next none) :=
      scene_birth view _ nofun
    have safe : watch.Inv ((system layout outside LegacyEntry.program).birth none view.1,
        view.2.adopt view.1.next none) := by
      change (scene _).Inv
      rw [newborn]
      exact inv'
    refine ⟨view.2.adopt view.1.next none, safe, Scene.moves_of_scene ?_, entry_safe lawful safe ?_ entry⟩
    · rw [newborn]
      exact moves
    · rw [newborn]
      exact ⟨Nat.lt_succ_self _, fun held => Nat.lt_irrefl _ (inv.peopled.holder _ held).2⟩

theorem lasts_of_moves {event : Event legacySystem} {before after : View}
    (moves : (watch.discipline LegacyEntry.program).Moves event before after) :
    (scene before).Lasts (scene after) := by
  cases event with
  | enter _ => exact Stakes.Moves.lasts moves
  | change _ => exact Stakes.Moves.lasts moves
  | step _ _ => exact Stakes.Moves.lasts moves
  | fork _ => exact Stakes.Moves.lasts moves
  | leave _ => exact Stakes.Moves.lasts moves
  | kill _ => exact Stakes.Moves.lasts moves
  | refuse _ =>
      obtain rfl : before = after := moves
      exact .refl _

theorem run_lasts (lawful : Lawful policy) {ghost : Ghost}
    (good : (watch.discipline LegacyEntry.program).Good policy start ghost)
    (run : System.Run policy start final) :
    ∃ later, (watch.discipline LegacyEntry.program).Good policy final later ∧
      (scene (start.state, ghost)).Lasts (scene (final.state, later)) := by
  apply Discipline.run_keeps (terminal_closed lawful)
    (K := fun view => (scene (start.state, ghost)).Lasts (scene view)) _ good (.refl _) run
  intro event before after _ _ moves lasts
  exact lasts.trans (lasts_of_moves moves)

/-- What a verdict means for everything that comes after it. -/
structure VerdictKept (before after : HandleDisk) : Prop where
  settled : ∀ verdict, verdictOf before = some verdict → verdictOf after = some verdict ∧
    verdict.rc.isSome ∧ before.files File.rc = verdict.rc ∧ after.files File.rc = verdict.rc
  cancelled : verdictOf before = none → before.files File.acceptedCancel ≠ none →
    before.held Lock.completion = [] → ∀ verdict, verdictOf after = some verdict → verdict.cancelled

/-- However the worker, the supervisor, the guardian and all calls interleave, fail and are killed,
a handle ends once: its state, reason, status and time stand from then on, with the status in its
own file, and a cancellation that was accepted before is what the handle ends with. -/
theorem terminal_once (lawful : Lawful policy) (launched : Launched start)
    (first : System.Run policy start middle) (second : System.Run policy middle final) :
    VerdictKept middle.state final.state := by
  obtain ⟨ghost, good, -⟩ := run_lasts lawful (launched.good lawful) first
  obtain ⟨later, good', lasts⟩ := run_lasts lawful good second
  have inv : (scene (middle.state, ghost)).Inv := good.1
  have inv' : (scene (final.state, later)).Inv := good'.1
  refine ⟨fun verdict same => ?_, fun unsettled marked free verdict same => ?_⟩
  · have known : (scene (middle.state, ghost)).verdict = some verdict := same
    obtain ⟨still, rc⟩ := lasts.settled verdict known
    obtain ⟨given, stored⟩ := inv.settled verdict known
    exact ⟨still, given, stored, rc.trans stored⟩
  · have accepted : (scene (middle.state, ghost)).accepted = true := by
      have open_ : (scene (middle.state, ghost)).verdict = none := unsettled
      have standing : (scene (middle.state, ghost)).marker = true :=
        Option.isSome_iff_ne_none.mpr marked
      simp [Scene.accepted, open_, standing]
    have pledged := lasts.pledged (inv.pledged.given free accepted)
    have known : (scene (final.state, later)).verdict = some verdict := same
    rcases inv'.pledged.kept pledged with open_ | ⟨other, stands, cancelled⟩
    · simp [Scene.accepted, known] at open_
    · exact Option.some.inj (known.symm.trans stands) ▸ cancelled

theorem tenure_exit {s : Scene} (exits : setting.mode = .exit) : s.tenure ≠ .nobody := by
  unfold Scene.tenure
  cases s.ghost.delegate with
  | none => nofun
  | some delegate => by_cases running : s.ended delegate = none <;> simp [running, exits]

/-- What the hand-over of a completion means for the verdict. -/
structure DeliveredDecided (before after : HandleDisk) : Prop where
  terminated : ∀ record : Meta, before.files File.metaJson = some record → record.mode = .exit →
    terminal record = true ∧ record.rc.isSome ∧ before.files File.rc = record.rc
  final : verdictOf after = verdictOf before

/-- A completion helper is started only once the verdict stands. An exit handle has ended by then;
a sentinel handle without a verdict never gets one. -/
theorem delivered_decided (lawful : Lawful policy) (launched : Launched start)
    (first : System.Run policy start middle) (delivered : middle.state.world.completions ≠ 0)
    (second : System.Run policy middle final) : DeliveredDecided middle.state final.state := by
  obtain ⟨ghost, good, -⟩ := run_lasts lawful (launched.good lawful) first
  obtain ⟨later, good', lasts⟩ := run_lasts lawful good second
  have inv : (scene (middle.state, ghost)).Inv := good.1
  have decided : (scene (middle.state, ghost)).Decided := inv.delivered delivered
  refine ⟨fun record present exits => ?_, lasts.verdict decided⟩
  obtain ⟨stored, same, fits⟩ := inv.recorded
  obtain rfl : stored = record := Option.some.inj (same.symm.trans present)
  have mode : setting.mode = .exit := fits.mode.symm.trans exits
  have known : (scene (middle.state, ghost)).verdict = stored.verdict := by
    simp [Scene.verdict, same]
  rcases decided with settled | nobody
  · by_cases terminated : terminal stored = true
    · have verdict := known.trans (Meta.verdict_of_terminal terminated)
      obtain ⟨given, written⟩ := inv.settled _ verdict
      exact ⟨terminated, given, written⟩
    · exact absurd (known.trans (Meta.verdict_of_open (by simpa using terminated))) settled
  · exact absurd nobody (tenure_exit mode)

/-- The code relies on two answers of the outside, and these are right. -/
def truthful : System.Policy legacySystem where
  call _ op choice disk :=
    (op = .read File.registration → ∀ error, choice ≠ .fault error) ∧
      ∀ table, choice = .outside (.processes table) → ∀ other, disk.live other →
        table (setting.identityOf other) ≠ .notFound
  kill _ _ := True
  change _ _ := True

theorem truthful_lawful : Lawful truthful where
  registration permitted := permitted.1 rfl _ rfl
  present permitted living := permitted.2 _ rfl _ living

/-- Events that no truthful outside forbids. -/
def unforced : Event legacySystem → Bool
  | .step _ (.fault _) | .step _ (.outside (.processes _)) => false
  | _ => true

theorem truthful_permits (config : LegacyConfig) (event : Event legacySystem)
    (free : unforced event = true) : truthful.permits config event := by
  cases event with
  | step pid choice =>
      intro op next _
      refine ⟨fun _ error same => ?_, fun table same => ?_⟩ <;> subst same <;> cases free
  | _ => trivial

end Runs

section Samples

local instance : Setting := ⟨.exit, 0, fun pid => pid⟩

/-- In its first turn the supervisor learns of the request and reaps the workload that it ended. -/
def cancelledStartup : StartupOutside where
  supervisor :=
    { identity := some ⟨7, "boot"⟩
      workload := .ok 9
      completionScope := .tree
      turns :=
        [{ ready := [.sigchld true { children := [.root 15], ending := .noChild },
            .stdout (.ok .closed) (.ok ()), .stderr (.ok .closed) (.ok ()),
            .execErr (.ok .closed)] }, {}] }
  guarding := []

/-- The worker 0 is about to register a handle. -/
def launchedHandle : LegacyConfig where
  state :=
    { files := fun | .metaJson => some {} | _ => none
      held := fun _ => []
      next := 1
      ended := fun _ => none
      parent := fun _ => none
      gates := fun _ => .waiting
      world := {} }
  procs pid :=
    if pid = 0 then
      some ((registerAndStartSupervisor Setting.identityOf (fun _ => "") cancelledStartup {}).program
        softwareExit)
    else none

theorem launchedHandle_launched : Launched launchedHandle where
  alone pid program running := by
    by_cases same : pid = 0
    · subst same
      exact ⟨rfl, fun _ => "", cancelledStartup, {}, rfl, (Option.some.inj running).symm⟩
    · simp [launchedHandle, same] at running
  live := ⟨Nat.one_pos, rfl⟩
  recorded := ⟨_, rfl, rfl, rfl, rfl⟩
  free := rfl
  unaccepted := rfl
  legacy := rfl
  undelivered := rfl

abbrev passes (pid count : Nat) : List (Event legacySystem) := List.replicate count (.step pid .pass)

abbrev answers (pid : Nat) (decision : Decision) : Event legacySystem :=
  .step pid (.outside decision)

/-- The supervisor 1 records itself, and the call 2 has a cancellation accepted. -/
def acceptedCancellation : List (Event legacySystem) :=
  answers 0 (.boot (some 7)) :: passes 0 2 ++ [.fork 0] ++ passes 1 4 ++ [.enter (.cancel {})] ++
  passes 2 8 ++ [.leave 2]

/-- The supervisor settles the handle, and its custodian 3 lets the worker 4 start a helper. -/
def cancelledExit : List (Event legacySystem) :=
  passes 1 30 ++ [answers 1 .agree, answers 1 (.time 5), answers 1 (.time 5)] ++ passes 1 14 ++
  [answers 1 .agree, .fork 1, answers 1 .agree, .step 1 .pass] ++
  [.step 3 .pass, answers 3 .agree, .step 3 .pass, answers 3 .agree, .fork 3] ++
  [.step 4 .pass, answers 4 .agree] ++ passes 4 3 ++ [answers 4 .agree]

def deliveredExit : List (Event legacySystem) :=
  answers 4 (.exited (.code 0)) :: passes 4 3 ++ [.leave 4]

theorem cancelledExit_delivered :
    ((legacySystem.play (fun _ event => unforced event) acceptedCancellation launchedHandle).bind
      fun middle => (legacySystem.play (fun _ event => unforced event) cancelledExit middle).bind
        fun one => (legacySystem.play (fun _ event => unforced event) deliveredExit one).map
          fun two => (verdictOf middle.state, (middle.state.files File.acceptedCancel).isSome,
            middle.state.held Lock.completion, (verdictOf one.state).isSome,
            one.state.world.completions, (verdictOf two.state).isSome)) =
      some (none, true, [], true, 1, true) := by
  decide +kernel

theorem terminal_once_cancelled : ∃ middle final verdict,
    legacySystem.play (fun _ event => unforced event) acceptedCancellation launchedHandle =
        some middle ∧
      legacySystem.play (fun _ event => unforced event) cancelledExit middle = some final ∧
      verdictOf final.state = some verdict ∧ verdict.cancelled ∧
      VerdictKept middle.state final.state := by
  obtain ⟨middle, played, rest⟩ := Option.bind_eq_some_iff.mp cancelledExit_delivered
  obtain ⟨final, played', rest⟩ := Option.bind_eq_some_iff.mp rest
  obtain ⟨_, -, known⟩ := Option.map_eq_some_iff.mp rest
  simp only [Prod.mk.injEq] at known
  obtain ⟨open_, marked, free, settled, -⟩ := known
  obtain ⟨verdict, same⟩ := Option.isSome_iff_exists.mp settled
  have kept := terminal_once truthful_lawful launchedHandle_launched
    (System.Run.of_play truthful_permits played) (System.Run.of_play truthful_permits played')
  exact ⟨middle, final, verdict, played, played', same,
    kept.cancelled open_ (Option.isSome_iff_ne_none.mp marked) free verdict same, kept⟩

theorem delivered_decided_cancelled : ∃ middle one two,
    legacySystem.play (fun _ event => unforced event) acceptedCancellation launchedHandle =
        some middle ∧
      legacySystem.play (fun _ event => unforced event) cancelledExit middle = some one ∧
      legacySystem.play (fun _ event => unforced event) deliveredExit one = some two ∧
      one.state.world.completions = 1 ∧ DeliveredDecided one.state two.state := by
  obtain ⟨middle, played, rest⟩ := Option.bind_eq_some_iff.mp cancelledExit_delivered
  obtain ⟨one, played', rest⟩ := Option.bind_eq_some_iff.mp rest
  obtain ⟨two, played'', known⟩ := Option.map_eq_some_iff.mp rest
  simp only [Prod.mk.injEq] at known
  obtain ⟨-, -, -, -, delivered, -⟩ := known
  refine ⟨middle, one, two, played, played', played'', delivered, ?_⟩
  exact delivered_decided truthful_lawful launchedHandle_launched
    ((System.Run.of_play truthful_permits played).trans (System.Run.of_play truthful_permits played'))
    (by simp [delivered]) (System.Run.of_play truthful_permits played'')

end Samples

end TerminalLane

end AgentBash
