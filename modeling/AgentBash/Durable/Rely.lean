import AgentBash.Durable.Machine

/-!
# Rely-guarantee reasoning for interleaved crash-prone processes

A `Discipline` states an invariant of the shared state, what each process may rely on
while the others run, and what it guarantees in return. `Safe` walks one program, request
by request, under that interference. `run_good` turns one such walk for each program into
an invariant of every interleaving. A ghost component carries history that the machine
does not store; a proof chooses its next value at every step.
-/

namespace AgentBash.Durable

set_option autoImplicit false

variable {I : Interface} {σ γ : Type}

/-- `Guarantee` bounds what a process does, `Outer` what arrivals and the environment do. -/
structure Discipline (S : System I σ) (γ : Type) where
  Inv : σ × γ → Prop
  Rely : Nat → σ × γ → σ × γ → Prop
  Guarantee : Nat → σ × γ → σ × γ → Prop
  Outer : σ × γ → σ × γ → Prop
  refl : ∀ pid view, Rely pid view view
  trans : ∀ {pid first second third},
    Rely pid first second → Rely pid second third → Rely pid first third
  honoured : ∀ {pid other before after}, Inv before → Inv after →
    Guarantee pid before after → other ≠ pid → Rely other before after
  tolerated : ∀ {pid before after}, Inv before → Inv after → Outer before after →
    S.live pid before.1 → Rely pid before after

variable {S : System I σ}

/-- What one program still owes from a view: every request it reaches, after any
interference the discipline allows, keeps the invariant and the guarantee. -/
def Safe (D : Discipline S γ) (policy : System.Policy S) : Program I → Nat → σ × γ → Prop
  | .exit code, pid, view => ∀ now, D.Rely pid view now → D.Inv now → S.live pid now.1 →
      ∃ ghost, D.Inv (S.finish pid (some code) now.1, ghost) ∧
        D.Guarantee pid now (S.finish pid (some code) now.1, ghost)
  | .call op next, pid, view => ∀ now, D.Rely pid view now → D.Inv now → S.live pid now.1 →
      ∀ choice answer after, policy.call pid op choice now.1 →
        S.serve pid op choice now.1 = some (answer, after) →
        ∃ ghost, D.Inv (after, ghost) ∧ D.Guarantee pid now (after, ghost) ∧
          Safe D policy (next answer) pid (after, ghost)
  | .fork child next, pid, view => ∀ now, D.Rely pid view now → D.Inv now → S.live pid now.1 →
      Safe D policy (next none) pid now ∧
      ∃ ghost, D.Inv (S.birth (some pid) now.1, ghost) ∧
        D.Guarantee pid now (S.birth (some pid) now.1, ghost) ∧
        Safe D policy child (S.next now.1) (S.birth (some pid) now.1, ghost) ∧
        Safe D policy (next (some (S.next now.1))) pid (S.birth (some pid) now.1, ghost)

/-- Interference that a process already relies on does not invalidate what it owes. -/
theorem Safe.interfere {D : Discipline S γ} {policy : System.Policy S} {program : Program I}
    {pid : Nat} {view later : σ × γ}
    (safe : Safe D policy program pid view) (moved : D.Rely pid view later) :
    Safe D policy program pid later := by
  cases program <;> intro now more <;> exact safe now (D.trans moved more)

/-- What a discipline owes outside the programs: kills, environment changes and arrivals. -/
structure Discipline.Closed (D : Discipline S γ) (policy : System.Policy S) : Prop where
  kill : ∀ pid view, D.Inv view → S.live pid view.1 → policy.kill pid view.1 →
    ∃ ghost, D.Inv (S.finish pid none view.1, ghost) ∧
      D.Guarantee pid view (S.finish pid none view.1, ghost)
  change : ∀ what view after, D.Inv view → policy.change what view.1 →
    S.change what view.1 = some after →
    ∃ ghost, D.Inv (after, ghost) ∧ D.Outer view (after, ghost)
  enter : ∀ entry view, D.Inv view →
    ∃ ghost, D.Inv (S.birth none view.1, ghost) ∧ D.Outer view (S.birth none view.1, ghost) ∧
      Safe D policy (S.entry entry) (S.next view.1) (S.birth none view.1, ghost)

/-- A configuration whose shared state is invariant and whose processes are all safe. -/
def Discipline.Good (D : Discipline S γ) (policy : System.Policy S)
    (config : Config I σ) (ghost : γ) : Prop :=
  D.Inv (config.state, ghost) ∧
    ∀ pid program, config.procs pid = some program →
      S.live pid config.state ∧ Safe D policy program pid (config.state, ghost)

/-- What one event may do to the view, by the process that takes it. -/
def Discipline.Moves (D : Discipline S γ) : Event S → σ × γ → σ × γ → Prop
  | .enter _, before, after | .change _, before, after => D.Outer before after
  | .step pid _, before, after | .fork pid, before, after | .leave pid, before, after
  | .kill pid, before, after => D.Guarantee pid before after
  | .refuse _, before, after => before = after

namespace Discipline

variable {D : Discipline S γ} {policy : System.Policy S}

section Events

variable {before after : Config I σ} {ghost ghost' : γ} {state : σ} {pid : Nat}

/-- A process that goes on as it should, beside others that are not touched or rely on nothing
else, leaves all of them safe. -/
theorem good_run {program : Program I} (good : D.Good policy before ghost)
    (inv : D.Inv (state, ghost'))
    (own : S.live pid state ∧ Safe D policy program pid (state, ghost'))
    (live : ∀ other, other ≠ pid → S.live other before.state → S.live other state)
    (moved : ∀ other, other ≠ pid → S.live other before.state →
      D.Rely other (before.state, ghost) (state, ghost')) :
    D.Good policy (Config.run { before with state } pid program) ghost' := by
  refine ⟨inv, fun other remaining stays => ?_⟩
  by_cases same : other = pid
  · subst same
    simp only [Config.run, Function.update_self, Option.some.injEq] at stays
    exact stays ▸ own
  · simp only [Config.run, Function.update_of_ne same] at stays
    have old := good.2 other remaining stays
    exact ⟨live other same old.1, old.2.interfere (moved other same old.1)⟩

theorem good_drop (good : D.Good policy before ghost) (inv : D.Inv (state, ghost'))
    (live : ∀ other, other ≠ pid → S.live other before.state → S.live other state)
    (moved : ∀ other, other ≠ pid → D.Rely other (before.state, ghost) (state, ghost')) :
    D.Good policy (Config.drop { before with state } pid) ghost' := by
  refine ⟨inv, fun other remaining stays => ?_⟩
  by_cases same : other = pid
  · subst same
    simp [Config.drop] at stays
  · simp only [Config.drop, Function.update_of_ne same] at stays
    have old := good.2 other remaining stays
    exact ⟨live other same old.1, old.2.interfere (moved other same)⟩

theorem enter_good (closed : D.Closed policy) (entry : S.Entry)
    (good : D.Good policy before ghost) (applied : S.apply (.enter entry) before = some after) :
    ∃ ghost', D.Outer (before.state, ghost) (after.state, ghost') ∧ D.Good policy after ghost' := by
  obtain rfl := Option.some.inj applied
  obtain ⟨ghost', inv, outer, entered⟩ := closed.enter entry (before.state, ghost) good.1
  exact ⟨ghost', outer, good_run good inv ⟨S.born_live none before.state, entered⟩
    (fun _ _ alive => S.birth_live alive) fun _ _ alive => D.tolerated good.1 inv outer alive⟩

theorem change_good (closed : D.Closed policy) (what : S.Change)
    (good : D.Good policy before ghost) (permitted : policy.change what before.state)
    (applied : S.apply (.change what) before = some after) :
    ∃ ghost', D.Outer (before.state, ghost) (after.state, ghost') ∧ D.Good policy after ghost' := by
  simp only [System.apply, Option.map_eq_some_iff] at applied
  obtain ⟨state, changed, rfl⟩ := applied
  obtain ⟨ghost', inv, outer⟩ :=
    closed.change what (before.state, ghost) state good.1 permitted changed
  refine ⟨ghost', outer, inv, fun pid program running => ?_⟩
  have old := good.2 pid program running
  exact ⟨S.change_live changed old.1, old.2.interfere (D.tolerated good.1 inv outer old.1)⟩

theorem step_good {choice : S.Choice} (good : D.Good policy before ghost)
    (permitted : policy.permits before (.step pid choice))
    (applied : S.apply (.step pid choice) before = some after) :
    ∃ ghost', D.Guarantee pid (before.state, ghost) (after.state, ghost') ∧
      D.Good policy after ghost' := by
  obtain ⟨op, next, answer, state, running, served, rfl⟩ := System.of_apply_step applied
  have own := good.2 pid _ running
  obtain ⟨ghost', inv, promise, rest⟩ := own.2 (before.state, ghost) (D.refl pid _) good.1 own.1
    choice answer state (permitted op next running) served
  exact ⟨ghost', promise, good_run good inv ⟨S.serve_live served own.1, rest⟩
    (fun _ _ => S.serve_live served) fun _ different _ => D.honoured good.1 inv promise different⟩

theorem fork_good (good : D.Good policy before ghost)
    (applied : S.apply (.fork pid) before = some after) :
    ∃ ghost', D.Guarantee pid (before.state, ghost) (after.state, ghost') ∧
      D.Good policy after ghost' := by
  obtain ⟨child, next, running, rfl⟩ := System.of_apply_fork applied
  have own := good.2 pid _ running
  obtain ⟨-, ghost', inv, promise, childSafe, rest⟩ := own.2 (before.state, ghost) (D.refl pid _)
    good.1 own.1
  refine ⟨ghost', promise, inv, fun other remaining stays => ?_⟩
  by_cases same : other = pid
  · subst same
    simp only [Config.run, Function.update_self, Option.some.injEq] at stays
    exact stays ▸ ⟨S.birth_live own.1, rest⟩
  · by_cases newborn : other = S.next before.state
    · subst newborn
      simp only [Config.run, Function.update_of_ne same, Function.update_self,
        Option.some.injEq] at stays
      exact stays ▸ ⟨S.born_live (some pid) before.state, childSafe⟩
    · simp only [Config.run, Function.update_of_ne same, Function.update_of_ne newborn] at stays
      have old := good.2 other remaining stays
      exact ⟨S.birth_live old.1, old.2.interfere (D.honoured good.1 inv promise same)⟩

theorem refuse_good (good : D.Good policy before ghost)
    (applied : S.apply (.refuse pid) before = some after) :
    (before.state, ghost) = (after.state, ghost) ∧ D.Good policy after ghost := by
  obtain ⟨child, next, running, rfl⟩ := System.of_apply_refuse applied
  have own := good.2 pid _ running
  have rest := (own.2 (before.state, ghost) (D.refl pid _) good.1 own.1).1
  exact ⟨rfl, good_run good good.1 ⟨own.1, rest⟩ (fun _ _ alive => alive)
    fun other _ _ => D.refl other _⟩

theorem leave_good (good : D.Good policy before ghost)
    (applied : S.apply (.leave pid) before = some after) :
    ∃ ghost', D.Guarantee pid (before.state, ghost) (after.state, ghost') ∧
      D.Good policy after ghost' := by
  obtain ⟨code, running, rfl⟩ := System.of_apply_leave applied
  have own := good.2 pid _ running
  obtain ⟨ghost', inv, promise⟩ := own.2 (before.state, ghost) (D.refl pid _) good.1 own.1
  exact ⟨ghost', promise, good_drop good inv (fun _ different => S.finish_live different)
    fun _ different => D.honoured good.1 inv promise different⟩

theorem kill_good (closed : D.Closed policy) (good : D.Good policy before ghost)
    (permitted : policy.kill pid before.state) (applied : S.apply (.kill pid) before = some after) :
    ∃ ghost', D.Guarantee pid (before.state, ghost) (after.state, ghost') ∧
      D.Good policy after ghost' := by
  obtain ⟨program, running, rfl⟩ := System.of_apply_kill applied
  obtain ⟨ghost', inv, promise⟩ := closed.kill pid (before.state, ghost) good.1
    (good.2 pid _ running).1 permitted
  exact ⟨ghost', promise, good_drop good inv (fun _ different => S.finish_live different)
    fun _ different => D.honoured good.1 inv promise different⟩

end Events

/-- One permitted event keeps every process safe and moves the view as its taker promised. -/
theorem apply_good (closed : D.Closed policy) {before after : Config I σ} {ghost : γ}
    (event : Event S) (good : D.Good policy before ghost)
    (permitted : policy.permits before event) (applied : S.apply event before = some after) :
    ∃ ghost', D.Moves event (before.state, ghost) (after.state, ghost') ∧
      D.Good policy after ghost' := by
  cases event with
  | enter entry => exact enter_good closed entry good applied
  | change what => exact change_good closed what good permitted applied
  | step pid choice => exact step_good good permitted applied
  | fork pid => exact fork_good good applied
  | refuse pid => exact ⟨ghost, refuse_good good applied⟩
  | leave pid => exact leave_good good applied
  | kill pid => exact kill_good closed good permitted applied

/-- What every event that ends inside keeps, a run that stays inside keeps. -/
theorem stay_keeps (closed : D.Closed policy) {inside : Config I σ → Prop} {K : σ × γ → Prop}
    (kept : ∀ event before (after : Config I σ) ghost, D.Inv before → D.Inv (after.state, ghost) →
      D.Moves event before (after.state, ghost) → inside after → K before → K (after.state, ghost))
    {start final : Config I σ} {ghost : γ} (good : D.Good policy start ghost)
    (holds : K (start.state, ghost)) (stay : System.Stay policy inside start final) :
    ∃ ghost', D.Good policy final ghost' ∧ K (final.state, ghost') := by
  induction stay with
  | start _ => exact ⟨ghost, good, holds⟩
  | step event _ permitted applied within ih =>
      obtain ⟨before, good, holds⟩ := ih
      obtain ⟨after, moves, good'⟩ := apply_good closed event good permitted applied
      exact ⟨after, good', kept event _ _ after good.1 good'.1 moves within holds⟩

/-- What every move keeps holds in all configurations that a permitted run reaches. -/
theorem run_keeps (closed : D.Closed policy) {K : σ × γ → Prop}
    (kept : ∀ event before after, D.Inv before → D.Inv after → D.Moves event before after →
      K before → K after) {start final : Config I σ} {ghost : γ}
    (good : D.Good policy start ghost) (holds : K (start.state, ghost))
    (run : System.Run policy start final) :
    ∃ ghost', D.Good policy final ghost' ∧ K (final.state, ghost') :=
  stay_keeps closed (fun event before after ghost inv inv' moves _ =>
    kept event before (after.state, ghost) inv inv' moves) good holds run.stay

theorem run_good (closed : D.Closed policy) {start final : Config I σ} {ghost : γ}
    (good : D.Good policy start ghost) (run : System.Run policy start final) :
    ∃ ghost', D.Good policy final ghost' :=
  (run_keeps closed (K := fun _ => True) (fun _ _ _ _ _ _ _ => trivial) good trivial run).imp
    fun _ kept => kept.1

end Discipline

end AgentBash.Durable
