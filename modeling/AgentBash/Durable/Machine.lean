import AgentBash.Durable.Program
import Mathlib.Data.Option.Basic

/-!
# The machine: interleaving, kills and environment changes

The machine holds the shared state and the program each live process still has to run.
One event moves one process by one request, so every interleaving and every kill
between two requests is a list of events. Process incarnations are never reused.
-/

namespace AgentBash.Durable

set_option autoImplicit false

/-- How requests act on the shared state. A `Choice` is what the outside world decides
about one request (whether it fails, what it reads); `serve` is `none` where the request
has to wait or the choice is impossible. Incarnations are numbered in birth order and
only `finish` ends one. -/
structure Kernel (I : Interface) (σ : Type) where
  Choice : Type
  serve : Nat → (op : I.Op) → Choice → σ → Option (I.Answer op × σ)
  next : σ → Nat
  birth : Option Nat → σ → σ
  finish : Nat → Option Nat → σ → σ
  Change : Type
  change : Change → σ → Option σ
  live : Nat → σ → Prop
  live_lt : ∀ {pid state}, live pid state → pid < next state
  serve_live : ∀ {pid op choice before answer after other},
    serve pid op choice before = some (answer, after) → live other before → live other after
  birth_live : ∀ {parent state other}, live other state → live other (birth parent state)
  born_live : ∀ parent state, live (next state) (birth parent state)
  finish_live : ∀ {pid status state other}, other ≠ pid → live other state →
    live other (finish pid status state)
  change_live : ∀ {what before after other},
    change what before = some after → live other before → live other after

/-- A kernel with the programs that may be started from outside at any time. -/
structure System (I : Interface) (σ : Type) extends Kernel I σ where
  Entry : Type
  entry : Entry → Program I

structure Config (I : Interface) (σ : Type) where
  state : σ
  procs : Nat → Option (Program I)

inductive Event {I : Interface} {σ : Type} (S : System I σ) where
  | enter (entry : S.Entry)
  | change (what : S.Change)
  | step (pid : Nat) (choice : S.Choice)
  | fork (pid : Nat)
  | refuse (pid : Nat)
  | leave (pid : Nat)
  | kill (pid : Nat)

variable {I : Interface} {σ : Type}

namespace Config

def run (config : Config I σ) (pid : Nat) (program : Program I) : Config I σ :=
  { config with procs := Function.update config.procs pid (some program) }

def drop (config : Config I σ) (pid : Nat) : Config I σ :=
  { config with procs := Function.update config.procs pid none }

end Config

namespace System

variable (S : System I σ)

/-- One event; `none` when the process it names is not at such a request. -/
def apply : Event S → Config I σ → Option (Config I σ)
  | .enter entry, config =>
      some (Config.run { config with state := S.birth none config.state }
        (S.next config.state) (S.entry entry))
  | .change what, config =>
      (S.change what config.state).map fun state => { config with state }
  | .step pid choice, config =>
      match config.procs pid with
      | some (.call op next) =>
          (S.serve pid op choice config.state).map fun served =>
            Config.run { config with state := served.2 } pid (next served.1)
      | _ => none
  | .fork pid, config =>
      match config.procs pid with
      | some (.fork child next) =>
          let born := S.next config.state
          some (((Config.run { config with state := S.birth (some pid) config.state }
            born child)).run pid (next (some born)))
      | _ => none
  | .refuse pid, config =>
      match config.procs pid with
      | some (.fork _ next) => some (config.run pid (next none))
      | _ => none
  | .leave pid, config =>
      match config.procs pid with
      | some (.exit code) =>
          some (Config.drop { config with state := S.finish pid (some code) config.state } pid)
      | _ => none
  | .kill pid, config =>
      match config.procs pid with
      | some _ => some (Config.drop { config with state := S.finish pid none config.state } pid)
      | none => none

section Inversion

variable {S} {pid : Nat} {before after : Config I σ}

attribute [local simp] apply

theorem of_apply_step {choice : S.Choice} (applied : S.apply (.step pid choice) before = some after) :
    ∃ op next answer state, before.procs pid = some (.call op next) ∧
      S.serve pid op choice before.state = some (answer, state) ∧
      after = Config.run { before with state } pid (next answer) := by
  cases running : before.procs pid with
  | none => simp [running] at applied
  | some program =>
      cases program with
      | exit code => simp [running] at applied
      | fork child next => simp [running] at applied
      | call op next =>
          simp only [apply, running, Option.map_eq_some_iff] at applied
          obtain ⟨⟨answer, state⟩, served, rfl⟩ := applied
          exact ⟨op, next, answer, state, rfl, served, rfl⟩

theorem of_apply_fork (applied : S.apply (.fork pid) before = some after) :
    ∃ child next, before.procs pid = some (.fork child next) ∧
      after = ((Config.run { before with state := S.birth (some pid) before.state }
        (S.next before.state) child)).run pid (next (some (S.next before.state))) := by
  cases running : before.procs pid with
  | none => simp [running] at applied
  | some program =>
      cases program with
      | exit code => simp [running] at applied
      | call op next => simp [running] at applied
      | fork child next =>
          simp only [apply, running, Option.some.injEq] at applied
          exact ⟨child, next, rfl, applied.symm⟩

theorem of_apply_refuse (applied : S.apply (.refuse pid) before = some after) :
    ∃ child next, before.procs pid = some (.fork child next) ∧
      after = before.run pid (next none) := by
  cases running : before.procs pid with
  | none => simp [running] at applied
  | some program =>
      cases program with
      | exit code => simp [running] at applied
      | call op next => simp [running] at applied
      | fork child next =>
          simp only [apply, running, Option.some.injEq] at applied
          exact ⟨child, next, rfl, applied.symm⟩

theorem of_apply_leave (applied : S.apply (.leave pid) before = some after) :
    ∃ code, before.procs pid = some (.exit code) ∧
      after = Config.drop { before with state := S.finish pid (some code) before.state } pid := by
  cases running : before.procs pid with
  | none => simp [running] at applied
  | some program =>
      cases program with
      | call op next => simp [running] at applied
      | fork child next => simp [running] at applied
      | exit code =>
          simp only [apply, running, Option.some.injEq] at applied
          exact ⟨code, rfl, applied.symm⟩

theorem of_apply_kill (applied : S.apply (.kill pid) before = some after) :
    ∃ program, before.procs pid = some program ∧
      after = Config.drop { before with state := S.finish pid none before.state } pid := by
  cases running : before.procs pid with
  | none => simp [running] at applied
  | some program =>
      simp only [apply, running, Option.some.injEq] at applied
      exact ⟨program, rfl, applied.symm⟩

end Inversion

/-- The events a run is allowed to contain, decided on the state before each of them. -/
structure Policy where
  call : Nat → (op : I.Op) → S.Choice → σ → Prop
  kill : Nat → σ → Prop
  change : S.Change → σ → Prop

def Policy.free : Policy S := ⟨fun _ _ _ _ => True, fun _ _ => True, fun _ _ => True⟩

variable {S}

/-- Only calls, kills and environment changes are ever restricted. -/
def Policy.permits (policy : Policy S) (config : Config I σ) : Event S → Prop
  | .step pid choice => ∀ op next, config.procs pid = some (.call op next) →
      policy.call pid op choice config.state
  | .kill pid => policy.kill pid config.state
  | .change what => policy.change what config.state
  | _ => True

/-- The configurations that permitted events lead to. -/
inductive Run (policy : Policy S) (start : Config I σ) : Config I σ → Prop
  | start : Run policy start start
  | step {before after : Config I σ} (event : Event S) :
      Run policy start before → policy.permits before event →
        S.apply event before = some after → Run policy start after

inductive Stay (policy : Policy S) (inside : Config I σ → Prop) (start : Config I σ) :
    Config I σ → Prop
  | start : inside start → Stay policy inside start start
  | step {before after : Config I σ} (event : Event S) :
      Stay policy inside start before → policy.permits before event →
        S.apply event before = some after → inside after → Stay policy inside start after

/-- Plays a fixed list of events, each of which has to be allowed. -/
def play (S : System I σ) (allowed : Config I σ → Event S → Bool) :
    List (Event S) → Config I σ → Option (Config I σ)
  | [], config => some config
  | event :: events, config =>
      if allowed config event then (S.apply event config).bind (S.play allowed events) else none

theorem Policy.free_permits (config : Config I σ) (event : Event S) :
    (Policy.free S).permits config event := by
  cases event <;> simp [Policy.permits, Policy.free]

theorem Run.trans {policy : Policy S} {start middle final : Config I σ}
    (first : Run policy start middle) (second : Run policy middle final) :
    Run policy start final := by
  induction second with
  | start => exact first
  | step event _ permitted applied ih => exact .step event ih permitted applied

theorem Stay.trans {policy : Policy S} {inside : Config I σ → Prop}
    {start middle final : Config I σ} (first : Stay policy inside start middle)
    (second : Stay policy inside middle final) : Stay policy inside start final := by
  induction second with
  | start _ => exact first
  | step event _ permitted applied within ih => exact .step event ih permitted applied within

theorem Stay.inside_start {policy : Policy S} {inside : Config I σ → Prop}
    {start final : Config I σ} (stay : Stay policy inside start final) : inside start := by
  induction stay with
  | start within => exact within
  | step _ _ _ _ _ ih => exact ih

theorem Run.stay {policy : Policy S} {start final : Config I σ} (run : Run policy start final) :
    Stay policy (fun _ => True) start final := by
  induction run with
  | start => exact .start trivial
  | step event _ permitted applied ih => exact .step event ih permitted applied trivial

theorem Stay.run {policy : Policy S} {inside : Config I σ → Prop} {start final : Config I σ}
    (stay : Stay policy inside start final) : Run policy start final := by
  induction stay with
  | start _ => exact .start
  | step event _ permitted applied _ ih => exact .step event ih permitted applied

theorem Run.of_play {policy : Policy S} {allowed : Config I σ → Event S → Bool}
    {events : List (Event S)} {start final : Config I σ}
    (sound : ∀ config event, allowed config event = true → policy.permits config event)
    (played : S.play allowed events start = some final) : Run policy start final := by
  induction events generalizing start with
  | nil =>
      simp only [play, Option.some.injEq] at played
      exact played ▸ .start
  | cons event events ih =>
      rw [play] at played
      split at played
      · next permitted =>
        obtain ⟨middle, applied, rest⟩ := Option.bind_eq_some_iff.mp played
        exact Run.trans (.step event .start (sound start event permitted) applied) (ih rest)
      · cases played

/-- It stays inside where that is checked before every event and at the end. -/
theorem Stay.of_play {policy : Policy S} {inside : Config I σ → Prop}
    {allowed : Config I σ → Event S → Bool} {events : List (Event S)} {start final : Config I σ}
    (sound : ∀ config event, allowed config event = true →
      policy.permits config event ∧ inside config)
    (played : S.play allowed events start = some final) (within : inside final) :
    Stay policy inside start final := by
  induction events generalizing start with
  | nil =>
      simp only [play, Option.some.injEq] at played
      exact played ▸ .start (played ▸ within)
  | cons event events ih =>
      rw [play] at played
      split at played
      · next permitted =>
        obtain ⟨middle, applied, rest⟩ := Option.bind_eq_some_iff.mp played
        have stay := ih rest
        obtain ⟨may, here⟩ := sound start event permitted
        exact Stay.trans (.step event (.start here) may applied stay.inside_start) stay
      · cases played

end System

end AgentBash.Durable
