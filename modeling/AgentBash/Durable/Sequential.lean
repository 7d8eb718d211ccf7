import AgentBash.Durable.Program

/-!
# One process that keeps what it did

A sequential computation over a state. It may fail half way, and a failure keeps the state it
was met in. `Ends` says what holds of the result and of the state at the end.
-/

namespace AgentBash.Durable

set_option autoImplicit false

def Sequential (σ α : Type) : Type := σ → Except IoError α × σ

namespace Sequential

variable {σ α β : Type}

instance : Monad (Sequential σ) where
  pure value := fun state => (.ok value, state)
  bind script rest := fun state =>
    match script state with
    | (.ok value, after) => rest value after
    | (.error error, after) => (.error error, after)

def throw (error : IoError) : Sequential σ α := fun state => (.error error, state)

def ofExcept (result : Except IoError α) : Sequential σ α := fun state => (result, state)

/-- Runs a script and hands its result on as a value. -/
def attempt (script : Sequential σ α) : Sequential σ (Except IoError α) := fun state =>
  (.ok (script state).1, (script state).2)

def get : Sequential σ σ := fun state => (.ok state, state)

def modify (change : σ → σ) : Sequential σ Unit := fun state => (.ok (), change state)

/-- From a state with `P` the script ends with a result and a state of which `Q` holds. -/
def Ends (P : σ → Prop) (script : Sequential σ α) (Q : Except IoError α → σ → Prop) : Prop :=
  ∀ state, P state → Q (script state).1 (script state).2

namespace Ends

variable {P P' : σ → Prop} {script : Sequential σ α} {rest : α → Sequential σ β}
  {Q Q' : Except IoError α → σ → Prop} {R : Except IoError β → σ → Prop}

theorem pure {value : α} (holds : ∀ state, P state → Q (.ok value) state) :
    Ends P (Pure.pure value) Q :=
  holds

theorem throw {error : IoError} (holds : ∀ state, P state → Q (.error error) state) :
    Ends P (Sequential.throw error) Q :=
  holds

theorem ofExcept {result : Except IoError α} (holds : ∀ state, P state → Q result state) :
    Ends P (Sequential.ofExcept result) Q :=
  holds

theorem get : Ends P Sequential.get fun result state => result = .ok state ∧ P state :=
  fun _ holds => ⟨rfl, holds⟩

theorem modify {change : σ → σ} {Q : Except IoError Unit → σ → Prop}
    (holds : ∀ state, P state → Q (.ok ()) (change state)) : Ends P (Sequential.modify change) Q :=
  holds

theorem weaken (ends : Ends P script Q) (before : ∀ state, P' state → P state)
    (after : ∀ result state, Q result state → Q' result state) : Ends P' script Q' :=
  fun state holds => after _ _ (ends state (before state holds))

theorem bind (first : Ends P script Q) (value : ∀ value, Ends (Q (.ok value)) (rest value) R)
    (error : ∀ error state, Q (.error error) state → R (.error error) state) :
    Ends P (script >>= rest) R := by
  intro state holds
  have reached := first state holds
  simp only [Bind.bind]
  cases ran : script state with
  | mk result after =>
      rw [ran] at reached
      cases result with
      | ok found => exact value found after reached
      | error failure => exact error failure after reached

theorem attempt (ends : Ends P script Q) :
    Ends P script.attempt fun answer state =>
      match answer with
      | .ok result => Q result state
      | .error _ => False :=
  ends

theorem handle {rest : Except IoError α → Sequential σ β} (first : Ends P script Q)
    (each : ∀ result, Ends (Q result) (rest result) R) : Ends P (script.attempt >>= rest) R :=
  bind (attempt first) each fun _ _ impossible => impossible.elim

theorem assume {c : Prop} (ends : c → Ends P script Q) : Ends (fun state => c ∧ P state) script Q :=
  fun state holds => ends holds.1 state holds.2

theorem branch {c : Prop} [Decidable c] {yes no : Sequential σ α} (left : c → Ends P yes Q)
    (right : ¬ c → Ends P no Q) : Ends P (if c then yes else no) Q := by
  by_cases holds : c
  · rw [if_pos holds]
    exact left holds
  · rw [if_neg holds]
    exact right holds

end Ends

/-- A script that changes nothing of what a view shows. -/
def Frames {τ : Type} (view : σ → τ) (script : Sequential σ α) : Prop :=
  ∀ state, view (script state).2 = view state

namespace Frames

variable {τ : Type} {view : σ → τ} {script : Sequential σ α} {rest : α → Sequential σ β}

theorem pure {value : α} : Frames view (Pure.pure value : Sequential σ α) := fun _ => rfl

theorem throw {error : IoError} : Frames view (Sequential.throw error : Sequential σ α) :=
  fun _ => rfl

theorem ofExcept {result : Except IoError α} : Frames view (Sequential.ofExcept result) :=
  fun _ => rfl

theorem bind (first : Frames view script) (next : ∀ value, Frames view (rest value)) :
    Frames view (script >>= rest) := by
  intro state
  have before := first state
  simp only [Bind.bind]
  cases ran : script state with
  | mk result after =>
      rw [ran] at before
      cases result with
      | ok value => exact (next value after).trans before
      | error error => exact before

theorem attempt (frames : Frames view script) : Frames view script.attempt := frames

theorem branch {c : Prop} [Decidable c] {yes no : Sequential σ α} (left : c → Frames view yes)
    (right : ¬ c → Frames view no) : Frames view (if c then yes else no) := by
  by_cases holds : c
  · rw [if_pos holds]
    exact left holds
  · rw [if_neg holds]
    exact right holds

theorem ends (frames : Frames view script) (P : τ → Prop) :
    Ends (fun state => P (view state)) script fun _ state => P (view state) := by
  intro state holds
  rw [frames state]
  exact holds

end Frames

end Sequential

end AgentBash.Durable
