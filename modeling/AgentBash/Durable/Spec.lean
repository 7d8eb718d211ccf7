import AgentBash.Durable.Rely

/-!
# Specifications of scripts

`Spec D policy pid before script after` is a Hoare triple for one process of a discipline:
from an invariant view where `before` holds, every request of the script is safe, and what
follows the script may count on `after` for the result it is handed. Assertions that stand
in front of a request have to be stable, that is, to survive what the others may do.
-/

namespace AgentBash.Durable

set_option autoImplicit false

variable {I : Interface} {σ γ α β δ : Type} {S : System I σ}

def Stable (D : Discipline S γ) (pid : Nat) (P : σ × γ → Prop) : Prop :=
  ∀ {view now}, D.Inv view → P view → D.Rely pid view now → D.Inv now → P now

def Spec (D : Discipline S γ) (policy : System.Policy S) (pid : Nat) (before : σ × γ → Prop)
    (script : Io I α) (after : Except IoError α → σ × γ → Prop) : Prop :=
  ∀ next view, D.Inv view → before view →
    (∀ result now, D.Inv now → after result now → Safe D policy (next result) pid now) →
    Safe D policy (script next) pid view

variable {D : Discipline S γ} {policy : System.Policy S} {pid : Nat}

/-- An assertion about a result: one about its value, and one about its error. -/
abbrev byResult (value : α → σ × γ → Prop) (error : IoError → σ × γ → Prop) :
    Except IoError α → σ × γ → Prop
  | .ok result => value result
  | .error failure => error failure

namespace Stable

theorem top : Stable D pid fun _ => True := fun _ _ _ _ => trivial

theorem and {P Q : σ × γ → Prop} (left : Stable D pid P) (right : Stable D pid Q) :
    Stable D pid fun view => P view ∧ Q view :=
  fun inv holds moved inv' => ⟨left inv holds.1 moved inv', right inv holds.2 moved inv'⟩

end Stable

namespace Spec

variable {P P' : σ × γ → Prop} {Q Q' : Except IoError α → σ × γ → Prop}

theorem weaken {script : Io I α} (spec : Spec D policy pid P script Q)
    (before : ∀ view, D.Inv view → P' view → P view)
    (after : ∀ result view, D.Inv view → Q result view → Q' result view) :
    Spec D policy pid P' script Q' :=
  fun next view inv holds rest =>
    spec next view inv (before view inv holds) fun result now inv' held =>
      rest result now inv' (after result now inv' held)

theorem strengthen {script : Io I α} (spec : Spec D policy pid P script Q)
    (before : ∀ view, D.Inv view → P' view → P view) : Spec D policy pid P' script Q :=
  spec.weaken before fun _ _ _ held => held

theorem relax {script : Io I α} (spec : Spec D policy pid P script Q)
    (after : ∀ result view, D.Inv view → Q result view → Q' result view) :
    Spec D policy pid P script Q' :=
  spec.weaken (fun _ _ held => held) after

/-- A fact that does not mention the view may be assumed while the script is verified. -/
theorem assume {p : Prop} {script : Io I α} (spec : p → Spec D policy pid P script Q) :
    Spec D policy pid (fun view => p ∧ P view) script Q :=
  fun next view inv holds rest => spec holds.1 next view inv holds.2 rest

/-- A witness of the assertion in front may be chosen before the script is verified. -/
theorem any {ι : Sort*} {P : ι → σ × γ → Prop} {script : Io I α}
    (each : ∀ index, Spec D policy pid (P index) script Q) :
    Spec D policy pid (fun view => ∃ index, P index view) script Q :=
  fun next view inv holds rest =>
    let ⟨index, held⟩ := holds
    each index next view inv held rest

theorem pure {value : α} (after : ∀ view, D.Inv view → P view → Q (.ok value) view) :
    Spec D policy pid P (Pure.pure value : Io I α) Q :=
  fun _ view inv holds rest => rest _ view inv (after view inv holds)

theorem throw {error : IoError} (after : ∀ view, D.Inv view → P view → Q (.error error) view) :
    Spec D policy pid P (Io.throw error : Io I α) Q :=
  fun _ view inv holds rest => rest _ view inv (after view inv holds)

theorem ofExcept {result : Except IoError α}
    (after : ∀ view, D.Inv view → P view → Q result view) :
    Spec D policy pid P (Io.ofExcept result : Io I α) Q :=
  fun _ view inv holds rest => rest _ view inv (after view inv holds)

/-- Sequencing as `?` does it: the rest runs on a value, an error is handed on. -/
theorem bind {script : Io I α} {rest : α → Io I β} {R : Except IoError β → σ × γ → Prop}
    (first : Spec D policy pid P script Q)
    (value : ∀ value, Spec D policy pid (Q (.ok value)) (rest value) R)
    (error : ∀ error view, D.Inv view → Q (.error error) view → R (.error error) view) :
    Spec D policy pid P (script >>= rest) R := by
  intro next view inv holds continues
  apply first _ view inv holds
  intro result now inv' held
  cases result with
  | ok answer => exact value answer next now inv' held continues
  | error failure => exact continues _ now inv' (error failure now inv' held)

theorem attempt {script : Io I α} {R : Except IoError (Except IoError α) → σ × γ → Prop}
    (spec : Spec D policy pid P script fun result => R (.ok result)) :
    Spec D policy pid P script.attempt R :=
  fun next view inv holds rest =>
    spec (fun result => next (.ok result)) view inv holds fun result now inv' held =>
      rest (.ok result) now inv' held

/-- A `match` on the result of a script: no error of it is left to hand on. -/
theorem handle {script : Io I α} {rest : Except IoError α → Io I β}
    {R : Except IoError β → σ × γ → Prop} (first : Spec D policy pid P script Q)
    (each : ∀ result, Spec D policy pid (Q result) (rest result) R) :
    Spec D policy pid P (script.attempt >>= rest) R :=
  fun next view inv holds continues =>
    first _ view inv holds fun result now inv' held => each result next now inv' held continues

theorem branch {c : Prop} [Decidable c] {yes no : Io I α}
    (left : c → Spec D policy pid P yes Q) (right : ¬ c → Spec D policy pid P no Q) :
    Spec D policy pid P (if c then yes else no) Q := by
  by_cases holds : c
  · rw [if_pos holds]
    exact left holds
  · rw [if_neg holds]
    exact right holds

theorem exit {code : Nat} (stable : Stable D pid P)
    (left : ∀ view, D.Inv view → P view → S.live pid view.1 →
      ∃ ghost, D.Inv (S.finish pid (some code) view.1, ghost) ∧
        D.Guarantee pid view (S.finish pid (some code) view.1, ghost)) :
    Spec D policy pid P (Io.exit code : Io I α) Q := by
  intro next view inv holds _ now moved inv' live
  exact left now inv' (stable inv holds moved inv') live

theorem spawn {child : Program I} {Q : Except IoError (Option Nat) → σ × γ → Prop}
    (stable : Stable D pid P)
    (refused : ∀ view, D.Inv view → P view → Q (.ok none) view)
    (born : ∀ view, D.Inv view → P view → S.live pid view.1 →
      ∃ ghost, D.Inv (S.birth (some pid) view.1, ghost) ∧
        D.Guarantee pid view (S.birth (some pid) view.1, ghost) ∧
        Safe D policy child (S.next view.1) (S.birth (some pid) view.1, ghost) ∧
        Q (.ok (some (S.next view.1))) (S.birth (some pid) view.1, ghost)) :
    Spec D policy pid P (Io.spawn child) Q := by
  intro next view inv holds rest now moved inv' live
  have held := stable inv holds moved inv'
  refine ⟨rest _ now inv' (refused now inv' held), ?_⟩
  obtain ⟨ghost, kept, promise, childSafe, after⟩ := born now inv' held live
  exact ⟨ghost, kept, promise, childSafe, rest _ _ kept after⟩

/-- A verified script is the whole of a verified process once every result may be left with. -/
theorem safe {script : Io I α} {status : Except IoError α → Nat} {view : σ × γ}
    (spec : Spec D policy pid P script Q) (inv : D.Inv view) (holds : P view)
    (stable : ∀ result, Stable D pid (Q result))
    (left : ∀ result view, D.Inv view → Q result view → S.live pid view.1 →
      ∃ ghost, D.Inv (S.finish pid (some (status result)) view.1, ghost) ∧
        D.Guarantee pid view (S.finish pid (some (status result)) view.1, ghost)) :
    Safe D policy (script.program status) pid view := by
  apply spec _ view inv holds
  intro result now inv' held later moved kept live
  exact left result later kept (stable result inv' held moved kept) live

end Spec

/-- A script that leaves an assertion as it found it, whatever it answers. -/
abbrev Steady (D : Discipline S γ) (policy : System.Policy S) (pid : Nat) (P : σ × γ → Prop)
    (script : Io I α) : Prop :=
  Spec D policy pid P script fun _ => P

namespace Steady

variable {P : σ × γ → Prop}

theorem pure {value : α} : Steady D policy pid P (Pure.pure value : Io I α) :=
  Spec.pure fun _ _ held => held

theorem throw {error : IoError} : Steady D policy pid P (Io.throw error : Io I α) :=
  Spec.throw fun _ _ held => held

theorem ofExcept {result : Except IoError α} :
    Steady D policy pid P (Io.ofExcept result : Io I α) :=
  Spec.ofExcept fun _ _ held => held

theorem bind {script : Io I α} {rest : α → Io I β} (first : Steady D policy pid P script)
    (value : ∀ value, Steady D policy pid P (rest value)) :
    Steady D policy pid P (script >>= rest) :=
  Spec.bind first value fun _ _ _ held => held

theorem attempt {script : Io I α} (steady : Steady D policy pid P script) :
    Steady D policy pid P script.attempt :=
  Spec.attempt steady

theorem branch {c : Prop} [Decidable c] {yes no : Io I α} (left : Steady D policy pid P yes)
    (right : Steady D policy pid P no) : Steady D policy pid P (if c then yes else no) :=
  Spec.branch (fun _ => left) fun _ => right

theorem before {script : Io I α} {rest : α → Io I β} {R : Except IoError β → σ × γ → Prop}
    (first : Steady D policy pid P script)
    (value : ∀ value, Spec D policy pid P (rest value) R)
    (error : ∀ error view, D.Inv view → P view → R (.error error) view) :
    Spec D policy pid P (script >>= rest) R :=
  Spec.bind first value error

end Steady

end AgentBash.Durable
