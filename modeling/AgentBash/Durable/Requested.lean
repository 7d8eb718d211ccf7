import AgentBash.Durable.Directory

/-!
# What a program may still request

Two properties of a whole program tree, whatever it is answered: it never changes a file any
more, and it never changes a file after an answer that told nothing about it. Scripts are
followed with the set of results that such an answer may lead to.
-/

namespace AgentBash.Durable

set_option autoImplicit false

variable {L : Layout} {E : Surroundings L} {α β : Type}

def Request.Changes (file : L.File) : Request L E → Prop
  | .replace other _ | .create other _ | .remove other => other = file
  | _ => False

namespace Program

/-- No request that can still come changes the file. -/
def Leaves (file : L.File) : Program (requests L E) → Prop
  | .exit _ => True
  | .call op next => ¬ op.Changes file ∧ ∀ answer, Leaves file (next answer)
  | .fork child next => Leaves file child ∧ ∀ born, Leaves file (next born)

/-- After any failed reading but an absence, nothing changes the file any more. -/
def Heeds (file : L.File) : Program (requests L E) → Prop
  | .exit _ => True
  | .call op next =>
      (op = .read file → ∀ error : IoError, error.kind ≠ .notFound →
        Leaves file (next (.error error))) ∧ ∀ answer, Heeds file (next answer)
  | .fork child next => Heeds file child ∧ ∀ born, Heeds file (next born)

end Program

namespace Io

variable {file : L.File} {out out' : Except IoError α → Prop} {rest : α → Io (requests L E) β}
  {script : Io (requests L E) α} {final : Except IoError β → Prop}

/-- The script leaves the file alone and ends with a result in `out`. -/
def Leaves (file : L.File) (out : Except IoError α → Prop) (script : Io (requests L E) α) : Prop :=
  ∀ next, (∀ result, out result → (next result).Leaves file) → (script next).Leaves file

/-- The script heeds what it reads; an answer that told nothing leads to a result in `out`. -/
def Heeds (file : L.File) (out : Except IoError α → Prop) (script : Io (requests L E) α) : Prop :=
  ∀ next, (∀ result, (next result).Heeds file) → (∀ result, out result → (next result).Leaves file) →
    (script next).Heeds file

namespace Leaves

theorem pure {value : α} (reached : out (.ok value)) :
    Leaves (E := E) file out (Pure.pure value) :=
  fun _ after => after _ reached

theorem throw {error : IoError} (reached : out (.error error)) :
    Leaves (E := E) file out (Io.throw error) :=
  fun _ after => after _ reached

theorem ofExcept {result : Except IoError α} (reached : out result) :
    Leaves (E := E) file out (Io.ofExcept result) :=
  fun _ after => after _ reached

theorem ask {op : Request L E} {out : Except IoError op.Result → Prop} (quiet : ¬ op.Changes file)
    (all : ∀ answer, out answer) : Leaves file out (Io.ask op) :=
  fun _ after => ⟨quiet, fun answer => after _ (all answer)⟩

theorem bind (first : Leaves file out script)
    (value : ∀ value, out (.ok value) → Leaves file final (rest value))
    (error : ∀ error, out (.error error) → final (.error error)) :
    Leaves file final (script >>= rest) := by
  intro next after
  apply first
  intro result reached
  cases result with
  | ok found => exact value found reached next after
  | error failure => exact after _ (error failure reached)

theorem attempt {out : Except IoError (Except IoError α) → Prop}
    (leaves : Leaves file (fun result => out (.ok result)) script) :
    Leaves file out script.attempt :=
  fun _ after => leaves _ fun _ reached => after _ reached

theorem branch {c : Prop} [Decidable c] {yes no : Io (requests L E) α}
    (left : c → Leaves file out yes) (right : ¬ c → Leaves file out no) :
    Leaves file out (if c then yes else no) := by
  by_cases holds : c
  · rw [if_pos holds]
    exact left holds
  · rw [if_neg holds]
    exact right holds

end Leaves

namespace Heeds

theorem pure {value : α} : Heeds (E := E) file out (Pure.pure value) := fun _ after _ => after _

theorem throw {error : IoError} : Heeds (E := E) file out (Io.throw error) :=
  fun _ after _ => after _

theorem ofExcept {result : Except IoError α} : Heeds (E := E) file out (Io.ofExcept result) :=
  fun _ after _ => after _

theorem ask {op : Request L E} {out : Except IoError op.Result → Prop} (other : op ≠ .read file) :
    Heeds file out (Io.ask op) :=
  fun _ after _ => ⟨fun same => absurd same other, fun answer => after answer⟩

theorem read {out : Except IoError (L.Content file) → Prop}
    (told : ∀ error : IoError, error.kind ≠ .notFound → out (.error error)) :
    Heeds (E := E) file out (Io.ask (.read file)) :=
  fun _ after leaves => ⟨fun _ error other => leaves _ (told error other), fun answer => after answer⟩

theorem bind (first : Heeds file out script) (value : ∀ value, Heeds file final (rest value))
    (leaves : ∀ value, out (.ok value) → Leaves file final (rest value))
    (error : ∀ error, out (.error error) → final (.error error)) :
    Heeds file final (script >>= rest) := by
  intro next after quiet
  apply first
  · intro result
    cases result with
    | ok found => exact value found next after quiet
    | error failure => exact after _
  · intro result reached
    cases result with
    | ok found => exact leaves found reached next quiet
    | error failure => exact quiet _ (error failure reached)

/-- A script that reads nothing of the file may be followed by anything that heeds it. -/
theorem seq (first : Heeds file (fun _ => False) script)
    (value : ∀ value, Heeds file final (rest value)) : Heeds file final (script >>= rest) :=
  first.bind value (fun _ impossible => impossible.elim) fun _ impossible => impossible.elim

theorem attempt {out : Except IoError (Except IoError α) → Prop}
    (heeds : Heeds file (fun result => out (.ok result)) script) : Heeds file out script.attempt :=
  fun _ after quiet => heeds _ (fun _ => after _) fun _ reached => quiet _ reached

theorem branch {c : Prop} [Decidable c] {yes no : Io (requests L E) α}
    (left : c → Heeds file out yes) (right : ¬ c → Heeds file out no) :
    Heeds file out (if c then yes else no) := by
  by_cases holds : c
  · rw [if_pos holds]
    exact left holds
  · rw [if_neg holds]
    exact right holds

end Heeds

end Io

end AgentBash.Durable
