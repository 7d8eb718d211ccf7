import AgentBash.Durable.Directory

/-!
# One process alone

A process that runs alone and meets no fault: every request over the directory takes its
effect, and the outside answers as an oracle says. `Does` is what one script makes of one
disk, whatever comes after it.
-/

namespace AgentBash.Durable

set_option autoImplicit false

variable {L : Layout} {E : Surroundings L} {α β : Type}

/-- What the outside decides about each request that is asked of it. -/
abbrev Oracle (E : Surroundings L) := E.Op → E.Choice

def Oracle.choice (oracle : Oracle E) : Request L E → Request.Choice E
  | .external op => .outside (oracle op)
  | _ => .pass

/-- The states that a process passes through alone. -/
inductive Alone (oracle : Oracle E) (pid : Nat) :
    Program (requests L E) → Disk L E.World → Program (requests L E) → Disk L E.World → Prop
  | here (program : Program (requests L E)) (disk : Disk L E.World) :
      Alone oracle pid program disk program disk
  | call {op : Request L E} {next : Except IoError op.Result → Program (requests L E)}
      {disk after final : Disk L E.World} {answer : Except IoError op.Result}
      {rest : Program (requests L E)} :
      op.serve pid (oracle.choice op) disk = some (answer, after) →
        Alone oracle pid (next answer) after rest final →
        Alone oracle pid (.call op next) disk rest final

theorem Alone.trans {oracle : Oracle E} {pid : Nat} {first second third : Program (requests L E)}
    {start middle final : Disk L E.World} (one : Alone oracle pid first start second middle)
    (two : Alone oracle pid second middle third final) :
    Alone oracle pid first start third final := by
  induction one with
  | here => exact two
  | call served _ ih => exact .call served (ih two)

/-- The script ends with this result and leaves this disk. -/
def Does (oracle : Oracle E) (pid : Nat) (script : Io (requests L E) α) (before : Disk L E.World)
    (result : Except IoError α) (after : Disk L E.World) : Prop :=
  ∀ next, Alone oracle pid (script next) before (next result) after

namespace Does

variable {oracle : Oracle E} {pid : Nat} {before middle after : Disk L E.World}

theorem pure (value : α) : Does oracle pid (Pure.pure value : Io (requests L E) α) before
    (.ok value) before :=
  fun _ => .here _ _

theorem ofExcept (result : Except IoError α) :
    Does oracle pid (Io.ofExcept result : Io (requests L E) α) before result before :=
  fun _ => .here _ _

theorem bind {script : Io (requests L E) α} {rest : α → Io (requests L E) β} {value : α}
    {result : Except IoError β} (first : Does oracle pid script before (.ok value) middle)
    (second : Does oracle pid (rest value) middle result after) :
    Does oracle pid (script >>= rest) before result after :=
  fun next => (first _).trans (second next)

theorem attempt {script : Io (requests L E) α} {result : Except IoError α}
    (does : Does oracle pid script before result after) :
    Does oracle pid script.attempt before (.ok result) after :=
  fun next => does fun result => next (.ok result)

theorem ask {op : Request L E} {answer : Except IoError op.Result}
    (served : op.serve pid (oracle.choice op) before = some (answer, after)) :
    Does oracle pid (Io.ask op) before answer after :=
  fun next => .call served (.here (next answer) after)

end Does

/-- Somewhere on its way the script leaves a disk of which `P` holds. -/
def Reaches (oracle : Oracle E) (pid : Nat) (script : Io (requests L E) α)
    (before : Disk L E.World) (P : Disk L E.World → Prop) : Prop :=
  ∀ next, ∃ rest after, Alone oracle pid (script next) before rest after ∧ P after

namespace Reaches

variable {oracle : Oracle E} {pid : Nat} {before middle : Disk L E.World}
  {P : Disk L E.World → Prop}

theorem of_does {script : Io (requests L E) α} {result : Except IoError α}
    (does : Does oracle pid script before result middle) (holds : P middle) :
    Reaches oracle pid script before P :=
  fun next => ⟨_, middle, does next, holds⟩

theorem first {script : Io (requests L E) α} {rest : α → Io (requests L E) β}
    (reaches : Reaches oracle pid script before P) : Reaches oracle pid (script >>= rest) before P :=
  fun _ => reaches _

theorem after {script : Io (requests L E) α} {rest : α → Io (requests L E) β} {value : α}
    (does : Does oracle pid script before (.ok value) middle)
    (reaches : Reaches oracle pid (rest value) middle P) :
    Reaches oracle pid (script >>= rest) before P := by
  intro next
  obtain ⟨last, final, steps, holds⟩ := reaches next
  exact ⟨last, final, (does _).trans steps, holds⟩

theorem attempt {script : Io (requests L E) α} (reaches : Reaches oracle pid script before P) :
    Reaches oracle pid script.attempt before P :=
  fun _ => reaches _

end Reaches

end AgentBash.Durable
