import AgentBash.Durable.Directory

/-!
# What a script may answer

Answers to requests and to forks lead from a program to another one. A script may answer what
some of them lead it to, whatever comes behind it. Which answers go together is not said here;
that is the kernel's part.
-/

namespace AgentBash.Durable

set_option autoImplicit false

inductive Program.Leads {I : Interface} : Program I → Program I → Prop
  | refl (program : Program I) : Leads program program
  | call {op : I.Op} {next : I.Answer op → Program I} {program : Program I}
      (answer : I.Answer op) : Leads (next answer) program → Leads (.call op next) program
  | fork {child : Program I} {next : Option Nat → Program I} {program : Program I}
      (born : Option Nat) : Leads (next born) program → Leads (.fork child next) program

theorem Program.Leads.trans {I : Interface} {first middle last : Program I}
    (begun : first.Leads middle) (ended : middle.Leads last) : first.Leads last := by
  induction begun with
  | refl => exact ended
  | call answer _ ih => exact .call answer (ih ended)
  | fork born _ ih => exact .fork born (ih ended)

namespace Io

variable {L : Layout} {E : Surroundings L} {α β : Type}

def Answers (script : Io (requests L E) α) (result : Except IoError α) : Prop :=
  ∀ next, (script next).Leads (next result)

namespace Answers

variable {script : Io (requests L E) α} {rest : α → Io (requests L E) β} {error : IoError}

theorem pure {value : α} : Answers (Pure.pure value : Io (requests L E) α) (.ok value) :=
  fun _ => .refl _

theorem throw : Answers (Io.throw error : Io (requests L E) α) (.error error) :=
  fun _ => .refl _

/-- The kernel may answer a request with whatever its answer can be. -/
theorem ask (op : Request L E) (answer : Except IoError op.Result) : Answers (Io.ask op) answer :=
  fun _ => .call answer (.refl _)

theorem bind {value : α} {result : Except IoError β} (first : script.Answers (.ok value))
    (second : (rest value).Answers result) : (script >>= rest).Answers result :=
  fun next => (first _).trans (second next)

theorem fails (first : script.Answers (.error error)) : (script >>= rest).Answers (.error error) :=
  fun _ => first _

theorem attempt {result : Except IoError α} (answers : script.Answers result) :
    script.attempt.Answers (.ok result) :=
  fun _ => answers _

end Answers

end Io

end AgentBash.Durable
