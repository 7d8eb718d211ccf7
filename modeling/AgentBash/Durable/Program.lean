import Mathlib.Logic.Function.Basic

/-!
# Programs of crash-prone processes

A process is a tree of kernel requests: each request waits for one answer, and a
fork carries the program of its child. Nothing here says what a request does;
that is the kernel's part (`Durable.Machine`). `Io` is the sequencing monad over
such trees, with an error channel that behaves as `?` does in the source language.
-/

namespace AgentBash.Durable

set_option autoImplicit false

/-- The requests a process can make and the type of the answer to each. -/
structure Interface where
  Op : Type
  Answer : Op → Type

/-- `fork` hands its parent the child's incarnation, or nothing when the fork is refused. -/
inductive Program (I : Interface) where
  | exit (code : Nat)
  | call (op : I.Op) (next : I.Answer op → Program I)
  | fork (child : Program I) (next : Option Nat → Program I)

inductive ErrorKind
  | notFound | alreadyExists | wouldBlock | invalidData | other
  deriving DecidableEq, Repr

/-- An I/O error keeps the kind that callers branch on and the text they report. -/
structure IoError where
  kind : ErrorKind
  detail : String
  deriving DecidableEq, Repr

def IoError.other (detail : String) : IoError := ⟨.other, detail⟩

theorem ok_of_bind {ε α β : Type} {first : Except ε α} {next : α → Except ε β} {result : β}
    (succeeded : (first >>= next) = .ok result) :
    ∃ value, first = .ok value ∧ next value = .ok result := by
  cases first with
  | error error => cases succeeded
  | ok value => exact ⟨value, rfl, succeeded⟩

/-- A script still has to be told how to continue with its result. -/
def Io (I : Interface) (α : Type) : Type :=
  (Except IoError α → Program I) → Program I

namespace Io

variable {I : Interface} {α β : Type}

protected def pure (value : α) : Io I α := fun next => next (.ok value)

protected def bind (script : Io I α) (rest : α → Io I β) : Io I β := fun next =>
  script fun
    | .ok value => rest value next
    | .error error => next (.error error)

instance : Monad (Io I) where
  pure := Io.pure
  bind := Io.bind

def throw (error : IoError) : Io I α := fun next => next (.error error)

/-- Runs a script and hands its result on as a value, as a `match` on a result does. -/
def attempt (script : Io I α) : Io I (Except IoError α) := fun next =>
  script fun result => next (.ok result)

def ofExcept (result : Except IoError α) : Io I α := fun next => next result

/-- One kernel request whose answer is itself the value of the script. -/
def request (op : I.Op) : Io I (I.Answer op) := fun next => .call op fun answer => next (.ok answer)

def spawn (child : Program I) : Io I (Option Nat) := fun next =>
  .fork child fun born => next (.ok born)

def exit (code : Nat) : Io I α := fun _ => .exit code

/-- The whole program of a process that runs a script and leaves with a status. -/
def program (script : Io I α) (status : Except IoError α → Nat) : Program I :=
  script fun result => .exit (status result)

end Io

end AgentBash.Durable
