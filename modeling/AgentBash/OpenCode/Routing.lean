import AgentBash.OpenCode.ShellWords

/-!
# Text that is routed to a shell

`stripReservedSpoolerAssignmentsForShellRouting` of `bash.ts`, which takes the assignments of two
reserved names from the front of a command with a regular expression. An expression is modelled by
the number of characters that it matches.
-/

set_option autoImplicit false

namespace AgentBash.OpenCode

def reservedSpoolerAssignments : List (List Char) :=
  ["AGENT_BASH_AGENT_RUNNER_BIN".toList, "OULIPOLY_COMPLETION_REGISTRATION_AUTHORITY".toList]

def isReservedSpoolerAssignment (name : List Char) : Bool := name ∈ reservedSpoolerAssignments

def letter (character : Char) : Bool :=
  ('A' ≤ character && character ≤ 'Z') || ('a' ≤ character && character ≤ 'z') || character = '_'

def nameCharacter (character : Char) : Bool :=
  letter character || ('0' ≤ character && character ≤ '9')

/-- `^[A-Za-z_][A-Za-z0-9_]*=`: the name, without the sign. -/
def assignedName (text : List Char) : Option (List Char) :=
  let name := text.takeWhile nameCharacter
  if name.head?.any letter && text[name.length]? = some '=' then some name else none

/-- `.` does not match these. -/
def lineTerminator (character : Char) : Bool :=
  character ∈ ['\n', '\r', '\u2028', '\u2029']

/-- `(?:[^"\\]|\\.)*"`; the characters before the first quote can be matched in one way only. -/
def doubleQuoted : List Char → Option Nat
  | [] => none
  | character :: rest =>
    if character = '"' then some 1
    else if character = '\\' then
      match rest with
      | [] => none
      | next :: rest =>
        if lineTerminator next then none else (doubleQuoted rest).map (· + 2)
    else (doubleQuoted rest).map (· + 1)

/-- `[^']*'` -/
def singleQuoted : List Char → Option Nat
  | [] => none
  | character :: rest =>
    if character = '\'' then some 1 else (singleQuoted rest).map (· + 1)

/-- `"(?:[^"\\]|\\.)*"|'[^']*'` -/
def quotedValue : List Char → Option Nat
  | [] => none
  | character :: rest =>
    if character = '"' then (doubleQuoted rest).map (· + 1)
    else if character = '\'' then (singleQuoted rest).map (· + 1)
    else none

/-- `\s+` after so many characters. -/
def thenSpace (text : List Char) (length : Nat) : Option Nat :=
  let white := ((text.drop length).takeWhile space).length
  if white = 0 then none else some (length + white)

/-- `(?:"(?:[^"\\]|\\.)*"|'[^']*'|[^\s]*)\s+`: what has no quotes around it is taken up to the next
white space, also if it begins with a quoted part that goes on behind its quotes. -/
def assignedValue (text : List Char) : Option Nat :=
  ((quotedValue text).bind (thenSpace text)) <|>
    thenSpace text (text.takeWhile fun character => !space character).length

/-- The expression `assignment`, with the name. -/
def matchAssignment (text : List Char) : Option (List Char × Nat) :=
  (assignedName text).bind fun name =>
    (assignedValue (text.drop (name.length + 1))).map fun value => (name, name.length + 1 + value)

theorem assignedName_eq_some {text name : List Char} (assigns : assignedName text = some name) :
    ∃ value, text = name ++ '=' :: value ∧ name.head?.any letter = true ∧
      ∀ character ∈ name, nameCharacter character = true := by
  unfold assignedName at assigns
  simp only [Option.ite_none_right_eq_some, Option.some.injEq, Bool.and_eq_true,
    decide_eq_true_eq] at assigns
  obtain ⟨⟨starts, sign⟩, rfl⟩ := assigns
  refine ⟨text.drop ((text.takeWhile nameCharacter).length + 1), ?_, starts,
    fun character inside => List.mem_takeWhile_imp inside⟩
  obtain ⟨bound, stands⟩ := List.getElem?_eq_some_iff.mp sign
  have split := List.take_append_drop (text.takeWhile nameCharacter).length text
  rw [List.drop_eq_getElem_cons bound, stands] at split
  have taken : text.take (text.takeWhile nameCharacter).length = text.takeWhile nameCharacter :=
    (List.prefix_iff_eq_take.mp (List.takeWhile_prefix _)).symm
  rw [taken] at split
  exact split.symm

theorem length_drop_of_match {text name : List Char} {length : Nat}
    (found : matchAssignment text = some (name, length)) :
    (text.drop length).length < text.length := by
  simp only [matchAssignment, Option.bind_eq_some_iff, Option.map_eq_some_iff, Prod.mk.injEq] at found
  obtain ⟨name, assigns, value, -, rfl, rfl⟩ := found
  obtain ⟨rest, rfl, -⟩ := assignedName_eq_some assigns
  rw [List.length_drop, List.length_append, List.length_cons]
  omega

/-- The loop: what is kept of the assignments, and what stands behind them. -/
def stripAssignments (body : List Char) : List Char × List Char :=
  match _found : matchAssignment body with
  | none => ([], body)
  | some (name, length) =>
    let (environmentPrefix, rest) := stripAssignments (body.drop length)
    if isReservedSpoolerAssignment name then (environmentPrefix, rest)
    else (body.take length ++ environmentPrefix, rest)
termination_by body.length
decreasing_by exact length_drop_of_match _found

structure ShellCommandWithoutAdapterControls where
  before : List Char
  body : List Char
  deriving DecidableEq, Repr

def stripReservedSpoolerAssignmentsForShellRouting (command : List Char) :
    ShellCommandWithoutAdapterControls :=
  let leadingWhitespace := command.takeWhile space
  let (environmentPrefix, body) := stripAssignments (command.dropWhile space)
  ⟨leadingWhitespace ++ environmentPrefix, body⟩

example : stripReservedSpoolerAssignmentsForShellRouting
    " A=b AGENT_BASH_AGENT_RUNNER_BIN='x y' C=\"d e\" ls".toList =
      ⟨" A=b C=\"d e\" ".toList, "ls".toList⟩ := by decide +kernel

end AgentBash.OpenCode
