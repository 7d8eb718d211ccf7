import AgentBash.OpenCode.Values
import AgentBash.Shell.Leading

/-!
# Reserved assignments in front of a command

What `stripReservedSpoolerAssignmentsForShellRouting` takes out of a command, against the leading
assignment words that a shell reads there.
-/

set_option autoImplicit false

namespace AgentBash.OpenCode

open Text

theorem matchAssignment_bound {text name : List Char} {length : Nat}
    (found : matchAssignment text = some (name, length)) : 0 < length ∧ length ≤ text.length := by
  obtain ⟨-, value, white, behind, rfl, -, -, rfl⟩ := matchAssignment_iff_whole.mp found
  simp only [List.length_append, List.length_cons]
  omega

/-- The expression as a reader of leading assignments. -/
def matches_ : Cutter Char (List Char) where
  cut := matchAssignment
  bound := matchAssignment_bound

theorem stripAssignments_of_none {body : List Char} (found : matchAssignment body = none) :
    stripAssignments body = ([], body) := by
  rw [stripAssignments, found]

theorem stripAssignments_of_match {body name : List Char} {length : Nat}
    (found : matchAssignment body = some (name, length)) :
    stripAssignments body =
      ((if isReservedSpoolerAssignment name then [] else body.take length) ++
        (stripAssignments (body.drop length)).1, (stripAssignments (body.drop length)).2) := by
  rw [stripAssignments, found]
  by_cases reserved : isReservedSpoolerAssignment name = true
  · simp [reserved]
  · simp [reserved]

theorem stripAssignments_eq (body : List Char) :
    stripAssignments body =
      (matches_.kept isReservedSpoolerAssignment body, matches_.behind body) := by
  fun_induction matches_.behind body with
  | case1 body found =>
    rw [stripAssignments_of_none found, Cutter.kept_of_none found]
  | case2 body name length found ih =>
    rw [stripAssignments_of_match found, Cutter.kept_of_cut found, ih]

/-- The text that is routed to a shell. -/
def routed (command : List Char) : List Char :=
  (stripReservedSpoolerAssignmentsForShellRouting command).before ++
    (stripReservedSpoolerAssignmentsForShellRouting command).body

theorem drop_takeWhile (command : List Char) :
    command.drop (command.takeWhile space).length = command.dropWhile space := by
  have split := List.takeWhile_append_dropWhile (p := space) (l := command)
  exact (congrArg (List.drop (command.takeWhile space).length) split.symm).trans List.drop_left

/-- No reserved name with its sign stands right behind white space. -/
def SilentBehind (text : List Char) : Prop :=
  ∀ before white rest name, text = before ++ white :: rest → space white = true →
    assignedName rest = some name → isReservedSpoolerAssignment name = false

/-- Nor at the front. -/
def Silent (text : List Char) : Prop :=
  SilentBehind text ∧ ∀ name, assignedName text = some name → isReservedSpoolerAssignment name = false

/-- What stands in front of the command is white space that a shell skips too. -/
structure PlainFront (command : List Char) : Prop where
  skipped : ∀ character ∈ command.takeWhile space,
    (Shell.blank character || character = '\n') = true
  joined : ¬['\\', '\n'] <+: command.dropWhile space

/-- The leading assignments that a shell reads have forms that the expression cuts whole, each with
the same white space behind it, up to a place of some kind. -/
inductive Leads (expansions : Shell.Expansions) (stop : List Char → Prop) : List Char → Prop
  | stop {text} (here : stop text) : Leads expansions stop text
  | lead {text name length} (reads : (Shell.assignments expansions).cut text = some (name, length))
      (whole : Whole name text length) (rest : Leads expansions stop (text.drop length)) :
      Leads expansions stop text

/-- The text begins with no assignment, or shows none to a reserved name; assignments to other names
may stand before it. -/
inductive Unassigned : List Char → Prop
  | absent {text} (absent : assignedName text = none) : Unassigned text
  | silent {text} (silent : Silent text) : Unassigned text
  | other {text name length} (whole : Whole name text length)
      (stays : isReservedSpoolerAssignment name = false) (rest : Unassigned (text.drop length)) :
      Unassigned text

section Stripping

variable {expansions : Shell.Expansions} {text command name : List Char} {length : Nat}

variable (expansions) in
/-- A shell reads no more reserved assignments, and the text shows none. -/
def Settled (text : List Char) : Prop :=
  (Shell.assignments expansions).Quiet isReservedSpoolerAssignment text ∧ Unassigned text

theorem leading_eq (front : PlainFront command) :
    Shell.leading command = (command.takeWhile space).length := by
  have split := List.takeWhile_append_dropWhile (p := space) (l := command)
  have stops : (command.dropWhile space).head?.any
      (fun character => Shell.blank character || character = '\n') = false := by
    have dark := List.head?_dropWhile_not space command
    cases first : (command.dropWhile space).head? with
    | none => rfl
    | some character =>
      rw [first] at dark
      refine Bool.eq_false_iff.mpr fun skipped => ?_
      rcases Bool.or_eq_true_iff.mp skipped with blank | line
      · exact Bool.eq_false_iff.mp dark (space_of_blank blank).1
      · obtain rfl := of_decide_eq_true line
        exact absurd dark (by decide)
  have skips := Shell.leading_append front.skipped stops front.joined
  rwa [split] at skips

theorem not_digit_of_letter {character : Char} (starts : letter character = true) :
    (!character.isDigit) = true := by
  simp only [letter, Bool.or_eq_true, Bool.and_eq_true, decide_eq_true_eq, Char.le_def] at starts
  rcases starts with (⟨low, -⟩ | ⟨low, -⟩) | rfl
  · simp [Char.isDigit]
    grind
  · simp [Char.isDigit]
    grind
  · decide

theorem nameMark_of_nameCharacter {character : Char} (goes : nameCharacter character = true) :
    Shell.nameMark (.plain character) = true := by
  simp only [nameCharacter, letter, Bool.or_eq_true, Bool.and_eq_true, decide_eq_true_eq,
    Char.le_def] at goes
  change (((character.isUpper || character.isLower) || character.isDigit) ||
    decide (character = '_')) = true
  rcases goes with ((⟨low, high⟩ | ⟨low, high⟩) | underscore) | ⟨low, high⟩
  · have upper : character.isUpper = true := decide_eq_true ⟨low, high⟩
    simp only [upper, Bool.true_or]
  · have lower : character.isLower = true :=
      Bool.and_eq_true_iff.mpr ⟨decide_eq_true low, decide_eq_true high⟩
    simp only [lower, Bool.or_true, Bool.true_or]
  · simp only [underscore, decide_true, Bool.or_true]
  · have digit : character.isDigit = true :=
      Bool.and_eq_true_iff.mpr ⟨decide_eq_true low, decide_eq_true high⟩
    simp only [digit, Bool.or_true, Bool.true_or]

/-- A shell that reads a first word reads an assignment wherever the text begins as one. -/
theorem assignsTo_of_assignedName {pieces : List Shell.Piece}
    (assigns : assignedName text = some name)
    (reads : Shell.firstWord expansions text = some (pieces, length)) :
    Shell.assignsTo pieces = some name := by
  obtain ⟨rest, rfl, starts, goes⟩ := assignedName_eq_some assigns
  refine Shell.assignsTo_of_named ?_ (fun character inside => ?_) reads
  · cases name with
    | nil => cases starts
    | cons character name => exact not_digit_of_letter starts
  · exact nameMark_of_nameCharacter (goes character inside)

end Stripping

end AgentBash.OpenCode
