import AgentBash.Shell.Expansion
import AgentBash.Text.Cuts

/-!
# The first words of a shell command

The words at the front of any command text, with quotes, escapes and expansions inside them. How far
an expansion reaches is the shell's whole grammar, so it is a parameter here: everything else is said
of a shell that reads expansions in some way.
-/

set_option autoImplicit false

namespace Shell

/-- How many characters the expansion takes that begins a text; none of them if nothing expands
there, and no answer if the expansion is not closed. -/
abbrev Expansions := Quoting → List Char → Option Nat

/-- A mark of a word, or a character of an expansion in it. -/
inductive Piece
  | mark (mark : Mark)
  | expanded (character : Char)
  deriving DecidableEq, Repr

/-- What ends a word outside quotes. -/
def ends (character : Char) : Bool := character = '\n' || blank character || operator character

def grow (pieces : List Piece) (count : Nat) (word : Option (List Piece × Nat)) :
    Option (List Piece × Nat) :=
  word.map fun (more, length) => (pieces ++ more, count + length)

/-- The word that goes on here and its length; so many characters belong to an expansion. -/
def word (expansions : Expansions) : Nat → Quoting → List Char → Option (List Piece × Nat)
  | 0, .bare, [] => some ([], 0)
  | _, _, [] => none
  | skip + 1, quoting, character :: rest =>
    grow [.expanded character] 1 (word expansions skip quoting rest)
  | 0, .single, character :: rest =>
    if character = '\'' then grow [.mark .quote] 1 (word expansions 0 .bare rest)
    else grow [.mark (.quoted character)] 1 (word expansions 0 .single rest)
  | 0, .double, character :: rest =>
    if character = '"' then grow [.mark .quote] 1 (word expansions 0 .bare rest)
    else if character = '\\' then
      match rest with
      | [] => none
      | next :: rest =>
        if next = '\n' then grow [] 2 (word expansions 0 .double rest)
        else if escapable next then
          grow [.mark (.quoted next)] 2 (word expansions 0 .double rest)
        else
          grow [.mark (.quoted '\\'), .mark (.quoted next)] 2 (word expansions 0 .double rest)
    else if expands character then
      match expansions .double (character :: rest) with
      | none => none
      | some 0 => grow [.mark (.quoted character)] 1 (word expansions 0 .double rest)
      | some (skip + 1) => grow [.expanded character] 1 (word expansions skip .double rest)
    else grow [.mark (.quoted character)] 1 (word expansions 0 .double rest)
  | 0, .bare, character :: rest =>
    if ends character then some ([], 0)
    else if character = '\'' then grow [.mark .quote] 1 (word expansions 0 .single rest)
    else if character = '"' then grow [.mark .quote] 1 (word expansions 0 .double rest)
    else if character = '\\' then
      match rest with
      | [] => none
      | next :: rest =>
        if next = '\n' then grow [] 2 (word expansions 0 .bare rest)
        else grow [.mark (.quoted next)] 2 (word expansions 0 .bare rest)
    else if expands character then
      match expansions .bare (character :: rest) with
      | none => none
      | some 0 => grow [.mark (.plain character)] 1 (word expansions 0 .bare rest)
      | some (skip + 1) => grow [.expanded character] 1 (word expansions skip .bare rest)
    else grow [.mark (.plain character)] 1 (word expansions 0 .bare rest)

def gap : List Char → Nat
  | [] => 0
  | character :: rest =>
    if blank character then gap rest + 1
    else if character = '\\' then
      match rest with
      | [] => 0
      | next :: rest => if next = '\n' then gap rest + 2 else 0
    else 0

/-- What may stand before a command, line breaks too. -/
def leading : List Char → Nat
  | [] => 0
  | character :: rest =>
    if blank character || character = '\n' then leading rest + 1
    else if character = '\\' then
      match rest with
      | [] => 0
      | next :: rest => if next = '\n' then leading rest + 2 else 0
    else 0

/-- The word at the front of a text and its length with the blanks behind it. A comment is none. -/
def firstWord (expansions : Expansions) (text : List Char) : Option (List Piece × Nat) :=
  if text.head? = some '#' then none
  else
    (word expansions 0 .bare text).bind fun (pieces, length) =>
      if length = 0 then none else some (pieces, length + gap (text.drop length))

/-- The marks of a word before any expansion. -/
def marks : List Piece → Word
  | .mark mark :: pieces => mark :: marks pieces
  | _ => []

/-- The name that a word assigns a value to. -/
def assignsTo (pieces : List Piece) : Option (List Char) :=
  if assignment (marks pieces) then some (literal (assignee (marks pieces))) else none

/-- A word without its quotes, if nothing is expanded in it. -/
def verbatim (pieces : List Piece) : Option (List Char) :=
  if (marks pieces).length = pieces.length then some (literal (marks pieces)) else none

section Lengths

variable {expansions : Expansions} {text : List Char} {pieces : List Piece} {length : Nat}

theorem grow_eq_some {more : List Piece} {count : Nat} {word : Option (List Piece × Nat)}
    (grown : grow more count word = some (pieces, length)) :
    ∃ rest fewer, word = some (rest, fewer) ∧ pieces = more ++ rest ∧ length = count + fewer := by
  obtain ⟨⟨rest, fewer⟩, found, same⟩ := Option.map_eq_some_iff.mp grown
  obtain ⟨rfl, rfl⟩ := Prod.mk.inj same
  exact ⟨rest, fewer, found, rfl, rfl⟩

theorem word_length_le {skip : Nat} {quoting : Quoting}
    (found : word expansions skip quoting text = some (pieces, length)) :
    length ≤ text.length := by
  fun_induction word expansions skip quoting text generalizing pieces length
  all_goals grind [→ grow_eq_some]

theorem gap_le (text : List Char) : gap text ≤ text.length := by
  fun_induction gap text <;> grind

theorem firstWord_bound (found : firstWord expansions text = some (pieces, length)) :
    0 < length ∧ length ≤ text.length := by
  rw [firstWord, Option.ite_none_left_eq_some] at found
  obtain ⟨-, found⟩ := found
  obtain ⟨⟨pieces, count⟩, reads, found⟩ := Option.bind_eq_some_iff.mp found
  rw [Option.ite_none_left_eq_some, Option.some.injEq, Prod.mk.injEq] at found
  obtain ⟨some_, -, rfl⟩ := found
  have within := word_length_le reads
  have blanks := gap_le (text.drop count)
  rw [List.length_drop] at blanks
  omega

end Lengths

/-- The leading assignment words, each with the blanks behind it. -/
def assignments (expansions : Expansions) : Text.Cutter Char (List Char) where
  cut text := (firstWord expansions text).bind fun (pieces, length) =>
    (assignsTo pieces).map fun name => (name, length)
  bound found := by
    obtain ⟨⟨pieces, length⟩, reads, found⟩ := Option.bind_eq_some_iff.mp found
    obtain ⟨name, -, same⟩ := Option.map_eq_some_iff.mp found
    obtain ⟨rfl, rfl⟩ := Prod.mk.inj same
    exact firstWord_bound reads

/-- The words at the front of a text, of two. -/
def firstTwo (expansions : Expansions) (text : List Char) : Option (List Piece × List Piece) :=
  (firstWord expansions text).bind fun (first, length) =>
    (firstWord expansions (text.drop length)).map fun (second, _) => (first, second)

/-- What stands behind the leading assignments of a command. -/
def simpleCommand (expansions : Expansions) (command : List Char) : List Char :=
  (assignments expansions).behind (command.drop (leading command))

/-- The words of a command behind its leading assignments begin with these two, however they are
quoted. -/
def RunsWith (expansions : Expansions) (command first second : List Char) : Prop :=
  (firstTwo expansions (simpleCommand expansions command)).map
    (fun (one, two) => (verbatim one, verbatim two)) = some (some first, some second)

instance (expansions : Expansions) (command first second : List Char) :
    Decidable (RunsWith expansions command first second) := inferInstanceAs (Decidable (_ = _))

section Plain

variable {expansions : Expansions} {text tail : List Char}

/-- A character that stands for itself in a word. -/
def plainCharacter (character : Char) : Bool :=
  !ends character && character != '\'' && character != '"' && character != '\\' &&
    !expands character

/-- The pieces of a text whose characters all stand for themselves. -/
def plainPieces (text : List Char) : List Piece :=
  text.map fun character => .mark (.plain character)

theorem grow_grow (pieces more : List Piece) (count other : Nat) (word : Option (List Piece × Nat)) :
    grow pieces count (grow more other word) = grow (pieces ++ more) (count + other) word := by
  cases word with
  | none => rfl
  | some word => simp only [grow, Option.map_some, List.append_assoc, Nat.add_assoc]

theorem word_append_plain (plain : ∀ character ∈ text, plainCharacter character = true) :
    word expansions 0 .bare (text ++ tail) =
      grow (plainPieces text) text.length (word expansions 0 .bare tail) := by
  induction text with
  | nil =>
    have same : ∀ word, grow [] 0 word = word := by
      rintro (_ | ⟨pieces, length⟩)
      · rfl
      · simp only [grow, Option.map_some, List.nil_append, Nat.zero_add]
    exact (same _).symm
  | cons character text ih =>
    have here := plain character List.mem_cons_self
    simp only [plainCharacter, Bool.and_eq_true, Bool.not_eq_true', bne_iff_ne, ne_eq] at here
    obtain ⟨⟨⟨⟨goes, single⟩, double⟩, escape⟩, still⟩ := here
    have rest := ih fun other inside => plain other (List.mem_cons_of_mem _ inside)
    rw [List.cons_append, word.eq_def]
    simp only [goes, single, double, escape, still, rest, Bool.false_eq_true, if_false, grow_grow]
    rw [List.length_cons, Nat.add_comm text.length]
    rfl

theorem word_plain (plain : ∀ character ∈ text, plainCharacter character = true)
    (stops : tail = [] ∨ ∃ character rest, tail = character :: rest ∧ ends character = true) :
    word expansions 0 .bare (text ++ tail) = some (plainPieces text, text.length) := by
  have stopped : word expansions 0 .bare tail = some ([], 0) := by
    rcases stops with rfl | ⟨character, rest, rfl, stops⟩
    · simp [word]
    · rw [word.eq_def]
      simp [stops]
  rw [word_append_plain plain, stopped]
  simp only [grow, Option.map_some, List.append_nil, Nat.add_zero]

theorem marks_append_plain (text : List Char) (pieces : List Piece) :
    marks (plainPieces text ++ pieces) = text.map Mark.plain ++ marks pieces := by
  induction text with
  | nil => rfl
  | cons character text ih => exact congrArg (Mark.plain character :: ·) ih

theorem marks_plain (text : List Char) : marks (plainPieces text) = text.map Mark.plain := by
  have all := marks_append_plain text []
  rw [List.append_nil] at all
  exact all.trans (List.append_nil _)

theorem literal_plain (text : List Char) : literal (text.map Mark.plain) = text := by
  induction text with
  | nil => rfl
  | cons character text ih => rw [List.map_cons, literal_cons, ih]; rfl

theorem verbatim_plain (text : List Char) : verbatim (plainPieces text) = some text := by
  rw [verbatim, marks_plain, if_pos (by simp [plainPieces]), literal_plain]

theorem firstWord_plain (some_ : text ≠ []) (comment : text.head? ≠ some '#')
    (plain : ∀ character ∈ text, plainCharacter character = true)
    (stops : tail = [] ∨ ∃ character rest, tail = character :: rest ∧ ends character = true) :
    firstWord expansions (text ++ tail) =
      some (plainPieces text, text.length + gap tail) := by
  have first : (text ++ tail).head? = text.head? := List.head?_append_of_ne_nil _ some_
  have positive : text.length ≠ 0 := fun none_ => some_ (List.eq_nil_of_length_eq_zero none_)
  rw [firstWord, first, if_neg comment, word_plain plain stops]
  simp only [Option.bind_some, positive, if_false, List.drop_left]

theorem gap_plain {character : Char} (plain : plainCharacter character = true)
    (rest : List Char) : gap (character :: rest) = 0 := by
  simp only [plainCharacter, ends, Bool.and_eq_true, Bool.not_eq_true', Bool.or_eq_false_iff,
    bne_iff_ne, ne_eq] at plain
  obtain ⟨⟨⟨⟨⟨⟨-, goes⟩, -⟩, -⟩, -⟩, escape⟩, -⟩ := plain
  rw [gap.eq_def]
  simp only [goes, escape, Bool.false_eq_true, if_false]

variable (expansions) in
theorem firstTwo_plain {more : List Char} (some_ : text ≠ []) (comment : text.head? ≠ some '#')
    (plain : ∀ character ∈ text, plainCharacter character = true) (someMore : more ≠ [])
    (commentMore : more.head? ≠ some '#')
    (plainMore : ∀ character ∈ more, plainCharacter character = true)
    (stops : tail = [] ∨ ∃ character rest, tail = character :: rest ∧ ends character = true) :
    (firstTwo expansions (text ++ ' ' :: (more ++ tail))).map
      (fun (one, two) => (verbatim one, verbatim two)) = some (some text, some more) := by
  have spaced : ' ' :: (more ++ tail) = [] ∨ ∃ character rest,
      ' ' :: (more ++ tail) = character :: rest ∧ ends character = true :=
    .inr ⟨' ', more ++ tail, rfl, by decide⟩
  have single : gap (' ' :: (more ++ tail)) = 1 := by
    cases more with
    | nil => exact absurd rfl someMore
    | cons character more =>
      have stays := gap_plain (plainMore character List.mem_cons_self) (more ++ tail)
      rw [gap.eq_def]
      simp only [show blank ' ' = true by decide, if_true, List.cons_append, stays]
  have behind : (text ++ ' ' :: (more ++ tail)).drop (text.length + 1) = more ++ tail := by
    rw [← List.drop_drop, List.drop_left]
    rfl
  rw [firstTwo, firstWord_plain some_ comment plain spaced, Option.bind_some]
  simp only [single, behind, firstWord_plain someMore commentMore plainMore stops, Option.map_some,
    verbatim_plain]

theorem plainCharacter_of_name {character : Char} (inside : nameMark (.plain character) = true) :
    plainCharacter character = true := by
  refine Bool.not_eq_false _ |>.mp fun other => ?_
  simp only [plainCharacter, ends, blank, operator, expands, Bool.and_eq_false_iff,
    Bool.not_eq_false', Bool.or_eq_true, decide_eq_true_eq, bne_eq_false_iff_eq, List.mem_cons,
    List.not_mem_nil, or_false] at other
  revert inside
  rcases other with (((((rfl | rfl | rfl) | rfl | rfl | rfl | rfl | rfl | rfl | rfl) | rfl) | rfl) |
    rfl) | rfl | rfl <;> decide

/-- A word that begins with a name and the sign assigns to that name, whatever follows. -/
theorem assignsTo_of_named {name rest : List Char} {pieces : List Piece} {length : Nat}
    (starts : name.head?.any fun character => !character.isDigit)
    (goes : ∀ character ∈ name, nameMark (.plain character) = true)
    (found : firstWord expansions (name ++ '=' :: rest) = some (pieces, length)) :
    assignsTo pieces = some name := by
  rw [firstWord, Option.ite_none_left_eq_some] at found
  obtain ⟨⟨pieces, count⟩, reads, found⟩ := Option.bind_eq_some_iff.mp found.2
  obtain ⟨-, found⟩ := Option.ite_none_left_eq_some.mp found
  obtain ⟨rfl, -⟩ := Prod.mk.inj (Option.some.inj found)
  have plain : ∀ character ∈ name ++ ['='], plainCharacter character = true := by
    intro character inside
    rcases List.mem_append.mp inside with inside | sign
    · exact plainCharacter_of_name (goes character inside)
    · obtain rfl := List.mem_singleton.mp sign
      decide
  rw [← List.singleton_append, ← List.append_assoc, word_append_plain plain] at reads
  obtain ⟨more, -, -, rfl, -⟩ := grow_eq_some reads
  have whole : marks (plainPieces (name ++ ['=']) ++ more) =
      name.map Mark.plain ++ .plain '=' :: marks more := by
    rw [marks_append_plain, List.map_append, List.append_assoc]
    rfl
  have names : ∀ mark ∈ name.map Mark.plain, nameMark mark = true :=
    List.forall_mem_map.mpr goes
  have taken : assignee (name.map Mark.plain ++ .plain '=' :: marks more) = name.map Mark.plain := by
    rw [assignee, List.takeWhile_append_of_pos names,
      List.takeWhile_cons_of_neg (by decide), List.append_nil]
  have dropped : (name.map Mark.plain ++ .plain '=' :: marks more).dropWhile nameMark =
      .plain '=' :: marks more := by
    rw [List.dropWhile_append_of_pos names, List.dropWhile_cons_of_neg (by decide)]
  have assigns : assignment (name.map Mark.plain ++ .plain '=' :: marks more) = true := by
    rw [assignment, taken, dropped]
    cases name with
    | nil => cases starts
    | cons character name => simpa using starts
  rw [assignsTo, whole, if_pos assigns, taken, literal_plain]

/-- White space that a shell skips in front of a command, up to something else. -/
theorem leading_append {white body : List Char}
    (skipped : ∀ character ∈ white, (blank character || character = '\n') = true)
    (stops : body.head?.any (fun character => blank character || character = '\n') = false)
    (joined : ¬['\\', '\n'] <+: body) : leading (white ++ body) = white.length := by
  induction white with
  | nil =>
    cases body with
    | nil => rfl
    | cons character body =>
      have here : (blank character || decide (character = '\n')) = false := stops
      rw [List.nil_append, leading.eq_def]
      simp only [here, Bool.false_eq_true, if_false]
      by_cases escape : character = '\\'
      · subst escape
        cases body with
        | nil => rfl
        | cons next body =>
          have other : next ≠ '\n' := by
            rintro rfl
            exact joined ⟨body, rfl⟩
          simp [other]
      · simp [escape]
  | cons character white ih =>
    have here := skipped character List.mem_cons_self
    have rest := ih fun other inside => skipped other (List.mem_cons_of_mem _ inside)
    rw [List.cons_append, leading.eq_def]
    simp only [here, if_true, rest, List.length_cons]

end Plain

end Shell
