import AgentBash.Shell.Words
import Mathlib.Data.List.TakeWhile

/-!
# From the words of a command line to its arguments

Brace, tilde and pathname expansion of the words of a command, with the users' homes, the files and
the shell's own brace expansion as they may be. The words that mean themselves in whatever
surroundings are told by their characters.
-/

set_option autoImplicit false

namespace Shell

/-- What the expansions depend on: the home of a login name, the words that a shell makes of a
brace expression, and the names of the files that match a pattern. -/
structure Surroundings where
  home : List Char → Option (List Char)
  braces : Word → List Word
  files : Word → List (List Char)

/-- Whether an opening brace that stands before these marks is closed with a comma between. -/
def listed : Nat → Bool → Word → Bool
  | _, _, [] => false
  | depth, comma, mark :: rest =>
    if mark = .plain '{' then listed (depth + 1) comma rest
    else if mark = .plain '}' then
      match depth with
      | 0 => comma
      | depth + 1 => listed depth comma rest
    else listed depth (comma || (depth = 0 && mark = .plain ',')) rest

/-- The parts of a text between double dots. -/
def ranges : List Char → List (List Char)
  | [] => [[]]
  | '.' :: '.' :: rest => [] :: ranges rest
  | character :: rest =>
    match ranges rest with
    | [] => [[character]]
    | part :: parts => (character :: part) :: parts

def whole : List Char → Bool
  | '-' :: digits => digits != [] && digits.all Char.isDigit
  | '+' :: digits => digits != [] && digits.all Char.isDigit
  | digits => digits != [] && digits.all Char.isDigit

def letter : List Char → Bool
  | [character] => character.isAlpha
  | _ => false

/-- Whether an opening brace that stands before these marks is closed around a sequence. -/
def sequenced (rest : Word) : Bool :=
  let content := rest.takeWhile fun mark => mark != .plain '}'
  content.length < rest.length && content.all Mark.isPlain &&
    match ranges (literal content) with
    | [first, last] => (whole first && whole last) || (letter first && letter last)
    | [first, last, step] =>
      ((whole first && whole last) || (letter first && letter last)) && whole step
    | _ => false

def braced : Word → Bool
  | [] => false
  | mark :: rest => (mark = .plain '{' && (listed 0 false rest || sequenced rest)) || braced rest

/-- Whether a bracket expression closes in these marks. A bracket that is its first member does not
close it, and a slash is in none. -/
def closes (first : Bool) : Word → Bool
  | [] => false
  | mark :: rest =>
    if mark.character = some '/' then false
    else if mark = .quote then closes first rest
    else (mark = .plain ']' && !first) || closes false rest

def bracketed (rest : Word) : Bool :=
  if rest.head? = some (.plain '!') || rest.head? = some (.plain '^') then closes true rest.tail
  else closes true rest

def patterned : Word → Bool
  | [] => false
  | mark :: rest =>
    mark = .plain '*' || mark = .plain '?' || (mark = .plain '[' && bracketed rest) ||
      patterned rest

/-- What stands before the first of the stops. -/
def login (stops : List Char) (word : Word) : Word :=
  word.takeWhile fun mark => !(stops.map Mark.plain).contains mark

/-- Whether a word begins with a tilde and a login name, none of it quoted. -/
def tilded (stops : List Char) (word : Word) : Bool :=
  word.head? = some (.plain '~') && (login stops word.tail).all Mark.isPlain

def expandTilde (around : Surroundings) (stops : List Char) (word : Word) : Word :=
  if tilded stops word then
    match around.home (literal (login stops word.tail)) with
    | none => word
    | some home => home.map .quoted ++ word.tail.drop (login stops word.tail).length
  else word

def alternatives (around : Surroundings) (word : Word) : List Word :=
  if braced word then around.braces word else [word]

def pathnames (around : Surroundings) (word : Word) : List (List Char) :=
  if patterned word then
    match around.files word with
    | [] => [literal word]
    | name :: names => name :: names
  else [literal word]

/-- The arguments one word stands for. -/
def fields (around : Surroundings) (word : Word) : List (List Char) :=
  (alternatives around word).flatMap fun word => pathnames around (expandTilde around ['/'] word)

def nameMark : Mark → Bool
  | .plain character => character.isAlphanum || character = '_'
  | _ => false

def assignee (word : Word) : Word := word.takeWhile nameMark

def value (word : Word) : Word := (word.dropWhile nameMark).tail

def assignment (word : Word) : Bool :=
  (match assignee word with
    | .plain character :: _ => !character.isDigit
    | _ => false) &&
  (word.dropWhile nameMark).head? = some (.plain '=')

/-- The parts of an assigned value in which a tilde is looked for: a colon ends each but the last. -/
def segments : Word → List Word
  | [] => [[]]
  | mark :: rest =>
    if mark = .plain ':' then [mark] :: segments rest
    else
      match segments rest with
      | [] => [[mark]]
      | part :: parts => (mark :: part) :: parts

def assigned (around : Surroundings) (word : Word) : Word :=
  assignee word ++
    .plain '=' :: ((segments (value word)).map (expandTilde around ['/', ':'])).flatten

def reserved : List (List Char) :=
  [['!'], ['{'], ['}'], ['c', 'a', 's', 'e'], ['d', 'o'], ['d', 'o', 'n', 'e'],
    ['e', 'l', 'i', 'f'], ['e', 'l', 's', 'e'], ['e', 's', 'a', 'c'], ['f', 'i'], ['f', 'o', 'r'],
    ['i', 'f'], ['i', 'n'], ['t', 'h', 'e', 'n'], ['u', 'n', 't', 'i', 'l'],
    ['w', 'h', 'i', 'l', 'e']]

/-- Whether a command begins with a reserved word, and so is not a simple one. -/
def compound : List Word → Bool
  | [] => false
  | word :: _ => word.all Mark.isPlain && reserved.contains (literal word)

/-- The assignments of a command and the arguments it passes. -/
def arguments (around : Surroundings) (words : List Word) : Option (List (List Char)) :=
  if compound words then none
  else some (((words.takeWhile assignment).map fun word => literal (assigned around word)) ++
    (words.dropWhile assignment).flatMap (fields around))

/-- What a shell makes of a command line in its surroundings. -/
def read (around : Surroundings) (line : List Char) : Option (List (List Char)) :=
  (split line).bind (arguments around)

/-! ### The words that mean themselves -/

def steadyField (word : Word) : Bool := !braced word && !tilded ['/'] word && !patterned word

def steadyAssignment (word : Word) : Bool := (segments (value word)).all fun part =>
  !tilded ['/', ':'] part

def settled (words : List Word) : Bool :=
  !compound words && (words.takeWhile assignment).all steadyAssignment &&
    (words.dropWhile assignment).all steadyField

theorem segments_flatten (word : Word) : (segments word).flatten = word := by
  induction word with
  | nil => rfl
  | cons mark rest ih =>
    rw [segments]
    split
    · simp [ih]
    · cases parts : segments rest with
      | nil => simp_all
      | cons part parts => simp_all

theorem assignment_eq {word : Word} (assigns : assignment word = true) :
    assignee word ++ .plain '=' :: value word = word := by
  have equals : (word.dropWhile nameMark).head? = some (.plain '=') := by
    simpa using (Bool.and_eq_true_iff.mp assigns).2
  have split := List.takeWhile_append_dropWhile (p := nameMark) (l := word)
  rw [assignee, value]
  cases rest : word.dropWhile nameMark with
  | nil => simp [rest] at equals
  | cons mark rest =>
    rw [rest] at equals split
    obtain rfl := Option.some.inj equals
    exact split

theorem expandTilde_of_untilded (around : Surroundings) {stops : List Char} {word : Word}
    (plain : tilded stops word = false) : expandTilde around stops word = word := by
  simp [expandTilde, plain]

theorem fields_of_steady (around : Surroundings) {word : Word} (steady : steadyField word = true) :
    fields around word = [literal word] := by
  simp only [steadyField, Bool.and_eq_true, Bool.not_eq_true'] at steady
  obtain ⟨⟨plain, here⟩, exact⟩ := steady
  simp [fields, alternatives, plain, expandTilde_of_untilded around here, pathnames, exact]

theorem assigned_of_steady (around : Surroundings) {word : Word} (assigns : assignment word = true)
    (steady : steadyAssignment word = true) : assigned around word = word := by
  have parts : (segments (value word)).map (expandTilde around ['/', ':']) =
      segments (value word) := by
    conv_rhs => rw [← List.map_id (segments (value word))]
    refine List.map_congr_left fun part member => ?_
    have plain := List.all_eq_true.mp steady part member
    exact expandTilde_of_untilded around (by simpa using plain)
  rw [assigned, parts, segments_flatten, assignment_eq assigns]

theorem arguments_of_settled (around : Surroundings) {words : List Word}
    (steady : settled words = true) : arguments around words = some (words.map literal) := by
  simp only [settled, Bool.and_eq_true, Bool.not_eq_true', List.all_eq_true] at steady
  obtain ⟨⟨simple, assignments⟩, rest⟩ := steady
  have front : ((words.takeWhile assignment).map fun word => literal (assigned around word)) =
      (words.takeWhile assignment).map literal :=
    List.map_congr_left fun word member => congrArg literal
      (assigned_of_steady around (List.mem_takeWhile_imp member) (assignments word member))
  have back : (words.dropWhile assignment).flatMap (fields around) =
      (words.dropWhile assignment).map literal := by
    rw [List.map_eq_flatMap]
    exact List.flatMap_congr fun word member => fields_of_steady around (rest word member)
  rw [arguments, simple, front, back, ← List.map_append, List.takeWhile_append_dropWhile]
  rfl

def inert : Surroundings := ⟨fun _ => none, fun word => [word], fun _ => []⟩

/-- Every brace expression has two words and every pattern two files. -/
def crowd : Surroundings := ⟨fun _ => none, fun word => [word, word], fun _ => [[], []]⟩

/-- Every home is named by a slash and the tilde expression itself. -/
def lodging : Surroundings :=
  ⟨fun name => some ('/' :: '~' :: name), fun word => [word], fun _ => []⟩

theorem expandTilde_homeless {around : Surroundings} (homeless : ∀ name, around.home name = none)
    (stops : List Char) (word : Word) : expandTilde around stops word = word := by
  simp [expandTilde, homeless]

theorem pathnames_crowd (word : Word) :
    (pathnames crowd word).length = if patterned word then 2 else 1 := by
  unfold pathnames
  split <;> rfl

theorem fields_crowd (word : Word) :
    1 ≤ (fields crowd word).length ∧
      ((fields crowd word).length = 1 → braced word = false ∧ patterned word = false) := by
  have homeless : expandTilde crowd ['/'] word = word := expandTilde_homeless (fun _ => rfl) _ _
  have length := pathnames_crowd word
  unfold fields alternatives
  split
  · simp only [crowd, List.flatMap_cons, List.flatMap_nil, List.append_nil, List.length_append]
    rw [← crowd, homeless, length]
    split <;> simp
  · rename_i plain
    simp only [List.flatMap_cons, List.flatMap_nil, List.append_nil]
    rw [homeless, length]
    split <;> simp_all

theorem literal_quoted (text : List Char) : literal (text.map .quoted) = text := by
  induction text with
  | nil => rfl
  | cons character rest ih => simp [ih]

theorem login_append (stops : List Char) (word : Word) :
    login stops word ++ word.drop (login stops word).length = word := by
  have start : login stops word <+: word := List.takeWhile_prefix _
  conv_lhs => rw [List.prefix_iff_eq_take.mp start]
  rw [List.length_take, Nat.min_eq_left start.length_le, List.take_append_drop]

theorem literal_lodging {stops : List Char} {word : Word} (home : tilded stops word = true) :
    literal (expandTilde lodging stops word) = '/' :: literal word := by
  cases word with
  | nil => simp [tilded] at home
  | cons mark rest =>
    obtain rfl : mark = .plain '~' := by simpa using (Bool.and_eq_true_iff.mp home).1
    have whole := congrArg literal (login_append stops rest)
    rw [literal_append] at whole
    simp only [expandTilde, home, lodging, if_true, List.tail_cons, literal_append, literal_quoted]
    simpa using whole

theorem literal_lodging_length (stops : List Char) (word : Word) :
    (literal word).length ≤ (literal (expandTilde lodging stops word)).length ∧
      ((literal (expandTilde lodging stops word)).length = (literal word).length →
        tilded stops word = false) := by
  cases home : tilded stops word with
  | false => simp [expandTilde_of_untilded lodging home]
  | true => simp [literal_lodging home]

theorem fields_lodging (word : Word) :
    fields lodging word = [literal (expandTilde lodging ['/'] word)] := by
  have alone : alternatives lodging word = [word] := by
    unfold alternatives
    split <;> rfl
  have named (word : Word) : pathnames lodging word = [literal word] := by
    unfold pathnames
    split <;> rfl
  rw [fields, alone]
  simp [named]

theorem fields_inert (word : Word) : fields inert word = [literal word] := by
  have alone : alternatives inert word = [word] := by
    unfold alternatives
    split <;> rfl
  have named (word : Word) : pathnames inert word = [literal word] := by
    unfold pathnames
    split <;> rfl
  rw [fields, alone]
  simp [named, @expandTilde_homeless inert fun _ => rfl]

theorem assigned_inert {word : Word} (assigns : assignment word = true) :
    assigned inert word = word := by
  have parts : (segments (value word)).map (expandTilde inert ['/', ':']) =
      segments (value word) := by
    conv_rhs => rw [← List.map_id (segments (value word))]
    exact List.map_congr_left fun part _ => expandTilde_homeless (fun _ => rfl) _ part
  rw [assigned, parts, segments_flatten, assignment_eq assigns]

theorem parts_lodging (stops : List Char) (parts : List Word) :
    (literal parts.flatten).length ≤
        (literal (parts.map (expandTilde lodging stops)).flatten).length ∧
      ((literal (parts.map (expandTilde lodging stops)).flatten).length =
          (literal parts.flatten).length →
        ∀ part ∈ parts, tilded stops part = false) := by
  induction parts with
  | nil => simp
  | cons part parts ih =>
    obtain ⟨more, exact⟩ := ih
    obtain ⟨longer, plain⟩ := literal_lodging_length stops part
    simp only [List.map_cons, List.flatten_cons, literal_append, List.length_append,
      List.mem_cons, forall_eq_or_imp]
    exact ⟨by omega, fun same => ⟨plain (by omega), exact (by omega)⟩⟩

theorem steadyAssignment_of_lodging {word : Word} (assigns : assignment word = true)
    (same : literal (assigned lodging word) = literal word) : steadyAssignment word = true := by
  have lengths := congrArg List.length same
  rw [← assignment_eq assigns] at lengths
  have front : assigned lodging (assignee word ++ .plain '=' :: value word) =
      assignee word ++ .plain '=' ::
        ((segments (value word)).map (expandTilde lodging ['/', ':'])).flatten := by
    rw [assignment_eq assigns, assigned]
  rw [front] at lengths
  have parts : (literal ((segments (value word)).map
      (expandTilde lodging ['/', ':'])).flatten).length =
        (literal (segments (value word)).flatten).length := by
    rw [segments_flatten]
    simpa using lengths
  exact List.all_eq_true.mpr fun part member => by
    simp [(parts_lodging _ _).2 parts part member]

theorem ones_of_length {Item Other : Type} {f : Item → List Other} {items : List Item}
    (filled : ∀ item ∈ items, 1 ≤ (f item).length) :
    items.length ≤ (items.flatMap f).length ∧
      ((items.flatMap f).length = items.length → ∀ item ∈ items, (f item).length = 1) := by
  induction items with
  | nil => simp
  | cons item items ih =>
    simp only [List.mem_cons, forall_eq_or_imp] at filled ⊢
    obtain ⟨more, exact⟩ := ih filled.2
    simp only [List.flatMap_cons, List.length_append, List.length_cons]
    exact ⟨by omega, fun total => ⟨by omega, exact (by omega)⟩⟩

theorem arguments_inert {words : List Word} (simple : compound words = false) :
    arguments inert words = some (words.map literal) := by
  have front : ((words.takeWhile assignment).map fun word => literal (assigned inert word)) =
      (words.takeWhile assignment).map literal :=
    List.map_congr_left fun word member => congrArg literal
      (assigned_inert (List.mem_takeWhile_imp member))
  have back : (words.dropWhile assignment).flatMap (fields inert) =
      (words.dropWhile assignment).map literal := by
    rw [List.map_eq_flatMap]
    exact List.flatMap_congr fun word _ => fields_inert word
  rw [arguments, simple, front, back, ← List.map_append, List.takeWhile_append_dropWhile]
  rfl

/-- The arguments of a command, apart from its assignments, if it is simple. -/
theorem arguments_eq {around : Surroundings} {words : List Word}
    (same : arguments around words = some (words.map literal)) :
    compound words = false ∧
      ((words.takeWhile assignment).map fun word => literal (assigned around word)) =
        (words.takeWhile assignment).map literal ∧
      (words.dropWhile assignment).flatMap (fields around) =
        (words.dropWhile assignment).map literal := by
  unfold arguments at same
  split at same
  · cases same
  · rename_i simple
    have joined := Option.some.inj same
    nth_rewrite 3 [← List.takeWhile_append_dropWhile (p := assignment) (l := words)] at joined
    rw [List.map_append] at joined
    exact ⟨by simpa using simple, List.append_inj joined (by simp)⟩

/-- The words of a command are its arguments whatever the surroundings exactly if no expansion
finds anything in them. -/
theorem arguments_iff_settled (words : List Word) :
    (∀ around, arguments around words = some (words.map literal)) ↔ settled words = true := by
  refine ⟨fun same => ?_, fun steady around => arguments_of_settled around steady⟩
  obtain ⟨simple, assignments, homes⟩ := arguments_eq (same lodging)
  obtain ⟨-, -, crowded⟩ := arguments_eq (same crowd)
  have single := (ones_of_length fun word _ => (fields_crowd word).1).2
    (by simpa using congrArg List.length crowded)
  have lodged : (words.dropWhile assignment).map
      (fun word => literal (expandTilde lodging ['/'] word)) =
        (words.dropWhile assignment).map literal := by
    rw [← homes, List.map_eq_flatMap]
    exact List.flatMap_congr fun word _ => (fields_lodging word).symm
  simp only [settled, Bool.and_eq_true, Bool.not_eq_true', List.all_eq_true]
  refine ⟨⟨simple, fun word member => ?_⟩, fun word member => ?_⟩
  · exact steadyAssignment_of_lodging (List.mem_takeWhile_imp member)
      (List.map_inj_left.mp assignments word member)
  · obtain ⟨plain, exact⟩ := (fields_crowd word).2 (single word member)
    have here := (literal_lodging_length ['/'] word).2
      (congrArg List.length (List.map_inj_left.mp lodged word member))
    simp [steadyField, plain, here, exact]

end Shell
