import AgentBash.Shell.Expansion
import Mathlib.Tactic.Tauto

/-!
# Structured shell words

The adapter admits an explicit run by cutting its command into words itself, with a small reader of
quotes, and then runs them without a shell.
-/

set_option autoImplicit false

namespace AgentBash.OpenCode

inductive Quote
  | single
  | double
  deriving DecidableEq, Repr

/-- The white space of a JavaScript regular expression. -/
def space (character : Char) : Bool :=
  character ∈ ['\t', '\n', '\x0b', '\x0c', '\r', ' ', '\u00a0', '\u1680', '\u2028', '\u2029',
    '\u202f', '\u205f', '\u3000', '\ufeff'] || ('\u2000' ≤ character && character ≤ '\u200a')

def special (character : Char) : Bool :=
  character ∈ ['$', '`', ';', '|', '&', '<', '>', '(', ')']

/-- The loop over the characters that are left. -/
def scan (words : List (List Char)) (word : List Char) (started : Bool) (quote : Option Quote) :
    List Char → Option (List (List Char))
  | [] => if quote.isSome then none else some (if started then words ++ [word] else words)
  | character :: rest =>
    match quote with
    | some .single =>
      if character = '\'' then scan words word started none rest
      else scan words (word ++ [character]) started (some .single) rest
    | some .double =>
      if character = '"' then scan words word started none rest
      else if character = '\\' then
        match rest with
        | [] => none
        | next :: rest => scan words (word ++ [next]) started (some .double) rest
      else if character = '$' || character = '`' then none
      else scan words (word ++ [character]) started (some .double) rest
    | none =>
      if character = '\n' || character = '\r' then none
      else if space character then
        if started then scan (words ++ [word]) [] false none rest
        else scan words word started none rest
      else if character = '\'' then scan words word true (some .single) rest
      else if character = '"' then scan words word true (some .double) rest
      else if character = '\\' then
        match rest with
        | [] => none
        | next :: rest => scan words (word ++ [next]) true none rest
      else if special character then none
      else scan words (word ++ [character]) true none rest

def structuredShellWords (command : List Char) : Option (List (List Char)) :=
  scan [] [] false none command

/-- What the reader refuses: a quote that stays open, a backslash at the end, a line break or a
special character outside quotes, and an expansion inside double quotes. -/
def refused (quote : Option Quote) : List Char → Bool
  | [] => quote.isSome
  | character :: rest =>
    match quote with
    | some .single =>
      if character = '\'' then refused none rest else refused (some .single) rest
    | some .double =>
      if character = '"' then refused none rest
      else if character = '\\' then
        match rest with
        | [] => true
        | _ :: rest => refused (some .double) rest
      else Shell.expands character || refused (some .double) rest
    | none =>
      if character = '\n' || character = '\r' then true
      else if character = '\'' then refused (some .single) rest
      else if character = '"' then refused (some .double) rest
      else if character = '\\' then
        match rest with
        | [] => true
        | _ :: rest => refused none rest
      else special character || refused none rest

/-- Nothing the reader takes for something else than a shell does: inside double quotes a backslash
stands before what it quotes, outside quotes it is not before a line break, the only white space
there is the shell's own, and no word starts with a comment sign. -/
def clear (quote : Option Quote) (started : Bool) : List Char → Bool
  | [] => true
  | character :: rest =>
    match quote with
    | some .single =>
      if character = '\'' then clear none started rest else clear (some .single) started rest
    | some .double =>
      if character = '"' then clear none started rest
      else if character = '\\' then
        match rest with
        | [] => true
        | next :: rest => Shell.escapable next && clear (some .double) started rest
      else clear (some .double) started rest
    | none =>
      if space character then Shell.blank character && clear none false rest
      else if character = '\'' then clear (some .single) true rest
      else if character = '"' then clear (some .double) true rest
      else if character = '\\' then
        match rest with
        | [] => true
        | next :: rest => next != '\n' && clear none true rest
      else (character != '#' || started) && clear none true rest

theorem space_ordinary {character : Char} (white : space character = true) :
    character ≠ '\'' ∧ character ≠ '"' ∧ character ≠ '\\' ∧ character ≠ '#' ∧
      special character = false := by
  refine ⟨?_, ?_, ?_, ?_, ?_⟩
  · rintro rfl; exact absurd white (by decide)
  · rintro rfl; exact absurd white (by decide)
  · rintro rfl; exact absurd white (by decide)
  · rintro rfl; exact absurd white (by decide)
  · refine Bool.eq_false_iff.mpr fun chosen => ?_
    simp only [special, decide_eq_true_eq, List.mem_cons, List.not_mem_nil, or_false] at chosen
    rcases chosen with rfl | rfl | rfl | rfl | rfl | rfl | rfl | rfl | rfl <;>
      exact absurd white (by decide)

theorem space_of_blank {character : Char} (blank : Shell.blank character = true) :
    space character = true ∧ character ≠ '\n' ∧ character ≠ '\r' := by
  simp only [Shell.blank, Bool.or_eq_true, decide_eq_true_eq] at blank
  rcases blank with rfl | rfl <;> decide

theorem ordinary_of_dark {character : Char} (dark : ¬space character = true) :
    character ≠ '\n' ∧ character ≠ '\r' ∧ Shell.blank character = false := by
  refine ⟨?_, ?_, ?_⟩
  · rintro rfl; exact dark (by decide)
  · rintro rfl; exact dark (by decide)
  · exact Bool.eq_false_iff.mpr fun blank => dark (space_of_blank blank).1

theorem quoting_dark (character : Char)
    (member : character ∈ ['\'', '"', '\\']) :
    space character = false ∧ Shell.blank character = false := by
  revert member
  simp only [List.mem_cons, List.not_mem_nil, or_false]
  rintro (rfl | rfl | rfl) <;> decide

theorem special_eq (character : Char) :
    special character = (Shell.operator character || Shell.expands character) := by
  rw [Bool.eq_iff_iff]
  simp only [special, Shell.operator, Shell.expands, decide_eq_true_eq, List.mem_cons,
    List.not_mem_nil, or_false, Bool.or_eq_true]
  tauto

theorem scan_eq_none_iff (words : List (List Char)) (word : List Char) (started : Bool)
    (quote : Option Quote) (command : List Char) :
    scan words word started quote command = none ↔ refused quote command = true := by
  fun_induction scan words word started quote command <;> rw [refused.eq_def]
  case case11 _ _ white _ =>
    obtain ⟨single, double, escape, -, ordinary⟩ := space_ordinary white
    simp_all
  case case12 _ _ white _ _ =>
    obtain ⟨single, double, escape, -, ordinary⟩ := space_ordinary white
    simp_all
  all_goals simp_all [Shell.expands]

def quoting : Option Quote → Shell.Quoting
  | none => .bare
  | some .single => .single
  | some .double => .double

theorem tokens_of_clear (quote : Option Quote) (started : Bool) (command : List Char)
    (marked : List Shell.Word) (word : Option Shell.Word) (same : word.isSome = started)
    (inside : quote.isSome = true → started = true)
    (clean : clear quote started command = true) :
    (Shell.tokens marked word (quoting quote) command).map (List.map Shell.literal) =
      scan (marked.map Shell.literal) (Shell.literal (word.getD [])) started quote command := by
  fun_induction clear quote started command generalizing marked word
  case case1 quote _ =>
    rcases quote with _ | _ | _
    · cases word <;> simp_all [quoting, Shell.tokens, scan, Shell.close]
    · simp [quoting, Shell.tokens, scan]
    · simp [quoting, Shell.tokens, scan]
  all_goals rw [Shell.tokens.eq_def, scan.eq_def]
  case case2 rest ih =>
    obtain rfl := inside rfl
    simpa [quoting] using ih marked (Shell.put word [.quote]) rfl (by simp) clean
  case case3 character rest other ih =>
    obtain rfl := inside rfl
    simpa [quoting, other] using ih marked (Shell.put word [.quoted character]) rfl (by simp) clean
  case case4 rest ih =>
    obtain rfl := inside rfl
    simpa [quoting] using ih marked (Shell.put word [.quote]) rfl (by simp) clean
  case case5 => simp [quoting]
  case case6 character rest other ih =>
    obtain rfl := inside rfl
    obtain ⟨escapes, clean⟩ := Bool.and_eq_true_iff.mp clean
    have solid : character ≠ '\n' := by rintro rfl; exact absurd escapes (by decide)
    simpa [quoting, escapes, solid] using
      ih marked (Shell.put word [.quoted character]) rfl (by simp) clean
  case case7 character rest other escape ih =>
    obtain rfl := inside rfl
    have step := ih marked (Shell.put word [.quoted character]) rfl (by simp) clean
    by_cases expands : Shell.expands character = true
    · have stops : character = '$' ∨ character = '`' := by simpa [Shell.expands] using expands
      simp [quoting, other, escape, expands, stops]
    · have goes : ¬(character = '$' ∨ character = '`') := by simpa [Shell.expands] using expands
      simpa [quoting, other, escape, expands, goes] using step
  case case8 character rest white ih =>
    obtain ⟨blank, clean⟩ := Bool.and_eq_true_iff.mp clean
    obtain ⟨-, line, carriage⟩ := space_of_blank blank
    have step := ih (Shell.close marked word) none rfl (by simp) clean
    cases word with
    | none => simpa [quoting, line, carriage, blank, white, ← same, Shell.close] using step
    | some word => simpa [quoting, line, carriage, blank, white, ← same, Shell.close] using step
  case case9 rest _ ih =>
    simpa [quoting, quoting_dark] using ih marked (Shell.put word [.quote]) rfl (by simp) clean
  case case10 rest _ _ ih =>
    simpa [quoting, quoting_dark] using ih marked (Shell.put word [.quote]) rfl (by simp) clean
  case case11 => simp [quoting, quoting_dark]
  case case12 character rest _ _ _ ih =>
    obtain ⟨solid, clean⟩ := Bool.and_eq_true_iff.mp clean
    have solid : character ≠ '\n' := by simpa using solid
    simpa [quoting, quoting_dark, solid] using
      ih marked (Shell.put word [.quoted character]) rfl (by simp) clean
  case case13 character rest dark single double escape ih =>
    obtain ⟨silent, clean⟩ := Bool.and_eq_true_iff.mp clean
    obtain ⟨line, carriage, blank⟩ := ordinary_of_dark dark
    have read := ih marked (Shell.put word [.plain character]) rfl (by simp) clean
    have comment : ¬(character = '#' ∧ word = none) := by
      rintro ⟨rfl, rfl⟩
      simp [← same] at silent
    by_cases stops : special character = true
    · have stopped := stops
      rw [special_eq, Bool.or_eq_true] at stopped
      simp [quoting, dark, single, double, escape, line, carriage, blank, stops, stopped]
    · have goes := stops
      rw [special_eq, Bool.or_eq_true] at goes
      simpa [quoting, dark, single, double, escape, line, carriage, blank, stops, goes, comment]
        using read

/-- Text by which a reader and the shell can be told apart: the shell drops comments, and keeps
everything else the reader keeps but escaped line breaks. -/
def weight (text : List Char) : Int := text.length - 2 * text.count '\n'

def Level (read shell : List Char) : Prop :=
  shell.count '#' < read.count '#' ∨
    (shell.count '#' = read.count '#' ∧ weight read ≤ weight shell)

def Apart (read shell : List Char) : Prop :=
  shell.count '#' < read.count '#' ∨
    (shell.count '#' = read.count '#' ∧ weight read < weight shell)

theorem Apart.level {read shell : List Char} (apart : Apart read shell) : Level read shell :=
  apart.imp id fun ⟨same, less⟩ => ⟨same, Int.le_of_lt less⟩

theorem Apart.ne {read shell : List Char} (apart : Apart read shell) : read ≠ shell := by
  rintro rfl
  rcases apart with less | ⟨-, less⟩
  · exact Nat.lt_irrefl _ less
  · exact Int.lt_irrefl _ less

theorem Level.refl (text : List Char) : Level text text := .inr ⟨rfl, Int.le_refl _⟩

@[simp] theorem weight_append (text more : List Char) :
    weight (text ++ more) = weight text + weight more := by
  simp only [weight, List.length_append, List.count_append]
  omega

theorem Level.append {read shell : List Char} (level : Level read shell) (more : List Char) :
    Level (read ++ more) (shell ++ more) := by
  simp only [Level, List.count_append, weight_append] at *
  omega

theorem Apart.append {read shell : List Char} (apart : Apart read shell) (more : List Char) :
    Apart (read ++ more) (shell ++ more) := by
  simp only [Apart, List.count_append, weight_append] at *
  omega

/-- The shell keeps a character the reader takes for a blank, or a backslash. -/
theorem Level.kept {read shell : List Char} (level : Level read shell) {character : Char}
    (line : character ≠ '\n') (comment : character ≠ '#') (more : List Char) :
    Apart (read ++ more) (shell ++ character :: more) := by
  have split : shell ++ character :: more = shell ++ [character] ++ more := by simp
  have heavy : weight [character] = 1 := by simp [weight, line]
  have quiet : List.count '#' [character] = 0 := by simp [comment]
  rw [split]
  simp only [Level, Apart, List.count_append, weight_append] at *
  omega

theorem Level.joined {read shell : List Char} (level : Level read shell) :
    Apart (read ++ ['\n']) shell := by
  have light : weight ['\n'] = -1 := by decide
  have quiet : List.count '#' ['\n'] = 0 := by decide
  simp only [Level, Apart, List.count_append, weight_append] at *
  omega

theorem Level.commented {read shell text : List Char} (level : Level read shell)
    (more : (read ++ ['#']) <+: text) : Apart text shell := by
  obtain ⟨rest, rfl⟩ := more
  have loud : List.count '#' ['#'] = 1 := by decide
  simp only [Level, Apart, List.count_append] at *
  omega

theorem prefix_of_grown {words : List (List Char)} {word more text : List Char}
    (grown : (words.flatten ++ (word ++ more)) <+: text) : (words.flatten ++ word) <+: text := by
  rw [← List.append_assoc] at grown
  exact (List.prefix_append _ _).trans grown

theorem scan_prefix (words : List (List Char)) (word : List Char) (started : Bool)
    (quote : Option Quote) (command : List Char) {read : List (List Char)}
    (empty : started = false → word = [])
    (inside : quote.isSome = true → started = true)
    (reads : scan words word started quote command = some read) :
    (words.flatten ++ word) <+: read.flatten := by
  fun_induction scan words word started quote command
  case case2 words word started quote _ =>
    obtain rfl := Option.some.inj reads
    cases started with
    | true => simp
    | false => simp [empty rfl]
  case case3 ih | case5 ih | case12 ih => exact ih empty (by simp) reads
  case case4 ih | case7 ih | case9 ih =>
    obtain rfl := inside rfl
    exact prefix_of_grown (ih (by simp) (by simp) reads)
  case case11 ih =>
    have rest := ih (by simp) (by simp) reads
    simpa using rest
  case case13 ih | case14 ih => exact ih (by simp) (by simp) reads
  case case16 ih | case18 ih => exact prefix_of_grown (ih (by simp) (by simp) reads)
  all_goals cases reads

/-- What the shell does at a character that is white space to the reader. -/
theorem tokens_space {character : Char} {rest : List Char} {marked final : List Shell.Word}
    {current : Option Shell.Word} (white : space character = true) (line : character ≠ '\n')
    (split : Shell.tokens marked current .bare (character :: rest) = some final) :
    (Shell.blank character = true ∧
        Shell.tokens (Shell.close marked current) none .bare rest = some final) ∨
      (Shell.blank character = false ∧ character ≠ '#' ∧
        Shell.tokens marked (Shell.put current [.plain character]) .bare rest = some final) := by
  obtain ⟨single, double, escape, comment, ordinary⟩ := space_ordinary white
  rw [special_eq] at ordinary
  rw [Shell.tokens.eq_def] at split
  cases blank : Shell.blank character with
  | true => exact .inl ⟨rfl, by simpa [line, blank] using split⟩
  | false =>
    exact .inr ⟨rfl, comment,
      by simpa [line, blank, single, double, escape, ordinary, comment] using split⟩

theorem tokens_ordinary {character : Char} {rest : List Char} {marked final : List Shell.Word}
    {current : Option Shell.Word} (dark : ¬space character = true) (single : character ≠ '\'')
    (double : character ≠ '"') (escape : character ≠ '\\') (ordinary : ¬special character = true)
    (split : Shell.tokens marked current .bare (character :: rest) = some final) :
    (character = '#' ∧ current = none ∧ final = marked) ∨
      (¬(character = '#' ∧ current = none) ∧
        Shell.tokens marked (Shell.put current [.plain character]) .bare rest = some final) := by
  obtain ⟨line, -, blank⟩ := ordinary_of_dark dark
  rw [special_eq] at ordinary
  rw [Shell.tokens.eq_def] at split
  by_cases comment : character = '#' ∧ current = none
  · obtain ⟨rfl, rfl⟩ := comment
    by_cases more : '\n' ∈ rest
    · simp [blank, ordinary, more] at split
    · exact .inl ⟨rfl, rfl, by simpa [blank, ordinary, more, eq_comm] using split⟩
  · exact .inr ⟨comment,
      by simpa [line, blank, single, double, escape, ordinary, comment] using split⟩

/-- Once a reader and the shell are apart, nothing that follows brings them together again. -/
theorem scan_apart (words : List (List Char)) (word : List Char) (started : Bool)
    (quote : Option Quote) (command : List Char) {read : List (List Char)}
    (empty : started = false → word = [])
    (inside : quote.isSome = true → started = true)
    (reads : scan words word started quote command = some read)
    (marked : List Shell.Word) (current : Option Shell.Word) {final : List Shell.Word}
    (split : Shell.tokens marked current (quoting quote) command = some final)
    (apart : Apart (words.flatten ++ word) (Shell.text marked current)) :
    Apart read.flatten (final.flatMap Shell.literal) := by
  fun_induction scan words word started quote command generalizing marked current
  case case2 words word started quote bare =>
    obtain rfl : quote = none := by simpa using bare
    obtain rfl := Option.some.inj reads
    obtain rfl : Shell.close marked current = final := by
      simpa [quoting, Shell.tokens] using split
    cases started with
    | true => simpa [Shell.text] using apart
    | false => simpa [Shell.text, empty rfl] using apart
  case case11 words word character rest line white ih =>
    obtain ⟨-, split⟩ | ⟨-, comment, split⟩ := tokens_space white (by simp_all) split
    · exact ih (by simp) (by simp) reads _ _ split (by simpa using apart)
    · refine ih (by simp) (by simp) reads _ _ split ?_
      simpa using apart.level.kept (by simp_all) comment []
  case case12 words word started character rest line white idle ih =>
    obtain ⟨-, split⟩ | ⟨-, comment, split⟩ := tokens_space white (by simp_all) split
    · exact ih empty (by simp) reads _ _ split (by simpa using apart)
    · refine ih empty (by simp) reads _ _ split ?_
      simpa using apart.level.kept (by simp_all) comment []
  case case18 words word _ character rest _ dark single double escape ordinary ih =>
    obtain ⟨rfl, rfl, rfl⟩ | ⟨-, split⟩ := tokens_ordinary dark single double escape ordinary split
    · have more := scan_prefix _ _ _ _ _ (by simp) (by simp) reads
      rw [← List.append_assoc] at more
      simpa [Shell.text, Shell.close] using apart.level.commented more
    · exact ih (by simp) (by simp) reads _ _ split (by simpa using apart.append [character])
  all_goals rw [Shell.tokens.eq_def] at split
  case case3 ih =>
    obtain rfl := inside rfl
    exact ih empty (by simp) reads marked (Shell.put current [.quote])
      (by simpa [quoting] using split) (by simpa using apart)
  case case4 words word _ character rest other ih =>
    obtain rfl := inside rfl
    exact ih (by simp) (by simp) reads marked (Shell.put current [.quoted character])
      (by simpa [quoting, other] using split) (by simpa using apart.append [character])
  case case5 ih =>
    obtain rfl := inside rfl
    exact ih empty (by simp) reads marked (Shell.put current [.quote])
      (by simpa [quoting] using split) (by simpa using apart)
  case case7 words word _ character rest _ ih =>
    obtain rfl := inside rfl
    by_cases line : character = '\n'
    · subst line
      exact ih (by simp) (by simp) reads marked current
        (by simpa [quoting] using split) (by simpa using apart.level.joined)
    · by_cases escapes : Shell.escapable character = true
      · exact ih (by simp) (by simp) reads marked (Shell.put current [.quoted character])
          (by simpa [quoting, line, escapes] using split) (by simpa using apart.append [character])
      · refine ih (by simp) (by simp) reads marked
          (Shell.put current [.quoted '\\', .quoted character])
          (by simpa [quoting, line, escapes] using split) ?_
        simpa using apart.level.kept  (by decide) (by decide) [character]
  case case9 words word _ character rest other escape ordinary ih =>
    obtain rfl := inside rfl
    have ordinary : ¬Shell.expands character = true := ordinary
    exact ih (by simp) (by simp) reads marked (Shell.put current [.quoted character])
      (by simpa [quoting, other, escape, ordinary] using split)
      (by simpa using apart.append [character])
  case case13 ih =>
    exact ih (by simp) (by simp) reads marked (Shell.put current [.quote])
      (by simpa [quoting, quoting_dark] using split) (by simpa using apart)
  case case14 ih =>
    exact ih (by simp) (by simp) reads marked (Shell.put current [.quote])
      (by simpa [quoting, quoting_dark] using split) (by simpa using apart)
  case case16 words word _ character rest _ _ _ _ ih =>
    by_cases line : character = '\n'
    · subst line
      exact ih (by simp) (by simp) reads marked current
        (by simpa [quoting, quoting_dark] using split) (by simpa using apart.level.joined)
    · exact ih (by simp) (by simp) reads marked (Shell.put current [.quoted character])
        (by simpa [quoting, quoting_dark, line] using split)
        (by simpa using apart.append [character])
  all_goals cases reads

theorem scan_apart_of_unclear (words : List (List Char)) (word : List Char) (started : Bool)
    (quote : Option Quote) (command : List Char) {read : List (List Char)}
    (empty : started = false → word = [])
    (inside : quote.isSome = true → started = true)
    (reads : scan words word started quote command = some read)
    (marked : List Shell.Word) (current : Option Shell.Word) {final : List Shell.Word}
    (split : Shell.tokens marked current (quoting quote) command = some final)
    (same : current.isSome = started)
    (together : words.flatten ++ word = Shell.text marked current)
    (unclear : clear quote started command = false) :
    Apart read.flatten (final.flatMap Shell.literal) := by
  have level : Level (words.flatten ++ word) (Shell.text marked current) :=
    together ▸ Level.refl _
  fun_induction scan words word started quote command generalizing marked current
  case case2 => simp [clear] at unclear
  all_goals rw [clear.eq_def] at unclear
  case case11 words word character rest line white ih =>
    obtain ⟨blank, split⟩ | ⟨-, comment, split⟩ := tokens_space white (by simp_all) split
    · exact ih (by simp) (by simp) reads _ _ split rfl (by simpa using together)
        (by simpa [white, blank] using unclear) (by simpa using level)
    · refine scan_apart _ _ _ _ _ (by simp) (by simp) reads _ _ split ?_
      simpa using level.kept (by simp_all) comment []
  case case12 words word started character rest line white idle ih =>
    obtain rfl : started = false := by simpa using idle
    obtain ⟨blank, split⟩ | ⟨-, comment, split⟩ := tokens_space white (by simp_all) split
    · exact ih empty (by simp) reads _ _ split rfl (by simpa using together)
        (by simpa [white, blank] using unclear) (by simpa using level)
    · refine scan_apart _ _ _ _ _ empty (by simp) reads _ _ split ?_
      simpa using level.kept (by simp_all) comment []
  case case18 words word started character rest _ dark single double escape ordinary ih =>
    obtain ⟨rfl, rfl, rfl⟩ | ⟨comment, split⟩ :=
      tokens_ordinary dark single double escape ordinary split
    · have more := scan_prefix _ _ _ _ _ (by simp) (by simp) reads
      rw [← List.append_assoc] at more
      simpa [Shell.text, Shell.close] using level.commented more
    · refine ih (by simp) (by simp) reads _ _ split rfl ?_ ?_ (by simpa using level.append [character])
      · simpa using congrArg (· ++ [character]) together
      · have loud : (character != '#' || started) = true := by
          rcases current with _ | current
          · simpa [← same] using comment
          · simp [← same]
        simpa [dark, single, double, escape, loud] using unclear
  all_goals rw [Shell.tokens.eq_def] at split
  case case3 ih =>
    obtain rfl := inside rfl
    exact ih empty (by simp) reads marked (Shell.put current [.quote])
      (by simpa [quoting] using split) rfl (by simpa using together) (by simpa using unclear)
      (by simpa using level)
  case case4 words word _ character rest other ih =>
    obtain rfl := inside rfl
    exact ih (by simp) (by simp) reads marked (Shell.put current [.quoted character])
      (by simpa [quoting, other] using split) rfl
      (by simpa using congrArg (· ++ [character]) together) (by simpa [other] using unclear)
      (by simpa using level.append [character])
  case case5 ih =>
    obtain rfl := inside rfl
    exact ih empty (by simp) reads marked (Shell.put current [.quote])
      (by simpa [quoting] using split) rfl (by simpa using together) (by simpa using unclear)
      (by simpa using level)
  case case7 words word _ character rest _ ih =>
    obtain rfl := inside rfl
    by_cases line : character = '\n'
    · subst line
      exact scan_apart _ _ _ _ _ (by simp) (by simp) reads marked current
        (by simpa [quoting] using split) (by simpa using level.joined)
    · by_cases escapes : Shell.escapable character = true
      · exact ih (by simp) (by simp) reads marked (Shell.put current [.quoted character])
          (by simpa [quoting, line, escapes] using split) rfl
          (by simpa using congrArg (· ++ [character]) together)
          (by simpa [escapes] using unclear) (by simpa using level.append [character])
      · refine scan_apart _ _ _ _ _ (by simp) (by simp) reads marked
          (Shell.put current [.quoted '\\', .quoted character])
          (by simpa [quoting, line, escapes] using split) ?_
        simpa using level.kept  (by decide) (by decide) [character]
  case case9 words word _ character rest other escape ordinary ih =>
    obtain rfl := inside rfl
    have ordinary : ¬Shell.expands character = true := ordinary
    exact ih (by simp) (by simp) reads marked (Shell.put current [.quoted character])
      (by simpa [quoting, other, escape, ordinary] using split) rfl
      (by simpa using congrArg (· ++ [character]) together)
      (by simpa [other, escape] using unclear) (by simpa using level.append [character])
  case case13 ih =>
    exact ih (by simp) (by simp) reads marked (Shell.put current [.quote])
      (by simpa [quoting, quoting_dark] using split) rfl (by simpa using together)
      (by simpa [quoting_dark] using unclear) (by simpa using level)
  case case14 ih =>
    exact ih (by simp) (by simp) reads marked (Shell.put current [.quote])
      (by simpa [quoting, quoting_dark] using split) rfl (by simpa using together)
      (by simpa [quoting_dark] using unclear) (by simpa using level)
  case case16 words word _ character rest _ _ _ _ ih =>
    by_cases line : character = '\n'
    · subst line
      exact scan_apart _ _ _ _ _ (by simp) (by simp) reads marked current
        (by simpa [quoting, quoting_dark] using split) (by simpa using level.joined)
    · exact ih (by simp) (by simp) reads marked (Shell.put current [.quoted character])
        (by simpa [quoting, quoting_dark, line] using split) rfl
        (by simpa using congrArg (· ++ [character]) together)
        (by simpa [quoting_dark, line] using unclear) (by simpa using level.append [character])
  all_goals cases reads

theorem split_of_clear {command : List Char} (clean : clear none false command = true) :
    (Shell.split command).map (List.map Shell.literal) = structuredShellWords command :=
  tokens_of_clear none false command [] none rfl (by simp) clean

theorem clear_of_split {command : List Char} {words : List (List Char)} {marked : List Shell.Word}
    (reads : structuredShellWords command = some words) (split : Shell.split command = some marked)
    (same : marked.map Shell.literal = words) : clear none false command = true := by
  refine eq_true_of_ne_false fun unclear => ?_
  have apart := scan_apart_of_unclear [] [] false none command (by simp) (by simp) reads [] none
    split rfl rfl unclear
  rw [List.flatMap_def, same] at apart
  exact apart.ne rfl

/-- The words the adapter reads are the words a shell passes, whatever its surroundings, exactly for
the commands it refuses and for those that hold nothing it takes for something else: no escape,
white space or comment of the shell's, and no word the shell expands or reserves. -/
theorem structured_shell_words_read (command : List Char) :
    (∀ around words, structuredShellWords command = some words →
        Shell.read around command = some words) ↔
      (refused none command = true ∨
        (clear none false command = true ∧ (Shell.split command).all Shell.settled = true)) := by
  constructor
  · intro read
    cases reads : structuredShellWords command with
    | none => exact .inl ((scan_eq_none_iff _ _ _ _ _).mp reads)
    | some words =>
      have read := fun around => read around words reads
      obtain ⟨marked, split, inert⟩ := Option.bind_eq_some_iff.mp (read Shell.inert)
      have simple : Shell.compound marked = false := by
        refine Bool.eq_false_iff.mpr fun compound => ?_
        simp [Shell.arguments, compound] at inert
      have same : marked.map Shell.literal = words := by
        rw [Shell.arguments_inert simple] at inert
        exact Option.some.inj inert
      refine .inr ⟨clear_of_split reads split same, ?_⟩
      rw [split, Option.all_some, ← Shell.arguments_iff_settled]
      intro around
      have whole := read around
      rw [Shell.read, split, Option.bind_some] at whole
      rw [whole, same]
  · rintro (refusal | ⟨clean, settled⟩) around words reads
    · rw [structuredShellWords, (scan_eq_none_iff _ _ _ _ _).mpr refusal] at reads
      cases reads
    · rw [← split_of_clear clean, Option.map_eq_some_iff] at reads
      obtain ⟨marked, split, same⟩ := reads
      rw [split, Option.all_some] at settled
      rw [Shell.read, split, Option.bind_some, Shell.arguments_of_settled around settled, same]

/-- A backslash inside double quotes stands for itself before an ordinary character; the adapter
drops it. -/
theorem structured_shell_words_backslash :
    ¬∀ command around words, structuredShellWords command = some words →
      Shell.read around command = some words := by
  intro read
  have words := read "agent-bash run -- echo \"a\\b\"".toList Shell.inert
    ["agent-bash".toList, "run".toList, "--".toList, "echo".toList, ['a', 'b']] (by decide +kernel)
  exact absurd words (by decide +kernel)

end AgentBash.OpenCode
