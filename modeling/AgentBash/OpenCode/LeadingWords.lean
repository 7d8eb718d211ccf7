import AgentBash.OpenCode.DirectRun
import AgentBash.Shell.Leading

/-!
# The first words of a command, to the adapter's reader

The first two words of a command as a shell reads them, and what the adapter's reader has in their
place. They are the same where nothing in them is read differently; where something is, an odd
character gets into one of the words.
-/

set_option autoImplicit false

namespace AgentBash.OpenCode

section Scan

variable {expansions : Shell.Expansions} {words result : List (List Char)}
  {word name next text : List Char} {started : Bool} {quote : Option Quote}
  {pieces one two : List Shell.Piece} {size length : Nat}

/-- A character that stands for itself to both. -/
def dark (character : Char) : Bool := Shell.plainCharacter character && !space character

/-- The word behind these holds another character. -/
def Strange (words result : List (List Char)) : Prop :=
  ∃ word, result[words.length]? = some word ∧ ∃ character ∈ word, dark character = false

/-- The reader has read the word that a shell reads here, and all is clear in it. -/
structure Aligned (words : List (List Char)) (word : List Char) (started : Bool)
    (quote : Option Quote) (text : List Char) (pieces : List Shell.Piece) (size : Nat) : Prop where
  scanned : scan words word started quote text =
    scan words (word ++ Shell.literal (Shell.marks pieces)) (started || decide (0 < size)) none
      (text.drop size)
  cleared : ∀ more, clear quote started (text.take (size + more)) =
    clear none (started || decide (0 < size)) ((text.drop size).take more)
  accepts : refused none (text.drop size) = false

/-- Not all is clear in the word, and then it holds an odd character to a shell or to the reader, or
is none to a shell. -/
structure Astray (words : List (List Char)) (word : List Char) (started : Bool)
    (quote : Option Quote) (text : List Char) (pieces : List Shell.Piece) (size : Nat) : Prop where
  unclear : ∀ more, clear quote started (text.take (size + more)) = false
  odd : (∃ character ∈ Shell.literal (Shell.marks pieces), dark character = false) ∨
    (∀ result, scan words word started quote text = some result → Strange words result) ∨
    (started = false ∧ text.head? = some '#')

theorem inside_none (inside : (none : Option Quote).isSome = true) : started = true := by
  cases inside

theorem take_one (character : Char) (rest : List Char) (fewer more : Nat) :
    (character :: rest).take (1 + fewer + more) = character :: rest.take (fewer + more) := by
  rw [Nat.add_assoc, Nat.add_comm, List.take_succ_cons]

theorem take_two (character next : Char) (rest : List Char) (fewer more : Nat) :
    (character :: next :: rest).take (2 + fewer + more) =
      character :: next :: rest.take (fewer + more) := by
  rw [Nat.add_assoc, Nat.add_comm, List.take_succ_cons, List.take_succ_cons]

theorem grown {mark : Shell.Mark} {word : Option (List Shell.Piece × Nat)} {count : Nat}
    (reads : Shell.grow [.mark mark] count word = some (pieces, size))
    (verbatim : (Shell.marks pieces).length = pieces.length) :
    ∃ rest fewer, word = some (rest, fewer) ∧ (Shell.marks rest).length = rest.length ∧
      Shell.literal (Shell.marks pieces) =
        mark.character.toList ++ Shell.literal (Shell.marks rest) ∧ size = count + fewer := by
  obtain ⟨rest, fewer, found, rfl, rfl⟩ := Shell.grow_eq_some reads
  exact ⟨rest, fewer, found, Nat.succ.inj verbatim, Shell.literal_cons mark (Shell.marks rest), rfl⟩

theorem reads_step {mark : Shell.Mark} {other : Option Quote} {rest grown : List Char}
    {others : List Shell.Piece} {fewer : Nat} (front : List Char) (some_ : 0 < front.length)
    (scanned : scan words word started quote (front ++ rest) = scan words grown true other rest)
    (cleared : ∀ more, clear quote started (front ++ more) = clear other true more)
    (put : grown = word ++ mark.character.toList)
    (taken : Shell.literal (Shell.marks pieces) =
      mark.character.toList ++ Shell.literal (Shell.marks others))
    (ih : Aligned words grown true other rest others fewer ∨
      Astray words grown true other rest others fewer) :
    Aligned words word started quote (front ++ rest) pieces (front.length + fewer) ∨
      Astray words word started quote (front ++ rest) pieces (front.length + fewer) := by
  have dropped : (front ++ rest).drop (front.length + fewer) = rest.drop fewer := by
    rw [← List.drop_drop, List.drop_left]
  have clears (more : Nat) :
      clear quote started ((front ++ rest).take (front.length + fewer + more)) =
        clear other true (rest.take (fewer + more)) := by
    rw [Nat.add_assoc, List.take_length_add_append, cleared]
  have begun : (started || decide (0 < front.length + fewer)) = true := by
    rw [decide_eq_true (Nat.add_pos_left some_ fewer), Bool.or_true]
  rcases ih with aligned | apart
  · left
    refine ⟨?_, fun more => ?_, ?_⟩
    · rw [scanned, aligned.scanned, begun, taken, dropped, put, List.append_assoc, Bool.true_or]
    · rw [clears, aligned.cleared, begun, dropped, Bool.true_or]
    · exact dropped.symm ▸ aligned.accepts
  · right
    refine ⟨fun more => (clears more).trans (apart.unclear more), ?_⟩
    rcases apart.odd with ⟨character, inside, odd⟩ | strange | ⟨fresh, -⟩
    · exact .inl ⟨character, taken ▸ List.mem_append_right _ inside, odd⟩
    · exact .inr (.inl fun result found => strange result (scanned ▸ found))
    · cases fresh

theorem prefix_of_scan (found : scan words word started quote text = some result) :
    words <+: result := by
  fun_induction scan words word started quote text generalizing result
  all_goals first
    | (obtain rfl := Option.some.inj found; split <;> simp)
    | grind [List.prefix_append, List.IsPrefix.trans]

theorem strange_of_scan (odd : ∃ character ∈ word, dark character = false)
    (found : scan words word true quote text = some result) : Strange words result := by
  obtain ⟨character, inside, odd⟩ := odd
  generalize begun : true = started at found
  fun_induction scan words word started quote text generalizing result
  case case2 words word started quote closed =>
    subst begun
    obtain rfl := Option.some.inj found
    exact ⟨word, by simp, character, inside, odd⟩
  case case11 words word other rest line white ih =>
    obtain ⟨more, rfl⟩ := prefix_of_scan found
    exact ⟨word, by simp, character, inside, odd⟩
  all_goals grind [List.mem_append_left]

theorem word_of_white {character : Char} {rest : List Char} (white : space character = true)
    (line : (character = '\n' || character = '\r') = false)
    (reads : Shell.word expansions 0 .bare (character :: rest) = some (pieces, size))
    (accepts : refused none (character :: rest) = false) :
    Aligned words word started none (character :: rest) pieces size ∨
      Astray words word started none (character :: rest) pieces size := by
  obtain ⟨single, double, escape, -, ordinary⟩ := space_ordinary white
  obtain ⟨operator, still⟩ := Bool.or_eq_false_iff.mp ((special_eq character).symm.trans ordinary)
  have newline : decide (character = '\n') = false := (Bool.or_eq_false_iff.mp line).1
  rw [Shell.word.eq_def] at reads
  cases blank : Shell.blank character with
  | true =>
    simp only [Shell.ends, blank, Bool.or_true, Bool.true_or, if_true, Option.some.injEq,
      Prod.mk.injEq] at reads
    obtain ⟨rfl, rfl⟩ := reads
    exact .inl ⟨by simp [Shell.marks], by simp, accepts⟩
  | false =>
    simp only [Shell.ends, blank, newline, operator, single, double, escape, still, Bool.or_self,
      Bool.false_eq_true, if_false] at reads
    obtain ⟨others, fewer, -, rfl, rfl⟩ := Shell.grow_eq_some reads
    refine .inr ⟨fun more => ?_, .inl ⟨character, .head _, by simp [dark, white]⟩⟩
    rw [take_one, clear.eq_def]
    simp [white, blank]

theorem scan_reads (words : List (List Char)) (word : List Char) (started : Bool)
    (reads : Shell.word expansions 0 (quoting quote) text = some (pieces, size))
    (verbatim : (Shell.marks pieces).length = pieces.length)
    (inside : quote.isSome = true → started = true) (accepts : refused quote text = false) :
    Aligned words word started quote text pieces size ∨
      Astray words word started quote text pieces size := by
  fun_induction scan words word started quote text generalizing pieces size
  case case2 words word started quote closed =>
    obtain rfl : quote = none := by simpa using closed
    rw [quoting, Shell.word] at reads
    obtain ⟨rfl, rfl⟩ := Prod.mk.inj (Option.some.inj reads)
    exact .inl ⟨by simp [Shell.marks], by simp [clear], accepts⟩
  case case11 words word character rest line white ih =>
    exact word_of_white white (Bool.eq_false_iff.mpr line) reads accepts
  case case12 words word started character rest line white fresh ih =>
    exact word_of_white white (Bool.eq_false_iff.mpr line) reads accepts
  all_goals rw [refused.eq_def] at accepts
  case case1 words word started quote open_ => cases open_.symm.trans accepts
  case case3 words word started rest ih =>
    obtain rfl := inside rfl
    rw [quoting, Shell.word.eq_def] at reads
    obtain ⟨others, fewer, found, verbatim, taken, rfl⟩ := grown reads verbatim
    refine reads_step ['\''] Nat.one_pos ?_ (fun more => ?_) (List.append_nil word).symm taken
      (ih found verbatim inside_none accepts)
    · rw [scan.eq_def]; rfl
    · rw [clear.eq_def]; rfl
  case case4 words word started character rest other ih =>
    obtain rfl := inside rfl
    rw [quoting, Shell.word.eq_def] at reads
    simp only [other, if_false] at reads accepts
    obtain ⟨others, fewer, found, verbatim, taken, rfl⟩ := grown reads verbatim
    refine reads_step [character] Nat.one_pos ?_ (fun more => ?_) rfl taken
      (ih found verbatim (fun _ => rfl) accepts)
    · rw [scan.eq_def]; simp [other]
    · rw [clear.eq_def]; simp [other]
  case case5 words word started rest ih =>
    obtain rfl := inside rfl
    rw [quoting, Shell.word.eq_def] at reads
    obtain ⟨others, fewer, found, verbatim, taken, rfl⟩ := grown reads verbatim
    refine reads_step ['"'] Nat.one_pos ?_ (fun more => ?_) (List.append_nil word).symm taken
      (ih found verbatim inside_none accepts)
    · rw [scan.eq_def]; rfl
    · rw [clear.eq_def]; rfl
  case case6 => simp at accepts
  case case7 words word started next rest other ih =>
    obtain rfl := inside rfl
    rw [quoting, Shell.word.eq_def] at reads
    simp only [other, if_false, if_true] at reads accepts
    have scanned : scan words word true (some .double) ('\\' :: next :: rest) =
        scan words (word ++ [next]) true (some .double) rest := by rw [scan.eq_def]; rfl
    by_cases joined : next = '\n'
    · rw [if_pos joined] at reads
      obtain ⟨others, fewer, -, -, rfl⟩ := Shell.grow_eq_some reads
      refine .inr ⟨fun more => ?_, .inr (.inl fun result found =>
        strange_of_scan ?_ (scanned.symm.trans found))⟩
      · rw [take_two, clear.eq_def]
        simp [joined, Shell.escapable, Shell.expands]
      · exact ⟨next, List.mem_append_right _ (.head _), joined ▸ by decide⟩
    · rw [if_neg joined] at reads
      by_cases escapes : Shell.escapable next = true
      · rw [if_pos escapes] at reads
        obtain ⟨others, fewer, found, verbatim, taken, rfl⟩ := grown reads verbatim
        refine reads_step ['\\', next] Nat.two_pos scanned (fun more => ?_) rfl taken
          (ih found verbatim (fun _ => rfl) accepts)
        rw [List.cons_append, List.singleton_append, clear.eq_def]
        simp [escapes]
      · rw [if_neg escapes] at reads
        obtain ⟨others, fewer, -, rfl, rfl⟩ := Shell.grow_eq_some reads
        refine .inr ⟨fun more => ?_, .inl ⟨'\\', .head _, by decide⟩⟩
        rw [take_two, clear.eq_def]
        simp [escapes]
  case case8 words word started character rest double escape expands =>
    have still : Shell.expands character = true := expands
    simp [double, escape, still] at accepts
  case case9 words word started character rest double escape expands ih =>
    obtain rfl := inside rfl
    have still : Shell.expands character = false := by simpa [Shell.expands] using expands
    rw [quoting, Shell.word.eq_def] at reads
    simp only [double, escape, still, if_false, Bool.false_eq_true, Bool.false_or] at reads accepts
    obtain ⟨others, fewer, found, verbatim, taken, rfl⟩ := grown reads verbatim
    refine reads_step [character] Nat.one_pos ?_ (fun more => ?_) rfl taken
      (ih found verbatim (fun _ => rfl) accepts)
    · rw [List.singleton_append, scan.eq_def]
      simp [double, escape, expands]
    · rw [List.singleton_append, clear.eq_def]
      simp only [double, escape, if_false]
  case case10 words word started character rest line => simp [line] at accepts
  case case13 words word started rest line white ih =>
    rw [quoting, Shell.word.eq_def] at reads
    obtain ⟨others, fewer, found, verbatim, taken, rfl⟩ := grown reads verbatim
    refine reads_step ['\''] Nat.one_pos ?_ (fun more => ?_) (List.append_nil word).symm taken
      (ih found verbatim (fun _ => rfl) accepts)
    · rw [scan.eq_def]; rfl
    · rw [clear.eq_def]; rfl
  case case14 words word started rest line white single ih =>
    rw [quoting, Shell.word.eq_def] at reads
    obtain ⟨others, fewer, found, verbatim, taken, rfl⟩ := grown reads verbatim
    refine reads_step ['"'] Nat.one_pos ?_ (fun more => ?_) (List.append_nil word).symm taken
      (ih found verbatim (fun _ => rfl) accepts)
    · rw [scan.eq_def]; rfl
    · rw [clear.eq_def]; rfl
  case case15 => simp at accepts
  case case16 words word started next rest line white single double ih =>
    rw [quoting, Shell.word.eq_def] at reads
    simp only [show Shell.ends '\\' = false by decide, single, double, if_false, if_true,
      Bool.false_eq_true] at reads
    simp only [line, single, double, if_false, if_true, Bool.false_eq_true] at accepts
    have scanned : scan words word started none ('\\' :: next :: rest) =
        scan words (word ++ [next]) true none rest := by rw [scan.eq_def]; rfl
    by_cases joined : next = '\n'
    · rw [if_pos joined] at reads
      obtain ⟨others, fewer, -, -, rfl⟩ := Shell.grow_eq_some reads
      refine .inr ⟨fun more => ?_, .inr (.inl fun result found =>
        strange_of_scan ?_ (scanned.symm.trans found))⟩
      · rw [take_two, clear.eq_def]
        simp [white, joined]
      · exact ⟨next, List.mem_append_right _ (.head _), joined ▸ by decide⟩
    · rw [if_neg joined] at reads
      obtain ⟨others, fewer, found, verbatim, taken, rfl⟩ := grown reads verbatim
      refine reads_step ['\\', next] Nat.two_pos scanned (fun more => ?_) rfl taken
        (ih found verbatim inside_none accepts)
      rw [List.cons_append, List.singleton_append, clear.eq_def]
      simp [white, joined]
  case case17 words word started character rest line white single double escape special =>
    simp [line, single, double, escape, special] at accepts
  case case18 words word started character rest line white single double escape special ih =>
    obtain ⟨operator, still⟩ := Bool.or_eq_false_iff.mp
      ((special_eq character).symm.trans (Bool.eq_false_iff.mpr special))
    obtain ⟨newline, -, blank⟩ := ordinary_of_dark white
    have goes : Shell.ends character = false := by simp [Shell.ends, newline, blank, operator]
    rw [quoting, Shell.word.eq_def] at reads
    simp only [goes, single, double, escape, still, if_false, Bool.false_eq_true] at reads
    simp only [line, single, double, escape, special, if_false, Bool.false_eq_true,
      Bool.false_or] at accepts
    obtain ⟨others, fewer, found, verbatim, taken, rfl⟩ := grown reads verbatim
    by_cases comment : character = '#' ∧ started = false
    · obtain ⟨rfl, rfl⟩ := comment
      refine .inr ⟨fun more => ?_, .inr (.inr ⟨rfl, rfl⟩)⟩
      rw [take_one, clear.eq_def]
      rfl
    · have begun : (character != '#' || started) = true := by
        cases started <;> simp_all
      refine reads_step [character] Nat.one_pos ?_ (fun more => ?_) rfl taken
        (ih found verbatim inside_none accepts)
      · rw [List.singleton_append, scan.eq_def]
        simp [line, white, single, double, escape, special]
      · rw [List.singleton_append, clear.eq_def]
        simp [white, single, double, escape, begun]

theorem word_stops {quoting : Shell.Quoting} {skip : Nat}
    (reads : Shell.word expansions skip quoting text = some (pieces, size)) :
    text.drop size = [] ∨
      ∃ character rest, text.drop size = character :: rest ∧ Shell.ends character = true := by
  fun_induction Shell.word expansions skip quoting text generalizing pieces size
  all_goals grind [→ Shell.grow_eq_some]

theorem unquoted_of_special {character : Char} (chosen : special character = true) :
    character ≠ '\'' ∧ character ≠ '"' ∧ character ≠ '\\' := by
  refine ⟨?_, ?_, ?_⟩ <;> (rintro rfl; exact absurd chosen (by decide))

theorem scan_closes {character : Char} (words : List (List Char)) (word rest : List Char)
    (blank : Shell.blank character = true) :
    scan words word true none (character :: rest) = scan (words ++ [word]) [] false none rest := by
  obtain ⟨white, newline, return_⟩ := space_of_blank blank
  rw [scan.eq_def]
  simp [newline, return_, white]

theorem scan_skip {character : Char} (words : List (List Char))
    (blank : Shell.blank character = true) (rest : List Char) :
    scan words [] false none (character :: rest) = scan words [] false none rest := by
  obtain ⟨white, newline, return_⟩ := space_of_blank blank
  rw [scan.eq_def]
  simp [newline, return_, white]

theorem refused_behind {character : Char} {rest : List Char} (blank : Shell.blank character = true)
    (accepts : refused none (character :: rest) = false) : refused none rest = false := by
  obtain ⟨white, newline, return_⟩ := space_of_blank blank
  obtain ⟨single, double, escape, -, ordinary⟩ := space_ordinary white
  rw [refused.eq_def] at accepts
  simpa [newline, return_, single, double, escape, ordinary] using accepts

theorem gap_reads (words : List (List Char)) (accepts : refused none text = false) :
    (scan words [] false none text = scan words [] false none (text.drop (Shell.gap text)) ∧
        (∀ more, clear none false (text.take (Shell.gap text + more)) =
          clear none false ((text.drop (Shell.gap text)).take more)) ∧
        refused none (text.drop (Shell.gap text)) = false) ∨
      ((∀ more, clear none false (text.take (Shell.gap text + more)) = false) ∧
        ∀ result, scan words [] false none text = some result → Strange words result) := by
  fun_induction Shell.gap text
  case case2 character rest blank ih =>
    have white := (space_of_blank blank).1
    have clears (more : Nat) :
        clear none false ((character :: rest).take (Shell.gap rest + 1 + more)) =
          clear none false (rest.take (Shell.gap rest + more)) := by
      rw [Nat.add_right_comm, List.take_succ_cons, clear.eq_def]
      simp [white, blank]
    rw [scan_skip words blank rest, List.drop_succ_cons]
    rcases ih (refused_behind blank accepts) with ⟨scanned, cleared, accepts⟩ | ⟨unclear, strange⟩
    · exact .inl ⟨scanned, fun more => (clears more).trans (cleared more), accepts⟩
    · exact .inr ⟨fun more => (clears more).trans (unclear more), strange⟩
  case case4 rest _ ih =>
    have scanned : scan words [] false none ('\\' :: '\n' :: rest) =
        scan words ['\n'] true none rest := by rw [scan.eq_def]; rfl
    refine .inr ⟨fun more => ?_, fun result found =>
      strange_of_scan ⟨'\n', .head _, by decide⟩ (scanned.symm.trans found)⟩
    rw [Nat.add_right_comm, List.take_succ_cons, List.take_cons (by omega), clear.eq_def]
    simp [show space '\\' = false by decide]
  all_goals exact .inl ⟨rfl, fun more => by rw [Nat.zero_add]; rfl, accepts⟩

theorem scan_ends (accepts : refused none text = false)
    (stops : text = [] ∨ ∃ character rest, text = character :: rest ∧
      Shell.ends character = true) :
    ∃ rest, scan words word true none text = some (words ++ word :: rest) := by
  rcases stops with rfl | ⟨character, rest, rfl, stops⟩
  · exact ⟨[], by simp [scan]⟩
  · have newline : character ≠ '\n' := by
      rintro rfl
      rw [refused.eq_def] at accepts
      cases accepts
    have operator : Shell.operator character = false := by
      refine Bool.eq_false_iff.mpr fun operator => ?_
      have chosen : special character = true := by rw [special_eq, operator, Bool.true_or]
      obtain ⟨single, double, escape⟩ := unquoted_of_special chosen
      rw [refused.eq_def] at accepts
      simp [chosen, single, double, escape] at accepts
    have blank : Shell.blank character = true := by
      simpa [Shell.ends, newline, operator] using stops
    cases found : scan words word true none (character :: rest) with
    | none => exact absurd ((scan_eq_none_iff ..).mp found) (Bool.eq_false_iff.mp accepts)
    | some result =>
      obtain ⟨more, rfl⟩ := prefix_of_scan (scan_closes words word rest blank ▸ found)
      exact ⟨more, by simp⟩

theorem blank_behind
    (second : Shell.word expansions 0 .bare (text.drop (Shell.gap text)) = some (two, size))
    (some_ : 0 < size)
    (stops : text = [] ∨ ∃ character rest, text = character :: rest ∧
      Shell.ends character = true) :
    ∃ character rest, text = character :: rest ∧ Shell.blank character = true := by
  rcases stops with rfl | ⟨character, rest, rfl, stops⟩
  · simp [Shell.gap, Shell.word] at second
    omega
  · refine ⟨character, rest, rfl, Decidable.byContradiction fun dark => ?_⟩
    have escape : character ≠ '\\' := by
      rintro rfl
      exact absurd stops (by decide)
    have none_ : Shell.gap (character :: rest) = 0 := by
      rw [Shell.gap.eq_def]
      simp [dark, escape]
    rw [none_, List.drop_zero, Shell.word.eq_def] at second
    simp only [stops, if_true, Option.some.injEq, Prod.mk.injEq] at second
    omega

theorem second_reads (second : Shell.word expansions 0 .bare (text.drop (Shell.gap text)) =
      some (two, size)) (some_ : 0 < size) (comment : (text.drop (Shell.gap text)).head? ≠ some '#')
    (verbatim : (Shell.marks two).length = two.length) (accepts : refused none text = false) :
    (clear none false (text.take (Shell.gap text + size)) = true ∧
        ∃ rest, scan [name] [] false none text =
          some (name :: Shell.literal (Shell.marks two) :: rest)) ∨
      (clear none false (text.take (Shell.gap text + size)) = false ∧
        ((∃ character ∈ name ++ Shell.literal (Shell.marks two), dark character = false) ∨
          ∀ result, scan [name] [] false none text = some result →
            Strange [] result ∨ Strange [name] result)) := by
  rcases gap_reads [name] accepts with ⟨scanned, cleared, accepts⟩ | ⟨unclear, strange⟩
  · have bare : Shell.word expansions 0 (quoting none) (text.drop (Shell.gap text)) =
        some (two, size) := second
    rw [cleared, scanned]
    rcases scan_reads [name] [] false bare verbatim inside_none accepts with aligned | astray
    · left
      have clears := aligned.cleared 0
      rw [Nat.add_zero] at clears
      rw [clears, aligned.scanned, List.nil_append, decide_eq_true some_, Bool.false_or]
      exact ⟨by simp [clear], scan_ends aligned.accepts (word_stops second)⟩
    · right
      refine ⟨astray.unclear 0, ?_⟩
      rcases astray.odd with ⟨character, inside, odd⟩ | strange | ⟨-, sign⟩
      · exact .inl ⟨character, List.mem_append_right _ inside, odd⟩
      · exact .inr fun result found => .inr (strange result found)
      · exact absurd sign comment
  · exact .inr ⟨unclear size, .inr fun result found => .inr (strange result found)⟩

/-- Either the first two words are clear and the reader finds them, or they are not and there is an
odd character in one of them, or in one that the reader has in its place. -/
theorem reads_two (first : Shell.firstWord expansions text = some (one, length))
    (second : Shell.word expansions 0 .bare (text.drop length) = some (two, size))
    (some_ : 0 < size) (comment : (text.drop length).head? ≠ some '#')
    (firstVerbatim : Shell.verbatim one = some name)
    (secondVerbatim : Shell.verbatim two = some next) (accepts : refused none text = false) :
    (clear none false (text.take (length + size)) = true ∧
        ∃ rest, structuredShellWords text = some (name :: next :: rest)) ∨
      (clear none false (text.take (length + size)) = false ∧
        ((∃ character ∈ name ++ next, dark character = false) ∨
          ∀ result, structuredShellWords text = some result →
            Strange [] result ∨ Strange [name] result)) := by
  obtain ⟨firstMarks, same⟩ := Option.ite_none_right_eq_some.mp firstVerbatim
  obtain rfl := Option.some.inj same
  obtain ⟨secondMarks, same⟩ := Option.ite_none_right_eq_some.mp secondVerbatim
  obtain rfl := Option.some.inj same
  rw [Shell.firstWord, Option.ite_none_left_eq_some] at first
  obtain ⟨ordinary, first⟩ := first
  obtain ⟨⟨one, count⟩, reads, first⟩ := Option.bind_eq_some_iff.mp first
  obtain ⟨positive, same⟩ := Option.ite_none_left_eq_some.mp first
  obtain ⟨rfl, rfl⟩ := Prod.mk.inj (Option.some.inj same)
  have begun : decide (0 < count) = true := decide_eq_true (Nat.pos_of_ne_zero positive)
  have bare : Shell.word expansions 0 (quoting none) text = some (one, count) := reads
  have stops := word_stops reads
  rw [← List.drop_drop] at second comment
  rcases scan_reads [] [] false bare firstMarks inside_none accepts with aligned | astray
  · obtain ⟨scanned, cleared, accepts⟩ := aligned
    rw [begun, Bool.false_or] at scanned cleared
    rw [Nat.add_assoc, cleared, structuredShellWords, scanned]
    generalize text.drop count = behind at *
    obtain ⟨character, rest, rfl, blank⟩ := blank_behind second some_ stops
    have single : Shell.gap (character :: rest) = Shell.gap rest + 1 := by
      rw [Shell.gap.eq_def]
      simp [blank]
    have clears : clear none true ((character :: rest).take (Shell.gap rest + 1 + size)) =
        clear none false (rest.take (Shell.gap rest + size)) := by
      rw [Nat.add_right_comm, List.take_succ_cons, clear.eq_def]
      simp [(space_of_blank blank).1, blank]
    rw [single, List.drop_succ_cons] at second comment
    rw [single, clears, scan_closes _ _ _ blank, List.nil_append]
    exact second_reads second some_ comment secondMarks (refused_behind blank accepts)
  · refine .inr ⟨Nat.add_assoc .. ▸ astray.unclear _, ?_⟩
    rcases astray.odd with ⟨character, inside, odd⟩ | strange | ⟨-, sign⟩
    · exact .inl ⟨character, List.mem_append_left _ inside, odd⟩
    · exact .inr fun result found => .inl (strange result found)
    · exact absurd sign ordinary

end Scan

end AgentBash.OpenCode
