import AgentBash.OpenCode.LeadingWords
import AgentBash.OpenCode.Reserved

/-!
# Which commands are explicit runs

`admitCommand` of `bash.ts` and the recognizers under it. A command that is not recognized as an
explicit run is ordinary and goes to a shell; the others are run directly or refused.
-/

set_option autoImplicit false

namespace AgentBash.OpenCode

open Text

/-- What the adapter reads of its process besides the programs: whether it is inside a root of the
new lineage, whether the private route is selected, and whether its input is no terminal. -/
structure AdapterContext where
  rootV1 : Bool
  privateV31Sync : Bool
  headless : Bool
  deriving DecidableEq, Repr

inductive CompletionScope
  | root | tree
  deriving DecidableEq, Repr

inductive AdmissionKind
  | ordinary (command : List Char)
  | unsupported
  | direct (argv : List (List Char))
  deriving DecidableEq, Repr

structure CommandAdmission where
  agentDispatch : Bool
  delivery : DeliveryMode
  ownerLease : Bool
  completionScope : CompletionScope
  kind : AdmissionKind
  deriving DecidableEq, Repr

def startsWithToken (command token : List Char) : Bool :=
  command = token || (token ++ [' ']).isPrefixOf command

def explicitRun (name : List Char) : List Char := name ++ ' ' :: runName

def conservativelyRecognizesExplicitRun (host : Host) (context : AdapterContext)
    (command : List Char) : Bool :=
  let body := (stripReservedSpoolerAssignmentsForShellRouting command).body
  (context.rootV1 && (structuredShellWords body).any (isExplicitRun host)) ||
    [explicitRun host.agentBash, explicitRun programName].any (startsWithToken body)

/-- `(?:[^\s]+\/)?(?:agents|oulipoly-agent-runner)`, of a whole word. -/
def namesAgentRunner (word : List Char) : Bool :=
  agentRunners.any fun runner =>
    word = runner || (('/' :: runner).isSuffixOf word && runner.length + 1 < word.length)

/-- `\s--\s+(?:[^\s]+\/)?(?:agents|oulipoly-agent-runner)(?:\s|$)`, anywhere in a text. -/
def runsAgentRunner : List Char → Bool
  | [] => false
  | character :: rest =>
    (space character && separator.isPrefixOf rest &&
      ((rest.drop separator.length).head?.any space &&
        namesAgentRunner (((rest.drop separator.length).dropWhile space).takeWhile (!space ·)))) ||
      runsAgentRunner rest

def recognizesAgentDispatchForAdmission (host : Host) (context : AdapterContext)
    (command : List Char) : Bool :=
  let body := (stripReservedSpoolerAssignmentsForShellRouting command).body
  startsWithToken body "agents".toList || startsWithToken body host.agents ||
    startsWithToken body "oulipoly-agent-runner".toList ||
    (conservativelyRecognizesExplicitRun host context body && runsAgentRunner body)

def validDeliveryMode (requested : Option (List Char)) : Option DeliveryMode :=
  if requested = some DeliveryMode.sync.text then some .sync
  else if requested = some DeliveryMode.async.text then some .async
  else none

def selectedDelivery (context : AdapterContext) (agentDispatch : Bool)
    (requested : Option (List Char)) : DeliveryMode :=
  if agentDispatch && context.headless then .async
  else (validDeliveryMode requested).getD (if agentDispatch then .async else .sync)

def leaseToCaller (context : AdapterContext) (delivery : DeliveryMode) : Bool :=
  delivery = .sync || !context.headless

def admitCommand (host : Host) (context : AdapterContext) (command : List Char)
    (requestedDelivery : Option (List Char)) : CommandAdmission :=
  let agentDispatch := recognizesAgentDispatchForAdmission host context command
  let delivery := selectedDelivery context agentDispatch requestedDelivery
  let privateSync := !context.rootV1 && context.privateV31Sync && delivery = .sync
  let ownerLease := !context.rootV1 && !privateSync && leaseToCaller context delivery
  let completionScope := if privateSync || agentDispatch then .tree else .root
  let kind :=
    if !conservativelyRecognizesExplicitRun host context command then .ordinary command
    else
      match parseStructuredExplicitRun host context.rootV1 command delivery ownerLease with
      | some argv => .direct argv
      | none => .unsupported
  ⟨agentDispatch, delivery, ownerLease, completionScope, kind⟩

/-- A shell reads the program and `run` behind the leading assignments. -/
def RunsExplicitly (expansions : Shell.Expansions) (host : Host) (command : List Char) : Prop :=
  ∃ name ∈ [host.agentBash, programName], Shell.RunsWith expansions command name runName

/-- The text begins with the program as it stands, one space and `run`, and ends there or goes on
with a space. -/
def SpelledOut (host : Host) (text : List Char) : Prop :=
  ∃ name ∈ [host.agentBash, programName], ∃ tail,
    text = explicitRun name ++ tail ∧ (tail = [] ∨ tail.head? = some ' ')

/-- What stands behind the leading white space and the assignments that the expression matches. -/
def behindMatches (command : List Char) : List Char := matches_.behind (command.dropWhile space)

structure PlainWord (word : List Char) : Prop where
  some_ : word ≠ []
  comment : word.head? ≠ some '#'
  plain : ∀ character ∈ word, Shell.plainCharacter character = true

/-- Two words that stand for themselves, with one space between them and a space or nothing behind. -/
def PlainlySpelled (text : List Char) : Prop :=
  ∃ one two tail, text = one ++ ' ' :: (two ++ tail) ∧ PlainWord one ∧ PlainWord two ∧
    (tail = [] ∨ tail.head? = some ' ')

/-- The adapter's reader does not give up on the text, and the first two words hold nothing that it
reads differently from a shell. -/
def ClearlyQuoted (expansions : Shell.Expansions) (text : List Char) : Prop :=
  refused none text = false ∧ ∃ one length two size,
    Shell.firstWord expansions text = some (one, length) ∧
      Shell.word expansions 0 .bare (text.drop length) = some (two, size) ∧
      clear none false (text.take (length + size)) = true

/-- The first two words are spelled plainly or, inside a root, quoted clearly. -/
def Legible (expansions : Shell.Expansions) (context : AdapterContext)
    (text : List Char) : Prop :=
  PlainlySpelled text ∨ (context.rootV1 = true ∧ ClearlyQuoted expansions text)

/-- All the leading assignments of a command have forms that the expression cuts whole. -/
def LeadsWhole (expansions : Shell.Expansions) (command : List Char) : Prop :=
  PlainFront command ∧
    Leads expansions (fun text => (Shell.assignments expansions).cut text = none)
      (command.dropWhile space)

section Recognition

variable {host : Host} {context : AdapterContext} {command name text : List Char}
  {expansions : Shell.Expansions}

theorem body_eq (command : List Char) :
    (stripReservedSpoolerAssignmentsForShellRouting command).body = behindMatches command := by
  rw [stripReservedSpoolerAssignmentsForShellRouting, stripAssignments_eq, behindMatches]

theorem startsWithToken_iff {text token : List Char} :
    startsWithToken text token = true ↔
      ∃ tail, text = token ++ tail ∧ (tail = [] ∨ tail.head? = some ' ') := by
  rw [startsWithToken, Bool.or_eq_true, decide_eq_true_eq, List.isPrefixOf_iff_prefix]
  constructor
  · rintro (rfl | ⟨rest, rfl⟩)
    · exact ⟨[], (List.append_nil text).symm, .inl rfl⟩
    · exact ⟨' ' :: rest, List.append_assoc token [' '] rest, .inr rfl⟩
  · rintro ⟨tail, rfl, rfl | spaced⟩
    · exact .inl (List.append_nil token)
    · obtain ⟨rest, rfl⟩ := List.head?_eq_some_iff.mp spaced
      exact .inr ⟨rest, List.append_assoc token [' '] rest⟩

theorem recognizes_iff :
    conservativelyRecognizesExplicitRun host context command = true ↔
      SpelledOut host (behindMatches command) ∨
        (context.rootV1 = true ∧ ∃ words, structuredShellWords (behindMatches command) = some words ∧
          isExplicitRun host words = true) := by
  simp only [conservativelyRecognizesExplicitRun, body_eq, Bool.or_eq_true, Bool.and_eq_true,
    List.any_cons, List.any_nil, Bool.or_false, startsWithToken_iff, SpelledOut, List.mem_cons,
    List.not_mem_nil, or_false, exists_eq_or_imp, exists_eq_left, Option.any_eq_true]
  exact or_comm

theorem admitCommand_ordinary (requested : Option (List Char)) :
    (∀ text, (admitCommand host context command requested).kind ≠ .ordinary text) ↔
      conservativelyRecognizesExplicitRun host context command = true := by
  cases recognized : conservativelyRecognizesExplicitRun host context command with
  | false =>
    refine iff_of_false (fun never => never command ?_) Bool.false_ne_true
    simp [admitCommand, recognized]
  | true =>
    refine iff_of_true (fun text => ?_) rfl
    simp only [admitCommand, recognized, Bool.not_true, Bool.false_eq_true, if_false]
    split <;> nofun

theorem behind_of_leads {stop : List Char → Prop} (leads : Leads expansions stop text) :
    ∃ rest, stop rest ∧ matches_.behind text = matches_.behind rest ∧
      (Shell.assignments expansions).behind text = (Shell.assignments expansions).behind rest := by
  induction leads with
  | stop here => exact ⟨_, here, rfl, rfl⟩
  | lead reads whole rest ih =>
    obtain ⟨rest, here, first, second⟩ := ih
    exact ⟨rest, here, (Cutter.behind_of_cut (matchAssignment_iff_whole.mpr whole)).trans first,
      (Cutter.behind_of_cut reads).trans second⟩

/-- Behind leading assignments that are cut whole, the expression leaves what a shell reads as the
command. -/
theorem behindMatches_eq {pieces : List Shell.Piece} {length : Nat}
    (leads : LeadsWhole expansions command)
    (reads : Shell.firstWord expansions (Shell.simpleCommand expansions command) =
      some (pieces, length)) :
    behindMatches command = Shell.simpleCommand expansions command := by
  obtain ⟨front, leads⟩ := leads
  obtain ⟨rest, stops, first, second⟩ := behind_of_leads leads
  have simple : Shell.simpleCommand expansions command = rest := by
    rw [Shell.simpleCommand, leading_eq front, drop_takeWhile, second, Cutter.behind_of_none stops]
  rw [simple] at reads ⊢
  rw [behindMatches, first]
  refine Cutter.behind_of_none ?_
  change matchAssignment rest = none
  cases assigns : assignedName rest with
  | none => rw [matchAssignment, assigns]; rfl
  | some name =>
    have cut := assignsTo_of_assignedName assigns reads
    simp [Shell.assignments, reads, cut] at stops

theorem words_of_runs (runs : Shell.RunsWith expansions command name runName) :
    ∃ one length two more,
      Shell.firstWord expansions (Shell.simpleCommand expansions command) = some (one, length) ∧
        Shell.firstWord expansions ((Shell.simpleCommand expansions command).drop length) =
          some (two, more) ∧
        Shell.verbatim one = some name ∧ Shell.verbatim two = some runName := by
  obtain ⟨⟨one, two⟩, found, same⟩ := Option.map_eq_some_iff.mp runs
  obtain ⟨⟨one, length⟩, first, found⟩ := Option.bind_eq_some_iff.mp found
  obtain ⟨⟨two, more⟩, second, pair⟩ := Option.map_eq_some_iff.mp found
  obtain ⟨rfl, rfl⟩ := Prod.mk.inj pair
  obtain ⟨one_, two_⟩ := Prod.mk.inj same
  exact ⟨_, length, _, more, first, second, one_, two_⟩

theorem ends_of_spaced {tail : List Char} (stops : tail = [] ∨ tail.head? = some ' ') :
    tail = [] ∨ ∃ character rest, tail = character :: rest ∧ Shell.ends character = true := by
  refine stops.imp_right fun spaced => ?_
  obtain ⟨rest, rfl⟩ := List.head?_eq_some_iff.mp spaced
  exact ⟨' ', rest, rfl, by decide⟩

theorem spelledOut_of_plain (member : name ∈ [host.agentBash, programName])
    (runs : Shell.RunsWith expansions command name runName)
    (plain : PlainlySpelled (Shell.simpleCommand expansions command)) :
    SpelledOut host (Shell.simpleCommand expansions command) := by
  obtain ⟨one, two, tail, spelled, first, second, stops⟩ := plain
  have read := Shell.firstTwo_plain expansions first.some_ first.comment first.plain second.some_
    second.comment second.plain (ends_of_spaced stops)
  rw [Shell.RunsWith, spelled, read, Option.some.injEq, Prod.mk.injEq, Option.some.injEq,
    Option.some.injEq] at runs
  obtain ⟨rfl, rfl⟩ := runs
  exact ⟨one, member, tail, by rw [spelled, explicitRun, List.append_assoc, List.cons_append], stops⟩

theorem plain_of_spelledOut {pieces : List Shell.Piece} {length : Nat}
    (path : ∀ character ∈ host.agentBash, dark character = true)
    (reads : Shell.firstWord expansions text = some (pieces, length))
    (spelled : SpelledOut host text) : PlainlySpelled text := by
  obtain ⟨name, member, tail, rfl, stops⟩ := spelled
  have plainProgram : programName.all Shell.plainCharacter = true := by decide
  have plainRun : runName.all Shell.plainCharacter = true := by decide
  have plain : ∀ character ∈ name, Shell.plainCharacter character = true := by
    rcases List.mem_cons.mp member with rfl | member
    · exact fun character inside => (Bool.and_eq_true_iff.mp (path character inside)).1
    · obtain rfl := List.mem_singleton.mp member
      exact List.all_eq_true.mp plainProgram
  rw [explicitRun, List.append_assoc, List.cons_append] at reads ⊢
  refine ⟨name, runName, tail, rfl, ⟨?_, ?_, plain⟩,
    ⟨by decide, by decide, List.all_eq_true.mp plainRun⟩, stops⟩
  · rintro rfl
    rw [List.nil_append, Shell.firstWord, Shell.word.eq_def] at reads
    simp [show Shell.ends ' ' = true by decide] at reads
  · intro comment
    rw [Shell.firstWord, if_pos (by rw [List.head?_append, comment]; rfl)] at reads
    cases reads

/-- The words that the adapter's reader has at the front of an explicit run, and whether they are
clear. -/
theorem reads_run (runs : Shell.RunsWith expansions command name runName)
    (accepts : refused none (Shell.simpleCommand expansions command) = false) :
    ∃ one length two size,
      Shell.firstWord expansions (Shell.simpleCommand expansions command) = some (one, length) ∧
        Shell.word expansions 0 .bare ((Shell.simpleCommand expansions command).drop length) =
          some (two, size) ∧
        let front := (Shell.simpleCommand expansions command).take (length + size)
        (clear none false front = true ∧ ∃ rest,
            structuredShellWords (Shell.simpleCommand expansions command) =
              some (name :: runName :: rest)) ∨
          (clear none false front = false ∧
            ((∃ character ∈ name ++ runName, dark character = false) ∨
              ∀ result, structuredShellWords (Shell.simpleCommand expansions command) = some result →
                Strange [] result ∨ Strange [name] result)) := by
  obtain ⟨one, length, two, more, first, second, firstVerbatim, secondVerbatim⟩ := words_of_runs runs
  rw [Shell.firstWord, Option.ite_none_left_eq_some] at second
  obtain ⟨comment, second⟩ := second
  obtain ⟨⟨two, size⟩, reads, second⟩ := Option.bind_eq_some_iff.mp second
  obtain ⟨some_, same⟩ := Option.ite_none_left_eq_some.mp second
  obtain ⟨rfl, -⟩ := Prod.mk.inj (Option.some.inj same)
  exact ⟨one, length, two, size, first, reads, reads_two first reads (Nat.pos_of_ne_zero some_)
    comment firstVerbatim secondVerbatim accepts⟩

theorem isExplicitRun_of_clear (member : name ∈ [host.agentBash, programName])
    (runs : Shell.RunsWith expansions command name runName)
    (clearly : ClearlyQuoted expansions (Shell.simpleCommand expansions command)) :
    ∃ words, structuredShellWords (Shell.simpleCommand expansions command) = some words ∧
      isExplicitRun host words = true := by
  obtain ⟨accepts, one, length, two, size, first, second, clean⟩ := clearly
  obtain ⟨_, _, _, _, sameFirst, sameSecond, read⟩ := reads_run runs accepts
  obtain ⟨rfl, rfl⟩ := Prod.mk.inj (Option.some.inj (first.symm.trans sameFirst))
  obtain ⟨rfl, rfl⟩ := Prod.mk.inj (Option.some.inj (second.symm.trans sameSecond))
  rcases read with ⟨-, rest, words⟩ | ⟨unclear, -⟩
  · refine ⟨_, words, ?_⟩
    rcases List.mem_cons.mp member with rfl | member
    · simp [isExplicitRun]
    · obtain rfl := List.mem_singleton.mp member
      simp [isExplicitRun]
  · exact absurd clean (Bool.eq_false_iff.mp unclear)

theorem clear_of_isExplicitRun {words : List (List Char)}
    (path : ∀ character ∈ host.agentBash, dark character = true)
    (member : name ∈ [host.agentBash, programName])
    (runs : Shell.RunsWith expansions command name runName)
    (found : structuredShellWords (Shell.simpleCommand expansions command) = some words)
    (explicit : isExplicitRun host words = true) :
    ClearlyQuoted expansions (Shell.simpleCommand expansions command) := by
  have accepts : refused none (Shell.simpleCommand expansions command) = false := by
    refine Bool.eq_false_iff.mpr fun refuses => ?_
    rw [structuredShellWords, (scan_eq_none_iff ..).mpr refuses] at found
    cases found
  have program : programName.all dark = true := by decide
  have run : runName.all dark = true := by decide
  have names : ∀ name ∈ [host.agentBash, programName], ∀ character ∈ name,
      dark character = true := by
    simpa using ⟨path, List.all_eq_true.mp program⟩
  obtain ⟨one, length, two, size, first, second, read⟩ := reads_run runs accepts
  refine ⟨accepts, one, length, two, size, first, second, ?_⟩
  rcases read with ⟨clean, -⟩ | ⟨-, ⟨character, inside, odd⟩ | strange⟩
  · exact clean
  · rcases List.mem_append.mp inside with inside | inside
    · exact absurd (names name member character inside) (Bool.eq_false_iff.mp odd)
    · exact absurd (List.all_eq_true.mp run character inside) (Bool.eq_false_iff.mp odd)
  · simp only [isExplicitRun, Bool.and_eq_true, Bool.or_eq_true, decide_eq_true_eq] at explicit
    rcases strange words found with ⟨word, here, character, inside, odd⟩ |
      ⟨word, here, character, inside, odd⟩
    · have known : word ∈ [host.agentBash, programName] := by
        rcases explicit.1 with first | first
        · obtain rfl := Option.some.inj (here.symm.trans first)
          exact .head _
        · obtain rfl := Option.some.inj (here.symm.trans first)
          exact .tail _ (.head _)
      exact absurd (names word known character inside) (Bool.eq_false_iff.mp odd)
    · obtain rfl := Option.some.inj (here.symm.trans explicit.2)
      exact absurd (List.all_eq_true.mp run character inside) (Bool.eq_false_iff.mp odd)

end Recognition

/-- An explicit run is never ordinary if its leading assignments have forms that the expression cuts
whole and the program and `run` are spelled plainly, or, inside a root, quoted so that the adapter's
reader reads them as a shell does and nothing behind makes it give up. Behind such assignments no
other explicit run is recognized, if the configured path means itself. -/
theorem explicit_run_recognition (expansions : Shell.Expansions) (host : Host)
    (context : AdapterContext) (command : List Char) (requested : Option (List Char))
    (runs : RunsExplicitly expansions host command) :
    (LeadsWhole expansions command →
        Legible expansions context (Shell.simpleCommand expansions command) →
        ∀ text, (admitCommand host context command requested).kind ≠ .ordinary text) ∧
      (LeadsWhole expansions command → (∀ character ∈ host.agentBash, dark character = true) →
        (∀ text, (admitCommand host context command requested).kind ≠ .ordinary text) →
          Legible expansions context (Shell.simpleCommand expansions command)) := by
  obtain ⟨name, member, runs⟩ := runs
  obtain ⟨one, length, two, more, first, -⟩ := words_of_runs runs
  rw [admitCommand_ordinary, recognizes_iff]
  constructor
  · rintro leads (plain | ⟨root, clearly⟩)
    · rw [behindMatches_eq leads first]
      exact .inl (spelledOut_of_plain member runs plain)
    · rw [behindMatches_eq leads first]
      exact .inr ⟨root, isExplicitRun_of_clear member runs clearly⟩
  · intro leads path recognized
    rw [behindMatches_eq leads first] at recognized
    rcases recognized with spelled | ⟨root, words, found, explicit⟩
    · exact .inl (plain_of_spelledOut path first spelled)
    · exact .inr ⟨root, clear_of_isExplicitRun path member runs found explicit⟩

theorem explicit_run_recognition_led :
    (∀ text, (admitCommand homeHost ⟨false, false, true⟩
        "A='x y' agent-bash run -- make".toList none).kind ≠ .ordinary text) ∧
      ∀ text, (admitCommand homeHost ⟨true, false, true⟩
        "'agent-bash'  run -- make".toList none).kind ≠ .ordinary text := by
  constructor
  · have runs : RunsExplicitly (fun _ _ => none) homeHost "A='x y' agent-bash run -- make".toList :=
      ⟨programName, by decide +kernel, by decide +kernel⟩
    have reads : (Shell.assignments fun _ _ => none).cut "A='x y' agent-bash run -- make".toList =
        some (['A'], 8) := by decide +kernel
    have quotes : Quoted "'x y'".toList := .single (by decide +kernel : '\'' ∉ "x y".toList)
    have named : Named ['A'] := ⟨by decide +kernel, List.all_eq_true.mp (by decide +kernel)⟩
    have white : WhiteBefore "agent-bash run -- make".toList [' '] :=
      ⟨by decide +kernel, List.all_eq_true.mp (by decide +kernel), by decide +kernel⟩
    have whole : Whole ['A'] "A='x y' agent-bash run -- make".toList 8 :=
      ⟨named, "'x y'".toList, [' '], "agent-bash run -- make".toList, by decide +kernel,
        .quoted quotes, white, by decide +kernel⟩
    have front : PlainFront "A='x y' agent-bash run -- make".toList :=
      ⟨List.all_eq_true.mp (by decide +kernel), by decide +kernel⟩
    have leads : LeadsWhole (fun _ _ => none) "A='x y' agent-bash run -- make".toList :=
      ⟨front, .lead reads whole (.stop (by decide +kernel))⟩
    have program : PlainWord programName :=
      ⟨by decide +kernel, by decide +kernel, List.all_eq_true.mp (by decide +kernel)⟩
    have run : PlainWord runName :=
      ⟨by decide +kernel, by decide +kernel, List.all_eq_true.mp (by decide +kernel)⟩
    have plain : PlainlySpelled (Shell.simpleCommand (fun _ _ => none)
        "A='x y' agent-bash run -- make".toList) :=
      ⟨programName, runName, " -- make".toList, by decide +kernel, program, run, .inr rfl⟩
    exact (explicit_run_recognition _ homeHost ⟨false, false, true⟩ _ none runs).1 leads (.inl plain)
  · have runs : RunsExplicitly (fun _ _ => none) homeHost "'agent-bash'  run -- make".toList :=
      ⟨programName, by decide +kernel, by decide +kernel⟩
    have leads : LeadsWhole (fun _ _ => none) "'agent-bash'  run -- make".toList :=
      ⟨⟨List.all_eq_true.mp (by decide +kernel), by decide +kernel⟩, .stop (by decide +kernel)⟩
    have clearly : ClearlyQuoted (fun _ _ => none)
        (Shell.simpleCommand (fun _ _ => none) "'agent-bash'  run -- make".toList) := by
      refine ⟨?_, .mark .quote :: (programName.map fun character => .mark (.quoted character)) ++
        [.mark .quote], 14, Shell.plainPieces runName, 3, ?_, ?_, ?_⟩ <;> decide +kernel
    exact (explicit_run_recognition _ homeHost ⟨true, false, true⟩ _ none runs).1 leads
      (.inr ⟨rfl, clearly⟩)

/-- Two spaces are one gap to a shell, and make the command ordinary. -/
theorem explicit_run_recognition_spaces :
    ¬∀ expansions host context command requested, RunsExplicitly expansions host command →
      ∀ text, (admitCommand host context command requested).kind ≠ .ordinary text := by
  intro never
  refine never (fun _ _ => none) homeHost ⟨false, false, true⟩ "agent-bash  run -- make".toList none
    ⟨programName, by decide, by decide +kernel⟩ "agent-bash  run -- make".toList ?_
  decide +kernel

end AgentBash.OpenCode
