import AgentBash.OpenCode.Routing
import AgentBash.Text.Words

/-!
# Explicit runs that are admitted directly

`parseStructuredExplicitRun` of `bash.ts`: the words of an explicit run become the arguments of the
program, with the delivery mode and the owner lease that the adapter chose.
-/

set_option autoImplicit false

namespace AgentBash.OpenCode

/-- What the adapter reads of its process: the two programs and its own identity. -/
structure Host where
  agentBash : List Char
  agents : List Char
  pid : Nat
  deriving DecidableEq, Repr

inductive DeliveryMode
  | sync | async
  deriving DecidableEq, Repr

def DeliveryMode.text : DeliveryMode → List Char
  | .sync => "sync".toList
  | .async => "async".toList

def separator : List Char := "--".toList
def programName : List Char := "agent-bash".toList
def runName : List Char := "run".toList
def deliveryFlag : List Char := "--delivery".toList
def cancelFlag : List Char := "--cancel-on-owner-exit".toList
def ownerFlag : List Char := "--owner-pid".toList

def agentRunners : List (List Char) := ["agents".toList, "oulipoly-agent-runner".toList]

/-- `word.startsWith(flag + "=")` -/
def joined (flag word : List Char) : Bool := (flag ++ ['=']).isPrefixOf word

/-- The loop over the assignments before the command, all of which must be reserved. -/
def shiftAssignments : List (List Char) → Option (List (List Char))
  | [] => some []
  | word :: words =>
    match assignedName word with
    | none => some (word :: words)
    | some name => if isReservedSpoolerAssignment name then shiftAssignments words else none

def isExplicitRun (host : Host) (words : List (List Char)) : Bool :=
  (words[0]? = some host.agentBash || words[0]? = some programName) && words[1]? = some runName

/-- `words.indexOf("--")` -/
def optionsEnd (words : List (List Char)) : Nat := (words.idxOf? separator).getD words.length

/-- The loop over the options, which takes out the first selection and the word behind it. -/
def spliceSelection (words : List (List Char)) : List (List Char) :=
  let indices := List.range' 2 (optionsEnd words - 2)
  match indices.find? fun index => words[index]? = some deliveryFlag with
  | some index => words.take index ++ words.drop (index + 2)
  | none => words

def lease (host : Host) : List (List Char) := [cancelFlag, ownerFlag, Text.decimal host.pid]

def pinWorkload (host : Host) (words : List (List Char)) : List (List Char) :=
  match words.idxOf? separator with
  | none => words
  | some index =>
    if words[index + 1]?.any agentRunners.contains then words.set (index + 1) host.agents else words

def rewriteControls (host : Host) (rootV1 : Bool) (words : List (List Char))
    (delivery : DeliveryMode) (ownerLease : Bool) : List (List Char) :=
  let explicitRootDelivery := rootV1 && ((words.take (optionsEnd words)).drop 2).any fun word =>
    word = deliveryFlag || joined deliveryFlag word
  let words := if rootV1 then words else spliceSelection words
  let controls := if explicitRootDelivery then [] else [deliveryFlag, delivery.text]
  let controls := if ownerLease then lease host ++ controls else controls
  pinWorkload host (words.take 2 ++ controls ++ words.drop 2)

def parseStructuredExplicitRun (host : Host) (rootV1 : Bool) (command : List Char)
    (delivery : DeliveryMode) (ownerLease : Bool) : Option (List (List Char)) := do
  let words ← structuredShellWords command
  let words ← shiftAssignments words
  if isExplicitRun host words then
    rewriteControls host rootV1 (words.set 0 host.agentBash) delivery ownerLease
  else none

/-- An option as the program reads it. A selection and an owner may have a value of their own. -/
inductive Control
  | delivery (mode : Option (List Char))
  | lease (words : List (List Char))
  | other (word : List Char)
  deriving DecidableEq, Repr

def isLease (word : List Char) : Bool :=
  word = cancelFlag || word = ownerFlag || joined ownerFlag word

def isSelection (word : List Char) : Bool := word = deliveryFlag || joined deliveryFlag word

def readControls : List (List Char) → List Control
  | [] => []
  | word :: words =>
    if word = deliveryFlag then
      match words with
      | [] => [.delivery none]
      | mode :: words => .delivery (some mode) :: readControls words
    else if joined deliveryFlag word then
      .delivery (some (word.drop (deliveryFlag.length + 1))) :: readControls words
    else if word = ownerFlag then
      match words with
      | [] => [.lease [word]]
      | owner :: words => .lease [word, owner] :: readControls words
    else if isLease word then .lease [word] :: readControls words
    else .other word :: readControls words

namespace Control

def mode? : Control → Option (Option (List Char))
  | .delivery mode => some mode
  | _ => none

def lease? : Control → Option (List (List Char))
  | .lease words => some words
  | _ => none

def other? : Control → Option (List Char)
  | .other word => some word
  | _ => none

end Control

def beforeSeparator (words : List (List Char)) : List (List Char) :=
  words.takeWhile (· ≠ separator)

def fromSeparator (words : List (List Char)) : List (List Char) :=
  words.dropWhile (· ≠ separator)

/-- The options of a run, behind the program and the command. -/
def runOptions (words : List (List Char)) : List (List Char) := (beforeSeparator words).drop 2

/-- The words behind the separator, with the configured agent runner in the first place. -/
def pinned (host : Host) : List (List Char) → List (List Char)
  | mark :: first :: words =>
    mark :: (if agentRunners.contains first then host.agents else first) :: words
  | words => words

/-- The arguments have the adapter's controls for those of the words, and are else the words. -/
structure RewritesControls (host : Host) (words argv : List (List Char)) (delivery : DeliveryMode)
    (ownerLease : Bool) : Prop where
  selected : (readControls (runOptions argv)).filterMap Control.mode? = [some delivery.text]
  leased : (readControls (runOptions argv)).filterMap Control.lease? =
    if ownerLease then [[cancelFlag], [ownerFlag, Text.decimal host.pid]] else []
  others : (readControls (runOptions argv)).filterMap Control.other? =
    (readControls (runOptions words)).filterMap Control.other?
  workload : fromSeparator argv = pinned host (fromSeparator words)

/-- The options without the first selection and its value. -/
def withoutSelection : List (List Char) → List (List Char)
  | [] => []
  | word :: words => if word = deliveryFlag then words.drop 1 else word :: withoutSelection words

/-- The first selection is the last of the options. -/
def lacksValue : List (List Char) → Bool
  | [] => false
  | word :: words => if word = deliveryFlag then words.isEmpty else lacksValue words

def Plain (word : List Char) : Prop := isSelection word = false ∧ isLease word = false

instance (word : List Char) : Decidable (Plain word) := inferInstanceAs (Decidable (_ ∧ _))

/-- What the splice handles: one selection at most, in two words, of which the second is not the
separator; no lease among the options; and a program that is not a separator itself. -/
structure PlainControls (host : Host) (words : List (List Char)) : Prop where
  program : host.agentBash ≠ separator
  single : ∀ word ∈ withoutSelection (runOptions words), Plain word
  valued : lacksValue (runOptions words) = true → fromSeparator words = []

section Separator

variable {host : Host} {words : List (List Char)}

theorem before_append_from (words : List (List Char)) :
    beforeSeparator words ++ fromSeparator words = words := List.takeWhile_append_dropWhile

theorem notMem_beforeSeparator : separator ∉ beforeSeparator words := by
  intro inside
  have other := List.mem_takeWhile_imp inside
  exact absurd rfl (of_decide_eq_true other)

theorem fromSeparator_cases (words : List (List Char)) :
    fromSeparator words = [] ∨ ∃ rest, fromSeparator words = separator :: rest := by
  cases behind : fromSeparator words with
  | nil => exact .inl rfl
  | cons first rest =>
    have head := List.head?_dropWhile_not (fun word => decide (word ≠ separator)) words
    rw [← fromSeparator, behind] at head
    have stops : first = separator := by simpa using head
    exact .inr ⟨rest, by rw [stops]⟩

/-- The words up to the separator, in front of words that are none or begin with it. -/
theorem separated {front behind : List (List Char)} (clean : separator ∉ front)
    (stops : behind = [] ∨ ∃ rest, behind = separator :: rest) :
    beforeSeparator (front ++ behind) = front ∧ fromSeparator (front ++ behind) = behind := by
  have passes : ∀ word ∈ front, decide (word ≠ separator) = true := fun word inside =>
    decide_eq_true fun same => clean (same ▸ inside)
  have ends : beforeSeparator behind = [] ∧ fromSeparator behind = behind := by
    rcases stops with rfl | ⟨rest, rfl⟩
    · exact ⟨rfl, rfl⟩
    · constructor
      · rw [beforeSeparator, List.takeWhile_cons_of_neg (by simp)]
      · rw [fromSeparator, List.dropWhile_cons_of_neg (by simp)]
  constructor
  · rw [beforeSeparator, List.takeWhile_append_of_pos passes, ← beforeSeparator, ends.1,
      List.append_nil]
  · rw [fromSeparator, List.dropWhile_append_of_pos passes, ← fromSeparator, ends.2]

theorem idxOf?_separator {front behind : List (List Char)} (clean : separator ∉ front)
    (stops : behind = [] ∨ ∃ rest, behind = separator :: rest) :
    (front ++ behind).idxOf? separator = if behind = [] then none else some front.length := by
  induction front with
  | nil =>
    rcases stops with rfl | ⟨rest, rfl⟩
    · rfl
    · simp [List.idxOf?_cons]
  | cons word front ih =>
    have other : (word == separator) = false :=
      beq_eq_false_iff_ne.mpr fun same => clean (same ▸ List.mem_cons_self)
    rw [List.cons_append, List.idxOf?_cons, other,
      ih fun inside => clean (List.mem_cons_of_mem _ inside)]
    rcases stops with rfl | ⟨rest, rfl⟩ <;> simp

theorem optionsEnd_eq {front behind : List (List Char)} (clean : separator ∉ front)
    (stops : behind = [] ∨ ∃ rest, behind = separator :: rest) :
    optionsEnd (front ++ behind) = front.length := by
  rw [optionsEnd, idxOf?_separator clean stops]
  rcases stops with rfl | ⟨rest, rfl⟩ <;> simp

theorem pinWorkload_eq (host : Host) (words : List (List Char)) :
    pinWorkload host words = beforeSeparator words ++ pinned host (fromSeparator words) := by
  have stops := fromSeparator_cases words
  have clean : separator ∉ beforeSeparator words := notMem_beforeSeparator
  conv_lhs => rw [← before_append_from words]
  rw [pinWorkload, idxOf?_separator clean stops]
  rcases stops with none_ | ⟨rest, behind⟩
  · rw [none_, if_pos rfl]
    rfl
  · rw [behind, if_neg (List.cons_ne_nil _ _)]
    cases rest with
    | nil => simp [pinned]
    | cons first rest =>
      by_cases runner : first ∈ agentRunners
      · simp [pinned, runner, List.set_append_right]
      · simp [pinned, runner]

theorem pinned_cases (host : Host) {behind : List (List Char)}
    (stops : behind = [] ∨ ∃ rest, behind = separator :: rest) :
    pinned host behind = [] ∨ ∃ rest, pinned host behind = separator :: rest := by
  rcases stops with rfl | ⟨_ | ⟨first, rest⟩, rfl⟩
  · exact .inl rfl
  · exact .inr ⟨[], rfl⟩
  · exact .inr ⟨_, rfl⟩

theorem length_pinned (host : Host) (behind : List (List Char)) :
    (pinned host behind).length = behind.length := by
  unfold pinned
  split <;> rfl

/-- The splice is made in the options, and reaches behind them for a value. -/
theorem splice_options (front options behind : List (List Char)) :
    (match (List.range' front.length options.length).find? fun index =>
        (front ++ (options ++ behind))[index]? = some deliveryFlag with
      | some index =>
        (front ++ (options ++ behind)).take index ++ (front ++ (options ++ behind)).drop (index + 2)
      | none => front ++ (options ++ behind)) =
      front ++ (withoutSelection options ++
        if lacksValue options then behind.drop 1 else behind) := by
  induction options generalizing front with
  | nil => simp [withoutSelection, lacksValue]
  | cons word options ih =>
    have here : (front ++ (word :: options ++ behind))[front.length]? = some word := by simp
    rw [List.length_cons, List.range'_succ, List.find?_cons, here]
    by_cases selects : word = deliveryFlag
    · rw [decide_eq_true (congrArg some selects)]
      cases options with
      | nil => simp [withoutSelection, lacksValue, selects]
      | cons value options => simp [withoutSelection, lacksValue, selects]
    · have passes : decide (some word = some deliveryFlag) = false := by simpa using selects
      rw [passes]
      have rest := ih (front ++ [word])
      rw [List.length_append, List.length_singleton, List.append_assoc, List.singleton_append]
        at rest
      simpa [withoutSelection, lacksValue, selects] using rest

end Separator

section Controls

variable {host : Host} {words : List (List Char)}

theorem readControls_plain {word : List Char} (plain : Plain word) (words : List (List Char)) :
    readControls (word :: words) = .other word :: readControls words := by
  obtain ⟨selects, leases⟩ := plain
  have owner := leases
  simp only [isSelection, isLease, Bool.or_eq_false_iff, decide_eq_false_iff_not] at selects leases
  rw [readControls.eq_def]
  simp [selects.1, selects.2, leases.1.2, owner]

theorem readControls_all_plain (plain : ∀ word ∈ words, Plain word) :
    readControls words = words.map .other := by
  induction words with
  | nil => rfl
  | cons word words ih =>
    rw [readControls_plain (plain word List.mem_cons_self),
      ih fun other inside => plain other (List.mem_cons_of_mem _ inside), List.map_cons]

theorem filterMap_other (words : List (List Char)) :
    (words.map Control.other).filterMap Control.mode? = [] ∧
      (words.map Control.other).filterMap Control.lease? = [] ∧
      (words.map Control.other).filterMap Control.other? = words := by
  induction words with
  | nil => exact ⟨rfl, rfl, rfl⟩
  | cons word words ih =>
    obtain ⟨modes, leases, others⟩ := ih
    exact ⟨modes, leases, congrArg (word :: ·) others⟩

theorem plain_of_controls (modes : (readControls words).filterMap Control.mode? = [])
    (leases : (readControls words).filterMap Control.lease? = []) :
    ∀ word ∈ words, Plain word := by
  fun_induction readControls words with
  | case1 => nofun
  | case2 | case3 | case4 => cases modes
  | case5 | case6 | case7 => cases leases
  | case8 word words not_flag not_joined not_owner not_lease ih =>
    intro other inside
    rcases List.mem_cons.mp inside with rfl | inside
    · exact ⟨by simp [isSelection, not_flag, not_joined], by simpa using not_lease⟩
    · exact ih modes leases other inside

theorem others_of_single (plain : ∀ word ∈ withoutSelection words, Plain word) :
    (readControls words).filterMap Control.other? = withoutSelection words := by
  induction words with
  | nil => rfl
  | cons word words ih =>
    by_cases selects : word = deliveryFlag
    · rw [withoutSelection, if_pos selects] at plain ⊢
      rw [readControls.eq_def]
      cases words with
      | nil => simp [selects, Control.other?]
      | cons value words =>
        rw [List.drop_one, List.tail_cons] at plain ⊢
        simp only [selects, if_true, List.filterMap_cons, Control.other?]
        rw [readControls_all_plain plain, (filterMap_other words).2.2]
    · rw [withoutSelection, if_neg selects] at plain ⊢
      rw [readControls_plain (plain word List.mem_cons_self), List.filterMap_cons, Control.other?,
        ih fun other inside => plain other (List.mem_cons_of_mem _ inside)]

def chosenControls (host : Host) (delivery : DeliveryMode) (ownerLease : Bool) : List (List Char) :=
  if ownerLease then lease host ++ [deliveryFlag, delivery.text] else [deliveryFlag, delivery.text]

theorem readControls_chosen (host : Host) (delivery : DeliveryMode) (ownerLease : Bool)
    (words : List (List Char)) :
    readControls (chosenControls host delivery ownerLease ++ words) =
      (if ownerLease then [.lease [cancelFlag], .lease [ownerFlag, Text.decimal host.pid]]
        else []) ++ .delivery (some delivery.text) :: readControls words := by
  have selects (words : List (List Char)) :
      readControls (deliveryFlag :: delivery.text :: words) =
        .delivery (some delivery.text) :: readControls words := by
    rw [readControls.eq_def]
    rfl
  cases ownerLease with
  | false => exact selects words
  | true =>
    show readControls (cancelFlag :: ownerFlag :: Text.decimal host.pid :: deliveryFlag ::
      delivery.text :: words) = _
    have cancels : cancelFlag ≠ deliveryFlag ∧ joined deliveryFlag cancelFlag = false ∧
        cancelFlag ≠ ownerFlag ∧ isLease cancelFlag = true := by decide
    have owns : ownerFlag ≠ deliveryFlag ∧ joined deliveryFlag ownerFlag = false := by decide
    rw [readControls.eq_def]
    simp only [cancels, if_true, if_false, Bool.false_eq_true]
    rw [readControls.eq_def]
    simp only [owns, if_true, if_false, Bool.false_eq_true]
    rw [selects]
    rfl

theorem filterMap_chosen (host : Host) (delivery : DeliveryMode) (ownerLease : Bool)
    (words : List (List Char)) :
    let read := readControls (chosenControls host delivery ownerLease ++ words)
    read.filterMap Control.mode? =
        some delivery.text :: (readControls words).filterMap Control.mode? ∧
      read.filterMap Control.lease? =
        (if ownerLease then [[cancelFlag], [ownerFlag, Text.decimal host.pid]] else []) ++
          (readControls words).filterMap Control.lease? ∧
      read.filterMap Control.other? = (readControls words).filterMap Control.other? := by
  rw [readControls_chosen]
  cases ownerLease <;> exact ⟨rfl, rfl, rfl⟩

theorem separator_notMem_chosen (host : Host) (delivery : DeliveryMode) (ownerLease : Bool) :
    separator ∉ chosenControls host delivery ownerLease := by
  have number : separator ≠ Text.decimal host.pid := by
    intro same
    have inside : '-' ∈ Text.decimal host.pid := by
      rw [← same]
      decide
    exact absurd (Text.isDigit_of_mem_decimal inside) (by decide)
  have mode : separator ≠ delivery.text := by
    cases delivery <;> decide
  have flags : separator ≠ deliveryFlag ∧ separator ≠ cancelFlag ∧ separator ≠ ownerFlag := by
    decide
  cases ownerLease <;> simp [chosenControls, lease, number, mode, flags]

end Controls

section Admission

variable {host : Host} {words argv : List (List Char)} {delivery : DeliveryMode} {ownerLease : Bool}

theorem runOptions_cons {name : List Char} (other : name ≠ separator) (rest : List (List Char)) :
    runOptions (name :: runName :: rest) = beforeSeparator rest ∧
      fromSeparator (name :: runName :: rest) = fromSeparator rest := by
  have clean : separator ∉ name :: runName :: beforeSeparator rest := by
    have command : separator ≠ runName := by decide
    simp [other.symm, command, notMem_beforeSeparator]
  have split := separated clean (fromSeparator_cases rest)
  rw [List.cons_append, List.cons_append, before_append_from] at split
  exact ⟨by rw [runOptions, split.1]; rfl, split.2⟩

/-- What is behind the options once a value has been taken from there. -/
def leftBehind (options behind : List (List Char)) : List (List Char) :=
  if lacksValue options then behind.drop 1 else behind

theorem rewriteControls_legacy (program : host.agentBash ≠ separator) (rest : List (List Char)) :
    rewriteControls host false (host.agentBash :: runName :: rest) delivery ownerLease =
      pinWorkload host (host.agentBash :: runName :: (chosenControls host delivery ownerLease ++
        (withoutSelection (beforeSeparator rest) ++
          leftBehind (beforeSeparator rest) (fromSeparator rest)))) := by
  have clean : separator ∉ host.agentBash :: runName :: beforeSeparator rest := by
    have command : separator ≠ runName := by decide
    simp [program.symm, command, notMem_beforeSeparator]
  have ends := optionsEnd_eq clean (fromSeparator_cases rest)
  rw [List.cons_append, List.cons_append, before_append_from] at ends
  have splice :=
    splice_options [host.agentBash, runName] (beforeSeparator rest) (fromSeparator rest)
  rw [before_append_from] at splice
  have spliced : spliceSelection (host.agentBash :: runName :: rest) =
      host.agentBash :: runName :: (withoutSelection (beforeSeparator rest) ++
        leftBehind (beforeSeparator rest) (fromSeparator rest)) := by
    rw [spliceSelection, ends]
    exact splice
  have chosen : (if ownerLease then lease host ++ [deliveryFlag, delivery.text]
      else [deliveryFlag, delivery.text]) = chosenControls host delivery ownerLease := rfl
  simp only [rewriteControls, Bool.false_and, Bool.false_eq_true, if_false, spliced, chosen]
  rfl

theorem exists_of_parse {command : List Char}
    (admits : (structuredShellWords command).bind shiftAssignments = some words)
    (parses : parseStructuredExplicitRun host false command delivery ownerLease = some argv) :
    ∃ name rest, words = name :: runName :: rest ∧
      (name = host.agentBash ∨ name = programName) ∧
      argv = rewriteControls host false (host.agentBash :: runName :: rest) delivery ownerLease := by
  obtain ⟨read, reads, shifts⟩ := Option.bind_eq_some_iff.mp admits
  simp only [parseStructuredExplicitRun, reads, shifts, Option.bind_eq_bind, Option.bind_some,
    Option.ite_none_right_eq_some, Option.some.injEq] at parses
  obtain ⟨explicit, rfl⟩ := parses
  simp only [isExplicitRun, Bool.and_eq_true, Bool.or_eq_true, decide_eq_true_eq] at explicit
  obtain ⟨named, runs⟩ := explicit
  match words, named, runs with
  | name :: _ :: rest, named, runs =>
    obtain rfl : _ = runName := Option.some.inj runs
    exact ⟨name, rest, rfl, named.imp Option.some.inj Option.some.inj, rfl⟩

theorem separator_notMem_front (delivery : DeliveryMode) (ownerLease : Bool)
    (program : host.agentBash ≠ separator) {before : List (List Char)} (clean : separator ∉ before) :
    separator ∉ host.agentBash :: runName ::
      (chosenControls host delivery ownerLease ++ before) := by
  have command : separator ≠ runName := by decide
  simp [program.symm, command, clean, separator_notMem_chosen]

theorem arguments_split (delivery : DeliveryMode) (ownerLease : Bool)
    (program : host.agentBash ≠ separator) {before behind : List (List Char)}
    (clean : separator ∉ before) (stops : behind = [] ∨ ∃ rest, behind = separator :: rest) :
    let argv := pinWorkload host (host.agentBash :: runName ::
      (chosenControls host delivery ownerLease ++ (before ++ behind)))
    runOptions argv = chosenControls host delivery ownerLease ++ before ∧
      fromSeparator argv = pinned host behind := by
  have front := separator_notMem_front delivery ownerLease program clean
  have split := separated front stops
  have pinned_split := separated front (pinned_cases host stops)
  simp only [List.cons_append, List.append_assoc] at split pinned_split
  intro argv
  have shape : argv = host.agentBash :: runName :: (chosenControls host delivery ownerLease ++
      (before ++ pinned host behind)) := by
    rw [show argv = pinWorkload host _ from rfl, pinWorkload_eq, split.1, split.2]
    simp
  rw [shape, runOptions, pinned_split.1, pinned_split.2]
  exact ⟨rfl, rfl⟩

theorem fromSeparator_pinWorkload (host : Host) (words : List (List Char)) :
    fromSeparator (pinWorkload host words) = pinned host (fromSeparator words) := by
  rw [pinWorkload_eq]
  exact (separated notMem_beforeSeparator (pinned_cases host (fromSeparator_cases words))).2

theorem runOptions_of_separator (program : host.agentBash = separator) (rest : List (List Char)) :
    runOptions (rewriteControls host false (host.agentBash :: runName :: rest) delivery ownerLease) =
      [] := by
  have ends : optionsEnd (separator :: runName :: rest) = 0 := by
    simp [optionsEnd, List.idxOf?_cons]
  have spliced : spliceSelection (separator :: runName :: rest) = separator :: runName :: rest := by
    rw [spliceSelection, ends]
    rfl
  have none_ (words : List (List Char)) : beforeSeparator (separator :: words) = [] := by
    rw [beforeSeparator, List.takeWhile_cons_of_neg (by simp)]
  have all (words : List (List Char)) : fromSeparator (separator :: words) = separator :: words := by
    rw [fromSeparator, List.dropWhile_cons_of_neg (by simp)]
  rw [program]
  simp only [rewriteControls, Bool.false_and, Bool.false_eq_true, if_false, spliced]
  rw [pinWorkload_eq]
  simp only [List.take_succ_cons, List.take_zero, List.cons_append, none_, all, pinned, List.nil_append]
  rw [runOptions, none_]
  rfl

theorem notMem_withoutSelection {options : List (List Char)} (clean : separator ∉ options) :
    separator ∉ withoutSelection options := by
  induction options with
  | nil => exact clean
  | cons word options ih =>
    have rest : separator ∉ options := fun inside => clean (List.mem_cons_of_mem _ inside)
    rw [withoutSelection]
    split
    · exact fun inside => rest (List.mem_of_mem_drop inside)
    · intro inside
      rcases List.mem_cons.mp inside with rfl | inside
      · exact clean List.mem_cons_self
      · exact ih rest inside

/-- When the splice stays inside the options, the controls are the adapter's exactly if the other
options hold none. -/
theorem rewrites_iff {name : List Char} {rest : List (List Char)}
    (program : host.agentBash ≠ separator) (other : name ≠ separator)
    (kept : leftBehind (beforeSeparator rest) (fromSeparator rest) = fromSeparator rest) :
    RewritesControls host (name :: runName :: rest)
        (rewriteControls host false (host.agentBash :: runName :: rest) delivery ownerLease)
        delivery ownerLease ↔
      ∀ word ∈ withoutSelection (beforeSeparator rest), Plain word := by
  obtain ⟨options, behind⟩ := runOptions_cons other rest
  have clean : separator ∉ withoutSelection (beforeSeparator rest) :=
    notMem_withoutSelection notMem_beforeSeparator
  have split := arguments_split delivery ownerLease program clean (fromSeparator_cases rest)
  rw [← kept, ← rewriteControls_legacy program rest, kept] at split
  obtain ⟨argOptions, argBehind⟩ := split
  obtain ⟨modes, leases, others⟩ :=
    filterMap_chosen host delivery ownerLease (withoutSelection (beforeSeparator rest))
  rw [← argOptions] at modes leases others
  constructor
  · intro rewrites
    have selected := rewrites.selected
    have leased := rewrites.leased
    rw [modes, List.cons_eq_cons] at selected
    rw [leases, List.append_right_eq_self] at leased
    exact plain_of_controls selected.2 leased
  · intro plain
    have same := others_of_single plain
    obtain ⟨noModes, noLeases, words⟩ := filterMap_other (withoutSelection (beforeSeparator rest))
    rw [readControls_all_plain plain] at modes leases others
    refine ⟨?_, ?_, ?_, ?_⟩
    · rw [modes, noModes]
    · rw [leases, noLeases, List.append_nil]
    · rw [others, options, words, same]
    · rw [argBehind, behind]

/-- Once the separator is taken for a value, too few words are left to stand behind one. -/
theorem swallowed {options behind : List (List Char)} (program : host.agentBash ≠ separator)
    (clean : separator ∉ options) (stops : ∃ rest, behind = separator :: rest)
    (lacks : lacksValue options = true) :
    fromSeparator (pinWorkload host (host.agentBash :: runName ::
      (chosenControls host delivery ownerLease ++
        (withoutSelection options ++ leftBehind options behind)))) ≠ pinned host behind := by
  intro same
  obtain ⟨rest, rfl⟩ := stops
  have front :=
    separator_notMem_front delivery ownerLease program (notMem_withoutSelection clean)
  have passes := fun word inside =>
    decide_eq_true (p := word ≠ separator) fun same => front (same ▸ inside)
  have lengths := congrArg List.length same
  rw [fromSeparator_pinWorkload, length_pinned, length_pinned, leftBehind, if_pos lacks,
    List.drop_one, List.tail_cons, ← List.append_assoc, ← List.cons_append, ← List.cons_append,
    fromSeparator, List.dropWhile_append_of_pos passes, List.length_cons] at lengths
  have shorter := (List.dropWhile_sublist (fun word => decide (word ≠ separator)) (l := rest)).length_le
  omega

end Admission

/-- The arguments of an admitted run have the adapter's delivery and lease in place of its own, and
are else its words, exactly when its options select a delivery once at most, in two words before the
separator, and no lease. -/
theorem direct_admission {host : Host} {command : List Char} {words argv : List (List Char)}
    {delivery : DeliveryMode} {ownerLease : Bool}
    (admits : (structuredShellWords command).bind shiftAssignments = some words)
    (parses : parseStructuredExplicitRun host false command delivery ownerLease = some argv) :
    RewritesControls host words argv delivery ownerLease ↔ PlainControls host words := by
  obtain ⟨name, rest, rfl, named, rfl⟩ := exists_of_parse admits parses
  by_cases program : host.agentBash = separator
  · refine iff_of_false (fun rewrites => ?_) fun plain => plain.program program
    have selected := rewrites.selected
    rw [runOptions_of_separator program] at selected
    cases selected
  · have other : name ≠ separator := by
      rcases named with rfl | rfl
      · exact program
      · decide
    obtain ⟨options, behind⟩ := runOptions_cons other rest
    by_cases swallows : lacksValue (beforeSeparator rest) = true ∧ fromSeparator rest ≠ []
    · refine iff_of_false (fun rewrites => ?_) fun plain => ?_
      · have workload := rewrites.workload
        rw [behind, rewriteControls_legacy program] at workload
        exact swallowed program notMem_beforeSeparator
          ((fromSeparator_cases rest).resolve_left swallows.2) swallows.1 workload
      · have none_ := plain.valued
        rw [options, behind] at none_
        exact swallows.2 (none_ swallows.1)
    · have kept : leftBehind (beforeSeparator rest) (fromSeparator rest) = fromSeparator rest := by
        rw [leftBehind]
        split
        · next lacks =>
          rw [not_not.mp fun some_ => swallows ⟨lacks, some_⟩]
          rfl
        · rfl
      rw [rewrites_iff program other kept]
      constructor
      · intro plain
        refine ⟨program, ?_, ?_⟩
        · rwa [options]
        · rw [options, behind]
          exact fun lacks => not_not.mp fun some_ => swallows ⟨lacks, some_⟩
      · intro plain
        have single := plain.single
        rwa [options] at single

def homeHost : Host :=
  ⟨"/home/user/.local/bin/agent-bash".toList, "/home/user/.local/bin/agents".toList, 4242⟩

theorem direct_admission_agents :
    RewritesControls homeHost
      ["agent-bash".toList, "run".toList, "--delivery".toList, "async".toList, "--ready-sentinel".toList,
        "up".toList, "--".toList, "agents".toList, "serve".toList]
      ["/home/user/.local/bin/agent-bash".toList, "run".toList, "--cancel-on-owner-exit".toList,
        "--owner-pid".toList, "4242".toList, "--delivery".toList, "sync".toList,
        "--ready-sentinel".toList, "up".toList, "--".toList, "/home/user/.local/bin/agents".toList,
        "serve".toList] .sync true := by
  have admits : (structuredShellWords
      "agent-bash run --delivery async --ready-sentinel up -- agents serve".toList).bind
        shiftAssignments = some ["agent-bash".toList, "run".toList, "--delivery".toList,
          "async".toList, "--ready-sentinel".toList, "up".toList, "--".toList, "agents".toList,
          "serve".toList] := by decide +kernel
  exact (direct_admission admits (by decide +kernel)).mpr
    ⟨by decide +kernel, by decide +kernel, by decide +kernel⟩

/-- A selection that is joined with its value is left beside the adapter's own. -/
theorem direct_admission_joined :
    ¬∀ host command delivery ownerLease words argv,
      (structuredShellWords command).bind shiftAssignments = some words →
      parseStructuredExplicitRun host false command delivery ownerLease = some argv →
      RewritesControls host words argv delivery ownerLease := by
  intro rewrites
  have joined := rewrites homeHost "agent-bash run --delivery=async -- echo hi".toList .sync false
    ["agent-bash".toList, "run".toList, "--delivery=async".toList, "--".toList, "echo".toList,
      "hi".toList]
    ["/home/user/.local/bin/agent-bash".toList, "run".toList, "--delivery".toList, "sync".toList,
      "--delivery=async".toList, "--".toList, "echo".toList, "hi".toList]
    (by decide +kernel) (by decide +kernel)
  exact absurd joined.selected (by decide +kernel)

end AgentBash.OpenCode
