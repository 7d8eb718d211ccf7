import AgentBash.RootV1.Decode

/-!
# What the lines heard so far establish

The loop of `decode` keeps flags and counters. Here the same facts are read off the lines
themselves: whether the first one is an acceptance, whether a start followed it, whether the output
was closed after that, and which chunks of output are valid. The loop's variables are these facts.
-/

namespace AgentBash

set_option autoImplicit false

namespace RootV1

open Text

def isStage (name : String) : Line → Bool
  | .event event => eventName event = name
  | _ => false

def acceptedFirst (lines : List Line) : Bool := lines.head?.any (isStage "accepted")

def startedIn (lines : List Line) : Bool := acceptedFirst lines && lines.any (isStage "started")

def closedIn (lines : List Line) : Bool :=
  acceptedFirst lines &&
    (lines.dropWhile fun line => !isStage "started" line).any (isStage "output-closed")

/-- The chunk of a line of output that comes after the start and before the closure. -/
def validChunk (before : List Line) : Line → Option Bytes
  | .event event =>
      if eventName event = "output" ∧ startedIn before ∧ !closedIn before then
        (event.get "b64").asStr.bind unbase64
      else none
  | _ => none

def chunksFrom (before : List Line) : List Line → List Bytes
  | [] => []
  | line :: lines => (validChunk before line).toList ++ chunksFrom (before ++ [line]) lines

def streamOf (lines : List Line) : Bytes := (chunksFrom [] lines).flatten

/-- A line after which the loop reads no more. -/
def endsReply : Line → Bool
  | .event event => Stream.looksTerminal (eventName event)
  | _ => true

/-- The lines that the loop reads, but for the one that ends the reply. -/
def heard (lines : List Line) : List Line := lines.takeWhile fun line => !endsReply line

section Facts

variable {lines before : List Line} {line : Line} {event : Value}

theorem isStage_event {name : String} :
    isStage name (.event event) = decide (eventName event = name) := rfl

theorem isStage_unique {one : String} (two : String) (differ : one ≠ two)
    (is_one : isStage one line = true) : isStage two line = false := by
  cases line with
  | event event =>
      rw [isStage_event, decide_eq_true_eq] at is_one
      rw [isStage_event, is_one]
      exact decide_eq_false differ
  | failed error => rfl
  | unparseable => rfl

theorem acceptedFirst_append :
    acceptedFirst (lines ++ [line]) =
      if lines = [] then isStage "accepted" line else acceptedFirst lines := by
  cases lines <;> rfl

theorem startedIn_append :
    startedIn (lines ++ [line]) =
      (startedIn lines || acceptedFirst lines && isStage "started" line) := by
  rw [startedIn, startedIn, acceptedFirst_append, List.any_append, List.any_cons, List.any_nil,
    Bool.or_false]
  cases lines with
  | nil =>
      cases is_accepted : isStage "accepted" line with
      | true =>
          have other := isStage_unique "started" (by decide) is_accepted
          rw [other]
          rfl
      | false => rfl
  | cons first lines => rw [if_neg (List.cons_ne_nil _ _), Bool.and_or_distrib_left]

theorem closedIn_append :
    closedIn (lines ++ [line]) =
      (closedIn lines || startedIn lines && isStage "output-closed" line) := by
  rw [closedIn, closedIn, startedIn, acceptedFirst_append, List.dropWhile_append]
  cases lines with
  | nil =>
      cases is_accepted : isStage "accepted" line with
      | true =>
          have other := isStage_unique "started" (by decide) is_accepted
          simp [other, acceptedFirst]
      | false => simp [acceptedFirst]
  | cons first lines =>
      rw [if_neg (List.cons_ne_nil _ _)]
      cases begun : ((first :: lines).dropWhile fun line => !isStage "started" line).isEmpty with
      | true =>
          -- no line so far is a start, and the new one is not a start and a closure at once
          rw [if_pos rfl]
          have none_ : (first :: lines).any (isStage "started") = false := by
            rw [List.isEmpty_iff, List.dropWhile_eq_nil_iff] at begun
            rw [List.any_eq_false]
            intro other inside
            simpa using begun other inside
          have empty := List.isEmpty_iff.mp begun
          rw [none_, empty]
          cases starts : isStage "started" line with
          | true =>
              have other := isStage_unique "output-closed" (by decide) starts
              simp [starts, other]
          | false => simp [starts]
      | false =>
          rw [if_neg (by simp)]
          have some_ : (first :: lines).any (isStage "started") = true := by
            by_contra none_
            rw [Bool.not_eq_true, List.any_eq_false] at none_
            have all : (first :: lines).dropWhile (fun line => !isStage "started" line) = [] :=
              List.dropWhile_eq_nil_iff.mpr fun other inside => by simpa using none_ other inside
            rw [all] at begun
            cases begun
          rw [some_, List.any_append, Bool.and_true, Bool.and_or_distrib_left, List.any_cons,
            List.any_nil, Bool.or_false]

theorem chunksFrom_append (more : List Line) :
    chunksFrom before (lines ++ more) =
      chunksFrom before lines ++ chunksFrom (before ++ lines) more := by
  induction lines generalizing before with
  | nil => rw [List.nil_append, List.append_nil]; rfl
  | cons first lines ih =>
      rw [List.cons_append, chunksFrom, chunksFrom, ih, List.append_assoc, List.append_assoc]
      rfl

theorem streamOf_append : streamOf (lines ++ [line]) =
    streamOf lines ++ (validChunk lines line).getD [] := by
  rw [streamOf, chunksFrom_append, List.flatten_append, List.nil_append]
  cases chunk : validChunk lines line with
  | none => simp [chunksFrom, chunk, streamOf]
  | some bytes => simp [chunksFrom, chunk, streamOf]

theorem validChunk_other (other : eventName event ≠ "output") :
    validChunk before (.event event) = none := if_neg fun both => other both.1

end Facts

/-- The stages that the lines give, but for the chunks. -/
def spoken (lines : List Line) : List Value := lines.filterMap fun line =>
  match line with
  | .event event => if eventName event = "output" then none else some event
  | _ => none

/-- A list of stages with the stage of the chunks in its place. -/
inductive Staged (lines : List Line) : List Value → Option Nat → Prop
  | plain {stages} (spoken_eq : stages = spoken lines) : Staged lines stages none
  | chunks {before after count bytes} (spoken_eq : before ++ after = spoken lines) :
      Staged lines (before ++ Stream.chunkStage count bytes :: after) (some before.length)

section Stages

variable {lines : List Line} {line : Line} {event : Value} {stages : List Value} {index : Option Nat}

theorem spoken_event (other : eventName event ≠ "output") :
    spoken (lines ++ [.event event]) = spoken lines ++ [event] := by
  simp [spoken, other]

theorem spoken_output (outputs : eventName event = "output") :
    spoken (lines ++ [.event event]) = spoken lines := by
  simp [spoken, outputs]

theorem Staged.stage (staged : Staged lines stages index) (other : eventName event ≠ "output") :
    Staged (lines ++ [.event event]) (stages ++ [event]) index := by
  cases staged with
  | plain spoken_eq => exact .plain (by rw [spoken_eq, spoken_event other])
  | chunks spoken_eq =>
      rw [List.append_assoc, List.cons_append]
      exact .chunks (by rw [spoken_event other, ← spoken_eq, List.append_assoc])

theorem Staged.output (staged : Staged lines stages index) (outputs : eventName event = "output")
    (added : Value) (count bytes : Nat) :
    Staged (lines ++ [.event event])
      ((if index.isSome then stages else stages ++ [added]).set (index.getD stages.length)
        (Stream.chunkStage count bytes)) (some (index.getD stages.length)) := by
  cases staged with
  | plain spoken_eq =>
      have placed : (stages ++ [added]).set stages.length (Stream.chunkStage count bytes) =
          stages ++ Stream.chunkStage count bytes :: [] := by
        rw [List.set_append_right _ _ (Nat.le_refl _), Nat.sub_self]
        rfl
      show Staged _ ((stages ++ [added]).set stages.length _) (some stages.length)
      rw [placed]
      exact .chunks (by rw [spoken_output outputs, spoken_eq, List.append_nil])
  | @chunks before after earlier sum spoken_eq =>
      have placed : (before ++ Stream.chunkStage earlier sum :: after).set before.length
          (Stream.chunkStage count bytes) = before ++ Stream.chunkStage count bytes :: after := by
        rw [List.set_append_right _ _ (Nat.le_refl _), Nat.sub_self]
        rfl
      show Staged _ ((before ++ Stream.chunkStage earlier sum :: after).set before.length _)
        (some before.length)
      rw [placed]
      exact .chunks (by rw [spoken_output outputs, spoken_eq])

theorem Staged.silent {more : List Line} (staged : Staged lines stages index)
    (same : spoken more = spoken lines) : Staged more stages index := by
  cases staged with
  | plain spoken_eq => exact .plain (spoken_eq.trans same.symm)
  | chunks spoken_eq => exact .chunks (spoken_eq.trans same.symm)

/-- What holds of the stage of the chunks holds of all stages when it holds of what was said. -/
theorem Staged.forall_iff {P : Value → Prop} (staged : Staged lines stages index)
    (chunks : ∀ count bytes, P (Stream.chunkStage count bytes)) :
    (∀ stage ∈ stages, P stage) ↔ ∀ event ∈ spoken lines, P event := by
  cases staged with
  | plain spoken_eq => rw [spoken_eq]
  | chunks spoken_eq =>
      rw [← spoken_eq]
      simp [or_imp, forall_and, chunks]

end Stages

def terminalOf (before : List Line) : Option Line → Option Value
  | some (.event event) =>
      if (eventName event = "end" ∧ startedIn before) ∨
          ((eventName event = "launch-failed" ∨ eventName event = "launch-unknown") ∧
            acceptedFirst before ∧ !startedIn before) ∨
          ((eventName event = "end-unknown" ∨ eventName event = "left-to-successor") ∧
            acceptedFirst before) then some event
      else none
  | _ => none

/-- A reply without a fault so far, with what its chunks decode to. -/
inductive Clean : List Line → List Bytes → Prop
  | nothing : Clean [] []
  | accepted {accepted} (accepts : eventName accepted = "accepted") : Clean [.event accepted] []
  | started {accepted started} (accepts : eventName accepted = "accepted")
      (starts : eventName started = "started") :
      Clean [.event accepted, .event started] []
  | chunk {lines chunks event chunk} (clean : Clean lines chunks) (open_ : startedIn lines = true)
      (unclosed : closedIn lines = false) (outputs : eventName event = "output")
      (decodes : (event.get "b64").asStr.bind unbase64 = some chunk) :
      Clean (lines ++ [.event event]) (chunks ++ [chunk])
  | closed {lines chunks event} (clean : Clean lines chunks) (open_ : startedIn lines = true)
      (unclosed : closedIn lines = false) (closes : eventName event = "output-closed")
      (counts : (event.get "bytes").asU64 = some chunks.flatten.length) :
      Clean (lines ++ [.event event]) chunks

/-- An order that is not at fault: an acceptance first, then directly a start. -/
inductive Orderly : List Line → Prop
  | nothing : Orderly []
  | accepted {accepted} (accepts : eventName accepted = "accepted") : Orderly [.event accepted]
  | started {accepted started rest} (accepts : eventName accepted = "accepted")
      (starts : eventName started = "started") :
      Orderly (.event accepted :: .event started :: rest)

/-- The variables of the loop are what the lines say. -/
structure Follows (lines : List Line) (state : Stream) : Prop where
  accepted : state.accepted = acceptedFirst lines
  started : state.started = startedIn lines
  closed : state.closed = closedIn lines
  streamed : state.streamed = streamOf lines
  bytes : state.bytes = state.streamed.length
  output : state.output = state.streamed.take outputPrefixBytes
  empty : state.stages = [] ↔ lines = []
  head : acceptedFirst lines = true →
    ∃ accepted rest, lines = .event accepted :: rest ∧ state.stages.head? = some accepted
  staged : Staged lines state.stages state.outputStage
  index : ∀ index, state.outputStage = some index →
    lines ≠ [] ∧ (acceptedFirst lines = true → 0 < index)
  order : state.orderFault = false → Orderly lines
  clean : state.faults = [] → ∃ chunks, Clean lines chunks ∧ chunks.flatten = streamOf lines
  terminal : state.terminal = none

theorem follows_nothing : Follows [] {} where
  accepted := rfl
  started := rfl
  closed := rfl
  streamed := rfl
  bytes := rfl
  output := rfl
  empty := ⟨fun _ => rfl, fun _ => rfl⟩
  head := nofun
  staged := .plain rfl
  index := nofun
  order _ := .nothing
  clean _ := ⟨[], .nothing, rfl⟩
  terminal := rfl

section Turns

variable {lines : List Line} {line : Line} {state next : Stream} {event : Value}

theorem Orderly.append (orderly : Orderly lines) (started : startedIn lines = true) :
    Orderly (lines ++ [line]) := by
  cases orderly with
  | nothing => cases started
  | accepted accepts =>
      simp [startedIn, isStage_event, accepts] at started
  | started accepts starts => exact .started accepts starts

/-- A stage that is no output: what is streamed stays, and the stage is added to the list. -/
theorem Follows.stage (follows : Follows lines state) (other : eventName event ≠ "output")
    (kept : next.streamed = state.streamed ∧ next.bytes = state.bytes ∧
      next.output = state.output ∧ next.terminal = none)
    (staged : next.stages = state.stages ++ [event] ∧ next.outputStage = state.outputStage)
    (accepted : next.accepted = acceptedFirst (lines ++ [.event event]))
    (started : next.started = startedIn (lines ++ [.event event]))
    (closed : next.closed = closedIn (lines ++ [.event event]))
    (order : next.orderFault = false → Orderly (lines ++ [.event event]))
    (clean : next.faults = [] → ∃ chunks, Clean (lines ++ [.event event]) chunks ∧
      chunks.flatten = streamOf lines) :
    Follows (lines ++ [.event event]) next where
  accepted := accepted
  started := started
  closed := closed
  streamed := by
    rw [kept.1, follows.streamed, streamOf_append, validChunk_other other, Option.getD_none,
      List.append_nil]
  bytes := by rw [kept.1, kept.2.1, follows.bytes]
  output := by rw [kept.1, kept.2.2.1, follows.output]
  empty := by simp [staged.1]
  head first := by
    rw [staged.1]
    cases lines with
    | nil =>
        have none_ : state.stages = [] := follows.empty.mpr rfl
        exact ⟨event, [], rfl, by rw [none_]; rfl⟩
    | cons one lines =>
        obtain ⟨accepted, rest, same, head⟩ := follows.head first
        refine ⟨accepted, rest ++ [.event event], by rw [same]; rfl, ?_⟩
        rw [List.head?_append, head]
        rfl
  staged := by
    rw [staged.1, staged.2]
    exact follows.staged.stage other
  index index stands := by
    obtain ⟨some_, positive⟩ := follows.index index (staged.2 ▸ stands)
    refine ⟨by simp, fun first => positive ?_⟩
    rwa [acceptedFirst_append, if_neg some_] at first
  order := order
  clean := by
    rw [streamOf_append, validChunk_other other, Option.getD_none, List.append_nil]
    exact clean
  terminal := kept.2.2.2

/-- A stage that is neither an acceptance, a start nor a closure in its place changes no flag. -/
theorem flags_other (first : isStage "accepted" line = true → lines ≠ [])
    (starts : isStage "started" line = true → acceptedFirst lines = true → startedIn lines = true)
    (closes : isStage "output-closed" line = true → startedIn lines = true →
      closedIn lines = true) :
    acceptedFirst (lines ++ [line]) = acceptedFirst lines ∧
    startedIn (lines ++ [line]) = startedIn lines ∧
    closedIn (lines ++ [line]) = closedIn lines := by
  refine ⟨?_, ?_, ?_⟩
  · rw [acceptedFirst_append]
    split
    · next none_ =>
      subst none_
      cases is_accepted : isStage "accepted" line with
      | true => exact absurd rfl (first is_accepted)
      | false => rfl
    · rfl
  · rw [startedIn_append]
    cases is_started : isStage "started" line with
    | false => rw [Bool.and_false, Bool.or_false]
    | true =>
        cases accepted : acceptedFirst lines with
        | false => rw [Bool.false_and, Bool.or_false]
        | true => rw [starts is_started accepted]; rfl
  · rw [closedIn_append]
    cases is_closed : isStage "output-closed" line with
    | false => rw [Bool.and_false, Bool.or_false]
    | true =>
        cases started : startedIn lines with
        | false => rw [Bool.false_and, Bool.or_false]
        | true => rw [closes is_closed started]; rfl

theorem Follows.fault (follows : Follows lines state) (other : eventName event ≠ "output")
    {text : String}
    (flags : acceptedFirst (lines ++ [.event event]) = acceptedFirst lines ∧
      startedIn (lines ++ [.event event]) = startedIn lines ∧
      closedIn (lines ++ [.event event]) = closedIn lines) :
    Follows (lines ++ [.event event])
      { Stream.fault { state with stages := state.stages ++ [event] } text with orderFault := true } :=
  follows.stage other ⟨rfl, rfl, rfl, follows.terminal⟩ ⟨rfl, rfl⟩
    (follows.accepted.trans flags.1.symm) (follows.started.trans flags.2.1.symm)
    (follows.closed.trans flags.2.2.symm) nofun fun none_ => absurd none_ (by simp [Stream.fault])

theorem hear_keeps (state : Stream) (event : Value) : (state.hear event).stages = state.stages ∧
    (state.hear event).outputStage = state.outputStage ∧
    (state.hear event).accepted = state.accepted ∧ (state.hear event).started = state.started ∧
    (state.hear event).closed = state.closed ∧ (state.hear event).terminal = state.terminal := by
  unfold Stream.hear
  split
  · exact ⟨rfl, rfl, rfl, rfl, rfl, rfl⟩
  · split
    · exact ⟨rfl, rfl, rfl, rfl, rfl, rfl⟩
    · split
      · exact ⟨rfl, rfl, rfl, rfl, rfl, rfl⟩
      · exact ⟨rfl, rfl, rfl, rfl, rfl, rfl⟩

/-- Hearing a line of output: it is a valid chunk, or there is a fault. -/
theorem hear_cases (state : Stream) (outputs : eventName event = "output") (started : state.started = startedIn lines)
    (closed : state.closed = closedIn lines) :
    (∃ chunk, validChunk lines (.event event) = some chunk ∧ startedIn lines = true ∧
      closedIn lines = false ∧ (event.get "b64").asStr.bind unbase64 = some chunk ∧
      state.hear event = { state with
        streamed := state.streamed ++ chunk
        bytes := state.bytes + chunk.length
        output := state.output ++
          chunk.take (min chunk.length (outputPrefixBytes - state.output.length)) }) ∨
    (validChunk lines (.event event) = none ∧ (state.hear event).faults ≠ [] ∧
      (state.hear event).streamed = state.streamed ∧ (state.hear event).bytes = state.bytes ∧
      (state.hear event).output = state.output ∧
      ((state.hear event).orderFault = false → state.orderFault = false ∧ startedIn lines = true)) := by
  rw [validChunk, Stream.hear, started, closed]
  cases begun : startedIn lines with
  | false =>
      exact .inr ⟨if_neg fun all => absurd all.2.1 Bool.false_ne_true, by simp [Stream.fault], rfl, rfl,
        rfl, nofun⟩
  | true =>
      have hears : ¬ (!true) = true := by decide
      cases ended : closedIn lines with
      | true =>
          rw [if_neg fun all => hears all.2.2, if_neg hears]
          cases decodes : (event.get "b64").asStr.bind unbase64 with
          | none =>
              exact .inr ⟨rfl, by simp [Stream.fault], rfl, rfl, rfl, fun order => ⟨order, rfl⟩⟩
          | some chunk =>
              exact .inr ⟨rfl, by simp [Stream.fault], rfl, rfl, rfl, fun order => ⟨order, rfl⟩⟩
      | false =>
          rw [if_pos ⟨outputs, rfl, rfl⟩, if_neg hears]
          cases decodes : (event.get "b64").asStr.bind unbase64 with
          | none =>
              exact .inr ⟨rfl, by simp [Stream.fault], rfl, rfl, rfl, fun order => ⟨order, rfl⟩⟩
          | some chunk => exact .inl ⟨chunk, rfl, rfl, rfl, rfl, rfl⟩

theorem flags_output (lines : List Line) (outputs : eventName event = "output") :
    acceptedFirst (lines ++ [.event event]) = acceptedFirst lines ∧
    startedIn (lines ++ [.event event]) = startedIn lines ∧
    closedIn (lines ++ [.event event]) = closedIn lines := by
  refine flags_other (fun is_ => ?_) (fun is_ => ?_) (fun is_ => ?_)
  all_goals
    rw [isStage_event, outputs] at is_
    exact absurd is_ (by decide)

theorem Follows.outputStages (follows : Follows lines state) (stage : Value) :
    (state.announce.stages.set state.outputIndex stage ≠ []) ∧
    (acceptedFirst lines = true → 0 < state.outputIndex ∧
      (state.announce.stages.set state.outputIndex stage).head? = state.stages.head?) := by
  have length : 0 < state.announce.stages.length := by
    rw [Stream.announce]
    cases stands : state.outputStage with
    | none => simp
    | some index =>
        have some_ := (follows.index index stands).1
        exact List.length_pos_iff.mpr fun none_ => some_ (follows.empty.mp none_)
  refine ⟨fun none_ => ?_, fun first => ?_⟩
  · rw [List.set_eq_nil_iff] at none_
    exact absurd none_ (List.length_pos_iff.mp length)
  · obtain ⟨accepted, rest, same, head⟩ := follows.head first
    obtain ⟨tail, stages⟩ := List.head?_eq_some_iff.mp head
    have positive : 0 < state.outputIndex := by
      rw [Stream.outputIndex]
      cases stands : state.outputStage with
      | none => rw [stages]; exact Nat.succ_pos _
      | some index => exact (follows.index index stands).2 first
    refine ⟨positive, ?_⟩
    rw [List.head?_eq_getElem?, List.getElem?_set_ne (Nat.ne_of_gt positive), Stream.announce]
    split
    · rw [List.head?_eq_getElem?]
    · rw [stages]
      rfl

theorem Follows.outputLine (follows : Follows lines state) (outputs : eventName event = "output") :
    Follows (lines ++ [.event event]) (state.outputLine event) := by
  have flags := flags_output lines outputs
  obtain ⟨stages, stage, accepted, started, closed, terminal⟩ :=
    hear_keeps state.announce event
  have cases_ := hear_cases state.announce outputs follows.started follows.closed
  have result : state.outputLine event = { state.announce.hear event with
      stages := state.announce.stages.set state.outputIndex
        (Stream.chunkStage (state.announce.hear event).chunks (state.announce.hear event).bytes) } := by
    rw [Stream.outputLine, stages]
  obtain ⟨some_, head⟩ := follows.outputStages
    (Stream.chunkStage (state.announce.hear event).chunks (state.announce.hear event).bytes)
  have kept_output : state.announce.output = state.output := rfl
  have counted : (state.outputLine event).streamed = streamOf (lines ++ [.event event]) ∧
      (state.outputLine event).bytes = (state.outputLine event).streamed.length ∧
      (state.outputLine event).output =
        (state.outputLine event).streamed.take outputPrefixBytes ∧
      ((state.outputLine event).orderFault = false → Orderly (lines ++ [.event event])) ∧
      ((state.outputLine event).faults = [] → ∃ chunks, Clean (lines ++ [.event event]) chunks ∧
        chunks.flatten = streamOf (lines ++ [.event event])) := by
    rw [result, streamOf_append]
    rcases cases_ with ⟨chunk, valid, begun, unclosed, decodes, heard⟩ |
      ⟨invalid, faults, streamed, bytes, output, order⟩
    · rw [heard, valid]
      refine ⟨congrArg (· ++ chunk) follows.streamed, ?_, ?_, fun order => ?_, fun none_ => ?_⟩
      · show state.bytes + chunk.length = (state.streamed ++ chunk).length
        rw [List.length_append, follows.bytes]
      · show state.output ++ chunk.take (min chunk.length (outputPrefixBytes - state.output.length)) =
          (state.streamed ++ chunk).take outputPrefixBytes
        rw [follows.output, List.take_append, List.length_take]
        refine congrArg (state.streamed.take outputPrefixBytes ++ ·) (List.take_eq_take_iff.mpr ?_)
        omega
      · exact (follows.order order).append begun
      · obtain ⟨chunks, clean, flat⟩ := follows.clean none_
        refine ⟨chunks ++ [chunk], clean.chunk begun unclosed outputs decodes, ?_⟩
        rw [List.flatten_append, flat]
        simp
    · rw [invalid, Option.getD_none, List.append_nil]
      refine ⟨streamed.trans follows.streamed, ?_, ?_, fun at_fault => ?_, fun none_ => ?_⟩
      · exact (bytes.trans follows.bytes).trans (congrArg List.length streamed.symm)
      · exact (output.trans follows.output).trans
          (congrArg (List.take outputPrefixBytes) streamed.symm)
      · obtain ⟨orderly, begun⟩ := order at_fault
        exact (follows.order orderly).append begun
      · exact absurd none_ faults
  obtain ⟨streamed, bytes, output, order, clean⟩ := counted
  refine ⟨?_, ?_, ?_, streamed, bytes, output, ?_, ?_, ?_, ?_, order, clean, ?_⟩
  · rw [result, flags.1]
    exact accepted.trans follows.accepted
  · rw [result, flags.2.1]
    exact started.trans follows.started
  · rw [result, flags.2.2]
    exact closed.trans follows.closed
  · rw [result]
    exact ⟨fun none_ => absurd none_ some_, fun none_ => absurd none_ (by simp)⟩
  · intro first
    rw [flags.1] at first
    obtain ⟨accepted, rest, same, stands⟩ := follows.head first
    refine ⟨accepted, rest ++ [.event event], by rw [same]; rfl, ?_⟩
    rw [result]
    exact (head first).2.trans stands
  · rw [result]
    show Staged _ _ (state.announce.hear event).outputStage
    rw [stage]
    exact follows.staged.output outputs _ _ _
  · intro index stands
    rw [result] at stands
    have same : state.outputIndex = index := Option.some.inj (stage.symm.trans stands)
    refine ⟨by simp, fun first => ?_⟩
    rw [flags.1] at first
    exact same ▸ (head first).1
  · rw [result]
    exact terminal.trans follows.terminal

theorem Follows.acceptedLine (follows : Follows [] state)
    (accepts : eventName event = "accepted") :
    Follows ([] ++ [.event event])
      { state with stages := state.stages ++ [event], accepted := true } := by
  have started : startedIn ([] ++ [.event event]) = false := startedIn_append
  have closed : closedIn ([] ++ [.event event]) = false := closedIn_append
  refine follows.stage ?_ ⟨rfl, rfl, rfl, follows.terminal⟩ ⟨rfl, rfl⟩ ?_
    (follows.started.trans started.symm) (follows.closed.trans closed.symm) (fun _ => .accepted accepts)
    fun _ => ⟨[], .accepted accepts, rfl⟩
  · rw [accepts]
    decide
  · exact (decide_eq_true accepts).symm

/-- An order that is not at fault and waits for the start consists of the acceptance. -/
theorem Orderly.waiting (orderly : Orderly lines) (first : acceptedFirst lines = true)
    (waiting : startedIn lines = false) :
    ∃ accepted, lines = [.event accepted] ∧ eventName accepted = "accepted" := by
  cases orderly with
  | nothing => cases first
  | accepted accepts => exact ⟨_, rfl, accepts⟩
  | started accepts starts =>
      simp [startedIn, acceptedFirst, isStage_event, accepts, starts] at waiting

theorem Clean.waiting {chunks : List Bytes} (clean : Clean lines chunks)
    (first : acceptedFirst lines = true) (waiting : startedIn lines = false) :
    chunks = [] ∧ ∃ accepted, lines = [.event accepted] ∧ eventName accepted = "accepted" := by
  cases clean with
  | nothing => cases first
  | accepted accepts => exact ⟨rfl, _, rfl, accepts⟩
  | started accepts starts =>
      simp [startedIn, acceptedFirst, isStage_event, accepts, starts] at waiting
  | chunk _ open_ => rw [startedIn_append, open_] at waiting; cases waiting
  | closed _ open_ => rw [startedIn_append, open_] at waiting; cases waiting

theorem Follows.startedLine (follows : Follows lines state) (starts : eventName event = "started")
    (accepted : state.accepted = true) (waiting : state.started = false) :
    Follows (lines ++ [.event event])
      (Stream.startedLine { state with stages := state.stages ++ [event] } event) := by
  have other : eventName event ≠ "output" := by rw [starts]; decide
  have is_start : isStage "started" (.event event) = true := decide_eq_true starts
  have first := follows.accepted.symm.trans accepted
  have idle := follows.started.symm.trans waiting
  have flags : acceptedFirst (lines ++ [.event event]) = acceptedFirst lines ∧
      startedIn (lines ++ [.event event]) = true ∧
      closedIn (lines ++ [.event event]) = closedIn lines := by
    refine ⟨?_, ?_, ?_⟩
    · rw [acceptedFirst_append, if_neg]
      rintro rfl
      cases first
    · rw [startedIn_append, first, is_start, idle]
      rfl
    · rw [closedIn_append, idle, Bool.false_and, Bool.or_false]
  have order : state.orderFault = false → Orderly (lines ++ [.event event]) := by
    intro orderly
    obtain ⟨accepted, rfl, accepts⟩ := (follows.order orderly).waiting first idle
    exact .started accepts starts
  have clean : state.faults = [] → ∃ chunks, Clean (lines ++ [.event event]) chunks ∧
      chunks.flatten = streamOf lines := by
    intro none_
    obtain ⟨chunks, clean, flat⟩ := follows.clean none_
    obtain ⟨rfl, accepted, rfl, accepts⟩ := clean.waiting first idle
    exact ⟨[], .started accepts starts, flat⟩
  unfold Stream.startedLine
  simp only
  split
  · exact follows.stage other ⟨rfl, rfl, rfl, follows.terminal⟩ ⟨rfl, rfl⟩
      (follows.accepted.trans flags.1.symm) flags.2.1.symm (follows.closed.trans flags.2.2.symm)
      order clean
  · exact follows.stage other ⟨rfl, rfl, rfl, follows.terminal⟩ ⟨rfl, rfl⟩
      (follows.accepted.trans flags.1.symm) flags.2.1.symm (follows.closed.trans flags.2.2.symm)
      nofun fun none_ => absurd none_ (by simp [Stream.fault])

theorem Follows.closedLine (follows : Follows lines state)
    (closes : eventName event = "output-closed") (started : state.started = true)
    (unclosed : state.closed = false) :
    Follows (lines ++ [.event event])
      (Stream.closedLine { state with stages := state.stages ++ [event] } event) := by
  have other : eventName event ≠ "output" := by rw [closes]; decide
  have is_closure : isStage "output-closed" (.event event) = true := decide_eq_true closes
  have begun := follows.started.symm.trans started
  have still := follows.closed.symm.trans unclosed
  have flags : acceptedFirst (lines ++ [.event event]) = acceptedFirst lines ∧
      startedIn (lines ++ [.event event]) = startedIn lines ∧
      closedIn (lines ++ [.event event]) = true := by
    refine ⟨?_, ?_, ?_⟩
    · rw [acceptedFirst_append, if_neg]
      rintro rfl
      cases begun
    · rw [startedIn_append, begun, Bool.true_or]
    · rw [closedIn_append, begun, is_closure, still]
      rfl
  have order : state.orderFault = false → Orderly (lines ++ [.event event]) :=
    fun orderly => (follows.order orderly).append begun
  unfold Stream.closedLine
  simp only
  split
  · exact follows.stage other ⟨rfl, rfl, rfl, follows.terminal⟩ ⟨rfl, rfl⟩
      (follows.accepted.trans flags.1.symm) (follows.started.trans flags.2.1.symm) flags.2.2.symm
      order fun none_ => absurd none_ (by simp [Stream.fault])
  · next counts =>
    rw [ne_eq, not_not] at counts
    refine follows.stage other ⟨rfl, rfl, rfl, follows.terminal⟩ ⟨rfl, rfl⟩
      (follows.accepted.trans flags.1.symm) (follows.started.trans flags.2.1.symm) flags.2.2.symm
      order fun none_ => ?_
    obtain ⟨chunks, clean, flat⟩ := follows.clean none_
    refine ⟨chunks, clean.closed begun still closes ?_, flat⟩
    rw [counts, flat, ← follows.streamed, ← follows.bytes]

/-- What a turn does with a line that does not end the reply. -/
theorem Follows.goOn (follows : Follows lines state) (goes_on : endsReply line = false) :
    ∃ next, state.turn line = .goOn next ∧ Follows (lines ++ [line]) next := by
  cases line with
  | failed error => cases goes_on
  | unparseable => cases goes_on
  | event event =>
      have plain : Stream.looksTerminal (eventName event) = false := goes_on
      by_cases outputs : eventName event = "output"
      · exact ⟨_, if_pos outputs, follows.outputLine outputs⟩
      have names : eventName event ≠ "refused" ∧ eventName event ≠ "end" ∧
          eventName event ≠ "end-unknown" ∧ eventName event ≠ "launch-failed" ∧
          eventName event ≠ "launch-unknown" ∧ eventName event ≠ "left-to-successor" := by
        simpa [Stream.looksTerminal, and_assoc] using plain
      have length : (state.stages ++ [event]).length = 1 ↔ lines = [] := by
        rw [List.length_append, List.length_singleton, ← follows.empty, ← List.length_eq_zero_iff]
        omega
      unfold Stream.turn
      simp only [outputs, names, length, false_and, if_false, false_or]
      by_cases accepts : eventName event = "accepted" ∧ lines = []
      · obtain ⟨accepts, rfl⟩ := accepts
        exact ⟨_, if_pos ⟨accepts, rfl⟩, follows.acceptedLine accepts⟩
      rw [if_neg accepts]
      by_cases starts : eventName event = "started" ∧ state.accepted = true ∧ (!state.started) = true
      · exact ⟨_, if_pos starts, follows.startedLine starts.1 starts.2.1 (by simpa using starts.2.2)⟩
      rw [if_neg starts]
      by_cases closes : eventName event = "output-closed" ∧ state.started = true ∧
          (!state.closed) = true
      · exact ⟨_, if_pos closes, follows.closedLine closes.1 closes.2.1 (by simpa using closes.2.2)⟩
      rw [if_neg closes]
      -- the stage is in no place where it would change a flag
      have flags : acceptedFirst (lines ++ [.event event]) = acceptedFirst lines ∧
          startedIn (lines ++ [.event event]) = startedIn lines ∧
          closedIn (lines ++ [.event event]) = closedIn lines := by
        refine flags_other (fun is_ none_ => accepts ⟨of_decide_eq_true is_, none_⟩)
          (fun is_ first => ?_) (fun is_ begun => ?_)
        · rw [← follows.accepted] at first
          rw [← follows.started]
          by_contra waiting
          exact starts ⟨of_decide_eq_true is_, first, by simpa using waiting⟩
        · rw [← follows.started] at begun
          rw [← follows.closed]
          by_contra unclosed
          exact closes ⟨of_decide_eq_true is_, begun, by simpa using unclosed⟩
      by_cases fails : eventName event = "output-failed" ∧ state.started = true
      · refine ⟨_, if_pos fails, follows.stage outputs ⟨rfl, rfl, rfl, follows.terminal⟩ ⟨rfl, rfl⟩
          (follows.accepted.trans flags.1.symm) (follows.started.trans flags.2.1.symm)
          (follows.closed.trans flags.2.2.symm) (fun order => ?_)
          fun none_ => absurd none_ (by simp [Stream.fault])⟩
        exact (follows.order order).append (follows.started.symm.trans fails.2)
      rw [if_neg fails, plain]
      exact ⟨_, rfl, follows.fault outputs flags⟩

/-- What the loop leaves behind: `last` is the line that ended the reply, if one did. -/
structure Left (lines : List Line) (last : Option Line) (state : Stream) : Prop where
  closed : state.closed = closedIn lines
  streamed : state.streamed = streamOf lines
  bytes : state.bytes = state.streamed.length
  output : state.output = state.streamed.take outputPrefixBytes
  order : state.orderFault = false → Orderly lines
  clean : state.faults = [] → ∃ chunks, Clean lines chunks ∧ chunks.flatten = streamOf lines
  staged : ∃ index, Staged (lines ++ last.toList) state.stages index
  terminal : state.terminal = terminalOf lines last
  ending : ∀ ending, state.terminal = some ending → last = some (.event ending) ∧
    (eventName ending = "end" → startedIn lines = true) ∧
    (eventName ending = "launch-failed" → startedIn lines = false) ∧
    ∃ accepted rest, lines = .event accepted :: rest ∧ eventName accepted = "accepted" ∧
      state.stages.head? = some accepted

theorem Follows.left (follows : Follows lines state) (last : Option Line)
    (silent : spoken (lines ++ last.toList) = spoken lines) (open_ : terminalOf lines last = none) :
    Left lines last state where
  closed := follows.closed
  streamed := follows.streamed
  bytes := follows.bytes
  output := follows.output
  order := follows.order
  clean := follows.clean
  staged := ⟨_, follows.staged.silent silent⟩
  terminal := follows.terminal.trans open_.symm
  ending _ stands := nomatch follows.terminal.symm.trans stands

theorem Follows.left_fault (follows : Follows lines state) {text : String} {stages : List Value}
    {last : Option Line} (staged : Staged (lines ++ last.toList) stages state.outputStage)
    (open_ : terminalOf lines last = none) :
    Left lines last { Stream.fault { state with stages } text with orderFault := true } where
  closed := follows.closed
  streamed := follows.streamed
  bytes := follows.bytes
  output := follows.output
  order := nofun
  clean none_ := absurd none_ (by simp [Stream.fault])
  staged := ⟨_, staged⟩
  terminal := follows.terminal.trans open_.symm
  ending _ stands := nomatch follows.terminal.symm.trans stands

theorem Follows.left_terminal (follows : Follows lines state) (accepted : state.accepted = true)
    (other : eventName event ≠ "output")
    (ended : eventName event = "end" → state.started = true)
    (failed : eventName event = "launch-failed" → state.started = false)
    (terminal : terminalOf lines (some (.event event)) = some event) :
    Left lines (some (.event event))
      { state with stages := state.stages ++ [event], terminal := some event } where
  closed := follows.closed
  streamed := follows.streamed
  bytes := follows.bytes
  output := follows.output
  order := follows.order
  clean := follows.clean
  staged := ⟨_, follows.staged.stage other⟩
  terminal := terminal.symm
  ending ending stands := by
    have same : event = ending := Option.some.inj stands
    subst same
    have first := follows.accepted.symm.trans accepted
    obtain ⟨accepted, rest, lines_eq, head⟩ := follows.head first
    refine ⟨rfl, fun is_ => follows.started.symm.trans (ended is_),
      fun is_ => follows.started.symm.trans (failed is_), accepted, rest, lines_eq, ?_, ?_⟩
    · rw [lines_eq] at first
      exact of_decide_eq_true first
    · show (state.stages ++ [event]).head? = some accepted
      rw [List.head?_append, head]
      rfl

theorem Follows.accepted_of_started (follows : Follows lines state) (started : state.started = true) :
    state.accepted = true := by
  rw [follows.started, startedIn, Bool.and_eq_true] at started
  rw [follows.accepted]
  exact started.1

theorem Follows.ends (follows : Follows lines state) (ends_ : endsReply line = true) :
    (∃ event, line = .event event ∧ lines = [] ∧ eventName event = "refused" ∧
      state.turn line = .answer (Stream.refusal event [event])) ∨
    ∃ next, state.turn line = .leave next ∧ Left lines (some line) next := by
  cases line with
  | failed error =>
      have left := follows.left (some (.failed error)) (by simp [spoken]) rfl
      exact .inr ⟨_, rfl, { left with clean := fun none_ => absurd none_ (by simp [Stream.fault]) }⟩
  | unparseable =>
      exact .inr ⟨_, rfl, follows.left_fault (follows.staged.silent (by simp [spoken])) rfl⟩
  | event event =>
      have terminal : Stream.looksTerminal (eventName event) = true := ends_
      have names : eventName event ≠ "output" ∧ eventName event ≠ "accepted" ∧
          eventName event ≠ "started" ∧ eventName event ≠ "output-closed" ∧
          eventName event ≠ "output-failed" := by
        refine ⟨?_, ?_, ?_, ?_, ?_⟩ <;> (intro same; rw [same] at terminal; revert terminal; decide)
      have length : (state.stages ++ [event]).length = 1 ↔ lines = [] := by
        rw [List.length_append, List.length_singleton, ← follows.empty, ← List.length_eq_zero_iff]
        omega
      unfold Stream.turn
      simp only [names, length, false_and, if_false]
      by_cases refuses : eventName event = "refused" ∧ lines = []
      · obtain ⟨refuses, rfl⟩ := refuses
        refine .inl ⟨event, rfl, rfl, refuses, ?_⟩
        rw [if_pos ⟨refuses, rfl⟩, follows.empty.mpr rfl]
        rfl
      refine .inr ?_
      rw [if_neg refuses]
      by_cases ended : eventName event = "end" ∧ state.started = true
      · rw [if_pos ended]
        exact ⟨_, rfl, follows.left_terminal (follows.accepted_of_started ended.2) names.1
          (fun _ => ended.2) (fun failed => absurd (ended.1.symm.trans failed) (by decide))
          (if_pos (.inl ⟨ended.1, follows.started.symm.trans ended.2⟩))⟩
      rw [if_neg ended]
      by_cases failed : (eventName event = "launch-failed" ∨ eventName event = "launch-unknown") ∧
          state.accepted = true ∧ (!state.started) = true
      · rw [if_pos failed]
        have waiting : state.started = false := by simpa using failed.2.2
        have placed : terminalOf lines (some (.event event)) = some event :=
          if_pos (.inr (.inl ⟨failed.1, follows.accepted.symm.trans failed.2.1,
            by rw [← follows.started]; exact failed.2.2⟩))
        refine ⟨_, rfl, follows.left_terminal failed.2.1 names.1 (fun ended => ?_)
          (fun _ => waiting) placed⟩
        rcases failed.1 with other | other
        · exact absurd (other.symm.trans ended) (by decide)
        · exact absurd (other.symm.trans ended) (by decide)
      rw [if_neg failed]
      by_cases unknown : (eventName event = "end-unknown" ∨ eventName event = "left-to-successor") ∧
          state.accepted = true
      · rw [if_pos unknown]
        have placed : terminalOf lines (some (.event event)) = some event :=
          if_pos (.inr (.inr ⟨unknown.1, follows.accepted.symm.trans unknown.2⟩))
        refine ⟨_, rfl, follows.left_terminal unknown.2 names.1 (fun ended => ?_)
          (fun failed => ?_) placed⟩
        · rcases unknown.1 with other | other
          · exact absurd (other.symm.trans ended) (by decide)
          · exact absurd (other.symm.trans ended) (by decide)
        · rcases unknown.1 with other | other
          · exact absurd (other.symm.trans failed) (by decide)
          · exact absurd (other.symm.trans failed) (by decide)
      rw [if_neg unknown, terminal]
      have staged : Staged (lines ++ (some (Line.event event)).toList) (state.stages ++ [event])
          state.outputStage := follows.staged.stage names.1
      refine ⟨_, rfl, follows.left_fault staged (if_neg ?_)⟩
      rw [← follows.started, ← follows.accepted]
      exact not_or.mpr ⟨ended, not_or.mpr ⟨failed, unknown⟩⟩

theorem Follows.walk {before : List Line} (follows : Follows before state) (lines : List Line)
    (silent : ∀ line ∈ before, endsReply line = false) :
    (∃ event rest, lines = .event event :: rest ∧ before = [] ∧ eventName event = "refused" ∧
      RootV1.walk Stream.turn state lines = .error (Stream.refusal event [event])) ∨
    ∃ next rest, lines = heard lines ++ (lines.find? endsReply).toList ++ rest ∧
      RootV1.walk Stream.turn state lines = .ok next ∧
      Left (before ++ heard lines) (lines.find? endsReply) next := by
  induction lines generalizing before state with
  | nil =>
      refine .inr ⟨state, [], rfl, rfl, ?_⟩
      rw [heard, List.takeWhile_nil, List.append_nil]
      exact follows.left none (congrArg spoken (List.append_nil _)) rfl
  | cons line lines ih =>
      rw [RootV1.walk]
      cases ends_ : endsReply line with
      | true =>
          have nothing : heard (line :: lines) = [] := by simp [heard, ends_]
          have found : (line :: lines).find? endsReply = some line := List.find?_cons_of_pos ends_
          rw [nothing, found, List.append_nil]
          rcases follows.ends ends_ with ⟨event, rfl, rfl, refuses, answers⟩ | ⟨next, leaves, left⟩
          · exact .inl ⟨event, lines, rfl, rfl, refuses, by rw [answers]⟩
          · exact .inr ⟨next, lines, rfl, by rw [leaves], left⟩
      | false =>
          have more : heard (line :: lines) = line :: heard lines := by simp [heard, ends_]
          have found : (line :: lines).find? endsReply = lines.find? endsReply :=
            List.find?_cons_of_neg (by simp [ends_])
          obtain ⟨next, goes, after⟩ := follows.goOn ends_
          rw [goes, more, found]
          have silent_after : ∀ other ∈ before ++ [line], endsReply other = false := by
            intro other inside
            rcases List.mem_append.mp inside with inside | inside
            · exact silent other inside
            · rw [List.mem_singleton.mp inside]
              exact ends_
          rcases ih after silent_after with ⟨_, _, _, none_, _⟩ | ⟨final, rest, split_, runs, left⟩
          · exact absurd none_ (by simp)
          · refine .inr ⟨final, rest, congrArg (line :: ·) split_, runs, ?_⟩
            rw [List.append_assoc] at left
            exact left

theorem walk_reply (lines : List Line) :
    (∃ event rest, lines = .event event :: rest ∧ eventName event = "refused" ∧
      walk Stream.turn {} lines = .error (Stream.refusal event [event])) ∨
    ∃ state rest, lines = heard lines ++ (lines.find? endsReply).toList ++ rest ∧
      walk Stream.turn {} lines = .ok state ∧ Left (heard lines) (lines.find? endsReply) state := by
  rcases follows_nothing.walk lines nofun with ⟨event, rest, split_, _, refuses, runs⟩ | left
  · exact .inl ⟨event, rest, split_, refuses, runs⟩
  · exact .inr left

end Turns

end RootV1

end AgentBash
