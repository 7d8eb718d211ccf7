import AgentBash.RootV1.Background
import AgentBash.RootV1.Hearing
import Mathlib.Data.List.Forall2

/-!
# What a foreground result establishes

The result of `decode` says that nothing ran, how the work ended, that its output is complete, what
was presented of it and what the owner retains. Each of these is traced back to the lines.
-/

namespace AgentBash

set_option autoImplicit false

namespace RootV1

open Text

/-- The bytes that were streamed before the reply ended. -/
def streamed (lines : List Line) : Bytes := streamOf (heard lines)

/-- An acceptance, directly a start and, in some way later, an end with a usable status. -/
def Waited (lines : List Line) (wait : Value) : Prop :=
  ∃ accepted started between ending rest status exit_,
    lines = .event accepted :: .event started :: between ++ .event ending :: rest ∧
    eventName accepted = "accepted" ∧ eventName started = "started" ∧ eventName ending = "end" ∧
    ending.get "status" = .string status ∧ waitStatus status = some exit_ ∧
    ending.get "observer" = .string "work-pid1-wait" ∧
    wait = .object [("status", .string status), ("observer", .string "work-pid1-wait"),
      ("exit", exit_)]

/-- Nothing but valid chunks between the start and the closure, the end directly after it, and
three counts that agree. -/
def FullyHeard (lines : List Line) : Prop :=
  ∃ accepted started outputs chunks closed ending rest,
    lines = .event accepted :: .event started :: outputs.map .event ++
      .event closed :: .event ending :: rest ∧
    eventName accepted = "accepted" ∧ eventName started = "started" ∧
    List.Forall₂ (fun event chunk => eventName event = "output" ∧
      (event.get "b64").asStr.bind unbase64 = some chunk) outputs chunks ∧
    eventName closed = "output-closed" ∧ eventName ending = "end" ∧
    (closed.get "bytes").asU64 = some (chunks.map List.length).sum ∧
    (ending.get "output").get "state" = .string "closed" ∧
    ((ending.get "output").get "bytes").asU64 = some (chunks.map List.length).sum

/-- What is presented is the start of the stream; in a truncated one a character that is cut goes
with the rest. -/
def Presents (lines : List Line) (output : Value) : Prop :=
  ∃ (presented cut : Bytes) (omitted : Nat),
    output.get "base64" = .string (base64 presented) ∧
    output.get "presented_bytes" = .number presented.length ∧
    output.get "omitted_bytes" = .number omitted ∧
    output.get "bytes" = .number (streamed lines).length ∧
    presented.length + omitted = (streamed lines).length ∧
    (streamed lines).take outputPrefixBytes = presented ++ cut ∧
    (cut = [] ∨ presented.length + cut.length < (streamed lines).length ∧ IncompleteChar cut)

/-- A complete record names the accepted work canonically and matches the stream. -/
def Retains [Codec] (lines : List Line) (record : Value) : Prop :=
  ∃ accepted rest identity, lines = .event accepted :: rest ∧ eventName accepted = "accepted" ∧
    parseIdentity identity.render = some identity ∧
    record.get "identity" = .string (.ofList identity.render) ∧
    record.get "root_id" = .string identity.root ∧ record.get "work" = .number identity.work ∧
    record.get "bytes" = .number identity.bytes ∧ record.get "sha256" = .string identity.sha256 ∧
    accepted.get "root_id" = record.get "root_id" ∧ accepted.get "work" = record.get "work" ∧
    (record.get "received").asU64 = some (streamed lines).length ∧
    (record.get "bytes").asU64 = some (streamed lines).length ∧
    record.get "sha256" = .string (Codec.sha256 (streamed lines))

structure ForegroundSound [Codec] (lines : List Line) (result : Value) : Prop where
  effects : result.get "effects_possible" = .bool false → Refuses lines ∨ NotStarted lines
  wait : result.get "wait" ≠ .null → Waited lines (result.get "wait")
  delivery : ((result.get "output").get "delivery" = .string "complete" ∨
    (result.get "output").get "delivery" = .string "partial") → FullyHeard lines
  presented : Presents lines (result.get "output") ∨
    result.get "output" = noOutput ∧ (Refuses lines ∨ NotStarted lines)
  retained : ((result.get "output").get "retained").get "state" = .string "complete" →
    Retains lines ((result.get "output").get "retained")

section Shapes

variable {lines : List Line} {chunks : List Bytes} {last : Option Line} {state : Stream}

/-- A stream that is open and without fault: an acceptance, a start and valid chunks. -/
theorem Clean.open_shape (clean : Clean lines chunks) (begun : startedIn lines = true)
    (unclosed : closedIn lines = false) :
    ∃ accepted started outputs, lines = .event accepted :: .event started :: outputs.map .event ∧
      eventName accepted = "accepted" ∧ eventName started = "started" ∧
      List.Forall₂ (fun event chunk => eventName event = "output" ∧
        (event.get "b64").asStr.bind unbase64 = some chunk) outputs chunks := by
  induction clean with
  | nothing => cases begun
  | accepted accepts => simp [startedIn, isStage_event, accepts] at begun
  | started accepts starts => exact ⟨_, _, [], rfl, accepts, starts, .nil⟩
  | @chunk lines chunks event chunk _ open_ still outputs decodes ih =>
      obtain ⟨accepted, started, events, rfl, accepts, starts, decoded⟩ := ih open_ still
      refine ⟨accepted, started, events ++ [event], by simp, accepts, starts, ?_⟩
      exact List.rel_append decoded (.cons ⟨outputs, decodes⟩ .nil)
  | closed _ open_ _ closes _ _ =>
      have is_closure := decide_eq_true closes
      rw [closedIn_append, open_, isStage_event, is_closure, Bool.true_and, Bool.or_true] at unclosed
      cases unclosed

theorem Clean.closed_shape (clean : Clean lines chunks) (closed : closedIn lines = true) :
    ∃ accepted started outputs closing,
      lines = .event accepted :: .event started :: outputs.map .event ++ [.event closing] ∧
      eventName accepted = "accepted" ∧ eventName started = "started" ∧
      List.Forall₂ (fun event chunk => eventName event = "output" ∧
        (event.get "b64").asStr.bind unbase64 = some chunk) outputs chunks ∧
      eventName closing = "output-closed" ∧
      (closing.get "bytes").asU64 = some chunks.flatten.length := by
  cases clean with
  | nothing => cases closed
  | accepted accepts => simp [closedIn, isStage_event, accepts] at closed
  | started accepts starts => simp [closedIn, isStage_event, accepts, starts] at closed
  | chunk clean open_ unclosed outputs decodes =>
      rw [(flags_output _ outputs).2.2, unclosed] at closed
      cases closed
  | closed clean open_ unclosed closes counts =>
      obtain ⟨accepted, started, events, rfl, accepts, starts, decoded⟩ :=
        clean.open_shape open_ unclosed
      exact ⟨accepted, started, events, _, rfl, accepts, starts, decoded, closes, counts⟩

theorem parseIdentity_render {text : List Char} {identity : OutputIdentity}
    (parses : parseIdentity text = some identity) : identity.render = text := by
  unfold parseIdentity at parses
  split at parses
  · split at parses
    · cases parses
    · simp only [Option.bind_eq_bind, Option.bind_eq_some_iff] at parses
      obtain ⟨work, _, bytes, _, parses⟩ := parses
      split at parses
      · cases parses
      · split at parses
        · next same => exact Option.some.inj parses ▸ same
        · cases parses
  · cases parses

end Shapes

section Results

variable {lines more : List Line} {last : Option Line} {state : Stream}

theorem Left.presents_taken (left : Left lines last state) :
    ∃ cut, (streamOf lines).take outputPrefixBytes = state.presented ++ cut ∧
      (cut = [] ∨ state.presented.length + cut.length < (streamOf lines).length ∧
        IncompleteChar cut) := by
  have output : state.output = (streamOf lines).take outputPrefixBytes :=
    left.output.trans (congrArg (List.take outputPrefixBytes) left.streamed)
  have bytes : state.bytes = (streamOf lines).length :=
    left.bytes.trans (congrArg List.length left.streamed)
  have whole : (streamOf lines).take outputPrefixBytes = state.output ++ [] :=
    output.symm.trans (List.append_nil _).symm
  rw [Stream.presented]
  split
  · next truncated =>
    split
    · next stopped ran_out =>
      obtain ⟨inside, incomplete⟩ := fromUtf8_ran_out ran_out
      refine ⟨state.output.drop stopped, ?_, .inr ⟨?_, incomplete⟩⟩
      · rw [List.take_append_drop, output]
      · rw [← List.length_append, List.take_append_drop, ← bytes]
        exact truncated
    · exact ⟨[], whole, .inl rfl⟩
  · exact ⟨[], whole, .inl rfl⟩

theorem Left.omitted (left : Left lines last state) :
    state.presented.length + state.omitted = (streamOf lines).length := by
  obtain ⟨cut, taken, _⟩ := left.presents_taken
  have length := congrArg List.length taken
  have bytes : state.bytes = (streamOf lines).length :=
    left.bytes.trans (congrArg List.length left.streamed)
  rw [List.length_append, List.length_take] at length
  rw [Stream.omitted, bytes]
  omega

variable [Codec]

theorem presents_presentation (left : Left (heard lines) last state) (delivery : String) :
    Presents lines (state.presentation delivery) := by
  obtain ⟨cut, taken, complete⟩ := left.presents_taken
  refine ⟨state.presented, cut, state.omitted, ?_, ?_, ?_, ?_, left.omitted, taken, complete⟩
  · rw [Stream.presentation, Value.get_object]
    rfl
  · rw [Stream.presentation, Value.get_object]
    rfl
  · rw [Stream.presentation, Value.get_object]
    rfl
  · rw [Stream.presentation, Value.get_object, streamed, ← left.streamed, ← left.bytes]
    rfl

omit [Codec] in
theorem validRecord_true {record : Value} (valid : validRecord record = true) :
    ∃ text identity, record.get "identity" = .string text ∧
      parseIdentity text.toList = some identity ∧ record.get "root_id" = .string identity.root ∧
      record.get "work" = .number identity.work ∧ record.get "bytes" = .number identity.bytes ∧
      record.get "sha256" = .string identity.sha256 ∧
      (record.get "state" = .string "complete" ∨ record.get "state" = .string "partial") := by
  unfold validRecord at valid
  split at valid
  · cases valid
  · next identity parses =>
    obtain ⟨text, is_text, parses⟩ := Option.bind_eq_some_iff.mp parses
    simp only [Bool.and_eq_true, Bool.or_eq_true, decide_eq_true_eq] at valid
    exact ⟨text, identity, string_of_asStr is_text, parses, valid.1.1.1.1.1, valid.1.1.1.1.2,
      valid.1.1.1.2, valid.1.1.2, valid.1.2⟩

/-- A record that is shown as complete is the owner's own and passed every check. -/
theorem retained_complete (complete : state.retained.1.get "state" = .string "complete") :
    ∃ ending first, state.terminal = some ending ∧ state.retained.1 = ending.get "retained" ∧
      validRecord (ending.get "retained") = true ∧ state.stages.head? = some first ∧
      first.get "work" = (ending.get "retained").get "work" ∧
      first.get "root_id" = (ending.get "retained").get "root_id" ∧
      ((ending.get "retained").get "received").asU64 = some state.bytes ∧
      ((ending.get "retained").get "bytes").asU64 = some state.bytes ∧
      (ending.get "retained").get "sha256" = .string (Codec.sha256 state.streamed) := by
  unfold Stream.retained at complete ⊢
  split at complete
  · rw [Value.get_object] at complete
    exact absurd complete (by decide)
  · next kept =>
    rw [if_neg kept]
    have present : state.ownRecord ≠ .null := by
      intro absent
      rw [absent] at complete
      exact absurd complete (by decide)
    have holds : state.recordHolds state.ownRecord = true := by
      by_contra fails
      refine kept ⟨present, fun unsealed => ?_, by simpa using fails⟩
      exact absurd (unsealed.symm.trans complete) (by decide)
    obtain ⟨ending, stands⟩ : ∃ ending, state.terminal = some ending := by
      cases none_ : state.terminal with
      | none => exact absurd (by rw [Stream.ownRecord, none_]; rfl) present
      | some ending => exact ⟨ending, rfl⟩
    have own : state.ownRecord = ending.get "retained" := by
      rw [Stream.ownRecord, stands]
      rfl
    rw [own] at holds complete
    simp only [Stream.recordHolds, Bool.and_eq_true, Bool.or_eq_true, decide_eq_true_eq, complete,
      ne_eq, not_true_eq_false, false_or, Option.any_eq_true] at holds
    obtain ⟨⟨valid, first, head, work, root⟩, ⟨received, bytes⟩, sha256⟩ := holds
    exact ⟨ending, first, stands, own, valid, head, work, root, received, bytes, sha256⟩

theorem retains_presentation (left : Left (heard lines) last state)
    (split_ : lines = heard lines ++ more) {delivery : String}
    (complete : ((state.presentation delivery).get "retained").get "state" = .string "complete") :
    Retains lines ((state.presentation delivery).get "retained") := by
  have shown : (state.presentation delivery).get "retained" = state.retained.1 := by
    rw [Stream.presentation, Value.get_object]
    rfl
  rw [shown] at complete ⊢
  obtain ⟨ending, first, stands, own, valid, head, work, root, received, bytes, sha256⟩ :=
    retained_complete complete
  obtain ⟨text, identity, names, parses, roots, works, sized, hashed, _⟩ := validRecord_true valid
  obtain ⟨_, _, _, accepted, rest, accepts_eq, accepts, also_head⟩ := left.ending ending stands
  have same : first = accepted := Option.some.inj (head.symm.trans also_head)
  have canonical := parseIdentity_render parses
  have total : state.bytes = (streamed lines).length :=
    left.bytes.trans (congrArg List.length left.streamed)
  rw [own]
  refine ⟨accepted, rest ++ more, identity, ?_, accepts, canonical ▸ parses, ?_, roots, works, sized,
    hashed, same ▸ root, same ▸ work, total ▸ received, total ▸ bytes, ?_⟩
  · rw [split_, accepts_eq]
    rfl
  · rw [canonical, String.ofList_toList]
    exact names
  · rw [sha256, left.streamed]
    rfl

theorem presentation_delivery {delivery : String} :
    (state.presentation delivery).get "delivery" = .string delivery := by
  rw [Stream.presentation, Value.get_object]
  rfl

theorem reports_unknown {sent : Bool} {meaning delivery : String} {faults : List String} :
    Unknown (state.unknown sent meaning faults delivery) where
  outcome := by rw [Stream.unknown, Value.get_object]; rfl
  effects := by rw [Stream.unknown, Value.get_object]; rfl
  retry := by rw [Stream.unknown, Value.get_object]; rfl

theorem ForegroundSound.unknown (left : Left (heard lines) last state)
    (split_ : lines = heard lines ++ more) (sent : Bool) (meaning : String) (faults : List String) :
    ForegroundSound lines (state.unknown sent meaning faults "unproven") := by
  have output : (state.unknown sent meaning faults "unproven").get "output" =
      state.presentation "unproven" := by
    rw [Stream.unknown, Value.get_object]
    generalize state.presentation "unproven" = shown
    rfl
  refine ⟨fun none_ => ?_, fun some_ => ?_, fun delivered => ?_, ?_, fun complete => ?_⟩
  · exact absurd (reports_unknown.effects.symm.trans none_) (by decide)
  · rw [Stream.unknown, Value.get_object] at some_
    exact absurd rfl some_
  · rw [output, presentation_delivery] at delivered
    exact absurd delivered (by decide)
  · rw [output]
    exact .inl (presents_presentation left _)
  · rw [output] at complete ⊢
    exact retains_presentation left split_ complete

theorem ForegroundSound.declined {result : Value} (output : result.get "output" = noOutput)
    (wait : result.get "wait" = .null) (reason : Refuses lines ∨ NotStarted lines) :
    ForegroundSound lines result := by
  refine ⟨fun _ => reason, fun some_ => absurd wait some_, fun delivered => ?_,
    .inr ⟨output, reason⟩, fun complete => ?_⟩
  · rw [output] at delivered
    exact absurd delivered (by decide)
  · rw [output] at complete
    exact absurd complete (by decide)

omit [Codec] in
/-- Without an order at fault a started work was started directly after its acceptance. -/
theorem Orderly.started_shape {before : List Line} (orderly : Orderly before)
    (begun : startedIn before = true) :
    ∃ accepted started between, before = .event accepted :: .event started :: between ∧
      eventName accepted = "accepted" ∧ eventName started = "started" := by
  cases orderly with
  | nothing => cases begun
  | accepted accepts => simp [startedIn, isStage_event, accepts] at begun
  | started accepts starts => exact ⟨_, _, _, rfl, accepts, starts⟩

theorem fullyHeard_complete {ending : Value} (left : Left (heard lines) last state)
    (split_ : lines = heard lines ++ .event ending :: more) (ends_ : eventName ending = "end")
    (complete : state.complete ending = true) : FullyHeard lines := by
  rw [Stream.complete, Bool.and_eq_true, List.isEmpty_iff] at complete
  obtain ⟨_, none_⟩ := complete
  unfold Stream.endFaults at none_
  simp only at none_
  split at none_
  · exact absurd none_ (by simp)
  · next stated =>
    rw [not_or, ne_eq, ne_eq, not_not, not_not] at stated
    split at none_
    · next closed =>
      have faultless : state.faults = [] := by
        unfold Stream.allFaults at none_
        split at none_
        · exact absurd none_ (by simp)
        · exact none_
      obtain ⟨chunks, clean, flat⟩ := left.clean faultless
      obtain ⟨accepted, started, outputs, closing, shape, accepts, starts, decoded, closes, counts⟩ :=
        clean.closed_shape (left.closed.symm.trans closed)
      have total : state.bytes = (chunks.map List.length).sum := by
        rw [left.bytes, left.streamed, ← flat, List.length_flatten]
      refine ⟨accepted, started, outputs, chunks, closing, ending, more, ?_, accepts, starts, decoded,
        closes, ends_, ?_, stated.1, total ▸ stated.2⟩
      · rw [shape] at split_
        rw [split_, List.append_assoc]
        rfl
      · rw [counts, List.length_flatten]
    · exact absurd none_ (by simp)

theorem ForegroundSound.ended {ending : Value} (left : Left (heard lines) last state)
    (split_ : lines = heard lines ++ .event ending :: more) (begun : startedIn (heard lines) = true)
    (orderly : Orderly (heard lines)) (ends_ : eventName ending = "end") {status : String}
    (is_status : ending.get "status" = .string status) {exit_ : Value}
    (waits : waitStatus status = some exit_)
    (observed : ending.get "observer" = .string "work-pid1-wait") :
    ForegroundSound lines (state.ended ending exit_ status "work-pid1-wait") := by
  have output : (state.ended ending exit_ status "work-pid1-wait").get "output" =
      state.presentation (if !state.complete ending then "unproven"
        else if state.omitted > 0 then "partial" else "complete") := by
    rw [Stream.ended, Value.get_object]
    rfl
  refine ⟨fun none_ => ?_, fun _ => ?_, fun delivered => ?_, ?_, fun complete => ?_⟩
  · have possible : (state.ended ending exit_ status "work-pid1-wait").get "effects_possible" =
        .bool true := by
      rw [Stream.ended, Value.get_object]
      rfl
    exact absurd (possible.symm.trans none_) (by decide)
  · obtain ⟨accepted, started, between, shape, accepts, starts⟩ := orderly.started_shape begun
    refine ⟨accepted, started, between, ending, more, status, exit_, ?_, accepts, starts, ends_,
      is_status, waits, observed, ?_⟩
    · exact split_.trans (congrArg (· ++ .event ending :: more) shape)
    · rw [Stream.ended, Value.get_object]
      rfl
  · rw [output, presentation_delivery] at delivered
    refine fullyHeard_complete left split_ ends_ ?_
    by_contra incomplete
    rw [if_pos (by simpa using incomplete)] at delivered
    exact absurd delivered (by decide)
  · rw [output]
    exact .inl (presents_presentation left _)
  · rw [output] at complete ⊢
    exact retains_presentation left split_ complete

omit [Codec] in
theorem Left.not_started {ending : Value} (left : Left (heard lines) last state)
    (split_ : lines = heard lines ++ last.toList ++ more) (stands : state.terminal = some ending)
    (order : Orderly (heard lines))
    (proven : eventName ending = "launch-failed" ∧ ending.get "not_started" = .bool true) :
    NotStarted lines := by
  obtain ⟨rfl, _, failed, accepted, rest, accepts_eq, accepts, _⟩ := left.ending ending stands
  have first : acceptedFirst (heard lines) = true := by
    rw [accepts_eq]
    exact decide_eq_true accepts
  obtain ⟨accepted, alone, accepts⟩ := order.waiting first (failed proven.1)
  refine ⟨accepted, ending, more, ?_, accepts, proven.1, proven.2⟩
  rw [split_, alone]
  rfl

theorem ForegroundSound.result (left : Left (heard lines) last state)
    (split_ : lines = heard lines ++ last.toList ++ more) (sent : Bool) :
    ForegroundSound lines (state.result sent) := by
  have behind : lines = heard lines ++ (last.toList ++ more) := by
    rw [← List.append_assoc]
    exact split_
  unfold Stream.result
  split
  · exact .unknown left behind sent _ _
  · next ending kept =>
    obtain ⟨stands, orderly⟩ := Option.filter_eq_some_iff.mp kept
    have order := left.order (by simpa using orderly)
    obtain ⟨rfl, ended, failed, accepted, rest, accepts_eq, accepts, _⟩ := left.ending ending stands
    have at_end : lines = heard lines ++ .event ending :: more := by
      rw [← List.singleton_append]
      exact behind
    simp only
    split
    · next ends_ =>
      split
      · next exit_ waits =>
        cases status : (ending.get "status").asStr with
        | none =>
            have useless : waitStatus "" = none := by decide
            rw [status] at waits
            cases useless.symm.trans waits
        | some text =>
            rw [status] at waits
            split
            · next observed =>
              rw [observed]
              refine .ended left at_end (ended ends_) order ends_ (string_of_asStr status) waits ?_
              cases words : (ending.get "observer").asStr with
              | none =>
                  rw [words] at observed
                  exact absurd observed (by decide)
              | some observer =>
                  rw [words] at observed
                  exact (string_of_asStr words).trans (congrArg Value.string observed)
            · exact .unknown left behind sent _ _
      · exact .unknown left behind sent _ _
    · split
      · next proven =>
        refine .declined ?_ ?_ (.inr (left.not_started split_ stands order proven))
        · rw [Stream.notStarted, Value.get_object]
          rfl
        · rw [Stream.notStarted, Value.get_object]
          rfl
      · exact .unknown left behind sent _ _

end Results

/-- Every foreground result is sound, whatever the lines are. -/
theorem decode_sound [Codec] (lines : List Line) (sent : Bool) :
    ForegroundSound lines (decode lines sent) := by
  rw [decode]
  rcases walk_reply lines with ⟨event, rest, lines_eq, refuses, runs⟩ |
    ⟨state, rest, split_, runs, left⟩
  · rw [runs]
    refine .declined ?_ ?_ (.inl ⟨event, rest, lines_eq, refuses⟩)
    · rw [conclude, Stream.refusal, Value.get_object]
      rfl
    · rw [conclude, Stream.refusal, Value.get_object]
      rfl
  · rw [runs]
    exact .result left split_ sent

end RootV1

end AgentBash
