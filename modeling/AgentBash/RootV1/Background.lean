import AgentBash.RootV1.Decode

/-!
# What a background result establishes

The loop of `decode_async` looks at three lines at most. A result is a refusal, a proven no-start,
a running work or unknown; each of the first three says how the lines began.
-/

namespace AgentBash

set_option autoImplicit false

namespace RootV1

open Text

def Refuses (lines : List Line) : Prop :=
  ∃ event rest, lines = .event event :: rest ∧ eventName event = "refused"

/-- A background acceptance, as far as the reader looks at it. -/
def AcceptsAsync (accepted : Value) : Prop :=
  eventName accepted = "accepted" ∧ accepted.get "delivery" = .string "async"

/-- An acceptance directly followed by a proven no-start. -/
def NotStarted (lines : List Line) : Prop :=
  ∃ accepted failed rest, lines = .event accepted :: .event failed :: rest ∧
    eventName accepted = "accepted" ∧ eventName failed = "launch-failed" ∧
    failed.get "not_started" = .bool true

/-- An acceptance, a start without an exec error and a detachment of the same work. -/
structure Detaches (lines : List Line) (accepted started detached : Value) : Prop where
  lines_eq : ∃ rest, lines = .event accepted :: .event started :: .event detached :: rest
  accepts : AcceptsAsync accepted
  starts : eventName started = "started"
  no_exec_error : startedExecError started accepted = .ok none
  detaches : eventName detached = "detached"
  same_work : detached.get "work" = accepted.get "work"

/-- A positive work and a root that make a reference. -/
def Referable (accepted : Value) : Prop :=
  ∃ root work, (accepted.get "root_id").asStr = some root ∧
    (accepted.get "work").asI64 = some work ∧ 0 < work ∧
    (parseReference ("rv1w:".toList ++ root.toList ++ ':' :: signedDecimal work)).isSome

/-- What an owner that keeps the work says besides. -/
structure Vouches (accepted detached : Value) : Prop where
  durable : accepted.get "durable" = .bool true
  referable : Referable accepted
  owed : detached.get "completion" = .string "owed-to-requesting-harness"

/-- The outcome of a result and whether the command may have run. -/
structure Reports (result : Value) (outcome : String) (possible : Bool) : Prop where
  outcome : result.get "outcome" = .string outcome
  effects : result.get "effects_possible" = .bool possible
  retry : result.get "retry_safe" = .bool !possible

abbrev Unknown (result : Value) : Prop := Reports result "unknown" true

structure Sound (lines : List Line) (result : Value) : Prop where
  running : result.get "outcome" = .string "running" →
    (result.get "output").get "reference" ≠ .null ∧
    ∃ accepted started detached, Detaches lines accepted started detached ∧
      Vouches accepted detached
  effects : result.get "effects_possible" = .bool false → Refuses lines ∨ NotStarted lines
  retry : result.get "retry_safe" = .bool true → Refuses lines ∨ NotStarted lines
  otherwise : ¬ Refuses lines → ¬ NotStarted lines →
    (¬ ∃ accepted started detached, Detaches lines accepted started detached ∧
      Vouches accepted detached) → Unknown result

section Results

variable {state : Background} {sent : Bool} {outcome meaning : String} {effects : Bool}
  {faults : List String}

theorem reports_base : Reports (state.base sent outcome meaning effects faults) outcome effects where
  outcome := by rw [Background.base, Value.get_object]; rfl
  effects := by rw [Background.base, Value.get_object]; rfl
  retry := by rw [Background.base, Value.get_object]; rfl

theorem reports_refused {origin reason detail : String} :
    Reports (refused origin reason detail) "refused" false where
  outcome := by rw [refused, Value.get_object]; rfl
  effects := by rw [refused, Value.get_object]; rfl
  retry := by rw [refused, Value.get_object]; rfl

theorem get_set_other {result assigned : Value} {key wanted : String} (other : key ≠ wanted) :
    (result.set key assigned).get wanted = result.get wanted := by
  rw [Value.get_eq_field?, Value.field?_set_other other, ← Value.get_eq_field?]

theorem Reports.set {result assigned : Value} (reports : Reports result outcome effects) {key : String}
    (other : key ≠ "outcome" ∧ key ≠ "effects_possible" ∧ key ≠ "retry_safe") :
    Reports (result.set key assigned) outcome effects where
  outcome := (get_set_other other.1).trans reports.outcome
  effects := (get_set_other other.2.1).trans reports.effects
  retry := (get_set_other other.2.2).trans reports.retry

theorem reports_refusedAsync {event : Value} {stages : List Value} :
    Reports (refusedAsync event stages) "refused" false :=
  ((reports_refused.set (by decide)).set (by decide)).set (by decide)

/-- Without a detachment and without a terminal stage nothing is known. -/
theorem unknown_result (attached : state.detached = false) (open_ : state.terminal = none) :
    Unknown (state.result sent) := by
  rw [Background.result, attached, open_, if_neg (by simp)]
  simp only
  split
  · exact reports_base
  · exact reports_base

/-- What a run of the loop can come to. -/
inductive BackgroundOutcome (lines : List Line) (sent : Bool) : Value → Prop
  | refused {event rest} (lines_eq : lines = .event event :: rest)
      (refuses : eventName event = "refused") :
      BackgroundOutcome lines sent (refusedAsync event [event])
  | notStarted {accepted failed rest} (lines_eq : lines = .event accepted :: .event failed :: rest)
      (accepts : eventName accepted = "accepted") (fails : eventName failed = "launch-failed")
      (not_started : failed.get "not_started" = .bool true) :
      BackgroundOutcome lines sent
        (Background.base { stages := [accepted, failed], terminal := some failed } sent
          "not-started" "launch-refused-before-start" false [])
  | running {accepted started detached} (detaches : Detaches lines accepted started detached) :
      BackgroundOutcome lines sent
        (Background.result { stages := [accepted, started, detached], detached := true } sent)
  | unknown {result} (unknown : Unknown result) : BackgroundOutcome lines sent result

def afterTurn (sent : Bool) (lines : List Line) : Turn Background → Value
  | .goOn state => conclude (fun state => state.result sent) (walk backgroundTurn state lines)
  | .leave state => state.result sent
  | .answer result => result

theorem conclude_cons (line : Line) (lines : List Line) :
    conclude (fun state => state.result sent) (walk backgroundTurn state (line :: lines)) =
      afterTurn sent lines (backgroundTurn state line) := by
  rw [walk]
  cases backgroundTurn state line <;> rfl

variable {lines : List Line} {accepted started : Value}

theorem unknown_leave (attached : state.detached = false) (open_ : state.terminal = none) :
    Unknown (afterTurn sent lines (.leave state)) := unknown_result attached open_

theorem unknown_failed {error : String} (attached : state.detached = false)
    (open_ : state.terminal = none) :
    Unknown (afterTurn sent lines (backgroundTurn state (.failed error))) :=
  unknown_leave attached open_

theorem unknown_unparseable (attached : state.detached = false) (open_ : state.terminal = none) :
    Unknown (afterTurn sent lines (backgroundTurn state .unparseable)) :=
  unknown_leave attached open_

theorem unknown_end (attached : state.detached = false) (open_ : state.terminal = none) :
    Unknown (conclude (fun state => state.result sent) (walk backgroundTurn state [])) :=
  unknown_result attached open_

theorem outcome_third (accepts : AcceptsAsync accepted) (starts : eventName started = "started")
    {error : Option String} (reads : startedExecError started accepted = .ok error) :
    BackgroundOutcome (.event accepted :: .event started :: lines) sent
      (conclude (fun state => state.result sent)
        (walk backgroundTurn { stages := [accepted, started], execError := error } lines)) := by
  cases lines with
  | nil => exact .unknown (unknown_end rfl rfl)
  | cons line lines =>
      rw [conclude_cons]
      cases line with
      | failed error => exact .unknown (unknown_failed rfl rfl)
      | unparseable => exact .unknown (unknown_unparseable rfl rfl)
      | event detached =>
          simp only [backgroundTurn, List.length_append, List.length_cons, List.length_nil]
          rw [if_neg (by simp), if_neg (by simp), if_neg (by simp)]
          split
          · next detaches =>
            cases error with
            | none =>
                exact .running ⟨⟨lines, rfl⟩, accepts, starts, reads, detaches.1, detaches.2.2.1⟩
            | some error =>
                refine .unknown ?_
                rw [afterTurn, Background.result, if_pos ⟨rfl, rfl⟩]
                exact reports_base.set (by decide)
          · rw [if_neg (by simp)]
            exact .unknown (unknown_leave rfl rfl)

theorem outcome_second (accepts : AcceptsAsync accepted) :
    BackgroundOutcome (.event accepted :: lines) sent
      (conclude (fun state => state.result sent)
        (walk backgroundTurn { stages := [accepted] } lines)) := by
  cases lines with
  | nil => exact .unknown (unknown_end rfl rfl)
  | cons line lines =>
      rw [conclude_cons]
      cases line with
      | failed error => exact .unknown (unknown_failed rfl rfl)
      | unparseable => exact .unknown (unknown_unparseable rfl rfl)
      | event second =>
          simp only [backgroundTurn, List.length_append, List.length_cons, List.length_nil]
          rw [if_neg (by simp), if_neg (by simp)]
          split
          · next starts =>
            cases reads : startedExecError second accepted with
            | ok error =>
                have same : startedExecError second (([accepted] ++ [second]).headD .null) =
                    .ok error := reads
                rw [same]
                exact outcome_third accepts starts.1 reads
            | error text =>
                have same : startedExecError second (([accepted] ++ [second]).headD .null) =
                    .error text := reads
                rw [same]
                exact .unknown (unknown_leave rfl rfl)
          · rw [if_neg (by simp)]
            split
            · next launch =>
              by_cases proven : second.get "event" = .string "launch-failed" ∧
                  second.get "not_started" = .bool true
              · have fails : eventName second = "launch-failed" := by
                  rw [eventName, proven.1]
                  rfl
                have result : afterTurn sent lines (.leave
                    { stages := [accepted] ++ [second], terminal := some second }) =
                    Background.base { stages := [accepted, second], terminal := some second } sent
                      "not-started" "launch-refused-before-start" false [] := by
                  rw [afterTurn, Background.result, if_neg (by simp)]
                  exact if_pos proven
                rw [result]
                exact .notStarted rfl accepts.1 fails proven.2
              · refine .unknown ?_
                rw [afterTurn, Background.result, if_neg (by simp)]
                simp only
                rw [if_neg proven]
                exact reports_base
            · exact .unknown (unknown_leave rfl rfl)

theorem decodeAsync_outcome (lines : List Line) (sent : Bool) :
    BackgroundOutcome lines sent (decodeAsync lines sent) := by
  unfold decodeAsync
  cases lines with
  | nil => exact .unknown (unknown_end rfl rfl)
  | cons line lines =>
      rw [conclude_cons]
      cases line with
      | failed error => exact .unknown (unknown_failed rfl rfl)
      | unparseable => exact .unknown (unknown_unparseable rfl rfl)
      | event first =>
          simp only [backgroundTurn, List.nil_append, List.length_cons, List.length_nil]
          split
          · next refuses => exact .refused rfl refuses.1
          · split
            · next accepts => exact outcome_second ⟨accepts.1, accepts.2.2⟩
            · rw [if_neg (by simp), if_neg (by simp), if_neg (by simp)]
              exact .unknown (unknown_leave rfl rfl)

end Results

section Reading

instance (accepted : Value) : Decidable (AcceptsAsync accepted) :=
  inferInstanceAs (Decidable (_ ∧ _))

/-- The line after a start is the last one that is looked at. -/
def thirdRead : List Line → List Value
  | .event third :: _ => [third]
  | _ => []

def secondRead (accepted : Value) : List Line → List Value
  | .event second :: lines =>
      second ::
        if eventName second = "started" ∧ (startedExecError second accepted).isOk then thirdRead lines
        else []
  | _ => []

/-- The stages that the reader of a background reply looks at. -/
def stagesRead : List Line → List Value
  | .event first :: lines => first :: if AcceptsAsync first then secondRead first lines else []
  | _ => []

/-- What the loop found in a reply that is no refusal. -/
structure FoundIn (lines : List Line) (state : Background) : Prop where
  stages : state.stages = stagesRead lines
  detached : state.detached = true → state.execError = none →
    ∃ accepted started detached, Detaches lines accepted started detached

variable {lines : List Line} {first second : Value}

theorem third_turn (accepts : AcceptsAsync first) (starts : eventName second = "started")
    {error : Option String} (reads : startedExecError second first = .ok error) :
    ∃ state, walk backgroundTurn { stages := [first, second], execError := error } lines =
        .ok state ∧ FoundIn (.event first :: .event second :: lines) state := by
  have more : stagesRead (.event first :: .event second :: lines) =
      first :: second :: thirdRead lines := by
    simp [stagesRead, secondRead, accepts, starts, reads, Except.isOk, Except.toBool]
  cases lines with
  | nil => exact ⟨_, rfl, more.symm, nofun⟩
  | cons line lines =>
      rw [walk]
      cases line with
      | failed error => exact ⟨_, rfl, more.symm, nofun⟩
      | unparseable => exact ⟨_, rfl, more.symm, nofun⟩
      | event third =>
          unfold backgroundTurn
          simp only
          rw [if_neg (by simp), if_neg (by simp), if_neg (by simp)]
          by_cases detaches : eventName third = "detached" ∧ ([first, second] ++ [third]).length = 3 ∧
              third.get "work" = (([first, second] ++ [third]).headD .null).get "work" ∧
              (error = none ∨ third.get "completion" = .string "owed-to-requesting-harness")
          · rw [if_pos detaches]
            refine ⟨_, rfl, more.symm, fun _ none_ => ?_⟩
            have no_error : error = none := none_
            rw [no_error] at reads
            exact ⟨first, second, third, ⟨lines, rfl⟩, accepts, starts, reads, detaches.1,
              detaches.2.2.1⟩
          · rw [if_neg detaches, if_neg (by simp)]
            exact ⟨_, rfl, more.symm, nofun⟩

theorem second_turn (accepts : AcceptsAsync first) :
    ∃ state, walk backgroundTurn { stages := [first] } lines = .ok state ∧
      FoundIn (.event first :: lines) state := by
  have more : stagesRead (.event first :: lines) = first :: secondRead first lines := by
    rw [stagesRead, if_pos accepts]
  cases lines with
  | nil => exact ⟨_, rfl, more.symm, nofun⟩
  | cons line lines =>
      rw [walk]
      cases line with
      | failed error => exact ⟨_, rfl, more.symm, nofun⟩
      | unparseable => exact ⟨_, rfl, more.symm, nofun⟩
      | event second =>
          unfold backgroundTurn
          simp only
          rw [if_neg (by simp), if_neg (by simp)]
          by_cases starts : eventName second = "started"
          · have head : ([first] ++ [second]).headD .null = first := rfl
            rw [if_pos ⟨starts, rfl⟩, head]
            cases reads : startedExecError second first with
            | ok error => exact third_turn accepts starts reads
            | error text =>
                refine ⟨_, rfl, ?_, nofun⟩
                rw [more, secondRead, if_neg]
                · rfl
                · rw [reads]
                  exact fun both => nomatch both.2
          · have last : secondRead first (.event second :: lines) = [second] := by
              rw [secondRead, if_neg fun both => starts both.1]
            rw [last] at more
            rw [if_neg fun both => starts both.1, if_neg (by simp)]
            by_cases launch : (eventName second = "launch-failed" ∨ eventName second = "launch-unknown") ∧
                ([first] ++ [second]).length = 2
            · rw [if_pos launch]
              exact ⟨_, rfl, more.symm, nofun⟩
            · rw [if_neg launch]
              exact ⟨_, rfl, more.symm, nofun⟩

theorem walk_background (lines : List Line) :
    (∃ event rest, lines = .event event :: rest ∧ eventName event = "refused" ∧
      walk backgroundTurn {} lines = .error (refusedAsync event [event])) ∨
    ∃ state, walk backgroundTurn {} lines = .ok state ∧ FoundIn lines state := by
  cases lines with
  | nil => exact .inr ⟨_, rfl, rfl, nofun⟩
  | cons line lines =>
      rw [walk]
      cases line with
      | failed error => exact .inr ⟨_, rfl, rfl, nofun⟩
      | unparseable => exact .inr ⟨_, rfl, rfl, nofun⟩
      | event first =>
          unfold backgroundTurn
          simp only
          by_cases refuses : eventName first = "refused"
          · rw [if_pos ⟨refuses, rfl⟩]
            exact .inl ⟨first, lines, rfl, refuses, rfl⟩
          · rw [if_neg fun both => refuses both.1]
            by_cases accepts : AcceptsAsync first
            · rw [if_pos ⟨accepts.1, rfl, accepts.2⟩]
              exact .inr (second_turn accepts)
            · rw [if_neg fun async => accepts ⟨async.1, async.2.2⟩, if_neg (by simp),
                if_neg (by simp), if_neg (by simp)]
              refine .inr ⟨_, rfl, ?_, nofun⟩
              rw [stagesRead, if_neg accepts]
              rfl

end Reading

section Soundness

variable {lines : List Line} {sent : Bool} {accepted started detached event : Value}

theorem referenceOf_referable {stages : List Value} (referable : Referable accepted) :
    optional (referenceOf (accepted :: stages)) ≠ .null := by
  obtain ⟨root, work, names, works, _, parses⟩ := referable
  obtain ⟨parsed, parses⟩ := Option.isSome_iff_exists.mp parses
  simp only [referenceOf, List.head?_cons, Option.bind_eq_bind, Option.bind_some, names, works,
    parses, Option.map_some]
  exact nofun

/-- The lines of a detachment are read as one, whatever the owner vouches for. -/
theorem decodeAsync_detaches (detaches : Detaches lines accepted started detached) :
    decodeAsync lines sent =
      Background.result { stages := [accepted, started, detached], detached := true } sent := by
  obtain ⟨⟨rest, rfl⟩, accepts, starts, reads, names, same⟩ := detaches
  have first : backgroundTurn {} (.event accepted) = .goOn { stages := [accepted] } := by
    simp [backgroundTurn, accepts.1, accepts.2]
  have second : backgroundTurn { stages := [accepted] } (.event started) =
      .goOn { stages := [accepted, started] } := by
    simp [backgroundTurn, starts, reads]
  have third : backgroundTurn { stages := [accepted, started] } (.event detached) =
      .leave { stages := [accepted, started, detached], detached := true } := by
    simp [backgroundTurn, names, same]
  rw [decodeAsync, walk, first]
  simp only
  rw [walk, second]
  simp only
  rw [walk, third]
  rfl

theorem running_eq :
    Background.result { stages := [accepted, started, detached], detached := true } sent =
      (Background.base { stages := [accepted, started, detached], detached := true } sent "running"
        "accepted-and-started; end, wait and output owed to the requesting harness as a later input"
        true []).set "completion" (.object [("delivery", .string "owed-to-requesting-harness"),
          ("work", accepted.get "work"), ("root_id", accepted.get "root_id")]) := by
  rw [Background.result, if_pos ⟨rfl, rfl⟩]
  rfl

theorem reports_running :
    Reports (Background.result { stages := [accepted, started, detached], detached := true } sent)
      "running" true :=
  running_eq ▸ reports_base.set (by decide)

theorem running_reference :
    ((Background.result { stages := [accepted, started, detached], detached := true } sent).get
      "output").get "reference" = optional (referenceOf [accepted, started, detached]) := by
  rw [running_eq, get_set_other (by decide), Background.base, Value.get_object]
  exact Value.get_object _

theorem Detaches.unique (detaches : Detaches lines accepted started detached)
    {accepted' started' detached' : Value} (also : Detaches lines accepted' started' detached') :
    accepted = accepted' ∧ detached = detached' := by
  obtain ⟨rest, lines_eq⟩ := detaches.lines_eq
  obtain ⟨rest', also_eq⟩ := also.lines_eq
  have same := lines_eq.symm.trans also_eq
  simp only [List.cons.injEq, Line.event.injEq] at same
  exact ⟨same.1, same.2.2.1⟩

theorem Sound.declined {result : Value} {outcome : String} (reports : Reports result outcome false)
    (other : outcome ≠ "running") (reason : Refuses lines ∨ NotStarted lines) :
    Sound lines result where
  running running := absurd (Value.string.inj (reports.outcome.symm.trans running)) other
  effects _ := reason
  retry _ := reason
  otherwise refuses starts := absurd reason (not_or.mpr ⟨refuses, starts⟩)

theorem Sound.unknown {result : Value} (unknown : Unknown result) : Sound lines result where
  running running := absurd (unknown.outcome.symm.trans running) (by decide)
  effects none_ := absurd (unknown.effects.symm.trans none_) (by decide)
  retry safe := absurd (unknown.retry.symm.trans safe) (by decide)
  otherwise _ _ _ := unknown

/-- A background result is sound exactly when an owner that detaches a started work also vouches for
it: the acceptance is durable and has a reference, and the completion is said to be owed. -/
theorem background_sound_iff (lines : List Line) (sent : Bool) :
    Sound lines (decodeAsync lines sent) ↔
      ∀ accepted started detached, Detaches lines accepted started detached →
        Vouches accepted detached := by
  constructor
  · intro sound accepted started detached detaches
    have running : (decodeAsync lines sent).get "outcome" = .string "running" := by
      rw [decodeAsync_detaches detaches]
      exact reports_running.outcome
    obtain ⟨_, accepted', started', detached', also, vouches⟩ := sound.running running
    obtain ⟨same, also_same⟩ := detaches.unique also
    exact same ▸ also_same ▸ vouches
  · intro vouches
    have outcome := decodeAsync_outcome lines sent
    generalize decodeAsync lines sent = result at outcome
    cases outcome with
    | refused lines_eq refuses =>
        exact .declined reports_refusedAsync (by decide) (.inl ⟨_, _, lines_eq, refuses⟩)
    | notStarted lines_eq accepts fails not_started =>
        exact .declined reports_base (by decide)
          (.inr ⟨_, _, _, lines_eq, accepts, fails, not_started⟩)
    | running detaches =>
        have stands := vouches _ _ _ detaches
        refine ⟨fun _ => ⟨?_, _, _, _, detaches, stands⟩, ?_, ?_, ?_⟩
        · rw [running_reference]
          exact referenceOf_referable stands.referable
        · exact fun none_ => absurd (reports_running.effects.symm.trans none_) (by decide)
        · exact fun safe => absurd (reports_running.retry.symm.trans safe) (by decide)
        · exact fun _ _ detached => absurd ⟨_, _, _, detaches, stands⟩ detached
    | unknown unknown => exact .unknown unknown

end Soundness

/-- A background acceptance that is neither durable nor has a work. -/
def bareReply : List Line := [
  .event (.object [("event", .string "accepted"), ("delivery", .string "async")]),
  .event (.object [("event", .string "started")]),
  .event (.object [("event", .string "detached")])]

theorem background_unsound : ¬ Sound bareReply (decodeAsync bareReply true) := by
  intro sound
  have running : (decodeAsync bareReply true).get "outcome" = .string "running" := by decide
  exact (sound.running running).1 (by decide)

end RootV1

end AgentBash
