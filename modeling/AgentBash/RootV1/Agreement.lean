import AgentBash.RootV1.Adapter
import AgentBash.RootV1.Foreground

/-!
# Where the producer and the adapter agree

The adapter checks every field of a result before it says anything, and then converts parts of it to
text. The checks hold for every foreground result; what can fail is a conversion of something that
the owner sent, and the reference of a background result that is running.
-/

namespace AgentBash

set_option autoImplicit false

namespace Adapter

open RootV1 Text

section Texts

theorem bind_ok_iff {α β : Type} {first : Except Threw α} {next : α → Except Threw β} {result : β} :
    (first >>= next) = .ok result ↔ ∃ value, first = .ok value ∧ next value = .ok result := by
  cases first with
  | error threw => exact ⟨nofun, fun ⟨_, fails, _⟩ => nomatch fails⟩
  | ok value =>
      constructor
      · intro succeeds
        exact ⟨value, rfl, succeeds⟩
      · rintro ⟨same, is_same, succeeds⟩
        cases is_same
        exact succeeds

theorem mapM_ok_iff {α β : Type} (f : α → Except Threw β) (values : List α) :
    (∃ results, values.mapM f = .ok results) ↔ ∀ value ∈ values, ∃ result, f value = .ok result := by
  induction values with
  | nil =>
      constructor
      · exact fun _ _ inside => absurd inside List.not_mem_nil
      · exact fun _ => ⟨[], rfl⟩
  | cons value values ih =>
      rw [List.forall_mem_cons, ← ih, List.mapM_cons]
      constructor
      · rintro ⟨results, succeeds⟩
        obtain ⟨first, gives, succeeds⟩ := bind_ok_iff.mp succeeds
        obtain ⟨rest, gives_rest, _⟩ := bind_ok_iff.mp succeeds
        exact ⟨⟨first, gives⟩, rest, gives_rest⟩
      · rintro ⟨⟨first, gives⟩, rest, gives_rest⟩
        refine ⟨first :: rest, ?_⟩
        rw [gives, gives_rest]
        rfl

theorem items_array (values : List Value) : items (.array values) = values := by
  induction values with
  | nil => rfl
  | cons value values ih => exact congrArg (value :: ·) ih

theorem isArray_array (values : List Value) : (Value.array values).isArray = true := by
  cases values <;> rfl

variable [NumberText]

def Shows (stage : Value) : Prop := ∃ text, rootV1Stage stage = .ok text

theorem rootV1Stages_ok_iff (stages : List Value) :
    (∃ text, rootV1Stages stages = .ok text) ↔ ∀ stage ∈ stages, Shows stage := by
  rw [← show _ ↔ ∀ stage ∈ stages, Shows stage from mapM_ok_iff rootV1Stage stages]
  constructor
  · rintro ⟨text, succeeds⟩
    obtain ⟨texts, gives, _⟩ := bind_ok_iff.mp succeeds
    exact ⟨texts, gives⟩
  · rintro ⟨texts, gives⟩
    exact ⟨_, bind_ok_iff.mpr ⟨texts, gives, rfl⟩⟩

theorem faultsText_strings (faults : List String) :
    ∃ text, faultsText (faults.map .string) = .ok text := by
  obtain ⟨texts, gives⟩ := (mapM_ok_iff (fun fault => if fault = .null then .ok "" else toText fault)
    (faults.map .string)).mpr fun fault inside => by
      obtain ⟨text, _, rfl⟩ := List.mem_map.mp inside
      exact ⟨text, rfl⟩
  exact ⟨_, bind_ok_iff.mpr ⟨texts, gives, rfl⟩⟩

/-- An object with a property named `toString` has no text, nor has a list that holds one. -/
def hasText : Value → Bool
  | .item value rest => hasText value && hasText rest
  | .field key value rest => ((Value.field key value rest).field? "toString").isNone
  | _ => true

omit [NumberText] in
theorem hasText_field (key : String) (value rest : Value) :
    hasText (.field key value rest) = ((Value.field key value rest).field? "toString").isNone := rfl

omit [NumberText] in
theorem bind_ok_exists {α β : Type} {first : Except Threw α} {next : α → Except Threw β}
    {more : Prop} (goes : ∀ value, (∃ result, next value = .ok result) ↔ more) :
    (∃ result, first >>= next = .ok result) ↔ (∃ value, first = .ok value) ∧ more := by
  constructor
  · rintro ⟨result, gives⟩
    obtain ⟨value, reads, gives⟩ := bind_ok_iff.mp gives
    exact ⟨⟨value, reads⟩, (goes value).mp ⟨result, gives⟩⟩
  · rintro ⟨⟨value, reads⟩, holds⟩
    obtain ⟨result, gives⟩ := (goes value).mpr holds
    exact ⟨result, bind_ok_iff.mpr ⟨value, reads, gives⟩⟩

theorem toText_ok_iff {value : Value} : (∃ text, toText value = .ok text) ↔ hasText value = true := by
  induction value with
  | item value rest first more =>
    have goes (front : String) : (∃ text, (do
        let behind ← toText rest
        pure (if rest = .nil then front else front ++ "," ++ behind)) =
          (.ok text : Except Threw String)) ↔ hasText rest = true :=
      (bind_ok_exists fun _ => iff_of_true ⟨_, rfl⟩ trivial).trans (by rw [and_true, more])
    rw [hasText, Bool.and_eq_true, toText]
    by_cases null : value = .null
    · subst null
      exact (goes "").trans (by simp [hasText])
    · rw [if_neg null]
      exact (bind_ok_exists goes).trans (by rw [first])
  | field key value rest _ _ =>
    rw [hasText_field, toText, ← Option.not_isSome, Bool.not_eq_true']
    split
    · next named => simp [named]
    · next unnamed => simp [unnamed]
  | _ => exact iff_of_true ⟨_, rfl⟩ rfl

theorem template_ok_iff {value : Option Value} :
    (∃ text, template value = .ok text) ↔ value.all hasText = true := by
  cases value with
  | none => exact iff_of_true ⟨_, rfl⟩ rfl
  | some value => exact toText_ok_iff

/-- The fields that the text of a stage with this name quotes. -/
def quotedFields (name : String) (stage : Value) : List (Option Value) :=
  if name = "accepted" then [stage.field? "work", stage.field? "durable"]
  else if name = "output-closed" then [stage.field? "bytes"]
  else if name = "end" then
    [stage.field? "status", stage.field? "observer", chain (stage.field? "output") "state"]
  else if name = "output" then [stage.field? "chunks", stage.field? "bytes"]
  else [stage.field? "reason"]

/-- The name of a stage has a text, and so has every field that is quoted with it. -/
def showsFields (stage : Value) : Bool :=
  match template (stage.field? "event") with
  | .error _ => false
  | .ok name => (quotedFields name stage).all (Option.all hasText)

omit [NumberText] in
theorem quotes_nil (text : String) : (∃ result, (pure text : Except Threw String) = .ok result) ↔
    ([] : List (Option Value)).all (Option.all hasText) = true :=
  iff_of_true ⟨_, rfl⟩ rfl

theorem quotes_cons {value : Option Value} {fields : List (Option Value)}
    {next : String → Except Threw String}
    (more : ∀ text, (∃ result, next text = .ok result) ↔
      fields.all (Option.all hasText) = true) :
    (∃ result, template value >>= next = .ok result) ↔
      (value :: fields).all (Option.all hasText) = true := by
  rw [List.all_cons, Bool.and_eq_true, bind_ok_exists more, template_ok_iff]

/-- A stage can be shown unless what is quoted of it holds an object with a property `toString`. -/
theorem shows_iff_fields (stage : Value) : Shows stage ↔ showsFields stage = true := by
  unfold Shows rootV1Stage showsFields
  cases named : template (stage.field? "event") with
  | error threw =>
    refine iff_of_false ?_ Bool.false_ne_true
    rintro ⟨text, gives⟩
    cases gives
  | ok name =>
    simp only [quotedFields]
    rw [show ∀ next : String → Except Threw String, (Except.ok name >>= next) = next name from
      fun _ => rfl]
    split_ifs
    · exact quotes_cons fun _ => quotes_cons fun _ => quotes_nil _
    · exact quotes_cons fun _ => quotes_nil _
    · exact quotes_cons fun _ => quotes_cons fun _ => quotes_cons fun _ => quotes_nil _
    · exact quotes_cons fun _ => quotes_cons fun _ => quotes_nil _
    · cases stage.field? "reason" with
      | none => exact iff_of_true ⟨_, rfl⟩ rfl
      | some reason => exact @quotes_cons _ (some reason) [] _ fun _ => quotes_nil _

theorem shows_chunkStage (count bytes : Nat) : Shows (Stream.chunkStage count bytes) :=
  ⟨_, rfl⟩

end Texts

structure Fields (value : Value) (mode : String) (branch : Branch) (stages : List Value)
    (faults : List String) : Prop where
  surface : value.field? "result_surface" = some (.string resultSurface)
  version : value.field? "version" = some (.number 1)
  mode : value.field? "delivery_mode" = some (.string mode)
  outcome : value.field? "outcome" = some (.string branch.outcome)
  effects : value.field? "effects_possible" = some (.bool branch.mayHaveRun)
  retry : value.field? "retry_safe" = some (.bool !branch.mayHaveRun)
  stages : value.field? "stages" = some (.array stages)
  faults : value.field? "faults" = some (.array (faults.map .string))

/-- An output whose bytes and counts fit together. -/
structure Carries (output : Value) : Prop where
  truthy : falsy (some output) = false
  base64 : ∃ bytes : Bytes, output.field? "base64" = some (.string (RootV1.base64 bytes))
  bytes : (safeInteger (output.field? "bytes")).isSome = true
  counts : lengthMismatch (some output) = false

section Checks

variable {value output : Value} {mode : String} {branch : Branch} {stages : List Value}
  {faults : List String}

theorem Branch.outcome_injective {one other : Branch} (same : one.outcome = other.outcome) :
    one = other := by
  cases one <;> cases other <;> first | rfl | exact absurd same (by decide)

theorem Fields.agrees_iff [NumberText] (fields : Fields value mode branch stages faults) :
    Agrees value ↔ answer value = .ok branch := by
  have outcome : value.get "outcome" = .string branch.outcome := by
    rw [Value.get_eq_field?, fields.outcome]
    rfl
  constructor
  · rintro ⟨other, answers, names, _⟩
    have same : other = branch :=
      Branch.outcome_injective (Value.string.inj (names.symm.trans outcome))
    rw [← same]
    exact answers
  · intro answers
    refine ⟨branch, answers, outcome, ?_, ?_⟩
    · rw [Value.get_eq_field?, fields.effects]
      rfl
    · rw [Value.get_eq_field?, fields.retry]
      rfl

theorem base64Shape_quad {a b c d : Char} {rest : List Char}
    (full : base64Character a ∧ base64Character b ∧ base64Character c ∧ base64Character d)
    (shaped : base64Shape rest = true) : base64Shape (a :: b :: c :: d :: rest) = true := by
  obtain ⟨one, two, three, four⟩ := full
  cases rest with
  | nil => simp [base64Shape, one, two, three, four]
  | cons e rest => simp [base64Shape, one, two, three, four, shaped]

theorem base64Character_symbol : ∀ index, index < 64 → base64Character (symbol index) = true := by
  decide +kernel

/-- What the producer encodes has the shape that the adapter asks for. -/
theorem base64Shape_base64Chars (bytes : Bytes) : base64Shape (base64Chars bytes) = true := by
  fun_induction base64Chars bytes with
  | case1 a b c rest ih =>
      obtain ⟨i, j, k, l, one, two, three, four, encodes, _⟩ := encodeChunk_full a b c
      rw [encodes]
      exact base64Shape_quad ⟨base64Character_symbol i one, base64Character_symbol j two,
        base64Character_symbol k three, base64Character_symbol l four⟩ ih
  | case2 => rfl
  | case3 chunk not_full some_ =>
      rcases chunk with _ | ⟨a, _ | ⟨b, _ | ⟨c, rest⟩⟩⟩
      · exact absurd rfl some_
      · obtain ⟨i, j, one, two, encodes, _⟩ := encodeChunk_one a
        rw [encodes]
        simp [base64Shape, base64Character_symbol i one, base64Character_symbol j two]
      · obtain ⟨i, j, k, one, two, three, encodes, _⟩ := encodeChunk_two a b
        rw [encodes]
        simp [base64Shape, base64Character_symbol i one, base64Character_symbol j two,
          base64Character_symbol k three]
      · exact absurd rfl (not_full a b c rest)

theorem bufferFrom_base64 (bytes : Bytes) : bufferFrom (RootV1.base64 bytes).toList = bytes := by
  rw [bufferFrom, RootV1.base64, String.toList_ofList, decodeQuads_base64Chars]
  rfl

theorem safeInteger_number {count : Nat} (small : count < 2 ^ 53) :
    safeInteger (some (.number count)) = some (count : Int) := if_pos small

theorem falsy_object (fields : List (String × Value)) : falsy (some (.object fields)) = false := by
  have object := Value.isObject_object fields
  cases value : Value.object fields with
  | empty => rfl
  | field key stored rest => rfl
  | null => rw [value] at object; cases object
  | bool stored => rw [value] at object; cases object
  | number stored => rw [value] at object; cases object
  | float stored => rw [value] at object; cases object
  | string stored => rw [value] at object; cases object
  | nil => rw [value] at object; cases object
  | item stored rest => rw [value] at object; cases object

theorem carries_noOutput : Carries noOutput where
  truthy := falsy_object _
  base64 := ⟨[], Value.field?_object _⟩
  bytes := by rw [noOutput, Value.field?_object]; rfl
  counts := by decide +kernel

theorem carries_of_counts {bytes : Bytes} {total omitted : Nat} {remainder : String}
    (truthy : falsy (some output) = false)
    (base64 : output.field? "base64" = some (.string (RootV1.base64 bytes)))
    (all : output.field? "bytes" = some (.number total))
    (presented : output.field? "presented_bytes" = some (.number bytes.length))
    (left_out : output.field? "omitted_bytes" = some (.number omitted))
    (remains : output.field? "remainder" = some (.string remainder))
    (sum : bytes.length + omitted = total) (small : total < 2 ^ 53)
    (named : 0 < omitted → remainder = "discarded" ∨ remainder = "retained-by-owner" ∨
      remainder = "partial-owner-retention") : Carries output where
  truthy := truthy
  base64 := ⟨bytes, base64⟩
  bytes := by rw [all, safeInteger_number small]; rfl
  counts := by
    have presents : presentedOf (some output) = some (bytes.length : Int) := by
      rw [presentedOf, chain, Option.bind_some, presented]
      exact safeInteger_number (by omega)
    have omits : omittedOf (some output) = some (omitted : Int) := by
      rw [omittedOf, chain, Option.bind_some, left_out]
      exact safeInteger_number (by omega)
    have counted : safeInteger (some (.number total)) = some ((bytes.length : Int) + omitted) := by
      rw [safeInteger_number small, ← sum, Int.natCast_add]
    have holds : omitted = 0 ∨ remainder = "discarded" ∨ remainder = "retained-by-owner" ∨
        remainder = "partial-owner-retention" := by
      rcases Nat.eq_zero_or_pos omitted with none_ | some_
      · exact .inl none_
      · exact .inr (named some_)
    rw [lengthMismatch, presents, omits]
    simp only [chain, Option.bind_some, base64, Value.asStr, Option.getD_some, bufferFrom_base64, all,
      counted, remains]
    rcases holds with none_ | rfl | rfl | rfl
    · simp [none_]
    · simp
    · simp
    · simp

theorem carries_presentation [Codec] {lines : List Line} {last : Option Line} {state : Stream}
    (left : Left (heard lines) last state) (small : (streamed lines).length < 2 ^ 53)
    (delivery : String) : Carries (state.presentation delivery) := by
  have total : state.bytes = (streamed lines).length :=
    left.bytes.trans (congrArg List.length left.streamed)
  have sum : state.presented.length + state.omitted = state.bytes := left.omitted.trans total.symm
  rw [← total] at small
  refine carries_of_counts (falsy_object _) (Value.field?_object _) (Value.field?_object _)
    (Value.field?_object _) (Value.field?_object _) (Value.field?_object _) sum small
    fun some_ => ?_
  rw [if_pos some_]
  split
  · exact .inr (.inl rfl)
  · split
    · exact .inr (.inr rfl)
    · exact .inl rfl

theorem Carries.text (carries : Carries output) :
    ∃ bytes : Bytes, (chain (some output) "base64").bind Value.asStr = some (RootV1.base64 bytes) := by
  obtain ⟨bytes, base64⟩ := carries.base64
  refine ⟨bytes, ?_⟩
  rw [chain, Option.bind_some, base64]
  rfl

theorem foreground_outcome (foreground : branch ≠ .running) : branch.outcome ∈ rootV1Outcomes := by
  cases branch with
  | running => exact absurd rfl foreground
  | refused => decide
  | notStarted => decide
  | unknown => decide
  | ended => decide
  | endedOutputUnproven => decide

theorem Fields.outcomeOf (fields : Fields value mode branch stages faults) :
    outcomeOf value = some branch.outcome := by
  rw [Adapter.outcomeOf, fields.outcome]
  rfl

theorem Fields.surface_valid (fields : Fields value "sync" branch stages faults)
    (foreground : branch ≠ .running) (shown : value.field? "output" = some output)
    (carries : Carries output) : surfaceInvalid value = false := by
  obtain ⟨bytes, text⟩ := carries.text
  have shaped : base64Shape (RootV1.base64 bytes).toList = true := by
    rw [RootV1.base64, String.toList_ofList]
    exact base64Shape_base64Chars bytes
  have counted : (safeInteger (chain (some output) "bytes")).isNone = false := by
    rw [Option.isNone_eq_false_iff]
    exact carries.bytes
  simp only [surfaceInvalid, shown, fields.surface, fields.version, fields.mode, fields.outcomeOf,
    fields.effects, fields.retry, fields.stages, fields.faults, text, counted, carries.truthy, shaped,
    foreground_outcome foreground, Option.any_some, isArray_array, isVersionOne, isBoolean]
  cases branch <;> rfl

theorem Fields.consistent (fields : Fields value mode branch stages faults)
    (waits : isObjectNotNull (value.field? "wait") =
      decide (branch = .ended ∨ branch = .endedOutputUnproven)) :
    outcomeInconsistent value = false := by
  simp only [outcomeInconsistent, fields.outcomeOf, waits, fields.effects]
  cases branch <;> decide

end Checks

section Answers

variable [NumberText] {value output : Value} {branch : Branch} {stages : List Value}
  {faults : List String}

/-- What the answer quotes from the result besides the stages, the faults and the retention. -/
def Quotes (value : Value) : Branch → Prop
  | .refused =>
      (∃ text, template (chain (value.field? "refusal") "by") = .ok text) ∧
        (∃ text, template (chain (value.field? "refusal") "reason") = .ok text) ∧
        ∃ text, detailText (chain (value.field? "refusal") "detail") = .ok text
  | .notStarted => True
  | .unknown => ∃ text, template (value.field? "meaning") = .ok text
  | .running => False
  | .ended | .endedOutputUnproven =>
      (∃ text, exitText (chain (value.field? "wait") "exit") = .ok text) ∧
      (∃ text, template (chain (value.field? "wait") "status") = .ok text) ∧
      ∃ text, template (chain (value.field? "wait") "observer") = .ok text

/-- The answer to a foreground result exists when its parts can be shown. -/
theorem Fields.response_iff (fields : Fields value "sync" branch stages faults)
    (foreground : branch ≠ .running) (shown : value.field? "output" = some output)
    (carries : Carries output)
    (waits : isObjectNotNull (value.field? "wait") =
      decide (branch = .ended ∨ branch = .endedOutputUnproven)) :
    Agrees value ↔ (∀ stage ∈ stages, Shows stage) ∧
      (∃ text, rootV1Retention (output.field? "retained") (output.field? "reference") = .ok text) ∧
      Quotes value branch := by
  have no_async : rootV1AsyncResult value = .ok none := by
    rw [rootV1AsyncResult, fields.mode]
    exact if_pos (.inr (.inr (by decide)))
  have surface : ¬ surfaceInvalid value = true := by
    rw [fields.surface_valid foreground shown carries]
    decide
  have lengths : ¬ lengthMismatch (some output) = true := by
    rw [carries.counts]
    decide
  have consistent : ¬ outcomeInconsistent value = true := by
    rw [fields.consistent waits]
    decide
  obtain ⟨said, faults_said⟩ := faultsText_strings faults
  rw [fields.agrees_iff, ← rootV1Stages_ok_iff, answer, no_async]
  show rootV1Response value = .ok branch ↔ _
  rw [rootV1Response, shown, if_neg surface, if_neg lengths, if_neg consistent, fields.stages,
    fields.faults, fields.outcomeOf]
  simp only [Option.map_some, Option.getD_some, items_array, chain, Option.bind_some, bind_ok_iff,
    faults_said]
  constructor
  · rintro ⟨texts, stages_said, _, _, retention, retained, rest⟩
    refine ⟨⟨texts, stages_said⟩, ⟨retention, retained⟩, ?_⟩
    cases branch with
    | running => exact absurd rfl foreground
    | notStarted => trivial
    | unknown =>
        obtain ⟨meaning, says_, _⟩ := bind_ok_iff.mp rest
        exact ⟨meaning, says_⟩
    | refused =>
        obtain ⟨origin, names, rest⟩ := bind_ok_iff.mp rest
        obtain ⟨reason, reasons, rest⟩ := bind_ok_iff.mp rest
        obtain ⟨detail, details, _⟩ := bind_ok_iff.mp rest
        exact ⟨⟨origin, names⟩, ⟨reason, reasons⟩, detail, details⟩
    | ended =>
        obtain ⟨exit_, exits, rest⟩ := bind_ok_iff.mp rest
        obtain ⟨status, stands, rest⟩ := bind_ok_iff.mp rest
        obtain ⟨observer, observes, _⟩ := bind_ok_iff.mp rest
        exact ⟨⟨exit_, exits⟩, ⟨status, stands⟩, observer, observes⟩
    | endedOutputUnproven =>
        obtain ⟨exit_, exits, rest⟩ := bind_ok_iff.mp rest
        obtain ⟨status, stands, rest⟩ := bind_ok_iff.mp rest
        obtain ⟨observer, observes, _⟩ := bind_ok_iff.mp rest
        exact ⟨⟨exit_, exits⟩, ⟨status, stands⟩, observer, observes⟩
  · rintro ⟨⟨texts, stages_said⟩, ⟨retention, retained⟩, quotes⟩
    refine ⟨texts, stages_said, said, rfl, retention, retained, ?_⟩
    cases branch with
    | running => exact absurd rfl foreground
    | notStarted => rfl
    | unknown =>
        obtain ⟨meaning, says_⟩ := quotes
        exact bind_ok_iff.mpr ⟨meaning, says_, rfl⟩
    | refused =>
        obtain ⟨⟨origin, names⟩, ⟨reason, reasons⟩, detail, details⟩ := quotes
        exact bind_ok_iff.mpr ⟨origin, names, bind_ok_iff.mpr ⟨reason, reasons,
          bind_ok_iff.mpr ⟨detail, details, rfl⟩⟩⟩
    | ended =>
        obtain ⟨⟨exit_, exits⟩, ⟨status, stands⟩, observer, observes⟩ := quotes
        exact bind_ok_iff.mpr ⟨exit_, exits, bind_ok_iff.mpr ⟨status, stands,
          bind_ok_iff.mpr ⟨observer, observes, rfl⟩⟩⟩
    | endedOutputUnproven =>
        obtain ⟨⟨exit_, exits⟩, ⟨status, stands⟩, observer, observes⟩ := quotes
        exact bind_ok_iff.mpr ⟨exit_, exits, bind_ok_iff.mpr ⟨status, stands,
          bind_ok_iff.mpr ⟨observer, observes, rfl⟩⟩⟩

theorem retention_noOutput :
    ∃ text, rootV1Retention (noOutput.field? "retained") (noOutput.field? "reference") = .ok text := by
  rw [noOutput, Value.field?_object, Value.field?_object]
  exact ⟨"", rfl⟩

omit [NumberText] in
theorem fields_refused (origin reason detail : String) :
    Fields (refused origin reason detail) "sync" .refused [] [] where
  surface := Value.field?_object _
  version := Value.field?_object _
  mode := Value.field?_object _
  outcome := Value.field?_object _
  effects := Value.field?_object _
  retry := Value.field?_object _
  stages := Value.field?_object _
  faults := Value.field?_object _

theorem agrees_refused (origin reason detail : String) : Agrees (refused origin reason detail) := by
  have output : (refused origin reason detail).field? "output" = some noOutput :=
    Value.field?_object _
  have wait : (refused origin reason detail).field? "wait" = some .null := Value.field?_object _
  have refusal : (refused origin reason detail).field? "refusal" = some (.object
      [("by", .string origin), ("reason", .string reason), ("detail", .string detail)]) :=
    Value.field?_object _
  rw [(fields_refused origin reason detail).response_iff nofun output carries_noOutput (by rw [wait]; rfl)]
  refine ⟨nofun, retention_noOutput, ?_⟩
  rw [Quotes, refusal, chain, chain, chain, Option.bind_some, Option.bind_some, Option.bind_some,
    Value.field?_object, Value.field?_object, Value.field?_object]
  refine ⟨⟨origin, rfl⟩, ⟨reason, rfl⟩, ?_⟩
  show ∃ text, detailText (some (.string detail)) = .ok text
  unfold detailText
  split
  · exact ⟨_, rfl⟩
  · exact ⟨_, rfl⟩

omit [NumberText] in
theorem fields_refusal (event : Value) (shown : List Value) :
    Fields (Stream.refusal event shown) "sync" .refused shown [] where
  surface := Value.field?_object _
  version := Value.field?_object _
  mode := Value.field?_object _
  outcome := Value.field?_object _
  effects := Value.field?_object _
  retry := Value.field?_object _
  stages := Value.field?_object _
  faults := Value.field?_object _

theorem reason_of_shows {event : Value} (refuses : eventName event = "refused")
    (shows_ : Shows event) : ∃ text, template (some (event.get "reason")) = .ok text := by
  have named : event.field? "event" = some (.string "refused") := by
    refine Value.field?_of_get ?_ nofun
    cases text : (event.get "event").asStr with
    | none =>
        rw [eventName, text] at refuses
        exact absurd refuses (by decide)
    | some text_ =>
        rw [eventName, text] at refuses
        exact (string_of_asStr text).trans (congrArg Value.string refuses)
  obtain ⟨text, shows_⟩ := shows_
  rw [rootV1Stage, named] at shows_
  rw [Value.get_eq_field?]
  obtain ⟨name, is_name, shows_⟩ := bind_ok_iff.mp shows_
  have same : "refused" = name := Except.ok.inj is_name
  subst same
  cases reason : event.field? "reason" with
  | none => exact ⟨_, rfl⟩
  | some reason_ =>
      rw [reason] at shows_
      obtain ⟨text, gives, _⟩ := bind_ok_iff.mp shows_
      exact ⟨text, gives⟩

theorem agrees_refusal {event : Value} (refuses : eventName event = "refused") :
    Agrees (Stream.refusal event [event]) ↔ Shows event := by
  have output : (Stream.refusal event [event]).field? "output" = some noOutput :=
    Value.field?_object _
  have wait : (Stream.refusal event [event]).field? "wait" = some .null := Value.field?_object _
  have refusal : (Stream.refusal event [event]).field? "refusal" = some (.object
      [("by", .string "root-owner"), ("reason", event.get "reason"), ("detail", .null)]) :=
    Value.field?_object _
  rw [(fields_refusal event [event]).response_iff nofun output carries_noOutput (by rw [wait]; rfl),
    List.forall_mem_singleton, Quotes, refusal, chain, chain, chain, Option.bind_some,
    Option.bind_some, Option.bind_some, Value.field?_object, Value.field?_object, Value.field?_object]
  constructor
  · exact fun ⟨shows_, _⟩ => shows_
  · intro shows_
    exact ⟨shows_, retention_noOutput, ⟨_, rfl⟩, reason_of_shows refuses shows_, _, rfl⟩

section Retention

variable [Codec] {state : Stream}

/-- The count of received bytes in a record can be shown. -/
def ReceivedShows (record : Value) : Prop :=
  ∃ text, template (orElse (record.field? "received") (.string "unknown")) = .ok text

omit [Codec] in
theorem receivedShows_iff_field (record : Value) :
    ReceivedShows record ↔ (record.field? "received").all hasText = true := by
  rw [ReceivedShows, template_ok_iff, orElse]
  split
  · next absent => rcases absent with none_ | null <;> simp [*, hasText]
  · rfl

omit [Codec] in
theorem retention_of_state {record : Value} {name : String} (reference : Option Value)
    (stands : record.get "state" = .string name)
    (other : name ≠ "complete" ∧ name ≠ "partial") :
    ∃ text, rootV1Retention (some record) reference = .ok text := by
  have found := Value.field?_of_get stands nofun
  have truthy : falsy (some record) = false := by
    cases record with
    | field key stored rest => rfl
    | _ => cases found
  rw [rootV1Retention, if_neg (by rw [truthy]; decide), chain, Option.bind_some, found,
    if_pos (.inl ⟨by simpa using other.1, by simpa using other.2⟩)]
  exact ⟨name, rfl⟩

omit [Codec] in
theorem retention_of_holds {record : Value} {name : String} (reference : Option Value)
    (stands : record.get "state" = .string name) (known : name = "complete" ∨ name = "partial")
    (valid : validRecord record = true) :
    (∃ text, rootV1Retention (some record) reference = .ok text) ↔ ReceivedShows record := by
  obtain ⟨identity_text, identity, names, _, _, _, sized, _, _⟩ := validRecord_true valid
  have found := Value.field?_of_get stands nofun
  have named := Value.field?_of_get names nofun
  have counted := Value.field?_of_get sized nofun
  have truthy : falsy (some record) = false := by
    cases record with
    | field key stored rest => rfl
    | _ => cases found
  have known_ : ¬ ((some (Value.string name) ≠ some (.string "complete") ∧
      some (Value.string name) ≠ some (.string "partial")) ∨
      ((some (Value.string identity_text)).bind Value.asStr).isNone = true) := by
    rintro (⟨one, two⟩ | none_)
    · rcases known with rfl | rfl
      · exact one rfl
      · exact two rfl
    · cases none_
  rw [rootV1Retention, if_neg (by rw [truthy]; decide), chain, chain, Option.bind_some, found,
    Option.bind_some, named, if_neg known_, chain, Option.bind_some, counted, chain,
    Option.bind_some]
  constructor
  · rintro ⟨text, shown⟩
    obtain ⟨_, _, shown⟩ := bind_ok_iff.mp shown
    obtain ⟨_, _, shown⟩ := bind_ok_iff.mp shown
    obtain ⟨received, gives, _⟩ := bind_ok_iff.mp shown
    exact ⟨received, gives⟩
  · rintro ⟨received, gives⟩
    exact ⟨_, bind_ok_iff.mpr ⟨_, rfl, bind_ok_iff.mpr ⟨_, rfl,
      bind_ok_iff.mpr ⟨received, gives, bind_ok_iff.mpr ⟨_, rfl, rfl⟩⟩⟩⟩⟩

/-- What is said of the retained output can be shown unless a partial record counts in a strange
way. -/
theorem retention_iff (reference : Option String) :
    (∃ text, rootV1Retention (some state.retained.1) (some (optional reference)) = .ok text) ↔
      (state.recordHolds state.ownRecord = true →
        state.ownRecord.get "state" = .string "partial" → ReceivedShows state.ownRecord) := by
  unfold Stream.retained
  split
  · next replaced =>
    refine ⟨fun _ holds => ?_, fun _ => retention_of_state _ (Value.get_object _) (by decide)⟩
    rw [holds] at replaced
    exact absurd replaced.2.2 (by decide)
  · next kept =>
    by_cases absent : state.ownRecord = .null
    · rw [absent]
      refine ⟨fun _ _ partial_ => absurd partial_ (by decide), fun _ => ?_⟩
      cases reference with
      | none => exact ⟨"", rfl⟩
      | some reference =>
          have absent_ : falsy (some Value.null) = true := rfl
          rw [rootV1Retention, if_pos absent_]
          split
          · exact ⟨"", rfl⟩
          · exact ⟨reference, rfl⟩
    · by_cases unsealed : state.ownRecord.get "state" = .string "unsealed"
      · refine ⟨fun _ _ partial_ => ?_, fun _ => retention_of_state _ unsealed (by decide)⟩
        exact absurd (unsealed.symm.trans partial_) (by decide)
      · have holds : state.recordHolds state.ownRecord = true := by
          by_contra fails
          exact kept ⟨absent, unsealed, by simpa using fails⟩
        have holds_ := holds
        simp only [Stream.recordHolds, Bool.and_eq_true, Bool.or_eq_true, decide_eq_true_eq] at holds_
        obtain ⟨⟨valid, _⟩, complete⟩ := holds_
        have known : state.ownRecord.get "state" = .string "complete" ∨
            state.ownRecord.get "state" = .string "partial" := by
          obtain ⟨_, _, _, _, _, _, _, _, known⟩ := validRecord_true valid
          exact known
        rcases known with whole | partial_
        · rw [retention_of_holds _ whole (.inl rfl) valid]
          refine ⟨fun shows_ _ _ => shows_, fun _ => ?_⟩
          rcases complete with partial_ | ⟨⟨received, _⟩, _⟩
          · exact absurd whole partial_
          · have found := Value.field?_of_get (number_of_asU64 received) (by simp)
            rw [ReceivedShows, found]
            exact ⟨_, rfl⟩
        · rw [retention_of_holds _ partial_ (.inr rfl) valid]
          exact ⟨fun shows_ _ _ => shows_, fun shows_ => shows_ holds partial_⟩

end Retention

section Results

variable [Codec] {lines : List Line} {last : Option Line} {state : Stream}

/-- The lines that the reader of a foreground reply looks at. -/
def reached (lines : List Line) : List Line := heard lines ++ (lines.find? endsReply).toList

/-- A record of a partial retention for the accepted work, in the terminal stage. -/
def PartialRecord (lines : List Line) (record : Value) : Prop :=
  ∃ accepted rest ending, lines = .event accepted :: rest ∧
    terminalOf (heard lines) (lines.find? endsReply) = some ending ∧
    record = ending.get "retained" ∧ validRecord record = true ∧
    record.get "state" = .string "partial" ∧ accepted.get "work" = record.get "work" ∧
    accepted.get "root_id" = record.get "root_id"

/-- The stages and the retained output that a result carries can be shown. -/
def StateShows (state : Stream) : Prop :=
  (∀ stage ∈ state.stages, Shows stage) ∧
    (state.recordHolds state.ownRecord = true →
      state.ownRecord.get "state" = .string "partial" → ReceivedShows state.ownRecord)

theorem agrees_notStarted :
    Agrees state.notStarted ↔ ∀ stage ∈ state.stages, Shows stage := by
  have fields : Fields state.notStarted "sync" .notStarted state.stages state.allFaults :=
    { surface := Value.field?_object _
      version := Value.field?_object _
      mode := Value.field?_object _
      outcome := Value.field?_object _
      effects := Value.field?_object _
      retry := Value.field?_object _
      stages := Value.field?_object _
      faults := Value.field?_object _ }
  have output : state.notStarted.field? "output" = some noOutput := Value.field?_object _
  have wait : state.notStarted.field? "wait" = some .null := Value.field?_object _
  rw [fields.response_iff nofun output carries_noOutput (by rw [wait]; rfl)]
  exact ⟨fun shows_ => shows_.1, fun shows_ => ⟨shows_, retention_noOutput, trivial⟩⟩

theorem presentation_retention (delivery : String) :
    (∃ text, rootV1Retention ((state.presentation delivery).field? "retained")
      ((state.presentation delivery).field? "reference") = .ok text) ↔
      (state.recordHolds state.ownRecord = true →
        state.ownRecord.get "state" = .string "partial" → ReceivedShows state.ownRecord) := by
  have record : (state.presentation delivery).field? "retained" = some state.retained.1 :=
    Value.field?_object _
  have reference : (state.presentation delivery).field? "reference" =
      some (RootV1.optional (referenceOf state.stages)) := Value.field?_object _
  rw [record, reference]
  exact retention_iff _

theorem agrees_unknown (left : Left (heard lines) last state)
    (small : (streamed lines).length < 2 ^ 53) (sent : Bool) (meaning : String)
    (faults : List String) :
    Agrees (state.unknown sent meaning faults "unproven") ↔ StateShows state := by
  have fields : Fields (state.unknown sent meaning faults "unproven") "sync" .unknown state.stages
      faults :=
    { surface := Value.field?_object _
      version := Value.field?_object _
      mode := Value.field?_object _
      outcome := Value.field?_object _
      effects := Value.field?_object _
      retry := Value.field?_object _
      stages := Value.field?_object _
      faults := Value.field?_object _ }
  have output : (state.unknown sent meaning faults "unproven").field? "output" =
      some (state.presentation "unproven") := Value.field?_object _
  have wait : (state.unknown sent meaning faults "unproven").field? "wait" = some .null :=
    Value.field?_object _
  have means : (state.unknown sent meaning faults "unproven").field? "meaning" =
      some (.string meaning) := Value.field?_object _
  have quotes : Quotes (state.unknown sent meaning faults "unproven") .unknown := by
    rw [Quotes, means]
    exact ⟨meaning, rfl⟩
  rw [fields.response_iff nofun output (carries_presentation left small _) (by rw [wait]; rfl),
    presentation_retention, StateShows]
  exact ⟨fun ⟨shows_, retains, _⟩ => ⟨shows_, retains⟩,
    fun ⟨shows_, retains⟩ => ⟨shows_, retains, quotes⟩⟩

omit [Codec] in
theorem exit_shows {status : String} {wait : Value} (waits : waitStatus status = some wait) :
    ∃ text, exitText (some wait) = .ok text := by
  unfold waitStatus at waits
  split at waits
  · obtain ⟨code, _, rfl⟩ := Option.map_eq_some_iff.mp waits
    rw [exitText, chain, Option.bind_some, Value.field?_object]
    exact ⟨_, rfl⟩
  · obtain ⟨signal, _, waits⟩ := Option.bind_eq_some_iff.mp waits
    obtain ⟨number, _, rfl⟩ := Option.map_eq_some_iff.mp waits
    rw [exitText, chain, Option.bind_some, Value.field?_object, chain, Option.bind_some,
      Value.field?_object]
    exact ⟨_, rfl⟩

theorem agrees_ended (left : Left (heard lines) last state)
    (small : (streamed lines).length < 2 ^ 53) {ending wait : Value} {status observer : String}
    (waits : waitStatus status = some wait) :
    Agrees (state.ended ending wait status observer) ↔ StateShows state := by
  obtain ⟨branch, is_branch, names⟩ : ∃ branch : Branch,
      (branch = .ended ∨ branch = .endedOutputUnproven) ∧
      (if state.complete ending then "ended" else "ended-output-unproven") = branch.outcome := by
    cases state.complete ending with
    | true => exact ⟨.ended, .inl rfl, rfl⟩
    | false => exact ⟨.endedOutputUnproven, .inr rfl, rfl⟩
  have happened : branch.mayHaveRun = true := by
    rcases is_branch with rfl | rfl
    · rfl
    · rfl
  have fields : Fields (state.ended ending wait status observer) "sync" branch state.stages
      (state.endFaults ending) :=
    { surface := Value.field?_object _
      version := Value.field?_object _
      mode := Value.field?_object _
      outcome := names ▸ Value.field?_object _
      effects := happened ▸ Value.field?_object _
      retry := happened ▸ Value.field?_object _
      stages := Value.field?_object _
      faults := Value.field?_object _ }
  have waited : (state.ended ending wait status observer).field? "wait" = some (.object
      [("status", .string status), ("observer", .string observer), ("exit", wait)]) :=
    Value.field?_object _
  have quotes : Quotes (state.ended ending wait status observer) branch := by
    have all : Quotes (state.ended ending wait status observer) .ended := by
      rw [Quotes, waited, chain, chain, chain, Option.bind_some, Option.bind_some, Option.bind_some,
        Value.field?_object, Value.field?_object, Value.field?_object]
      exact ⟨exit_shows waits, ⟨status, rfl⟩, observer, rfl⟩
    rcases is_branch with rfl | rfl
    · exact all
    · exact all
  obtain ⟨delivery, output⟩ : ∃ delivery, (state.ended ending wait status observer).field? "output" =
      some (state.presentation delivery) := ⟨_, Value.field?_object _⟩
  have object : isObjectNotNull ((state.ended ending wait status observer).field? "wait") =
      decide (branch = .ended ∨ branch = .endedOutputUnproven) := by
    rw [waited, decide_eq_true is_branch]
    rfl
  have foreground : branch ≠ .running := by
    rcases is_branch with rfl | rfl
    · exact nofun
    · exact nofun
  rw [fields.response_iff foreground output (carries_presentation left small _) object,
    presentation_retention, StateShows]
  exact ⟨fun ⟨shows_, retains, _⟩ => ⟨shows_, retains⟩,
    fun ⟨shows_, retains⟩ => ⟨shows_, retains, quotes⟩⟩

/-- What follows the loop is shown unless a stage or a record cannot be. -/
theorem agrees_result {more : List Line} (left : Left (heard lines) last state)
    (split_ : lines = heard lines ++ last.toList ++ more)
    (small : (streamed lines).length < 2 ^ 53) (started : ¬ NotStarted lines) (sent : Bool) :
    Agrees (state.result sent) ↔ StateShows state := by
  unfold Stream.result
  split
  · exact agrees_unknown left small _ _ _
  · next ending kept =>
    obtain ⟨stands, orderly⟩ := Option.filter_eq_some_iff.mp kept
    have order := left.order (by simpa using orderly)
    simp only
    split
    · split
      · next wait waits =>
        split
        · exact agrees_ended left small waits
        · exact agrees_unknown left small _ _ _
      · exact agrees_unknown left small _ _ _
    · split
      · next proven => exact absurd (left.not_started split_ stands order proven) started
      · exact agrees_unknown left small _ _ _

theorem stateShows_iff {more : List Line} (left : Left (heard lines) last state)
    (last_eq : last = lines.find? endsReply)
    (split_ : lines = heard lines ++ last.toList ++ more) :
    StateShows state ↔ (∀ event ∈ spoken (reached lines), Shows event) ∧
      ∀ record, PartialRecord lines record → ReceivedShows record := by
  subst last_eq
  obtain ⟨index, staged⟩ := left.staged
  rw [StateShows, staged.forall_iff shows_chunkStage, reached]
  refine and_congr_right fun _ => ⟨?_, ?_⟩
  · rintro shows_ record ⟨accepted, rest, ending, lines_eq, ends_, rfl, valid, partial_, work, root⟩
    have stands := left.terminal.trans ends_
    have own : state.ownRecord = ending.get "retained" := by
      rw [Stream.ownRecord, stands]
      rfl
    obtain ⟨_, _, _, first, others, heard_eq, _, head⟩ := left.ending ending stands
    have same : first = accepted := by
      rw [heard_eq, lines_eq] at split_
      exact (Line.event.inj (List.cons.inj split_).1).symm
    rw [own] at shows_
    refine shows_ ?_ partial_
    rw [Stream.recordHolds, valid, head, partial_, same]
    simp [work, root]
  · intro shows_ holds partial_
    obtain ⟨ending, stands⟩ : ∃ ending, state.terminal = some ending := by
      cases none_ : state.terminal with
      | none =>
          rw [Stream.ownRecord, none_] at partial_
          exact absurd partial_ (by decide)
      | some ending => exact ⟨ending, rfl⟩
    have own : state.ownRecord = ending.get "retained" := by
      rw [Stream.ownRecord, stands]
      rfl
    obtain ⟨_, _, _, first, others, heard_eq, _, head⟩ := left.ending ending stands
    rw [own] at holds partial_ ⊢
    simp only [Stream.recordHolds, Bool.and_eq_true, decide_eq_true_eq, head, Option.any_some] at holds
    obtain ⟨⟨valid, work, root⟩, _⟩ := holds
    refine shows_ _ ⟨first, others ++ ((lines.find? endsReply).toList ++ more), ending, ?_,
      left.terminal.symm.trans stands, rfl, valid, partial_, work, root⟩
    rw [List.append_assoc, heard_eq] at split_
    exact split_

omit [NumberText] in
theorem decode_notStarted {accepted failed : Value} {rest : List Line} (sent : Bool)
    (accepts : eventName accepted = "accepted") (fails : eventName failed = "launch-failed")
    (not_started : failed.get "not_started" = .bool true) :
    decode (.event accepted :: .event failed :: rest) sent =
      Stream.notStarted { stages := [accepted, failed], accepted := true, terminal := some failed } := by
  have first : Stream.turn {} (.event accepted) =
      .goOn { stages := [accepted], accepted := true } := by
    simp [Stream.turn, accepts]
  have second : Stream.turn { stages := [accepted], accepted := true } (.event failed) =
      .leave { stages := [accepted, failed], accepted := true, terminal := some failed } := by
    simp [Stream.turn, fails]
  rw [decode, walk, first]
  simp only
  rw [walk, second]
  have other : eventName failed ≠ "end" := by
    rw [fails]
    decide
  exact (if_neg other).trans (if_pos ⟨fails, not_started⟩)

/-- What has to hold of a reply so that the adapter agrees with its foreground result. -/
def DecodeShows (lines : List Line) : Prop :=
  (∀ event ∈ spoken (reached lines), Shows event) ∧
    (¬ NotStarted lines → ∀ record, PartialRecord lines record → ReceivedShows record)

theorem agrees_decode (lines : List Line) (sent : Bool) (small : (streamed lines).length < 2 ^ 53) :
    Agrees (decode lines sent) ↔ DecodeShows lines := by
  by_cases started : NotStarted lines
  · have none_ := started
    obtain ⟨accepted, failed, rest, rfl, accepts, fails, not_started⟩ := started
    rw [decode_notStarted sent accepts fails not_started, agrees_notStarted, DecodeShows]
    have reads : reached (.event accepted :: .event failed :: rest) =
        [.event accepted, .event failed] := by
      simp [reached, heard, endsReply, accepts, fails, Stream.looksTerminal]
    have spoken_eq : spoken [.event accepted, .event failed] = [accepted, failed] := by
      simp [spoken, accepts, fails]
    rw [reads, spoken_eq]
    exact ⟨fun shows_ => ⟨shows_, fun started => absurd none_ started⟩, fun shows_ => shows_.1⟩
  · rw [decode, DecodeShows]
    rcases walk_reply lines with ⟨event, rest, rfl, refuses, runs⟩ |
      ⟨state, rest, split_, runs, left⟩
    · have reads : spoken (reached (.event event :: rest)) = [event] := by
        simp [reached, heard, endsReply, refuses, Stream.looksTerminal, spoken]
      rw [runs, conclude, agrees_refusal refuses, reads, List.forall_mem_singleton]
      refine ⟨fun shows_ => ⟨shows_, ?_⟩, fun shows_ => shows_.1⟩
      rintro - record ⟨_, _, ending, _, ends_, _⟩
      have nothing : heard (.event event :: rest) = [] := by
        simp [heard, endsReply, refuses, Stream.looksTerminal]
      have found : (Line.event event :: rest).find? endsReply = some (.event event) := by
        simp [endsReply, refuses, Stream.looksTerminal]
      rw [nothing, found] at ends_
      simp [terminalOf, refuses] at ends_
    · rw [runs, conclude, agrees_result left split_ small started, stateShows_iff left rfl split_]
      exact and_congr_right fun _ => ⟨fun shows_ _ => shows_, fun shows_ => shows_ started⟩

end Results

section Background

/-- What the answer to a background result needs besides the stages and the faults. -/
def QuotesAsync (value : Value) : Branch → Prop
  | .running => value.field? "wait" = some .null ∧
      ∃ reference, chain (value.field? "output") "reference" = some (.string reference) ∧
        reference ≠ ""
  | .refused => ∃ text, template (chain (value.field? "refusal") "reason") = .ok text
  | .notStarted => True
  | .unknown => ∃ text, template (value.field? "meaning") = .ok text
  | .ended | .endedOutputUnproven => False

omit [NumberText] in
theorem reference_iff {found : Option Value} :
    (found.bind Value.asStr).filter (· ≠ "") ≠ none ↔
      ∃ reference, found = some (.string reference) ∧ reference ≠ "" := by
  constructor
  · intro some_
    obtain ⟨reference, kept⟩ := Option.ne_none_iff_exists'.mp some_
    obtain ⟨text, nonempty⟩ := Option.filter_eq_some_iff.mp kept
    obtain ⟨stored, there, is_text⟩ := Option.bind_eq_some_iff.mp text
    exact ⟨reference, there.trans (congrArg some (string_of_asStr is_text)), by simpa using nonempty⟩
  · rintro ⟨reference, rfl, nonempty⟩
    simp [Value.asStr, nonempty]

/-- The answer to a background result exists when its parts can be shown. -/
theorem Fields.async_iff (fields : Fields value "async" branch stages faults) :
    Agrees value ↔ (∀ stage ∈ stages, Shows stage) ∧ QuotesAsync value branch := by
  obtain ⟨said, faults_said⟩ := faultsText_strings faults
  have async : ¬ (value.field? "result_surface" ≠ some (.string resultSurface) ∨
      (!isVersionOne (value.field? "version")) = true ∨
      value.field? "delivery_mode" ≠ some (.string "async")) := by
    rw [fields.surface, fields.version, fields.mode]
    decide
  have stages_eq : ifArray (some (Value.array stages)) rootV1Stages "invalid" =
      rootV1Stages stages := by
    rw [ifArray, if_pos (isArray_array _), items_array]
  have faults_eq : ifArray (some (Value.array (faults.map .string))) faultsText "" = .ok said := by
    rw [ifArray, if_pos (isArray_array _), items_array, faults_said]
  rw [fields.agrees_iff, ← rootV1Stages_ok_iff, answer, rootV1AsyncResult, if_neg async,
    fields.stages, fields.faults, fields.outcomeOf, fields.effects, stages_eq, faults_eq]
  constructor
  · intro answers
    obtain ⟨read, reads, _⟩ := bind_ok_iff.mp answers
    obtain ⟨texts, stages_said, reads⟩ := bind_ok_iff.mp reads
    obtain ⟨_, _, reads⟩ := bind_ok_iff.mp reads
    refine ⟨⟨texts, stages_said⟩, ?_⟩
    cases branch with
    | notStarted => trivial
    | ended => cases reads
    | endedOutputUnproven => cases reads
    | refused =>
        obtain ⟨reason, reasons, _⟩ := bind_ok_iff.mp reads
        exact ⟨reason, reasons⟩
    | unknown =>
        obtain ⟨meaning, means, _⟩ := bind_ok_iff.mp reads
        exact ⟨meaning, means⟩
    | running =>
        have consistent : ¬ (value.field? "wait" ≠ some .null ∨
            some (Value.bool Branch.running.mayHaveRun) ≠ some (.bool true) ∨
            ((chain (value.field? "output") "reference").bind Value.asStr).filter (· ≠ "") =
              none) := by
          intro inconsistent
          simp only [Branch.outcome] at reads
          rw [if_pos inconsistent] at reads
          cases reads
        obtain ⟨waits, _, referenced⟩ : _ ∧ _ ∧ _ := by simpa only [not_or, not_not] using consistent
        exact ⟨waits, reference_iff.mp referenced⟩
  · rintro ⟨⟨texts, stages_said⟩, quotes⟩
    refine bind_ok_iff.mpr ⟨some branch, ?_, rfl⟩
    refine bind_ok_iff.mpr ⟨texts, stages_said, bind_ok_iff.mpr ⟨said, rfl, ?_⟩⟩
    cases branch with
    | notStarted => rfl
    | ended => cases quotes
    | endedOutputUnproven => cases quotes
    | refused =>
        obtain ⟨reason, reasons⟩ := quotes
        exact bind_ok_iff.mpr ⟨reason, reasons, rfl⟩
    | unknown =>
        obtain ⟨meaning, means⟩ := quotes
        exact bind_ok_iff.mpr ⟨meaning, means, rfl⟩
    | running =>
        obtain ⟨waits, referenced⟩ := quotes
        have consistent : ¬ (value.field? "wait" ≠ some .null ∨
            some (Value.bool Branch.running.mayHaveRun) ≠ some (.bool true) ∨
            ((chain (value.field? "output") "reference").bind Value.asStr).filter (· ≠ "") =
              none) := by
          rintro (waiting | possible | nameless)
          · exact waiting waits
          · exact possible rfl
          · exact reference_iff.mpr referenced nameless
        exact if_neg consistent

variable {state : Background} {sent : Bool} {lines : List Line}

omit [NumberText] in
theorem fields_base {outcome meaning : String} {effects : Bool} (names : outcome = branch.outcome)
    (happened : effects = branch.mayHaveRun) :
    Fields (state.base sent outcome meaning effects faults) "async" branch state.stages faults where
  surface := Value.field?_object _
  version := Value.field?_object _
  mode := Value.field?_object _
  outcome := names ▸ Value.field?_object _
  effects := happened ▸ Value.field?_object _
  retry := happened ▸ Value.field?_object _
  stages := Value.field?_object _
  faults := Value.field?_object _

omit [NumberText] in
theorem field?_refusedAsync (event : Value) (wanted : String) :
    (refusedAsync event stages).field? wanted =
      if "stages" = wanted then some (.array stages)
      else if "refusal" = wanted then some
        ((((refused "root-owner" "" "").get "refusal").set "reason" (event.get "reason")).set "detail"
          .null)
      else if "delivery_mode" = wanted then some (.string "async")
      else (refused "root-owner" "" "").field? wanted := by
  have object : (refused "root-owner" "" "").isObject = true := Value.isObject_object _
  rw [refusedAsync, Value.field?_set (Value.isObject_set (Value.isObject_set object)),
    Value.field?_set (Value.isObject_set object), Value.field?_set object]

omit [NumberText] in
theorem fields_refusedAsync (event : Value) :
    Fields (refusedAsync event stages) "async" .refused stages [] := by
  have plain := fields_refused "root-owner" "" ""
  have same (wanted : String) (other : "stages" ≠ wanted ∧ "refusal" ≠ wanted ∧
      "delivery_mode" ≠ wanted) : (refusedAsync event stages).field? wanted =
        (refused "root-owner" "" "").field? wanted := by
    rw [field?_refusedAsync, if_neg other.1, if_neg other.2.1, if_neg other.2.2]
  constructor
  · exact (same _ (by decide)).trans plain.surface
  · exact (same _ (by decide)).trans plain.version
  · rw [field?_refusedAsync, if_neg (by decide), if_neg (by decide), if_pos rfl]
  · exact (same _ (by decide)).trans plain.outcome
  · exact (same _ (by decide)).trans plain.effects
  · exact (same _ (by decide)).trans plain.retry
  · rw [field?_refusedAsync, if_pos rfl]
  · exact (same _ (by decide)).trans plain.faults

theorem agrees_refusedAsync {event : Value} (refuses : eventName event = "refused") :
    Agrees (refusedAsync event [event]) ↔ Shows event := by
  have refusal : (refused "root-owner" "" "").get "refusal" = .object
      [("by", .string "root-owner"), ("reason", .string ""), ("detail", .string "")] :=
    Value.get_object _
  have reason : chain ((refusedAsync event [event]).field? "refusal") "reason" =
      some (event.get "reason") := by
    rw [field?_refusedAsync, if_neg (by decide), if_pos rfl, refusal, chain, Option.bind_some, Value.field?_set_other (by decide),
      Value.field?_set_same (Value.isObject_object _)]
  rw [(fields_refusedAsync event).async_iff, List.forall_mem_singleton, QuotesAsync, reason]
  exact ⟨fun shows_ => shows_.1, fun shows_ => ⟨shows_, reason_of_shows refuses shows_⟩⟩

omit [NumberText] in
theorem referenceOf_nonempty {reference : String} (referenced : referenceOf stages = some reference) :
    reference ≠ "" := by
  obtain ⟨accepted, _, referenced⟩ := Option.bind_eq_some_iff.mp referenced
  obtain ⟨root, _, referenced⟩ := Option.bind_eq_some_iff.mp referenced
  obtain ⟨work, _, referenced⟩ := Option.bind_eq_some_iff.mp referenced
  obtain ⟨parsed, _, rfl⟩ := Option.map_eq_some_iff.mp referenced
  intro empty
  have characters := congrArg String.toList empty
  rw [String.toList_ofList] at characters
  cases characters

omit [NumberText] in
theorem Fields.set_completion (fields : Fields value "async" branch stages faults)
    (completion : Value) : Fields (value.set "completion" completion) "async" branch stages faults where
  surface := (Value.field?_set_other (by decide)).trans fields.surface
  version := (Value.field?_set_other (by decide)).trans fields.version
  mode := (Value.field?_set_other (by decide)).trans fields.mode
  outcome := (Value.field?_set_other (by decide)).trans fields.outcome
  effects := (Value.field?_set_other (by decide)).trans fields.effects
  retry := (Value.field?_set_other (by decide)).trans fields.retry
  stages := (Value.field?_set_other (by decide)).trans fields.stages
  faults := (Value.field?_set_other (by decide)).trans fields.faults

theorem agrees_base_unknown (meaning : String) :
    Agrees (state.base sent "unknown" meaning true faults) ↔ ∀ stage ∈ state.stages, Shows stage := by
  have means : (state.base sent "unknown" meaning true faults).field? "meaning" =
      some (.string meaning) := Value.field?_object _
  have fields : Fields (state.base sent "unknown" meaning true faults) "async" .unknown state.stages
      faults := fields_base rfl rfl
  rw [fields.async_iff, QuotesAsync, means]
  exact ⟨fun shows_ => shows_.1, fun shows_ => ⟨shows_, meaning, rfl⟩⟩

theorem agrees_base_notStarted (meaning : String) :
    Agrees (state.base sent "not-started" meaning false faults) ↔
      ∀ stage ∈ state.stages, Shows stage := by
  have fields : Fields (state.base sent "not-started" meaning false faults) "async" .notStarted
      state.stages faults := fields_base rfl rfl
  rw [fields.async_iff]
  exact ⟨fun shows_ => shows_.1, fun shows_ => ⟨shows_, trivial⟩⟩

theorem agrees_exec_error (meaning : String) (completion : Value) :
    Agrees ((state.base sent "unknown" meaning true faults).set "completion" completion) ↔
      ∀ stage ∈ state.stages, Shows stage := by
  have means : ((state.base sent "unknown" meaning true faults).set "completion" completion).field?
      "meaning" = some (.string meaning) :=
    (Value.field?_set_other (by decide)).trans (Value.field?_object _)
  have fields : Fields (state.base sent "unknown" meaning true faults) "async" .unknown state.stages
      faults := fields_base rfl rfl
  rw [(fields.set_completion completion).async_iff, QuotesAsync, means]
  exact ⟨fun shows_ => shows_.1, fun shows_ => ⟨shows_, meaning, rfl⟩⟩

theorem agrees_running (meaning : String) (completion : Value) :
    Agrees ((state.base sent "running" meaning true faults).set "completion" completion) ↔
      (∀ stage ∈ state.stages, Shows stage) ∧ (referenceOf state.stages).isSome = true := by
  have waits : ((state.base sent "running" meaning true faults).set "completion" completion).field?
      "wait" = some .null := (Value.field?_set_other (by decide)).trans (Value.field?_object _)
  have output : ((state.base sent "running" meaning true faults).set "completion" completion).field?
      "output" = some (.object [("delivery", .string "none"), ("bytes", .number 0),
        ("base64", .string ""), ("reference", RootV1.optional (referenceOf state.stages))]) :=
    (Value.field?_set_other (by decide)).trans (Value.field?_object _)
  have referenced : chain (((state.base sent "running" meaning true faults).set "completion"
      completion).field? "output") "reference" =
        some (RootV1.optional (referenceOf state.stages)) := by
    rw [output, chain, Option.bind_some]
    exact Value.field?_object _
  have fields : Fields (state.base sent "running" meaning true faults) "async" .running state.stages
      faults := fields_base rfl rfl
  rw [(fields.set_completion completion).async_iff, QuotesAsync, waits, referenced]
  refine and_congr_right fun _ => ?_
  cases found : referenceOf state.stages with
  | none =>
      constructor
      · rintro ⟨_, _, absent, _⟩
        cases absent
      · exact nofun
  | some reference =>
      exact ⟨fun _ => rfl, fun _ => ⟨rfl, reference, rfl, referenceOf_nonempty found⟩⟩

/-- What the reader found is shown when its stages can be and running work has a reference. -/
theorem agrees_background :
    Agrees (state.result sent) ↔ (∀ stage ∈ state.stages, Shows stage) ∧
      (state.detached = true → state.faults = [] → state.execError = none →
        (referenceOf state.stages).isSome = true) := by
  unfold Background.result
  simp only
  split
  · next detached =>
    cases error : state.execError with
    | none =>
        simp only [Option.isSome_none, Bool.false_eq_true, if_false]
        rw [agrees_running]
        refine and_congr_right fun _ => ?_
        exact ⟨fun some_ _ _ _ => some_, fun some_ => some_ detached.1 detached.2 trivial⟩
    | some text =>
        simp only [Option.isSome_some, if_true]
        rw [agrees_exec_error]
        exact ⟨fun shows_ => ⟨shows_, nofun⟩, fun shows_ => shows_.1⟩
  · next attached =>
    have vacuous : state.detached = true → state.faults = [] → state.execError = none →
        (referenceOf state.stages).isSome = true :=
      fun detached faultless _ => absurd ⟨detached, faultless⟩ attached
    rw [and_iff_left vacuous]
    split
    · split
      · exact agrees_base_notStarted _
      · exact agrees_base_unknown _
    · split
      · exact agrees_base_unknown _
      · exact agrees_base_unknown _

/-- What has to hold of a reply so that the adapter agrees with its background result. -/
def DecodeAsyncShows (lines : List Line) : Prop :=
  (∀ event ∈ stagesRead lines, Shows event) ∧
    ∀ accepted started detached, Detaches lines accepted started detached →
      (referenceOf [accepted]).isSome = true

theorem agrees_decodeAsync (lines : List Line) (sent : Bool) :
    Agrees (decodeAsync lines sent) ↔ DecodeAsyncShows lines := by
  rw [DecodeAsyncShows]
  by_cases runs : ∃ accepted started detached, Detaches lines accepted started detached
  · obtain ⟨accepted, started, detached, detaches⟩ := runs
    have reads : stagesRead lines = [accepted, started, detached] := by
      obtain ⟨⟨rest, rfl⟩, accepts, starts, no_error, _⟩ := detaches
      simp [stagesRead, secondRead, thirdRead, accepts, starts, no_error, Except.isOk, Except.toBool]
    rw [decodeAsync_detaches detaches, agrees_background, reads]
    refine and_congr_right fun _ => ⟨fun referenced other _ _ also => ?_, fun referenced _ _ _ => ?_⟩
    · obtain ⟨same, _⟩ := detaches.unique also
      rw [← same]
      exact referenced rfl rfl rfl
    · exact referenced _ _ _ detaches
  · rw [decodeAsync]
    have none_ : ∀ accepted started detached, Detaches lines accepted started detached →
        (referenceOf [accepted]).isSome = true :=
      fun accepted started detached detaches => absurd ⟨accepted, started, detached, detaches⟩ runs
    rw [and_iff_left none_]
    rcases walk_background lines with ⟨event, rest, rfl, refuses, walks⟩ | ⟨state, walks, found⟩
    · have reads : stagesRead (.event event :: rest) = [event] := by
        rw [stagesRead, if_neg]
        rintro ⟨accepts, _⟩
        exact absurd (accepts.symm.trans refuses) (by decide)
      rw [walks, conclude, agrees_refusedAsync refuses, reads, List.forall_mem_singleton]
    · rw [walks, conclude, agrees_background, found.stages]
      exact and_iff_left fun detached _ no_error => absurd (found.detached detached no_error) runs

end Background

section Runs

variable [Codec]

/-- The request is sent, so that the reply of the owner decides. -/
def Sends (request : Request) (outside : Surroundings) : Prop :=
  request.delivery ≠ .unspecified ∧ request.unsupported = [] ∧ outside.ingress ≠ "" ∧
    (∃ dir, outside.currentDir = .ok (some dir)) ∧ outside.connect = .ok ()

/-- What has to hold of the reply to a request. -/
def ReplyShows (request : Request) (outside : Surroundings) : Prop :=
  if request.delivery = .async then DecodeAsyncShows outside.reply else DecodeShows outside.reply

/-- The adapter agrees with the result of a run exactly when the owner's stages and the count of a
partial record can be shown and running work has a reference. -/
theorem run_agrees_iff (request : Request) (outside : Surroundings)
    (small : (streamed outside.reply).length < 2 ^ 53) :
    Agrees (run request outside) ↔ (Sends request outside → ReplyShows request outside) := by
  -- a request that is not sent is refused, and the refusal is always shown
  have unsent {origin reason detail : String} (stays : ¬ Sends request outside) :
      Agrees (refused origin reason detail) ↔ (Sends request outside → ReplyShows request outside) :=
    ⟨fun _ sends => absurd sends stays, fun _ => agrees_refused _ _ _⟩
  unfold run
  split
  · next unspecified => exact unsent fun sends => sends.1 unspecified
  · next specified =>
    split
    · next flag first =>
      refine unsent fun sends => ?_
      rw [sends.2.1] at first
      cases first
    · next none_ =>
      have supported : request.unsupported = [] := List.head?_eq_none_iff.mp none_
      split
      · next empty => exact unsent fun sends => sends.2.2.1 empty
      · next ingress =>
        split
        · next error fails =>
          refine unsent fun ⟨_, _, _, ⟨dir, there⟩, _⟩ => ?_
          cases fails.symm.trans there
        · next fails =>
          refine unsent fun ⟨_, _, _, ⟨dir, there⟩, _⟩ => ?_
          cases fails.symm.trans there
        · next dir there =>
          split
          · next error fails =>
            refine unsent fun sends => ?_
            cases fails.symm.trans sends.2.2.2.2
          · next connects =>
            have sends : Sends request outside :=
              ⟨specified, supported, ingress, ⟨dir, there⟩, connects⟩
            rw [ReplyShows, forall_prop_of_true sends]
            split
            · exact agrees_decodeAsync _ _
            · exact agrees_decode _ _ small

end Runs

end Answers

section Samples

@[reducible] def sampleText : NumberText where
  number value := toString value

@[reducible] def sampleCodec : Codec where
  parse _ := none
  encode _ := []
  parseMeta _ := none
  sha256 _ := ""

/-- A foreground request that an owner refuses. -/
def refusedOutside : Surroundings where
  ingress := "/run/ingress"
  currentDir := .ok (some "/work")
  connect := .ok ()
  sent := true
  reply := [.event (.object [("event", .string "refused"), ("reason", .string "closing")])]

def endedReply : List Line := [
  .event (.object [("event", .string "accepted"), ("work", .string "w1"), ("root_id", .string "r1"),
    ("durable", .bool true)]),
  .event (.object [("event", .string "started"), ("work", .string "w1"), ("root_id", .string "r1")]),
  .event (.object [("event", .string "output"), ("b64", .string "aGk=")]),
  .event (.object [("event", .string "output-closed"), ("bytes", .number 2)]),
  .event (.object [("event", .string "end"), ("status", .string "code:0"),
    ("observer", .string "work-pid1-wait"),
    ("output", .object [("state", .string "closed"), ("bytes", .number 2)])])]

theorem run_agrees_iff_ended :
    (@run sampleCodec ⟨.sync, []⟩ { refusedOutside with reply := endedReply }).get "outcome" =
        .string "ended" ∧
      @Agrees sampleText (@run sampleCodec ⟨.sync, []⟩ { refusedOutside with reply := endedReply }) := by
  refine ⟨by decide +kernel, (@run_agrees_iff sampleText sampleCodec ⟨.sync, []⟩
    { refusedOutside with reply := endedReply } (by decide +kernel)).mpr fun _ => ⟨?_, ?_⟩⟩
  · have shown : (spoken (reached endedReply)).all (@showsFields sampleText) = true := by
      decide +kernel
    exact fun event inside =>
      (@shows_iff_fields sampleText event).mpr (List.all_eq_true.mp shown event inside)
  · have unretained : (terminalOf (heard endedReply) (endedReply.find? endsReply)).map
        (fun ending => validRecord (ending.get "retained")) = some false := by decide +kernel
    rintro _ record ⟨_, _, ending, _, ends_, rfl, valid, _⟩
    rw [ends_, Option.map_some, valid] at unretained
    cases unretained

/-- The adapter finds a running work without a reference inconsistent. -/
theorem running_disagrees :
    ¬ @Agrees sampleText (@run sampleCodec ⟨.async, []⟩ { refusedOutside with reply := bareReply }) := by
  rintro ⟨branch, answers, _⟩
  have fails : @answer sampleText
      (@run sampleCodec ⟨.async, []⟩ { refusedOutside with reply := bareReply }) =
        .error (.unresolved "async result inconsistent") := by
    rfl
  cases fails.symm.trans answers

end Samples

end Adapter

end AgentBash
