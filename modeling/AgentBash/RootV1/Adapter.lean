import AgentBash.RootV1.Decode

/-!
# The adapter that reads a result

`rootV1AsyncResult` and `rootV1Response` of `bash.ts`, with what JavaScript does on JSON values. A
property that is not there is `undefined`, and a value becomes text unless it is an object with a
property named `toString`, which is no function. Every conversion that an answer contains is made,
for its failure; the answer itself is reduced to the branch that gives it.
-/

namespace AgentBash

set_option autoImplicit false

namespace Adapter

open RootV1

/-- What is thrown: a result that stays unresolved, or a failed conversion. -/
inductive Threw
  | unresolved (reason : String)
  | typeError
  deriving DecidableEq, Repr

/-- How a number is printed; nothing depends on it. -/
class NumberText where
  number : Rat → String

section Conversions

variable [NumberText]

/-- `String(value)`. The items of an array are joined by commas, without `null`. -/
def toText : Value → Except Threw String
  | .null => .ok "null"
  | .bool value => .ok (if value then "true" else "false")
  | .number value => .ok (NumberText.number value)
  | .float value => .ok (NumberText.number value)
  | .string value => .ok value
  | .nil => .ok ""
  | .item value rest => do
      let first ← if value = .null then .ok "" else toText value
      let more ← toText rest
      pure (if rest = .nil then first else first ++ "," ++ more)
  | .empty => .ok "[object Object]"
  | .field key value rest =>
      if ((Value.field key value rest).field? "toString").isSome then .error .typeError
      else .ok "[object Object]"

/-- A value in a template; `none` is `undefined`. -/
def template : Option Value → Except Threw String
  | none => .ok "undefined"
  | some value => toText value

/-- `value?.key`. -/
def chain (value : Option Value) (key : String) : Option Value := value.bind fun value => value.field? key

/-- `value ?? fallback`. -/
def orElse (value : Option Value) (fallback : Value) : Option Value :=
  if value = none ∨ value = some .null then some fallback else value

def falsy (value : Option Value) : Bool :=
  value = none || value = some .null || value = some (.bool false) || value = some (.number 0) ||
    value = some (.float 0) || value = some (.string "")

def items : Value → List Value
  | .item value rest => value :: items rest
  | _ => []

def rootV1Stage (stage : Value) : Except Threw String := do
  let name ← template (stage.field? "event")
  if name = "accepted" then
    let work ← template (stage.field? "work")
    let durable ← template (stage.field? "durable")
    pure ("accepted(work=" ++ work ++ ", durable=" ++ durable ++ ")")
  else if name = "output-closed" then
    let bytes ← template (stage.field? "bytes")
    pure ("output-closed(bytes=" ++ bytes ++ ")")
  else if name = "end" then
    let status ← template (stage.field? "status")
    let observer ← template (stage.field? "observer")
    let output ← template (chain (stage.field? "output") "state")
    pure ("end(" ++ status ++ ", observer=" ++ observer ++ ", output=" ++ output ++ ")")
  else if name = "output" then
    let chunks ← template (stage.field? "chunks")
    let bytes ← template (stage.field? "bytes")
    pure ("output(chunks=" ++ chunks ++ ", bytes=" ++ bytes ++ ")")
  else
    match stage.field? "reason" with
    | none => pure name
    | some reason => do
        let text ← toText reason
        pure (name ++ "(" ++ text ++ ")")

def rootV1Stages (stages : List Value) : Except Threw String := do
  let texts ← stages.mapM rootV1Stage
  pure (if texts.isEmpty then "none" else " -> ".intercalate texts)

def faultsText (faults : List Value) : Except Threw String := do
  let texts ← faults.mapM fun fault => if fault = .null then .ok "" else toText fault
  pure (if texts.isEmpty then "" else "; ".intercalate texts)

/-- What is said of the items of an array, or else. -/
def ifArray (value : Option Value) (text : List Value → Except Threw String) (other : String) :
    Except Threw String :=
  match value with
  | some value => if value.isArray then text (items value) else .ok other
  | none => .ok other

/-- What is said of the owner's record; the JSON text of its losses is left out, it always exists. -/
def rootV1Retention (record reference : Option Value) : Except Threw String :=
  if falsy record then if falsy reference then .ok "" else template reference
  else
    let state := chain record "state"
    let identity := chain record "identity"
    if (state ≠ some (.string "complete") ∧ state ≠ some (.string "partial")) ∨
        (identity.bind Value.asStr).isNone then
      template (orElse state (.string "unknown"))
    else do
      let state ← template state
      let bytes ← template (chain record "bytes")
      let received ← template (orElse (chain record "received") (.string "unknown"))
      let identity ← template identity
      pure (state ++ ", " ++ bytes ++ " bytes; received=" ++ received ++ " identity=" ++ identity)

def detailText (detail : Option Value) : Except Threw String :=
  if falsy detail then .ok "" else template detail

/-- How the work ended, by its exit code or else by its signal. -/
def exitText (exit : Option Value) : Except Threw String :=
  match chain exit "code" with
  | some code => toText code
  | none => template (chain exit "signal")

end Conversions

/-- The branches, each of which gives one answer. -/
inductive Branch
  | refused | notStarted | unknown | running | ended | endedOutputUnproven
  deriving DecidableEq, Repr

def Branch.outcome : Branch → String
  | .refused => "refused"
  | .notStarted => "not-started"
  | .unknown => "unknown"
  | .running => "running"
  | .ended => "ended"
  | .endedOutputUnproven => "ended-output-unproven"

/-- Two answers say that nothing was run; the others that the command runs, ran or may have run, and
not to replay it. -/
def Branch.mayHaveRun : Branch → Bool
  | .refused | .notStarted => false
  | .unknown | .running | .ended | .endedOutputUnproven => true

section Checks

/-- `Number.isSafeInteger`, with the integer. -/
def safeInteger : Option Value → Option Int
  | some (.number value) => if value.natAbs < 2 ^ 53 then some value else none
  | some (.float value) =>
      if value.den = 1 ∧ value.num.natAbs < 2 ^ 53 then some value.num else none
  | _ => none

def isVersionOne (version : Option Value) : Bool :=
  version = some (.number 1) || version = some (.float 1)

def isBoolean (value : Option Value) : Bool :=
  value = some (.bool true) || value = some (.bool false)

/-- `[A-Za-z0-9+/]` -/
def base64Character (c : Char) : Bool := c.isAlphanum || c = '+' || c = '/'

/-- `(?:[A-Za-z0-9+/]{4})*(?:[A-Za-z0-9+/]{2}==|[A-Za-z0-9+/]{3}=)?` -/
def base64Shape : List Char → Bool
  | [] => true
  | [a, b, c, d] =>
      base64Character a && base64Character b &&
        (base64Character c && (base64Character d || d = '=') || c = '=' && d = '=')
  | a :: b :: c :: d :: rest =>
      base64Character a && base64Character b && base64Character c && base64Character d &&
        base64Shape rest
  | _ => false

/-- `Buffer.from(text, "base64")`, for a text of that shape. -/
def bufferFrom (text : List Char) : Bytes := (decodeQuads text).getD []

def rootV1Outcomes : List String :=
  ["refused", "not-started", "ended", "ended-output-unproven", "unknown"]

def outcomeOf (value : Value) : Option String := (value.field? "outcome").bind Value.asStr

def surfaceInvalid (value : Value) : Bool :=
  let output := value.field? "output"
  value.field? "result_surface" ≠ some (.string resultSurface) ||
    !isVersionOne (value.field? "version") ||
    value.field? "delivery_mode" ≠ some (.string "sync") ||
    !(outcomeOf value).any (fun outcome => outcome ∈ rootV1Outcomes) ||
    !isBoolean (value.field? "effects_possible") || !isBoolean (value.field? "retry_safe") ||
    !(value.field? "stages").any Value.isArray || !(value.field? "faults").any Value.isArray ||
    falsy output || ((chain output "base64").bind Value.asStr).isNone ||
    (safeInteger (chain output "bytes")).isNone ||
    !((chain output "base64").bind Value.asStr).any (fun text => base64Shape text.toList)

def presentedOf (output : Option Value) : Option Int :=
  safeInteger ((chain output "presented_bytes").filter (· ≠ .null) <|> chain output "bytes")

def omittedOf (output : Option Value) : Option Int :=
  safeInteger (orElse (chain output "omitted_bytes") (.number 0))

def lengthMismatch (output : Option Value) : Bool :=
  let base64 := ((chain output "base64").bind Value.asStr).getD ""
  let bytes := bufferFrom base64.toList
  match presentedOf output, omittedOf output with
  | some presented, some omitted =>
      presented < 0 || omitted < 0 || safeInteger (chain output "bytes") ≠ some (presented + omitted) ||
        (bytes.length : Int) ≠ presented || RootV1.base64 bytes ≠ base64 ||
        (0 < omitted && chain output "remainder" ≠ some (.string "discarded") &&
          chain output "remainder" ≠ some (.string "retained-by-owner") &&
          chain output "remainder" ≠ some (.string "partial-owner-retention"))
  | _, _ => true

/-- `value !== null && typeof value === "object"`, for a property. -/
def isObjectNotNull : Option Value → Bool
  | some (.field _ _ _) | some .empty | some .nil | some (.item _ _) => true
  | _ => false

def outcomeInconsistent (value : Value) : Bool :=
  let outcome := (outcomeOf value).getD ""
  decide (outcome = "ended" ∨ outcome = "ended-output-unproven") ≠
      isObjectNotNull (value.field? "wait") ||
    value.field? "effects_possible" ≠
      some (.bool !(outcome = "refused" || outcome = "not-started"))

end Checks

variable [NumberText]

/-- The answer to a background result; `none` when the result is not one. -/
def rootV1AsyncResult (value : Value) : Except Threw (Option Branch) :=
  if value.field? "result_surface" ≠ some (.string resultSurface) ∨
      !isVersionOne (value.field? "version") ∨
      value.field? "delivery_mode" ≠ some (.string "async") then .ok none
  else do
    let _ ← ifArray (value.field? "stages") rootV1Stages "invalid"
    let _ ← ifArray (value.field? "faults") faultsText ""
    let reference := ((chain (value.field? "output") "reference").bind Value.asStr).filter (· ≠ "")
    match outcomeOf value with
    | some "running" =>
        if value.field? "wait" ≠ some .null ∨ value.field? "effects_possible" ≠ some (.bool true) ∨
            reference = none then
          .error (.unresolved "async result inconsistent")
        else pure (some .running)
    | some "refused" => do
        let _ ← template (chain (value.field? "refusal") "reason")
        pure (some .refused)
    | some "not-started" => pure (some .notStarted)
    | some "unknown" => do
        let _ ← template (value.field? "meaning")
        pure (some .unknown)
    | _ => .error (.unresolved "async result outcome invalid")

def rootV1Response (value : Value) : Except Threw Branch :=
  let output := value.field? "output"
  if surfaceInvalid value then .error (.unresolved "result surface invalid")
  else if lengthMismatch output then .error (.unresolved "output length or encoding mismatch")
  else if outcomeInconsistent value then .error (.unresolved "result outcome inconsistent")
  else do
    let _ ← rootV1Stages (((value.field? "stages").map items).getD [])
    let _ ← faultsText (((value.field? "faults").map items).getD [])
    let _ ← rootV1Retention (chain output "retained") (chain output "reference")
    match outcomeOf value with
    | some "refused" => do
        let _ ← template (chain (value.field? "refusal") "by")
        let _ ← template (chain (value.field? "refusal") "reason")
        let _ ← detailText (chain (value.field? "refusal") "detail")
        pure .refused
    | some "not-started" => pure .notStarted
    | some "unknown" => do
        let _ ← template (value.field? "meaning")
        pure .unknown
    | outcome => do
        let _ ← exitText (chain (value.field? "wait") "exit")
        let _ ← template (chain (value.field? "wait") "status")
        let _ ← template (chain (value.field? "wait") "observer")
        pure (if outcome = some "ended" then .ended else .endedOutputUnproven)

/-- `rootV1AsyncResult(run) ?? rootV1Response(run)`, for a run whose output is the result. -/
def answer (value : Value) : Except Threw Branch := do
  match ← rootV1AsyncResult value with
  | some branch => pure branch
  | none => rootV1Response value

/-- The adapter answers in the branch of the result's own outcome, with its effects and its retry
meaning. -/
def Agrees (value : Value) : Prop :=
  ∃ branch, answer value = .ok branch ∧ value.get "outcome" = .string branch.outcome ∧
    value.get "effects_possible" = .bool branch.mayHaveRun ∧
    value.get "retry_safe" = .bool !branch.mayHaveRun

end Adapter

end AgentBash
