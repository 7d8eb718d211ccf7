import AgentBash.Retention.Evidence
import AgentBash.RootV1.Base64
import AgentBash.Text.Utf8
import AgentBash.Text.Words

/-!
# Reading the stage lines of a root

`decode_async` and `decode` of `root_v1.rs`. A reply is a sequence of lines, each of which may fail
to be read or to parse. Both readers are loops with early ends, over a state that holds exactly the
variables of the source, and build one JSON object from what they found.
-/

namespace AgentBash

set_option autoImplicit false

namespace RootV1

open Text

def resultSurface : String := "agent-bash-root-v1"

def outputPrefixBytes : Nat := 64 * 1024

/-- A line of the reply, as reading and parsing leave it. -/
inductive Line
  | failed (error : String)
  | unparseable
  | event (value : Value)
  deriving DecidableEq, Repr

/-- What one turn of a loop over the lines does: go on, leave the loop or leave the function. -/
inductive Turn (σ : Type)
  | goOn (state : σ)
  | leave (state : σ)
  | answer (result : Value)

/-- The loop; an answer given inside it is the one of the function. -/
def walk {σ : Type} (turn : σ → Line → Turn σ) : σ → List Line → Except Value σ
  | state, [] => .ok state
  | state, line :: lines =>
      match turn state line with
      | .goOn state => walk turn state lines
      | .leave state => .ok state
      | .answer result => .error result

/-- What a loop comes to, with what follows it. -/
def conclude {σ : Type} (finish : σ → Value) : Except Value σ → Value
  | .error answer => answer
  | .ok state => finish state

def eventName (event : Value) : String := (event.get "event").asStr.getD ""

section Identities

/-- The parts of `rv1o:<root>:<work>:<bytes>:<sha256>`. -/
structure OutputIdentity where
  root : String
  work : Int
  bytes : Nat
  sha256 : String
  deriving DecidableEq, Repr

def OutputIdentity.render (identity : OutputIdentity) : List Char :=
  "rv1o:".toList ++ identity.root.toList ++ ':' :: signedDecimal identity.work ++
    ':' :: decimal identity.bytes ++ ':' :: identity.sha256.toList

def rootCharacter (c : Char) : Bool := c.isAlphanum || c = '-' || c = '_'

def hashCharacter (c : Char) : Bool := c.isDigit || ('a' ≤ c && c ≤ 'f')

/-- Parse the opaque identity without turning it into a path or authority. -/
def parseIdentity (identity : List Char) : Option OutputIdentity :=
  match identity.splitOn ':' with
  | [scheme, root, work, bytes, sha256] =>
      if scheme ≠ "rv1o".toList ∨ root = [] ∨ root.length > 64 ∨ !root.all rootCharacter ∨
          sha256.length ≠ 64 ∨ !sha256.all hashCharacter then none
      else do
        let work ← parseSigned 64 work
        let bytes ← parseUnsigned 64 bytes
        if work ≤ 0 ∨ bytes > 64 * 1024 * 1024 then none
        else
          let parsed : OutputIdentity := ⟨.ofList root, work, bytes, .ofList sha256⟩
          if parsed.render = identity then some parsed else none
  | _ => none

def parseReference (reference : List Char) : Option (String × Int) :=
  match reference.splitOn ':' with
  | [scheme, root, work] =>
      if scheme ≠ "rv1w".toList then none
      else
        (parseIdentity ("rv1o:".toList ++ root ++ ':' :: work ++ ":0:".toList ++
          List.replicate 64 '0')).map fun identity => (identity.root, identity.work)
  | _ => none

def validRecord (record : Value) : Bool :=
  match (record.get "identity").asStr.bind fun identity => parseIdentity identity.toList with
  | none => false
  | some identity =>
      record.get "root_id" = .string identity.root && record.get "work" = .number identity.work &&
        record.get "bytes" = .number identity.bytes &&
        record.get "sha256" = .string identity.sha256 &&
        (record.get "state" = .string "complete" || record.get "state" = .string "partial") &&
        (record.get "losses").isArray

/-- The reference that both results carry: the one the first stage names, when it is well formed. -/
def referenceOf (stages : List Value) : Option String := do
  let accepted ← stages.head?
  let root ← (accepted.get "root_id").asStr
  let work ← (accepted.get "work").asI64
  let reference := "rv1w:".toList ++ root.toList ++ ':' :: signedDecimal work
  (parseReference reference).map fun _ => .ofList reference

end Identities

def optional (text : Option String) : Value := text.elim .null .string

/-- Missing or null is not a positive failure. Other malformed values establish neither a successful
exec nor a failed one. -/
def startedExecError (event accepted : Value) : Except String (Option String) :=
  match event.field? "exec_error" with
  | none | some .null => .ok none
  | some (.string error) =>
      if error.isEmpty then .error "started-exec-error-invalid"
      else if accepted.get "durable" ≠ .bool true ∨ !(accepted.get "root_id").nonemptyStr ∨
          !(accepted.get "work").asI64.any fun work => 0 < work then
        .error "exec-error-without-usable-acceptance"
      else .ok (some error)
  | some _ => .error "started-exec-error-invalid"

def noOutput : Value := .object [("delivery", .string "none"), ("bytes", .number 0),
  ("base64", .string "")]

def refused (origin reason detail : String) : Value := .object [
  ("result_surface", .string resultSurface),
  ("version", .number 1),
  ("delivery_mode", .string "sync"),
  ("outcome", .string "refused"),
  ("effects_possible", .bool false),
  ("retry_safe", .bool true),
  ("refusal", .object [("by", .string origin), ("reason", .string reason),
    ("detail", .string detail)]),
  ("wait", .null),
  ("output", noOutput),
  ("faults", .nil),
  ("stages", .nil)]

section Background

/-- The variables of `decode_async`. -/
structure Background where
  stages : List Value := []
  faults : List String := []
  detached : Bool := false
  execError : Option String := none
  terminal : Option Value := none
  deriving DecidableEq, Repr

def refusedAsync (event : Value) (stages : List Value) : Value :=
  let result := refused "root-owner" "" ""
  let refusal := ((result.get "refusal").set "reason" (event.get "reason")).set "detail" .null
  ((result.set "delivery_mode" (.string "async")).set "refusal" refusal).set "stages"
    (.array stages)

def backgroundTurn (state : Background) : Line → Turn Background
  | .failed error => .leave { state with faults := state.faults ++ ["read-failed: " ++ error] }
  | .unparseable =>
      .leave { state with faults := state.faults ++ ["protocol-violation: unparseable stage line"] }
  | .event event =>
      let name := eventName event
      let stages := state.stages ++ [event]
      let state := { state with stages }
      let first := stages.headD .null
      if name = "refused" ∧ stages.length = 1 then .answer (refusedAsync event stages)
      else if name = "accepted" ∧ stages.length = 1 ∧ event.get "delivery" = .string "async" then
        .goOn state
      else if name = "started" ∧ stages.length = 2 then
        match startedExecError event first with
        | .ok error => .goOn { state with execError := error }
        | .error fault => .leave { state with faults := state.faults ++ [fault] }
      else if name = "detached" ∧ stages.length = 3 ∧ event.get "work" = first.get "work" ∧
          (state.execError = none ∨
            event.get "completion" = .string "owed-to-requesting-harness") then
        .leave { state with detached := true }
      else if (name = "launch-failed" ∨ name = "launch-unknown") ∧ stages.length = 2 then
        .leave { state with terminal := some event }
      else .leave { state with faults := state.faults ++ ["unexpected-stage: " ++ name] }

/-- The fields that every result of a background run but a refusal has. -/
def Background.base (state : Background) (sent : Bool) (outcome meaning : String) (effects : Bool)
    (faults : List String) : Value := .object [
  ("result_surface", .string resultSurface),
  ("version", .number 1),
  ("delivery_mode", .string "async"),
  ("outcome", .string outcome),
  ("meaning", .string meaning),
  ("effects_possible", .bool effects),
  ("retry_safe", .bool !effects),
  ("refusal", .null),
  ("wait", .null),
  ("output", .object [("delivery", .string "none"), ("bytes", .number 0), ("base64", .string ""),
    ("reference", optional (referenceOf state.stages))]),
  ("faults", .array (faults.map .string)),
  ("stages", .array state.stages),
  ("request_sent", .bool sent),
  ("exec_error", optional state.execError)]

/-- What the loop found, as one object. -/
def Background.result (state : Background) (sent : Bool) : Value :=
  let first := state.stages.headD .null
  if state.detached ∧ state.faults = [] then
    (state.base sent
      (if state.execError.isSome then "unknown" else "running")
      (if state.execError.isSome then
        "requested-program-exec-failed; work end, wait and output owed to the requesting harness " ++
          "as a later input"
      else
        "accepted-and-started; end, wait and output owed to the requesting harness as a later input")
      true state.faults).set "completion" (.object [
        ("delivery", .string "owed-to-requesting-harness"),
        ("work", first.get "work"),
        ("root_id", first.get "root_id")])
  else
    match state.terminal with
    | some ending =>
        if ending.get "event" = .string "launch-failed" ∧ ending.get "not_started" = .bool true then
          state.base sent "not-started" "launch-refused-before-start" false state.faults
        else state.base sent "unknown" "possible-effect-unknown" true state.faults
    | none =>
        if first.get "event" = .string "accepted" then
          state.base sent "unknown" "accepted-completion-delivery-unknown" true
            (if state.detached then state.faults else state.faults ++ ["no-detached-stage"])
        else
          state.base sent "unknown" "possible-effect-unknown" true
            (if state.faults = [] then ["no-final-stage"] else state.faults)

def decodeAsync (lines : List Line) (sent : Bool) : Value :=
  conclude (fun state => state.result sent) (walk backgroundTurn {} lines)

end Background

section Stream

/-- The variables of `decode`; `streamed` is what the digest has been fed. -/
structure Stream where
  stages : List Value := []
  faults : List String := []
  output : Bytes := []
  bytes : Nat := 0
  outputStage : Option Nat := none
  chunks : Nat := 0
  streamed : Bytes := []
  accepted : Bool := false
  started : Bool := false
  execError : Option String := none
  closed : Bool := false
  outputFault : Bool := false
  orderFault : Bool := false
  terminal : Option Value := none
  deriving DecidableEq, Repr

namespace Stream

/-- The answer to a refusal that is the first stage. -/
def refusal (event : Value) (stages : List Value) : Value := .object [
  ("result_surface", .string resultSurface),
  ("version", .number 1),
  ("delivery_mode", .string "sync"),
  ("outcome", .string "refused"),
  ("effects_possible", .bool false),
  ("retry_safe", .bool true),
  ("refusal", .object [("by", .string "root-owner"), ("reason", event.get "reason"),
    ("detail", .null)]),
  ("wait", .null),
  ("output", noOutput),
  ("faults", .nil),
  ("stages", .array stages)]

def fault (state : Stream) (text : String) : Stream :=
  { state with faults := state.faults ++ [text] }

/-- Where the stage of the output stands: the first chunk adds it to the list. -/
def outputIndex (state : Stream) : Nat := state.outputStage.getD state.stages.length

def announce (state : Stream) : Stream :=
  { state with
    chunks := state.chunks + 1
    outputStage := some state.outputIndex
    stages := if state.outputStage.isSome then state.stages
      else state.stages ++ [.object [("event", .string "output")]] }

def hear (state : Stream) (event : Value) : Stream :=
  if !state.started then { state.fault "output-before-started" with orderFault := true }
  else
    match (event.get "b64").asStr.bind unbase64 with
    | none => { state.fault "output-invalid-or-missing-base64" with outputFault := true }
    | some chunk =>
        if state.closed then { state.fault "output-after-closure" with outputFault := true }
        else
          { state with
            streamed := state.streamed ++ chunk
            bytes := state.bytes + chunk.length
            output := state.output ++
              chunk.take (min chunk.length (outputPrefixBytes - state.output.length)) }

/-- The one stage for all chunks. -/
def chunkStage (chunks bytes : Nat) : Value := .object [("event", .string "output"),
  ("chunks", .number chunks), ("bytes", .number bytes)]

/-- Output chunks are counted, not retained as an ever-growing stage list. -/
def outputLine (state : Stream) (event : Value) : Stream :=
  let index := state.outputIndex
  let state := state.announce.hear event
  { state with stages := state.stages.set index (chunkStage state.chunks state.bytes) }

/-- A terminal-looking stage out of order still ends the reply. -/
def looksTerminal (name : String) : Bool :=
  name = "refused" || name = "end" || name = "end-unknown" || name = "launch-failed" ||
    name = "launch-unknown" || name = "left-to-successor"

def startedLine (state : Stream) (event : Value) : Stream :=
  let state := { state with started := true }
  match startedExecError event (state.stages.headD .null) with
  | .ok error => { state with execError := error }
  | .error text => { state.fault text with orderFault := true }

def closedLine (state : Stream) (event : Value) : Stream :=
  let state := { state with closed := true }
  if (event.get "bytes").asU64 ≠ some state.bytes then
    { state.fault "output-byte-count-mismatch" with outputFault := true }
  else state

def turn (state : Stream) : Line → Turn Stream
  | .failed error => .leave (state.fault ("read-failed: " ++ error))
  | .unparseable =>
      .leave { state.fault "protocol-violation: unparseable stage line" with orderFault := true }
  | .event event =>
      let name := eventName event
      if name = "output" then .goOn (state.outputLine event)
      else
        let state := { state with stages := state.stages ++ [event] }
        if name = "refused" ∧ state.stages.length = 1 then .answer (refusal event state.stages)
        else if name = "accepted" ∧ state.stages.length = 1 then .goOn { state with accepted := true }
        else if name = "started" ∧ state.accepted ∧ !state.started then
          .goOn (state.startedLine event)
        else if name = "output-closed" ∧ state.started ∧ !state.closed then
          .goOn (state.closedLine event)
        else if name = "output-failed" ∧ state.started then
          .goOn { state.fault "owner-output-failed" with outputFault := true }
        else if name = "end" ∧ state.started then .leave { state with terminal := some event }
        else if (name = "launch-failed" ∨ name = "launch-unknown") ∧ state.accepted ∧
            !state.started then
          .leave { state with terminal := some event }
        else if (name = "end-unknown" ∨ name = "left-to-successor") ∧ state.accepted then
          .leave { state with terminal := some event }
        else
          let state := { state.fault ("unexpected-stage: " ++ name) with orderFault := true }
          if looksTerminal name then .leave state else .goOn state

/-- In a truncated result a character that is cut is omitted; bytes are never replaced. -/
def presented (state : Stream) : Bytes :=
  if state.output.length < state.bytes then
    match fromUtf8 state.output with
    | .error { validUpTo, errorLen := none } => state.output.take validUpTo
    | _ => state.output
  else state.output

variable [Codec]

/-- What the terminal stage says of the retained output. -/
def ownRecord (state : Stream) : Value :=
  (state.terminal.map fun ending => ending.get "retained").getD .null

/-- The record names the accepted work and, when it is complete, this very stream. -/
def recordHolds (state : Stream) (retained : Value) : Bool :=
  let valid := validRecord retained && state.stages.head?.any fun first =>
    first.get "work" = retained.get "work" && first.get "root_id" = retained.get "root_id"
  let completeMatches := retained.get "state" ≠ .string "complete" ||
    ((retained.get "received").asU64 = some state.bytes &&
      (retained.get "bytes").asU64 = some state.bytes &&
      retained.get "sha256" = .string (Codec.sha256 state.streamed))
  valid && completeMatches

/-- What is said of the retained record: the owner's own words, unless they do not hold. -/
def retained (state : Stream) : Value × Bool :=
  if state.ownRecord ≠ .null ∧ state.ownRecord.get "state" ≠ .string "unsealed" ∧
      !state.recordHolds state.ownRecord then
    (.object [("state", .string "unknown"),
      ("reason", .string "retained-identity-or-stream-mismatch")], true)
  else (state.ownRecord, false)

def allFaults (state : Stream) : List String :=
  if state.retained.2 then state.faults ++ ["retained-identity-or-stream-mismatch"]
  else state.faults

def omitted (state : Stream) : Nat := state.bytes - state.presented.length

def presentation (state : Stream) (delivery : String) : Value := .object [
  ("delivery", .string delivery),
  ("bytes", .number state.bytes),
  ("presented_bytes", .number state.presented.length),
  ("omitted_bytes", .number state.omitted),
  ("remainder", .string
    (if state.omitted > 0 then
      if state.retained.1.get "state" = .string "complete" then "retained-by-owner"
      else if state.retained.1.get "state" = .string "partial" then "partial-owner-retention"
      else "discarded"
    else "none")),
  ("retained", state.retained.1),
  ("reference", optional (referenceOf state.stages)),
  ("base64", .string (base64 state.presented))]

def unknown (state : Stream) (sent : Bool) (meaning : String) (faults : List String)
    (delivery : String) : Value := .object [
  ("result_surface", .string resultSurface),
  ("version", .number 1),
  ("delivery_mode", .string "sync"),
  ("outcome", .string "unknown"),
  ("meaning", .string meaning),
  ("exec_error", optional state.execError),
  ("effects_possible", .bool true),
  ("retry_safe", .bool false),
  ("refusal", .null),
  ("wait", .null),
  ("output", state.presentation delivery),
  ("faults", .array (faults.map .string)),
  ("stages", .array state.stages),
  ("request_sent", .bool sent)]

end Stream

/-- `code:N` or `signal:N` as written by the root's work PID 1 wait. -/
def waitStatus (status : String) : Option Value :=
  match List.dropPrefix? status.toList "code:".toList with
  | some code => (parseSigned 32 code).map fun code => .object [("code", .number code)]
  | none => do
      let signal ← List.dropPrefix? status.toList "signal:".toList
      (parseSigned 32 signal).map fun signal => .object [("signal", .number signal)]

variable [Codec]

namespace Stream

/-- The faults of a work that ended: the closure and the end's own output state count too. -/
def endFaults (state : Stream) (ending : Value) : List String :=
  let faults := if state.closed then state.allFaults else state.allFaults ++ ["output-not-closed"]
  let output := ending.get "output"
  if output.get "state" ≠ .string "closed" ∨ (output.get "bytes").asU64 ≠ some state.bytes then
    faults ++ ["end-output-state-not-closed-with-count"]
  else faults

def complete (state : Stream) (ending : Value) : Bool :=
  !state.outputFault && (state.endFaults ending).isEmpty

/-- The result of a work that ended with a usable wait status. -/
def ended (state : Stream) (ending wait : Value) (status observer : String) : Value := .object [
  ("result_surface", .string resultSurface),
  ("version", .number 1),
  ("delivery_mode", .string "sync"),
  ("outcome", .string (if state.complete ending then "ended" else "ended-output-unproven")),
  ("meaning", .string
    (if state.execError.isSome then "requested-program-exec-failed" else "work-ended")),
  ("exec_error", optional state.execError),
  ("effects_possible", .bool true),
  ("retry_safe", .bool false),
  ("refusal", .null),
  ("wait", .object [("status", .string status), ("observer", .string observer), ("exit", wait)]),
  ("output", state.presentation
    (if !state.complete ending then "unproven"
    else if state.omitted > 0 then "partial" else "complete")),
  ("faults", .array ((state.endFaults ending).map .string)),
  ("stages", .array state.stages)]

def notStarted (state : Stream) : Value := .object [
  ("result_surface", .string resultSurface),
  ("version", .number 1),
  ("delivery_mode", .string "sync"),
  ("outcome", .string "not-started"),
  ("effects_possible", .bool false),
  ("retry_safe", .bool true),
  ("refusal", .null),
  ("wait", .null),
  ("output", noOutput),
  ("faults", .array (state.allFaults.map .string)),
  ("stages", .array state.stages)]

/-- What follows the loop. -/
def result (state : Stream) (sent : Bool) : Value :=
  match state.terminal.filter fun _ => !state.orderFault with
  | none =>
      state.unknown sent (if state.accepted then "accepted-end-unknown" else "possible-effect-unknown")
        (if state.orderFault then state.allFaults else state.allFaults ++ ["no-final-stage"])
        "unproven"
  | some ending =>
      let name := eventName ending
      if name = "end" then
        let status := (ending.get "status").asStr.getD ""
        let observer := (ending.get "observer").asStr.getD ""
        match waitStatus status with
        | some wait =>
            if observer = "work-pid1-wait" then state.ended ending wait status observer
            else state.unknown sent "ended-status-unknown"
              (state.allFaults ++ ["end-without-usable-wait-status"]) "unproven"
        | none => state.unknown sent "ended-status-unknown"
            (state.allFaults ++ ["end-without-usable-wait-status"]) "unproven"
      else if name = "launch-failed" ∧ ending.get "not_started" = .bool true then state.notStarted
      else
        state.unknown sent
          (if name = "launch-failed" ∨ name = "launch-unknown" then "possible-effect-unknown"
          else if name = "left-to-successor" then "left-to-successor"
          else "accepted-end-unknown")
          state.allFaults "unproven"

end Stream

def decode (lines : List Line) (sent : Bool) : Value :=
  conclude (fun state => state.result sent) (walk Stream.turn {} lines)

end Stream

section Running

def rootBashEnv : String := "OULIPOLY_ROOT_BASH_V1"

/-- The completion delivery a run asked for; the default never backgrounds a command. -/
inductive Delivery
  | sync | async | unspecified
  deriving DecidableEq, Repr

/-- What the caller asked `run` for, as far as its result depends on it. -/
structure Request where
  delivery : Delivery
  unsupported : List String
  deriving DecidableEq, Repr

/-- What the outside answers: a directory that is not UTF-8 has no text. -/
structure Surroundings where
  ingress : String
  currentDir : Except String (Option String)
  connect : Except String Unit
  sent : Bool
  reply : List Line

variable [Codec]

/-- Runs one request and returns the result object. -/
def run (request : Request) (outside : Surroundings) : Value :=
  if request.delivery = .unspecified then
    refused "agent-bash" "delivery-required-under-root-v1"
      "root v1 needs an explicit --delivery sync or --delivery async"
  else
    match request.unsupported.head? with
    | some flag =>
        refused "agent-bash" "option-unavailable-under-root-v1" (flag ++ " has no root v1 equivalent")
    | none =>
        if outside.ingress = "" then
          refused "agent-bash" "no-ingress" (rootBashEnv ++ " is empty")
        else
          match outside.currentDir with
          | .error error => refused "agent-bash" "no-cwd" error
          | .ok none => refused "agent-bash" "no-cwd" "current directory is not UTF-8"
          | .ok (some _) =>
              match outside.connect with
              | .error error => refused "agent-bash" "owner-unreachable" error
              | .ok () =>
                  if request.delivery = .async then decodeAsync outside.reply outside.sent
                  else decode outside.reply outside.sent

end Running

end RootV1

end AgentBash
