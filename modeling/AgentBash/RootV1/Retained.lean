import AgentBash.RootV1.Foreground
import Mathlib.Data.List.Range

/-!
# Reading retained output

`retained` of `root_v1.rs`: one read of a range or one acceptance, through the owner. Identities have
one spelling each. What the owner answers is checked field by field against what was asked, so ranges
that are read one after another lie end to end.
-/

namespace AgentBash

set_option autoImplicit false

open Durable Text

namespace RootV1

section Spelling

/-- What the parts of an identity have to be. -/
structure OutputIdentity.Canonical (identity : OutputIdentity) : Prop where
  root_some : identity.root.toList ≠ []
  root_short : identity.root.toList.length ≤ 64
  root_characters : ∀ c ∈ identity.root.toList, rootCharacter c = true
  work_positive : 0 < identity.work
  work_fits : identity.work < 2 ^ 63
  bytes_bounded : identity.bytes ≤ 64 * 1024 * 1024
  hash_length : identity.sha256.toList.length = 64
  hash_characters : ∀ c ∈ identity.sha256.toList, hashCharacter c = true

def renderReference (root : String) (work : Int) : List Char :=
  "rv1w:".toList ++ root.toList ++ ':' :: signedDecimal work

theorem parseSigned_lt {bits : Nat} {text : List Char} {value : Int}
    (parsed : parseSigned bits text = some value) : value < 2 ^ (bits - 1) := by
  unfold parseSigned at parsed
  split at parsed
  · obtain ⟨negated, found, same⟩ := Option.map_eq_some_iff.mp parsed
    obtain ⟨digits, _, cast⟩ := Option.bind_eq_some_iff.mp found
    have is_cast : (digits : Int) = negated := Option.some.inj cast
    have power : (0 : Int) < 2 ^ (bits - 1) := Int.pow_pos (by decide)
    omega
  · obtain ⟨digits, found, same⟩ := Option.map_eq_some_iff.mp parsed
    obtain ⟨_, fits⟩ := Option.filter_eq_some_iff.mp found
    have bound : digits < 2 ^ (bits - 1) := of_decide_eq_true fits
    have cast : (digits : Int) < ((2 ^ (bits - 1) : Nat) : Int) := Int.ofNat_lt.mpr bound
    rw [Int.natCast_pow] at cast
    exact same ▸ cast

theorem colon_notMem_root {text : List Char} (characters : ∀ c ∈ text, rootCharacter c = true) :
    ':' ∉ text := fun inside => absurd (characters ':' inside) (by decide)

theorem colon_notMem_hash {text : List Char} (characters : ∀ c ∈ text, hashCharacter c = true) :
    ':' ∉ text := fun inside => absurd (characters ':' inside) (by decide)

theorem colon_notMem_decimal (value : Nat) : ':' ∉ decimal value := fun inside =>
  absurd (isDigit_of_mem_decimal inside) (by decide)

namespace OutputIdentity

variable {identity : OutputIdentity}

theorem render_eq (identity : OutputIdentity) : identity.render =
    [':'].intercalate ["rv1o".toList, identity.root.toList, signedDecimal identity.work,
      decimal identity.bytes, identity.sha256.toList] := by
  have scheme : "rv1o:".toList = "rv1o".toList ++ [':'] := by decide
  unfold render
  rw [scheme]
  simp only [List.intercalate_cons_cons, List.intercalate_singleton, List.append_assoc,
    List.cons_append, List.nil_append]

theorem splitOn_render (canonical : identity.Canonical) : identity.render.splitOn ':' =
    ["rv1o".toList, identity.root.toList, signedDecimal identity.work, decimal identity.bytes,
      identity.sha256.toList] := by
  rw [render_eq]
  refine List.splitOn_intercalate ':' ?_ (by simp)
  intro part inside
  simp only [List.mem_cons, List.not_mem_nil, or_false] at inside
  rcases inside with rfl | rfl | rfl | rfl | rfl
  · decide
  · exact colon_notMem_root canonical.root_characters
  · exact notMem_signedDecimal (by decide) (by decide)
  · exact colon_notMem_decimal _
  · exact colon_notMem_hash canonical.hash_characters

theorem parse_render (canonical : identity.Canonical) :
    parseIdentity identity.render = some identity := by
  obtain ⟨work, is_work⟩ : ∃ work : Nat, identity.work = work :=
    Int.eq_ofNat_of_zero_le (Int.le_of_lt canonical.work_positive)
  have work_fits : work < 2 ^ (64 - 1) := by
    have fits := canonical.work_fits
    rw [is_work] at fits
    exact_mod_cast fits
  have bytes_fit : identity.bytes < 2 ^ 64 := by
    have bounded := canonical.bytes_bounded
    omega
  have reads_work : parseSigned 64 (signedDecimal identity.work) = some identity.work := by
    rw [is_work]
    exact parseSigned_decimal work_fits
  have reads_bytes := parseUnsigned_decimal bytes_fit
  have roots : identity.root.toList.all rootCharacter = true :=
    List.all_eq_true.mpr canonical.root_characters
  have hashes : identity.sha256.toList.all hashCharacter = true :=
    List.all_eq_true.mpr canonical.hash_characters
  have positive := canonical.work_positive
  have bounded := canonical.bytes_bounded
  have checks : ¬ ("rv1o".toList ≠ "rv1o".toList ∨ identity.root.toList = [] ∨
      identity.root.toList.length > 64 ∨ (!identity.root.toList.all rootCharacter) = true ∨
      identity.sha256.toList.length ≠ 64 ∨ (!identity.sha256.toList.all hashCharacter) = true) := by
    rintro (differs | empty | long | root | length | hash)
    · exact differs rfl
    · exact canonical.root_some empty
    · exact absurd canonical.root_short (Nat.not_le.mpr long)
    · rw [roots] at root
      cases root
    · exact length canonical.hash_length
    · rw [hashes] at hash
      cases hash
  have range : ¬ (identity.work ≤ 0 ∨ identity.bytes > 64 * 1024 * 1024) := by omega
  unfold parseIdentity
  rw [splitOn_render canonical]
  simp only [if_neg checks, reads_work, reads_bytes, Option.bind_eq_bind, Option.bind_some,
    if_neg range, String.ofList_toList, if_true]

theorem canonical_of_parse {text : List Char} (parsed : parseIdentity text = some identity) :
    identity.Canonical := by
  unfold parseIdentity at parsed
  split at parsed
  · next scheme root work bytes hash parts =>
    split at parsed
    · cases parsed
    · next checks =>
      simp only [not_or, Bool.not_eq_true', Bool.not_eq_false] at checks
      obtain ⟨_, root_some, short, roots, length, hashes⟩ := checks
      simp only [Option.bind_eq_bind, Option.bind_eq_some_iff] at parsed
      obtain ⟨work, reads_work, bytes, _, parsed⟩ := parsed
      split at parsed
      · cases parsed
      · next range =>
        split at parsed
        · have same := Option.some.inj parsed
          subst same
          have fits := parseSigned_lt reads_work
          refine ⟨?_, ?_, ?_, ?_, fits, ?_, ?_, ?_⟩
          · rw [String.toList_ofList]
            exact root_some
          · rw [String.toList_ofList]
            exact Nat.not_lt.mp short
          · rw [String.toList_ofList]
            exact List.all_eq_true.mp roots
          · exact Int.not_le.mp fun below => range (.inl below)
          · exact Nat.not_lt.mp fun above => range (.inr above)
          · rw [String.toList_ofList]
            exact not_not.mp length
          · rw [String.toList_ofList]
            exact List.all_eq_true.mp hashes
        · cases parsed
  · cases parsed

end OutputIdentity

theorem parseIdentity_iff {text : List Char} {identity : OutputIdentity} :
    parseIdentity text = some identity ↔ identity.Canonical ∧ identity.render = text := by
  constructor
  · intro parsed
    exact ⟨OutputIdentity.canonical_of_parse parsed, parseIdentity_render parsed⟩
  · rintro ⟨canonical, rfl⟩
    exact OutputIdentity.parse_render canonical

/-- The identity that a reference is read through. -/
def referred (root : String) (work : Int) : OutputIdentity :=
  ⟨root, work, 0, .ofList (List.replicate 64 '0')⟩

theorem renderReference_eq (root : String) (work : Int) : renderReference root work =
    [':'].intercalate ["rv1w".toList, root.toList, signedDecimal work] := by
  have scheme : "rv1w:".toList = "rv1w".toList ++ [':'] := by decide
  unfold renderReference
  rw [scheme]
  simp only [List.intercalate_cons_cons, List.intercalate_singleton, List.append_assoc,
    List.cons_append, List.nil_append]

theorem splitOn_renderReference {root : String} {work : Int}
    (canonical : (referred root work).Canonical) : (renderReference root work).splitOn ':' =
      ["rv1w".toList, root.toList, signedDecimal work] := by
  rw [renderReference_eq]
  refine List.splitOn_intercalate ':' ?_ (by simp)
  intro part inside
  simp only [List.mem_cons, List.not_mem_nil, or_false] at inside
  rcases inside with rfl | rfl | rfl
  · decide
  · exact colon_notMem_root canonical.root_characters
  · exact notMem_signedDecimal (by decide) (by decide)

/-- The identity that the parser of references spells out for its own parts. -/
theorem referred_text (root work : List Char) :
    "rv1o:".toList ++ root ++ ':' :: work ++ ":0:".toList ++ List.replicate 64 '0' =
      [':'].intercalate ["rv1o".toList, root, work, decimal 0, List.replicate 64 '0'] := by
  have scheme : "rv1o:".toList = "rv1o".toList ++ [':'] := by decide
  have zero : ":0:".toList = ':' :: decimal 0 ++ [':'] := by decide
  rw [scheme, zero]
  simp only [List.intercalate_cons_cons, List.intercalate_singleton, List.append_assoc,
    List.cons_append, List.nil_append]

theorem parseReference_iff {text : List Char} {root : String} {work : Int} :
    parseReference text = some (root, work) ↔
      (referred root work).Canonical ∧ renderReference root work = text := by
  constructor
  · intro parsed
    unfold parseReference at parsed
    split at parsed
    · next scheme root_ work_ parts =>
      split at parsed
      · cases parsed
      · next is_scheme =>
        obtain ⟨identity, found, same⟩ := Option.map_eq_some_iff.mp parsed
        obtain ⟨canonical, renders⟩ := parseIdentity_iff.mp found
        -- both spellings of the identity split into the same parts
        have pieces := OutputIdentity.splitOn_render canonical
        have split_ : ∀ piece ∈ [scheme, root_, work_], ':' ∉ piece := fun piece inside =>
          by
          rw [← parts] at inside
          exact notMem_of_mem_splitOn inside
        have colonless : ∀ piece ∈ ["rv1o".toList, root_, work_, decimal 0, List.replicate 64 '0'],
            ':' ∉ piece := by
          intro piece inside
          simp only [List.mem_cons, List.not_mem_nil, or_false] at inside
          rcases inside with rfl | rfl | rfl | rfl | rfl
          · decide
          · exact split_ _ (by simp)
          · exact split_ _ (by simp)
          · decide
          · decide
        rw [renders, referred_text, List.splitOn_intercalate ':' colonless (by simp)] at pieces
        simp only [List.cons.injEq, and_true] at pieces
        obtain ⟨_, is_root, is_work, _, _⟩ := pieces
        have roots : identity.root = root := congrArg Prod.fst same
        have works : identity.work = work := congrArg Prod.snd same
        have whole : [':'].intercalate (text.splitOn ':') = text := List.intercalate_splitOn ':'
        rw [parts, not_not.mp is_scheme, is_root, is_work, roots, works,
          ← renderReference_eq] at whole
        refine ⟨?_, whole⟩
        rw [← roots, ← works]
        have zeros : (referred identity.root identity.work).sha256.toList = List.replicate 64 '0' :=
          String.toList_ofList
        refine ⟨canonical.root_some, canonical.root_short, canonical.root_characters,
          canonical.work_positive, canonical.work_fits, Nat.zero_le _, ?_, ?_⟩
        · rw [zeros, List.length_replicate]
        · rw [zeros]
          exact fun c inside => List.eq_of_mem_replicate inside ▸ rfl
    · cases parsed
  · rintro ⟨canonical, rfl⟩
    have spelled : (referred root work).render =
        "rv1o:".toList ++ root.toList ++ ':' :: signedDecimal work ++ ":0:".toList ++
          List.replicate 64 '0' := by
      rw [referred_text, OutputIdentity.render_eq]
      simp only [referred, String.toList_ofList]
    have parsed := OutputIdentity.parse_render canonical
    rw [spelled] at parsed
    unfold parseReference
    rw [splitOn_renderReference canonical]
    simp only [ne_eq, not_true_eq_false, if_false, parsed, Option.map_some, referred]

end Spelling

section Requests

def outputSurface : String := "agent-bash-root-v1-output"

/-- How a request ends: refused here or by the owner, without a usable reply, or with a reply that
passed every check. -/
inductive Answer
  | refused (reason : String)
  | unknown (sent : Bool)
  | checked (reply : Value)

def Answer.value (accept : Bool) : Answer → Value
  | .refused reason => .object [
      ("result_surface", .string outputSurface),
      ("version", .number 1),
      ("outcome", .string "refused"),
      ("reason", .string reason)]
  | .unknown sent => .object [
      ("result_surface", .string outputSurface),
      ("version", .number 1),
      ("outcome", .string "unknown"),
      ("reason", .string "reply-missing-or-invalid"),
      ("request_sent", .bool sent),
      ("acceptance", .string "unconfirmed")]
  | .checked reply => .object [
      ("result_surface", .string outputSurface),
      ("version", .number 1),
      ("outcome", .string (if accept then "accepted" else "read")),
      ("reply", reply)]

def maxRangeBytes : Nat := 256 * 1024

def maxLineBytes : Nat := 400000

def newline : UInt8 := 10

/-- What comes of a request: whether it was sent, and what the owner sends back. -/
structure Exchange where
  sent : Bool
  stream : Except IoError Bytes

/-- The owner behind an ingress, if it can be reached. -/
abbrev Owner := Option (Value → Exchange)

/-- `read_until`: the line ends behind the delimiter, or with the stream. -/
def readUntil (delimiter : UInt8) : Bytes → Bytes
  | [] => []
  | byte :: rest => if byte = delimiter then [byte] else byte :: readUntil delimiter rest

def retainedRequest (exact : Option OutputIdentity) (accept : Bool) (root : String) (work : Int)
    (offset length : Nat) : Value :=
  let request := .object [("v", .number 1), ("op", .string (if accept then "accept" else "output")),
    ("root_id", .string root), ("work", .number work), ("offset", .number offset),
    ("length", .number length)]
  match exact with
  | some identity =>
      (request.set "bytes" (.number identity.bytes)).set "sha256" (.string identity.sha256)
  | none => request

/-- An acceptance is durable and names what was asked for. -/
def acceptanceHolds (reply : Value) (root : String) (work : Int) (bytes : Nat) (hash : String) :
    Bool :=
  reply.get "event" = .string "output-accepted" && reply.get "durable" = .bool true &&
    (reply.get "repeat" = .bool true || reply.get "repeat" = .bool false) &&
    (reply.get "receipt").get "root_id" = .string root &&
    (reply.get "receipt").get "work" = .number work &&
    (reply.get "receipt").get "bytes" = .number bytes &&
    (reply.get "receipt").get "sha256" = .string hash

/-- A range is the one that was asked for, cut off where the output ends. -/
def rangeHolds (reply : Value) (bytes offset length : Nat) : Bool :=
  match (reply.get "b64").asStr.bind unbase64 with
  | none => false
  | some data =>
      if offset > bytes then false
      else
        let take := min length (bytes - offset)
        reply.get "event" = .string "output-range" && reply.get "offset" = .number offset &&
          reply.get "length" = .number take && data.length = take &&
          reply.get "next_offset" = .number (offset + take : Nat) &&
          reply.get "eof" = .bool (offset + take = bytes)

variable [Codec]

def parsedReply (exchange : Exchange) : Option Value :=
  match exchange.stream with
  | .error _ => none
  | .ok stream =>
      let line := readUntil newline (stream.take maxLineBytes)
      if line.getLast? = some newline then Codec.parse line else none

omit [Codec] in
/-- The checks of a reply that is no refusal. The source expects both fields of a record that it has
validated. -/
def replyHolds (exact : Option OutputIdentity) (identity : String) (accept : Bool) (root : String)
    (work : Int) (offset length : Nat) (reply : Value) : Bool :=
  let record := reply.get "retained"
  validRecord record && record.get "root_id" = .string root && record.get "work" = .number work &&
    (exact.isNone || record.get "identity" = .string identity) &&
    match (record.get "bytes").asU64, (record.get "sha256").asStr with
    | some bytes, some hash =>
        if accept then acceptanceHolds reply root work bytes hash
        else rangeHolds reply bytes offset length
    | _, _ => false

/-- What is made of the owner's line. -/
def replyAnswer (exact : Option OutputIdentity) (identity : String) (accept : Bool) (root : String)
    (work : Int) (offset length : Nat) (exchange : Exchange) : Answer :=
  match parsedReply exchange with
  | none => .unknown exchange.sent
  | some reply =>
      if reply.get "event" = .string "refused" then
        .refused ((reply.get "reason").asStr.getD "owner-refused")
      else if replyHolds exact identity accept root work offset length reply then .checked reply
      else .unknown exchange.sent

def retainedAnswer (owner : Owner) (identity : String) (accept : Bool) (offset length : Nat) :
    Answer :=
  let exact := parseIdentity identity.toList
  let target := (exact.map fun parsed => (parsed.root, parsed.work)).or
    (if accept then none else parseReference identity.toList)
  match target with
  | none => .refused "bad-identity"
  | some (root, work) =>
      if !accept && (length = 0 || length > maxRangeBytes ||
          offset > (exact.map OutputIdentity.bytes).getD (64 * 1024 * 1024)) then
        .refused "bad-range"
      else
        match owner with
        | none => .refused "owner-unreachable"
        | some respond =>
            replyAnswer exact identity accept root work offset length
              (respond (retainedRequest exact accept root work offset length))

def Answer.outcome (accept : Bool) : Answer → String
  | .refused _ => "refused"
  | .unknown _ => "unknown"
  | .checked _ => if accept then "accepted" else "read"

/-- Explicit read or local acceptance through the same attributed ingress. Only an exact identity can
be accepted. -/
def retained (owner : Owner) (identity : String) (accept : Bool) (offset length : Nat) : Value :=
  (retainedAnswer owner identity accept offset length).value accept

end Requests

section Replies

theorem get_outcome (answer : Answer) (accept : Bool) :
    (answer.value accept).get "outcome" = .string (answer.outcome accept) := by
  cases answer with
  | refused reason =>
      rw [Answer.value, Value.get_object]
      rfl
  | unknown sent =>
      rw [Answer.value, Value.get_object]
      rfl
  | checked reply =>
      rw [Answer.value, Value.get_object]
      rfl

theorem checked_of_success {answer : Answer} {accept : Bool}
    (succeeded : (answer.value accept).get "outcome" =
      .string (if accept then "accepted" else "read")) :
    ∃ reply, answer = .checked reply ∧ (answer.value accept).get "reply" = reply := by
  rw [get_outcome, Value.string.injEq] at succeeded
  cases answer with
  | checked reply =>
      refine ⟨reply, rfl, ?_⟩
      rw [Answer.value, Value.get_object]
      rfl
  | refused reason =>
      have differs : "refused" ≠ if accept then "accepted" else "read" := by
        cases accept <;> decide
      exact absurd succeeded differs
  | unknown sent =>
      have differs : "unknown" ≠ if accept then "accepted" else "read" := by
        cases accept <;> decide
      exact absurd succeeded differs

variable [Codec] {owner : Owner} {identity : String} {parsed : OutputIdentity} {accept : Bool}
  {offset length : Nat} {reply : Value}

omit [Codec] in
/-- A reply that passed is about the very identity that was asked for. -/
theorem holds_exactly (exact : parseIdentity identity.toList = some parsed)
    (passed : replyHolds (some parsed) identity accept parsed.root parsed.work offset length reply) :
    (if accept then acceptanceHolds reply parsed.root parsed.work parsed.bytes parsed.sha256
      else rangeHolds reply parsed.bytes offset length) = true := by
  unfold replyHolds at passed
  simp only [Bool.and_eq_true, Option.isNone_some, Bool.false_or, decide_eq_true_eq] at passed
  obtain ⟨⟨⟨⟨valid, _⟩, _⟩, names⟩, holds⟩ := passed
  obtain ⟨text, named, is_text, parses, _, _, sized, hashed, _⟩ := validRecord_true valid
  have same_text : text = identity := Value.string.inj (is_text.symm.trans names)
  have same : named = parsed := Option.some.inj (parses.symm.trans (same_text ▸ exact))
  subst same
  have fits : (named.bytes : Int) < 2 ^ 64 := by
    have bounded := (OutputIdentity.canonical_of_parse exact).bytes_bounded
    omega
  have bytes : ((reply.get "retained").get "bytes").asU64 = some named.bytes := by
    rw [sized, Value.asU64, if_pos ⟨Int.natCast_nonneg _, fits⟩, Int.toNat_natCast]
  have hash : ((reply.get "retained").get "sha256").asStr = some named.sha256 := by
    rw [hashed]
    rfl
  rw [bytes, hash] at holds
  exact holds

theorem success_checked (exact : parseIdentity identity.toList = some parsed)
    (succeeded : (retained owner identity accept offset length).get "outcome" =
      .string (if accept then "accepted" else "read")) :
    ∃ reply, (retained owner identity accept offset length).get "reply" = reply ∧
      (accept = false → 0 < length ∧ length ≤ maxRangeBytes ∧ offset ≤ parsed.bytes) ∧
      (if accept then acceptanceHolds reply parsed.root parsed.work parsed.bytes parsed.sha256
        else rangeHolds reply parsed.bytes offset length) = true := by
  obtain ⟨reply, answered, shown⟩ := checked_of_success succeeded
  refine ⟨reply, shown, ?_⟩
  unfold retainedAnswer at answered
  rw [exact] at answered
  simp only [Option.map_some, Option.some_or, Option.getD_some] at answered
  split at answered
  · cases answered
  · next range =>
    split at answered
    · cases answered
    · next respond =>
      unfold replyAnswer at answered
      split at answered
      · cases answered
      · split at answered
        · cases answered
        · split at answered
          · next holds =>
            refine ⟨fun reads => ?_, Answer.checked.inj answered ▸ holds_exactly exact holds⟩
            simp only [reads, Bool.not_false, Bool.true_and, Bool.or_eq_true, decide_eq_true_eq] at range
            omega
          · cases answered

theorem exact_of_accepted (succeeded :
    (retained owner identity true offset length).get "outcome" = .string "accepted") :
    ∃ parsed, parseIdentity identity.toList = some parsed := by
  obtain ⟨reply, answered, _⟩ := checked_of_success succeeded
  cases parses : parseIdentity identity.toList with
  | some parsed => exact ⟨parsed, rfl⟩
  | none =>
      unfold retainedAnswer at answered
      rw [parses] at answered
      cases answered

/-- What a reading of an exact identity gives: its data, the next offset and whether it ended. -/
structure ReadsRange (parsed : OutputIdentity) (offset length : Nat) (reply : Value) (data : Bytes) :
    Prop where
  decodes : (reply.get "b64").asStr.bind unbase64 = some data
  positive : 0 < length
  inside : offset ≤ parsed.bytes
  covers : data.length = min length (parsed.bytes - offset)
  start : reply.get "offset" = .number offset
  next : reply.get "next_offset" = .number (offset + data.length : Nat)
  eof : reply.get "eof" = .bool (offset + data.length = parsed.bytes)

/-- The receipt of an acceptance is durable and names the very output that was accepted. -/
structure Receipted (parsed : OutputIdentity) (reply : Value) : Prop where
  event : reply.get "event" = .string "output-accepted"
  durable : reply.get "durable" = .bool true
  root : (reply.get "receipt").get "root_id" = .string parsed.root
  work : (reply.get "receipt").get "work" = .number parsed.work
  bytes : (reply.get "receipt").get "bytes" = .number parsed.bytes
  sha256 : (reply.get "receipt").get "sha256" = .string parsed.sha256

theorem receipted_of_accepted (exact : parseIdentity identity.toList = some parsed)
    (succeeded : (retained owner identity true offset length).get "outcome" = .string "accepted") :
    Receipted parsed ((retained owner identity true offset length).get "reply") := by
  obtain ⟨reply, shown, _, holds⟩ := success_checked exact succeeded
  rw [if_pos rfl, acceptanceHolds] at holds
  simp only [Bool.and_eq_true, decide_eq_true_eq] at holds
  obtain ⟨⟨⟨⟨⟨⟨event, durable⟩, _⟩, root⟩, work⟩, bytes⟩, sha256⟩ := holds
  rw [shown]
  exact ⟨event, durable, root, work, bytes, sha256⟩

theorem readsRange_of_read (exact : parseIdentity identity.toList = some parsed)
    (succeeded : (retained owner identity false offset length).get "outcome" = .string "read") :
    ∃ data, ReadsRange parsed offset length
      ((retained owner identity false offset length).get "reply") data := by
  obtain ⟨reply, shown, range, holds⟩ := success_checked exact succeeded
  obtain ⟨positive, _, inside⟩ := range rfl
  rw [if_neg Bool.false_ne_true, rangeHolds] at holds
  split at holds
  · cases holds
  · next data decodes =>
    rw [if_neg (Nat.not_lt.mpr inside)] at holds
    simp only [Bool.and_eq_true, decide_eq_true_eq] at holds
    obtain ⟨⟨⟨⟨⟨_, start⟩, _⟩, covers⟩, next⟩, eof⟩ := holds
    rw [shown]
    rw [← covers] at next eof
    exact ⟨data, decodes, positive, inside, covers, start, next, eof⟩

example : rangeHolds (.object [("event", .string "output-range"), ("offset", .number 1),
    ("length", .number 2), ("b64", .string "aGk="), ("next_offset", .number 3),
    ("eof", .bool true)]) 3 1 8 = true := by decide

end Replies

section Tiling

variable [Codec]

/-- Ranges read one after another, each from where the one before it said; other answers in between
do not count. A range is where it starts and how many bytes it brought. -/
inductive RangesRead (identity : String) : List (Nat × Nat) → Nat → Prop
  | start : RangesRead identity [] 0
  | read {ranges : List (Nat × Nat)} {owner : Owner} {offset length next : Nat} {result : Value}
      {data : Bytes} : RangesRead identity ranges offset →
      retained owner identity false offset length = result →
      result.get "outcome" = .string "read" →
      ((result.get "reply").get "b64").asStr.bind unbase64 = some data →
      ((result.get "reply").get "next_offset").asU64 = some next →
      RangesRead identity (ranges ++ [(offset, data.length)]) next

/-- The positions that ranges cover, each as often as it is covered. -/
def positions (ranges : List (Nat × Nat)) : List Nat :=
  ranges.flatMap fun (start, count) => List.range' start count

/-- Ranges that follow one another lie end to end from the start of the output. -/
theorem RangesRead.tiles {identity : String} {parsed : OutputIdentity} {ranges : List (Nat × Nat)}
    {next : Nat} (exact : parseIdentity identity.toList = some parsed)
    (follows : RangesRead identity ranges next) :
    positions ranges = List.range next ∧ next ≤ parsed.bytes := by
  induction follows with
  | start => exact ⟨rfl, Nat.zero_le _⟩
  | read follows result success decodes reached ih =>
      subst result
      obtain ⟨tiles, _⟩ := ih
      obtain ⟨data, reads⟩ := readsRange_of_read exact success
      have same := Option.some.inj (reads.decodes.symm.trans decodes)
      subst same
      have is_next := number_of_asU64 reached
      rw [reads.next, Value.number.injEq, Int.natCast_inj] at is_next
      have covers := reads.covers
      have inside := reads.inside
      refine ⟨?_, by omega⟩
      rw [← is_next, List.range_add, ← tiles, ← List.range'_eq_map_range]
      exact List.flatMap_append.trans (congrArg (positions _ ++ ·) (List.append_nil _))

/-- Identities and references have one spelling each. Every successful read brings exactly the part
of the output that was asked for and says where the next one starts; whatever positive lengths are
asked for, reads that follow one another cover the output from its start with no gap or overlap, and
end where it ends. An acceptance is durable and names the root, work, length and digest that were
asked for. -/
theorem retained_exact :
    (∀ text identity, parseIdentity text = some identity ↔
      identity.Canonical ∧ identity.render = text) ∧
    (∀ text root work, parseReference text = some (root, work) ↔
      (referred root work).Canonical ∧ renderReference root work = text) ∧
    (∀ identity parsed, parseIdentity identity.toList = some parsed →
      (∀ owner offset length,
        (retained owner identity false offset length).get "outcome" = .string "read" →
        ∃ data, ReadsRange parsed offset length
          ((retained owner identity false offset length).get "reply") data) ∧
      ∀ ranges next, RangesRead identity ranges next →
        positions ranges = List.range next ∧ next ≤ parsed.bytes) ∧
    ∀ owner identity offset length,
      (retained owner identity true offset length).get "outcome" = .string "accepted" →
      ∃ parsed, parseIdentity identity.toList = some parsed ∧
        Receipted parsed ((retained owner identity true offset length).get "reply") := by
  refine ⟨fun text identity => parseIdentity_iff, fun text root work => parseReference_iff,
    fun identity parsed exact => ⟨fun owner offset length success => ?_,
      fun ranges next follows => follows.tiles exact⟩,
    fun owner identity offset length success => ?_⟩
  · exact readsRange_of_read exact success
  · obtain ⟨parsed, exact⟩ := exact_of_accepted success
    exact ⟨parsed, exact, receipted_of_accepted exact success⟩

end Tiling

end RootV1

end AgentBash
