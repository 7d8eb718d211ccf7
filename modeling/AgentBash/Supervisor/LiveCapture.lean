import Mathlib.Algebra.GroupWithZero.Nat
import Mathlib.Data.List.Basic
import Mathlib.Order.Lattice
import Mathlib.Order.Nat

/-!
# Live capture

A supervisor may keep a copy of the bytes it drains for a live viewer. The copy has a budget: the
oldest records go first, a chunk that fits no budget ends everything before it, and a reader is
told exactly what it missed.
-/

namespace AgentBash

set_option autoImplicit false

namespace LiveCapture

def recordCharge : Nat := 64

inductive Channel
  | stdout | stderr
  deriving DecidableEq, Repr

/-- A stream position; the counters of the source have 64 bits, which no capture fills. -/
structure Position where
  seq : Nat
  stdoutBytes : Nat
  stderrBytes : Nat
  deriving DecidableEq, Repr

namespace Position

def default : Position := ⟨0, 0, 0⟩

def advance (position : Position) (channel : Channel) (len : Nat) : Position :=
  match channel with
  | .stdout =>
      { position with seq := position.seq + 1, stdoutBytes := position.stdoutBytes + len }
  | .stderr =>
      { position with seq := position.seq + 1, stderrBytes := position.stderrBytes + len }

def bytes (position : Position) : Channel → Nat
  | .stdout => position.stdoutBytes
  | .stderr => position.stderrBytes

end Position

structure Record where
  start : Position
  channel : Channel
  bytes : List UInt8
  deriving DecidableEq, Repr

/-- What a record takes of the budget. -/
def Record.charge (record : Record) : Nat := record.bytes.length + recordCharge

structure Gap where
  from_ : Position
  to_ : Position
  deriving DecidableEq, Repr

structure Read where
  gap : Option Gap
  records : List Record
  next : Position
  deriving DecidableEq, Repr

end LiveCapture

open LiveCapture

structure LiveCapture where
  budget : Nat
  charged : Nat
  records : List Record
  next : Position
  deriving DecidableEq, Repr

namespace LiveCapture

def new (budget : Nat) : LiveCapture := ⟨budget, 0, [], .default⟩

/-- The eviction loop; `none` is the panic on an empty deque or on a charge that was not made. -/
def evict (budget charge : Nat) : Nat → List Record → Option (Nat × List Record)
  | charged, [] => if budget < charged + charge then none else some (charged, [])
  | charged, evicted :: rest =>
      if budget < charged + charge then
        if charged < evicted.charge then none
        else evict budget charge (charged - evicted.charge) rest
      else some (charged, evicted :: rest)

def record (capture : LiveCapture) (channel : Channel) (bytes : List UInt8) : Option LiveCapture :=
  if bytes.isEmpty then some capture
  else
    let start := capture.next
    let next := start.advance channel bytes.length
    let charge := bytes.length + recordCharge
    if capture.budget < charge then some { capture with charged := 0, records := [], next := next }
    else
      (evict capture.budget charge capture.charged capture.records).map fun (charged, records) =>
        { capture with
          charged := charged + charge, records := records ++ [⟨start, channel, bytes⟩], next := next }

def first (capture : LiveCapture) : Position :=
  match capture.records with
  | [] => capture.next
  | record :: _ => record.start

def readFrom (capture : LiveCapture) (cursor : Position) : Option Read :=
  if capture.next.seq < cursor.seq then none
  else
    some
      { gap := if cursor.seq < capture.first.seq then some ⟨cursor, capture.first⟩ else none
        records := capture.records.filter fun record => decide (cursor.seq ≤ record.start.seq)
        next := capture.next }

abbrev Chunk := Channel × List UInt8

def recordAll (capture : LiveCapture) : List Chunk → Option LiveCapture
  | [] => some capture
  | (channel, bytes) :: calls => (capture.record channel bytes).bind fun next => next.recordAll calls

section Stream

def chunksOf (calls : List Chunk) : List Chunk := calls.filter fun call => !call.2.isEmpty

def stream (channel : Channel) (chunks : List Chunk) : List UInt8 :=
  chunks.flatMap fun chunk => if chunk.1 = channel then chunk.2 else []

def Position.after (chunks : List Chunk) : Position :=
  ⟨chunks.length, (stream .stdout chunks).length, (stream .stderr chunks).length⟩

/-- Every chunk with the position it starts at. -/
def history (chunks : List Chunk) : List Record :=
  chunks.mapIdx fun index chunk => ⟨.after (chunks.take index), chunk.1, chunk.2⟩

def text (channel : Channel) (records : List Record) : List UInt8 :=
  stream channel (records.map fun record => (record.channel, record.bytes))

variable {channel : Channel} {chunks more : List Chunk} {chunk : Chunk}

theorem stream_append : stream channel (chunks ++ more) = stream channel chunks ++ stream channel more :=
  List.flatMap_append

theorem Position.bytes_after : (Position.after chunks).bytes channel = (stream channel chunks).length := by
  cases channel <;> rfl

theorem Position.after_append : Position.after (chunks ++ [chunk]) =
    (Position.after chunks).advance chunk.1 chunk.2.length := by
  obtain ⟨channel, bytes⟩ := chunk
  cases channel <;> simp [Position.after, Position.advance, stream]

@[simp] theorem length_history : (history chunks).length = chunks.length := List.length_mapIdx

theorem history_append : history (chunks ++ [chunk]) =
    history chunks ++ [⟨.after chunks, chunk.1, chunk.2⟩] := by
  rw [history, List.mapIdx_concat, List.take_left]
  refine congrArg (· ++ _) (List.mapIdx_eq_mapIdx_iff.mpr fun index inside => ?_)
  rw [List.take_append_of_le_length (Nat.le_of_lt inside)]

theorem history_chunks : (history chunks).map (fun record => (record.channel, record.bytes)) = chunks := by
  refine List.ext_getElem (by simp) fun index one two => ?_
  simp [history]

theorem text_history_drop {count : Nat} :
    text channel ((history chunks).drop count) = stream channel (chunks.drop count) := by
  rw [text, List.map_drop, history_chunks]

end Stream

section Invariant

variable {budget charge charged : Nat} {records : List Record} {chunks : List Chunk}
  {capture : LiveCapture}

def total (records : List Record) : Nat := (records.map Record.charge).sum

/-- What a capture keeps after the chunks it was given. -/
structure Aligned (budget : Nat) (chunks : List Chunk) (capture : LiveCapture) : Prop where
  limit : capture.budget = budget
  next : capture.next = .after chunks
  suffix : capture.records <:+ history chunks
  exact : capture.charged = total capture.records
  bounded : capture.charged ≤ budget

theorem aligned_new (budget : Nat) : Aligned budget [] (new budget) :=
  ⟨rfl, rfl, List.suffix_rfl, rfl, Nat.zero_le budget⟩

/-- The loop stops with enough room and has paid back what it evicted. -/
theorem evict_spec (fits : charge ≤ budget) (exact : charged = total records) :
    ∃ left kept, evict budget charge charged records = some (left, kept) ∧
      kept <:+ records ∧ left = total kept ∧ left + charge ≤ budget := by
  induction records generalizing charged with
  | nil =>
      have empty : charged = 0 := exact
      refine ⟨charged, [], ?_, List.suffix_rfl, exact, by omega⟩
      rw [evict, if_neg (by omega)]
  | cons evicted rest ih =>
      have split : charged = evicted.charge + total rest := exact
      by_cases full : budget < charged + charge
      · have paid : charged - evicted.charge = total rest := by omega
        obtain ⟨left, kept, evicts, suffix, sum, room⟩ := ih paid
        refine ⟨left, kept, ?_, suffix.trans (List.suffix_cons _ _), sum, room⟩
        rw [evict, if_pos full, if_neg (by omega)]
        exact evicts
      · refine ⟨charged, evicted :: rest, ?_, List.suffix_rfl, exact, by omega⟩
        rw [evict, if_neg full]

theorem Aligned.record (aligned : Aligned budget chunks capture) (channel : Channel)
    {bytes : List UInt8} (carries : bytes.isEmpty = false) :
    ∃ after, capture.record channel bytes = some after ∧
      Aligned budget (chunks ++ [(channel, bytes)]) after := by
  have next : capture.next.advance channel bytes.length =
      .after (chunks ++ [(channel, bytes)]) := by
    rw [Position.after_append, aligned.next]
  rw [LiveCapture.record, carries, if_neg Bool.false_ne_true]
  simp only [aligned.limit]
  by_cases unfittable : budget < bytes.length + recordCharge
  · rw [if_pos unfittable]
    exact ⟨_, rfl, rfl, next, List.nil_suffix, rfl, Nat.zero_le budget⟩
  · rw [if_neg unfittable]
    have fits : bytes.length + recordCharge ≤ budget := Nat.not_lt.mp unfittable
    obtain ⟨left, kept, evicts, suffix, sum, room⟩ := evict_spec fits aligned.exact
    rw [evicts]
    refine ⟨_, rfl, rfl, next, ?_, ?_, room⟩
    · rw [history_append, aligned.next]
      obtain ⟨gone, split⟩ := suffix.trans aligned.suffix
      exact ⟨gone, by rw [← split, List.append_assoc]⟩
    · have charge : Record.charge ⟨capture.next, channel, bytes⟩ = bytes.length + recordCharge := rfl
      simp only [total, List.map_append, List.map_singleton, List.sum_append, List.sum_singleton,
        charge]
      rw [sum]
      rfl

theorem Aligned.recordAll (aligned : Aligned budget chunks capture) (calls : List Chunk) :
    ∃ after, capture.recordAll calls = some after ∧
      Aligned budget (chunks ++ chunksOf calls) after := by
  induction calls generalizing capture chunks with
  | nil => exact ⟨capture, rfl, by rw [chunksOf, List.filter_nil, List.append_nil]; exact aligned⟩
  | cons call calls ih =>
      obtain ⟨channel, bytes⟩ := call
      cases carries : bytes.isEmpty with
      | true =>
          obtain ⟨after, runs, kept⟩ := ih aligned
          refine ⟨after, ?_, ?_⟩
          · rw [LiveCapture.recordAll, LiveCapture.record, carries, if_pos rfl]
            exact runs
          · rw [chunksOf, List.filter_cons_of_neg (by simp [carries])]
            exact kept
      | false =>
          obtain ⟨next, records, counted⟩ := aligned.record channel carries
          obtain ⟨after, runs, kept⟩ := ih counted
          refine ⟨after, ?_, ?_⟩
          · rw [LiveCapture.recordAll, records]
            exact runs
          · rw [chunksOf, List.filter_cons_of_pos (by simp [carries])]
            rw [List.append_assoc] at kept
            exact kept

end Invariant

section Reading

variable {budget boundary : Nat} {chunks : List Chunk} {capture : LiveCapture} {channel : Channel}

/-- The position that the records of a read start from. -/
def Read.begins (read : Read) (cursor : Position) : Position :=
  match read.gap with
  | none => cursor
  | some gap => gap.to_

/-- The records after a boundary that are no longer, or never were, retained. -/
def missed (capture : LiveCapture) (chunks : List Chunk) (boundary : Nat) : List Record :=
  ((history chunks).take (chunks.length - capture.records.length)).drop boundary

/-- What a read at a record boundary accounts for. -/
structure Accounts (capture : LiveCapture) (chunks : List Chunk) (boundary : Nat) (read : Read) :
    Prop where
  next : read.next = .after chunks
  gapless : read.gap = none → missed capture chunks boundary = []
  gap : ∀ gap, read.gap = some gap → gap.from_ = .after (chunks.take boundary) ∧
    ∀ channel, gap.to_.bytes channel =
      gap.from_.bytes channel + (text channel (missed capture chunks boundary)).length
  records : ∀ channel, text channel read.records =
    (stream channel chunks).drop ((read.begins (.after (chunks.take boundary))).bytes channel)
  ends : ∀ channel, (read.begins (.after (chunks.take boundary))).bytes channel +
    (text channel read.records).length = read.next.bytes channel

theorem start_history {index : Nat} (inside : index < (history chunks).length) :
    ((history chunks)[index]).start = .after (chunks.take index) := by
  simp [history]

/-- The retained records are what is left after as many chunks as are missing. -/
theorem Aligned.kept (aligned : Aligned budget chunks capture) :
    capture.records = (history chunks).drop (chunks.length - capture.records.length) := by
  have suffix := List.suffix_iff_eq_drop.mp aligned.suffix
  rw [length_history] at suffix
  exact suffix

theorem Aligned.first (aligned : Aligned budget chunks capture) :
    capture.first = .after (chunks.take (chunks.length - capture.records.length)) := by
  rw [LiveCapture.first]
  cases shape : capture.records with
  | nil => rw [List.length_nil, Nat.sub_zero, List.take_length, aligned.next]
  | cons record rest =>
      have kept := aligned.kept
      have bound := aligned.suffix.length_le
      rw [shape] at kept bound
      rw [length_history] at bound
      have inside : chunks.length - (record :: rest).length < (history chunks).length := by
        rw [length_history]
        simp only [List.length_cons] at bound ⊢
        omega
      rw [List.drop_eq_getElem_cons inside] at kept
      have head := congrArg Record.start (List.cons.inj kept).1
      rw [start_history] at head
      exact head

theorem filter_history (count : Nat) :
    ((history chunks).drop count).filter (fun record => decide (boundary ≤ record.start.seq)) =
      (history chunks).drop (max count boundary) := by
  induction left : (history chunks).length - count generalizing count with
  | zero =>
      have past : (history chunks).length ≤ count := by omega
      rw [List.drop_eq_nil_of_le past, List.drop_eq_nil_of_le (past.trans (le_max_left _ _)),
        List.filter_nil]
  | succ further ih =>
      have inside : count < (history chunks).length := by omega
      have fewer : (history chunks).length - (count + 1) = further := by omega
      rw [List.drop_eq_getElem_cons inside, List.filter_cons, ih (count + 1) fewer]
      have seq : ((history chunks)[count]).start.seq = count := by
        rw [start_history]
        rw [length_history] at inside
        exact List.length_take_of_le (Nat.le_of_lt inside)
      rw [seq]
      by_cases reached : boundary ≤ count
      · rw [if_pos (decide_eq_true reached), max_eq_left reached,
          max_eq_left (Nat.le_succ_of_le reached), ← List.drop_eq_getElem_cons inside]
      · have same : max (count + 1) boundary = max count boundary := by omega
        rw [if_neg (by simpa using reached), same]

theorem stream_split {low high : Nat} (ordered : low ≤ high) :
    (stream channel (chunks.take high)).length =
      (stream channel (chunks.take low)).length +
        (stream channel ((chunks.take high).drop low)).length := by
  have split : chunks.take high = chunks.take low ++ (chunks.take high).drop low := by
    have prefixed : (chunks.take high).take low = chunks.take low := by
      rw [List.take_take, min_eq_left ordered]
    rw [← prefixed, List.take_append_drop]
  rw [← List.length_append, ← stream_append, ← split]

/-- A read at a boundary is exact about what it lost and about what it returns. -/
theorem Aligned.accounts (aligned : Aligned budget chunks capture) (reached : boundary ≤ chunks.length) :
    ∃ read, capture.readFrom (.after (chunks.take boundary)) = some read ∧
      Accounts capture chunks boundary read := by
  have seq : (Position.after (chunks.take boundary)).seq = boundary :=
    List.length_take_of_le reached
  have last : capture.next.seq = chunks.length := by
    rw [aligned.next]
    rfl
  rw [readFrom, seq, last, if_neg (by omega)]
  refine ⟨_, rfl, ?_⟩
  generalize gone : chunks.length - capture.records.length = missing
  have bound : missing ≤ chunks.length := by omega
  have kept : capture.records = (history chunks).drop missing := gone ▸ aligned.kept
  have first : capture.first = .after (chunks.take missing) := gone ▸ aligned.first
  have firstSeq : capture.first.seq = missing := by
    rw [first]
    exact List.length_take_of_le bound
  have lost : missed capture chunks boundary = ((history chunks).take missing).drop boundary := by
    rw [missed, gone]
  -- the records begin at the later of the boundary and the oldest one retained
  have begins : Position.after (chunks.take (max missing boundary)) = Read.begins
      { gap := if boundary < capture.first.seq then
          some ⟨.after (chunks.take boundary), capture.first⟩ else none
        records := capture.records.filter fun record => decide (boundary ≤ record.start.seq)
        next := capture.next } (.after (chunks.take boundary)) := by
    rw [Read.begins, firstSeq]
    by_cases behind : boundary < missing
    · simp only [if_pos behind, first]
      rw [max_eq_left (Nat.le_of_lt behind)]
    · simp only [if_neg behind]
      rw [max_eq_right (Nat.not_lt.mp behind)]
  have returned : ∀ channel, text channel (capture.records.filter fun record =>
      decide (boundary ≤ record.start.seq)) = stream channel (chunks.drop (max missing boundary)) := by
    intro channel
    rw [kept, filter_history, text_history_drop]
  have parts : ∀ channel, stream channel chunks =
      stream channel (chunks.take (max missing boundary)) ++
        stream channel (chunks.drop (max missing boundary)) := by
    intro channel
    rw [← stream_append, List.take_append_drop]
  refine { next := aligned.next, gapless := ?_, gap := ?_, records := ?_, ends := ?_ }
  · intro none
    rw [firstSeq] at none
    have ahead : ¬ boundary < missing := by
      intro behind
      rw [if_pos behind] at none
      cases none
    rw [lost, List.drop_eq_nil_of_le]
    rw [List.length_take, length_history]
    omega
  · intro gap some_
    rw [firstSeq] at some_
    split at some_
    · next behind =>
      cases some_
      refine ⟨rfl, fun channel => ?_⟩
      rw [first, Position.bytes_after, Position.bytes_after, stream_split (Nat.le_of_lt behind), lost,
        text, List.map_drop, List.map_take, history_chunks]
    · cases some_
  · intro channel
    rw [← begins, returned, Position.bytes_after, parts channel, List.drop_left]
  · intro channel
    rw [← begins, returned, Position.bytes_after, aligned.next, Position.bytes_after,
      ← List.length_append, ← parts]

end Reading

/-- Whatever is recorded, nothing panics, the budget is kept, what is retained is the end of what
was given, and every reader learns exactly what it missed. -/
theorem live_capture_accounts (budget : Nat) (calls : List Chunk) :
    ∃ capture, (new budget).recordAll calls = some capture ∧
      capture.records <:+ history (chunksOf calls) ∧
      capture.charged = (capture.records.map Record.charge).sum ∧ capture.charged ≤ budget ∧
      ∀ boundary ≤ (chunksOf calls).length, ∃ read,
        capture.readFrom (.after ((chunksOf calls).take boundary)) = some read ∧
          Accounts capture (chunksOf calls) boundary read := by
  obtain ⟨capture, runs, aligned⟩ := (aligned_new budget).recordAll calls
  exact ⟨capture, runs, aligned.suffix, aligned.exact, aligned.bounded,
    fun boundary reached => aligned.accounts reached⟩

example : ((new 160).recordAll [(.stdout, [1, 2]), (.stderr, []), (.stdout, List.replicate 40 7)]).map
    (fun capture => (capture.charged, capture.first, capture.next)) =
      some (104, ⟨1, 2, 0⟩, ⟨2, 42, 0⟩) := by decide

end LiveCapture

end AgentBash
