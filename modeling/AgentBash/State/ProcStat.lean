import AgentBash.Retention.Evidence
import AgentBash.Text.Words

/-!
# The stat record of a process

The kernel prints one line for each process. Its second field is the command name, in parentheses
and not quoted, so both readers of the line look for the last parenthesis: the one of `state.rs`
with the blank after it, the one of `root_work.rs` without. The line is read as text.
-/

namespace AgentBash

set_option autoImplicit false

open Durable Text

namespace Procfs

/-- `libc::pid_t` has 32 bits. -/
abbrev pidBits : Nat := 32

structure ProcStat where
  pid : Int
  ppid : Int
  state : Char
  starttimeTicks : Nat
  deriving DecidableEq, Repr

def parseProcStat (contents : List Char) : Option ProcStat := do
  let afterComm ← afterLast [')', ' '] contents
  let pid ← (splitWhitespace contents).head?.bind (parseSigned pidBits)
  let fields := splitWhitespace afterComm
  let state ← fields.head?.bind List.head?
  let ppid ← fields[1]?.bind (parseSigned pidBits)
  let starttimeTicks ← fields[19]?.bind (parseUnsigned 64)
  pure { pid, ppid, state, starttimeTicks }

/-- The other reader takes a start time of zero for a missing one. -/
def statStarttime (stat : List Char) : Option Nat := do
  let afterComm ← afterLast [')'] stat
  let starttime ← (splitWhitespace afterComm)[19]?.bind (parseUnsigned 64)
  if 0 < starttime then some starttime else none

/-- What `/proc/<pid>/stat` leads to, for each number. -/
abbrev ProcFiles := Int → Except IoError Bytes

/-- `fs::read_to_string`: what was read has to be UTF-8. -/
def readToString (file : Except IoError Bytes) : Except IoError String :=
  match file with
  | .error error => .error error
  | .ok bytes =>
      (readUtf8 bytes).elim (.error ⟨.invalidData, "stream did not contain valid UTF-8"⟩) .ok

def readProcStatResult (proc : ProcFiles) (pid : Int) : Except IoError ProcStat :=
  match readToString (proc pid) with
  | .error error => .error error
  | .ok contents =>
      match parseProcStat contents.toList with
      | some stat =>
          if stat.pid = pid then .ok stat else .error ⟨.invalidData, "invalid /proc stat"⟩
      | none => .error ⟨.invalidData, "invalid /proc stat"⟩

def readProcStat (proc : ProcFiles) (pid : Int) : Option ProcStat :=
  (readProcStatResult proc pid).toOption

def processStarttimeTicks (proc : ProcFiles) (pid : Int) : Option Nat :=
  (readProcStat proc pid).map ProcStat.starttimeTicks

def processParentPid (proc : ProcFiles) (pid : Int) : Option Int :=
  (readProcStat proc pid).map ProcStat.ppid

/-- The record of a process. Between the parent and the start time stand seventeen numbers that
nobody reads, and more come after it. -/
structure StatRecord where
  pid : Nat
  comm : Bytes
  state : Char
  ppid : Nat
  between : Fin 17 → Int
  starttime : Nat
  more : List Int
  pid_fits : pid < 2 ^ (pidBits - 1)
  ppid_fits : ppid < 2 ^ (pidBits - 1)
  starttime_fits : starttime < 2 ^ 64
  letter : state.isAlpha = true

namespace StatRecord

def fields (record : StatRecord) : List (List Char) :=
  [record.state] :: decimal record.ppid ::
    ((List.ofFn record.between).map signedDecimal ++
      decimal record.starttime :: record.more.map signedDecimal)

def front (record : StatRecord) : List Char := decimal record.pid ++ [' ', '(']

/-- The line from the command name on, with the blank before each field and the end of the line. -/
def back (record : StatRecord) : List Char :=
  ')' :: (record.fields.flatMap fun field => ' ' :: field) ++ ['\n']

/-- The line as the kernel prints it. -/
def render (record : StatRecord) : Bytes :=
  utf8 (.ofList record.front) ++ record.comm ++ utf8 (.ofList record.back)

def stat (record : StatRecord) : ProcStat where
  pid := record.pid
  ppid := record.ppid
  state := record.state
  starttimeTicks := record.starttime

/-- What stands in the procfs file of a process. -/
def Shows (record : StatRecord) (proc : ProcFiles) : Prop := proc record.pid = .ok record.render

end StatRecord

section Parsing

variable {record : StatRecord} {name : List Char}

theorem isWhitespace_of_isAlpha {c : Char} (letter : c.isAlpha = true) : isWhitespace c = false := by
  have bounds : (65 ≤ c.toNat ∧ c.toNat ≤ 90) ∨ (97 ≤ c.toNat ∧ c.toNat ≤ 122) := by
    rcases (Bool.or_eq_true c.isUpper c.isLower).mp letter with upper | lower
    · exact .inl (of_decide_eq_true upper)
    · obtain ⟨low, high⟩ := (Bool.and_eq_true (c.val ≥ 'a'.val) (c.val ≤ 'z'.val)).mp lower
      exact .inr ⟨of_decide_eq_true low, of_decide_eq_true high⟩
  simp only [isWhitespace, Bool.or_eq_false_iff, Bool.and_eq_false_iff, decide_eq_false_iff_not,
    beq_eq_false_iff_ne]
  omega

theorem fields_words : ∀ field ∈ record.fields, Word field := by
  intro field inside
  simp only [StatRecord.fields, List.mem_cons, List.mem_append, List.mem_map] at inside
  rcases inside with rfl | rfl | ⟨value, _, rfl⟩ | rfl | ⟨value, _, rfl⟩
  · refine ⟨List.cons_ne_nil _ _, fun c only => ?_⟩
    rw [List.mem_singleton.mp only]
    exact isWhitespace_of_isAlpha record.letter
  · exact word_decimal
  · exact word_signedDecimal
  · exact word_decimal
  · exact word_signedDecimal

theorem fields_paren : ∀ field ∈ record.fields, ')' ∉ field := by
  intro field inside
  simp only [StatRecord.fields, List.mem_cons, List.mem_append, List.mem_map] at inside
  have number : ∀ value, ')' ∉ decimal value := fun value inside => by
    have digit := isDigit_of_mem_decimal inside
    revert digit
    decide
  rcases inside with rfl | rfl | ⟨value, _, rfl⟩ | rfl | ⟨value, _, rfl⟩
  · intro only
    have letter := record.letter
    rw [← List.mem_singleton.mp only] at letter
    revert letter
    decide
  · exact number _
  · exact notMem_signedDecimal (by decide) (by decide)
  · exact number _
  · exact notMem_signedDecimal (by decide) (by decide)

theorem fields_head : record.fields.head?.bind List.head? = some record.state := rfl

theorem fields_ppid :
    record.fields[1]?.bind (parseSigned pidBits) = some (record.ppid : Int) :=
  parseSigned_decimal record.ppid_fits

theorem fields_starttime :
    record.fields[19]?.bind (parseUnsigned 64) = some record.starttime := by
  have found : record.fields[19]? = some (decimal record.starttime) := by
    rw [StatRecord.fields, List.getElem?_cons_succ, List.getElem?_cons_succ,
      List.getElem?_append_right (by rw [List.length_map, List.length_ofFn])]
    simp only [List.length_map, List.length_ofFn]
    rfl
  rw [found]
  exact parseUnsigned_decimal record.starttime_fits

def tail (record : StatRecord) : List Char :=
  (record.fields.flatMap fun field => ' ' :: field) ++ ['\n']

theorem splitWhitespace_tail : splitWhitespace (tail record) = record.fields :=
  splitWhitespace_line record.fields fields_words (by decide) (by decide)

theorem notMem_tail : ')' ∉ tail record := by
  intro inside
  rcases List.mem_append.mp inside with inside | inside
  · obtain ⟨field, also, inside⟩ := List.mem_flatMap.mp inside
    rcases List.mem_cons.mp inside with blank | inside
    · exact absurd blank (by decide)
    · exact fields_paren field also inside
  · exact absurd inside (by decide)

theorem back_eq : record.back = ')' :: tail record := rfl

theorem tail_blank (record : StatRecord) : ∃ rest, tail record = ' ' :: rest := ⟨_, rfl⟩

end Parsing

section Reading

variable {record : StatRecord} {name : List Char}

theorem line_pid :
    (splitWhitespace (record.front ++ name ++ record.back)).head?.bind (parseSigned pidBits) =
      some (record.pid : Int) := by
  have shape : record.front ++ name ++ record.back =
      decimal record.pid ++ ' ' :: ('(' :: name ++ record.back) := by
    simp [StatRecord.front]
  rw [shape, splitWhitespace_word word_decimal (by decide)]
  exact parseSigned_decimal record.pid_fits

theorem parseProcStat_line :
    parseProcStat (record.front ++ name ++ record.back) = some record.stat := by
  obtain ⟨rest, blank⟩ := tail_blank record
  have absent : ')' ∉ [' '] ++ rest := by
    rw [List.singleton_append, ← blank]
    exact notMem_tail
  have found : afterLast [')', ' '] (record.front ++ name ++ record.back) = some rest := by
    have mark := afterLast_mark (record.front ++ name) absent
    rw [back_eq, blank]
    rw [List.append_assoc] at mark
    exact mark
  have fields : splitWhitespace rest = record.fields := by
    rw [← splitWhitespace_tail, blank, splitWhitespace_blank (by decide)]
  simp only [parseProcStat, found, Option.bind_eq_bind, Option.bind_some, line_pid, fields,
    fields_head, fields_ppid, fields_starttime]
  rfl

theorem statStarttime_line :
    statStarttime (record.front ++ name ++ record.back) =
      if 0 < record.starttime then some record.starttime else none := by
  have found : afterLast [')'] (record.front ++ name ++ record.back) = some (tail record) := by
    have absent : ')' ∉ [] ++ tail record := notMem_tail
    have mark := afterLast_mark (record.front ++ name) absent
    rw [List.append_assoc] at mark
    exact mark
  simp only [statStarttime, found, Option.bind_eq_bind, Option.bind_some, splitWhitespace_tail,
    fields_starttime]

theorem readUtf8_render {name : String} (valid : readUtf8 record.comm = some name) :
    readUtf8 record.render =
      some (.ofList (record.front ++ name.toList ++ record.back)) := by
  rw [readUtf8_eq_some] at valid ⊢
  rw [String.ofList_append, String.ofList_append, utf8_append, utf8_append, String.ofList_toList,
    valid]
  rfl

end Reading

end Procfs

end AgentBash
