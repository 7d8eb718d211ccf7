import AgentBash.State.ProcStat
import AgentBash.Supervisor.Descendants

/-!
# Processes as procfs shows them

The reaper reads the parent map from the entries of `/proc`, one stat record for each entry that is
a number. A process whose record is read as it stands is in the map below its true parent, and an
identity is compared with its true start time.
-/

namespace AgentBash

set_option autoImplicit false

open Durable Text Procfs

namespace Supervisor

/-- The names in `/proc`; a name that cannot be listed is passed over. -/
abbrev ProcEntries := Except IoError (List (Except IoError Bytes))

def procEntryPid (entry : Except IoError Bytes) : Option Pid :=
  match entry with
  | .error _ => none
  | .ok name => (readUtf8 name).bind fun text => parseSigned pidBits text.toList

def observe (proc : ProcFiles) (parents : ParentMap) (pid : Pid) : ParentMap :=
  match processParentPid proc pid with
  | some ppid => parents.insert pid ppid
  | none => parents

def procParentMap (entries : ProcEntries) (proc : ProcFiles) : ParentMap :=
  match entries with
  | .error _ => ∅
  | .ok entries =>
      (entries.filterMap procEntryPid).foldl (observe proc) ∅

/-- What `inspect_process_identity` branches on, for every process. -/
def processTable (proc : ProcFiles) : ProcessTable := fun pid =>
  match readProcStatResult proc pid with
  | .ok actual => .running actual.starttimeTicks
  | .error error => if error.kind = .notFound then .notFound else .unreadable

section Reading

variable {record : StatRecord} {proc : ProcFiles} {name : String}

theorem readToString_shows (valid : readUtf8 record.comm = some name) (shows_ : record.Shows proc) :
    readToString (proc record.pid) =
      .ok (.ofList (record.front ++ name.toList ++ record.back)) := by
  rw [shows_, readToString, readUtf8_render valid]
  rfl

theorem readProcStatResult_shows (valid : readUtf8 record.comm = some name)
    (shows_ : record.Shows proc) : readProcStatResult proc record.pid = .ok record.stat := by
  rw [readProcStatResult, readToString_shows valid shows_]
  simp only [String.toList_ofList, parseProcStat_line]
  exact if_pos rfl

theorem processParentPid_shows (valid : readUtf8 record.comm = some name)
    (shows_ : record.Shows proc) : processParentPid proc record.pid = some (record.ppid : Int) := by
  rw [processParentPid, readProcStat, readProcStatResult_shows valid shows_]
  rfl

theorem lookup_observe {parents : ParentMap} {one pid : Pid} :
    (observe proc parents one).lookup pid =
      if pid = one then (processParentPid proc pid).or (parents.lookup pid)
      else parents.lookup pid := by
  unfold observe
  by_cases same : pid = one
  · rw [if_pos same, same]
    cases processParentPid proc one with
    | none => rfl
    | some ppid => exact AList.lookup_insert parents
  · rw [if_neg same]
    cases processParentPid proc one with
    | none => rfl
    | some ppid => exact AList.lookup_insert_ne same

theorem lookup_observed (proc : ProcFiles) (pids : List Pid) (parents : ParentMap) (pid : Pid) :
    (pids.foldl (observe proc) parents).lookup pid =
      if pid ∈ pids then (processParentPid proc pid).or (parents.lookup pid)
      else parents.lookup pid := by
  induction pids generalizing parents with
  | nil => rfl
  | cons one pids ih =>
      rw [List.foldl_cons, ih, lookup_observe]
      by_cases same : pid = one
      · -- a number that is listed again is read again, with the same answer
        rw [if_pos same, if_pos (List.mem_cons.mpr (.inl same)), ← Option.or_assoc, Option.or_self,
          ite_self]
      · have rest : (pid ∈ one :: pids) = (pid ∈ pids) := by simp [same]
        rw [if_neg same]
        simp only [rest]

theorem lookup_procParentMap {entries : List (Except IoError Bytes)} {pid : Pid}
    (listed : pid ∈ entries.filterMap procEntryPid) :
    (procParentMap (.ok entries) proc).lookup pid = processParentPid proc pid := by
  have all := lookup_observed proc (entries.filterMap procEntryPid) ∅ pid
  rw [if_pos listed, AList.lookup_empty, Option.or_none] at all
  exact all

end Reading

/-- Reading a record gives exactly what it says, and both readers agree on the start time. -/
def Observed (record : StatRecord) (proc : ProcFiles) : Prop :=
  readProcStatResult proc record.pid = .ok record.stat ∧
  ∃ contents, readToString (proc record.pid) = .ok contents ∧
    statStarttime contents.toList = some record.starttime

/-- A record whose command name is text is read exactly, whatever is in the name. The reader for
identities of sources knows no start time of zero. -/
theorem stat_record_observed (record : StatRecord) (name : String)
    (valid : readUtf8 record.comm = some name) (proc : ProcFiles) (shows_ : record.Shows proc) :
    readProcStatResult proc record.pid = .ok record.stat ∧
    (∃ contents, readToString (proc record.pid) = .ok contents ∧
      statStarttime contents.toList =
        if 0 < record.starttime then some record.starttime else none) ∧
    processTable proc record.pid = .running record.starttime ∧
    ∀ entries : List (Except IoError Bytes), (record.pid : Pid) ∈ entries.filterMap procEntryPid →
      ParentOf (procParentMap (.ok entries) proc) record.pid record.ppid := by
  have exact_ := readProcStatResult_shows valid shows_
  refine ⟨exact_, ⟨_, readToString_shows valid shows_, ?_⟩, ?_, fun entries listed => ?_⟩
  · rw [String.toList_ofList]
    exact statStarttime_line
  · rw [processTable, exact_]
    rfl
  · rw [ParentOf, lookup_procParentMap listed]
    exact processParentPid_shows valid shows_

def task (comm : Bytes) (starttime : Nat) (fits : starttime < 2 ^ 64) : StatRecord where
  pid := 42
  comm := comm
  state := 'S'
  ppid := 1
  between := fun _ => -1
  starttime := starttime
  more := [0]
  pid_fits := by decide
  ppid_fits := by decide
  starttime_fits := fits
  letter := by decide

/-- A procfs with one record, whatever is asked for. -/
def alone (record : StatRecord) : ProcFiles := fun _ => .ok record.render

theorem alone_shows (record : StatRecord) : record.Shows (alone record) := rfl

/-- The name of the witness has the parenthesis and the blank that the reader looks for. -/
theorem stat_record_observed_paren :
    readProcStatResult (alone (task (utf8 "a) 7 b") 9 (by decide))) 42 =
      .ok (task (utf8 "a) 7 b") 9 (by decide)).stat :=
  (stat_record_observed (task (utf8 "a) 7 b") 9 (by decide)) "a) 7 b"
    (readUtf8_eq_some.mpr rfl) _ (alone_shows _)).1

/-- The readers disagree on a start time of zero, and a name that is not text hides its process. -/
theorem stat_record_not_observed :
    ¬ Observed (task (utf8 "init") 0 (by decide)) (alone (task (utf8 "init") 0 (by decide))) ∧
    ¬ Observed (task [0xE9] 9 (by decide)) (alone (task [0xE9] 9 (by decide))) := by
  constructor
  · rintro ⟨_, contents, reads, starts⟩
    have valid : readUtf8 (task (utf8 "init") 0 (by decide)).comm = some "init" :=
      readUtf8_eq_some.mpr rfl
    rw [readToString_shows valid (alone_shows _)] at reads
    rw [← Except.ok.inj reads, String.toList_ofList, statStarttime_line] at starts
    cases starts
  · rintro ⟨_, contents, reads, _⟩
    have unreadable : readUtf8 (task [0xE9] 9 (by decide)).render = none := by decide +kernel
    rw [alone_shows, readToString, unreadable] at reads
    cases reads

end Supervisor

end AgentBash
