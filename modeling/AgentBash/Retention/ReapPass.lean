import AgentBash.Retention.Vetoes
import AgentBash.Sweep.Bounded
import AgentBash.Text.Words
import Mathlib.Data.List.Nodup

/-!
# Passes of the reaper

`reap_state_dirs` goes through the state root in the order of the directory. Each pass visits the
handles of one shard, which a cursor file names, and ends at one of two limits.
-/

namespace AgentBash

set_option autoImplicit false

open Durable Text

/-- The fields of `ReapConfig` that bound a pass; `from_env` makes of no shard one. -/
structure ReapBounds where
  maxDirs : Nat
  maxScan : Nat
  shards : Nat
  shards_pos : 1 ≤ shards
  shards_lt : shards < 2 ^ 64

structure ReapStats where
  scanned : Nat := 0
  reaped : Nat := 0
  errors : Nat := 0
  deriving DecidableEq, Repr

structure DirEntry where
  name : Bytes
  directory : Bool
  deriving DecidableEq, Repr

def reapEntryIsHandleDir (entry : DirEntry) : Bool :=
  entry.directory && [97, 98, 95].isPrefixOf entry.name

def handleReapShard (name : Bytes) (shards : Nat) : Nat :=
  (name.foldl (fun hash byte => (hash * 16777619) ^^^ byte.toUInt64) (2166136261 : UInt64)).toNat %
    max shards 1

/-- `str::trim` -/
def trim (text : List Char) : List Char := (text.dropWhile isWhitespace).rdropWhile isWhitespace

/-- The shard of the pass and what the cursor file holds afterwards, of what it held; `none` is a
file that cannot be read. -/
def nextReapShard (cursor : Option String) (shards : Nat) : Nat × Option String :=
  if shards ≤ 1 then (0, cursor)
  else
    let current :=
      ((cursor.bind fun value => parseUnsigned 64 (trim value.toList)).getD 0) % shards
    (current, some (.ofList (decimal ((current + 1) % shards) ++ ['\n'])))

def reapLimitsReached (stats : ReapStats) (bounds : ReapBounds) : Bool :=
  bounds.maxScan ≤ stats.scanned || bounds.maxDirs ≤ stats.reaped

/-- What an attempt adds to the counts, and whether its directory is still there. -/
def ReapOutcome.record (outcome : ReapOutcome) (stats : ReapStats) : ReapStats × Bool :=
  match outcome with
  | .kept => (stats, true)
  | .lockFailed => ({ stats with errors := stats.errors + 1 }, true)
  | .removed => ({ stats with reaped := stats.reaped + 1 }, false)
  | .vanished => (stats, false)
  | .removalFailed => ({ stats with errors := stats.errors + 1 }, true)

/-- The loop over the entries; `none` is one that could not be read. -/
def reapEntries (bounds : ReapBounds) (shard : Nat) (attempt : DirEntry → ReapOutcome) :
    ReapStats → List (Option DirEntry) → ReapStats × List (Option DirEntry)
  | stats, [] => (stats, [])
  | stats, item :: rest =>
    if reapLimitsReached stats bounds then (stats, item :: rest)
    else
      match item with
      | none =>
        let pass := reapEntries bounds shard attempt { stats with errors := stats.errors + 1 } rest
        (pass.1, none :: pass.2)
      | some entry =>
        if !reapEntryIsHandleDir entry || handleReapShard entry.name bounds.shards ≠ shard then
          let pass := reapEntries bounds shard attempt stats rest
          (pass.1, some entry :: pass.2)
        else
          let recorded :=
            (attempt entry).record { stats with scanned := stats.scanned + 1 }
          let pass := reapEntries bounds shard attempt recorded.1 rest
          (pass.1, if recorded.2 then some entry :: pass.2 else pass.2)

theorem reapEntries_sublist (bounds : ReapBounds) (shard : Nat) (attempt : DirEntry → ReapOutcome)
    (stats : ReapStats) (entries : List (Option DirEntry)) :
    (reapEntries bounds shard attempt stats entries).2.Sublist entries := by
  induction entries generalizing stats with
  | nil => exact .slnil
  | cons item rest ih =>
    rw [reapEntries.eq_def]
    dsimp only
    split
    · exact List.Sublist.refl _
    · cases item with
      | none => exact (ih _).cons_cons _
      | some entry =>
        dsimp only
        split
        · exact (ih _).cons_cons _
        · dsimp only
          split
          · exact (ih _).cons_cons _
          · exact (ih _).cons _

def handleDirs (entries : List (Option DirEntry)) : List DirEntry :=
  entries.filterMap fun item => item.filter reapEntryIsHandleDir

/-- The state root: no name stands twice in a directory. -/
structure StateRoot where
  entries : List (Option DirEntry)
  cursor : Option String
  distinct : ((handleDirs entries).map DirEntry.name).Nodup

/-- One pass over a root that can be listed. -/
def reapStateDirs (bounds : ReapBounds) (attempt : DirEntry → ReapOutcome) (root : StateRoot) :
    ReapStats × StateRoot :=
  if bounds.maxDirs = 0 ∨ bounds.maxScan = 0 then ({}, root)
  else
    let next := nextReapShard root.cursor bounds.shards
    let pass := reapEntries bounds next.1 attempt {} root.entries
    (pass.1, {
      entries := pass.2
      cursor := next.2
      distinct := ((((reapEntries_sublist _ _ _ _ _).filterMap _).map _).nodup root.distinct) })

/-- The root after so many passes, in each of which the attempts have their own outcomes. -/
def reapPasses (bounds : ReapBounds) (attempt : Nat → DirEntry → ReapOutcome) (root : StateRoot) :
    Nat → StateRoot
  | 0 => root
  | pass + 1 => (reapStateDirs bounds (attempt pass) (reapPasses bounds attempt root pass)).2

section Refinement

open Sweep

variable {bounds : ReapBounds} {shard : Nat} {attempt : DirEntry → ReapOutcome}

/-- What becomes of a handle whose attempt has this outcome. -/
def ReapOutcome.fate : ReapOutcome → Fate
  | .kept | .lockFailed | .removalFailed => .stays
  | .removed => .taken
  | .vanished => .vanishes

def ReapBounds.turn (bounds : ReapBounds) (shard : Nat) (entry : DirEntry) : Bool :=
  handleReapShard entry.name bounds.shards = shard

theorem sweep_spent {scans takes : Nat} {turn : DirEntry → Bool} {fate : DirEntry → Fate}
    (spent : scans = 0 ∨ takes = 0) (items : List DirEntry) :
    sweep turn fate scans takes items = items := by
  cases items with
  | nil => simp [sweep]
  | cons item rest =>
    obtain rfl | rfl := spent
    · simp [sweep]
    · cases scans <;> simp [sweep]

theorem handleDirs_reapEntries (stats : ReapStats) (entries : List (Option DirEntry)) :
    handleDirs (reapEntries bounds shard attempt stats entries).2 =
      sweep (bounds.turn shard) (fun entry => (attempt entry).fate)
        (bounds.maxScan - stats.scanned) (bounds.maxDirs - stats.reaped) (handleDirs entries) := by
  induction entries generalizing stats with
  | nil => simp [reapEntries, handleDirs, sweep]
  | cons item rest ih =>
    rw [reapEntries.eq_def]
    dsimp only
    split
    · rename_i limits
      refine (sweep_spent ?_ _).symm
      simp only [reapLimitsReached, Bool.or_eq_true, decide_eq_true_eq] at limits
      omega
    · rename_i limits
      simp only [reapLimitsReached, Bool.or_eq_true, decide_eq_true_eq, not_or] at limits
      cases item with
      | none => exact ih _
      | some entry =>
        obtain ⟨scans, open_⟩ : ∃ scans, bounds.maxScan - stats.scanned = scans + 1 :=
          ⟨bounds.maxScan - stats.scanned - 1, by omega⟩
        obtain ⟨takes, room⟩ : ∃ takes, bounds.maxDirs - stats.reaped = takes + 1 :=
          ⟨bounds.maxDirs - stats.reaped - 1, by omega⟩
        cases handle : reapEntryIsHandleDir entry with
        | false => simpa [handleDirs, handle] using ih stats
        | true =>
          have heads (left : List (Option DirEntry)) :
              handleDirs (some entry :: left) = entry :: handleDirs left :=
            List.filterMap_cons_some (by simp [Option.filter, handle])
          rw [heads, open_, room]
          by_cases mine : handleReapShard entry.name bounds.shards = shard
          · have turn : bounds.turn shard entry = true := by simp [ReapBounds.turn, mine]
            have scanned : bounds.maxScan - (stats.scanned + 1) = scans := by omega
            have reaped : bounds.maxDirs - (stats.reaped + 1) = takes := by omega
            rw [sweep, if_pos turn]
            cases outcome : attempt entry <;>
              simp [mine, handle, outcome, ReapOutcome.record, ReapOutcome.fate, heads, ih, scanned,
                reaped, room]
          · have turn : bounds.turn shard entry = false := by simp [ReapBounds.turn, mine]
            rw [sweep_cons_other turn, ← open_, ← room]
            simp [mine, heads, ih]

end Refinement

section Rotation

theorem parse_cursor {value : Nat} (fits : value < 2 ^ 64) :
    parseUnsigned 64 (trim (decimal value ++ ['\n'])) = some value := by
  obtain ⟨some_, solid⟩ : Word (decimal value) := word_decimal
  have front : (decimal value ++ ['\n']).dropWhile isWhitespace = decimal value ++ ['\n'] := by
    cases digits : decimal value with
    | nil => exact absurd digits some_
    | cons digit rest =>
      rw [List.cons_append, List.dropWhile_cons_of_neg]
      have dark := solid digit (digits ▸ List.mem_cons_self)
      simp [dark]
  have back : (decimal value ++ ['\n']).rdropWhile isWhitespace = decimal value := by
    rw [List.rdropWhile_concat_pos _ _ _ (by decide), List.rdropWhile_eq_self_iff]
    intro filled
    have dark := solid _ (List.getLast_mem filled)
    simp [dark]
  rw [trim, front, back, parseUnsigned_decimal fits]

variable {bounds : ReapBounds} {attempt : Nat → DirEntry → ReapOutcome} {root : StateRoot}

def shardAt (bounds : ReapBounds) (attempt : Nat → DirEntry → ReapOutcome) (root : StateRoot)
    (pass : Nat) : Nat :=
  (nextReapShard (reapPasses bounds attempt root pass).cursor bounds.shards).1

theorem shardAt_lt (pass : Nat) : shardAt bounds attempt root pass < bounds.shards := by
  have some_ := bounds.shards_pos
  unfold shardAt nextReapShard
  split
  · exact some_
  · exact Nat.mod_lt _ some_

theorem shardAt_succ (dirs : 1 ≤ bounds.maxDirs) (scan : 1 ≤ bounds.maxScan) (pass : Nat) :
    shardAt bounds attempt root (pass + 1) =
      (shardAt bounds attempt root pass + 1) % bounds.shards := by
  have some_ := bounds.shards_pos
  have limits : ¬(bounds.maxDirs = 0 ∨ bounds.maxScan = 0) := by omega
  have small : (shardAt bounds attempt root pass + 1) % bounds.shards < 2 ^ 64 :=
    (Nat.mod_lt _ some_).trans bounds.shards_lt
  by_cases single : bounds.shards ≤ 1
  · have one : bounds.shards = 1 := by omega
    rw [shardAt, nextReapShard, if_pos single, one, Nat.mod_one]
  · have cursor : (reapPasses bounds attempt root (pass + 1)).cursor =
        some (.ofList (decimal ((shardAt bounds attempt root pass + 1) % bounds.shards) ++ ['\n'])) := by
      simp only [reapPasses, reapStateDirs, limits, if_false, shardAt]
      rw [nextReapShard, if_neg single]
    rw [shardAt, cursor, nextReapShard, if_neg single]
    simp only [Option.bind_some, String.toList_ofList]
    rw [parse_cursor small, Option.getD_some, Nat.mod_mod]

theorem shardAt_add (dirs : 1 ≤ bounds.maxDirs) (scan : 1 ≤ bounds.maxScan) (pass later : Nat) :
    shardAt bounds attempt root (pass + later) =
      (shardAt bounds attempt root pass + later) % bounds.shards := by
  induction later with
  | zero => exact (Nat.mod_eq_of_lt (shardAt_lt pass)).symm
  | succ later ih =>
    rw [← Nat.add_assoc, shardAt_succ dirs scan, ih, Nat.mod_add_mod, Nat.add_assoc]

/-- Each shard has its turn once in as many passes as there are shards. -/
theorem exists_turn (dirs : 1 ≤ bounds.maxDirs) (scan : 1 ≤ bounds.maxScan) {shard : Nat}
    (exists_ : shard < bounds.shards) (pass : Nat) :
    ∃ later < bounds.shards, shardAt bounds attempt root (pass + later) = shard := by
  have here : shardAt bounds attempt root pass < bounds.shards := shardAt_lt pass
  refine ⟨(shard + bounds.shards - shardAt bounds attempt root pass) % bounds.shards,
    Nat.mod_lt _ bounds.shards_pos, ?_⟩
  rw [shardAt_add dirs scan, Nat.add_mod_mod]
  have round : shardAt bounds attempt root pass +
      (shard + bounds.shards - shardAt bounds attempt root pass) = shard + bounds.shards := by omega
  rw [round, Nat.add_mod_right, Nat.mod_eq_of_lt exists_]

end Rotation

section Coverage

open Sweep

variable [Codec]

/-- What a pass meets at one handle. -/
structure ReapVisit where
  locks : ReapLocks
  dir : StateDirectory
  config : ReapConfig
  table : ProcessTable
  boot : String
  creates : Bool
  removal : Except IoError Unit

def ReapVisit.outcome (visit : ReapVisit) : ReapOutcome :=
  reapStateEntry visit.locks visit.dir visit.config visit.table visit.boot visit.creates
    visit.removal

/-- The handle is eligible and unlocked, and its directory can be removed. -/
structure ReapVisit.Ready (visit : ReapVisit) : Prop where
  unlocked : visit.locks = heldLocks
  eligible : stateDirReapEligible visit.dir visit.config visit.table visit.boot visit.creates = true
  removable : visit.removal = .ok ()

theorem ReapVisit.Ready.outcome {visit : ReapVisit} (ready : visit.Ready) :
    visit.outcome = .removed := by
  obtain ⟨unlocked, eligible, removable⟩ := ready
  simp [ReapVisit.outcome, reapStateEntry, unlocked, heldLocks, eligible, removable, removeDirAll]

/-- Passes over one root, with what each meets at each handle. -/
structure ReapRun where
  bounds : ReapBounds
  dirs : 1 ≤ bounds.maxDirs
  scan : 1 ≤ bounds.maxScan
  root : StateRoot
  visit : Nat → DirEntry → ReapVisit

namespace ReapRun

variable (run : ReapRun)

def attempt (pass : Nat) (entry : DirEntry) : ReapOutcome := (run.visit pass entry).outcome

/-- The handle directories that are left after so many passes. -/
def left (pass : Nat) : List DirEntry :=
  handleDirs (reapPasses run.bounds run.attempt run.root pass).entries

def shard (entry : DirEntry) : Nat := handleReapShard entry.name run.bounds.shards

theorem left_succ (pass : Nat) :
    run.left (pass + 1) =
      sweep (fun entry => run.shard entry = shardAt run.bounds run.attempt run.root pass)
        (fun entry => (run.attempt pass entry).fate) run.bounds.maxScan run.bounds.maxDirs
        (run.left pass) := by
  have dirs := run.dirs
  have scan := run.scan
  have limits : ¬(run.bounds.maxDirs = 0 ∨ run.bounds.maxScan = 0) := by omega
  simp only [left, reapPasses, reapStateDirs, limits, if_false, handleDirs_reapEntries]
  rfl

def sweeps : Sweeps DirEntry where
  shard := run.shard
  turn := shardAt run.bounds run.attempt run.root
  fate := fun pass entry => (run.attempt pass entry).fate
  scans := run.bounds.maxScan
  takes := run.bounds.maxDirs - 1
  left := run.left
  distinct := List.Nodup.of_map _ run.root.distinct
  step := fun pass => by rw [run.left_succ, Nat.sub_add_cancel run.dirs]

open Classical in
/-- How many of these handles are of the same shard and stay when some pass visits them. -/
noncomputable def everKept (handles : List DirEntry) (handle : DirEntry) : Nat :=
  handles.countP fun other =>
    run.shard other = run.shard handle && ∃ pass, (run.attempt pass other).fate = .stays

open Classical in
noncomputable def alwaysKept (handles : List DirEntry) (handle : DirEntry) : Nat :=
  handles.countP fun other =>
    run.shard other = run.shard handle && ∀ pass, (run.attempt pass other).fate = .stays

/-- A handle that is eligible and unlocked in every pass is removed within as many passes as there
are shards and handles, if fewer handles of its shard that stand before it ever stay than a pass
scans. Behind that many that always stay, it is never removed. -/
theorem reap_coverage (run : ReapRun) (front back : List DirEntry) (handle : DirEntry)
    (listed : run.left 0 = front ++ handle :: back)
    (ready : ∀ pass, (run.visit pass handle).Ready) :
    (run.everKept front handle < run.bounds.maxScan →
        handle ∉ run.left (run.bounds.shards * (run.left 0).length)) ∧
      (run.bounds.maxScan ≤ run.alwaysKept front handle → ∀ pass, handle ∈ run.left pass) := by
  classical
  have goes (pass : Nat) : run.sweeps.fate pass handle ≠ .stays := by
    have removed : run.attempt pass handle = .removed := (ready pass).outcome
    show (run.attempt pass handle).fate ≠ .stays
    rw [removed]
    exact Fate.noConfusion
  have shard : run.shard handle < run.bounds.shards := by
    rw [shard, handleReapShard, Nat.max_eq_left run.bounds.shards_pos]
    exact Nat.mod_lt _ run.bounds.shards_pos
  constructor
  · intro few back
    refine run.sweeps.covered listed goes
      (fun other => ∃ pass, (run.attempt pass other).fate = .stays)
      (fun other pass stays => decide_eq_true ⟨pass, stays⟩) few
      (exists_turn run.dirs run.scan shard) ?_
    refine (run.sweeps.left_antitone ?_).subset back
    refine Nat.mul_le_mul_left _ ?_
    rw [listed, List.length_append, List.length_cons]
    have most := List.countP_le_length (p := fun other => decide (run.shard other = run.shard handle))
      (l := front)
    exact Nat.add_le_add most (Nat.le_add_left 1 _)
  · intro many
    exact run.sweeps.starved listed (fun other => ∀ pass, (run.attempt pass other).fate = .stays)
      (fun other pass always => of_decide_eq_true always pass) many

end ReapRun

end Coverage

section Starvation

/-- The directory of a handle that another process holds, and of a settled one behind it. -/
def busyEntry : DirEntry := ⟨[97, 98, 95, 49], true⟩

def settledEntry : DirEntry := ⟨[97, 98, 95, 50], true⟩

/-- One shard, of which a pass scans so many handles. -/
def crowdedRun (maxScan : Nat) (some_ : 1 ≤ maxScan) : ReapRun where
  bounds := ⟨1, maxScan, 1, by decide, by decide⟩
  dirs := Nat.le_refl 1
  scan := some_
  root := ⟨[some busyEntry, some settledEntry], none, by decide⟩
  visit _ entry :=
    ⟨if entry = busyEntry then ⟨.ok false, .ok (), .ok true⟩ else heldLocks, settledDirectory,
      ⟨1, 5000⟩, fun _ => .notFound, "boot", true, .ok ()⟩

theorem crowdedRun_ready (maxScan : Nat) (some_ : 1 ≤ maxScan) (pass : Nat) :
    @ReapVisit.Ready settledCodec ((crowdedRun maxScan some_).visit pass settledEntry) := by
  let _ := settledCodec
  have eligible : stateDirReapEligible settledDirectory ⟨1, 5000⟩ (fun _ => .notFound) "boot" true =
      true := by
    decide
  exact ⟨rfl, eligible, rfl⟩

theorem crowdedRun_busy (maxScan : Nat) (some_ : 1 ≤ maxScan) (pass : Nat) :
    letI := settledCodec
    ((crowdedRun maxScan some_).attempt pass busyEntry).fate = .stays :=
  rfl

theorem reap_coverage_crowded :
    letI := settledCodec
    settledEntry ∉ (crowdedRun 2 (by decide)).left 2 ∧
      ∀ pass, settledEntry ∈ (crowdedRun 1 (by decide)).left pass := by
  let _ := settledCodec
  constructor
  · refine (ReapRun.reap_coverage (crowdedRun 2 (by decide)) [busyEntry] [] settledEntry (by decide)
      (crowdedRun_ready 2 (by decide))).1 ?_
    exact Nat.lt_succ_of_le List.countP_le_length
  · refine (ReapRun.reap_coverage (crowdedRun 1 (by decide)) [busyEntry] [] settledEntry (by decide)
      (crowdedRun_ready 1 (by decide))).2 ?_
    have one := crowdedRun_busy 1 (by decide)
    have shards : (crowdedRun 1 (by decide)).shard busyEntry =
        (crowdedRun 1 (by decide)).shard settledEntry := by decide
    show 1 ≤ _
    simp [ReapRun.alwaysKept, one, shards]

/-- A handle that is never removed, although it is eligible and unlocked in every pass. -/
theorem reap_coverage_starved :
    ¬∀ (_ : Codec) (run : ReapRun) (handle : DirEntry), handle ∈ run.left 0 →
      (∀ pass, (run.visit pass handle).Ready) →
        handle ∉ run.left (run.bounds.shards * (run.left 0).length) := by
  intro covered
  let _ := settledCodec
  refine covered settledCodec (crowdedRun 1 (by decide)) settledEntry (by decide)
    (crowdedRun_ready 1 (by decide)) ?_
  decide

end Starvation

end AgentBash
