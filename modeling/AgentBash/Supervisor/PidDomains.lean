import AgentBash.Supervisor.Observation
import AgentBash.Supervisor.PinnedSignal
import Mathlib.Logic.Equiv.Basic

/-!
# Two numberings of the processes below the reaper

`getpid` and pidfds number processes as the reaper's own PID namespace does. Procfs numbers them as
the namespace does that it was mounted in. A cancellation discovers and climbs by the second
numbering and pins by the first.
-/

namespace AgentBash

set_option autoImplicit false

namespace Supervisor

open Calls Durable Text Procfs

variable {Handle Process : Type}

section Source

/-- Each process is read at an instant of its own; one that cannot be read has no entry. -/
def gatherParents : ParentMap → List Pid → Watch Handle ParentMap
  | parents, [] => pure parents
  | parents, pid :: entries => do
      match ← Watch.parent pid with
      | none => gatherParents parents entries
      | some parent => gatherParents (parents.insert pid parent) entries

/-- `proc_parent_map` while the processes change. -/
def Watch.procParentMap (entries : ProcEntries) : Watch Handle ParentMap :=
  match entries with
  | .error _ => pure ∅
  | .ok entries => gatherParents ∅ (entries.filterMap procEntryPid)

/-- `descendant_signal::signal`, which has its root from `current_pid`. -/
def signalPid (currentPid : Pid) (signal : Int) (infrastructure : Option Pid)
    (role : Option (Pid × Handle)) (pid : Pid) : Watch Handle PUnit := do
  let _ ← signalUsingExclusions currentPid pid signal [infrastructure, role.map Prod.fst]

/-- `role` is the answer of `delivery_role::exclusion`, and `entries` the listing of procfs. -/
def signalDescendants (currentPid rootPid : Pid) (signal : Int) (infrastructure : Option Pid)
    (role : Except IoError (Option (Pid × Handle))) (entries : ProcEntries) : Watch Handle PUnit :=
  match role with
  | .error _ => pure ⟨⟩
  | .ok role => do
      let parents ← Watch.procParentMap entries
      (descendantPids parents rootPid).forM (signalPid currentPid signal infrastructure role)

end Source

section Domains

def IsPid (pid : Pid) : Prop := 0 < pid ∧ pid < 2 ^ 31

instance (pid : Pid) : Decidable (IsPid pid) := inferInstanceAs (Decidable (_ ∧ _))

/-- The number that procfs shows for each number of the reaper's PID namespace. -/
structure Renumbering where
  shown : Pid → Pid
  fits : ∀ {pid}, IsPid pid → IsPid (shown pid)
  injective : ∀ {one other}, IsPid one → IsPid other → shown one = shown other → one = other

/-- A process tree and how it changes, with a reaper in it whose calls all succeed on processes that
exist: they are listed, read, pinned, signalled, and the delivery role confirms. Procfs is read by the
numbers it shows. -/
structure World (renumbering : Renumbering) where
  Process : Type
  Handle : Type
  history : History Process
  reaper : Process
  denotes : Handle → Process
  syscalls : Syscalls Handle
  role : Option (Pid × Handle)
  entries : List (Except IoError Bytes)
  is_pid : ∀ process, IsPid (history.pid process)
  reaper_alive : ∀ instant, history.alive instant reaper
  acyclic : ∀ instant process,
    ¬ Relation.TransGen (fun one other => history.parent instant one = some other) process process
  captured : ∀ {instant pid handle}, syscalls.openPidfd instant pid = .ok handle →
    history.occupant instant pid = some (denotes handle)
  captures : ∀ {instant pid process}, history.occupant instant pid = some process →
    ∃ handle, syscalls.openPidfd instant pid = .ok handle
  live_since : ∀ {pinned instant pid handle}, syscalls.openPidfd pinned pid = .ok handle →
    pinned ≤ instant → syscalls.live instant handle = true →
    ∀ between, pinned ≤ between → between ≤ instant → history.alive between (denotes handle)
  looks_live : ∀ {instant handle}, history.alive instant (denotes handle) →
    syscalls.live instant handle = true
  reads : ∀ {instant number parent}, syscalls.processParentPid instant number = some parent ↔
    ∃ process, history.occupant instant (history.pid process) = some process ∧
      renumbering.shown (history.pid process) = number ∧
      parent = ((history.parent instant process).map fun above =>
        renumbering.shown (history.pid above)).getD 0
  lists : ∀ {process}, history.alive 0 process →
    renumbering.shown (history.pid process) ∈ entries.filterMap procEntryPid
  confirms : ∀ instant, ∀ guard ∈ role, syscalls.confirmContainment instant guard.1 = true ∧
    syscalls.live instant guard.2 = true
  delivers : ∀ {instant handle signal}, history.alive instant (denotes handle) →
    syscalls.pidfdSendSignal instant handle signal = .ok ()

namespace World

variable {renumbering : Renumbering} (world : World renumbering) (signal : Int)
  (infrastructure : Option Pid)

def boundary : Boundary world.Handle := kernel world.syscalls world.role

/-- Its own number, as `getpid` has it. -/
def root : Pid := world.history.pid world.reaper

def exclusions : List (Option Pid) := [infrastructure, world.role.map Prod.fst]

/-- The calls of `signal_descendants`. -/
def calls : Record (@Query.Answer world.Handle) :=
  ((signalDescendants world.root world.root signal infrastructure (.ok world.role)
    (.ok world.entries)).run world.boundary.answers []).2

/-- A signal, also one that was only tried, goes to a process that is below the reaper at an instant
of the call. -/
def OnlyDescendants : Prop :=
  ∀ handle number answer, ⟨.send handle number, answer⟩ ∈ world.calls signal infrastructure →
    ∃ instant, instant < (world.calls signal infrastructure).length ∧
      Descends world.history world.reaper [] (· = instant) (world.denotes handle)

/-- A process that is below the reaper during the whole call, by the same ancestors and none of them
excluded, is signalled. -/
def EveryDescendant : Prop :=
  ∀ process, Descends world.history world.reaper (world.exclusions infrastructure)
      (· ≤ (world.calls signal infrastructure).length) process →
    ∃ handle, world.denotes handle = process ∧
      ⟨.send handle signal, .ok ()⟩ ∈ world.calls signal infrastructure

end World

/-- The cancellation is right for every process tree. -/
def Consistent (renumbering : Renumbering) : Prop :=
  ∀ (world : World renumbering) (signal : Int) (infrastructure : Option Pid),
    world.OnlyDescendants signal infrastructure ∧ world.EveryDescendant signal infrastructure

end Domains

section Gathering

variable {boundary : Boundary Handle} {earlier record : Record (@Query.Answer Handle)}
  {parents : ParentMap} {entries : List Pid} {last : Nat}

theorem gatherParents_ends (watched : Watched earlier record) :
    Ends boundary.answers last record (gatherParents parents entries) fun found later =>
      Watched earlier later ∧ ∀ pid parent, found.lookup pid = some parent →
        parents.lookup pid = some parent ∨
          ∃ instant, boundary.answers instant (.parent pid) = some parent := by
  induction entries generalizing parents record with
  | nil => exact Ends.pure ⟨watched, fun _ _ inside => .inl inside⟩
  | cons pid entries ih =>
      refine Ends.ask_bind fun _ answer read => ?_
      have watched := watched.more ⟨.parent pid, answer⟩ trivial
      cases answer with
      | none => exact ih watched
      | some parent =>
          refine (ih watched).imp fun found later _ _ known => ⟨known.1, fun other above inside => ?_⟩
          rcases known.2 other above inside with before | was_read
          · by_cases same : other = pid
            · rw [same, AList.lookup_insert] at before
              obtain rfl := Option.some.inj before
              exact .inr ⟨record.length, same ▸ read⟩
            · rw [AList.lookup_insert_ne same] at before
              exact .inl before
          · exact .inr was_read

/-- A process with the same parent in every reading has it in the map. -/
theorem gatherParents_has {pid parent : Pid}
    (steady : ∀ instant, instant ≤ last → boundary.answers instant (.parent pid) = some parent)
    (known : pid ∈ entries ∨ parents.lookup pid = some parent) :
    Ends boundary.answers last record (gatherParents parents entries) fun found _ =>
      found.lookup pid = some parent := by
  induction entries generalizing parents record with
  | nil => exact Ends.pure (known.resolve_left List.not_mem_nil)
  | cons other entries ih =>
      refine Ends.ask_bind fun within answer read => ?_
      by_cases same : other = pid
      · subst same
        rw [steady record.length (Nat.le_of_lt within)] at read
        subst read
        exact ih (.inr (AList.lookup_insert _))
      · have still : pid ∈ entries ∨ parents.lookup pid = some parent := by
          refine known.imp_left fun inside => ?_
          exact (List.mem_cons.mp inside).resolve_left (Ne.symm same)
        cases answer with
        | none => exact ih still
        | some above =>
            refine ih (still.imp_right fun inside => ?_)
            rw [AList.lookup_insert_ne (Ne.symm same)]
            exact inside

end Gathering

section Missed

/-- Whatever is below the root has somebody below the root itself. -/
theorem Reaches.child_of_root {parents : ParentMap} {root pid : Pid}
    (reaches : Reaches parents root pid) : ∃ child, parents.lookup child = some root := by
  induction reaches with
  | child up => exact ⟨_, up⟩
  | step _ _ _ _ _ ih => exact ih

/-- Where procfs shows nobody with the number of the reaper as a parent, nothing is sent. -/
theorem World.nothing_sent {renumbering : Renumbering} (world : World renumbering) (signal : Int)
    (infrastructure : Option Pid)
    (unseen : ∀ instant pid, world.syscalls.processParentPid instant pid ≠ some world.root) :
    Watched [] (world.calls signal infrastructure) := by
  have ended : Ends world.boundary.answers (world.calls signal infrastructure).length []
      (signalDescendants world.root world.root signal infrastructure (.ok world.role)
        (.ok world.entries)) fun _ later => Watched [] later := by
    refine Ends.bind (gatherParents_ends (Watched.refl [])) fun found later _ known => ?_
    have none_below : descendantPids found world.root = [] := by
      refine List.eq_nil_iff_forall_not_mem.mpr fun pid inside => ?_
      obtain ⟨child, up⟩ := (mem_descendantPids.mp inside).child_of_root
      rcases known.2 child world.root up with before | ⟨instant, was_read⟩
      · cases before
      · exact unseen instant child was_read
    rw [none_below]
    exact Ends.pure known.1
  exact ended.whole

end Missed

section Family

/-- Processes that stay as they are. -/
structure Family (Process : Type) where
  members : List Process
  everyone : ∀ process, process ∈ members
  pid : Process → Pid
  is_pid : ∀ process, IsPid (pid process)
  distinct : Function.Injective pid
  parent : Process → Option Process
  acyclic : ∀ process,
    ¬ Relation.TransGen (fun one other => parent one = some other) process process

namespace Family

variable (family : Family Process) (renumbering : Renumbering)

def member (number : Process → Pid) (wanted : Pid) : Option Process :=
  family.members.find? fun process => number process == wanted

theorem member_iff {number : Process → Pid} (distinct : Function.Injective number) {wanted : Pid}
    {process : Process} : family.member number wanted = some process ↔ number process = wanted := by
  constructor
  · intro found
    rw [member] at found
    have named := List.find?_some found
    exact eq_of_beq named
  · intro named
    cases found : family.member number wanted with
    | none =>
        have unnamed := List.find?_eq_none.mp found process (family.everyone process)
        exact absurd (beq_iff_eq.mpr named) unnamed
    | some other =>
        rw [member] at found
        have also := List.find?_some found
        exact congrArg some (distinct ((eq_of_beq also).trans named.symm))

theorem member_self {number : Process → Pid} (distinct : Function.Injective number)
    (process : Process) : family.member number (number process) = some process :=
  (family.member_iff distinct).mpr rfl

def shown (process : Process) : Pid := renumbering.shown (family.pid process)

theorem shown_distinct : Function.Injective (family.shown renumbering) := fun _ _ same =>
  family.distinct (renumbering.injective (family.is_pid _) (family.is_pid _) same)

def history : History Process where
  pid := family.pid
  alive _ _ := True
  occupant _ := family.member family.pid
  parent _ := family.parent
  positive process := (family.is_pid process).1
  occupies _ := family.member_self family.distinct _
  numbered found := (family.member_iff family.distinct).mp found
  parent_exists _ _ := family.member_self family.distinct _
  keeps_parent _ _ up _ _ := up

def shownParent (process : Process) : Pid :=
  ((family.parent process).map (family.shown renumbering)).getD 0

theorem shownParent_fits (process : Process) : family.shownParent renumbering process < 2 ^ 31 := by
  rw [shownParent]
  cases family.parent process with
  | none =>
      rw [Option.map_none, Option.getD_none]
      decide
  | some above => exact (renumbering.fits (family.is_pid above)).2

def entries : List (Except IoError Bytes) :=
  family.members.map fun process =>
    .ok (utf8 (.ofList (decimal (family.shown renumbering process).toNat)))

theorem procEntryPid_decimal {pid : Pid} (is_pid : IsPid pid) :
    procEntryPid (.ok (utf8 (.ofList (decimal pid.toNat)))) = some pid := by
  have natural : (pid.toNat : Int) = pid := Int.toNat_of_nonneg (Int.le_of_lt is_pid.1)
  have fits : pid.toNat < 2 ^ 31 :=
    (Int.toNat_lt (Int.le_of_lt is_pid.1)).mpr is_pid.2
  rw [procEntryPid, readUtf8_eq_some.mpr rfl, Option.bind_some, String.toList_ofList,
    parseSigned_decimal fits, natural]

theorem entries_read : (family.entries renumbering).filterMap procEntryPid =
    family.members.map (family.shown renumbering) := by
  rw [entries, List.filterMap_map]
  refine List.filterMap_eq_map_iff_forall_eq_some.mpr fun process _ => ?_
  exact procEntryPid_decimal (renumbering.fits (family.is_pid process))

def syscalls : Syscalls Process where
  openPidfd _ pid := (family.member family.pid pid).elim (.error (.other "No such process")) .ok
  processParentPid _ number :=
    (family.member (family.shown renumbering) number).map (family.shownParent renumbering)
  poll _ _ := (0, 0)
  confirmContainment _ _ := true
  pidfdSendSignal _ _ _ := .ok ()
  parent_fits := by
    intro _ number parent read
    obtain ⟨process, _, rfl⟩ := Option.map_eq_some_iff.mp read
    exact family.shownParent_fits renumbering process

theorem openPidfd_iff {instant : Nat} {pid : Pid} {process : Process} :
    (family.syscalls renumbering).openPidfd instant pid = .ok process ↔
      family.member family.pid pid = some process := by
  change (family.member family.pid pid).elim _ _ = _ ↔ _
  cases family.member family.pid pid with
  | none =>
      constructor
      · intro opened
        cases opened
      · intro found
        cases found
  | some other =>
      constructor
      · intro opened
        exact congrArg some (Except.ok.inj opened)
      · intro found
        exact congrArg _ (Option.some.inj found)

/-- Any of the members as the reaper. -/
def world (reaper : Process) : World renumbering where
  Process := Process
  Handle := Process
  history := family.history
  reaper := reaper
  denotes := id
  syscalls := family.syscalls renumbering
  role := none
  entries := family.entries renumbering
  is_pid := family.is_pid
  reaper_alive _ := trivial
  acyclic _ := family.acyclic
  captured opened := (family.openPidfd_iff renumbering).mp opened
  captures found := ⟨_, (family.openPidfd_iff renumbering).mpr found⟩
  live_since _ _ _ _ _ _ := trivial
  looks_live _ := rfl
  reads := by
    intro _ number parent
    constructor
    · intro read
      obtain ⟨process, found, rfl⟩ := Option.map_eq_some_iff.mp read
      have named := (family.member_iff (family.shown_distinct renumbering)).mp found
      exact ⟨process, family.member_self family.distinct process, named, rfl⟩
    · rintro ⟨process, _, named, rfl⟩
      refine Option.map_eq_some_iff.mpr ⟨process, ?_, rfl⟩
      exact (family.member_iff (family.shown_distinct renumbering)).mpr named
  lists _ := by
    rw [family.entries_read]
    exact List.mem_map_of_mem (family.everyone _)
  confirms _ _ none := nomatch none
  delivers _ := rfl

end Family

end Family

section Moved

/-- A reaper and its child. -/
inductive Kin
  | reaper
  | child
  deriving DecidableEq

def Kin.pid (number : Pid) : Kin → Pid
  | .reaper => number
  | .child => if number = 2 then 3 else 2

def Kin.parent : Kin → Option Kin
  | .reaper => none
  | .child => some .reaper

/-- Nobody is below a process that is nobody's parent. -/
theorem not_below_itself {parent : Process → Option Process} {process : Process}
    (up : ∀ above, parent process = some above → parent above = none) :
    ¬ Relation.TransGen (fun one other => parent one = some other) process process := by
  intro cycle
  rcases Relation.TransGen.head'_iff.mp cycle with ⟨first, begins, rest⟩
  have top := up first begins
  rcases Relation.ReflTransGen.cases_head rest with same | ⟨next, further, _⟩
  · subst same
    rw [begins] at top
    cases top
  · rw [further] at top
    cases top

def kin {number : Pid} (is_pid : IsPid number) : Family Kin where
  members := [.reaper, .child]
  everyone process := by cases process <;> decide
  pid := Kin.pid number
  is_pid process := by
    cases process with
    | reaper => exact is_pid
    | child =>
        rw [Kin.pid]
        split <;> decide
  distinct one other same := by
    cases one <;> cases other <;> simp only [Kin.pid] at same ⊢ <;> grind
  parent := Kin.parent
  acyclic process := not_below_itself fun above up => by
    cases process with
    | reaper => cases up
    | child =>
        cases up
        rfl

/-- A reaper whose number procfs does not show as its own leaves its child alone. -/
theorem moved_reaper_misses {renumbering : Renumbering} {number : Pid} (is_pid : IsPid number)
    (moved : renumbering.shown number ≠ number) :
    ¬ ((kin is_pid).world renumbering .reaper).EveryDescendant 15 none := by
  intro every
  have unseen : ∀ instant pid, ((kin is_pid).syscalls renumbering).processParentPid instant pid ≠
      some number := by
    intro instant pid read
    obtain ⟨process, _, shown⟩ := Option.map_eq_some_iff.mp read
    cases process with
    | reaper => exact absurd shown (Int.ne_of_lt is_pid.1)
    | child => exact moved shown
  have child : 1 < Kin.pid number .child := by
    rw [Kin.pid]
    split <;> decide
  obtain ⟨handle, _, sent⟩ := every .child (.child (fun _ _ => trivial) ⟨child, nofun⟩ fun _ _ => rfl)
  obtain ⟨reads, calls_are, watching⟩ :=
    World.nothing_sent ((kin is_pid).world renumbering .reaper) 15 none unseen
  rw [calls_are] at sent
  exact (watching _ sent).quiet trivial

end Moved

section Same

variable {renumbering : Renumbering} {world : World renumbering} {exclusions : List (Option Pid)}
  {record : Record (@Query.Answer world.Handle)} {instant last rounds : Nat}

theorem Descends.unexcluded {history : History Process} {reaper process : Process}
    {during : Nat → Prop} (below : Descends history reaper exclusions during process) :
    Descends history reaper [] during process := by
  induction below with
  | child alive free up => exact .child alive ⟨free.1, List.not_mem_nil⟩ up
  | step alive free up _ ih => exact .step alive ⟨free.1, List.not_mem_nil⟩ up ih

theorem History.distinct {history : History Process} {one other : Process}
    (alive : history.alive instant one) (also : history.alive instant other)
    (same : history.pid one = history.pid other) : one = other := by
  have occupies := history.occupies alive
  rw [same, history.occupies also] at occupies
  exact (Option.some.inj occupies).symm

theorem Descends.above {history : History Process} {reaper process : Process}
    {during : Nat → Prop} (below : Descends history reaper exclusions during process)
    (now : during instant) :
    Relation.TransGen (fun one other => history.parent instant one = some other) process reaper := by
  induction below with
  | child _ _ up => exact .single (up instant now)
  | step _ _ up _ ih => exact .head (up instant now) ih

theorem Descends.alive {history : History Process} {reaper process : Process}
    {during : Nat → Prop} (below : Descends history reaper exclusions during process)
    (now : during instant) : history.alive instant process := by
  cases below with
  | child alive => exact alive instant now
  | step alive => exact alive instant now

namespace World

/-- Where procfs has the numbers of the namespace, it shows a parent by its number. -/
theorem reads_same (same : ∀ pid, IsPid pid → renumbering.shown pid = pid) {number parent : Pid} :
    world.syscalls.processParentPid instant number = some parent ↔
      ∃ process, world.history.occupant instant number = some process ∧
        world.history.shown instant process = parent := by
  have shown : ∀ process, renumbering.shown (world.history.pid process) = world.history.pid process :=
    fun process => same _ (world.is_pid process)
  rw [world.reads]
  simp only [shown]
  constructor
  · rintro ⟨process, occupies, rfl, rfl⟩
    exact ⟨process, occupies, rfl⟩
  · rintro ⟨process, occupies, rfl⟩
    have named := world.history.numbered occupies
    exact ⟨process, named.symm ▸ occupies, named, rfl⟩

theorem faithful (same : ∀ pid, IsPid pid → renumbering.shown pid = pid) :
    Faithful world.boundary world.history world.denotes world.reaper world.root where
  captured opened := world.captured opened
  live opened later live := world.live_since opened later live
  read found := (reads_same same).mp found
  reaper_alive := world.reaper_alive
  reaper_pid := rfl

/-- Every signal so far went to a process below the reaper. -/
def Right (world : World renumbering) (record : Record (@Query.Answer world.Handle)) : Prop :=
  ∀ handle number answer, ⟨.send handle number, answer⟩ ∈ record →
    ∃ instant, instant < record.length ∧
      Descends world.history world.reaper [] (· = instant) (world.denotes handle)

theorem Right.more {made : Record (@Query.Answer world.Handle)} (right : world.Right record)
    (new : ∀ handle number answer, ⟨.send handle number, answer⟩ ∈ made →
      ∃ instant, instant < (record ++ made).length ∧
        Descends world.history world.reaper [] (· = instant) (world.denotes handle)) :
    world.Right (record ++ made) := by
  intro handle number answer inside
  rcases List.mem_append.mp inside with inside | inside
  · obtain ⟨instant, early, below⟩ := right handle number answer inside
    refine ⟨instant, ?_, below⟩
    rw [List.length_append]
    exact Nat.lt_of_lt_of_le early (Nat.le_add_right _ _)
  · exact new handle number answer inside

theorem Right.watched {later : Record (@Query.Answer world.Handle)} (right : world.Right record)
    (quiet : Quiet record later) : world.Right later := by
  obtain ⟨made, rfl, none⟩ := quiet
  exact right.more fun _ _ _ inside => absurd trivial (none _ inside)

theorem signalPid_right (same : ∀ pid, IsPid pid → renumbering.shown pid = pid) (signal : Int)
    (infrastructure : Option Pid) (pid : Pid) (right : world.Right record) :
    Ends world.boundary.answers last record
      (signalPid world.root signal infrastructure world.role pid) fun _ later => world.Right later := by
  refine Ends.bind (signalUsingExclusions_ends (faithful same) pid signal _ record) ?_
  rintro outcome later _ ⟨_, ended⟩
  refine Ends.pure ?_
  rcases ended with ⟨quiet, _⟩ | ⟨reads, handle, answer, _, delivered⟩
  · exact right.watched quiet
  · obtain ⟨instant, _, early, below⟩ := delivered.descends
    rw [delivered.record_is, List.append_assoc, List.append_assoc]
    refine right.more fun other number response inside => ?_
    have only : (⟨.send other number, response⟩ : Call (@Query.Answer world.Handle)) =
        ⟨.send handle signal, answer⟩ := by
      rcases List.mem_append.mp inside with inside | inside
      · exact absurd trivial (delivered.watching _ inside).quiet
      · rcases List.mem_cons.mp inside with confirm | inside
        · cases confirm
        · exact List.mem_singleton.mp inside
    cases only
    refine ⟨instant, ?_, below.unexcluded⟩
    rw [← List.append_assoc, List.length_append]
    exact Nat.lt_of_lt_of_le early (Nat.le_add_right _ _)

theorem only_descendants (same : ∀ pid, IsPid pid → renumbering.shown pid = pid)
    (world : World renumbering) (signal : Int) (infrastructure : Option Pid) :
    world.OnlyDescendants signal infrastructure := by
  have ended : Ends world.boundary.answers (world.calls signal infrastructure).length []
      (signalDescendants world.root world.root signal infrastructure (.ok world.role)
        (.ok world.entries)) fun _ later => world.Right later := by
    refine Ends.bind (gatherParents_ends (Watched.refl [])) fun found later _ known => ?_
    have begins : world.Right later :=
      Right.watched (fun _ _ _ inside => absurd inside List.not_mem_nil) known.1.quiet
    exact Ends.forM_keeps begins fun pid _ _ _ right =>
      signalPid_right same signal infrastructure pid right
  exact ended.whole

theorem reads_parent (same : ∀ pid, IsPid pid → renumbering.shown pid = pid)
    {process above : world.Process} (alive : world.history.alive instant process)
    (up : world.history.parent instant process = some above) :
    world.boundary.answers instant (.parent (world.history.pid process)) =
      some (world.history.pid above) := by
  refine (reads_same same).mpr ⟨process, world.history.occupies alive, ?_⟩
  rw [History.shown, up]
  rfl

/-- A link that the second pass finds as it is, whenever it looks. -/
def Steadfast (world : World renumbering) (last : Nat) (link : Link world.Handle) : Prop :=
  ∀ instant, instant ≤ last →
    world.boundary.answers instant (.parent link.pid) = some link.parent ∧
    world.history.alive instant (world.denotes link.handle)

/-- Numbers of processes below the one in question. -/
def Passed (world : World renumbering) (process : world.Process) (seen : List Pid) : Prop :=
  ∀ number ∈ seen, ∃ member, world.history.alive 0 member ∧ world.history.pid member = number ∧
    Relation.TransGen (fun one other => world.history.parent 0 one = some other) member process

theorem Passed.unseen {process : world.Process} {seen : List Pid}
    (passed : world.Passed process seen) (alive : world.history.alive 0 process) :
    world.history.pid process ∉ seen := by
  intro inside
  obtain ⟨member, also, named, below⟩ := passed _ inside
  have one := History.distinct also alive named
  exact world.acyclic 0 process (one ▸ below)

theorem Passed.more {process above : world.Process} {seen : List Pid}
    (passed : world.Passed process seen) (alive : world.history.alive 0 process)
    (up : world.history.parent 0 process = some above) :
    world.Passed above (world.history.pid process :: seen) := by
  intro number inside
  rcases List.mem_cons.mp inside with rfl | inside
  · exact ⟨process, alive, rfl, .single up⟩
  · obtain ⟨member, also, named, below⟩ := passed number inside
    exact ⟨member, also, named, below.tail up⟩

theorem not_root {process : world.Process}
    (below : Descends world.history world.reaper exclusions (· ≤ last) process) :
    world.history.pid process ≠ world.root := by
  intro named
  have one := History.distinct (below.alive (Nat.zero_le last)) (world.reaper_alive 0) named
  exact world.acyclic 0 world.reaper (one ▸ below.above (Nat.zero_le last))

theorem climb_up (same : ∀ pid, IsPid pid → renumbering.shown pid = pid)
    {process above : world.Process} {seen : List Pid} {chain : List (Link world.Handle)}
    {post : Climb world.Handle → Record (@Query.Answer world.Handle) → Prop}
    (below : Descends world.history world.reaper exclusions (· ≤ last) process)
    (free : Free exclusions (world.history.pid process))
    (up : ∀ instant, instant ≤ last → world.history.parent instant process = some above)
    (alive : ∀ instant, instant ≤ last → world.history.alive instant process)
    (passed : world.Passed process seen)
    (further : ∀ handle later, world.denotes handle = process →
      world.Steadfast last ⟨world.history.pid process, world.history.pid above, handle⟩ →
      Ends world.boundary.answers last later (climb world.root exclusions rounds
        (world.history.pid above) (world.history.pid process :: seen)
        (chain ++ [⟨world.history.pid process, world.history.pid above, handle⟩])) post) :
    Ends world.boundary.answers last record
      (climb world.root exclusions (rounds + 1) (world.history.pid process) seen chain) post := by
  have open_ : ¬ (world.history.pid process ≤ 1 ∨ some (world.history.pid process) ∈ exclusions ∨
      world.history.pid process ∈ seen) := by
    rw [not_or, not_or]
    exact ⟨Int.not_le.mpr free.1, free.2, passed.unseen (alive 0 (Nat.zero_le last))⟩
  rw [climb, if_neg (not_root below), if_neg open_]
  refine Ends.ask_bind fun within captured pins => ?_
  have now := alive _ (Nat.le_of_lt within)
  have occupies := world.history.occupies now
  obtain ⟨handle, opened⟩ := world.captures occupies
  have answered : world.boundary.answers record.length (.capture (world.history.pid process)) =
    .ok handle := opened
  rw [pins] at answered
  subst answered
  have denoted : world.denotes handle = process :=
    Option.some.inj ((world.captured opened).symm.trans occupies)
  refine Ends.ask_bind fun within parent read => ?_
  have then_ := alive _ (Nat.le_of_lt within)
  rw [reads_parent same then_ (up _ (Nat.le_of_lt within))] at read
  subst read
  exact further handle _ denoted fun instant before =>
    ⟨reads_parent same (alive instant before) (up instant before), denoted.symm ▸ alive instant before⟩

/-- A chain of such links with the target at its lower end. -/
def Chain (world : World renumbering) (last : Nat) (target process : world.Process)
    (chain : List (Link world.Handle)) : Prop :=
  (∀ link ∈ chain, world.Steadfast last link) ∧
    ((chain = [] ∧ process = target) ∨ ∃ link ∈ chain.head?, world.denotes link.handle = target)

theorem Chain.more {target process above : world.Process} {chain : List (Link world.Handle)}
    (formed : world.Chain last target process chain) {link : Link world.Handle}
    (denoted : world.denotes link.handle = process) (steadfast : world.Steadfast last link) :
    world.Chain last target above (chain ++ [link]) := by
  obtain ⟨all, first⟩ := formed
  constructor
  · intro other inside
    rcases List.mem_append.mp inside with inside | inside
    · exact all other inside
    · rw [List.mem_singleton.mp inside]
      exact steadfast
  · rcases first with ⟨rfl, rfl⟩ | ⟨head, is_head, denotes_target⟩
    · exact .inr ⟨link, rfl, denoted⟩
    · refine .inr ⟨head, ?_, denotes_target⟩
      rw [List.head?_append, Option.mem_def.mp is_head]
      rfl

theorem climb_reaches (same : ∀ pid, IsPid pid → renumbering.shown pid = pid)
    {target process : world.Process} {seen : List Pid} {chain : List (Link world.Handle)}
    (below : Descends world.history world.reaper exclusions (· ≤ last) process)
    (passed : world.Passed process seen) (formed : world.Chain last target process chain) :
    Ends world.boundary.answers last record
      (climb world.root exclusions rounds (world.history.pid process) seen chain) fun climb _ =>
        climb = .unfinished ∨ ∃ chain, climb = .reached chain ∧
          world.Chain last target world.reaper chain ∧ chain ≠ [] := by
  induction below generalizing rounds seen chain record with
  | @child process alive free up =>
      have below : Descends world.history world.reaper exclusions (· ≤ last) process :=
        .child alive free up
      cases rounds with
      | zero => exact Ends.pure (.inl rfl)
      | succ rounds =>
          refine climb_up same below free up alive passed fun handle later denoted steadfast => ?_
          cases rounds with
          | zero => exact Ends.pure (.inl rfl)
          | succ rounds =>
              rw [climb, if_pos (show world.history.pid world.reaper = world.root from rfl)]
              refine Ends.pure (.inr ⟨_, rfl, formed.more denoted steadfast, ?_⟩)
              exact List.append_ne_nil_of_right_ne_nil _ (List.cons_ne_nil _ _)
  | @step process above alive free up rest ih =>
      have below : Descends world.history world.reaper exclusions (· ≤ last) process :=
        .step alive free up rest
      cases rounds with
      | zero => exact Ends.pure (.inl rfl)
      | succ rounds =>
          refine climb_up same below free up alive passed fun handle later denoted steadfast => ?_
          have start := Nat.zero_le last
          exact ih (passed.more (alive 0 start) (up 0 start)) (formed.more denoted steadfast)

theorem role_confirms (world : World renumbering) (instant : Nat) :
    world.boundary.answers instant .confirmRole = true := by
  change world.role.all _ = true
  cases role : world.role with
  | none => rfl
  | some guard =>
      have confirms := world.confirms instant guard role
      exact Bool.and_eq_true_iff.mpr confirms

theorem signalChain_sends {target : Link world.Handle} {rest : List (Link world.Handle)}
    (steadfast : ∀ link ∈ target :: rest, world.Steadfast last link) (signal : Int) :
    Ends world.boundary.answers last record (signalChain target (target :: rest) signal)
      fun _ later => ⟨.send target.handle signal, .ok ()⟩ ∈ later := by
  have unchanged : Ends world.boundary.answers last record (changed (target :: rest))
      fun hit _ => hit = false := by
    refine Ends.anyM_misses fun link inside now => Ends.ask_bind fun within parent read => ?_
    rw [((steadfast link inside) now.length (Nat.le_of_lt within)).1] at read
    exact Ends.pure (decide_eq_false (not_not.mpr read.symm))
  refine Ends.bind unchanged fun hit reread _ same => ?_
  subst same
  have alive : Ends world.boundary.answers last reread (dead (target :: rest))
      fun hit _ => hit = false := by
    refine Ends.anyM_misses fun link inside now => Ends.ask_bind fun within answer read => ?_
    have live := world.looks_live ((steadfast link inside) now.length (Nat.le_of_lt within)).2
    obtain rfl : answer = true := read.symm.trans live
    exact Ends.pure rfl
  refine Ends.bind alive fun hit checked _ same => ?_
  subst same
  refine Ends.ask_bind fun within confirmed confirms => ?_
  obtain rfl : confirmed = true := confirms.symm.trans (world.role_confirms _)
  refine Ends.ask_bind fun within answer sent => ?_
  have live := ((steadfast target List.mem_cons_self) _ (Nat.le_of_lt within)).2
  obtain rfl : answer = .ok () := sent.symm.trans (world.delivers live)
  exact Ends.pure (List.mem_append_right _ List.mem_cons_self)

theorem signalPid_sends (same : ∀ pid, IsPid pid → renumbering.shown pid = pid) (signal : Int)
    (infrastructure : Option Pid) {process : world.Process}
    (below : Descends world.history world.reaper (world.exclusions infrastructure) (· ≤ last) process) :
    Ends world.boundary.answers last record
      (signalPid world.root signal infrastructure world.role (world.history.pid process))
      fun _ later => ∃ handle, world.denotes handle = process ∧
        ⟨.send handle signal, .ok ()⟩ ∈ later := by
  have fits : ∀ number ∈ ([] : List Pid), number = world.history.pid process ∨
      (1 < number ∧ number < 2 ^ 31) := fun _ inside => absurd inside List.not_mem_nil
  have passed : world.Passed process [] := fun _ inside => absurd inside List.not_mem_nil
  have formed : world.Chain last process process [] :=
    ⟨fun _ inside => absurd inside List.not_mem_nil, .inl ⟨rfl, rfl⟩⟩
  have finishes : Ends world.boundary.answers last record
      (climb world.root (world.exclusions infrastructure) (2 ^ 31) (world.history.pid process) [] [])
      fun climb _ => climb ≠ .unfinished :=
    climb_finishes _ List.nodup_nil fits (.inl rfl) (Nat.le_refl _)
  have sends : Ends world.boundary.answers last record
      (signalUsingExclusions world.root (world.history.pid process) signal
        (world.exclusions infrastructure)) fun _ later => ∃ handle, world.denotes handle = process ∧
          ⟨.send handle signal, .ok ()⟩ ∈ later := by
    refine Ends.bind ((climb_reaches same below passed formed).and finishes) ?_
    intro climb reached _ found
    obtain ⟨chain, rfl, formed, nonempty⟩ := found.1.resolve_left found.2
    cases chain with
    | nil => exact absurd rfl nonempty
    | cons target rest =>
        obtain ⟨first, is_first, denoted⟩ := formed.2.resolve_left fun empty => nonempty empty.1
        obtain rfl := Option.some.inj is_first
        refine Ends.bind (signalChain_sends formed.1 signal) fun _ later _ sent => ?_
        exact Ends.pure ⟨target.handle, denoted, sent⟩
  exact Ends.bind sends fun _ _ _ sent => Ends.pure sent

theorem discovered {found : ParentMap} {process : world.Process}
    (below : Descends world.history world.reaper exclusions (· ≤ last) process)
    (has : ∀ member above, (∀ instant, instant ≤ last → world.history.alive instant member) →
      (∀ instant, instant ≤ last → world.history.parent instant member = some above) →
      found.lookup (world.history.pid member) = some (world.history.pid above)) :
    world.history.pid process ∈ descendantPids found world.root := by
  refine mem_descendantPids.mpr ?_
  induction below with
  | child alive free up => exact .child (has _ _ alive up)
  | @step process above alive free up rest ih =>
      have owned : 1 < world.history.pid above := by
        cases rest with
        | child _ free => exact free.1
        | step _ free => exact free.1
      refine .step (has _ _ alive up) (not_root rest) owned (fun named => ?_) ih
      have start := Nat.zero_le last
      have one := History.distinct (rest.alive start) (alive 0 start) named
      exact world.acyclic 0 process (.single (one ▸ up 0 start))

theorem every_descendant (same : ∀ pid, IsPid pid → renumbering.shown pid = pid)
    (world : World renumbering) (signal : Int) (infrastructure : Option Pid) :
    world.EveryDescendant signal infrastructure := by
  intro process below
  have ended : Ends world.boundary.answers (world.calls signal infrastructure).length []
      (signalDescendants world.root world.root signal infrastructure (.ok world.role)
        (.ok world.entries)) fun _ later => ∃ handle, world.denotes handle = process ∧
          ⟨.send handle signal, .ok ()⟩ ∈ later := by
    have gathers : Ends world.boundary.answers (world.calls signal infrastructure).length []
        (gatherParents ∅ (world.entries.filterMap procEntryPid)) fun found _ =>
          world.history.pid process ∈ descendantPids found world.root := by
      intro within
      refine discovered below fun member above alive up => ?_
      refine gatherParents_has (fun instant before => ?_) (.inl ?_) within
      · exact reads_parent same (alive instant before) (up instant before)
      · have listed := world.lists (alive 0 (Nat.zero_le _))
        rwa [same _ (world.is_pid member)] at listed
    refine Ends.bind gathers fun found later _ inside => ?_
    refine Ends.forM_does inside ?_ fun now => signalPid_sends same signal infrastructure below
    rintro before after grown ⟨handle, denoted, sent⟩
    exact ⟨handle, denoted, grown.subset sent⟩
  exact ended.whole

end World

end Same

/-- A cancellation signals exactly whom it should, in every process tree, if and only if procfs shows
every process under the number that it has in the reaper's PID namespace. -/
theorem cancellation_consistent_iff (renumbering : Renumbering) :
    Consistent renumbering ↔ ∀ pid, IsPid pid → renumbering.shown pid = pid := by
  constructor
  · intro consistent pid is_pid
    by_contra moved
    exact moved_reaper_misses is_pid moved (consistent _ 15 none).2
  · intro same world signal infrastructure
    exact ⟨World.only_descendants same world signal infrastructure,
      World.every_descendant same world signal infrastructure⟩

/-- Procfs shows the processes 5 and 7 under each other's number. -/
def swapped : Renumbering where
  shown := Equiv.swap 5 7
  fits {pid} is_pid := by
    rw [Equiv.swap_apply_def]
    split
    · decide
    · split
      · decide
      · exact is_pid
  injective _ _ same := (Equiv.swap 5 7).injective same

inductive Household
  | reaper
  | worker
  | neighbour
  | stranger
  deriving DecidableEq

def Household.pid : Household → Pid
  | .reaper => 5
  | .worker => 6
  | .neighbour => 7
  | .stranger => 9

def Household.parent : Household → Option Household
  | .worker => some .reaper
  | .stranger => some .neighbour
  | _ => none

/-- A worker below the reaper, and a stranger below a process that is not its descendant. -/
def household : Family Household where
  members := [.reaper, .worker, .neighbour, .stranger]
  everyone process := by cases process <;> decide
  pid := Household.pid
  is_pid process := by cases process <;> decide
  distinct one other same := by
    cases one <;> cases other <;> first | rfl | cases same
  parent := Household.parent
  acyclic process := not_below_itself fun above up => by
    cases process <;> cases up <;> rfl

def swappedHousehold : World swapped := household.world swapped .reaper

/-- The stranger is signalled, and the worker is not. -/
theorem swapped_household_inconsistent :
    ¬ swappedHousehold.OnlyDescendants 15 none ∧ ¬ swappedHousehold.EveryDescendant 15 none := by
  have calls : (swappedHousehold.calls 15 none).map (·.ask) =
      [.parent 7, .parent 6, .parent 5, .parent 9, .capture 9, .parent 9, .parent 9, .live .stranger,
        .confirmRole, .send .stranger 15] := by
    change ((signalDescendants _ _ _ _ _ (.ok (household.entries swapped))).run _ _).2.map _ = _
    rw [signalDescendants, Watch.procParentMap, household.entries_read]
    rfl
  constructor
  · intro only
    have asked : .send .stranger 15 ∈ (swappedHousehold.calls 15 none).map (·.ask) := by
      rw [calls]
      exact List.mem_of_getElem? (i := 9) rfl
    obtain ⟨⟨_, answer⟩, inside, rfl⟩ := List.mem_map.mp asked
    obtain ⟨instant, _, below⟩ := only .stranger 15 answer inside
    cases below with
    | child _ _ up => cases up instant rfl
    | step _ _ up rest =>
        cases up instant rfl
        cases rest with
        | child _ _ up => cases up instant rfl
        | step _ _ up => cases up instant rfl
  · intro every
    obtain ⟨handle, rfl, sent⟩ := every .worker
      (.child (fun _ _ => trivial) ⟨by decide, by decide⟩ fun _ _ => rfl)
    have asked := List.mem_map_of_mem (f := (·.ask)) sent
    rw [calls] at asked
    simp only [List.mem_cons, reduceCtorEq, false_or, List.not_mem_nil, or_false] at asked
    cases asked

end Supervisor

end AgentBash
