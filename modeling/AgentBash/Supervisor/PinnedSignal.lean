import AgentBash.Calls.Session
import AgentBash.Durable.Program
import AgentBash.Supervisor.Descendants
import Mathlib.Data.Int.Interval

/-!
# Signals to pinned descendants

A number that was found below the reaper is only a hint. The reaper climbs from it to itself and
pins every process on the way before it reads that process's parent; then it reads every parent
again, looks at every pin again, has the delivery role confirm, and signals through the first pin.
-/

namespace AgentBash

set_option autoImplicit false

namespace Supervisor

open Calls Durable

inductive Query (Handle : Type) where
  | capture (pid : Pid)
  | parent (pid : Pid)
  | live (handle : Handle)
  | confirmRole
  | send (handle : Handle) (signal : Int)

variable {Handle Process : Type}

abbrev Query.Answer : Query Handle → Type
  | .capture _ => Except IoError Handle
  | .parent _ => Option Pid
  | .live _ => Bool
  | .confirmRole => Bool
  | .send _ _ => Except IoError Unit

/-- The number that is read as a parent is a `pid_t`. -/
structure Boundary (Handle : Type) where
  answers : Environment (@Query.Answer Handle)
  parent_fits : ∀ {instant pid parent}, answers instant (.parent pid) = some parent → parent < 2 ^ 31

/-- The system calls behind `Kernel`; `poll` answers with its result and the returned events. -/
structure Syscalls (Handle : Type) where
  openPidfd : Nat → Pid → Except IoError Handle
  processParentPid : Nat → Pid → Option Pid
  poll : Nat → Handle → Int × Int
  confirmContainment : Nat → Pid → Bool
  pidfdSendSignal : Nat → Handle → Int → Except IoError Unit
  parent_fits : ∀ {instant pid parent}, processParentPid instant pid = some parent → parent < 2 ^ 31

/-- Unknown, exited and invalid descriptors all fail closed. -/
def Syscalls.live (syscalls : Syscalls Handle) (instant : Nat) (handle : Handle) : Bool :=
  (syscalls.poll instant handle).1 == 0 && (syscalls.poll instant handle).2 == 0

def kernel (syscalls : Syscalls Handle) (roleGuard : Option (Pid × Handle)) : Boundary Handle where
  answers instant
    | .capture pid => syscalls.openPidfd instant pid
    | .parent pid => syscalls.processParentPid instant pid
    | .live handle => syscalls.live instant handle
    | .confirmRole =>
        roleGuard.all fun (pid, guard) =>
          syscalls.confirmContainment instant pid && syscalls.live instant guard
    | .send handle signal => syscalls.pidfdSendSignal instant handle signal
  parent_fits := syscalls.parent_fits

structure Link (Handle : Type) where
  pid : Pid
  parent : Pid
  handle : Handle

/-- How the loop of `signal_using_exclusions` is left; `unfinished` stands for the loop that goes
on after the given number of rounds. -/
inductive Climb (Handle : Type) where
  | reached (chain : List (Link Handle))
  | refused
  | failed (error : IoError)
  | unfinished

abbrev Watch (Handle : Type) := Session (@Query.Answer Handle)

namespace Watch

def capture (pid : Pid) : Watch Handle (Except IoError Handle) := Session.ask (Query.capture pid)

def parent (pid : Pid) : Watch Handle (Option Pid) := Session.ask (Query.parent pid)

def live (handle : Handle) : Watch Handle Bool := Session.ask (Query.live handle)

def confirmRole : Watch Handle Bool := Session.ask Query.confirmRole

def send (handle : Handle) (signal : Int) : Watch Handle (Except IoError Unit) :=
  Session.ask (Query.send handle signal)

end Watch

def climb (root : Pid) (exclusions : List (Option Pid)) :
    Nat → Pid → List Pid → List (Link Handle) → Watch Handle (Climb Handle)
  | 0, _, _, _ => pure .unfinished
  | rounds + 1, cursor, seen, chain =>
      if cursor = root then pure (.reached chain)
      else if cursor ≤ 1 ∨ some cursor ∈ exclusions ∨ cursor ∈ seen then pure .refused
      else do
        -- the pin comes before the look at procfs
        match ← Watch.capture cursor with
        | .error error => pure (.failed error)
        | .ok handle =>
            match ← Watch.parent cursor with
            | none => pure .refused
            | some parent =>
                climb root exclusions rounds parent (cursor :: seen) (chain ++ [⟨cursor, parent, handle⟩])

def changed (chain : List (Link Handle)) : Watch Handle Bool :=
  chain.anyM fun link => do
    let parent ← Watch.parent link.pid
    pure (decide (parent ≠ some link.parent))

def dead (chain : List (Link Handle)) : Watch Handle Bool :=
  chain.anyM fun link => do
    let live ← Watch.live link.handle
    pure !live

/-- After every number was read and every pin was seen live. -/
def deliver (target : Link Handle) (signal : Int) : Watch Handle (Except IoError Bool) := do
  if !(← Watch.confirmRole) then
    pure (.error (.other "delivery role did not confirm containment"))
  else
    match ← Watch.send target.handle signal with
    | .error error => pure (.error error)
    | .ok () => pure (.ok true)

def signalChain (target : Link Handle) (chain : List (Link Handle)) (signal : Int) :
    Watch Handle (Except IoError Bool) := do
  if ← changed chain then pure (.ok false)
  else if ← dead chain then pure (.ok false)
  else deliver target signal

/-- The set of numbers seen bounds the rounds: there are fewer than `2 ^ 31` of them. Nothing is
returned where the loop would still go on. -/
def signalUsingExclusions (root pid : Pid) (signal : Int) (exclusions : List (Option Pid)) :
    Watch Handle (Option (Except IoError Bool)) := do
  match ← climb root exclusions (2 ^ 31) pid [] [] with
  | .unfinished => pure none
  | .failed error => pure (some (.error error))
  | .refused => pure (some (.ok false))
  | .reached [] => pure (some (.ok false))
  | .reached (target :: rest) => some <$> signalChain target (target :: rest) signal

/-- The process table over time. A process is one incarnation; it keeps its number until it has been
reaped, and from then on the number may be given to another. -/
structure History (Process : Type) where
  pid : Process → Pid
  alive : Nat → Process → Prop
  occupant : Nat → Pid → Option Process
  /-- A parent outside the PID namespace is not known, and shown as zero. -/
  parent : Nat → Process → Option Process
  positive : ∀ process, 0 < pid process
  occupies : ∀ {instant process}, alive instant process →
    occupant instant (pid process) = some process
  numbered : ∀ {instant number process}, occupant instant number = some process →
    pid process = number
  parent_exists : ∀ {instant number process above}, occupant instant number = some process →
    parent instant process = some above → occupant instant (pid above) = some above
  /-- A process changes its parent only when the parent exits. -/
  keeps_parent : ∀ {instant process above}, alive instant process → alive (instant + 1) process →
    parent instant process = some above → alive instant above → alive (instant + 1) above →
    parent (instant + 1) process = some above

def History.shown (history : History Process) (instant : Nat) (process : Process) : Pid :=
  ((history.parent instant process).map history.pid).getD 0

/-- What the calls say about the process table: a handle denotes the process that had the number
when it was pinned, a handle that is reported live has been live since then, and the root is this
process itself. -/
structure Faithful (boundary : Boundary Handle) (history : History Process)
    (denotes : Handle → Process) (reaper : Process) (root : Pid) : Prop where
  captured : ∀ {instant pid handle}, boundary.answers instant (.capture pid) = .ok handle →
    history.occupant instant pid = some (denotes handle)
  live : ∀ {pinned instant pid handle}, boundary.answers pinned (.capture pid) = .ok handle →
    pinned ≤ instant → boundary.answers instant (.live handle) = true →
    ∀ between, pinned ≤ between → between ≤ instant → history.alive between (denotes handle)
  read : ∀ {instant pid number}, boundary.answers instant (.parent pid) = some number →
    ∃ process, history.occupant instant pid = some process ∧
      history.shown instant process = number
  reaper_alive : ∀ instant, history.alive instant reaper
  reaper_pid : history.pid reaper = root

/-- No init, and not excluded. -/
def Free (exclusions : List (Option Pid)) (pid : Pid) : Prop := 1 < pid ∧ some pid ∉ exclusions

/-- A process below `reaper` for the time in question, itself and all processes between them live and
free. -/
inductive Descends (history : History Process) (reaper : Process) (exclusions : List (Option Pid))
    (during : Nat → Prop) : Process → Prop
  | child {process} (alive : ∀ instant, during instant → history.alive instant process)
      (free : Free exclusions (history.pid process))
      (up : ∀ instant, during instant → history.parent instant process = some reaper) :
      Descends history reaper exclusions during process
  | step {process above} (alive : ∀ instant, during instant → history.alive instant process)
      (free : Free exclusions (history.pid process))
      (up : ∀ instant, during instant → history.parent instant process = some above)
      (rest : Descends history reaper exclusions during above) :
      Descends history reaper exclusions during process

section Ancestry

variable {boundary : Boundary Handle} {history : History Process} {denotes : Handle → Process}
  {reaper : Process} {root pid cursor : Pid} {exclusions : List (Option Pid)}
  {chain : List (Link Handle)} {link : Link Handle} {first last : Nat}

/-- The links lead from one number to another. -/
inductive Leads : Pid → List (Link Handle) → Pid → Prop
  | nil (pid : Pid) : Leads pid [] pid
  | cons {pid cursor : Pid} {link : Link Handle} {rest : List (Link Handle)}
      (begins : link.pid = pid) (further : Leads link.parent rest cursor) :
      Leads pid (link :: rest) cursor

theorem Leads.snoc (leads : Leads pid chain link.pid) :
    Leads pid (chain ++ [link]) link.parent := by
  generalize top : link.pid = cursor at leads
  induction leads with
  | nil => exact .cons top (.nil _)
  | cons begins _ ih => exact .cons begins (ih top)

theorem Leads.begins_at (leads : Leads pid chain cursor) : ∀ target ∈ chain.head?, target.pid = pid := by
  cases leads with
  | nil => exact fun _ none => nomatch none
  | cons begins _ =>
      intro target first
      obtain rfl := Option.some.inj first
      exact begins

theorem History.keeps_parent_until {process above : Process} (ordered : first ≤ last)
    (alive : ∀ instant, first ≤ instant → instant ≤ last → history.alive instant process)
    (alive_above : ∀ instant, first ≤ instant → instant ≤ last → history.alive instant above)
    (up : history.parent first process = some above) :
    history.parent last process = some above := by
  induction last, ordered using Nat.le_induction with
  | base => exact up
  | succ last ordered ih =>
      have before := ih (fun instant low high => alive instant low (Nat.le_succ_of_le high))
        fun instant low high => alive_above instant low (Nat.le_succ_of_le high)
      exact history.keeps_parent (alive last ordered (Nat.le_succ last))
        (alive _ (Nat.le_succ_of_le ordered) (Nat.le_refl _)) before
        (alive_above last ordered (Nat.le_succ last))
        (alive_above _ (Nat.le_succ_of_le ordered) (Nat.le_refl _))

theorem Faithful.parent_is (faithful : Faithful boundary history denotes reaper root)
    {process above : Process} {instant : Nat} (alive : history.alive instant process)
    (alive_above : history.alive instant above)
    (read : boundary.answers instant (.parent (history.pid process)) = some (history.pid above)) :
    history.parent instant process = some above := by
  obtain ⟨shower, occupies, shown⟩ := faithful.read read
  have same : shower = process := Option.some.inj (occupies.symm.trans (history.occupies alive))
  subst same
  rw [History.shown] at shown
  cases up : history.parent instant shower with
  | none =>
      rw [up, Option.map_none, Option.getD_none] at shown
      exact absurd shown (Int.ne_of_lt (history.positive above))
  | some other =>
      rw [up, Option.map_some, Option.getD_some] at shown
      have there := history.parent_exists occupies up
      rw [shown, history.occupies alive_above] at there
      exact congrArg some (Option.some.inj there).symm

/-- All pins are taken by `first` and live from there to `last`; every edge is read again between
the two. Then at `last` the chain is the ancestry of its first process. -/
theorem Faithful.descends (faithful : Faithful boundary history denotes reaper root)
    (leads : Leads pid chain root) (nonempty : chain ≠ [])
    (numbered : ∀ link ∈ chain, history.pid (denotes link.handle) = link.pid)
    (alive : ∀ link ∈ chain, ∀ instant, first ≤ instant → instant ≤ last →
      history.alive instant (denotes link.handle))
    (free : ∀ link ∈ chain, Free exclusions link.pid)
    (read : ∀ link ∈ chain, ∃ instant, first ≤ instant ∧ instant ≤ last ∧
      boundary.answers instant (.parent link.pid) = some link.parent) :
    ∀ target ∈ chain.head?, Descends history reaper exclusions (· = last) (denotes target.handle) := by
  induction leads with
  | nil => exact absurd rfl nonempty
  | @cons pid cursor link rest begins further ih =>
      intro target is_target
      obtain rfl := Option.some.inj is_target
      obtain ⟨instant, low, high, answered⟩ := read link List.mem_cons_self
      have lives := alive link List.mem_cons_self
      have is_free : Free exclusions (history.pid (denotes link.handle)) :=
        (numbered link List.mem_cons_self).symm ▸ free link List.mem_cons_self
      have at_last : ∀ now, now = last → history.alive now (denotes link.handle) :=
        fun now is_last => is_last ▸ lives last (Nat.le_trans low high) (Nat.le_refl _)
      rw [← numbered link List.mem_cons_self] at answered
      cases further with
      | nil =>
          rw [← faithful.reaper_pid] at answered
          have up := faithful.parent_is (lives instant low high) (faithful.reaper_alive instant) answered
          have still := history.keeps_parent_until high
            (fun now from_ till => lives now (Nat.le_trans low from_) till)
            (fun now _ _ => faithful.reaper_alive now) up
          exact .child at_last is_free fun now is_last => is_last ▸ still
      | @cons _ _ next rest top further =>
          have inside : next ∈ link :: next :: rest := List.mem_cons_of_mem _ List.mem_cons_self
          rw [← top, ← numbered next inside] at answered
          have lives_above := alive next inside
          have up := faithful.parent_is (lives instant low high) (lives_above instant low high)
            answered
          have still := history.keeps_parent_until high
            (fun now from_ till => lives now (Nat.le_trans low from_) till)
            (fun now from_ till => lives_above now (Nat.le_trans low from_) till) up
          have below := ih faithful (List.cons_ne_nil _ _)
            (fun link inside => numbered link (List.mem_cons_of_mem _ inside))
            (fun link inside => alive link (List.mem_cons_of_mem _ inside))
            (fun link inside => free link (List.mem_cons_of_mem _ inside))
            (fun link inside => read link (List.mem_cons_of_mem _ inside)) next rfl
          exact .step at_last is_free (fun now is_last => is_last ▸ still) below

end Ancestry

section Calls

variable {boundary : Boundary Handle} {root pid cursor : Pid} {exclusions : List (Option Pid)}
  {earlier record : Record (@Query.Answer Handle)} {chain : List (Link Handle)} {last : Nat}

/-- A pin, a look at a parent or a look at a pin. -/
def Watching (call : Call (@Query.Answer Handle)) : Prop :=
  match call.ask with
  | .capture _ => True
  | .parent _ => True
  | .live _ => True
  | .confirmRole => False
  | .send _ _ => False

/-- Since the earlier calls only these were made. -/
def Watched (earlier record : Record (@Query.Answer Handle)) : Prop :=
  ∃ reads, record = earlier ++ reads ∧ ∀ call ∈ reads, Watching call

theorem Watched.refl (record : Record (@Query.Answer Handle)) : Watched record record :=
  ⟨[], (List.append_nil record).symm, fun _ inside => absurd inside List.not_mem_nil⟩

theorem Watched.more (watched : Watched earlier record) (call : Call (@Query.Answer Handle))
    (watching : Watching call) : Watched earlier (record ++ [call]) := by
  obtain ⟨reads, rfl, all⟩ := watched
  refine ⟨reads ++ [call], List.append_assoc _ _ _, fun other inside => ?_⟩
  rcases List.mem_append.mp inside with inside | inside
  · exact all other inside
  · rw [List.mem_singleton.mp inside]
    exact watching

theorem Watched.grows (watched : Watched earlier record) : earlier <+: record := by
  obtain ⟨reads, rfl, _⟩ := watched
  exact List.prefix_append _ _

/-- Pinned by a call of the record that came after the earlier calls. -/
def Pinned (boundary : Boundary Handle) (earlier : Record (@Query.Answer Handle)) (link : Link Handle)
    (record : Record (@Query.Answer Handle)) : Prop :=
  ∃ instant, earlier.length ≤ instant ∧ instant < record.length ∧
    record[instant]? = some ⟨.capture link.pid, .ok link.handle⟩ ∧
    boundary.answers instant (.capture link.pid) = .ok link.handle

theorem Pinned.lasts {link : Link Handle} {later : Record (@Query.Answer Handle)}
    (grown : record <+: later) (pinned : Pinned boundary earlier link record) :
    Pinned boundary earlier link later := by
  obtain ⟨instant, low, high, made, answered⟩ := pinned
  refine ⟨instant, low, Nat.lt_of_lt_of_le high grown.length_le, ?_, answered⟩
  obtain ⟨rest, rfl⟩ := grown
  rw [List.getElem?_append_left high, made]

theorem Pinned.inside {link : Link Handle} {reads : Record (@Query.Answer Handle)}
    (pinned : Pinned boundary earlier link (earlier ++ reads)) :
    ⟨.capture link.pid, .ok link.handle⟩ ∈ reads := by
  obtain ⟨instant, low, _, made, _⟩ := pinned
  rw [List.getElem?_append_right low] at made
  exact List.mem_of_getElem? made

theorem Pinned.numbered {link : Link Handle} {history : History Process} {denotes : Handle → Process}
    {reaper : Process} (faithful : Faithful boundary history denotes reaper root)
    (pinned : Pinned boundary earlier link record) : history.pid (denotes link.handle) = link.pid := by
  obtain ⟨instant, _, _, _, captured⟩ := pinned
  exact history.numbered (faithful.captured captured)

/-- What the climb knows at its cursor. -/
structure Climbed (boundary : Boundary Handle) (exclusions : List (Option Pid))
    (earlier : Record (@Query.Answer Handle)) (pid : Pid) (chain : List (Link Handle)) (cursor : Pid)
    (record : Record (@Query.Answer Handle)) : Prop where
  watched : Watched earlier record
  leads : Leads pid chain cursor
  pinned : ∀ link ∈ chain, Pinned boundary earlier link record
  free : ∀ link ∈ chain, Free exclusions link.pid

theorem Climbed.more {parent : Pid} {handle : Handle} {answer : Option Pid}
    (climbed : Climbed boundary exclusions earlier pid chain cursor record)
    (watched : Watched earlier (record ++ [⟨.capture cursor, .ok handle⟩] ++ [⟨.parent cursor, answer⟩]))
    (free : Free exclusions cursor)
    (pins : boundary.answers record.length (.capture cursor) = .ok handle) :
    Climbed boundary exclusions earlier pid (chain ++ [⟨cursor, parent, handle⟩]) parent
      (record ++ [⟨.capture cursor, .ok handle⟩] ++ [⟨.parent cursor, answer⟩]) where
  watched := watched
  leads := climbed.leads.snoc
  pinned := by
    intro link inside
    rcases List.mem_append.mp inside with inside | inside
    · rw [List.append_assoc]
      exact (climbed.pinned link inside).lasts (List.prefix_append _ _)
    · rw [List.mem_singleton.mp inside]
      refine ⟨record.length, climbed.watched.grows.length_le, ?_, ?_, pins⟩
      · simp only [List.length_append, List.length_singleton]
        omega
      · rw [List.append_assoc, List.getElem?_append_right (Nat.le_refl _), Nat.sub_self]
        rfl
  free := by
    intro link inside
    rcases List.mem_append.mp inside with inside | inside
    · exact climbed.free link inside
    · rw [List.mem_singleton.mp inside]
      exact free

theorem climb_ends {rounds : Nat} {seen : List Pid}
    (climbed : Climbed boundary exclusions earlier pid chain cursor record) :
    Ends boundary.answers last record (climb root exclusions rounds cursor seen chain)
      fun climb later => Watched earlier later ∧ ∀ chain, climb = .reached chain →
        Climbed boundary exclusions earlier pid chain root later := by
  induction rounds generalizing cursor seen chain record with
  | zero => exact Ends.pure ⟨climbed.watched, fun _ reached => nomatch reached⟩
  | succ rounds ih =>
      rw [climb]
      by_cases top : cursor = root
      · rw [if_pos top]
        subst top
        refine Ends.pure ⟨climbed.watched, fun _ reached => ?_⟩
        cases reached
        exact climbed
      rw [if_neg top]
      by_cases stops : cursor ≤ 1 ∨ some cursor ∈ exclusions ∨ cursor ∈ seen
      · rw [if_pos stops]
        exact Ends.pure ⟨climbed.watched, fun _ reached => nomatch reached⟩
      rw [if_neg stops]
      rw [not_or, not_or] at stops
      have free : Free exclusions cursor := ⟨Int.not_le.mp stops.1, stops.2.1⟩
      refine Ends.ask_bind fun _ captured pins => ?_
      cases captured with
      | error error =>
          have watched := climbed.watched.more ⟨.capture cursor, .error error⟩ trivial
          exact Ends.pure ⟨watched, fun _ reached => nomatch reached⟩
      | ok handle =>
          have watched := climbed.watched.more ⟨.capture cursor, .ok handle⟩ trivial
          refine Ends.ask_bind fun _ parent _ => ?_
          have watched := watched.more ⟨.parent cursor, parent⟩ trivial
          cases parent with
          | none => exact Ends.pure ⟨watched, fun _ reached => nomatch reached⟩
          | some parent => exact ih (climbed.more watched free pins)

/-- Numbers that were seen differ from each other, and all but the first were read as parents. -/
theorem seen_fits {seen : List Pid} (distinct : seen.Nodup)
    (fits : ∀ number ∈ seen, number = pid ∨ (1 < number ∧ number < 2 ^ 31)) :
    seen.length < 2 ^ 31 := by
  have inside : seen.toFinset ⊆ insert pid (Finset.Ioo 1 (2 ^ 31)) := by
    intro number found
    rw [Finset.mem_insert, Finset.mem_Ioo]
    exact fits number (List.mem_toFinset.mp found)
  have size := Finset.card_le_card inside
  rw [List.toFinset_card_of_nodup distinct] at size
  have bound := Nat.le_trans size (Finset.card_insert_le _ _)
  rw [Int.card_Ioo] at bound
  omega

theorem climb_finishes (pid : Pid) {rounds : Nat} {seen : List Pid} (distinct : seen.Nodup)
    (fits : ∀ number ∈ seen, number = pid ∨ (1 < number ∧ number < 2 ^ 31))
    (cursor_fits : cursor = pid ∨ cursor < 2 ^ 31) (enough : 2 ^ 31 ≤ rounds + seen.length) :
    Ends boundary.answers last record (climb root exclusions rounds cursor seen chain)
      fun climb _ => climb ≠ .unfinished := by
  induction rounds generalizing cursor seen chain record with
  | zero =>
      have short := seen_fits distinct fits
      omega
  | succ rounds ih =>
      rw [climb]
      by_cases top : cursor = root
      · rw [if_pos top]
        exact Ends.pure fun same => nomatch same
      rw [if_neg top]
      by_cases stops : cursor ≤ 1 ∨ some cursor ∈ exclusions ∨ cursor ∈ seen
      · rw [if_pos stops]
        exact Ends.pure fun same => nomatch same
      rw [if_neg stops]
      rw [not_or, not_or] at stops
      refine Ends.ask_bind fun _ captured _ => ?_
      cases captured with
      | error error => exact Ends.pure fun same => nomatch same
      | ok handle =>
          refine Ends.ask_bind fun _ parent read => ?_
          cases parent with
          | none => exact Ends.pure fun same => nomatch same
          | some parent =>
              refine ih (List.nodup_cons.mpr ⟨stops.2.2, distinct⟩) ?_
                (.inr (boundary.parent_fits read)) ?_
              · intro number inside
                rcases List.mem_cons.mp inside with rfl | inside
                · exact cursor_fits.imp_right fun low => ⟨Int.not_le.mp stops.1, low⟩
                · exact fits number inside
              · rw [List.length_cons]
                omega

theorem changed_ends (watched : Watched earlier record) :
    Ends boundary.answers last record (changed chain) fun hit later =>
      Watched earlier later ∧ (hit = false → ∀ link ∈ chain, ∃ instant, record.length ≤ instant ∧
        instant < later.length ∧
        boundary.answers instant (.parent link.pid) = some link.parent) := by
  refine Ends.anyM watched ?_ ?_
  · rintro link one two grown ⟨instant, low, high, read⟩
    exact ⟨instant, low, Nat.lt_of_lt_of_le high grown.length_le, read⟩
  · intro link _ now grown watched
    refine Ends.ask_bind fun _ parent read => ?_
    refine Ends.pure ⟨watched.more _ trivial, fun same => ?_⟩
    refine ⟨now.length, grown.length_le, ?_, ?_⟩
    · rw [List.length_append]
      exact Nat.lt_succ_self _
    · rw [read]
      exact not_not.mp (of_decide_eq_false same)

theorem dead_ends (watched : Watched earlier record) :
    Ends boundary.answers last record (dead chain) fun hit later =>
      Watched earlier later ∧ (hit = false → ∀ link ∈ chain, ∃ instant, record.length ≤ instant ∧
        instant < later.length ∧ boundary.answers instant (.live link.handle) = true) := by
  refine Ends.anyM watched ?_ ?_
  · rintro link one two grown ⟨instant, low, high, live⟩
    exact ⟨instant, low, Nat.lt_of_lt_of_le high grown.length_le, live⟩
  · intro link _ now grown watched
    refine Ends.ask_bind fun _ answer live => ?_
    refine Ends.pure ⟨watched.more _ trivial, fun same => ?_⟩
    refine ⟨now.length, grown.length_le, ?_, ?_⟩
    · rw [List.length_append]
      exact Nat.lt_succ_self _
    · rw [live]
      cases answer with
      | true => rfl
      | false => cases same

end Calls

section Delivery

variable {boundary : Boundary Handle} {history : History Process} {denotes : Handle → Process}
  {reaper : Process} {root pid : Pid} {signal : Int} {exclusions : List (Option Pid)}
  {earlier record : Record (@Query.Answer Handle)} {chain : List (Link Handle)}
  {target : Link Handle} {last : Nat}

def Sends (call : Call (@Query.Answer Handle)) : Prop :=
  match call.ask with
  | .send _ _ => True
  | _ => False

theorem Watching.quiet {call : Call (@Query.Answer Handle)} (watching : Watching call) :
    ¬ Sends call := by
  obtain ⟨ask, answer⟩ := call
  cases ask with
  | send => exact fun _ => watching
  | _ => exact id

/-- Since the earlier calls no signal was sent, nor was it tried. -/
def Quiet (earlier record : Record (@Query.Answer Handle)) : Prop :=
  ∃ made, record = earlier ++ made ∧ ∀ call ∈ made, ¬ Sends call

theorem Watched.quiet (watched : Watched earlier record) : Quiet earlier record := by
  obtain ⟨reads, rfl, all⟩ := watched
  exact ⟨reads, rfl, fun call inside => (all call inside).quiet⟩

/-- After nothing but reads and a confirmation one signal was tried, through the handle that the
number was first pinned by; at an instant of these reads its process was below the reaper. -/
structure Delivered (history : History Process) (denotes : Handle → Process) (reaper : Process)
    (exclusions : List (Option Pid)) (pid : Pid) (signal : Int)
    (earlier reads : Record (@Query.Answer Handle)) (handle : Handle) (answer : Except IoError Unit)
    (record : Record (@Query.Answer Handle)) : Prop where
  record_is : record = earlier ++ reads ++ [⟨.confirmRole, true⟩] ++ [⟨.send handle signal, answer⟩]
  watching : ∀ call ∈ reads, Watching call
  captured : ⟨.capture pid, .ok handle⟩ ∈ reads
  descends : ∃ instant, earlier.length ≤ instant ∧ instant < (earlier ++ reads).length ∧
    Descends history reaper exclusions (· = instant) (denotes handle)

theorem Delivered.only {reads : Record (@Query.Answer Handle)} {handle : Handle}
    {answer : Except IoError Unit}
    (delivered : Delivered history denotes reaper exclusions pid signal [] reads handle answer record)
    {other : Handle} {number : Int} {response : Except IoError Unit}
    (inside : (⟨.send other number, response⟩ : Call (@Query.Answer Handle)) ∈ record) :
    (⟨.send other number, response⟩ : Call (@Query.Answer Handle)) = ⟨.send handle signal, answer⟩ := by
  rw [delivered.record_is] at inside
  rcases List.mem_append.mp inside with inside | inside
  · rcases List.mem_append.mp inside with inside | inside
    · exact absurd trivial (delivered.watching _ inside).quiet
    · cases List.mem_singleton.mp inside
  · exact List.mem_singleton.mp inside

theorem deliver_ends :
    Ends boundary.answers last record (deliver target signal) fun outcome later =>
      (Quiet record later ∧ outcome ≠ .ok true) ∨ ∃ answer : Except IoError Unit,
        outcome = answer.map (fun _ => true) ∧
        later = record ++ [⟨.confirmRole, true⟩] ++ [⟨.send target.handle signal, answer⟩] := by
  refine Ends.ask_bind fun _ confirmed _ => ?_
  cases confirmed with
  | false =>
      refine Ends.pure (.inl ⟨⟨[_], rfl, fun call inside => ?_⟩, fun same => nomatch same⟩)
      rw [List.mem_singleton.mp inside]
      exact id
  | true =>
      refine Ends.ask_bind fun _ answer _ => ?_
      cases answer with
      | error error => exact Ends.pure (.inr ⟨.error error, rfl, rfl⟩)
      | ok sent => exact Ends.pure (.inr ⟨.ok sent, rfl, rfl⟩)

theorem Quiet.trans {later : Record (@Query.Answer Handle)} (quiet : Quiet earlier record)
    (further : Quiet record later) : Quiet earlier later := by
  obtain ⟨made, rfl, none⟩ := quiet
  obtain ⟨more, rfl, none_more⟩ := further
  refine ⟨made ++ more, List.append_assoc _ _ _, fun call inside => ?_⟩
  rcases List.mem_append.mp inside with inside | inside
  · exact none call inside
  · exact none_more call inside

/-- What the second pass over a chain that was climbed proves about it. -/
theorem signalChain_ends (faithful : Faithful boundary history denotes reaper root)
    (climbed : Climbed boundary exclusions earlier pid chain root record)
    (first : target ∈ chain.head?) :
    Ends boundary.answers last record (signalChain target chain signal) fun outcome later =>
      (Quiet earlier later ∧ outcome ≠ .ok true) ∨ ∃ reads answer,
        outcome = answer.map (fun _ => true) ∧ Delivered history denotes reaper exclusions pid signal
          earlier reads target.handle answer later := by
  refine Ends.bind (changed_ends climbed.watched) fun hit reread grown edges => ?_
  cases hit with
  | true => exact Ends.pure (.inl ⟨edges.1.quiet, fun same => nomatch same⟩)
  | false =>
      refine Ends.bind (dead_ends edges.1) fun hit checked further pins => ?_
      cases hit with
      | true => exact Ends.pure (.inl ⟨pins.1.quiet, fun same => nomatch same⟩)
      | false =>
          have lives : ∀ link ∈ chain, ∀ instant, record.length ≤ instant →
              instant ≤ reread.length → history.alive instant (denotes link.handle) := by
            intro link inside instant low high
            obtain ⟨pinned, _, before, _, captured⟩ := climbed.pinned link inside
            obtain ⟨looked, after, _, live⟩ := pins.2 rfl link inside
            exact faithful.live captured (by omega) live instant (by omega) (by omega)
          have below := faithful.descends climbed.leads (List.ne_nil_of_mem (List.mem_of_mem_head? first))
            (fun link inside => (climbed.pinned link inside).numbered faithful) lives climbed.free
            (fun link inside => by
              obtain ⟨instant, low, high, read⟩ := edges.2 rfl link inside
              exact ⟨instant, low, Nat.le_of_lt high, read⟩) target first
          have pinned := climbed.pinned target (List.mem_of_mem_head? first)
          obtain ⟨looked, after, within, _⟩ := pins.2 rfl target (List.mem_of_mem_head? first)
          have begins := climbed.watched.grows.length_le
          have more := grown.length_le
          obtain ⟨reads, rfl, watching⟩ := pins.1
          refine deliver_ends.imp fun outcome later _ _ ended => ?_
          rcases ended with ⟨quiet, refused⟩ | ⟨answer, told, made⟩
          · exact .inl ⟨pins.1.quiet.trans quiet, refused⟩
          · refine .inr ⟨reads, answer, told, made, watching, ?_, reread.length, ?_, ?_, below⟩
            · rw [← climbed.leads.begins_at target first]
              exact (pinned.lasts (grown.trans further)).inside
            · omega
            · omega

theorem signalUsingExclusions_ends (faithful : Faithful boundary history denotes reaper root)
    (pid : Pid) (signal : Int) (exclusions : List (Option Pid))
    (earlier : Record (@Query.Answer Handle)) :
    Ends boundary.answers last earlier (signalUsingExclusions root pid signal exclusions)
      fun outcome later => outcome ≠ none ∧ ((Quiet earlier later ∧ outcome ≠ some (.ok true)) ∨
        ∃ reads handle answer, outcome = some (answer.map fun _ => true) ∧
          Delivered history denotes reaper exclusions pid signal earlier reads handle answer later) := by
  have start : Climbed boundary exclusions earlier pid [] pid earlier :=
    { watched := .refl earlier
      leads := .nil pid
      pinned := fun _ inside => absurd inside List.not_mem_nil
      free := fun _ inside => absurd inside List.not_mem_nil }
  have finishes : Ends boundary.answers last earlier (climb root exclusions (2 ^ 31) pid [] [])
      fun climb _ => climb ≠ .unfinished :=
    climb_finishes pid List.nodup_nil (fun _ inside => absurd inside List.not_mem_nil)
      (.inl rfl) (Nat.le_refl _)
  refine Ends.bind ((climb_ends start).and finishes) fun climb record _ climbed => ?_
  obtain ⟨⟨watched, reached⟩, finished⟩ := climbed
  cases climb with
  | unfinished => exact absurd rfl finished
  | failed error =>
      exact Ends.pure ⟨Option.some_ne_none _, .inl ⟨watched.quiet, fun same => nomatch same⟩⟩
  | refused =>
      exact Ends.pure ⟨Option.some_ne_none _, .inl ⟨watched.quiet, fun same => nomatch same⟩⟩
  | reached chain =>
      cases chain with
      | nil => exact Ends.pure ⟨Option.some_ne_none _, .inl ⟨watched.quiet, fun same => nomatch same⟩⟩
      | cons target rest =>
          refine Ends.bind (signalChain_ends faithful (reached _ rfl) rfl) fun outcome later _ ended => ?_
          refine Ends.pure ⟨Option.some_ne_none _, ?_⟩
          rcases ended with ⟨quiet, refused⟩ | ⟨reads, answer, told, delivered⟩
          · exact .inl ⟨quiet, fun same => refused (Option.some.inj same)⟩
          · exact .inr ⟨reads, target.handle, answer, congrArg some told, delivered⟩

end Delivery

/-- Whatever the process table does between the calls: the loop ends, nothing is sent unless `true` is
returned, and a signal reaches only a process that was, at an instant of the call, a live descendant
of the reaper through processes that are neither init nor excluded; the role confirmed in between,
after every read. -/
theorem signal_pinned_ancestry {boundary : Boundary Handle} {history : History Process}
    {denotes : Handle → Process} {reaper : Process} {root : Pid}
    (faithful : Faithful boundary history denotes reaper root) (pid : Pid) (signal : Int)
    (exclusions : List (Option Pid)) :
    ∃ outcome record, (signalUsingExclusions root pid signal exclusions).run boundary.answers [] =
        (some outcome, record) ∧
      (outcome ≠ .ok true → ∀ handle number, ⟨.send handle number, .ok ()⟩ ∉ record) ∧
      ∀ handle number answer, ⟨.send handle number, answer⟩ ∈ record → number = signal ∧
        ∃ reads, Delivered history denotes reaper exclusions pid signal [] reads handle answer record := by
  have ended := (signalUsingExclusions_ends faithful pid signal exclusions []).whole
  generalize (signalUsingExclusions root pid signal exclusions).run boundary.answers [] = ran at ended
  obtain ⟨outcome, record⟩ := ran
  obtain ⟨finished, ended⟩ := ended
  obtain ⟨outcome, rfl⟩ := Option.ne_none_iff_exists'.mp finished
  refine ⟨outcome, record, rfl, ?_⟩
  rcases ended with ⟨quiet, refused⟩ | ⟨reads, handle, answer, told, delivered⟩
  · obtain ⟨made, record_is, none⟩ := quiet
    rw [List.nil_append] at record_is
    subst record_is
    have silent : ∀ handle number answer,
        (⟨.send handle number, answer⟩ : Call (@Query.Answer Handle)) ∉ record :=
      fun handle number answer inside => none ⟨.send handle number, answer⟩ inside trivial
    exact ⟨fun _ handle number => silent handle number _,
      fun handle number answer inside => absurd inside (silent handle number answer)⟩
  · refine ⟨fun failed other number inside => ?_, fun other number response inside => ?_⟩
    · cases delivered.only inside
      exact failed (Option.some.inj told)
    · cases delivered.only inside
      exact ⟨rfl, reads, delivered⟩

inductive Member
  | reaper
  | shell
  | worker
  deriving DecidableEq

def Member.pid : Member → Pid
  | .reaper => 10
  | .shell => 20
  | .worker => 30

def Member.parent : Member → Option Member
  | .reaper => none
  | .shell => some .reaper
  | .worker => some .shell

def memberAt (number : Pid) : Option Member :=
  [Member.reaper, .shell, .worker].find? fun member => member.pid == number

/-- A shell below the reaper and a worker below the shell, and nothing changes. -/
def forkedHistory : History Member where
  pid := Member.pid
  alive _ _ := True
  occupant _ := memberAt
  parent _ := Member.parent
  positive := by
    intro process
    cases process <;> decide
  occupies := by
    intro _ process _
    cases process <;> rfl
  numbered := by
    intro _ number process found
    rw [memberAt] at found
    have named := List.find?_some found
    exact eq_of_beq named
  parent_exists := by
    intro _ _ _ above _ _
    cases above <;> rfl
  keeps_parent := fun _ _ up _ _ => up

def forked : Boundary Member where
  answers _
    | .capture pid => (memberAt pid).elim (.error (.other "No such process")) .ok
    | .parent pid => (memberAt pid).map fun member => (member.parent.map Member.pid).getD 0
    | .live _ => true
    | .confirmRole => true
    | .send _ _ => .ok ()
  parent_fits := by
    intro _ pid parent read
    obtain ⟨member, _, rfl⟩ := Option.map_eq_some_iff.mp read
    cases member <;> decide

theorem forked_faithful : Faithful forked forkedHistory id .reaper 10 where
  captured := by
    intro _ pid handle captured
    change (memberAt pid).elim _ _ = _ at captured
    cases found : memberAt pid with
    | none =>
        rw [found] at captured
        cases captured
    | some member =>
        rw [found] at captured
        cases captured
        exact found
  live := fun _ _ _ _ _ _ => trivial
  read := by
    intro _ pid number read
    obtain ⟨member, found, shown⟩ := Option.map_eq_some_iff.mp read
    exact ⟨member, found, shown⟩
  reaper_alive := fun _ => trivial
  reaper_pid := rfl

/-- The worker is signalled. -/
theorem signal_pinned_ancestry_worker :
    ∃ record, (signalUsingExclusions 10 30 15 [some 25]).run forked.answers [] =
        (some (.ok true), record) ∧
      ∃ reads, Delivered forkedHistory id .reaper [some 25] 30 15 [] reads .worker (.ok ()) record := by
  obtain ⟨outcome, record, ran, _, signals⟩ := signal_pinned_ancestry forked_faithful 30 15 [some 25]
  have run : (signalUsingExclusions 10 30 15 [some 25]).run forked.answers [] =
    (some (.ok true), ((signalUsingExclusions 10 30 15 [some 25]).run forked.answers []).2) := by rfl
  have sent : ⟨.send .worker 15, .ok ()⟩ ∈
      ((signalUsingExclusions 10 30 15 [some 25]).run forked.answers []).2 :=
    List.mem_of_getElem? (i := 9) (by rfl)
  rw [ran] at run sent
  obtain rfl := Option.some.inj (Prod.ext_iff.mp run).1
  exact ⟨record, ran, (signals _ _ _ sent).2⟩

end Supervisor

end AgentBash
