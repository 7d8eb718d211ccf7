import AgentBash.Supervisor.Legacy
import AgentBash.Durable.Stakes

/-!
# Who may settle a handle

One process at a time may give a handle its verdict: the worker that registers it, then the
supervisor it forks, and once that supervisor is gone either anybody (a handle that completes on
exit) or the guardian, until it hands a sentinel handle to delivery as it is. A scene is what this
account looks at in the directory, with the history that the directory does not keep.
-/

namespace AgentBash

set_option autoImplicit false

open Durable

/-- What a terminal record says for good. -/
structure Verdict where
  state : State
  reason : Option CompletionReason
  rc : Option Int
  signal : Option Int
  completedAt : Option Nat
  deriving DecidableEq

def Meta.verdict (record : Meta) : Option Verdict :=
  if terminal record then
    some ⟨record.state, record.completionReason, record.rc, record.signal, record.completedAt⟩
  else none

def Verdict.cancelled (verdict : Verdict) : Prop :=
  verdict.reason = some .cancelRequest ∧ verdict.rc = some (signalToShellRc sigterm)

namespace TerminalLane

/-- The mode of the handle, the process that registers and guards it, and the pid that an
observer has for a process. -/
class Setting where
  mode : Mode
  keeper : Nat
  identityOf : Nat → Int

/-- What the directory does not keep: the supervisor, whether the guardian has given the verdict
up, whether an acceptance is beyond recall, and what the children of gated forks were given. -/
structure Ghost where
  delegate : Option Nat := none
  renounced : Bool := false
  pledged : Bool := false
  wards : Nat → Option Meta := fun _ => none

/-- A child that was just born is given what it may count on behind its gate. -/
def Ghost.adopt (ghost : Ghost) (child : Nat) (ward : Option Meta) : Ghost :=
  { ghost with wards := Function.update ghost.wards child ward }

abbrev View := HandleDisk × Ghost

structure Scene where
  record : Option Meta
  rcFile : Option Int
  marker : Bool
  registered : Bool
  holders : List Nat
  next : Nat
  ended : Nat → Option (Option Nat)
  gates : Nat → Gate
  completions : Nat
  ghost : Ghost

def scene (view : View) : Scene where
  record := view.1.files File.metaJson
  rcFile := view.1.files File.rc
  marker := (view.1.files File.acceptedCancel).isSome
  registered := (view.1.files File.registration).isSome
  holders := view.1.held Lock.completion
  next := view.1.next
  ended := view.1.ended
  gates := view.1.gates
  completions := view.1.world.completions
  ghost := view.2

/-- Whose the verdict is. -/
inductive Tenure
  | sole (pid : Nat)
  | anyone | nobody
  deriving DecidableEq

variable [setting : Setting]

namespace Scene

def verdict (s : Scene) : Option Verdict := s.record.bind Meta.verdict

/-- A cancellation was accepted before there was a verdict. -/
def accepted (s : Scene) : Bool := s.verdict.isNone && s.marker

def tenure (s : Scene) : Tenure :=
  match s.ghost.delegate with
  | none => .sole setting.keeper
  | some delegate =>
      if s.ended delegate = none then .sole delegate
      else if setting.mode = .exit then .anyone
      else if s.ghost.renounced = true then .nobody
      else .sole setting.keeper

def Decided (s : Scene) : Prop := s.verdict ≠ none ∨ s.tenure = .nobody

/-- A record that may stand in the directory: it is running unless it is terminal, and it names
nobody but the supervisor as such. -/
structure Fits (s : Scene) (record : Meta) : Prop where
  mode : record.mode = setting.mode
  whole : terminal record = true ∨ record.state = .running
  names : ∀ number, record.supervisorPid = some number →
    ∃ delegate, s.ghost.delegate = some delegate ∧ setting.identityOf delegate = number

structure Follows (s : Scene) (record : Meta) : Prop where
  fits : s.Fits record
  decided : s.Decided
  same : record.verdict = s.verdict

/-- Who is there: the holder of the lock, the keeper and its delegate. -/
structure Peopled (s : Scene) : Prop where
  holder : ∀ pid ∈ s.holders, s.holders = [pid] ∧ pid < s.next
  keeper : setting.keeper < s.next
  delegate : ∀ pid, s.ghost.delegate = some pid → pid ≠ setting.keeper ∧ pid < s.next

/-- An acceptance that is beyond recall: the verdict is still open, or it is that cancellation. -/
structure Pledged (s : Scene) : Prop where
  kept : s.ghost.pledged = true →
    s.accepted = true ∨ ∃ verdict, s.verdict = some verdict ∧ verdict.cancelled
  given : s.holders = [] → s.accepted = true → s.ghost.pledged = true
  unborn : s.ghost.delegate = none → s.accepted = false

structure Inv (s : Scene) : Prop where
  legacy : s.registered = false
  recorded : ∃ record, s.record = some record ∧ s.Fits record
  settled : ∀ verdict, s.verdict = some verdict → verdict.rc.isSome ∧ s.rcFile = verdict.rc
  peopled : s.Peopled
  pledged : s.Pledged
  renounced : s.ghost.renounced = true → s.tenure = .nobody
  wards : ∀ pid record, s.ghost.wards pid = some record →
    pid < s.next ∧ (s.gates pid = .opened → s.Follows record)
  delivered : s.completions ≠ 0 → s.Decided

/-- What a holder of the completion lock can count on. -/
def standing (s : Scene) : Option Verdict × Option Int × Bool × Bool :=
  (s.verdict, s.rcFile, s.accepted, s.ghost.pledged)

structure Lasts (before after : Scene) : Prop where
  next : before.next ≤ after.next
  ended : ∀ pid status, pid < before.next → before.ended pid = some status →
    after.ended pid = some status
  settled : ∀ verdict, before.verdict = some verdict →
    after.verdict = some verdict ∧ after.rcFile = before.rcFile
  delegate : ∀ pid, before.ghost.delegate = some pid → after.ghost.delegate = some pid
  anyone : before.tenure = .anyone → after.tenure = .anyone
  nobody : before.tenure = .nobody → after.tenure = .nobody ∧ after.verdict = before.verdict
  pledged : before.ghost.pledged = true → after.ghost.pledged = true
  wards : ∀ pid record, before.ghost.wards pid = some record →
    after.ghost.wards pid = some record

end Scene

/-- A lock held, the sole right to the verdict, the guardian's office, and the mere absence of
the lock. -/
inductive Stake
  | lock | right | office | apart

def Stake.Has (pid : Nat) : Stake → Scene → Prop
  | .lock, s => s.holders = [pid]
  | .right, s => s.tenure = .sole pid
  | .office, s => pid = setting.keeper ∧ s.ghost.renounced = false
  | .apart, s => pid < s.next ∧ pid ∉ s.holders

def Stake.Keeps : Stake → Scene → Scene → Prop
  | .lock, before, after => after.standing = before.standing
  | .right, before, after => after.verdict = before.verdict
  | .office, before, after => after.ghost.delegate = before.ghost.delegate
  | .apart, _, _ => True

namespace Scene

theorem Lasts.refl (s : Scene) : Lasts s s where
  next := le_refl _
  ended _ _ _ same := same
  settled _ same := ⟨same, rfl⟩
  delegate _ same := same
  anyone same := same
  nobody same := ⟨same, rfl⟩
  pledged same := same
  wards _ _ same := same

theorem Lasts.trans {first second third : Scene} (one : Lasts first second)
    (two : Lasts second third) : Lasts first third where
  next := one.next.trans two.next
  ended pid status born same :=
    two.ended pid status (lt_of_lt_of_le born one.next) (one.ended pid status born same)
  settled verdict same :=
    ⟨(two.settled verdict (one.settled verdict same).1).1,
      (two.settled verdict (one.settled verdict same).1).2.trans (one.settled verdict same).2⟩
  delegate pid same := two.delegate pid (one.delegate pid same)
  anyone same := two.anyone (one.anyone same)
  nobody same :=
    ⟨(two.nobody (one.nobody same).1).1, (two.nobody (one.nobody same).1).2.trans (one.nobody same).2⟩
  pledged same := two.pledged (one.pledged same)
  wards pid record same := two.wards pid record (one.wards pid record same)

theorem Lasts.decided {before after : Scene} (lasts : Lasts before after)
    (decided : before.Decided) : after.Decided := by
  rcases decided with settled | nobody
  · obtain ⟨verdict, known⟩ := Option.ne_none_iff_exists'.mp settled
    exact .inl (by rw [(lasts.settled verdict known).1]; nofun)
  · exact .inr (lasts.nobody nobody).1

theorem Lasts.verdict {before after : Scene} (lasts : Lasts before after)
    (decided : before.Decided) : after.verdict = before.verdict := by
  rcases decided with settled | nobody
  · obtain ⟨verdict, known⟩ := Option.ne_none_iff_exists'.mp settled
    rw [(lasts.settled verdict known).1, known]
  · exact (lasts.nobody nobody).2

theorem Lasts.fits {before after : Scene} {record : Meta} (lasts : Lasts before after)
    (fits : before.Fits record) : after.Fits record where
  mode := fits.mode
  whole := fits.whole
  names number named := by
    obtain ⟨delegate, known, same⟩ := fits.names number named
    exact ⟨delegate, lasts.delegate delegate known, same⟩

theorem Lasts.follows {before after : Scene} {record : Meta} (lasts : Lasts before after)
    (follows : before.Follows record) : after.Follows record where
  fits := lasts.fits follows.fits
  decided := lasts.decided follows.decided
  same := follows.same.trans (lasts.verdict follows.decided).symm

end Scene

/-- The stakes of the terminal lane, seen from the directory. -/
def stakes : Stakes HandleDisk Ghost where
  Inv view := (scene view).Inv
  Lasts before after := (scene before).Lasts (scene after)
  Stake := Stake
  Has pid stake view := stake.Has pid (scene view)
  Keeps stake before after := stake.Keeps (scene before) (scene after)
  lasts_refl view := .refl _
  lasts_trans one two := one.trans two
  keeps_refl stake view := by cases stake <;> first | rfl | trivial
  keeps_trans {stake _ _ _} one two := by
    cases stake with
    | lock => exact Eq.trans two one
    | right => exact Eq.trans two one
    | office => exact Eq.trans two one
    | apart => trivial

def concern : Concern layout outside where
  files file := file = .metaJson ∨ file = .rc ∨ file = .acceptedCancel ∨ file = .registration
  locks name := name = .completion
  asks op := op = .spawnHelper .complete
  Seen := Nat
  seen := World.completions
  unseen other acted := Outside.act_completions acted other

omit setting in
theorem scene_same {before after : HandleDisk} {ghost : Ghost} (same : concern.Same before after) :
    scene (after, ghost) = scene (before, ghost) := by
  have record := same.files File.metaJson (.inl rfl)
  have rcFile := same.files File.rc (.inr (.inl rfl))
  have marker := same.files File.acceptedCancel (.inr (.inr (.inl rfl)))
  have registered := same.files File.registration (.inr (.inr (.inr rfl)))
  have seen : after.world.completions = before.world.completions := same.seen
  simp only [scene, record, rcFile, marker, registered, same.held Lock.completion rfl, same.next,
    same.ended, same.gates, seen]

def watch : Watch layout outside Ghost where
  toStakes := stakes
  concern := concern
  blind same inv := by
    change (scene _).Inv
    rw [scene_same same]
    exact inv
  quiet same := by
    refine ⟨?_, fun _ _ stake has => ?_⟩
    · change (scene _).Lasts (scene _)
      rw [scene_same same]
      exact .refl _
    · change stake.Has _ (scene _) ∧ stake.Keeps (scene _) (scene _)
      rw [scene_same same]
      exact ⟨has, stakes.keeps_refl stake (_, _)⟩

end TerminalLane

end AgentBash
