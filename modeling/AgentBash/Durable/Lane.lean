import AgentBash.Durable.Directory
import AgentBash.Durable.Spec
import Mathlib.Order.Basic
import Mathlib.Order.Nat

/-!
# Lanes: disciplines over a directory whose locks are shared by forks

A lock held through a fork is held by a stack of processes, the newest first. A process
may leave such a stack only at one of its ends, and only the newest holder may fork. Under
that regime a holder knows that it stays a holder and that the process right above it does
not change until it is gone; in particular the newest holder stays the newest. A `Lane`
adds what one family of programs keeps about the files and the world.
-/

namespace AgentBash.Durable

set_option autoImplicit false

/-- The holder right above `pid`: the child it forked while holding the lock. -/
def successor (pid : Nat) : List Nat → Option Nat
  | newer :: older :: rest => if older = pid then some newer else successor pid (older :: rest)
  | _ => none

theorem successor_cons (pid newer older : Nat) (rest : List Nat) :
    successor pid (newer :: older :: rest) =
      if older = pid then some newer else successor pid (older :: rest) :=
  rfl

/-- A process may leave a lock's stack from either end. -/
def AtEdge (pid : Nat) (stack : List Nat) : Prop :=
  pid ∉ stack ∨ stack.head? = some pid ∨ stack.getLast? = some pid

instance (pid : Nat) (stack : List Nat) : Decidable (AtEdge pid stack) :=
  inferInstanceAs (Decidable (_ ∨ _))

theorem AtEdge.of_length {pid : Nat} {stack : List Nat} (short : stack.length ≤ 2) :
    AtEdge pid stack := by
  rcases stack with _ | ⟨newer, _ | ⟨older, _ | _⟩⟩
  · exact .inl List.not_mem_nil
  · by_cases same : newer = pid
    · exact .inr (.inl (congrArg some same))
    · exact .inl fun inside => same (List.mem_singleton.mp inside).symm
  · by_cases first : newer = pid
    · exact .inr (.inl (congrArg some first))
    · by_cases last : older = pid
      · exact .inr (.inr (congrArg some last))
      · refine .inl fun inside => ?_
        rcases List.mem_cons.mp inside with same | below
        · exact first same.symm
        · exact last (List.mem_singleton.mp below).symm
  · simp at short

/-- What one step of `pid` may do to the stack of one lock. -/
inductive StackStep (pid : Nat) : List Nat → List Nat → Prop
  | same (stack) : StackStep pid stack stack
  | acquire : StackStep pid [] [pid]
  | fork (child) (below) (fresh : child ∉ pid :: below) :
      StackStep pid (pid :: below) (child :: pid :: below)
  | newest (below) : StackStep pid (pid :: below) below
  | oldest (above) : StackStep pid (above ++ [pid]) above

/-- What a holder relies on while another process takes steps. -/
def StackRely (pid : Nat) (before after : List Nat) : Prop :=
  pid ∈ before → pid ∈ after ∧
    (successor pid after = none ∨ successor pid after = successor pid before) ∧
    (before.getLast? = some pid → after.getLast? = some pid)

theorem StackRely.refl (pid : Nat) (stack : List Nat) : StackRely pid stack stack :=
  fun holds => ⟨holds, .inr rfl, fun last => last⟩

theorem StackRely.trans {pid : Nat} {first second third : List Nat}
    (one : StackRely pid first second) (two : StackRely pid second third) :
    StackRely pid first third := by
  intro holds
  obtain ⟨stays, above, bottom⟩ := one holds
  obtain ⟨remains, last, under⟩ := two stays
  refine ⟨remains, ?_, fun oldest => under (bottom oldest)⟩
  rcases last with none | same
  · exact .inl none
  · rw [same]
    exact above

theorem successor_absent {pid : Nat} {stack : List Nat} (absent : pid ∉ stack) :
    successor pid stack = none := by
  induction stack with
  | nil => rfl
  | cons newer rest ih =>
      cases rest with
      | nil => rfl
      | cons next rest =>
          rw [List.mem_cons, not_or] at absent
          have different : next ≠ pid := fun same => absent.2 (same ▸ List.mem_cons_self)
          rw [successor_cons, if_neg different]
          exact ih absent.2

theorem successor_head {pid : Nat} {below : List Nat} (absent : pid ∉ below) :
    successor pid (pid :: below) = none := by
  cases below with
  | nil => rfl
  | cons next rest =>
      have different : next ≠ pid := fun same => absent (same ▸ List.mem_cons_self)
      rw [successor_cons, if_neg different]
      exact successor_absent absent

theorem successor_append {pid last : Nat} {above : List Nat} (different : last ≠ pid) :
    successor pid (above ++ [last]) = successor pid above := by
  induction above with
  | nil => rfl
  | cons newer rest ih =>
      cases rest with
      | nil =>
          rw [List.singleton_append, successor_cons, if_neg different]
          rfl
      | cons older rest =>
          simp only [List.cons_append, successor_cons] at ih ⊢
          rw [ih]

/-- What one process may do to a stack is within what every other holder relies on. -/
theorem StackStep.relied {pid other : Nat} {before after : List Nat}
    (step : StackStep pid before after) (distinct : before.Nodup) (different : other ≠ pid) :
    StackRely other before after := by
  intro holds
  cases step with
  | same => exact StackRely.refl other before holds
  | acquire => cases holds
  | fork child below fresh =>
      refine ⟨List.mem_cons_of_mem _ holds, .inr ?_, fun last => ?_⟩
      · rw [successor_cons, if_neg different.symm]
      · rw [List.getLast?_cons_cons]
        exact last
  | newest =>
      have inside : other ∈ after := (List.mem_cons.mp holds).resolve_left different
      cases after with
      | nil => cases inside
      | cons next rest =>
          refine ⟨inside, ?_, fun last => ?_⟩
          · by_cases head : next = other
            · subst head
              exact .inl (successor_head (List.nodup_cons.mp (List.nodup_cons.mp distinct).2).1)
            · rw [successor_cons, if_neg head]
              exact .inr rfl
          · rw [List.getLast?_cons_cons] at last
            exact last
  | oldest =>
      have inside : other ∈ after := by
        rcases List.mem_append.mp holds with above | last
        · exact above
        · exact absurd (List.mem_singleton.mp last) different
      refine ⟨inside, .inr (successor_append different.symm).symm, fun last => ?_⟩
      rw [List.getLast?_concat, Option.some.injEq] at last
      exact absurd last.symm different

theorem head_of_successor {pid : Nat} {stack : List Nat} (holds : pid ∈ stack)
    (none : successor pid stack = none) : stack.head? = some pid := by
  induction stack with
  | nil => cases holds
  | cons newer rest ih =>
      cases rest with
      | nil => rw [List.mem_singleton.mp holds, List.head?_cons]
      | cons older rest =>
          rw [successor_cons] at none
          split at none
          · cases none
          · next different =>
            rcases List.mem_cons.mp holds with same | below
            · rw [same, List.head?_cons]
            · have head := ih below none
              rw [List.head?_cons, Option.some.injEq] at head
              exact absurd head different

theorem StackStep.erase {pid : Nat} {stack : List Nat} (distinct : stack.Nodup)
    (edge : AtEdge pid stack) : StackStep pid stack (stack.erase pid) := by
  rcases edge with absent | newest | oldest
  · rw [List.erase_of_not_mem absent]
    exact .same stack
  · obtain ⟨below, rfl⟩ := List.head?_eq_some_iff.mp newest
    rw [List.erase_cons_head]
    exact .newest below
  · obtain ⟨above, rfl⟩ := List.getLast?_eq_some_iff.mp oldest
    have absent : pid ∉ above := fun inside =>
      (List.nodup_append.mp distinct).2.2 pid inside pid (by simp) rfl
    rw [List.erase_append_right _ absent, List.erase_cons_head, List.append_nil]
    exact .oldest above

namespace Disk

variable {L : Layout} {ω : Type}

/-- Locks are held by live processes, each at most once. -/
structure Sound (disk : Disk L ω) : Prop where
  distinct : ∀ name, (disk.held name).Nodup
  alive : ∀ name, ∀ pid ∈ disk.held name, disk.live pid

/-- Process bookkeeping never goes back. -/
structure Grows (before after : Disk L ω) : Prop where
  next : before.next ≤ after.next
  ended : ∀ {pid status}, pid < before.next → before.ended pid = some status →
    after.ended pid = some status
  parent : ∀ {pid}, pid < before.next → after.parent pid = before.parent pid

/-- A step of `pid`: bookkeeping grows, `pid` moves in each stack as it may, and no other
known process becomes a holder. -/
structure Steps (pid : Nat) (before after : Disk L ω) : Prop where
  grows : Grows before after
  holders : ∀ name, StackStep pid (before.held name) (after.held name)
  joins : ∀ {other name}, other < before.next → other ≠ pid → other ∈ after.held name →
    other ∈ before.held name

structure Later (pid : Nat) (before after : Disk L ω) : Prop where
  grows : Grows before after
  holders : ∀ name, StackRely pid (before.held name) (after.held name)
  joins : ∀ {name}, pid < before.next → pid ∈ after.held name → pid ∈ before.held name

theorem Grows.refl (disk : Disk L ω) : Grows disk disk :=
  ⟨le_refl _, fun _ ended => ended, fun _ => rfl⟩

theorem Grows.trans {first second third : Disk L ω} (one : Grows first second)
    (two : Grows second third) : Grows first third :=
  ⟨one.next.trans two.next,
    fun known ended => two.ended (known.trans_le one.next) (one.ended known ended),
    fun known => (two.parent (known.trans_le one.next)).trans (one.parent known)⟩

theorem Grows.of_frame {before after : Disk L ω} (next : after.next = before.next)
    (ended : after.ended = before.ended) (parent : after.parent = before.parent) :
    Grows before after :=
  ⟨next.ge, fun _ status => (congrFun ended _).trans status, fun _ => congrFun parent _⟩

theorem Later.refl (pid : Nat) (disk : Disk L ω) : Later pid disk disk :=
  ⟨.refl disk, fun _ => .refl _ _, fun _ holds => holds⟩

theorem Later.of_held {pid : Nat} {before after : Disk L ω} (grows : Grows before after)
    (held : after.held = before.held) : Later pid before after :=
  ⟨grows, fun name => by rw [held]; exact .refl _ _, fun _ holds => by rwa [held] at holds⟩

theorem Later.trans {pid : Nat} {first second third : Disk L ω} (one : Later pid first second)
    (two : Later pid second third) : Later pid first third :=
  ⟨one.grows.trans two.grows, fun name => (one.holders name).trans (two.holders name),
    fun known holds => one.joins known (two.joins (known.trans_le one.grows.next) holds)⟩

theorem Steps.refl (pid : Nat) (disk : Disk L ω) : Steps pid disk disk :=
  ⟨.refl disk, fun _ => .same _, fun _ _ holds => holds⟩

theorem Steps.later {pid other : Nat} {before after : Disk L ω} (steps : Steps pid before after)
    (sound : before.Sound) (different : other ≠ pid) : Later other before after :=
  ⟨steps.grows, fun name => (steps.holders name).relied (sound.distinct name) different,
    fun known holds => steps.joins known different holds⟩

theorem Steps.of_held {pid : Nat} {before after : Disk L ω} (grows : Grows before after)
    (held : after.held = before.held) : Steps pid before after :=
  ⟨grows, fun name => by rw [held]; exact .same _, fun _ _ holds => held ▸ holds⟩

theorem Steps.shrink {pid : Nat} {before after : Disk L ω} (grows : Grows before after)
    (held : ∀ name, after.held name = before.held name ∨
      after.held name = (before.held name).erase pid ∧ AtEdge pid (before.held name))
    (sound : before.Sound) : Steps pid before after := by
  refine ⟨grows, fun name => ?_, fun {other name} _ _ holds => ?_⟩
  · rcases held name with same | ⟨erased, edge⟩
    · rw [same]
      exact .same _
    · rw [erased]
      exact .erase (sound.distinct name) edge
  · rcases held name with same | ⟨erased, _⟩
    · exact same ▸ holds
    · rw [erased] at holds
      exact List.mem_of_mem_erase holds

theorem Sound.of_held {before after : Disk L ω} (sound : before.Sound)
    (next : after.next = before.next) (ended : after.ended = before.ended)
    (held : after.held = before.held) : after.Sound := by
  refine ⟨fun name => held ▸ sound.distinct name, fun name pid holds => ?_⟩
  rw [held] at holds
  exact ⟨next ▸ (sound.alive name pid holds).1, ended ▸ (sound.alive name pid holds).2⟩

theorem Sound.acquire {disk : Disk L ω} (sound : disk.Sound) {pid : Nat} (live : disk.live pid)
    (name : L.Lock) : (disk.acquire name pid).Sound := by
  constructor
  · intro other
    by_cases same : other = name
    · subst same
      simp
    · rw [acquire_other _ _ same]
      exact sound.distinct other
  · intro other holder holds
    by_cases same : other = name
    · subst same
      rw [acquire_same, List.mem_singleton] at holds
      exact holds ▸ live
    · rw [acquire_other _ _ same] at holds
      exact sound.alive other holder holds

theorem Steps.acquire {disk : Disk L ω} {pid : Nat} {name : L.Lock} (free : disk.held name = []) :
    Steps pid disk (disk.acquire name pid) := by
  refine ⟨.of_frame rfl rfl rfl, fun other => ?_, fun {holder other} _ different holds => ?_⟩
  · by_cases same : other = name
    · subst same
      rw [acquire_same, free]
      exact .acquire
    · rw [acquire_other _ _ same]
      exact .same _
  · by_cases same : other = name
    · subst same
      rw [acquire_same, List.mem_singleton] at holds
      exact absurd holds different
    · rw [acquire_other _ _ same] at holds
      exact holds

/-- Leaving some locks: the shared part of unlocking, closing inherited locks and ending. -/
theorem Sound.shrink {before after : Disk L ω} (sound : before.Sound)
    (held : ∀ name, (after.held name).Sublist (before.held name))
    (live : ∀ name, ∀ pid ∈ after.held name, before.live pid → after.live pid) : after.Sound :=
  ⟨fun name => (sound.distinct name).sublist (held name),
    fun name pid holds =>
      live name pid holds (sound.alive name pid ((held name).subset holds))⟩

theorem Sound.release {disk : Disk L ω} (sound : disk.Sound) (name : L.Lock) (pid : Nat) :
    (disk.release name pid).Sound := by
  refine sound.shrink (fun other => ?_) fun _ _ _ live => live
  by_cases same : other = name
  · subst same
    rw [release_same]
    exact List.erase_sublist
  · simp only [release_other _ _ same, List.Sublist.refl]

theorem Steps.release {disk : Disk L ω} (sound : disk.Sound) {name : L.Lock} {pid : Nat}
    (edge : AtEdge pid (disk.held name)) : Steps pid disk (disk.release name pid) := by
  refine .shrink (.of_frame rfl rfl rfl) (fun other => ?_) sound
  by_cases same : other = name
  · subst same
    exact .inr ⟨by rw [release_same], edge⟩
  · exact .inl (by rw [release_other _ _ same])

theorem Sound.keepOnly {disk : Disk L ω} (sound : disk.Sound) (name : L.Lock) (pid : Nat) :
    (disk.keepOnly name pid).Sound := by
  refine sound.shrink (fun other => ?_) fun _ _ _ live => live
  simp only [Disk.keepOnly]
  split
  · exact List.Sublist.refl _
  · exact List.erase_sublist

theorem Steps.keepOnly {disk : Disk L ω} (sound : disk.Sound) {name : L.Lock} {pid : Nat}
    (edge : ∀ other, other ≠ name → AtEdge pid (disk.held other)) :
    Steps pid disk (disk.keepOnly name pid) := by
  refine .shrink (.of_frame rfl rfl rfl) (fun other => ?_) sound
  simp only [Disk.keepOnly]
  split
  · exact .inl rfl
  · next different => exact .inr ⟨rfl, edge other different⟩

theorem Sound.finish {disk : Disk L ω} (sound : disk.Sound) (pid : Nat) (status : Option Nat) :
    (disk.finish pid status).Sound := by
  refine sound.shrink (fun other => List.erase_sublist) fun name other holds live => ?_
  have different : other ≠ pid := fun same =>
    (sound.distinct name).not_mem_erase (same ▸ holds)
  exact ⟨live.1, by simp only [Disk.finish, Function.update_of_ne different]; exact live.2⟩

theorem Steps.finish {disk : Disk L ω} (sound : disk.Sound) {pid : Nat} (live : disk.live pid)
    {status : Option Nat} (edge : ∀ name, AtEdge pid (disk.held name)) :
    Steps pid disk (disk.finish pid status) := by
  refine .shrink ⟨le_refl _, fun {other status'} _ ended => ?_, fun _ => rfl⟩
    (fun name => .inr ⟨rfl, edge name⟩) sound
  have different : other ≠ pid := fun same => by
    rw [same, live.2] at ended
    cases ended
  simp only [Disk.finish, Function.update_of_ne different]
  exact ended

theorem Sound.birth {disk : Disk L ω} (sound : disk.Sound) (parent : Option Nat) :
    (disk.birth parent).Sound := by
  have fresh : ∀ name, disk.next ∉ disk.held name := fun name holds =>
    absurd (sound.alive name _ holds).1 (lt_irrefl _)
  have lives : ∀ pid, disk.live pid → (disk.birth parent).live pid := fun pid live =>
    ⟨Nat.lt_succ_of_lt live.1, by
      simp only [Disk.birth, Function.update_of_ne (Nat.ne_of_lt live.1)]; exact live.2⟩
  constructor
  · intro name
    simp only [Disk.birth]
    split
    · exact List.nodup_cons.mpr ⟨fresh name, sound.distinct name⟩
    · exact sound.distinct name
  · intro name pid holds
    simp only [Disk.birth] at holds
    split at holds
    · rcases List.mem_cons.mp holds with same | older
      · subst same
        exact ⟨Nat.lt_succ_self _, by simp [Disk.birth]⟩
      · exact lives pid (sound.alive name pid older)
    · exact lives pid (sound.alive name pid holds)

theorem Grows.birth (disk : Disk L ω) (parent : Option Nat) : Grows disk (disk.birth parent) := by
  refine ⟨Nat.le_succ _, fun {pid status} known ended => ?_, fun {pid} known => ?_⟩
  · simp only [Disk.birth, Function.update_of_ne (Nat.ne_of_lt known)]
    exact ended
  · simp only [Disk.birth, Function.update_of_ne (Nat.ne_of_lt known)]

theorem held_birth_none (disk : Disk L ω) : (disk.birth none).held = disk.held := by
  funext name
  simp [Disk.birth]

/-- A process forks only while it is the newest holder of every lock it holds. -/
theorem Steps.fork {disk : Disk L ω} (sound : disk.Sound) {pid : Nat}
    (newest : ∀ name, pid ∈ disk.held name → (disk.held name).head? = some pid) :
    Steps pid disk (disk.birth (some pid)) := by
  refine ⟨.birth disk _, fun name => ?_, fun {other name} known different holds => ?_⟩
  · simp only [Disk.birth, Option.any_some, List.contains_iff_mem]
    by_cases inside : pid ∈ disk.held name
    · obtain ⟨below, shape⟩ := List.head?_eq_some_iff.mp (newest name inside)
      have fresh : disk.next ∉ pid :: below := fun known =>
        absurd (sound.alive name _ (shape ▸ known)).1 (lt_irrefl _)
      rw [if_pos inside, shape]
      exact .fork _ below fresh
    · rw [if_neg inside]
      exact .same _
  · simp only [Disk.birth] at holds
    split at holds
    · exact (List.mem_cons.mp holds).resolve_left (Nat.ne_of_lt known)
    · exact holds

section Holders

def Newest (pid : Nat) (name : L.Lock) (disk : Disk L ω) : Prop :=
  (disk.held name).head? = some pid

def Oldest (pid : Nat) (name : L.Lock) (disk : Disk L ω) : Prop :=
  (disk.held name).getLast? = some pid

/-- `pid` holds the lock, and nobody but `child` can stand right above it. -/
def Under (pid child : Nat) (name : L.Lock) (disk : Disk L ω) : Prop :=
  pid ∈ disk.held name ∧
    (successor pid (disk.held name) = none ∨ successor pid (disk.held name) = some child)

variable {pid child other : Nat} {name : L.Lock} {disk before after : Disk L ω}

theorem Newest.mem (newest : disk.Newest pid name) : pid ∈ disk.held name :=
  List.mem_of_mem_head? newest

theorem Oldest.mem (oldest : disk.Oldest pid name) : pid ∈ disk.held name :=
  List.mem_of_mem_getLast? oldest

theorem Newest.edge (newest : disk.Newest pid name) : AtEdge pid (disk.held name) :=
  .inr (.inl newest)

theorem Oldest.edge (oldest : disk.Oldest pid name) : AtEdge pid (disk.held name) :=
  .inr (.inr oldest)

/-- The newest holder is alone if nobody holds the lock below it either. -/
theorem Newest.alone (newest : disk.Newest pid name) (sound : disk.Sound)
    (oldest : disk.Oldest pid name) : disk.held name = [pid] := by
  obtain ⟨below, shape⟩ := List.head?_eq_some_iff.mp newest
  have distinct := (List.nodup_cons.mp (shape ▸ sound.distinct name)).1
  rw [Oldest, shape, List.getLast?_eq_some_iff] at oldest
  obtain ⟨above, split⟩ := oldest
  cases above with
  | nil =>
      rw [List.nil_append, List.cons.injEq] at split
      rw [shape, split.2]
  | cons holder above =>
      rw [List.cons_append, List.cons.injEq] at split
      exact absurd (split.2 ▸ List.mem_append_right above List.mem_cons_self) distinct

theorem Newest.unique (one : disk.Newest pid name) (two : disk.Newest other name) :
    other = pid := by
  rw [Newest] at one two
  rw [one] at two
  exact (Option.some.inj two).symm

theorem Newest.later (newest : before.Newest pid name) (sound : before.Sound)
    (later : Later pid before after) : after.Newest pid name := by
  obtain ⟨stays, above, -⟩ := later.holders name newest.mem
  obtain ⟨below, shape⟩ := List.head?_eq_some_iff.mp newest
  have alone : successor pid (before.held name) = none := by
    rw [shape]
    exact successor_head (List.nodup_cons.mp (shape ▸ sound.distinct name)).1
  exact head_of_successor stays (above.elim id fun same => same.trans alone)

theorem Oldest.later (oldest : before.Oldest pid name) (later : Later pid before after) :
    after.Oldest pid name :=
  (later.holders name oldest.mem).2.2 oldest

theorem Under.later (under : before.Under pid child name) (later : Later pid before after) :
    after.Under pid child name := by
  obtain ⟨stays, above, -⟩ := later.holders name under.1
  refine ⟨stays, ?_⟩
  rcases above with none | same
  · exact .inl none
  · rw [same]
    exact under.2

/-- Once the process above a holder is gone, the holder is the newest again. -/
theorem Under.newest_of_ended (under : disk.Under pid child name) (sound : disk.Sound)
    {status : Option Nat} (ended : disk.ended child = some status) : disk.Newest pid name := by
  refine head_of_successor under.1 (under.2.resolve_right fun above => ?_)
  have inside : ∀ stack, successor pid stack = some child → child ∈ stack := by
    intro stack
    induction stack with
    | nil => exact fun none => nomatch none
    | cons newer rest ih =>
        intro found
        cases rest with
        | nil => cases found
        | cons older rest =>
            rw [successor_cons] at found
            split at found
            · exact (Option.some.inj found) ▸ List.mem_cons_self
            · exact List.mem_cons_of_mem _ (ih found)
  have live := (sound.alive name child (inside _ above)).2
  rw [ended] at live
  cases live

theorem held_birth_of_newest (newest : disk.Newest pid name) :
    (disk.birth (some pid)).held name = disk.next :: disk.held name := by
  simp only [Disk.birth, Option.any_some, List.contains_iff_mem, if_pos newest.mem]

theorem Newest.newborn (newest : disk.Newest pid name) :
    (disk.birth (some pid)).Newest disk.next name := by
  rw [Newest, held_birth_of_newest newest, List.head?_cons]

theorem Newest.forked (newest : disk.Newest pid name) :
    (disk.birth (some pid)).Under pid disk.next name := by
  obtain ⟨below, shape⟩ := List.head?_eq_some_iff.mp newest
  rw [Under, held_birth_of_newest newest, shape]
  exact ⟨List.mem_cons_of_mem _ List.mem_cons_self, .inr (by rw [successor_cons, if_pos rfl])⟩

theorem Oldest.birth (oldest : disk.Oldest pid name) (parent : Option Nat) :
    (disk.birth parent).Oldest pid name := by
  simp only [Oldest, Disk.birth]
  split
  · obtain ⟨above, shape⟩ := List.getLast?_eq_some_iff.mp oldest
    rw [shape, ← List.cons_append, List.getLast?_concat]
  · exact oldest

theorem newest_acquire : (disk.acquire name pid).Newest pid name := by
  simp [Newest]

theorem oldest_acquire : (disk.acquire name pid).Oldest pid name := by
  simp [Oldest]

theorem not_mem_release (sound : disk.Sound) : pid ∉ (disk.release name pid).held name := by
  rw [release_same]
  exact (sound.distinct name).not_mem_erase

end Holders

end Disk

end AgentBash.Durable
