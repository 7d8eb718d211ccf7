import AgentBash.Durable.Rules

/-!
# A lock that owns a resource

Part of the files, of the world and of the history belongs to one lock: only its newest
holder changes it. Another part is a log: anybody may add to it, within what the resource
allows. `Owned` says what is valid and which changes are allowed; its lane is the discipline
of every program that keeps to this. `Holds pid F fact` is what a holder knows: a frame about
its own locks and about facts that last, and a fact about the resource, which nobody else can
change meanwhile. Every other lock is held by one process at a time.
-/

namespace AgentBash.Durable

set_option autoImplicit false

variable {L : Layout} {E : Surroundings L} {γ : Type}

/-- What lasts: how resource and log grow, what is added to the log under a resource, and what
nobody else changes of a resource while a process holds the lock below others. -/
structure Growth {Resource : Type} (Log : Type) (Moves : Nat → Resource → Resource → Prop)
    (Drops : Resource → Resource → Prop) where
  Grows : Resource → Resource → Prop
  Extends : Log → Log → Prop
  Adds : Resource → Log → Log → Prop
  Backed : Resource → Log → Prop
  grows_refl : ∀ value, Grows value value
  grows_trans : ∀ {first second third}, Grows first second → Grows second third →
    Grows first third
  extends_refl : ∀ log, Extends log log
  extends_trans : ∀ {first second third}, Extends first second → Extends second third →
    Extends first third
  moves : ∀ {pid before after}, Moves pid before after → Grows before after
  drops : ∀ {before after}, Drops before after → Grows before after
  adds : ∀ {value before after}, Adds value before after → Extends before after
  backed : ∀ {before after log}, Grows before after → Backed before log → Backed after log
  added : ∀ {value before after}, Backed value before → Adds value before after →
    Backed value after
  Keeps : Nat → Resource → Resource → Prop := fun _ _ _ => True
  keeps_refl : ∀ pid value, Keeps pid value value := by intros; trivial
  keeps_trans : ∀ {pid first second third}, Keeps pid first second → Keeps pid second third →
    Keeps pid first third := by intros; trivial
  moves_keep : ∀ {pid other before after}, other ≠ pid → Moves other before after →
    Keeps pid before after := by intros; trivial

/-- Nothing is kept beside the resource, and nothing of it lasts. -/
def Growth.none {Resource : Type} (Moves : Nat → Resource → Resource → Prop)
    (Drops : Resource → Resource → Prop) : Growth Unit Moves Drops where
  Grows _ _ := True
  Extends _ _ := True
  Adds _ _ _ := False
  Backed _ _ := True
  grows_refl _ := trivial
  grows_trans _ _ := trivial
  extends_refl _ := trivial
  extends_trans _ _ := trivial
  moves _ := trivial
  drops _ := trivial
  adds _ := trivial
  backed _ _ := trivial
  added _ _ := trivial

/-- `Valid` may ask more of the resource while nobody holds the lock; the last holder to
leave then moves the history as `Drops` says. `Depth` bounds how many forks share the lock. -/
structure Owned (L : Layout) (E : Surroundings L) (γ : Type) where
  name : L.Lock
  Resource : Type
  resource : ((file : L.File) → Option (L.Content file)) → E.World → γ → Resource
  Log : Type
  log : ((file : L.File) → Option (L.Content file)) → E.World → Log
  Valid : Bool → Resource → Prop
  Moves : Nat → Resource → Resource → Prop
  Drops : Resource → Resource → Prop
  growth : Growth Log Moves Drops
  Depth : Nat → Prop
  shallow : ∀ {few many}, few ≤ many → Depth many → Depth few
  one : Depth 1
  taken : ∀ {value}, Valid true value → Valid false value
  left : ∀ {files world ghost}, Valid false (resource files world ghost) →
    ∃ later, Valid true (resource files world later) ∧
      (resource files world later = resource files world ghost ∨
        Drops (resource files world ghost) (resource files world later))

/-- The depths of a lock that one fork holds, and of one that two forks may share. -/
theorem shallow_alone {few many : Nat} (fewer : few ≤ many) (alone : many ≤ 1) : few ≤ 1 :=
  fewer.trans alone

theorem alone_one : 1 ≤ 1 := Nat.le_refl 1

theorem shallow_shared {few many : Nat} (fewer : few ≤ many) (shared : many ≤ 2) : few ≤ 2 :=
  fewer.trans shared

theorem shared_one : 1 ≤ 2 := Nat.le_succ 1

namespace Owned

abbrev View (L : Layout) (E : Surroundings L) (γ : Type) := Disk L E.World × γ

variable (owned : Owned L E γ)

def value (view : View L E γ) : owned.Resource := owned.resource view.1.files view.1.world view.2

def notes (view : View L E γ) : owned.Log := owned.log view.1.files view.1.world

structure Inv (view : View L E γ) : Prop where
  others : ∀ name, name ≠ owned.name → (view.1.held name).length ≤ 1
  depth : owned.Depth (view.1.held owned.name).length
  valid : owned.Valid (view.1.held owned.name).isEmpty (owned.value view)
  backed : owned.growth.Backed (owned.value view) (owned.notes view)

structure Same (before after : View L E γ) : Prop where
  value : owned.value after = owned.value before
  notes : owned.notes after = owned.notes before

/-- The last holder leaves, and what it leaves is history. -/
structure Left (before after : View L E γ) : Prop where
  free : after.1.held owned.name = []
  drops : owned.Drops (owned.value before) (owned.value after)
  notes : owned.notes after = owned.notes before

structure Moved (pid : Nat) (before after : View L E γ) : Prop where
  newest : before.1.Newest pid owned.name
  moves : owned.Moves pid (owned.value before) (owned.value after)
  notes : owned.notes after = owned.notes before

/-- An addition to the log, made with or without the lock. -/
structure Noted (before after : View L E γ) : Prop where
  value : owned.value after = owned.value before
  adds : owned.growth.Adds (owned.value before) (owned.notes before) (owned.notes after)

structure Grown (before after : View L E γ) : Prop where
  value : owned.growth.Grows (owned.value before) (owned.value after)
  notes : owned.growth.Extends (owned.notes before) (owned.notes after)

variable {owned} in
theorem Grown.refl (view : View L E γ) : owned.Grown view view :=
  ⟨owned.growth.grows_refl _, owned.growth.extends_refl _⟩

variable {owned} in
theorem Grown.trans {first second third : View L E γ} (one : owned.Grown first second)
    (two : owned.Grown second third) : owned.Grown first third :=
  ⟨owned.growth.grows_trans one.value two.value, owned.growth.extends_trans one.notes two.notes⟩

variable {owned} in
theorem Same.grown {before after : View L E γ} (same : owned.Same before after) :
    owned.Grown before after := by
  constructor
  · rw [same.value]
    exact owned.growth.grows_refl _
  · rw [same.notes]
    exact owned.growth.extends_refl _

variable {owned} in
theorem Moved.grown {pid : Nat} {before after : View L E γ}
    (moved : owned.Moved pid before after) : owned.Grown before after := by
  refine ⟨owned.growth.moves moved.moves, ?_⟩
  rw [moved.notes]
  exact owned.growth.extends_refl _

variable {owned} in
theorem Left.grown {before after : View L E γ} (left : owned.Left before after) :
    owned.Grown before after := by
  refine ⟨owned.growth.drops left.drops, ?_⟩
  rw [left.notes]
  exact owned.growth.extends_refl _

variable {owned} in
theorem Noted.grown {before after : View L E γ} (noted : owned.Noted before after) :
    owned.Grown before after := by
  refine ⟨?_, owned.growth.adds noted.adds⟩
  rw [noted.value]
  exact owned.growth.grows_refl _

/-- What a process promises: it changes nothing, leaves, moves the resource, or adds. -/
inductive Promise (pid : Nat) (before after : View L E γ) : Prop
  | same (same : owned.Same before after)
  | left (left : owned.Left before after)
  | moved (moved : owned.Moved pid before after)
  | noted (noted : owned.Noted before after)

variable {owned} in
theorem Promise.grown {pid : Nat} {before after : View L E γ}
    (promise : owned.Promise pid before after) : owned.Grown before after := by
  cases promise with
  | same same => exact same.grown
  | left left => exact left.grown
  | moved moved => exact moved.grown
  | noted noted => exact noted.grown

/-- What a process relies on: all of it only grows, what holders keep stays for a holder, and the
whole resource for the newest one. -/
structure Kept (pid : Nat) (before after : View L E γ) : Prop where
  grown : owned.Grown before after
  holder : before.1.Newest pid owned.name →
    after.1.Newest pid owned.name ∧ owned.value after = owned.value before
  shares : pid ∈ before.1.held owned.name → pid ∈ after.1.held owned.name ∧
    owned.growth.Keeps pid (owned.value before) (owned.value after)

/-- What a step of the process itself leaves, where it breaks nothing that holders keep. -/
structure Passed (pid : Nat) (before after : View L E γ) : Prop extends
    owned.Grown before after where
  keeps : owned.growth.Keeps pid (owned.value before) (owned.value after)

variable {owned} in
theorem Same.passed {pid : Nat} {before after : View L E γ} (same : owned.Same before after) :
    owned.Passed pid before after := by
  refine ⟨same.grown, ?_⟩
  rw [same.value]
  exact owned.growth.keeps_refl _ _

variable {owned} in
theorem Noted.passed {pid : Nat} {before after : View L E γ} (noted : owned.Noted before after) :
    owned.Passed pid before after := by
  refine ⟨noted.grown, ?_⟩
  rw [noted.value]
  exact owned.growth.keeps_refl _ _

variable {owned} in
theorem Moved.passed {pid : Nat} {before after : View L E γ}
    (moved : owned.Moved pid before after)
    (keeps : owned.growth.Keeps pid (owned.value before) (owned.value after)) :
    owned.Passed pid before after := ⟨moved.grown, keeps⟩

def lane : Lane L E γ where
  Inv := owned.Inv
  Rely := owned.Kept
  Guarantee := owned.Promise
  Outer := owned.Same
  refl pid view := ⟨.refl view, fun newest => ⟨newest, rfl⟩,
    fun inside => ⟨inside, owned.growth.keeps_refl pid _⟩⟩
  idle _ _ := .same ⟨rfl, rfl⟩
  trans one two := by
    refine ⟨one.grown.trans two.grown, fun newest => ?_, fun inside => ?_⟩
    · obtain ⟨still, same⟩ := one.holder newest
      obtain ⟨last, same'⟩ := two.holder still
      exact ⟨last, same'.trans same⟩
    · obtain ⟨still, kept⟩ := one.shares inside
      obtain ⟨last, kept'⟩ := two.shares still
      exact ⟨last, owned.growth.keeps_trans kept kept'⟩
  honoured {pid other before after} _ _ sound steps promise different := by
    have later := steps.later sound different
    refine ⟨promise.grown, fun newest => ?_, fun inside => ?_⟩
    · have still := newest.later sound later
      refine ⟨still, ?_⟩
      cases promise with
      | same same => exact same.value
      | left left =>
          have inside := still.mem
          rw [left.free] at inside
          cases inside
      | moved moved => exact absurd (newest.unique moved.newest) (Ne.symm different)
      | noted noted => exact noted.value
    · have still := ((later.holders owned.name) inside).1
      refine ⟨still, ?_⟩
      cases promise with
      | same same => exact same.passed.keeps
      | left left =>
          rw [left.free] at still
          cases still
      | moved moved => exact owned.growth.moves_keep (Ne.symm different) moved.moves
      | noted noted => exact noted.passed.keeps
  tolerated _ _ held same := by
    refine ⟨same.grown, fun newest => ⟨?_, same.value⟩, fun inside => ⟨?_, same.passed.keeps⟩⟩
    · simp only [Disk.Newest] at newest ⊢
      rw [held]
      exact newest
    · rw [held]
      exact inside

variable {owned} {Entry : Type} {entry : Entry → Program (requests L E)}
  {policy : System.Policy (system L E entry)} {pid child : Nat} {α : Type}

abbrev discipline (owned : Owned L E γ) (entry : Entry → Program (requests L E)) :
    Discipline (system L E entry) γ :=
  owned.lane.discipline entry

section Assertions

/-- An assertion of one process about its own place among the locks, and about what lasts. -/
structure Frame (owned : Owned L E γ) (entry : Entry → Program (requests L E)) (pid : Nat)
    (F : View L E γ → Prop) : Prop where
  stable : Stable (owned.discipline entry) pid F
  same : ∀ {view : View L E γ} {after : Disk L E.World} {ghost : γ}, after.held = view.1.held →
    after.next = view.1.next → owned.Passed pid view (after, ghost) → F view → F (after, ghost)

/-- A fact about resource and log that lasts, whoever moves. -/
structure Lasting (owned : Owned L E γ) (fact : owned.Resource → owned.Log → Prop) : Prop where
  grows : ∀ {before after log}, owned.growth.Grows before after → fact before log → fact after log
  extends_ : ∀ {value before after}, owned.growth.Extends before after → fact value before →
    fact value after

/-- What is known of resource and log without holding the lock. -/
def Knows (owned : Owned L E γ) (fact : owned.Resource → owned.Log → Prop)
    (view : View L E γ) : Prop :=
  fact (owned.value view) (owned.notes view)

/-- No other lock is held, so a fork passes on at most the owning lock. -/
def Clean (owned : Owned L E γ) (pid : Nat) (view : View L E γ) : Prop :=
  pid < view.1.next ∧ ∀ name, name ≠ owned.name → pid ∉ view.1.held name

/-- Holding the lock below everybody else, and `G` of all that is beside it. -/
def Base (owned : Owned L E γ) (pid : Nat) (G : View L E γ → Prop) (view : View L E γ) : Prop :=
  view.1.Oldest pid owned.name ∧ G view

/-- Not holding the lock, and `G` of all that is beside it. -/
def Apart (owned : Owned L E γ) (pid : Nat) (G : View L E γ → Prop) (view : View L E γ) : Prop :=
  pid ∉ view.1.held owned.name ∧ G view

abbrev Bottom (owned : Owned L E γ) (pid : Nat) : View L E γ → Prop :=
  owned.Base pid (owned.Clean pid)

/-- Holding the lock below at most one known child. -/
def Below (owned : Owned L E γ) (pid child : Nat) (F : View L E γ → Prop)
    (view : View L E γ) : Prop :=
  view.1.Under pid child owned.name ∧ F view

abbrev Free (owned : Owned L E γ) (pid : Nat) : View L E γ → Prop :=
  owned.Apart pid (owned.Clean pid)

/-- Where a process may leave: it does not hold the lock, or nobody holds it below. -/
def Loose (owned : Owned L E γ) (pid : Nat) (view : View L E γ) : Prop :=
  owned.Free pid view ∨ owned.Bottom pid view

variable {F : View L E γ → Prop}

theorem Frame.top : owned.Frame entry pid fun _ => True := ⟨Stable.top, fun _ _ _ _ => trivial⟩

theorem Frame.and {G : View L E γ → Prop} (frame : owned.Frame entry pid F)
    (other : owned.Frame entry pid G) : owned.Frame entry pid fun view => F view ∧ G view where
  stable := Stable.and frame.stable other.stable
  same held next passed holds :=
    ⟨frame.same held next passed holds.1, other.same held next passed holds.2⟩

theorem Lasting.after {fact : owned.Resource → owned.Log → Prop} (lasting : owned.Lasting fact)
    {before after : View L E γ} (grown : owned.Grown before after)
    (known : owned.Knows fact before) : owned.Knows fact after :=
  lasting.extends_ grown.notes (lasting.grows grown.value known)

theorem Lasting.frame {fact : owned.Resource → owned.Log → Prop} (lasting : owned.Lasting fact) :
    owned.Frame entry pid (owned.Knows fact) where
  stable _ known moved _ := lasting.after moved.2.grown known
  same _ _ passed known := lasting.after passed.toGrown known

/-- A frame that does not mention the owning lock: it may be taken and left meanwhile. -/
structure Beside (owned : Owned L E γ) (entry : Entry → Program (requests L E)) (pid : Nat)
    (G : View L E γ → Prop) : Prop where
  stable : Stable (owned.discipline entry) pid G
  born : ∀ {view}, G view → pid < view.1.next
  same : ∀ {view : View L E γ} {after : Disk L E.World} {ghost : γ},
    (∀ name, name ≠ owned.name → after.held name = view.1.held name) →
    after.next = view.1.next → owned.Grown view (after, ghost) → G view → G (after, ghost)

variable {G : View L E γ → Prop}

theorem Beside.frame (beside : owned.Beside entry pid G) : owned.Frame entry pid G where
  stable := beside.stable
  same held next passed holds :=
    beside.same (fun name _ => congrFun held name) next passed.toGrown holds

/-- Nothing but having been born is known beside the lock. -/
def Born (pid : Nat) (view : View L E γ) : Prop := pid < view.1.next

theorem Born.beside : owned.Beside entry pid (Born pid) where
  stable _ holds moved _ := Nat.lt_of_lt_of_le holds moved.1.grows.next
  born holds := holds
  same _ next _ holds := by
    simp only [Born] at holds ⊢
    rw [next]
    exact holds

theorem Clean.beside : owned.Beside entry pid (owned.Clean pid) where
  stable _ holds moved _ :=
    ⟨holds.1.trans_le moved.1.grows.next,
      fun name other inside => holds.2 name other (moved.1.joins holds.1 inside)⟩
  born holds := holds.1
  same held next _ holds := by
    refine ⟨next ▸ holds.1, fun name other => ?_⟩
    rw [held name other]
    exact holds.2 name other

theorem Clean.frame : owned.Frame entry pid (owned.Clean pid) := Clean.beside.frame

/-- What lasts may be kept in mind beside anything. -/
theorem Beside.knows {fact : owned.Resource → owned.Log → Prop}
    (beside : owned.Beside entry pid G) (lasting : owned.Lasting fact) :
    owned.Beside entry pid fun view => G view ∧ owned.Knows fact view where
  stable := Stable.and beside.stable lasting.frame.stable
  born holds := beside.born holds.1
  same held next grown holds := ⟨beside.same held next grown holds.1, lasting.after grown holds.2⟩

theorem Base.frame (beside : owned.Beside entry pid G) :
    owned.Frame entry pid (owned.Base pid G) where
  stable inv holds moved inv' := ⟨holds.1.later moved.1, beside.stable inv holds.2 moved inv'⟩
  same held next passed holds := by
    refine ⟨?_, beside.frame.same held next passed holds.2⟩
    simp only [Base, Disk.Oldest] at holds ⊢
    rw [held]
    exact holds.1

theorem Apart.frame (beside : owned.Beside entry pid G) :
    owned.Frame entry pid (owned.Apart pid G) where
  stable inv holds moved inv' :=
    ⟨fun inside => holds.1 (moved.1.joins (beside.born holds.2) inside),
      beside.stable inv holds.2 moved inv'⟩
  same held next passed holds := by
    refine ⟨?_, beside.frame.same held next passed holds.2⟩
    simp only [Apart] at holds
    rw [held]
    exact holds.1

theorem Bottom.frame : owned.Frame entry pid (owned.Bottom pid) := Base.frame Clean.beside

theorem Free.frame : owned.Frame entry pid (owned.Free pid) := Apart.frame Clean.beside

theorem Below.frame (frame : owned.Frame entry pid F) :
    owned.Frame entry pid (owned.Below pid child F) where
  stable inv holds moved inv' :=
    ⟨holds.1.later moved.1, frame.stable inv holds.2 moved inv'⟩
  same held next passed holds := by
    refine ⟨?_, frame.same held next passed holds.2⟩
    simp only [Below, Disk.Under] at holds ⊢
    rw [held]
    exact holds.1

/-- Holding the lock somewhere, and a fact that holders keep. -/
def Shares (owned : Owned L E γ) (pid : Nat) (fact : owned.Resource → Prop)
    (view : View L E γ) : Prop :=
  pid ∈ view.1.held owned.name ∧ fact (owned.value view)

theorem Shares.frame {fact : owned.Resource → Prop}
    (kept : ∀ {before after}, owned.growth.Keeps pid before after → fact before → fact after) :
    owned.Frame entry pid (owned.Shares pid fact) where
  stable _ holds moved _ := by
    obtain ⟨still, keeps⟩ := moved.2.shares holds.1
    exact ⟨still, kept keeps holds.2⟩
  same held _ passed holds := by
    refine ⟨?_, kept passed.keeps holds.2⟩
    rw [held]
    exact holds.1

theorem Loose.frame : owned.Frame entry pid (owned.Loose pid) where
  stable inv holds moved inv' := holds.imp (Free.frame.stable inv · moved inv')
    (Bottom.frame.stable inv · moved inv')
  same held next passed holds :=
    have free : owned.Frame entry pid (owned.Free pid) := Free.frame
    have bottom : owned.Frame entry pid (owned.Bottom pid) := Bottom.frame
    holds.imp (free.same held next passed) (bottom.same held next passed)

theorem Loose.edge {view : View L E γ} (loose : owned.Loose pid view) :
    AtEdge pid (view.1.held owned.name) :=
  loose.elim (fun free => .inl free.1) fun bottom => bottom.1.edge

/-- The newest holder knows `fact` of the resource. -/
def Holds (owned : Owned L E γ) (pid : Nat) (F : View L E γ → Prop)
    (fact : owned.Resource → Prop) (view : View L E γ) : Prop :=
  view.1.Newest pid owned.name ∧ F view ∧ fact (owned.value view)

/-- All that is left to say once the resource is in order again. -/
abbrev Stays (owned : Owned L E γ) (pid : Nat) (F : View L E γ → Prop) : View L E γ → Prop :=
  owned.Holds pid F fun _ => True

variable {fact fact' : owned.Resource → Prop}

theorem Holds.imp {view : View L E γ} (holds : owned.Holds pid F fact view)
    (implies : ∀ value, fact value → fact' value) : owned.Holds pid F fact' view :=
  ⟨holds.1, holds.2.1, implies _ holds.2.2⟩

theorem Holds.stays {view : View L E γ} (holds : owned.Holds pid F fact view) :
    owned.Stays pid F view :=
  holds.imp fun _ _ => trivial

theorem Holds.edge {view : View L E γ} (holds : owned.Holds pid F fact view) :
    AtEdge pid (view.1.held owned.name) :=
  Disk.Newest.edge holds.1

/-- A held lock asks no more of the resource than what is valid anyway. -/
theorem Holds.valid {view : View L E γ} (holds : owned.Holds pid F fact view)
    (inv : owned.Inv view) : owned.Valid false (owned.value view) := by
  have held : (view.1.held owned.name).isEmpty = false := by
    rw [List.isEmpty_eq_false_iff_exists_mem]
    exact ⟨pid, Disk.Newest.mem holds.1⟩
  have valid := inv.valid
  rw [held] at valid
  exact valid

/-- An assertion that others respect and that quiet steps of the process do not touch. -/
structure Local (owned : Owned L E γ) (entry : Entry → Program (requests L E)) (pid : Nat)
    (P : View L E γ → Prop) : Prop where
  stable : Stable (owned.discipline entry) pid P
  quiet : ∀ {view : View L E γ} {after : Disk L E.World}, after.held = view.1.held →
    after.next = view.1.next → owned.Same view (after, view.2) → P view → P (after, view.2)

theorem Frame.local_ (frame : owned.Frame entry pid F) : owned.Local entry pid F :=
  ⟨frame.stable, fun held next same holds => frame.same held next same.passed holds⟩

theorem Holds.local_ (frame : owned.Frame entry pid F) :
    owned.Local entry pid (owned.Holds pid F fact) where
  stable inv holds moved inv' := by
    obtain ⟨newest, framed, known⟩ := holds
    obtain ⟨still, same⟩ := moved.2.holder newest
    refine ⟨still, frame.stable inv framed moved inv', ?_⟩
    rw [same]
    exact known
  quiet held next same holds := by
    obtain ⟨newest, framed, known⟩ := holds
    refine ⟨?_, frame.same held next same.passed framed, ?_⟩
    · simp only [Disk.Newest] at newest ⊢
      rw [held]
      exact newest
    · rw [same.value]
      exact known

end Assertions

section Steps

variable {P : View L E γ → Prop} {F : View L E γ → Prop} {fact : owned.Resource → Prop}

theorem Same.of_disk {view : View L E γ} {after : Disk L E.World}
    (files : after.files = view.1.files) (world : after.world = view.1.world) :
    owned.Same view (after, view.2) := by
  constructor
  · change owned.resource after.files after.world view.2 = _
    rw [files, world]
    rfl
  · change owned.log after.files after.world = _
    rw [files, world]
    rfl

theorem Same.inv {before after : View L E γ} (same : owned.Same before after)
    (inv : owned.Inv before)
    (others : ∀ name, name ≠ owned.name → (after.1.held name).length ≤ 1)
    (depth : owned.Depth (after.1.held owned.name).length)
    (valid : owned.Valid (after.1.held owned.name).isEmpty (owned.value before)) :
    owned.Inv after where
  others := others
  depth := depth
  valid := same.value ▸ valid
  backed := by
    rw [same.value, same.notes]
    exact inv.backed

theorem busy_of_newest {view : View L E γ} (newest : view.1.Newest pid owned.name) :
    (view.1.held owned.name).isEmpty = false := by
  rw [List.isEmpty_eq_false_iff_exists_mem]
  exact ⟨pid, newest.mem⟩

theorem keeps_quiet {view : View L E γ} {after : Disk L E.World} {M : View L E γ → Prop}
    (inv : owned.Inv view) (held : after.held = view.1.held)
    (same : owned.Same view (after, view.2)) (result : M (after, view.2)) :
    owned.lane.Keeps pid view after M := by
  refine ⟨view.2, same.inv inv ?_ ?_ ?_, .same same, result⟩
  · simp only [held]
    exact inv.others
  · simp only [held]
    exact inv.depth
  · simp only [held]
    exact inv.valid

theorem keeps_moved {view : View L E γ} {after : Disk L E.World} {g : γ}
    {M : View L E γ → Prop} (inv : owned.Inv view) (held : after.held = view.1.held)
    (moved : owned.Moved pid view (after, g))
    (valid : owned.Valid false (owned.value (after, g))) (result : M (after, g)) :
    owned.lane.Keeps pid view after M := by
  refine ⟨g, ⟨?_, ?_, ?_, ?_⟩, .moved moved, result⟩
  · simp only [held]
    exact inv.others
  · simp only [held]
    exact inv.depth
  · simp only [held, busy_of_newest moved.newest]
    exact valid
  · rw [moved.notes]
    exact owned.growth.backed moved.grown.value inv.backed

/-- A step that only leaves locks; the last holder of the owning lock leaves history. -/
theorem keeps_leaving {view : View L E γ} {after : Disk L E.World} {M : View L E γ → Prop}
    (inv : owned.Inv view) (held : ∀ name, (after.held name).Sublist (view.1.held name))
    (files : after.files = view.1.files) (world : after.world = view.1.world)
    (result : ∀ ghost, owned.Grown view (after, ghost) → M (after, ghost)) :
    owned.lane.Keeps pid view after M := by
  have others : ∀ name, name ≠ owned.name → (after.held name).length ≤ 1 :=
    fun name other => (held name).length_le.trans (inv.others name other)
  have depth := owned.shallow (held owned.name).length_le inv.depth
  have same : owned.Same view (after, view.2) := .of_disk files world
  by_cases free : after.held owned.name = []
  · have valid : owned.Valid false (owned.resource after.files after.world view.2) := by
      rw [files, world]
      have valid := inv.valid
      cases empty : (view.1.held owned.name).isEmpty
      · rw [empty] at valid
        exact valid
      · rw [empty] at valid
        exact owned.taken valid
    obtain ⟨ghost, valid', dropped⟩ := owned.left valid
    have empty : (after.held owned.name).isEmpty = true := by rw [free, List.isEmpty_nil]
    have promise : owned.Promise pid view (after, ghost) := by
      rcases dropped with kept | dropped
      · exact .same ⟨kept.trans same.value, same.notes⟩
      · refine .left ⟨free, ?_, same.notes⟩
        rw [show owned.value view = owned.resource after.files after.world view.2
          from same.value.symm]
        exact dropped
    refine ⟨ghost, ⟨others, depth, empty ▸ valid', ?_⟩, promise, result ghost promise.grown⟩
    rw [show owned.notes (after, ghost) = owned.notes view from same.notes]
    exact owned.growth.backed promise.grown.value inv.backed
  · have busy : (after.held owned.name).isEmpty = false := by
      rw [← Bool.not_eq_true, List.isEmpty_iff]
      exact free
    have held' : (view.1.held owned.name).isEmpty = false := by
      rw [← Bool.not_eq_true, List.isEmpty_iff]
      intro empty
      have sub := held owned.name
      rw [empty, List.sublist_nil] at sub
      exact free sub
    refine ⟨view.2, same.inv inv others depth ?_, .same same, result _ same.grown⟩
    rw [busy, ← held']
    exact inv.valid

/-- A process may leave from any place at the edge of the owning lock. -/
theorem finish_keeps {view : View L E γ} (inv : owned.Inv view)
    (edge : AtEdge pid (view.1.held owned.name)) (status : Option Nat) :
    (∀ name, AtEdge pid (view.1.held name)) ∧
      owned.lane.Keeps pid view (view.1.finish pid status) fun _ => True := by
  refine ⟨fun name => ?_, keeps_leaving inv (fun _ => List.erase_sublist) rfl rfl
    fun _ _ => trivial⟩
  by_cases same : name = owned.name
  · exact same ▸ edge
  · exact .of_length ((inv.others name same).trans (by omega))

theorem exit_spec (known : owned.Local entry pid P)
    (edge : ∀ view, P view → AtEdge pid (view.1.held owned.name)) {code : Nat}
    {Q : Except IoError α → View L E γ → Prop} :
    Spec (owned.discipline entry) policy pid P (Io.exit code) Q :=
  Lane.exit known.stable fun view _ inv holds _ => finish_keeps inv (edge view holds) _

theorem safe_of_spec {script : Io (requests L E) α} {status : Except IoError α → Nat}
    {view : View L E γ} (known : owned.Local entry pid P)
    (edge : ∀ view, P view → AtEdge pid (view.1.held owned.name)) {pre : View L E γ → Prop}
    (spec : Spec (owned.discipline entry) policy pid pre script fun _ => P)
    (inv : (owned.discipline entry).Inv view) (holds : pre view) :
    Safe (owned.discipline entry) policy (script.program status) pid view := by
  refine spec.safe inv holds (fun _ => known.stable) fun result view inv holds live => ?_
  obtain ⟨edges, ghost, kept, promise, -⟩ :=
    finish_keeps inv.2 (edge view holds) (some (status result))
  exact ⟨ghost, ⟨inv.1.finish pid _, kept⟩, .finish inv.1 live edges, promise⟩

theorem keeps_elsewhere {view : View L E γ} {after : Disk L E.World} {M : View L E γ → Prop}
    (inv : owned.Inv view) (held : after.held owned.name = view.1.held owned.name)
    (others : ∀ name, name ≠ owned.name → (after.held name).length ≤ 1)
    (files : after.files = view.1.files) (world : after.world = view.1.world)
    (result : M (after, view.2)) : owned.lane.Keeps pid view after M := by
  have same : owned.Same view (after, view.2) := .of_disk files world
  refine ⟨view.2, same.inv inv others ?_ ?_, .same same, result⟩
  · simp only [held]
    exact inv.depth
  · simp only [held]
    exact inv.valid

section Entering

variable {G : View L E γ → Prop}

theorem acquire_keeps (beside : owned.Beside entry pid G) {view : View L E γ}
    (inv : owned.Inv view) (apart : owned.Apart pid G view)
    (nobody : view.1.held owned.name = []) :
    owned.lane.Keeps pid view (view.1.acquire owned.name pid)
      (owned.Holds pid (owned.Base pid G) (owned.Valid true)) := by
  have same : owned.Same view (view.1.acquire owned.name pid, view.2) := .of_disk rfl rfl
  have valid := inv.valid
  rw [nobody] at valid
  refine ⟨view.2, same.inv inv (fun name other => ?_) ?_ ?_, .same same, Disk.newest_acquire,
    ⟨Disk.oldest_acquire, ?_⟩, ?_⟩
  · rw [view.1.acquire_other pid other]
    exact inv.others name other
  · simpa using owned.one
  · rw [Disk.acquire_same]
    exact owned.taken valid
  · exact beside.same (fun _ other => view.1.acquire_other pid other) rfl same.grown apart.2
  · rw [same.value]
    exact valid

theorem enter_spec (beside : owned.Beside entry pid G) :
    Spec (owned.discipline entry) policy pid (owned.Apart pid G) (Io.ask (.lock owned.name)) fun
      | .ok _ => owned.Holds pid (owned.Base pid G) (owned.Valid true)
      | .error _ => owned.Apart pid G :=
  Lane.lock (Apart.frame beside).stable
    (fun _ _ inv apart _ _ nobody => acquire_keeps beside inv apart nobody) fun _ _ _ _ apart => apart

def tried (owned : Owned L E γ) (pid : Nat) (G : View L E γ → Prop) :
    Except IoError Bool → View L E γ → Prop
  | .ok true => owned.Holds pid (owned.Base pid G) (owned.Valid true)
  | _ => owned.Apart pid G

theorem tryEnter_spec (beside : owned.Beside entry pid G) :
    Spec (owned.discipline entry) policy pid (owned.Apart pid G) (Io.ask (.tryLock owned.name))
      (owned.tried pid G) :=
  Lane.tryLock (Apart.frame beside).stable
    (fun _ _ inv apart _ _ nobody => acquire_keeps beside inv apart nobody)
    (fun _ _ apart => apart) fun _ _ _ _ apart => apart

theorem leave_spec (beside : owned.Beside entry pid G) (base : ∀ view, P view → owned.Base pid G view) :
    Spec (owned.discipline entry) policy pid P (Io.ask (.unlock owned.name))
      fun _ => owned.Apart pid G := by
  refine Spec.strengthen (P := owned.Base pid G) (Lane.unlock (Base.frame beside).stable ?_)
    fun view _ holds => base view holds
  intro view sound inv holds _ _
  have held {name : L.Lock} (other : name ≠ owned.name) :
      (view.1.release owned.name pid).held name = view.1.held name :=
    view.1.release_other pid other
  refine ⟨holds.1.edge, keeps_leaving inv (fun name => ?_) rfl rfl fun ghost grown =>
    ⟨Disk.not_mem_release sound, beside.same (fun _ other => held other) rfl grown holds.2⟩⟩
  by_cases same : name = owned.name
  · subst same
    rw [Disk.release_same]
    exact List.erase_sublist
  · simp only [held same, List.Sublist.refl]

theorem lock_spec :
    Spec (owned.discipline entry) policy pid (owned.Free pid) (Io.ask (.lock owned.name)) fun
      | .ok _ => owned.Holds pid (owned.Bottom pid) (owned.Valid true)
      | .error _ => owned.Free pid :=
  enter_spec Clean.beside

abbrev attempted (owned : Owned L E γ) (pid : Nat) : Except IoError Bool → View L E γ → Prop :=
  owned.tried pid (owned.Clean pid)

theorem tryLock_spec :
    Spec (owned.discipline entry) policy pid (owned.Free pid) (Io.ask (.tryLock owned.name))
      (owned.attempted pid) :=
  tryEnter_spec Clean.beside

theorem unlock_spec (bottom : ∀ view, P view → owned.Bottom pid view) :
    Spec (owned.discipline entry) policy pid P (Io.ask (.unlock owned.name))
      fun _ => owned.Free pid :=
  leave_spec Clean.beside bottom

end Entering

theorem keepOnly_spec : Steady (owned.discipline entry) policy pid
    (owned.Holds pid (owned.Clean pid) fact) (Io.ask (.keepOnly owned.name)) := by
  have known : owned.Local entry pid (owned.Holds pid (owned.Clean pid) fact) :=
    Holds.local_ Clean.frame
  refine Lane.keepOnly known.stable fun view _ inv holds _ _ => ?_
  have clean := holds.2.1
  have held : (view.1.keepOnly owned.name pid).held = view.1.held := by
    funext name
    simp only [Disk.keepOnly]
    split
    · rfl
    · next other => exact List.erase_of_not_mem (clean.2 name other)
  exact ⟨fun name other => .of_length ((inv.others name other).trans (by omega)),
    keeps_quiet inv held (.of_disk rfl rfl) (known.quiet held rfl (.of_disk rfl rfl) holds)⟩

end Steps

section Forks

variable {F : View L E γ → Prop} {fact : owned.Resource → Prop} {P : View L E γ → Prop}

/-- A frame that a process keeps while it forks. -/
structure Forkable (owned : Owned L E γ) (entry : Entry → Program (requests L E)) (pid : Nat)
    (F : View L E γ → Prop) : Prop where
  frame : owned.Frame entry pid F
  clean : ∀ {view}, F view → owned.Clean pid view
  birth : ∀ {view}, F view → F (view.1.birth (some pid), view.2)
  depth : ∀ {view}, view.1.Sound → F view → view.1.Newest pid owned.name →
    owned.Depth ((view.1.held owned.name).length + 1)

theorem held_birth_of_clean {view : View L E γ} (clean : owned.Clean pid view) {name : L.Lock}
    (other : name ≠ owned.name) : (view.1.birth (some pid)).held name = view.1.held name := by
  simp only [Disk.birth, Option.any_some, List.contains_iff_mem, if_neg (clean.2 name other)]

theorem Clean.birth {view : View L E γ} (clean : owned.Clean pid view) :
    owned.Clean pid (view.1.birth (some pid), view.2) :=
  ⟨clean.1.trans (Nat.lt_succ_self _), fun name other => by
    rw [held_birth_of_clean clean other]
    exact clean.2 name other⟩

/-- While forks may nest without bound, a clean holder may always fork. -/
theorem Clean.forkable (deep : ∀ count, owned.Depth count) :
    owned.Forkable entry pid (owned.Clean pid) :=
  ⟨Clean.frame, fun holds => holds, fun holds => holds.birth, fun _ _ _ => deep _⟩

/-- The only holder of the lock may fork. -/
theorem Bottom.forkable (two : owned.Depth 2) : owned.Forkable entry pid (owned.Bottom pid) where
  frame := Bottom.frame
  clean holds := holds.2
  birth holds := ⟨holds.1.birth _, holds.2.birth⟩
  depth sound holds newest := by
    rw [newest.alone sound holds.1]
    exact two

theorem Forkable.shares {fact : owned.Resource → Prop} (forkable : owned.Forkable entry pid F)
    (kept : ∀ {before after}, owned.growth.Keeps pid before after → fact before → fact after) :
    owned.Forkable entry pid fun view => F view ∧ owned.Shares pid fact view where
  frame := forkable.frame.and (Shares.frame kept)
  clean holds := forkable.clean holds.1
  birth {view} holds := by
    refine ⟨forkable.birth holds.1, ?_, holds.2.2⟩
    simp only [Disk.birth]
    split
    · exact List.mem_cons_of_mem _ holds.2.1
    · exact holds.2.1
  depth sound holds newest := forkable.depth sound holds.1 newest

/-- A fork under the owning lock: the child becomes its newest holder. -/
def forked (owned : Owned L E γ) (pid : Nat) (F : View L E γ → Prop)
    (fact : owned.Resource → Prop) : Except IoError (Option Nat) → View L E γ → Prop
  | .ok none => owned.Holds pid F fact
  | .ok (some child) => owned.Below pid child F
  | .error _ => fun _ => False

theorem spawn_spec (forkable : owned.Forkable entry pid F) {program : Program (requests L E)}
    (safe : ∀ born view, (owned.discipline entry).Inv view →
      owned.Holds born (owned.Clean born) fact view →
      Safe (owned.discipline entry) policy program born view) :
    Spec (owned.discipline entry) policy pid (owned.Holds pid F fact) (Io.spawn program)
      (owned.forked pid F fact) := by
  refine Lane.spawn (Holds.local_ forkable.frame).stable (fun _ _ holds => holds) ?_ ?_
  · intro view inv holds name inside
    by_cases same : name = owned.name
    · exact same ▸ holds.1
    · exact absurd inside ((forkable.clean holds.2.1).2 name same)
  · intro view sound inv holds live
    have clean := forkable.clean holds.2.1
    have same : owned.Same view (view.1.birth (some pid), view.2) := .of_disk rfl rfl
    have born : owned.Inv (view.1.birth (some pid), view.2) := by
      refine same.inv inv (fun name other => ?_) ?_ ?_
      · rw [held_birth_of_clean clean other]
        exact inv.others name other
      · rw [Disk.held_birth_of_newest holds.1]
        exact forkable.depth sound holds.2.1 holds.1
      · rw [Disk.held_birth_of_newest holds.1, List.isEmpty_cons]
        exact holds.valid inv
    refine ⟨view.2, born, .same same, ?_, Disk.Newest.forked holds.1, forkable.birth holds.2.1⟩
    refine safe _ _ ⟨sound.birth _, born⟩
      ⟨Disk.Newest.newborn holds.1, ⟨Nat.lt_succ_self _, fun name other inside => ?_⟩, holds.2.2⟩
    rw [held_birth_of_clean clean other] at inside
    exact absurd (sound.alive name _ inside).1 (lt_irrefl _)

theorem wait_spec (frame : owned.Frame entry pid F) :
    Spec (owned.discipline entry) policy pid (owned.Below pid child F) (Io.ask (.wait child))
      fun _ => owned.Stays pid F :=
  Lane.wait (Below.frame frame).stable fun _ _ sound _ holds _ ended =>
    ⟨holds.1.newest_of_ended sound ended, holds.2, trivial⟩

def polled (owned : Owned L E γ) (pid child : Nat) (F : View L E γ → Prop) :
    Except IoError (Option (Option Nat)) → View L E γ → Prop
  | .ok (some _) => owned.Stays pid F
  | _ => owned.Below pid child F

theorem poll_spec (frame : owned.Frame entry pid F) :
    Spec (owned.discipline entry) policy pid (owned.Below pid child F) (Io.ask (.poll child))
      (owned.polled pid child F) := by
  refine Lane.poll (Below.frame frame).stable fun view sound inv holds _ => ?_
  cases ended : view.1.ended child with
  | none => exact holds
  | some _ => exact ⟨holds.1.newest_of_ended sound ended, holds.2, trivial⟩

theorem born_free {view : View L E γ} (sound : view.1.Sound) {parent : Option Nat}
    (held : (view.1.birth parent).held = view.1.held) :
    owned.Free view.1.next (view.1.birth parent, view.2) := by
  have absent (name : L.Lock) : view.1.next ∉ (view.1.birth parent).held name := by
    rw [held]
    exact fun inside => absurd (sound.alive name _ inside).1 (lt_irrefl _)
  exact ⟨absent _, Nat.lt_succ_self _, fun name _ => absent name⟩

theorem born_inv {view : View L E γ} (inv : owned.Inv view) {parent : Option Nat}
    (held : (view.1.birth parent).held = view.1.held) :
    owned.Inv (view.1.birth parent, view.2) := by
  have same : owned.Same view (view.1.birth parent, view.2) := .of_disk rfl rfl
  refine same.inv inv ?_ ?_ ?_
  · simp only [held]
    exact inv.others
  · simp only [held]
    exact inv.depth
  · simp only [held]
    exact inv.valid

theorem held_birth_of_free {view : View L E γ} (free : owned.Free pid view) :
    (view.1.birth (some pid)).held = view.1.held := by
  funext name
  by_cases same : name = owned.name
  · subst same
    simp only [Disk.birth, Option.any_some, List.contains_iff_mem, if_neg free.1]
  · exact held_birth_of_clean free.2 same

theorem spawnKnowing_spec {program : Program (requests L E)}
    {known : owned.Resource → owned.Log → Prop} (lasting : owned.Lasting known)
    (safe : ∀ born view, (owned.discipline entry).Inv view → owned.Free born view →
      owned.Knows known view → Safe (owned.discipline entry) policy program born view) :
    Spec (owned.discipline entry) policy pid (fun view => owned.Free pid view ∧ owned.Knows known view)
      (Io.spawn program) fun _ view => owned.Free pid view ∧ owned.Knows known view := by
  refine Lane.spawn (Stable.and Free.frame.stable lasting.frame.stable) (fun _ _ holds => holds)
    (fun view _ holds name inside => ?_) fun view sound inv holds live => ?_
  · by_cases same : name = owned.name
    · exact absurd (same ▸ inside) holds.1.1
    · exact absurd inside (holds.1.2.2 name same)
  · have held := held_birth_of_free holds.1
    have same : owned.Same view (view.1.birth (some pid), view.2) := .of_disk rfl rfl
    have inv' := born_inv inv held
    have known' := lasting.after same.grown holds.2
    refine ⟨view.2, inv', .same same,
      safe _ _ ⟨sound.birth _, inv'⟩ (born_free sound held) known', ⟨?_, holds.1.2.birth⟩, known'⟩
    rw [held]
    exact holds.1.1

theorem Lasting.top : owned.Lasting fun _ _ => True := ⟨fun _ _ => trivial, fun _ _ => trivial⟩

theorem spawnFree_spec {program : Program (requests L E)}
    (safe : ∀ born view, (owned.discipline entry).Inv view → owned.Free born view →
      Safe (owned.discipline entry) policy program born view) :
    Spec (owned.discipline entry) policy pid (owned.Free pid) (Io.spawn program)
      fun _ => owned.Free pid :=
  (spawnKnowing_spec Lasting.top fun born view inv free _ => safe born view inv free).weaken
    (fun _ _ free => ⟨free, trivial⟩) fun _ _ _ holds => holds.1

end Forks

section Elsewhere

variable {F F' : View L E γ → Prop} {fact : owned.Resource → Prop} {other : L.Lock}

/-- What a frame becomes while another lock is held inside, and back. -/
structure Section (owned : Owned L E γ) (entry : Entry → Program (requests L E)) (pid : Nat)
    (other : L.Lock) (F F' : View L E γ → Prop) : Prop where
  outer : owned.Frame entry pid F
  inner : owned.Frame entry pid F'
  enter : ∀ {view}, F view → F' (view.1.acquire other pid, view.2)
  leave : ∀ {view}, view.1.Sound → F' view → F (view.1.release other pid, view.2)

/-- No lock is held but the owning one and `other`. -/
def CleanBut (owned : Owned L E γ) (other : L.Lock) (pid : Nat) (view : View L E γ) : Prop :=
  pid < view.1.next ∧ ∀ name, name ≠ owned.name → name ≠ other → pid ∉ view.1.held name

theorem CleanBut.beside : owned.Beside entry pid (owned.CleanBut other pid) where
  stable _ holds moved _ :=
    ⟨holds.1.trans_le moved.1.grows.next, fun name own different inside =>
      holds.2 name own different (moved.1.joins holds.1 inside)⟩
  born holds := holds.1
  same held next _ holds := by
    refine ⟨next ▸ holds.1, fun name own different => ?_⟩
    rw [held name own]
    exact holds.2 name own different

theorem Clean.within : owned.Section entry pid other (owned.Clean pid) (owned.CleanBut other pid) where
  outer := Clean.frame
  inner := CleanBut.beside.frame
  enter {view} holds := ⟨holds.1, fun name own different => by
    rw [view.1.acquire_other pid different]
    exact holds.2 name own⟩
  leave {view} sound holds := ⟨holds.1, fun name own => by
    by_cases same : name = other
    · subst same
      exact Disk.not_mem_release sound
    · rw [view.1.release_other pid same]
      exact holds.2 name own same⟩

theorem Section.top : owned.Section entry pid other (fun _ => True) fun _ => True :=
  ⟨.top, .top, fun _ => trivial, fun _ _ => trivial⟩

theorem Born.within : owned.Section entry pid other (Born pid) (Born pid) :=
  ⟨Born.beside.frame, Born.beside.frame, fun holds => holds, fun _ holds => holds⟩

theorem Section.knows {known : owned.Resource → owned.Log → Prop}
    (within : owned.Section entry pid other F F') (lasting : owned.Lasting known) :
    owned.Section entry pid other (fun view => F view ∧ owned.Knows known view)
      fun view => F' view ∧ owned.Knows known view where
  outer := within.outer.and lasting.frame
  inner := within.inner.and lasting.frame
  enter {view} holds :=
    have same : owned.Same view (view.1.acquire other pid, view.2) := .of_disk rfl rfl
    ⟨within.enter holds.1, lasting.after same.grown holds.2⟩
  leave {view} sound holds :=
    have same : owned.Same view (view.1.release other pid, view.2) := .of_disk rfl rfl
    ⟨within.leave sound holds.1, lasting.after same.grown holds.2⟩

/-- The place among the holders of the owning lock does not change with other locks. -/
theorem Base.within (own : owned.name ≠ other) {G G' : View L E γ → Prop}
    (beside : owned.Beside entry pid G) (beside' : owned.Beside entry pid G')
    (within : owned.Section entry pid other G G') :
    owned.Section entry pid other (owned.Base pid G) (owned.Base pid G') where
  outer := Base.frame beside
  inner := Base.frame beside'
  enter {view} holds := ⟨by
    simp only [Disk.Oldest]
    rw [view.1.acquire_other pid own]
    exact holds.1, within.enter holds.2⟩
  leave {view} sound holds := ⟨by
    simp only [Disk.Oldest]
    rw [view.1.release_other pid own]
    exact holds.1, within.leave sound holds.2⟩

theorem Apart.within (own : owned.name ≠ other) {G G' : View L E γ → Prop}
    (beside : owned.Beside entry pid G) (beside' : owned.Beside entry pid G')
    (within : owned.Section entry pid other G G') :
    owned.Section entry pid other (owned.Apart pid G) (owned.Apart pid G') where
  outer := Apart.frame beside
  inner := Apart.frame beside'
  enter {view} holds := ⟨by
    rw [view.1.acquire_other pid own]
    exact holds.1, within.enter holds.2⟩
  leave {view} sound holds := ⟨by
    rw [view.1.release_other pid own]
    exact holds.1, within.leave sound holds.2⟩

theorem Bottom.within (own : owned.name ≠ other) : owned.Section entry pid other
    (owned.Bottom pid) (owned.Base pid (owned.CleanBut other pid)) :=
  Base.within own Clean.beside CleanBut.beside Clean.within

/-- What any assertion becomes while another lock is held inside, and back. -/
structure Passage (owned : Owned L E γ) (entry : Entry → Program (requests L E)) (pid : Nat)
    (other : L.Lock) (P P' : View L E γ → Prop) : Prop where
  outer : Stable (owned.discipline entry) pid P
  inner : Stable (owned.discipline entry) pid P'
  enter : ∀ {view}, P view → P' (view.1.acquire other pid, view.2)
  leave : ∀ {view}, view.1.Sound → P' view → P (view.1.release other pid, view.2)

variable {P P' : View L E γ → Prop}

theorem Section.passage (within : owned.Section entry pid other F F') :
    owned.Passage entry pid other F F' :=
  ⟨within.outer.stable, within.inner.stable, within.enter, within.leave⟩

theorem Section.holds (within : owned.Section entry pid other F F') (own : owned.name ≠ other) :
    owned.Passage entry pid other (owned.Holds pid F fact) (owned.Holds pid F' fact) where
  outer := (Holds.local_ within.outer).stable
  inner := (Holds.local_ within.inner).stable
  enter {view} holds := ⟨by
    simp only [Disk.Newest]
    rw [view.1.acquire_other pid own]
    exact holds.1, within.enter holds.2.1, holds.2.2⟩
  leave {view} sound holds := ⟨by
    simp only [Disk.Newest]
    rw [view.1.release_other pid own]
    exact holds.1, within.leave sound holds.2.1, holds.2.2⟩

theorem passage_enter_keeps (passage : owned.Passage entry pid other P P')
    (own : owned.name ≠ other) {view : View L E γ} (inv : owned.Inv view) (holds : P view) :
    owned.lane.Keeps pid view (view.1.acquire other pid) P' := by
  refine keeps_elsewhere inv (view.1.acquire_other pid own) (fun name different => ?_) rfl rfl
    (passage.enter holds)
  by_cases same : name = other
  · subst same
    simp
  · rw [view.1.acquire_other pid same]
    exact inv.others name different

theorem passage_leave_keeps (passage : owned.Passage entry pid other P P')
    (own : owned.name ≠ other) {view : View L E γ} (sound : view.1.Sound) (inv : owned.Inv view)
    (holds : P' view) :
    AtEdge pid (view.1.held other) ∧
      owned.lane.Keeps pid view (view.1.release other pid) P := by
  refine ⟨.of_length ((inv.others other own.symm).trans (by omega)), keeps_elsewhere inv
    (view.1.release_other pid own) (fun name different => ?_) rfl rfl (passage.leave sound holds)⟩
  by_cases same : name = other
  · subst same
    rw [Disk.release_same]
    exact List.length_erase_le.trans (inv.others _ different)
  · rw [view.1.release_other pid same]
    exact inv.others name different

end Elsewhere

/-- What is left to show of a lane once its programs are safe from the start. -/
theorem closed
    (kill : ∀ pid view, owned.Inv view → policy.kill pid view.1 →
      AtEdge pid (view.1.held owned.name))
    (change : ∀ what view world, policy.change what view.1 →
      E.change what view.1 = some world →
      owned.Same view ({ view.1 with world := world }, view.2))
    (enter : ∀ entry' born view, (owned.discipline entry).Inv view → owned.Free born view →
      Safe (owned.discipline entry) policy (entry entry') born view) :
    (owned.discipline entry).Closed policy := by
  refine Lane.closed (fun pid view _ inv _ permitted =>
    finish_keeps inv (kill pid view inv permitted) none) ?_ fun entry' view sound inv => ?_
  · intro what view world _ inv permitted changed
    have same := change what view world permitted changed
    exact ⟨view.2, same.inv inv inv.others inv.depth inv.valid, same⟩
  · have held := Disk.held_birth_none view.1
    exact ⟨view.2, born_inv inv held, .of_disk rfl rfl,
      enter entry' _ _ ⟨sound.birth none, born_inv inv held⟩ (born_free sound held)⟩

/-- A start without processes and locks is good as soon as resource and log are valid. -/
theorem good_of_idle {start : Config (requests L E) (Disk L E.World)} {ghost : γ}
    (idle : ∀ pid, start.procs pid = none) (free : ∀ name, start.state.held name = [])
    (valid : owned.Valid true (owned.value (start.state, ghost)))
    (backed : owned.growth.Backed (owned.value (start.state, ghost))
      (owned.notes (start.state, ghost))) :
    (owned.discipline entry).Good policy start ghost := by
  refine Lane.good_of_idle ⟨fun name => ?_, fun name pid holds => ?_⟩
    ⟨fun name _ => ?_, ?_, ?_, backed⟩ idle
  · rw [free]
    exact List.nodup_nil
  · rw [free] at holds
    cases holds
  · rw [free]
    exact Nat.zero_le 1
  · rw [free]
    exact owned.shallow (Nat.zero_le 1) owned.one
  · rw [free]
    exact valid

/-- Whatever one event does is promised by some process. -/
theorem promise_of_moves {event : Event (system L E entry)} {before after : View L E γ}
    (moves : (owned.discipline entry).Moves event before after) :
    ∃ pid, owned.Promise pid before after := by
  cases event with
  | enter _ => exact ⟨0, .same moves.2.2⟩
  | change _ => exact ⟨0, .same moves.2.2⟩
  | refuse pid =>
      have same : before = after := moves
      exact ⟨pid, .same (same ▸ ⟨rfl, rfl⟩)⟩
  | step pid _ => exact ⟨pid, moves.2⟩
  | fork pid => exact ⟨pid, moves.2⟩
  | leave pid => exact ⟨pid, moves.2⟩
  | kill pid => exact ⟨pid, moves.2⟩

end Owned

end AgentBash.Durable
