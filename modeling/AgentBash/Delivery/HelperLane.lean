import AgentBash.Delivery.HelperStorage
import AgentBash.Durable.Rules

/-!
# The lane of the helper cache

Launchers that pin their helpers beside each other: one holds the cache lock and changes the cache,
the others draw, record and give up their own handles.
-/

namespace AgentBash

set_option autoImplicit false

open Durable HelperStorage

namespace HelperCache

variable [Codec]

abbrev View := HelperDisk × Unit

structure Inv (disk : HelperDisk) : Prop where
  sane : Sane disk.world
  alone : (disk.held HelperLock.cacheLock).length ≤ 1
  drawn : ∀ {handle pid}, disk.world.drawn handle = some pid → pid < disk.next

def Holder (pid : Nat) (view : View) : Prop := view.1.Newest pid HelperLock.cacheLock

structure Promise (pid : Nat) (before after : View) : Prop where
  steps : Steps pid before.1.world after.1.world
  records : Records before.1.world after.1.world
  drops : Drops pid before.1.world after.1.world
  around : Holder pid before ∨ Around before.1.world after.1.world

structure Relied (pid : Nat) (before after : View) : Prop where
  beside : Beside pid before.1.world after.1.world
  holder : Holder pid before → Holder pid after ∧ Around before.1.world after.1.world

structure Surrounded (before after : View) : Prop where
  beside : ∀ pid, Beside pid before.1.world after.1.world
  around : Around before.1.world after.1.world

def lane : Lane helperLayout helperOutside Unit where
  Inv view := Inv view.1
  Rely := Relied
  Guarantee := Promise
  Outer := Surrounded
  refl pid view := ⟨.refl pid _, fun holder => ⟨holder, .refl _⟩⟩
  idle pid view := ⟨.refl pid _, .of_eq rfl, .of_find fun found => found, .inr (.refl _)⟩
  trans one two := by
    refine ⟨one.beside.trans two.beside, fun holder => ?_⟩
    obtain ⟨still, around⟩ := one.holder holder
    obtain ⟨last, around'⟩ := two.holder still
    exact ⟨last, around.trans around'⟩
  honoured {pid other before after} _ _ sound steps promise different := by
    refine ⟨promise.steps.beside different, fun newest => ?_⟩
    refine ⟨Disk.Newest.later newest sound (steps.later sound different), ?_⟩
    exact promise.around.resolve_left fun own => different (Disk.Newest.unique own newest)
  tolerated {pid before after} _ _ held outer := by
    refine ⟨outer.beside pid, fun newest => ⟨?_, outer.around⟩⟩
    simp only [Holder, Disk.Newest] at newest ⊢
    rw [held]
    exact newest

abbrev discipline : Discipline helperSystem Unit := lane.discipline Launch.program

section Assertions

variable {policy : System.Policy helperSystem} {pid : Nat} {handle : Handle}
  {P Q : HelperStorage → Prop}

/-- A fact that a launcher keeps while it holds the cache lock. -/
def Lasting (pid : Nat) (P : HelperStorage → Prop) : Prop :=
  ∀ {before after}, Around before after → Beside pid before after → P before → P after

/-- A fact that a launcher keeps without the lock. -/
def Lone (pid : Nat) (P : HelperStorage → Prop) : Prop :=
  ∀ {before after}, Beside pid before after → P before → P after

def Owning (pid : Nat) (P : HelperStorage → Prop) (view : View) : Prop :=
  Holder pid view ∧ P view.1.world

def Free (pid : Nat) (P : HelperStorage → Prop) (view : View) : Prop :=
  (pid < view.1.next ∧ pid ∉ view.1.held HelperLock.cacheLock) ∧ P view.1.world

omit [Codec] in
theorem Lone.lasting (lone : Lone pid P) : Lasting pid P := fun _ beside holds => lone beside holds

omit [Codec] in
theorem Lasting.and (one : Lasting pid P) (two : Lasting pid Q) :
    Lasting pid fun s => P s ∧ Q s :=
  fun around beside holds => ⟨one around beside holds.1, two around beside holds.2⟩

omit [Codec] in
theorem lone_base : Lone pid (Base pid handle) := fun beside base => base.beside beside

omit [Codec] in
theorem lone_mine : Lone pid (Mine pid handle) := fun beside mine => mine.beside beside

omit [Codec] in
theorem lone_none : Lone pid fun s => ∀ handle, s.drawn handle ≠ some pid :=
  fun beside none handle drawn => none handle (beside.draws drawn)

theorem owning_stable (lasting : Lasting pid P) : Stable discipline pid (Owning pid P) := by
  intro view now _ holds moved _
  obtain ⟨still, around⟩ := moved.2.holder holds.1
  exact ⟨still, lasting around moved.2.beside holds.2⟩

theorem free_stable (lone : Lone pid P) : Stable discipline pid (Free pid P) := by
  intro view now _ holds moved _
  refine ⟨⟨Nat.lt_of_lt_of_le holds.1.1 moved.1.grows.next, fun inside => ?_⟩,
    lone moved.2.beside holds.2⟩
  exact holds.1.2 (moved.1.joins holds.1.1 inside)

theorem Inv.acts {disk : HelperDisk} {after : HelperStorage} (inv : Inv disk)
    (live : disk.live pid) (acts : Acts pid disk.world after) :
    Inv { disk with world := after } where
  sane := acts.sane
  alone := inv.alone
  drawn found := (acts.steps.draws found).elim inv.drawn fun same => same ▸ live.1

theorem held_spec {op : HelperOp} {Q : Except IoError op.Result → HelperStorage → Prop}
    (lasting : Lasting pid P)
    (acted : ∀ s choice answer after, Sane s → P s → s.act pid op choice = some (answer, after) →
      Acts pid s after ∧ Q answer after) :
    Spec discipline policy pid (Owning pid P) (ask op) fun result => Owning pid (Q result) := by
  refine Lane.external (owning_stable lasting) ?_
  intro view choice answer world _ inv holds live _ act
  obtain ⟨acts, known⟩ := acted view.1.world choice answer world inv.sane holds.2 act
  exact ⟨(), inv.acts live acts, ⟨acts.steps, acts.records, acts.drops, .inl holds.1⟩, holds.1, known⟩

theorem free_spec {op : HelperOp} {Q : Except IoError op.Result → HelperStorage → Prop}
    (lone : Lone pid P)
    (acted : ∀ s choice answer after, Sane s → P s → s.act pid op choice = some (answer, after) →
      (Acts pid s after ∧ Around s after) ∧ Q answer after) :
    Spec discipline policy pid (Free pid P) (ask op) fun result => Free pid (Q result) := by
  refine Lane.external (free_stable lone) ?_
  intro view choice answer world _ inv holds live _ act
  obtain ⟨⟨acts, around⟩, known⟩ := acted view.1.world choice answer world inv.sane holds.2 act
  exact ⟨(), inv.acts live acts, ⟨acts.steps, acts.records, acts.drops, .inr around⟩, holds.1, known⟩

end Assertions

section Questions

variable {policy : System.Policy helperSystem} {pid : Nat} {F : View → Prop}

def Quiet : HelperOp → Prop
  | .createHandle _ | .createNew _ | .append _ _ | .syncAll _ | .hardLink _ _ | .removeFile _
  | .record _ _ => False
  | _ => True

/-- What an answer says about the storage. -/
def Told (s : HelperStorage) : (op : HelperOp) → Except IoError op.Result → Prop
  | .linkCount name, .ok (count : Nat) =>
      ∃ file, s.links.find name = some file ∧ s.links.count file = count
  | .canonicalize name, .ok found => found = name
  | .readHandle handle, .ok (names : List HelperName) =>
      ∀ name ∈ names, name.directory = some handle
  | _, _ => True

section Quiet

attribute [local simp] HelperStorage.perform

theorem perform_quiet {op : HelperOp} (quiet : Quiet op) {s after : HelperStorage}
    {choice : HelperChoice} {answer : Except IoError op.Result}
    (performed : s.perform pid op choice = some (answer, after)) : after = s ∧ Told s op answer := by
  cases op with
  | createHandle | createNew | append | syncAll | hardLink | removeFile | record => exact quiet.elim
  | openFile name | stat name =>
      simp only [HelperStorage.perform] at performed
      split at performed <;> obtain ⟨rfl, rfl⟩ := Prod.mk.inj (Option.some.inj performed) <;>
        exact ⟨rfl, trivial⟩
  | linkCount name =>
      simp only [HelperStorage.perform] at performed
      split at performed <;> obtain ⟨rfl, rfl⟩ := Prod.mk.inj (Option.some.inj performed)
      · exact ⟨rfl, trivial⟩
      · next file found => exact ⟨rfl, file, found, rfl⟩
  | canonicalize name =>
      simp only [HelperStorage.perform] at performed
      split at performed <;> obtain ⟨rfl, rfl⟩ := Prod.mk.inj (Option.some.inj performed)
      · exact ⟨rfl, trivial⟩
      · exact ⟨rfl, rfl⟩
  | readHandle handle =>
      cases choice <;> simp at performed
      obtain ⟨inside, rfl, rfl⟩ := performed
      exact ⟨rfl, inside⟩
  | readCache | persistEnvironment =>
      cases choice <;> simp at performed
      obtain ⟨rfl, rfl⟩ := performed
      exact ⟨rfl, trivial⟩
  | createCacheDir | metadata | digest | tryExists | syncDirectory =>
      simp at performed
      obtain ⟨rfl, rfl⟩ := performed
      exact ⟨rfl, trivial⟩

end Quiet

omit [Codec] in
theorem told_error {op : HelperOp} {s : HelperStorage} {error : IoError} :
    Told s op (.error error) := by
  cases op <;> trivial

theorem act_quiet {op : HelperOp} (quiet : Quiet op) {s after : HelperStorage}
    {choice : HelperChoice} {answer : Except IoError op.Result}
    (acted : s.act pid op choice = some (answer, after)) : after = s ∧ Told s op answer := by
  unfold act at acted
  split at acted
  · obtain ⟨rfl, rfl⟩ := Prod.mk.inj (Option.some.inj acted)
    exact ⟨rfl, trivial⟩
  · obtain ⟨rfl, rfl⟩ := Prod.mk.inj (Option.some.inj acted)
    exact ⟨rfl, told_error⟩
  · exact perform_quiet quiet acted

/-- A request that may change something fails without an effect, or it is performed. -/
theorem act_cases {op : HelperOp} {s after : HelperStorage}
    {choice : HelperChoice} {answer : Except IoError op.Result}
    (acted : s.act pid op choice = some (answer, after)) (loud : ¬ Quiet op) :
    (∃ error, answer = .error error ∧ after = s) ∨
      s.perform pid op choice = some (answer, after) := by
  unfold act at acted
  split at acted
  · exact absurd trivial loud
  · obtain ⟨rfl, rfl⟩ := Prod.mk.inj (Option.some.inj acted)
    exact .inl ⟨_, rfl, rfl⟩
  · exact .inr acted

theorem quiet_spec (op : HelperOp) (quiet : Quiet op) (stable : Stable discipline pid F) :
    Spec discipline policy pid F (ask op) fun result view => F view ∧ Told view.1.world op result := by
  refine Lane.external stable ?_
  intro view choice answer world _ inv holds _ _ act
  obtain ⟨same, told⟩ := act_quiet quiet act
  have unchanged : ({ view.1 with world := world } : HelperDisk) = view.1 := by rw [same]
  rw [unchanged]
  exact .idle inv ⟨holds, told⟩

theorem quiet_steady (op : HelperOp) (quiet : Quiet op) (stable : Stable discipline pid F) :
    Steady discipline policy pid F (ask op) :=
  (quiet_spec op quiet stable).relax fun _ _ _ held => held.1

end Questions

section Answers

variable {policy : System.Policy helperSystem} {pid : Nat} {α : Type} {P B : View → Prop}
  {G : α → View → Prop}

/-- `B` holds in any case, and `G` of a value. -/
def Answers (B : View → Prop) (G : α → View → Prop) (result : Except IoError α) (view : View) :
    Prop :=
  B view ∧ ∀ value, result = .ok value → G value view

omit [Codec] in
theorem Answers.value {value : α} {view : View} (base : B view) (good : G value view) :
    Answers B G (.ok value) view :=
  ⟨base, fun _ same => Except.ok.inj same ▸ good⟩

omit [Codec] in
theorem Answers.error {error : IoError} {view : View} (base : B view) :
    Answers B G (.error error) view :=
  ⟨base, nofun⟩

theorem unavailable_spec {what : String} {script : HelperScript α}
    (spec : Spec discipline policy pid P script (Answers B G)) :
    Spec discipline policy pid P (unavailable what script) (Answers B G) := by
  refine Spec.handle spec fun result => ?_
  cases result with
  | ok value => exact Spec.pure fun _ _ held => held
  | error error => exact Spec.throw fun _ _ held => .error held.1

theorem unavailable_steady {what : String} {script : HelperScript α}
    (steady : Steady discipline policy pid P script) :
    Steady discipline policy pid P (unavailable what script) := by
  refine Spec.handle steady fun result => ?_
  cases result with
  | ok value => exact Steady.pure
  | error error => exact Steady.throw

end Answers

end HelperCache

end AgentBash
