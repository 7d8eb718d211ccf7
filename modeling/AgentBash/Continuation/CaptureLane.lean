import AgentBash.Continuation.Capture
import AgentBash.Continuation.Storage

/-!
# The capture lane

What the runs of one source directory keep: the lease has one holder, the output and the proof
of its loss exclude each other, and what was published or completed holds the selected bytes.
Where no publication is broken off, every published name is the only one of its node as well.
-/

namespace AgentBash

set_option autoImplicit false

open Durable SourceStorage

namespace Continuation

abbrev View := SourceDisk × Unit

/-- Whether publications that are broken off are excluded, and whether the log is anchored, that is,
keeps its names in the directory while somebody holds the lease. -/
class Unbroken where
  required : Prop
  anchored : Prop

variable [Unbroken] {original : Bytes}

structure Inv (original : Bytes) (disk : SourceDisk) : Prop where
  sane : Sane original disk.world
  alone : (disk.held SourceLock.sourceCapture).length ≤ 1
  drawn : ∀ {document owner serial},
    disk.world.find (.temp document owner serial) ≠ none → owner < disk.next
  settled : Unbroken.required →
    SourceStorage.Settled disk.world ∨ (disk.held SourceLock.sourceCapture ≠ [] ∧ Window disk.world)
  tidy : Unbroken.required → ∀ pid, ¬ disk.live pid → Tidy pid disk.world

/-- What a holder of the lease relies on. -/
structure Around (before after : SourceStorage) : Prop where
  kept : Kept Unbroken.anchored before after
  proof : after.find (.document .missingOutput) = before.find (.document .missingOutput)

structure Promise (original : Bytes) (pid : Nat) (before after : View) : Prop where
  mine : ∀ other, other ≠ pid → Mine other before.1.world after.1.world
  around : before.1.Newest pid SourceLock.sourceCapture ∨ Around before.1.world after.1.world
  survives : Unbroken.anchored → Survives original before.1.world → Survives original after.1.world

structure Relied (pid : Nat) (before after : View) : Prop where
  mine : Mine pid before.1.world after.1.world
  holder : before.1.Newest pid SourceLock.sourceCapture →
    after.1.Newest pid SourceLock.sourceCapture ∧ Around before.1.world after.1.world

structure Surrounded (before after : View) : Prop where
  mine : ∀ pid, Mine pid before.1.world after.1.world
  around : before.1.held SourceLock.sourceCapture = [] ∨ Around before.1.world after.1.world

theorem Around.refl (s : SourceStorage) : Around s s := ⟨.refl s, rfl⟩

theorem Around.trans {first second third : SourceStorage} (one : Around first second)
    (two : Around second third) : Around first third :=
  ⟨one.kept.trans two.kept, two.proof.trans one.proof⟩

def lane (original : Bytes) : Lane sourceLayout sourceOutside Unit where
  Inv view := Inv original view.1
  Rely := Relied
  Guarantee := Promise original
  Outer := Surrounded
  refl pid view := ⟨.refl pid _, fun newest => ⟨newest, .refl _⟩⟩
  idle pid view := ⟨fun _ _ => .refl _ _, .inr (.refl _), fun _ => id⟩
  trans one two := by
    refine ⟨one.mine.trans two.mine, fun newest => ?_⟩
    obtain ⟨still, around⟩ := one.holder newest
    obtain ⟨last, around'⟩ := two.holder still
    exact ⟨last, around.trans around'⟩
  honoured {pid other before after} _ _ sound steps promise different := by
    refine ⟨promise.mine other different, fun newest => ?_⟩
    refine ⟨newest.later sound (steps.later sound different), ?_⟩
    exact promise.around.resolve_left fun own => different (own.unique newest)
  tolerated {pid before after} _ _ held outer := by
    refine ⟨outer.mine pid, fun newest => ⟨?_, ?_⟩⟩
    · simp only [Disk.Newest] at newest ⊢
      rw [held]
      exact newest
    · refine outer.around.resolve_left fun free => ?_
      have inside := newest.mem
      rw [free] at inside
      cases inside

abbrev discipline (original : Bytes) : Discipline sourceSystem Unit :=
  (lane original).discipline SourceEntry.program

section Lasting

/-- A fact that the holder of the lease keeps, whatever the others do. -/
def Lasting (original : Bytes) (P : SourceStorage → Prop) : Prop :=
  ∀ {before after}, Sane original before → Around before after → P before → P after

variable {P Q : SourceStorage → Prop} {before after : SourceStorage} {name : SourceName}
  {inode : Nat} {node : SourceNode}

theorem Lasting.and (one : Lasting original P) (two : Lasting original Q) :
    Lasting original fun s => P s ∧ Q s :=
  fun sane around holds => ⟨one sane around holds.1, two sane around holds.2⟩

theorem Lasting.imp {p : Prop} (lasting : Lasting original P) :
    Lasting original fun s => p → P s :=
  fun sane around holds given => lasting sane around (holds given)

theorem lasting_find (own : isLeased name = true) {found : Option Nat} :
    Lasting original fun s => s.find name = found :=
  fun _ around holds => (around.kept.leased own).trans holds

/-- A record of the lease is not written to by anybody else. -/
theorem Around.receipt (sane : Sane original before) (around : Around before after) {copy : Copy}
    (found : after.find (.receipt copy) = some inode) :
    before.find (.receipt copy) = some inode ∧ after.nodes inode = before.nodes inode := by
  have old : before.find (.receipt copy) = some inode := by
    rw [← around.kept.leased rfl]
    exact found
  exact ⟨old, around.kept.nodes (sane.born old) (sane.apart rfl old)⟩

theorem lasting_settled : Lasting original SourceStorage.Settled := by
  intro before after sane around settled
  refine ⟨fun none copy inode record found holds => ?_, fun {inode name} output found => ?_⟩
  · obtain ⟨old, same⟩ := around.receipt sane found
    rw [around.kept.leased rfl] at none
    exact settled.unfinished none old (same ▸ holds)
  · rw [around.kept.leased rfl] at output
    exact settled.single output (around.kept.names rfl output found)

theorem lasting_window : Lasting original Window := by
  rintro before after sane around ⟨inode, named, record, body, found, holds, rest⟩
  refine ⟨inode, named, record, ?_, ?_, ?_, rest⟩
  · exact (around.kept.leased rfl).trans body
  · exact (around.kept.leased rfl).trans found
  · exact (around.kept.nodes (sane.born found) (sane.apart rfl found)).trans holds

theorem lasting_whole : Lasting original fun s => Whole original s inode := by
  intro before after sane around whole
  refine ⟨Nat.lt_of_lt_of_le whole.born around.kept.next, ?_, ?_⟩
  · rw [around.kept.selection]
    exact whole.other
  · exact (around.kept.nodes whole.born whole.other).trans whole.content

end Lasting

section Rules

def With (C : View → Prop) (T : SourceStorage → Prop) (view : View) : Prop :=
  C view ∧ T view.1.world

/-- A process knows `C` and has left nothing linked twice by itself. -/
abbrev Tidied (pid : Nat) (C : View → Prop) : View → Prop :=
  With C fun s => Unbroken.required → Tidy pid s

def Holding (pid : Nat) (P : SourceStorage → Prop) (view : View) : Prop :=
  view.1.Newest pid SourceLock.sourceCapture ∧ P view.1.world

def Free (pid : Nat) (view : View) : Prop :=
  pid < view.1.next ∧ pid ∉ view.1.held SourceLock.sourceCapture

/-- The holder of the lease knows `P`. -/
abbrev Owning (pid : Nat) (P : SourceStorage → Prop) : View → Prop := Tidied pid (Holding pid P)

abbrev Idle (pid : Nat) : View → Prop := Tidied pid (Free pid)

variable {policy : System.Policy sourceSystem} {pid : Nat} {P Q : SourceStorage → Prop}
  {C : View → Prop}

theorem tidied_stable (stable : Stable (discipline original) pid C) :
    Stable (discipline original) pid (Tidied pid C) := by
  intro view now inv holds moved inv'
  exact ⟨stable inv holds.1 moved inv', fun required => moved.2.mine.tidy (holds.2 required)⟩

theorem holding_stable (lasting : Lasting original P) :
    Stable (discipline original) pid (Holding pid P) := by
  intro view now inv holds moved inv'
  obtain ⟨still, around⟩ := moved.2.holder holds.1
  exact ⟨still, lasting inv.2.sane around holds.2⟩

theorem free_stable : Stable (discipline original) pid (Free pid) := by
  intro view now inv holds moved inv'
  exact ⟨Nat.lt_of_lt_of_le holds.1 moved.1.grows.next,
    fun inside => holds.2 (moved.1.joins holds.1 inside)⟩

theorem owning_stable (lasting : Lasting original P) :
    Stable (discipline original) pid (Owning pid P) := tidied_stable (holding_stable lasting)

theorem idle_stable : Stable (discipline original) pid (Idle pid) := tidied_stable free_stable

/-- The requests that must not fail while a completed copy waits for its publication. -/
def Critical : SourceOp → Prop
  | .syncDirectory | .hardLink (.body .slot) .output | .removeFile (.body .slot) => True
  | _ => False

/-- Nothing breaks off a publication between its second link and the removal of the first. -/
structure Uninterrupted (pid : Nat) (op : SourceOp) (choice : SourceChoice) (disk : SourceDisk) :
    Prop where
  window : disk.Newest pid SourceLock.sourceCapture → Window disk.world → Critical op →
    ∀ error, choice ≠ .fail error
  temp : ∀ document serial inode, op = .removeFile (.temp document pid serial) →
    disk.world.find (.temp document pid serial) = some inode →
    disk.world.find (.document document) = some inode → ∀ error, choice ≠ .fail error

/-- Where the log is anchored, a name of it goes only while nobody holds the lease; where
publications must not be broken off, no request and no kill does that. -/
class Careful [Unbroken] (policy : System.Policy sourceSystem) : Prop where
  change : Unbroken.anchored → ∀ name inode disk, policy.change (.vanish name) disk →
    disk.world.find name = some inode → disk.world.selection.inode = some inode →
    disk.held SourceLock.sourceCapture = []
  call : Unbroken.required → ∀ pid op choice disk,
    policy.call pid (.external op) (.outside choice) disk → Uninterrupted pid op choice disk
  kill : Unbroken.required → ∀ pid disk, policy.kill pid disk →
    (disk.Newest pid SourceLock.sourceCapture → ¬ Window disk.world) ∧ Tidy pid disk.world

/-- What a request of the holder does to the storage. -/
structure Acts (original : Bytes) (before after : SourceStorage) : Prop where
  sane : Sane original after
  mine : ∀ pid, Mine pid before after
  survives : Unbroken.anchored → Survives original before → Survives original after
  settled : Unbroken.required → SourceStorage.Settled after ∨ Window after

theorem Inv.acts {disk : SourceDisk} {after : SourceStorage} (inv : Inv original disk)
    (held : disk.held SourceLock.sourceCapture ≠ []) (acts : Acts original disk.world after) :
    Inv original { disk with world := after } where
  sane := acts.sane
  alone := inv.alone
  drawn {document owner serial} present := by
    have same := (acts.mine owner).names document serial
    exact inv.drawn (same ▸ present)
  settled required := (acts.settled required).imp_right fun window => ⟨held, window⟩
  tidy required pid dead := (acts.mine pid).tidy (inv.tidy required pid dead)

theorem ask_spec (policy : System.Policy sourceSystem) [Careful policy]
    {op : SourceOp} {Q : Except IoError op.Result → SourceStorage → Prop}
    (lasting : Lasting original P)
    (acted : ∀ s choice answer after, Sane original s → P s →
      (Unbroken.required → SourceStorage.Settled s ∨ Window s) →
      (Unbroken.required → Window s → Critical op → ∀ error, choice ≠ .fail error) →
      s.act pid op choice = some (answer, after) → Acts original s after ∧ Q answer after) :
    Spec (discipline original) policy pid (Owning pid P) (sourceAsk op)
      fun result => Owning pid (Q result) := by
  refine Lane.external (owning_stable lasting) ?_
  rintro view choice answer world sound inv ⟨⟨newest, holds⟩, tidy⟩ live permitted act
  have held : view.1.held SourceLock.sourceCapture ≠ [] := by
    intro free
    have inside := newest.mem
    rw [free] at inside
    cases inside
  obtain ⟨acts, known⟩ := acted view.1.world choice answer world inv.sane holds
    (fun required => (inv.settled required).imp_right And.right)
    (fun required => (Careful.call required pid op choice view.1 permitted).window newest) act
  exact ⟨(), inv.acts held acts, ⟨fun other _ => acts.mine other, .inl newest, acts.survives⟩,
    ⟨⟨newest, known⟩, fun required => (acts.mine pid).tidy (tidy required)⟩⟩

/-- Requests that leave names and nodes as they are. -/
def Quiet : SourceOp → Prop
  | .create _ | .createAnonymous | .write _ _ | .copy _ _ _ _ | .hardLink _ _ | .linkAnonymous _ _
  | .rename _ _ | .removeFile _ | .stage _ _ => False
  | _ => True

/-- What an answer says about the storage it was given in. -/
def Told (s : SourceStorage) : (op : SourceOp) → Except IoError op.Result → Prop
  | .tryExists name, .ok found => (found = true → s.find name ≠ none) ∧
      (found = false → ∀ inode, s.find name = some inode → s.nodes inode = .symlink)
  | .symlinkMetadata name, .ok found =>
      s.find name = some found.inode ∧ found = s.metadata found.inode
  | .symlinkMetadata name, .error error => error.kind = .notFound → s.find name = none
  | .open_ name, .ok file => s.find name = some file
  | .metadata file, .ok found => found = s.metadata file
  | .read name, .ok node => ∃ inode, s.find name = some inode ∧ s.nodes inode = node
  | .readDir, .ok (names : List SourceName) => ∀ name, s.find name ≠ none → name ∈ names
  | .selection, .ok selection => selection = s.selection
  | _, _ => True

omit [Unbroken] in
theorem told_of_plain {op : SourceOp} {s : SourceStorage} {error : IoError}
    (plain : error.plain = true) : Told s op (.error error) := by
  cases op with
  | symlinkMetadata name =>
      intro absent
      simp [IoError.plain, absent] at plain
  | _ => trivial

omit [Unbroken] in
theorem perform_quiet {op : SourceOp} (quiet : Quiet op) {s after : SourceStorage}
    {choice : SourceChoice} {answer : Except IoError op.Result}
    (performed : s.perform pid op choice = some (answer, after)) :
    after = s ∧ Told s op answer := by
  cases op with
  | tryExists name =>
      simp only [SourceStorage.perform] at performed
      split at performed
      · next absent =>
        obtain ⟨rfl, rfl⟩ := Prod.mk.inj (Option.some.inj performed)
        refine ⟨rfl, nofun, fun _ inode found => ?_⟩
        cases absent.symm.trans found
      · next inode found =>
        split at performed
        · next link =>
          obtain ⟨rfl, rfl⟩ := Prod.mk.inj (Option.some.inj performed)
          refine ⟨rfl, nofun, fun _ other also => ?_⟩
          rw [found] at also
          exact Option.some.inj also ▸ link
        · cases performed
      · next inode found _ =>
        obtain ⟨rfl, rfl⟩ := Prod.mk.inj (Option.some.inj performed)
        refine ⟨rfl, fun _ none => ?_, nofun⟩
        cases none.symm.trans found
  | symlinkMetadata name =>
      simp only [SourceStorage.perform] at performed
      split at performed <;> obtain ⟨rfl, rfl⟩ := Prod.mk.inj (Option.some.inj performed)
      · next absent => exact ⟨rfl, fun _ => absent⟩
      · next inode found => exact ⟨rfl, found, rfl⟩
  | open_ name =>
      simp only [SourceStorage.perform] at performed
      split at performed
      · obtain ⟨rfl, rfl⟩ := Prod.mk.inj (Option.some.inj performed)
        exact ⟨rfl, trivial⟩
      · next inode found =>
        split at performed <;> obtain ⟨rfl, rfl⟩ := Prod.mk.inj (Option.some.inj performed)
        · exact ⟨rfl, trivial⟩
        · exact ⟨rfl, found⟩
  | metadata file =>
      obtain ⟨rfl, rfl⟩ := Prod.mk.inj (Option.some.inj performed)
      exact ⟨rfl, rfl⟩
  | read name =>
      simp only [SourceStorage.perform] at performed
      split at performed
      · obtain ⟨rfl, rfl⟩ := Prod.mk.inj (Option.some.inj performed)
        exact ⟨rfl, trivial⟩
      · next inode found =>
        split at performed <;> obtain ⟨rfl, rfl⟩ := Prod.mk.inj (Option.some.inj performed)
        · exact ⟨rfl, inode, found, rfl⟩
        · exact ⟨rfl, trivial⟩
  | selection =>
      obtain ⟨rfl, rfl⟩ := Prod.mk.inj (Option.some.inj performed)
      exact ⟨rfl, rfl⟩
  | readDir =>
      cases choice <;> simp only [SourceStorage.perform, reduceCtorEq] at performed
      split at performed
      · next same =>
        obtain ⟨rfl, rfl⟩ := Prod.mk.inj (Option.some.inj performed)
        refine ⟨rfl, fun name present => same.mem_iff.mpr ?_⟩
        exact Links.mem_names.mpr (Option.isSome_iff_ne_none.mpr present)
      · cases performed
  | create | createAnonymous | write | copy | hardLink | linkAnonymous | rename | removeFile
  | stage => exact quiet.elim
  | _ =>
      cases choice <;> simp only [SourceStorage.perform, reduceCtorEq] at performed <;>
        obtain ⟨rfl, rfl⟩ := Prod.mk.inj (Option.some.inj performed) <;> exact ⟨rfl, trivial⟩

omit [Unbroken] in
theorem act_cases {op : SourceOp} {s after : SourceStorage} {choice : SourceChoice}
    {answer : Except IoError op.Result} (acted : s.act pid op choice = some (answer, after)) :
    (∃ error, choice = .fail error ∧ error.plain = true ∧ answer = .error error ∧ after = s) ∨
      s.perform pid op choice = some (answer, after) := by
  cases choice with
  | fail error =>
      simp only [act] at acted
      split at acted
      · next plain =>
        obtain ⟨rfl, rfl⟩ := Prod.mk.inj (Option.some.inj acted)
        exact .inl ⟨error, rfl, plain, rfl, rfl⟩
      · cases acted
  | _ => exact .inr acted

omit [Unbroken] in
theorem act_quiet {op : SourceOp} (quiet : Quiet op) {s after : SourceStorage}
    {choice : SourceChoice} {answer : Except IoError op.Result}
    (acted : s.act pid op choice = some (answer, after)) : after = s ∧ Told s op answer := by
  rcases act_cases acted with ⟨error, -, plain, rfl, rfl⟩ | performed
  · exact ⟨rfl, told_of_plain plain⟩
  · exact perform_quiet quiet performed

theorem quiet_spec {F : View → Prop} {op : SourceOp} (quiet : Quiet op)
    (stable : Stable (discipline original) pid F) :
    Spec (discipline original) policy pid F (sourceAsk op)
      fun result view => F view ∧ Told view.1.world op result := by
  refine Lane.external stable ?_
  intro view choice answer world _ inv holds _ _ act
  obtain ⟨same, told⟩ := act_quiet quiet act
  have unchanged : ({ view.1 with world := world } : SourceDisk) = view.1 := by rw [same]
  rw [unchanged]
  exact .idle inv ⟨holds, told⟩

theorem learn_spec {op : SourceOp} (quiet : Quiet op) (lasting : Lasting original P)
    {Q : Except IoError op.Result → SourceStorage → Prop}
    (told : ∀ {s answer}, Sane original s → P s → Told s op answer → Q answer s) :
    Spec (discipline original) policy pid (Owning pid P) (sourceAsk op)
      fun result => Owning pid (Q result) := by
  refine (quiet_spec quiet (owning_stable lasting)).relax ?_
  rintro answer view inv ⟨⟨⟨newest, holds⟩, tidy⟩, learned⟩
  exact ⟨⟨newest, told inv.2.sane holds learned⟩, tidy⟩

theorem quiet_steady {op : SourceOp} (quiet : Quiet op) (lasting : Lasting original P) :
    Steady (discipline original) policy pid (Owning pid P) (sourceAsk op) :=
  learn_spec quiet lasting fun _ holds _ => holds

theorem Owning.imp {view : View} (weaker : ∀ s, P s → Q s) (owning : Owning pid P view) :
    Owning pid Q view :=
  ⟨⟨owning.1.1, weaker _ owning.1.2⟩, owning.2⟩

end Rules

end Continuation

end AgentBash
