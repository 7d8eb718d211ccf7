import AgentBash.Durable.Rules

/-!
# Disciplines made of stakes

What lasts is the same for every process. Beside it a process may have stakes: a lock that it
holds, a right that was handed to it. Everybody else lets a stake stand and leaves alone what it
keeps. A `Concern` names the part of a directory that such a discipline looks at; a script that
only makes requests beside it leaves every assertion about it as it was.
-/

namespace AgentBash.Durable

set_option autoImplicit false

structure Stakes (σ γ : Type) where
  Inv : σ × γ → Prop
  Lasts : σ × γ → σ × γ → Prop
  Stake : Type
  Has : Nat → Stake → σ × γ → Prop
  Keeps : Stake → σ × γ → σ × γ → Prop
  lasts_refl : ∀ view, Lasts view view
  lasts_trans : ∀ {first second third}, Lasts first second → Lasts second third → Lasts first third
  keeps_refl : ∀ stake view, Keeps stake view view
  keeps_trans : ∀ {stake first second third}, Keeps stake first second → Keeps stake second third →
    Keeps stake first third

namespace Stakes

variable {I : Interface} {σ γ : Type} {S : System I σ} (stakes : Stakes σ γ)

/-- The stakes of some processes stand, and what they keep is as it was. -/
def Respects (whose : Nat → Prop) (before after : σ × γ) : Prop :=
  ∀ other, whose other → ∀ stake, stakes.Has other stake before →
    stakes.Has other stake after ∧ stakes.Keeps stake before after

variable {stakes} in
theorem Respects.refl (whose : Nat → Prop) (view : σ × γ) : stakes.Respects whose view view :=
  fun _ _ stake has => ⟨has, stakes.keeps_refl stake view⟩

variable {stakes} in
theorem Respects.trans {whose : Nat → Prop} {first second third : σ × γ}
    (one : stakes.Respects whose first second) (two : stakes.Respects whose second third) :
    stakes.Respects whose first third := by
  intro other among stake has
  obtain ⟨still, kept⟩ := one other among stake has
  obtain ⟨last, kept'⟩ := two other among stake still
  exact ⟨last, stakes.keeps_trans kept kept'⟩

variable {stakes} in
theorem Respects.among {whose fewer : Nat → Prop} {before after : σ × γ}
    (respects : stakes.Respects whose before after) (among : ∀ other, fewer other → whose other) :
    stakes.Respects fewer before after :=
  fun other inside => respects other (among other inside)

/-- What happens between two views as long as the stakes of some processes are respected. -/
structure Moves (whose : Nat → Prop) (before after : σ × γ) : Prop where
  lasts : stakes.Lasts before after
  respects : stakes.Respects whose before after

def discipline (S : System I σ) : Discipline S γ where
  Inv := stakes.Inv
  Rely pid := stakes.Moves (· = pid)
  Guarantee pid := stakes.Moves (· ≠ pid)
  Outer := stakes.Moves fun _ => True
  refl _ view := ⟨stakes.lasts_refl view, .refl _ view⟩
  trans one two := ⟨stakes.lasts_trans one.lasts two.lasts, one.respects.trans two.respects⟩
  honoured _ _ promise different :=
    ⟨promise.lasts, promise.respects.among fun _ same => same ▸ different⟩
  tolerated _ _ outer _ := ⟨outer.lasts, outer.respects.among fun _ _ => trivial⟩

variable {stakes}

theorem Moves.refl (whose : Nat → Prop) (view : σ × γ) : stakes.Moves whose view view :=
  ⟨stakes.lasts_refl view, .refl whose view⟩

theorem Moves.among {whose fewer : Nat → Prop} {before after : σ × γ}
    (moves : stakes.Moves whose before after) (among : ∀ other, fewer other → whose other) :
    stakes.Moves fewer before after :=
  ⟨moves.lasts, moves.respects.among among⟩

/-- What one step of a process owes: the invariant, its promise, and what it is to lead to. -/
def Reaches (stakes : Stakes σ γ) (pid : Nat) (view : σ × γ) (after : σ) (M : σ × γ → Prop) :
    Prop :=
  ∃ ghost, stakes.Inv (after, ghost) ∧ stakes.Moves (· ≠ pid) view (after, ghost) ∧
    M (after, ghost)

theorem Reaches.idle {pid : Nat} {view : σ × γ} {M : σ × γ → Prop} (inv : stakes.Inv view)
    (holds : M view) : stakes.Reaches pid view view.1 M :=
  ⟨view.2, inv, .refl _ view, holds⟩

end Stakes

section Made

variable {L : Layout} {E : Surroundings L} {α β : Type}

/-- Whatever may be said of programs that follow an allowed request is said of the whole script:
it makes no other request, and it forks no child. -/
def Io.Makes (allowed : Request L E → Prop) (script : Io (requests L E) α) : Prop :=
  ∀ K : Program (requests L E) → Prop,
    (∀ op next, allowed op → (∀ answer, K (next answer)) → K (.call op next)) →
    ∀ next, (∀ result, K (next result)) → K (script next)

namespace Io.Makes

variable {allowed : Request L E → Prop} {script : Io (requests L E) α}
  {rest : α → Io (requests L E) β}

theorem pure {value : α} : Makes (E := E) allowed (Pure.pure value) := fun _ _ _ after => after _

theorem throw {error : IoError} : Makes (E := E) allowed (Io.throw (α := α) error) :=
  fun _ _ _ after => after _

theorem ofExcept {result : Except IoError α} : Makes (E := E) allowed (Io.ofExcept result) :=
  fun _ _ _ after => after _

theorem ask {op : Request L E} (among : allowed op) : Makes allowed (Io.ask op) :=
  fun _ closed _ after => closed op _ among after

theorem bind (first : Makes allowed script) (value : ∀ value, Makes allowed (rest value)) :
    Makes allowed (script >>= rest) := by
  intro K closed next after
  apply first K closed
  intro result
  cases result with
  | ok found => exact value found K closed next after
  | error failure => exact after _

theorem attempt (made : Makes allowed script) : Makes allowed script.attempt :=
  fun K closed _ after => made K closed _ fun _ => after _

theorem handle {rest : Except IoError α → Io (requests L E) β} (first : Makes allowed script)
    (each : ∀ result, Makes allowed (rest result)) : Makes allowed (script.attempt >>= rest) :=
  first.attempt.bind each

theorem branch {c : Prop} [Decidable c] {yes no : Io (requests L E) α}
    (left : Makes allowed yes) (right : Makes allowed no) :
    Makes allowed (if c then yes else no) := by
  by_cases holds : c
  · rw [if_pos holds]
    exact left
  · rw [if_neg holds]
    exact right

end Io.Makes

end Made

/-- The files, locks and outside requests that a discipline looks at, and what it sees of the
world. -/
structure Concern (L : Layout) (E : Surroundings L) where
  files : L.File → Prop
  locks : L.Lock → Prop
  asks : E.Op → Prop
  Seen : Type
  seen : E.World → Seen
  unseen : ∀ {pid op choice disk answer world}, ¬ asks op →
    E.act pid op choice disk = some (answer, world) → seen world = seen disk.world

namespace Concern

variable {L : Layout} {E : Surroundings L} {γ : Type} (concern : Concern L E)

/-- Nothing that the concern looks at has changed. -/
structure Same (before after : Disk L E.World) : Prop where
  files : ∀ file, concern.files file → after.files file = before.files file
  held : ∀ name, concern.locks name → after.held name = before.held name
  next : after.next = before.next
  ended : after.ended = before.ended
  gates : after.gates = before.gates
  seen : concern.seen after.world = concern.seen before.world

/-- A request beside the concern. Leaving inherited locks and opening gates are none. -/
def Beside : Request L E → Prop
  | .replace file _ | .create file _ | .remove file => ¬ concern.files file
  | .lock name | .tryLock name | .unlock name => ¬ concern.locks name
  | .keepOnly _ | .openGate _ | .dismiss _ => False
  | .external op => ¬ concern.asks op
  | _ => True

variable {concern} {before after : Disk L E.World} {pid : Nat}

theorem Same.refl (disk : Disk L E.World) : concern.Same disk disk :=
  ⟨fun _ _ => rfl, fun _ _ => rfl, rfl, rfl, rfl, rfl⟩

theorem Same.put {file : L.File} (other : ¬ concern.files file)
    (content : Option (L.Content file)) : concern.Same before (before.put file content) := by
  refine ⟨fun own looked => ?_, fun _ _ => rfl, rfl, rfl, rfl, rfl⟩
  exact Disk.put_other before content fun same => other (same ▸ looked)

theorem Same.acquire {name : L.Lock} (other : ¬ concern.locks name) :
    concern.Same before (before.acquire name pid) := by
  refine ⟨fun _ _ => rfl, fun own looked => ?_, rfl, rfl, rfl, rfl⟩
  exact Disk.acquire_other before pid fun same => other (same ▸ looked)

theorem Same.release {name : L.Lock} (other : ¬ concern.locks name) :
    concern.Same before (before.release name pid) := by
  refine ⟨fun _ _ => rfl, fun own looked => ?_, rfl, rfl, rfl, rfl⟩
  exact Disk.release_other before pid fun same => other (same ▸ looked)

theorem Same.of_perform {op : Request L E} {answer : Except IoError op.Result}
    (beside : concern.Beside op) (performed : op.perform pid before = some (answer, after)) :
    concern.Same before after := by
  cases op with
  | replace file content =>
      obtain ⟨-, rfl⟩ := Prod.mk.inj (Option.some.inj performed)
      exact .put beside _
  | create file content =>
      simp only [Request.perform] at performed
      split at performed <;> obtain ⟨-, rfl⟩ := Prod.mk.inj (Option.some.inj performed)
      · exact .refl _
      · exact .put beside _
  | remove file =>
      simp only [Request.perform] at performed
      split at performed <;> obtain ⟨-, rfl⟩ := Prod.mk.inj (Option.some.inj performed)
      · exact .put beside _
      · exact .refl _
  | lock name =>
      simp only [Request.perform] at performed
      split at performed
      · obtain ⟨-, rfl⟩ := Prod.mk.inj (Option.some.inj performed)
        exact .acquire beside
      · cases performed
  | tryLock name =>
      simp only [Request.perform] at performed
      split at performed <;> obtain ⟨-, rfl⟩ := Prod.mk.inj (Option.some.inj performed)
      · exact .acquire beside
      · exact .refl _
  | unlock name =>
      obtain ⟨-, rfl⟩ := Prod.mk.inj (Option.some.inj performed)
      exact .release beside
  | keepOnly _ => exact beside.elim
  | openGate _ => exact beside.elim
  | dismiss _ => exact beside.elim
  | read file =>
      simp only [Request.perform] at performed
      split at performed <;> obtain ⟨-, rfl⟩ := Prod.mk.inj (Option.some.inj performed) <;>
        exact .refl _
  | wait child =>
      simp only [Request.perform] at performed
      split at performed
      · obtain ⟨-, rfl⟩ := Prod.mk.inj (Option.some.inj performed)
        exact .refl _
      · cases performed
  | enter =>
      simp only [Request.perform] at performed
      split at performed
      · obtain ⟨-, rfl⟩ := Prod.mk.inj (Option.some.inj performed)
        exact .refl _
      · split at performed
        · obtain ⟨-, rfl⟩ := Prod.mk.inj (Option.some.inj performed)
          exact .refl _
        · cases performed
  | self =>
      obtain ⟨-, rfl⟩ := Prod.mk.inj (Option.some.inj performed)
      exact .refl _
  | sync =>
      obtain ⟨-, rfl⟩ := Prod.mk.inj (Option.some.inj performed)
      exact .refl _
  | poll _ =>
      obtain ⟨-, rfl⟩ := Prod.mk.inj (Option.some.inj performed)
      exact .refl _
  | park => cases performed
  | external _ => cases performed

theorem Same.of_act {op : E.Op} {choice : E.Choice} {answer : Except IoError (E.Result op)}
    {world : E.World} (beside : ¬ concern.asks op)
    (acted : E.act pid op choice before = some (answer, world)) :
    concern.Same before { before with world } :=
  ⟨fun _ _ => rfl, fun _ _ => rfl, rfl, rfl, rfl, concern.unseen beside acted⟩

end Concern

/-- Stakes that look at no more than a concern of a directory. -/
structure Watch (L : Layout) (E : Surroundings L) (γ : Type) extends Stakes (Disk L E.World) γ where
  concern : Concern L E
  blind : ∀ {before after : Disk L E.World} {ghost : γ}, concern.Same before after →
    Inv (before, ghost) → Inv (after, ghost)
  quiet : ∀ {before after : Disk L E.World} {ghost : γ}, concern.Same before after →
    toStakes.Moves (fun _ => True) (before, ghost) (after, ghost)

namespace Watch

variable {L : Layout} {E : Surroundings L} {γ α : Type} {watch : Watch L E γ} {Entry : Type}
  {entry : Entry → Program (requests L E)} {policy : System.Policy (system L E entry)} {pid : Nat}
  {P : Disk L E.World × γ → Prop}

abbrev discipline (watch : Watch L E γ) (entry : Entry → Program (requests L E)) :
    Discipline (system L E entry) γ :=
  watch.toStakes.discipline (system L E entry)

/-- An assertion that the others respect and that nothing beside the concern touches. -/
structure Local (watch : Watch L E γ) (entry : Entry → Program (requests L E)) (pid : Nat)
    (P : Disk L E.World × γ → Prop) : Prop where
  stable : Stable (watch.discipline entry) pid P
  same : ∀ {before after : Disk L E.World} {ghost : γ}, watch.concern.Same before after →
    P (before, ghost) → P (after, ghost)

theorem reaches_same {view : Disk L E.World × γ} {after : Disk L E.World}
    {M : Disk L E.World × γ → Prop} (same : watch.concern.Same view.1 after)
    (inv : watch.Inv view) (holds : M (after, view.2)) : watch.Reaches pid view after M :=
  ⟨view.2, watch.blind same inv, (watch.quiet same).among fun _ _ => trivial, holds⟩

/-- A request inside the directory fails without effect where the policy lets it fail, or it is
performed. -/
theorem ask {op : Request L E} {Q : Except IoError op.Result → Disk L E.World × γ → Prop}
    (stable : Stable (watch.discipline entry) pid P) (inside : ∀ external, op ≠ .external external)
    (failed : op.mayFail = true → ∀ error view, error.plain = true →
      policy.call pid op (.fault error) view.1 → watch.Inv view → P view → Q (.error error) view)
    (performed : ∀ view answer after, watch.Inv view → P view → view.1.live pid →
      policy.call pid op .pass view.1 → op.perform pid view.1 = some (answer, after) →
      watch.Reaches pid view after (Q answer)) :
    Spec (watch.discipline entry) policy pid P (Io.ask op) Q := by
  intro next view inv holds rest now moved inv' live choice answer after permitted served
  have held := stable inv holds moved inv'
  rcases Request.serve_cases served with ⟨rfl, effect⟩ | ⟨error, may, plain, rfl, rfl, rfl⟩ |
      ⟨external, _, _, _, same, _⟩
  · obtain ⟨ghost, kept, promise, result⟩ :=
      performed now answer after inv' held live permitted effect
    exact ⟨ghost, kept, promise, rest _ _ kept result⟩
  · exact ⟨now.2, inv', .refl _ _, rest _ now inv' (failed may error now plain permitted inv' held)⟩
  · exact absurd same (inside external)

theorem external {op : E.Op} {Q : Except IoError (E.Result op) → Disk L E.World × γ → Prop}
    (stable : Stable (watch.discipline entry) pid P)
    (acted : ∀ view choice answer world, watch.Inv view → P view → view.1.live pid →
      policy.call pid (.external op) (.outside choice) view.1 →
      E.act pid op choice view.1 = some (answer, world) →
      watch.Reaches pid view { view.1 with world } (Q answer)) :
    Spec (watch.discipline entry) policy pid P (Io.ask (.external op)) Q := by
  intro next view inv holds rest now moved inv' live choice answer after permitted served
  have held := stable inv holds moved inv'
  cases choice with
  | pass => cases served
  | fault error =>
      simp only [system, directory, Request.serve, Request.mayFail,
        Bool.false_and, Bool.false_eq_true, if_false, reduceCtorEq] at served
  | outside choice =>
      obtain ⟨⟨answer', world⟩, acting, same⟩ := Option.map_eq_some_iff.mp served
      obtain ⟨rfl, rfl⟩ := Prod.mk.inj same
      obtain ⟨ghost, kept, promise, result⟩ :=
        acted now choice _ world inv' held live permitted acting
      exact ⟨ghost, kept, promise, rest _ _ kept result⟩

/-- A request beside the concern leaves what was known, and tells what it tells. -/
theorem beside {op : Request L E} {Q : Except IoError op.Result → Disk L E.World × γ → Prop}
    (known : watch.Local entry pid P) (among : watch.concern.Beside op)
    (inside : ∀ external, op ≠ .external external)
    (failed : op.mayFail = true → ∀ error view, error.plain = true →
      policy.call pid op (.fault error) view.1 → watch.Inv view → P view → Q (.error error) view)
    (told : ∀ view answer after, watch.Inv view → P view →
      op.perform pid view.1 = some (answer, after) → P (after, view.2) →
      Q answer (after, view.2)) :
    Spec (watch.discipline entry) policy pid P (Io.ask op) Q := by
  apply ask known.stable inside failed
  intro view answer after inv holds _ _ performed
  have same := Concern.Same.of_perform among performed
  exact reaches_same same inv (told view answer after inv holds performed (known.same same holds))

/-- A whole script of requests beside the concern leaves what was known. -/
theorem steady {script : Io (requests L E) α} (known : watch.Local entry pid P)
    (made : script.Makes watch.concern.Beside) :
    Steady (watch.discipline entry) policy pid P script := by
  intro next view inv holds rest
  refine made (fun program => ∀ view, watch.Inv view → P view →
    Safe (watch.discipline entry) policy program pid view) ?_ next
    (fun result now inv' held => rest result now inv' held) view inv holds
  intro op next among after view inv holds now moved inv' live choice answer next' permitted served
  have held := known.stable inv holds moved inv'
  have same : watch.concern.Same now.1 next' := by
    rcases Request.serve_cases served with ⟨-, performed⟩ | ⟨_, _, _, _, rfl, _⟩ |
        ⟨external, _, _, world, rfl, acted, rfl, _⟩
    · exact .of_perform among performed
    · exact .refl _
    · exact .of_act among acted
  have kept : watch.Inv (next', now.2) := watch.blind same inv'
  exact ⟨now.2, kept, (watch.quiet same).among fun _ _ => trivial,
    after answer _ kept (known.same same held)⟩

end Watch

end AgentBash.Durable
