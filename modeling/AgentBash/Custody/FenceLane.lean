import AgentBash.Custody.Rules
import Mathlib.Logic.Relation

/-!
# The launch of a source

A source is launched once or never. The launch lock owns the fence; beside it stand the selected
event, the released and the executed workloads, which anybody may add to within what the fence has
come to.
-/

namespace AgentBash

set_option autoImplicit false

open Durable

namespace SourceCustody

/-- What a fence stands for; a launched one names the workload. -/
inductive LaunchState
  | unprepared | unreleased | mayLaunch | launched (child : Nat) | revoked
  deriving DecidableEq, Repr

/-- What may become of a launch. -/
inductive Decides : LaunchState → LaunchState → Prop
  | prepare : Decides .unprepared .unreleased
  | confirm : Decides .unreleased .mayLaunch
  | revoke : Decides .unreleased .revoked
  | launch (child : Nat) : Decides .mayLaunch (.launched child)

abbrev Reaches : LaunchState → LaunchState → Prop := Relation.ReflTransGen Decides

namespace LaunchState

def phase? : LaunchState → Option Phase
  | .unprepared => none
  | .unreleased => some .unreleased
  | .mayLaunch => some .mayLaunch
  | .launched _ => some .launched
  | .revoked => some .revokedNeverLaunched

/-- The launch was confirmed, so that it is not revoked any more. -/
def Admitted : LaunchState → Prop
  | .mayLaunch | .launched _ => True
  | _ => False

theorem admitted_decides {before after : LaunchState} (decides : Decides before after)
    (admitted : before.Admitted) : after.Admitted := by
  cases decides with
  | launch child => exact trivial
  | prepare => cases admitted
  | confirm => cases admitted
  | revoke => cases admitted

theorem Admitted.reaches {before after : LaunchState} (admitted : before.Admitted)
    (reaches : Reaches before after) : after.Admitted := by
  induction reaches with
  | refl => exact admitted
  | tail _ decides ih => exact admitted_decides decides ih

theorem launched_reaches {child : Nat} {after : LaunchState}
    (reaches : Reaches (.launched child) after) : after = .launched child := by
  induction reaches with
  | refl => rfl
  | tail _ decides ih =>
      subst ih
      cases decides

theorem revoked_reaches {after : LaunchState} (reaches : Reaches .revoked after) :
    after = .revoked := by
  induction reaches with
  | refl => rfl
  | tail _ decides ih =>
      subst ih
      cases decides

end LaunchState

/-- How often a fence was advanced until it came to a phase. -/
def Phase.revision : Phase → Nat
  | .unreleased => 0
  | .mayLaunch | .revokedNeverLaunched => 1
  | .launched => 2

theorem Phase.text_inj {one two : Phase} (same : one.text = two.text) : one = two := by
  cases one <;> cases two <;> first | rfl | (revert same; decide)

/-- A fence in a phase, with the revision that belongs to it. -/
structure InPhase (fence : Value) (phase : Phase) : Prop where
  object : fence.isObject = true
  named : fence.get "phase" = .string phase.text
  counted : fence.get "revision" = .number phase.revision

theorem InPhase.unique {fence : Value} {one two : Phase} (first : InPhase fence one)
    (named : fence.get "phase" = .string two.text) : one = two := by
  have same := first.named.symm.trans named
  exact Phase.text_inj (Value.string.inj same)

theorem get_set {object assigned : Value} {key wanted : String} (shape : object.isObject = true) :
    (object.set key assigned).get wanted = if key = wanted then assigned else object.get wanted := by
  rw [Value.get_eq_field?, Value.field?_set shape]
  split
  · rfl
  · exact Value.get_eq_field?.symm

theorem InPhase.advanced {fence : Value} {phase next : Phase} (stands : InPhase fence phase)
    (follows : next.revision = phase.revision + 1) :
    InPhase (advanced fence phase.revision next) next := by
  have shape : (fence.set "revision" (.number (phase.revision + 1 : Nat))).isObject = true :=
    Value.isObject_set stands.object
  refine ⟨Value.isObject_set shape, ?_, ?_⟩
  · rw [SourceCustody.advanced, get_set shape, if_pos rfl]
  · rw [SourceCustody.advanced, get_set shape, if_neg (by decide), get_set stands.object,
      if_pos rfl, follows]

theorem workload_advanced {fence : Value} {revision : Nat} {phase : Phase}
    (object : fence.isObject = true) :
    (SourceCustody.advanced fence revision phase).get "workload_identity" =
      fence.get "workload_identity" := by
  rw [SourceCustody.advanced, get_set (Value.isObject_set object), if_neg (by decide),
    get_set object, if_neg (by decide)]

/-- The fence on the disk shows the state of the launch; where it is launched it names the
incarnation of the workload. -/
def Shows (identityOf : Nat → CallerChainEntry) (fence : Option Value) (state : LaunchState) : Prop :=
  match state.phase? with
  | none => fence = none
  | some phase => ∃ stands, fence = some stands ∧ InPhase stands phase ∧
      ∀ child, state = .launched child →
        stands.get "workload_identity" = (identityOf child).value

/-- The fence with the state it stands for, which a proof carries along. -/
structure Fence where
  file : Option Value
  identityOf : Nat → CallerChainEntry
  state : LaunchState

/-- What stands beside the fence. -/
structure LaunchLog where
  registered : Bool
  selection : Option Value
  released : List Nat
  executed : List Nat

/-- A selected event is one of a launch, or of a source that never was. -/
def Truthful (state : LaunchState) (selection : Value) : Prop :=
  if Tells .neverLaunched (selection.get "observation") then state = .revoked else state.Admitted

theorem Truthful.reaches {before after : LaunchState} {selection : Value}
    (truthful : Truthful before selection) (reaches : Reaches before after) :
    Truthful after selection := by
  unfold Truthful at truthful ⊢
  split
  · next never =>
    rw [if_pos never] at truthful
    subst truthful
    exact LaunchState.revoked_reaches reaches
  · next live =>
    rw [if_neg live] at truthful
    exact truthful.reaches reaches

/-- What may be added beside the fence. -/
inductive LaunchLog.Adds (fence : Fence) : LaunchLog → LaunchLog → Prop
  | register (log : LaunchLog) : LaunchLog.Adds fence log { log with registered := true }
  | select {log : LaunchLog} {selection : Value} (first : log.selection = none)
      (truthful : Truthful fence.state selection) :
      LaunchLog.Adds fence log { log with selection := some selection }
  | release (log : LaunchLog) (child : Nat) (launched : fence.state = .launched child) :
      LaunchLog.Adds fence log { log with released := child :: log.released }
  | execute (log : LaunchLog) (child : Nat) (released : child ∈ log.released) :
      LaunchLog.Adds fence log { log with executed := child :: log.executed }

/-- Nothing that was recorded is taken back. -/
structure LaunchLog.Extends (before after : LaunchLog) : Prop where
  registered : before.registered = true → after.registered = true
  selection : ∀ selection, before.selection = some selection → after.selection = some selection
  released : ∀ child ∈ before.released, child ∈ after.released
  executed : ∀ child ∈ before.executed, child ∈ after.executed

/-- Everything beside the fence is what the fence has come to. -/
structure Borne (fence : Fence) (log : LaunchLog) : Prop where
  selection : ∀ selection, log.selection = some selection → Truthful fence.state selection
  released : ∀ child ∈ log.released, fence.state = .launched child
  executed : ∀ child ∈ log.executed, child ∈ log.released

theorem LaunchLog.Adds.extends_ {fence : Fence} {before after : LaunchLog}
    (records : LaunchLog.Adds fence before after) : before.Extends after := by
  cases records with
  | register => exact ⟨fun _ => rfl, fun _ same => same, fun _ same => same, fun _ same => same⟩
  | select first truthful =>
      refine ⟨fun same => same, fun selection same => ?_, fun _ same => same, fun _ same => same⟩
      rw [first] at same
      cases same
  | release child launched =>
      exact ⟨fun same => same, fun _ same => same, fun _ same => List.mem_cons_of_mem _ same,
        fun _ same => same⟩
  | execute child released =>
      exact ⟨fun same => same, fun _ same => same, fun _ same => same,
        fun _ same => List.mem_cons_of_mem _ same⟩

theorem Borne.records {fence : Fence} {before after : LaunchLog} (borne : Borne fence before)
    (records : LaunchLog.Adds fence before after) : Borne fence after := by
  cases records with
  | register => exact ⟨borne.selection, borne.released, borne.executed⟩
  | select first truthful =>
      refine ⟨fun selection same => ?_, borne.released, borne.executed⟩
      rw [← Option.some.inj same]
      exact truthful
  | release child launched =>
      refine ⟨borne.selection, fun other inside => ?_, fun other inside =>
        List.mem_cons_of_mem _ (borne.executed other inside)⟩
      rcases List.mem_cons.mp inside with same | before
      · rw [same]
        exact launched
      · exact borne.released other before
  | execute child released =>
      refine ⟨borne.selection, borne.released, fun other inside => ?_⟩
      rcases List.mem_cons.mp inside with same | before
      · rw [same]
        exact released
      · exact borne.executed other before

/-- The launch goes on while the incarnations stay what they are. -/
structure Fence.Grows (before after : Fence) : Prop where
  state : Reaches before.state after.state
  identities : after.identityOf = before.identityOf

theorem Borne.grows {before after : Fence} {log : LaunchLog} (borne : Borne before log)
    (grows : before.Grows after) : Borne after log := by
  refine ⟨fun selection same => (borne.selection selection same).reaches grows.state,
    fun child inside => ?_, borne.executed⟩
  have reaches := grows.state
  rw [borne.released child inside] at reaches
  exact LaunchState.launched_reaches reaches

def fenceOf (files : (file : SourceFile) → Option file.Content) (world : CustodyWorld)
    (state : LaunchState) : Fence where
  file := files .fence
  identityOf := world.identityOf
  state := state

def launchLog (files : (file : SourceFile) → Option file.Content) (world : CustodyWorld) :
    LaunchLog where
  registered := (files .registration).isSome
  selection := files .selection
  released := world.released
  executed := world.executed

def launching : Owned custodyLayout custodyOutside LaunchState where
  name := CustodyLock.launch
  Resource := Fence
  resource := fenceOf
  Log := LaunchLog
  log := launchLog
  Valid _ fence := Shows fence.identityOf fence.file fence.state
  Moves _ before after :=
    Decides before.state after.state ∧ after.identityOf = before.identityOf
  Drops _ _ := False
  growth :=
    { Grows := Fence.Grows
      Extends := LaunchLog.Extends
      Adds := LaunchLog.Adds
      Backed := Borne
      grows_refl := fun _ => ⟨.refl, rfl⟩
      grows_trans := fun one two =>
        ⟨one.state.trans two.state, two.identities.trans one.identities⟩
      extends_refl := fun _ => ⟨id, fun _ => id, fun _ => id, fun _ => id⟩
      extends_trans := fun one two => ⟨two.registered ∘ one.registered,
        fun selection same => two.selection selection (one.selection selection same),
        fun child inside => two.released child (one.released child inside),
        fun child inside => two.executed child (one.executed child inside)⟩
      moves := fun moves => ⟨.single moves.1, moves.2⟩
      drops := False.elim
      adds := LaunchLog.Adds.extends_
      backed := fun grows borne => borne.grows grows
      added := fun borne records => borne.records records }
  Depth count := count ≤ 1
  shallow := @shallow_alone
  one := alone_one
  taken valid := valid
  left {_ _ state} valid := ⟨state, valid, .inl rfl⟩

/-- Neither the fence nor what stands beside it. -/
def besideLaunch : SourceFile → Prop
  | .registration | .fence | .selection => False
  | _ => True

theorem launching_act {caller : Nat} {op : CustodyOp} {choice : CustodyChoice} {disk : CustodyDisk}
    {answer : Except IoError op.Result} {world : CustodyWorld} (quiet : op.quiet)
    (acted : op.act caller choice disk = some (answer, world)) :
    world.identityOf = disk.world.identityOf ∧ world.released = disk.world.released ∧
      world.executed = disk.world.executed := by
  rcases CustodyOp.act_cases acted with ⟨_, -, rfl⟩ | performed
  · exact ⟨rfl, rfl, rfl⟩
  · unfold CustodyOp.perform at performed
    split at performed
    all_goals first
      | exact absurd quiet id
      | (obtain ⟨-, rfl⟩ := Prod.mk.inj (Option.some.inj performed)
         exact ⟨rfl, rfl, rfl⟩)
      | (obtain ⟨_, -, same⟩ := Option.map_eq_some_iff.mp performed
         obtain ⟨-, rfl⟩ := Prod.mk.inj same
         exact ⟨rfl, rfl, rfl⟩)
      | cases performed

theorem unconcerned : Unconcerned launching besideLaunch CustodyOp.quiet where
  writes {file} content view free := by
    have same {other : SourceFile} (different : other ≠ file) :
        (view.1.put (L := custodyLayout) file content).files other = view.1.files other :=
      view.1.put_other content different
    have apart {other : SourceFile} (concerned : ¬ besideLaunch other) : other ≠ file :=
      fun equal => concerned (equal ▸ free)
    constructor
    · change fenceOf _ _ _ = fenceOf _ _ _
      simp only [fenceOf]
      rw [same (apart id)]
      rfl
    · change launchLog _ _ = launchLog _ _
      simp only [launchLog]
      rw [same (apart id), same (apart id)]
      rfl
  asks {_ op _ _ world} view quiet acted := by
    obtain ⟨identities, released, executed⟩ := launching_act quiet acted
    constructor
    · change fenceOf _ _ _ = fenceOf _ _ _
      simp only [fenceOf, identities]
    · change launchLog _ _ = launchLog _ _
      simp only [launchLog, released, executed]

end SourceCustody

end AgentBash
