import AgentBash.Custody.FenceLane

/-!
# What the fence scripts do

One specification for each script that runs under the launch lock. A transition that took effect
leaves a lasting fact: the launch is admitted, it is the launch of one workload, or it is revoked.
-/

namespace AgentBash

set_option autoImplicit false

open Durable

namespace SourceCustody

abbrev View := CustodyDisk × LaunchState

abbrev Known := Fence → LaunchLog → Prop

section Facts

def registered : Known := fun _ log => log.registered = true

def admitted : Known := fun fence _ => fence.state.Admitted

def launchedAs (child : Nat) : Known := fun fence _ => fence.state = .launched child

def revoked : Known := fun fence _ => fence.state = .revoked

def released (child : Nat) : Known := fun _ log => child ∈ log.released

theorem registered_lasting : launching.Lasting registered :=
  ⟨fun _ known => known, fun extends_ known => extends_.registered known⟩

theorem admitted_lasting : launching.Lasting admitted :=
  ⟨fun grows known => LaunchState.Admitted.reaches known grows.state, fun _ known => known⟩

theorem launchedAs_lasting {child : Nat} : launching.Lasting (launchedAs child) := by
  constructor
  · intro before after _ grows known
    have reaches := grows.state
    rw [show before.state = .launched child from known] at reaches
    exact LaunchState.launched_reaches reaches
  · exact fun _ known => known

theorem released_lasting {child : Nat} : launching.Lasting (released child) :=
  ⟨fun _ known => known, fun extends_ known => extends_.released child known⟩

theorem both_lasting {one two : Known} (first : launching.Lasting one)
    (second : launching.Lasting two) :
    launching.Lasting fun fence log => one fence log ∧ two fence log :=
  ⟨fun grows known => ⟨first.grows grows known.1, second.grows grows known.2⟩,
    fun extends_ known => ⟨first.extends_ extends_ known.1, second.extends_ extends_ known.2⟩⟩

end Facts

variable [Codec] {site : Site} {policy : System.Policy (custodySystem site)} {pid : Nat} {α : Type}

abbrev launchDiscipline (site : Site) : Discipline (custodySystem site) LaunchState :=
  launching.discipline (CustodyEntry.program site)

/-- No lock but the launch lock is held, and `known` of what lasts. -/
def Within (pid : Nat) (known : Known) (view : View) : Prop :=
  launching.Clean pid view ∧ launching.Knows known view

abbrev Outside (pid : Nat) (known : Known) : View → Prop := launching.Apart pid (Within pid known)

abbrev Inside (pid : Nat) (known : Known) (fact : Fence → Prop) : View → Prop :=
  launching.Holds pid (launching.Base pid (Within pid known)) fact

theorem within_beside {known : Known} (lasting : launching.Lasting known) :
    launching.Beside (CustodyEntry.program site) pid (Within pid known) :=
  Owned.Clean.beside.knows lasting

omit [Codec] in
theorem Within.imp {known known' : Known} {view : View}
    (implies : ∀ fence log, known fence log → known' fence log) (within : Within pid known view) :
    Within pid known' view :=
  ⟨within.1, implies _ _ within.2⟩

variable {known : Known} {fact : Fence → Prop}

theorem inside_local (lasting : launching.Lasting known) :
    launching.Local (CustodyEntry.program site) pid (Inside pid known fact) :=
  Owned.Holds.local_ (Owned.Base.frame (within_beside lasting))

theorem inside_calm (lasting : launching.Lasting known) :
    Calm launching.lane (CustodyEntry.program site) besideLaunch pid (Inside pid known fact) :=
  unconcerned.bystander (inside_local lasting)

theorem outside_calm (lasting : launching.Lasting known) :
    Calm launching.lane (CustodyEntry.program site) besideLaunch pid (Outside pid known) :=
  unconcerned.bystander (Owned.Apart.frame (within_beside lasting)).local_

theorem underLaunch {body : CustodyScript α} {learned : α → Known}
    (lasting : launching.Lasting known) (lastings : ∀ value, launching.Lasting (learned value))
    (inside : Spec (launchDiscipline site) policy pid (Inside pid known fun _ => True) body
      (byResult (fun value => launching.Base pid (Within pid fun fence log =>
        known fence log ∧ learned value fence log)) fun _ => launching.Base pid (Within pid known))) :
    Spec (launchDiscipline site) policy pid (Outside pid known) (locked .launch body)
      (byResult (fun value => Outside pid fun fence log =>
        known fence log ∧ learned value fence log) fun _ => Outside pid known) := by
  have after : ∀ result : Except IoError α, launching.Beside (CustodyEntry.program site) pid
      (byResult (fun value => Within pid fun fence log => known fence log ∧ learned value fence log)
        (fun _ => Within pid known) result) := by
    intro result
    cases result with
    | ok value => exact within_beside (both_lasting lasting (lastings value))
    | error _ => exact within_beside lasting
  have spec : Spec (launchDiscipline site) policy pid (Outside pid known)
      (Io.locked (E := custodyOutside) CustodyLock.launch body) fun result =>
        launching.Apart pid (byResult (fun value => Within pid fun fence log =>
          known fence log ∧ learned value fence log) (fun _ => Within pid known) result) := by
    apply lockedOwn_rule (within_beside lasting) after (fun _ _ holds => holds)
    · intro result error view holds
      cases result with
      | ok value => exact holds.imp fun _ _ known => known.1
      | error _ => exact holds
    · apply inside.relax
      intro result view _ holds
      cases result with
      | ok value => exact holds
      | error _ => exact holds
  apply spec.relax
  intro result view _ holds
  cases result with
  | ok value => exact holds
  | error _ => exact holds

theorem lockedInside {name : CustodyLock} {body : CustodyScript α} (own : CustodyLock.launch ≠ name)
    (lasting : launching.Lasting known)
    (inside : ∀ P : View → Prop, Calm launching.lane (CustodyEntry.program site) besideLaunch pid P →
      Steady (launchDiscipline site) policy pid P body) :
    Steady (launchDiscipline site) policy pid (Inside pid known fact) (locked name body) := by
  have beside : launching.Beside (CustodyEntry.program site) pid fun view =>
      launching.CleanBut name pid view ∧ launching.Knows known view :=
    Owned.CleanBut.beside.knows lasting
  have within : launching.Beside (CustodyEntry.program site) pid (Within pid known) :=
    within_beside lasting
  have passage : launching.Passage (CustodyEntry.program site) pid name (Inside pid known fact)
      (launching.Holds pid (launching.Base pid fun view =>
        launching.CleanBut name pid view ∧ launching.Knows known view) fact) :=
    (Owned.Base.within own within beside (Owned.Clean.within.knows lasting)).holds own
  exact lockedAside_rule own passage (fun _ => passage) (fun _ _ holds => holds)
    (inside _ (unconcerned.bystander (Owned.Holds.local_ (Owned.Base.frame beside))))

theorem confirmLocal_inside {registration : String} (lasting : launching.Lasting known) :
    Steady (launchDiscipline site) policy pid (Inside pid known fact) (confirmLocal registration) :=
  lockedInside (by decide) lasting fun _ calm =>
    calm.updateLocal (show besideLaunch .continuationLocal from trivial)

section Transitions

theorem readFence_spec {identity : Value} (lasting : launching.Lasting known) :
    Spec (launchDiscipline site) policy pid (Inside pid known fun _ => True) (readFence identity)
      (byResult (fun stands => Inside pid known fun fence => fence.file = some stands)
        fun _ => Inside pid known fun _ => True) := by
  apply Spec.bind (Q := byResult (fun (stands : Value) =>
    Inside pid known fun fence => fence.file = some stands) fun _ => Inside pid known fun _ => True)
  · apply value_spec (inside_local lasting).stable
    · exact fun view stands _ holds there => ⟨holds.1, holds.2.1, there⟩
    · exact fun _ _ _ holds => holds
  · intro stands
    exact Steady.before .ofExcept (fun _ => .pure fun _ _ holds => holds)
      fun _ _ _ holds => holds.stays
  · exact fun _ _ _ holds => holds

theorem mayTransition_spec {fence : Value} (lasting : launching.Lasting known) :
    Spec (launchDiscipline site) policy pid (Inside pid known fact) (mayTransition fence)
      (byResult (fun may view => (may = true → fence.get "phase" = .string Phase.unreleased.text) ∧
        Inside pid known fact view) fun _ => Inside pid known fact) := by
  have calm : Calm launching.lane (CustodyEntry.program site) besideLaunch pid
      (Inside pid known fact) := inside_calm lasting
  apply Steady.before readIdentity_steady _ fun _ _ _ holds => holds
  intro worker
  apply Steady.before (calm.ask .identity trivial) _ fun _ _ _ holds => holds
  intro (self : CallerChainEntry)
  exact .pure fun _ _ holds => ⟨fun may => (of_decide_eq_true may).2, holds⟩

omit [Codec] in
theorem shown_of_named {fence : Fence} {stands : Value} {phase : Phase}
    (valid : Shows fence.identityOf fence.file fence.state) (file : fence.file = some stands)
    (named : stands.get "phase" = .string phase.text) :
    fence.state.phase? = some phase ∧ InPhase stands phase := by
  unfold Shows at valid
  split at valid
  · rw [file] at valid
    cases valid
  · next shown isShown =>
    obtain ⟨found, same, inPhase, -⟩ := valid
    rw [file] at same
    cases same
    have equal := inPhase.unique named
    rw [isShown, equal]
    exact ⟨rfl, equal ▸ inPhase⟩

omit [Codec] in
theorem notes_fence {fence : Value} {state : LaunchState} (view : View) :
    launching.notes (view.1.write (L := custodyLayout) SourceFile.fence fence, state) =
      launching.notes view := by
  change launchLog _ _ = launchLog _ _
  simp only [launchLog, Disk.write]
  rw [view.1.put_other _ (by decide), view.1.put_other _ (by decide)]
  rfl

/-- A transition of the fence that was read: what it leads to once it took effect, whatever becomes
of the sync after it. -/
theorem transition_spec {fence : Value} (phase next : Phase) (target : LaunchState)
    (lasting : launching.Lasting known) (follows : next.revision = phase.revision + 1)
    (shows_ : target.phase? = some next)
    (leads : ∀ value : Fence, Shows value.identityOf value.file value.state → fact value →
      InPhase fence phase ∧ Decides value.state target ∧ ∀ child, target = .launched child →
        fence.get "workload_identity" = (value.identityOf child).value) :
    Spec (launchDiscipline site) policy pid (Inside pid known fact) (transition fence next)
      (byResult (fun _ => Inside pid known fun value => value.state = target)
        fun _ => Inside pid known fun _ => True) := by
  have replaces : Spec (launchDiscipline site) policy pid (Inside pid known fact)
      (replaceFile .fence (advanced fence phase.revision next))
      (byResult (fun _ => Inside pid known fun value => value.state = target)
        fun _ => Inside pid known fun _ => True) := by
    refine Lane.replace (inside_local lasting).stable ?_ fun _ _ _ _ holds => holds.stays
    intro view sound inv holds _ _
    obtain ⟨inPhase, decides, names⟩ := leads _ inv.valid holds.2.2
    have moved : launching.Moved pid view
      (view.1.write (L := custodyLayout) SourceFile.fence (advanced fence phase.revision next),
        target) := ⟨holds.1, ⟨decides, rfl⟩, notes_fence view⟩
    refine Owned.keeps_moved inv rfl moved ?_ ⟨holds.1, ?_, rfl⟩
    · change Shows _ _ target
      rw [Shows, shows_]
      have there : (view.1.write (L := custodyLayout) SourceFile.fence
          (advanced fence phase.revision next)).files SourceFile.fence =
            some (advanced fence phase.revision next) := Disk.put_same _ _ _
      refine ⟨_, there, inPhase.advanced follows, fun child same => ?_⟩
      rw [workload_advanced inPhase.object]
      exact names child same
    · have frame : launching.Frame (CustodyEntry.program site) pid
          (launching.Base pid (Within pid known)) := Owned.Base.frame (within_beside lasting)
      exact frame.same rfl rfl (moved.passed trivial) holds.2.1
  have saves : Spec (launchDiscipline site) policy pid (Inside pid known fact)
      (save .fence (advanced fence phase.revision next))
      (byResult (fun _ => Inside pid known fun value => value.state = target)
        fun _ => Inside pid known fun _ => True) := by
    have calm : Calm launching.lane (CustodyEntry.program site) besideLaunch pid
        (Inside pid known fun value => value.state = target) := inside_calm lasting
    apply Spec.bind replaces
    · intro _
      exact calm.sync.relax fun result _ _ holds => by
        cases result with
        | ok _ => exact holds
        | error _ => exact holds.stays
    · exact fun _ _ _ holds => holds
  apply Spec.bind required_spec
  · intro revision
    -- the revision that was read is the one of the phase
    have continues (same : revision = phase.revision) : Spec (launchDiscipline site) policy pid
        (Inside pid known fact)
        (if revision + 1 < 2 ^ 64 then save .fence (advanced fence revision next)
          else fail "launch revision overflow")
        (byResult (fun _ => Inside pid known fun value => value.state = target)
          fun _ => Inside pid known fun _ => True) := by
      rw [same]
      apply Spec.branch
      · exact fun _ => saves
      · exact fun _ => .throw fun _ _ holds => holds.stays
    apply (Spec.assume continues).strengthen
    intro view inv holds
    refine ⟨?_, holds.2⟩
    have counted := (leads _ inv.2.valid holds.2.2.2).1.counted
    have read := number_of_asU64 holds.1
    rw [counted] at read
    exact_mod_cast (Value.number.inj read).symm
  · exact fun _ _ _ holds => holds.stays

theorem spendFence_spec {identity reply : Value} (lasting : launching.Lasting known) :
    Spec (launchDiscipline site) policy pid (Inside pid known fun _ => True)
      (spendFence identity reply)
      (byResult (fun _ => Inside pid known fun value => value.state.Admitted)
        fun _ => Inside pid known fun _ => True) := by
  apply Spec.bind (readFence_spec lasting)
  · intro fence
    apply Spec.bind (mayTransition_spec lasting)
    · intro may
      apply Spec.assume
      intro unreleased
      apply Spec.branch
      · intro spendable
        have named := unreleased spendable
        have calm : Calm launching.lane (CustodyEntry.program site) besideLaunch pid
            (Inside pid known fun value => value.file = some fence) := inside_calm lasting
        have free : besideLaunch .registrationReceipt := trivial
        apply Steady.before (calm.immutable free) _ fun _ _ _ holds => holds.stays
        intro _
        apply Spec.bind (transition_spec .unreleased .mayLaunch .mayLaunch lasting rfl rfl _)
        · intro _
          apply (confirmLocal_inside lasting).relax
          intro result view _ holds
          cases result with
          | ok _ => exact holds.imp fun value same => by rw [same]; exact trivial
          | error _ => exact holds.stays
        · exact fun _ _ _ holds => holds
        · intro value valid file
          obtain ⟨state, inPhase⟩ := shown_of_named valid file named
          refine ⟨inPhase, ?_, nofun⟩
          cases which : value.state <;> rw [which] at state <;> cases state
          exact .confirm
      · exact fun _ => .throw fun _ _ holds => holds.stays
    · exact fun _ _ _ holds => holds.stays
  · exact fun _ _ _ holds => holds

theorem revoke_spec {fence : Value} (lasting : launching.Lasting known)
    (named : fence.get "phase" = .string Phase.unreleased.text) :
    Spec (launchDiscipline site) policy pid (Inside pid known fun value => value.file = some fence)
      (transition fence .revokedNeverLaunched) fun _ => Inside pid known fun _ => True := by
  apply Spec.relax (transition_spec .unreleased .revokedNeverLaunched .revoked lasting rfl rfl _)
  · intro result view _ holds
    cases result with
    | ok _ => exact holds.stays
    | error _ => exact holds
  · intro value valid file
    obtain ⟨state, inPhase⟩ := shown_of_named valid file named
    refine ⟨inPhase, ?_, nofun⟩
    cases which : value.state <;> rw [which] at state <;> cases state
    exact .revoke

theorem revokeOwn_spec (lasting : launching.Lasting known) :
    Steady (launchDiscipline site) policy pid (Inside pid known fun _ => True) (revokeOwn site) := by
  have calm : Calm launching.lane (CustodyEntry.program site) besideLaunch pid
      (Inside pid known fun _ => True) := inside_calm lasting
  apply Steady.bind calm.binding_steady
  intro bound
  apply Spec.bind (readFence_spec lasting)
  · intro fence
    apply Spec.bind (mayTransition_spec lasting)
    · intro may
      apply Spec.assume
      intro unreleased
      apply Spec.branch
      · exact fun revocable => revoke_spec lasting (unreleased revocable)
      · exact fun _ => .pure fun _ _ holds => holds.stays
    · exact fun _ _ _ holds => holds.stays
  · exact fun _ _ _ holds => holds

theorem revokeGone_spec {fence : Value} (lasting : launching.Lasting known) :
    Spec (launchDiscipline site) policy pid (Inside pid known fun value => value.file = some fence)
      (revokeGone fence) fun _ => Inside pid known fun _ => True := by
  have calm : Calm launching.lane (CustodyEntry.program site) besideLaunch pid
      (Inside pid known fun value => value.file = some fence) := inside_calm lasting
  apply Spec.branch
  · intro named
    apply Steady.before readIdentity_steady _ fun _ _ _ holds => holds.stays
    intro worker
    apply Steady.before (calm.ask (.processIdentityEvidence worker) trivial) _
      fun _ _ _ holds => holds.stays
    intro (evidence : ProcessIdentityEvidence)
    apply Spec.branch
    · exact fun _ => Spec.bind (revoke_spec lasting named)
        (fun _ => .pure fun _ _ holds => holds) fun _ _ _ holds => holds
    · exact fun _ => .pure fun _ _ holds => holds.stays
  · exact fun _ => .pure fun _ _ holds => holds.stays

theorem childIdentity_spec {child : Nat} (lasting : launching.Lasting known) :
    Spec (launchDiscipline site) policy pid (Inside pid known fact) (ask (.childIdentity child))
      (byResult (fun (workload : CallerChainEntry) =>
        Inside pid known fun value => fact value ∧ workload = value.identityOf child)
        fun _ => Inside pid known fun _ => True) := by
  refine Lane.external (inside_local lasting).stable ?_
  intro view choice answer world _ inv holds _ _ acted
  rcases CustodyOp.act_cases acted with ⟨_, rfl, rfl⟩ | performed
  · exact Owned.keeps_quiet inv rfl (.of_disk rfl rfl) ⟨holds.1, holds.2.1, trivial⟩
  · cases choice with
    | agree =>
        obtain ⟨rfl, rfl⟩ := Prod.mk.inj (Option.some.inj performed)
        exact Owned.keeps_quiet inv rfl (.of_disk rfl rfl) ⟨holds.1, holds.2.1, holds.2.2, rfl⟩
    | _ => cases performed

theorem recordLaunch_spec {child : Nat} (lasting : launching.Lasting known) :
    Spec (launchDiscipline site) policy pid (Inside pid known fun _ => True)
      (recordLaunch site child)
      (byResult (fun _ => Inside pid known fun value => value.state = .launched child)
        fun _ => Inside pid known fun _ => True) := by
  have calm : Calm launching.lane (CustodyEntry.program site) besideLaunch pid
      (Inside pid known fun _ => True) := inside_calm lasting
  apply Steady.before calm.binding_steady _ fun _ _ _ holds => holds
  intro bound
  apply Spec.bind (readFence_spec lasting)
  · intro fence
    apply Spec.branch
    · intro named
      apply Spec.bind (Q := byResult (fun (workload : CallerChainEntry) =>
        Inside pid known fun value => value.file = some fence ∧ workload = value.identityOf child)
        fun _ => Inside pid known fun _ => True)
      · exact childIdentity_spec lasting
      · intro workload
        apply Spec.bind (transition_spec .mayLaunch .launched (.launched child) lasting
          rfl rfl _)
        · exact fun _ => .pure fun _ _ holds => holds
        · exact fun _ _ _ holds => holds
        · intro value valid known
          obtain ⟨state, inPhase⟩ := shown_of_named valid known.1 named
          refine ⟨⟨Value.isObject_set inPhase.object, ?_, ?_⟩, ?_, ?_⟩
          · rw [get_set inPhase.object, if_neg (by decide)]
            exact inPhase.named
          · rw [get_set inPhase.object, if_neg (by decide)]
            exact inPhase.counted
          · cases which : value.state <;> rw [which] at state <;> cases state
            exact .launch child
          · intro other same
            cases same
            rw [get_set inPhase.object, if_pos rfl, known.2]
      · exact fun _ _ _ holds => holds
    · exact fun _ => .throw fun _ _ holds => holds.stays
  · exact fun _ _ _ holds => holds

end Transitions

end SourceCustody

end AgentBash
