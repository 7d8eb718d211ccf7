import AgentBash.Delivery.HelperPinning
import AgentBash.Retention.Evidence

/-!
# Runs of launchers

Any number of launches with any helpers, in every interleaving, killed anywhere, while directories of
recorded handles disappear.
-/

namespace AgentBash

set_option autoImplicit false

open Durable HelperStorage

namespace HelperCache

variable [Codec] {policy : System.Policy helperSystem} {pid : Nat} {handle : Handle}

section Launches

def Unused (pid : Nat) (s : HelperStorage) : Prop := ∀ handle, s.drawn handle ≠ some pid

theorem draw_spec : Spec discipline policy pid (Free pid (Unused pid)) (ask (.createHandle handle))
    (Answers (Free pid fun _ => True) fun _ => Free pid (Base pid handle)) := by
  refine Spec.relax (Q := fun result => Free pid fun s =>
    result = .ok () → Base pid handle s) ?_ fun result view _ held =>
      ⟨⟨held.1, trivial⟩, fun _ same => ⟨held.1, held.2 same⟩⟩
  refine free_spec lone_none ?_
  intro s choice answer after sane unused act
  rcases act_cases act id with ⟨error, rfl, rfl⟩ | performed
  · exact ⟨⟨.refl sane, .refl _⟩, fun same => by cases same⟩
  · simp only [HelperStorage.perform] at performed
    split at performed <;> obtain ⟨rfl, rfl⟩ := Prod.mk.inj (Option.some.inj performed)
    · exact ⟨⟨.refl sane, .refl _⟩, fun same => by cases same⟩
    · next absent =>
      obtain ⟨acts, base⟩ := acts_draw sane absent unused
      exact ⟨⟨acts, fun _ => rfl, rfl, rfl, fun found => found⟩, fun _ => base⟩

theorem record_spec {binding : HelperBinding} :
    Spec discipline policy pid
      (Free pid fun s => Mine pid handle s ∧ s.Pinned handle binding)
      (ask (.record handle binding)) fun _ => Free pid fun _ => True := by
  have lone : Lone pid fun s => Mine pid handle s ∧ s.Pinned handle binding :=
    fun beside held => ⟨held.1.beside beside, held.2.1.beside held.1 beside rfl,
      fun interpreter bound => (held.2.2 interpreter bound).beside held.1 beside rfl⟩
  refine free_spec lone ?_
  rintro s choice answer after sane ⟨mine, pinned⟩ act
  rcases act_cases act id with ⟨error, rfl, rfl⟩ | performed
  · exact ⟨⟨.refl sane, .refl _⟩, trivial⟩
  · simp only [HelperStorage.perform] at performed
    obtain ⟨rfl, rfl⟩ := Prod.mk.inj (Option.some.inj performed)
    exact ⟨⟨acts_record sane mine pinned, fun _ => rfl, rfl, rfl, fun found => found⟩, trivial⟩

theorem removeOwn_steady {name : HelperName} (inside : name.directory = some handle) :
    Steady discipline policy pid (Free pid (Mine pid handle)) (ask (.removeFile name)) := by
  refine free_spec lone_mine ?_
  intro s choice answer after sane mine act
  have present : name.directory ≠ none := by
    rw [inside]
    exact Option.some_ne_none _
  rcases act_cases act id with ⟨error, rfl, rfl⟩ | performed
  · exact ⟨⟨.refl sane, .refl _⟩, mine⟩
  · simp only [HelperStorage.perform] at performed
    split at performed <;> obtain ⟨rfl, rfl⟩ := Prod.mk.inj (Option.some.inj performed)
    · exact ⟨⟨.refl sane, .refl _⟩, mine⟩
    · obtain ⟨acts, mine'⟩ := acts_remove sane mine (owner_of_directory inside)
      exact ⟨⟨acts, around_unlink present⟩, mine'⟩

theorem removeAll_steady {names : List HelperName}
    (inside : ∀ name ∈ names, name.directory = some handle) :
    Steady discipline policy pid (Free pid (Mine pid handle)) (removeAll names) := by
  induction names with
  | nil => exact Steady.pure
  | cons name rest ih =>
      have own := inside name List.mem_cons_self
      refine Steady.bind (Steady.attempt (removeOwn_steady own)) fun _ => ?_
      exact ih fun other also => inside other (List.mem_cons_of_mem name also)

theorem giveUp_steady {binding : Type} (error : IoError) :
    Steady discipline policy pid (Free pid (Mine pid handle)) (giveUp handle error : HelperScript binding) := by
  refine Spec.handle (quiet_spec (.readHandle handle) trivial (free_stable lone_mine))
    fun (result : Except IoError (List HelperName)) => ?_
  cases result with
  | error _ => exact Spec.throw fun _ _ held => held.1
  | ok names =>
      refine Spec.strengthen (P := fun view => (∀ name ∈ names, name.directory = some handle) ∧
        Free pid (Mine pid handle) view) ?_ fun _ _ held => ⟨held.2, held.1⟩
      refine Spec.assume fun inside => ?_
      exact Steady.bind (removeAll_steady inside) fun _ => Steady.throw

theorem launch_spec (launch : Launch) : Spec discipline policy pid (Free pid (Unused pid))
    launch.script fun _ => Free pid fun _ => True := by
  refine Spec.bind draw_spec (fun _ => ?_) fun _ _ _ held => held.1
  refine Spec.strengthen (P := Free pid (Base pid launch.handle)) ?_ fun _ _ held => held.2 _ rfl
  refine Spec.handle pinToHandle_spec fun result => ?_
  cases result with
  | ok binding => exact record_spec.strengthen fun _ _ held => held.2 _ rfl
  | error error =>
      refine (giveUp_steady error).weaken (fun _ _ held => ⟨held.1.1, held.1.2.toMine⟩)
        fun _ _ _ held => ⟨held.1, trivial⟩

end Launches

section Closed

theorem edges {view : View} (inv : Inv view.1) (name : HelperLock) : AtEdge pid (view.1.held name) := by
  cases name
  exact .of_length (Nat.le_succ_of_le inv.alone)

theorem finish_keeps {view : View} (inv : Inv view.1) (status : Option Nat) :
    lane.Keeps pid view (view.1.finish pid status) fun _ => True := by
  refine ⟨(), ⟨inv.sane, ?_, inv.drawn⟩, ⟨.refl _ _, .of_eq rfl, .of_find fun found => found,
    .inr (.refl _)⟩, trivial⟩
  exact (List.length_erase_le).trans inv.alone

theorem launch_safe (launch : Launch) {view : View} (inv : discipline.Inv view)
    (unused : Free pid (Unused pid) view) : Safe discipline policy launch.program pid view := by
  refine Spec.safe (launch_spec launch) inv unused (fun _ => free_stable fun _ _ => trivial) ?_
  intro result view inv _ live
  obtain ⟨ghost, kept, promise, -⟩ := finish_keeps inv.2 _
  exact ⟨ghost, ⟨inv.1.finish pid _, kept⟩, ⟨.finish inv.1 live (edges inv.2), promise⟩⟩

theorem closed : discipline.Closed policy := by
  refine Lane.closed ?_ ?_ ?_
  · exact fun pid view _ inv _ _ => ⟨edges inv, finish_keeps inv none⟩
  · intro what view world _ inv _ changed
    cases what with
    | vanish name =>
        simp only [change] at changed
        split at changed
        · next present =>
          obtain rfl := Option.some.inj changed
          obtain ⟨binding, found⟩ := Option.isSome_iff_exists.mp present
          obtain ⟨handle, inside, recorded⟩ := Option.bind_eq_some_iff.mp found
          have outside : name.directory ≠ none := by
            rw [inside]
            exact Option.some_ne_none _
          have known : view.1.world.recorded handle ≠ none := by
            rw [recorded]
            exact Option.some_ne_none _
          exact ⟨(), ⟨inv.sane.unlink, inv.alone, inv.drawn⟩,
            fun _ => beside_vanish inside known, around_unlink outside⟩
        · cases changed
  · intro launch view sound inv
    have unused : Unused view.1.next view.1.world := fun handle drawn =>
      absurd (inv.drawn drawn) (Nat.lt_irrefl _)
    have grown : Inv (view.1.birth none) := by
      refine ⟨inv.sane, ?_, fun drawn => Nat.lt_succ_of_lt (inv.drawn drawn)⟩
      rw [Disk.held_birth_none]
      exact inv.alone
    refine ⟨(), grown, ⟨fun pid => .refl pid _, .refl _⟩, ?_⟩
    refine launch_safe launch ⟨sound.birth none, grown⟩ ⟨⟨Nat.lt_succ_self _, ?_⟩, unused⟩
    rw [Disk.held_birth_none]
    exact fun inside => absurd (sound.alive _ _ inside).1 (Nat.lt_irrefl _)

end Closed

section Runs

abbrev HelperConfig := Config (requests helperLayout helperOutside) HelperDisk

/-- No cache and no handles; nobody has been started. -/
def start : HelperConfig where
  state := {
    files := nofun
    held := fun _ => []
    next := 0
    ended := fun _ => none
    parent := fun _ => none
    gates := fun _ => .waiting
    world := {
      links := ⟨∅, fun _ => ⟨[], false, ⟨0, 0, 0, 0, 0, 0⟩⟩, 0⟩
      drawn := fun _ => none
      records := []
      linked := [] } }
  procs := fun _ => none

theorem start_good : discipline.Good (System.Policy.free helperSystem) start () := by
  refine Lane.good_of_idle ⟨fun _ => List.nodup_nil, nofun⟩ ?_ fun _ => rfl
  exact ⟨⟨nofun, nofun, nofun, nofun, nofun⟩, Nat.zero_le _, nofun⟩

/-- A process that is about to record a binding has pinned what it says. -/
theorem pinned_of_recording {config : HelperConfig} {binding : HelperBinding}
    {next : Except IoError Unit → Program (requests helperLayout helperOutside)}
    (good : discipline.Good (System.Policy.free helperSystem) config ())
    (recording : config.procs pid = some (.call (.external (.record handle binding)) next)) :
    config.state.world.Pinned handle binding := by
  obtain ⟨live, safe⟩ := good.2 pid _ recording
  obtain ⟨_, _, promise, _⟩ := safe (config.state, ()) (discipline.refl pid _) good.1 live
    (.outside .agree) (.ok ()) _ trivial rfl
  exact promise.2.records handle binding rfl

/-- What a process is about to record. -/
def recorded? : Program (requests helperLayout helperOutside) → Option (Handle × HelperBinding)
  | .call (.external (.record handle binding)) _ => some (handle, binding)
  | _ => none

theorem call_of_recorded? {program : Program (requests helperLayout helperOutside)}
    {binding : HelperBinding} (found : recorded? program = some (handle, binding)) :
    ∃ next, program = .call (.external (.record handle binding)) next := by
  unfold recorded? at found
  split at found
  · cases found
    exact ⟨_, rfl⟩
  · cases found

/-- In every state that launches reach, killed or not: what a successful pin is about to record is
linked with the digests it names, and what is linked for a recorded handle keeps them; a snapshot
leaves the cache only where no handle links it and the holder of the lock has not linked it; and
whatever has a digest for its name is whole. -/
theorem helper_cache_linking {before : HelperConfig}
    (run : System.Run (System.Policy.free helperSystem) start before) :
    (∀ pid handle binding next,
      before.procs pid = some (.call (.external (.record handle binding)) next) →
        before.state.world.Pinned handle binding) ∧
    (∀ handle binding, before.state.world.recorded handle = some binding →
      before.state.world.Agrees handle binding) ∧
    (∀ event after, helperSystem.apply event before = some after →
      ∀ sha256 file, before.state.world.links.find (.cached sha256) = some file →
        after.state.world.links.find (.cached sha256) ≠ some file →
          (∀ name, name.directory ≠ none → before.state.world.links.find name ≠ some file) ∧
          ∃ pid, before.state.Newest pid HelperLock.cacheLock ∧
            ∀ handle, before.state.world.drawn handle = some pid →
              (handle, file) ∉ before.state.world.linked) ∧
    ∀ sha256 file, before.state.world.links.find (.cached sha256) = some file →
      Whole sha256 (before.state.world.links.nodes file) := by
  obtain ⟨_, good⟩ := Discipline.run_good closed start_good run
  refine ⟨fun _ _ _ _ recording => pinned_of_recording good recording,
    fun _ _ recorded => good.1.2.sane.bound recorded, ?_, fun _ _ found => good.1.2.sane.whole found⟩
  intro event after applied sha256 file found gone
  obtain ⟨_, moves, _⟩ :=
    Discipline.apply_good closed event good (System.Policy.free_permits before event) applied
  have around : ¬ Around before.state.world after.state.world := fun around =>
    gone ((around.shared rfl).trans found)
  have taken : ∀ pid, Promise pid (before.state, ()) (after.state, ()) →
      (∀ name, name.directory ≠ none → before.state.world.links.find name ≠ some file) ∧
      ∃ pid, before.state.Newest pid HelperLock.cacheLock ∧
        ∀ handle, before.state.world.drawn handle = some pid →
          (handle, file) ∉ before.state.world.linked := by
    intro pid promise
    obtain ⟨unlinked, unpinned⟩ := (promise.drops sha256 file found).resolve_left gone
    exact ⟨unlinked, pid, promise.around.resolve_right around, unpinned⟩
  cases event with
  | enter | change => exact absurd moves.2.2.around around
  | step pid | fork pid | leave pid | kill pid => exact taken pid moves.2
  | refuse =>
      have same : before.state = after.state := congrArg Prod.fst moves
      exact absurd (same ▸ .refl before.state.world) around

end Runs

end HelperCache

namespace HelperCache

section Samples

/-- What `sha256sum` prints for the two bytes below. -/
def sampleSha256 : String := "2689367b205c16ce32ed4200942b8b8b1e262dfc70d9bc9fbc77c49699a4f1df"

def sampleBytes : Bytes := [111, 107]

@[reducible] def sampleCodec : Codec := flatCodec fun bytes =>
  if bytes = sampleBytes then sampleSha256 else ""

def sampleLaunch : @Launch sampleCodec :=
  let image := @SealedImage.mk sampleCodec sampleBytes sampleSha256 rfl
  @Launch.mk sampleCodec (@ConfiguredHelper.mk sampleCodec image none) "ab_1"

def sampleVersion : FileVersion := ⟨1, 7, 2, 100, 0, 0o100500⟩

/-- One launch on an empty cache, up to its record. -/
def sampleEvents : List (Event (@helperSystem sampleCodec)) :=
  let ask : HelperChoice → Event (@helperSystem sampleCodec) := fun choice => .step 0 (.outside choice)
  [.enter sampleLaunch, ask .agree, ask .agree, ask .agree, .step 0 .pass, ask .agree,
    ask (.version sampleVersion), ask (.wrote 2 sampleVersion), ask .agree, ask .agree, ask .agree,
    ask .agree, ask .agree, ask .agree, ask .agree, ask (.entries [sampleSha256]), ask .agree,
    ask .agree, .step 0 .pass, ask .agree, ask .agree, ask (.text "environment")]

def sampleRun : Option (@HelperConfig sampleCodec) :=
  System.play (@helperSystem sampleCodec) (fun _ _ => true) sampleEvents (@start sampleCodec)

def sampleBinding : HelperBinding where
  path := .helper "ab_1"
  version := sampleVersion
  sha256 := sampleSha256
  environmentSha256 := "environment"
  interpreter := none

theorem sampleRun_recording :
    (sampleRun.bind fun config => (config.procs 0).bind (@recorded? sampleCodec)) =
      some ("ab_1", sampleBinding) := by
  decide +kernel

theorem helper_cache_linking_sample : ∃ before : @HelperConfig sampleCodec,
    sampleRun = some before ∧ @Pinned sampleCodec before.state.world "ab_1" sampleBinding := by
  obtain ⟨before, played, recording⟩ := Option.bind_eq_some_iff.mp sampleRun_recording
  obtain ⟨program, running, recorded⟩ := Option.bind_eq_some_iff.mp recording
  obtain ⟨next, rfl⟩ := @call_of_recorded? sampleCodec _ _ _ recorded
  have run := System.Run.of_play (fun config event _ => System.Policy.free_permits config event) played
  exact ⟨before, played, (@helper_cache_linking sampleCodec before run).1 0 _ _ next running⟩

end Samples

end HelperCache

end AgentBash
