import AgentBash.Durable.Lane

/-!
# One rule for each request

Over a directory, the bookkeeping and lock parts of every obligation are the same for all
programs. A `Lane` states the rest: an invariant of files, world and ghost, what others may
do to them and what a step promises. The rules below leave only those parts to prove.
-/

namespace AgentBash.Durable

set_option autoImplicit false

variable {L : Layout} {E : Surroundings L} {γ : Type}

def system (L : Layout) (E : Surroundings L) {Entry : Type}
    (entry : Entry → Program (requests L E)) : System (requests L E) (Disk L E.World) :=
  { directory L E with Entry, entry }

structure Lane (L : Layout) (E : Surroundings L) (γ : Type) where
  Inv : Disk L E.World × γ → Prop
  Rely : Nat → Disk L E.World × γ → Disk L E.World × γ → Prop
  Guarantee : Nat → Disk L E.World × γ → Disk L E.World × γ → Prop
  Outer : Disk L E.World × γ → Disk L E.World × γ → Prop
  refl : ∀ pid view, Rely pid view view
  idle : ∀ pid view, Guarantee pid view view
  trans : ∀ {pid first second third},
    Rely pid first second → Rely pid second third → Rely pid first third
  honoured : ∀ {pid other before after}, Inv before → Inv after → before.1.Sound →
    before.1.Steps pid after.1 → Guarantee pid before after → other ≠ pid →
    Rely other before after
  tolerated : ∀ {pid before after}, Inv before → Inv after → after.1.held = before.1.held →
    Outer before after → Rely pid before after

def Lane.discipline (lane : Lane L E γ) {Entry : Type}
    (entry : Entry → Program (requests L E)) : Discipline (system L E entry) γ where
  Inv view := view.1.Sound ∧ lane.Inv view
  Rely pid before after := before.1.Later pid after.1 ∧ lane.Rely pid before after
  Guarantee pid before after := before.1.Steps pid after.1 ∧ lane.Guarantee pid before after
  Outer before after := before.1.Grows after.1 ∧ after.1.held = before.1.held ∧
    lane.Outer before after
  refl pid view := ⟨.refl pid view.1, lane.refl pid view⟩
  trans one two := ⟨one.1.trans two.1, lane.trans one.2 two.2⟩
  honoured inv inv' promise different :=
    ⟨promise.1.later inv.1 different,
      lane.honoured inv.2 inv'.2 inv.1 promise.1 promise.2 different⟩
  tolerated inv inv' outer _ :=
    ⟨.of_held outer.1 outer.2.1, lane.tolerated inv.2 inv'.2 outer.2.1 outer.2.2⟩

namespace Lane

variable {lane : Lane L E γ} {Entry : Type} {entry : Entry → Program (requests L E)}
  {policy : System.Policy (system L E entry)} {pid : Nat} {P : Disk L E.World × γ → Prop}

/-- A step to `after` that keeps the lane's invariant and promise and leads to `M`. -/
def Keeps (lane : Lane L E γ) (pid : Nat) (view : Disk L E.World × γ) (after : Disk L E.World)
    (M : Disk L E.World × γ → Prop) : Prop :=
  ∃ ghost, lane.Inv (after, ghost) ∧ lane.Guarantee pid view (after, ghost) ∧ M (after, ghost)

theorem Keeps.idle {view : Disk L E.World × γ} {M : Disk L E.World × γ → Prop}
    (inv : lane.Inv view) (held : M view) : lane.Keeps pid view view.1 M :=
  ⟨view.2, inv, lane.idle pid view, held⟩

/-- Every request inside the directory: it fails without effect where the policy lets it fail,
or it is performed. -/
theorem askPermitted {op : Request L E} {Q : Except IoError op.Result → Disk L E.World × γ → Prop}
    (stable : Stable (lane.discipline entry) pid P)
    (inside : ∀ external, op ≠ .external external)
    (failed : op.mayFail = true → ∀ error view, error.plain = true →
      policy.call pid op (.fault error) view.1 → (lane.discipline entry).Inv view → P view →
      Q (.error error) view)
    (performed : ∀ view answer after, view.1.Sound → lane.Inv view → P view → view.1.live pid →
      policy.call pid op .pass view.1 → op.perform pid view.1 = some (answer, after) →
      after.Sound ∧ view.1.Steps pid after ∧ lane.Keeps pid view after (Q answer)) :
    Spec (lane.discipline entry) policy pid P (Io.ask op) Q := by
  intro next view inv holds rest now moved inv' live choice answer after permitted served
  have held := stable inv holds moved inv'
  rcases Request.serve_cases served with ⟨rfl, effect⟩ | ⟨error, may, plain, rfl, rfl, rfl⟩ |
      ⟨external, _, _, _, same, _⟩
  · obtain ⟨sound, steps, ghost, kept, promise, result⟩ :=
      performed now answer after inv'.1 inv'.2 held live permitted effect
    exact ⟨ghost, ⟨sound, kept⟩, ⟨steps, promise⟩, rest _ _ ⟨sound, kept⟩ result⟩
  · exact ⟨now.2, inv', ⟨.refl _ _, lane.idle _ _⟩,
      rest _ now inv' (failed may error now plain permitted inv' held)⟩
  · exact absurd same (inside external)

theorem ask {op : Request L E} {Q : Except IoError op.Result → Disk L E.World × γ → Prop}
    (stable : Stable (lane.discipline entry) pid P)
    (inside : ∀ external, op ≠ .external external)
    (failed : op.mayFail = true → ∀ error view, error.plain = true →
      (lane.discipline entry).Inv view → P view → Q (.error error) view)
    (performed : ∀ view answer after, view.1.Sound → lane.Inv view → P view → view.1.live pid →
      policy.call pid op .pass view.1 → op.perform pid view.1 = some (answer, after) →
      after.Sound ∧ view.1.Steps pid after ∧ lane.Keeps pid view after (Q answer)) :
    Spec (lane.discipline entry) policy pid P (Io.ask op) Q :=
  askPermitted stable inside (fun may error view plain _ => failed may error view plain) performed

section Files

theorem readPermitted {file : L.File}
    {Q : Except IoError (L.Content file) → Disk L E.World × γ → Prop}
    (stable : Stable (lane.discipline entry) pid P)
    (found : ∀ view content, lane.Inv view → P view → view.1.files file = some content →
      Q (.ok content) view)
    (missing : ∀ view, lane.Inv view → P view → view.1.files file = none →
      Q (.error ⟨.notFound, "No such file or directory"⟩) view)
    (failed : ∀ error view, error.plain = true →
      policy.call pid (.read file) (.fault error) view.1 → lane.Inv view → P view →
      Q (.error error) view) :
    Spec (lane.discipline entry) policy pid P (Io.ask (.read file)) Q := by
  refine askPermitted stable (fun _ => nofun) (fun _ error view plain permitted inv held =>
    failed error view plain permitted inv.2 held) ?_
  intro view answer after sound inv held _ _ performed
  simp only [Request.perform] at performed
  split at performed <;> obtain ⟨rfl, rfl⟩ := Prod.mk.inj (Option.some.inj performed)
  · next content present =>
    exact ⟨sound, .refl _ _, .idle inv (found view content inv held present)⟩
  · next absent => exact ⟨sound, .refl _ _, .idle inv (missing view inv held absent)⟩

theorem read {file : L.File} {Q : Except IoError (L.Content file) → Disk L E.World × γ → Prop}
    (stable : Stable (lane.discipline entry) pid P)
    (found : ∀ view content, lane.Inv view → P view → view.1.files file = some content →
      Q (.ok content) view)
    (missing : ∀ view, lane.Inv view → P view → view.1.files file = none →
      Q (.error ⟨.notFound, "No such file or directory"⟩) view)
    (failed : ∀ error view, error.plain = true → lane.Inv view → P view → Q (.error error) view) :
    Spec (lane.discipline entry) policy pid P (Io.ask (.read file)) Q :=
  readPermitted stable found missing fun error view plain _ => failed error view plain

theorem replace {file : L.File} {content : L.Content file}
    {Q : Except IoError Unit → Disk L E.World × γ → Prop}
    (stable : Stable (lane.discipline entry) pid P)
    (written : ∀ view, view.1.Sound → lane.Inv view → P view → view.1.live pid →
      policy.call pid (.replace file content) .pass view.1 →
      lane.Keeps pid view (view.1.write file content) (Q (.ok ())))
    (failed : ∀ error view, error.plain = true → lane.Inv view → P view → Q (.error error) view) :
    Spec (lane.discipline entry) policy pid P (Io.ask (.replace file content)) Q := by
  refine ask stable (fun _ => nofun) (fun _ error view plain inv held =>
    failed error view plain inv.2 held) ?_
  intro view answer after sound inv held live permitted performed
  obtain ⟨rfl, rfl⟩ := Prod.mk.inj (Option.some.inj performed)
  exact ⟨sound.of_held rfl rfl rfl, .of_held (.of_frame rfl rfl rfl) rfl,
    written view sound inv held live permitted⟩

theorem create {file : L.File} {content : L.Content file}
    {Q : Except IoError Unit → Disk L E.World × γ → Prop}
    (stable : Stable (lane.discipline entry) pid P)
    (created : ∀ view, view.1.Sound → lane.Inv view → P view → view.1.live pid →
      policy.call pid (.create file content) .pass view.1 → view.1.files file = none →
      lane.Keeps pid view (view.1.write file content) (Q (.ok ())))
    (exists_ : ∀ view present, lane.Inv view → P view → view.1.files file = some present →
      Q (.error ⟨.alreadyExists, "File exists"⟩) view)
    (failed : ∀ error view, error.plain = true → lane.Inv view → P view → Q (.error error) view) :
    Spec (lane.discipline entry) policy pid P (Io.ask (.create file content)) Q := by
  refine ask stable (fun _ => nofun) (fun _ error view plain inv held =>
    failed error view plain inv.2 held) ?_
  intro view answer after sound inv held live permitted performed
  simp only [Request.perform] at performed
  split at performed <;> obtain ⟨rfl, rfl⟩ := Prod.mk.inj (Option.some.inj performed)
  · next present there =>
    exact ⟨sound, .refl _ _, .idle inv (exists_ view present inv held there)⟩
  · next absent =>
    exact ⟨sound.of_held rfl rfl rfl, .of_held (.of_frame rfl rfl rfl) rfl,
      created view sound inv held live permitted absent⟩

theorem remove {file : L.File} {Q : Except IoError Unit → Disk L E.World × γ → Prop}
    (stable : Stable (lane.discipline entry) pid P)
    (removed : ∀ view content, view.1.Sound → lane.Inv view → P view → view.1.live pid →
      policy.call pid (.remove file) .pass view.1 → view.1.files file = some content →
      lane.Keeps pid view (view.1.erase file) (Q (.ok ())))
    (missing : ∀ view, lane.Inv view → P view → view.1.files file = none →
      Q (.error ⟨.notFound, "No such file or directory"⟩) view)
    (failed : ∀ error view, error.plain = true → lane.Inv view → P view → Q (.error error) view) :
    Spec (lane.discipline entry) policy pid P (Io.ask (.remove file)) Q := by
  refine ask stable (fun _ => nofun) (fun _ error view plain inv held =>
    failed error view plain inv.2 held) ?_
  intro view answer after sound inv held live permitted performed
  simp only [Request.perform] at performed
  split at performed <;> obtain ⟨rfl, rfl⟩ := Prod.mk.inj (Option.some.inj performed)
  · next content present =>
    exact ⟨sound.of_held rfl rfl rfl, .of_held (.of_frame rfl rfl rfl) rfl,
      removed view content sound inv held live permitted present⟩
  · next absent => exact ⟨sound, .refl _ _, .idle inv (missing view inv held absent)⟩

theorem sync {Q : Except IoError Unit → Disk L E.World × γ → Prop}
    (stable : Stable (lane.discipline entry) pid P)
    (synced : ∀ view, lane.Inv view → P view → Q (.ok ()) view)
    (failed : ∀ error view, error.plain = true → lane.Inv view → P view → Q (.error error) view) :
    Spec (lane.discipline entry) policy pid P (Io.ask .sync) Q := by
  refine ask stable (fun _ => nofun) (fun _ error view plain inv held =>
    failed error view plain inv.2 held) ?_
  intro view answer after sound inv held _ _ performed
  obtain ⟨rfl, rfl⟩ := Prod.mk.inj (Option.some.inj performed)
  exact ⟨sound, .refl _ _, .idle inv (synced view inv held)⟩

end Files

section Locks

theorem lock {name : L.Lock} {Q : Except IoError Unit → Disk L E.World × γ → Prop}
    (stable : Stable (lane.discipline entry) pid P)
    (acquired : ∀ view, view.1.Sound → lane.Inv view → P view → view.1.live pid →
      policy.call pid (.lock name) .pass view.1 → view.1.held name = [] →
      lane.Keeps pid view (view.1.acquire name pid) (Q (.ok ())))
    (failed : ∀ error view, error.plain = true → lane.Inv view → P view → Q (.error error) view) :
    Spec (lane.discipline entry) policy pid P (Io.ask (.lock name)) Q := by
  refine ask stable (fun _ => nofun) (fun _ error view plain inv held =>
    failed error view plain inv.2 held) ?_
  intro view answer after sound inv held live permitted performed
  simp only [Request.perform] at performed
  split at performed
  · next free =>
    obtain ⟨rfl, rfl⟩ := Prod.mk.inj (Option.some.inj performed)
    exact ⟨sound.acquire live name, .acquire free, acquired view sound inv held live permitted free⟩
  · cases performed

theorem tryLock {name : L.Lock} {Q : Except IoError Bool → Disk L E.World × γ → Prop}
    (stable : Stable (lane.discipline entry) pid P)
    (acquired : ∀ view, view.1.Sound → lane.Inv view → P view → view.1.live pid →
      policy.call pid (.tryLock name) .pass view.1 → view.1.held name = [] →
      lane.Keeps pid view (view.1.acquire name pid) (Q (.ok true)))
    (busy : ∀ view, lane.Inv view → P view → Q (.ok false) view)
    (failed : ∀ error view, error.plain = true → lane.Inv view → P view → Q (.error error) view) :
    Spec (lane.discipline entry) policy pid P (Io.ask (.tryLock name)) Q := by
  refine ask stable (fun _ => nofun) (fun _ error view plain inv held =>
    failed error view plain inv.2 held) ?_
  intro view answer after sound inv held live permitted performed
  simp only [Request.perform] at performed
  split at performed <;> obtain ⟨rfl, rfl⟩ := Prod.mk.inj (Option.some.inj performed)
  · next free =>
    exact ⟨sound.acquire live name, .acquire free, acquired view sound inv held live permitted free⟩
  · exact ⟨sound, .refl _ _, .idle inv (busy view inv held)⟩

theorem unlock {name : L.Lock} {Q : Except IoError Unit → Disk L E.World × γ → Prop}
    (stable : Stable (lane.discipline entry) pid P)
    (released : ∀ view, view.1.Sound → lane.Inv view → P view → view.1.live pid →
      policy.call pid (.unlock name) .pass view.1 →
      AtEdge pid (view.1.held name) ∧
        lane.Keeps pid view (view.1.release name pid) (Q (.ok ()))) :
    Spec (lane.discipline entry) policy pid P (Io.ask (.unlock name)) Q := by
  refine ask stable (fun _ => nofun) (fun may => nomatch may) ?_
  intro view answer after sound inv held live permitted performed
  obtain ⟨rfl, rfl⟩ := Prod.mk.inj (Option.some.inj performed)
  obtain ⟨edge, kept⟩ := released view sound inv held live permitted
  exact ⟨sound.release name pid, .release sound edge, kept⟩

theorem keepOnly {name : L.Lock} {Q : Except IoError Unit → Disk L E.World × γ → Prop}
    (stable : Stable (lane.discipline entry) pid P)
    (kept : ∀ view, view.1.Sound → lane.Inv view → P view → view.1.live pid →
      policy.call pid (.keepOnly name) .pass view.1 →
      (∀ other, other ≠ name → AtEdge pid (view.1.held other)) ∧
        lane.Keeps pid view (view.1.keepOnly name pid) (Q (.ok ()))) :
    Spec (lane.discipline entry) policy pid P (Io.ask (.keepOnly name)) Q := by
  refine ask stable (fun _ => nofun) (fun may => nomatch may) ?_
  intro view answer after sound inv held live permitted performed
  obtain ⟨rfl, rfl⟩ := Prod.mk.inj (Option.some.inj performed)
  obtain ⟨edge, keeps⟩ := kept view sound inv held live permitted
  exact ⟨sound.keepOnly name pid, .keepOnly sound edge, keeps⟩

end Locks

section Processes

theorem wait {child : Nat} {Q : Except IoError (Option Nat) → Disk L E.World × γ → Prop}
    (stable : Stable (lane.discipline entry) pid P)
    (reaped : ∀ view status, view.1.Sound → lane.Inv view → P view → view.1.live pid →
      view.1.ended child = some status → Q (.ok status) view) :
    Spec (lane.discipline entry) policy pid P (Io.ask (.wait child)) Q := by
  refine ask stable (fun _ => nofun) (fun may => nomatch may) ?_
  intro view answer after sound inv held live _ performed
  simp only [Request.perform] at performed
  split at performed
  · next status ended =>
    obtain ⟨rfl, rfl⟩ := Prod.mk.inj (Option.some.inj performed)
    exact ⟨sound, .refl _ _, .idle inv (reaped view status sound inv held live ended)⟩
  · cases performed

theorem poll {child : Nat} {Q : Except IoError (Option (Option Nat)) → Disk L E.World × γ → Prop}
    (stable : Stable (lane.discipline entry) pid P)
    (polled : ∀ view, view.1.Sound → lane.Inv view → P view → view.1.live pid →
      Q (.ok (view.1.ended child)) view) :
    Spec (lane.discipline entry) policy pid P (Io.ask (.poll child)) Q := by
  refine ask stable (fun _ => nofun) (fun may => nomatch may) ?_
  intro view answer after sound inv held live _ performed
  obtain ⟨rfl, rfl⟩ := Prod.mk.inj (Option.some.inj performed)
  exact ⟨sound, .refl _ _, .idle inv (polled view sound inv held live)⟩

theorem openGate {child : Nat} {Q : Except IoError Unit → Disk L E.World × γ → Prop}
    (stable : Stable (lane.discipline entry) pid P)
    (opened : ∀ view, view.1.Sound → lane.Inv view → P view → view.1.live pid →
      lane.Keeps pid view (view.1.setGate child .opened) (Q (.ok ()))) :
    Spec (lane.discipline entry) policy pid P (Io.ask (.openGate child)) Q := by
  refine ask stable (fun _ => nofun) (fun may => nomatch may) ?_
  intro view answer after sound inv held live _ performed
  obtain ⟨rfl, rfl⟩ := Prod.mk.inj (Option.some.inj performed)
  exact ⟨sound.of_held rfl rfl rfl, .of_held (.of_frame rfl rfl rfl) rfl, opened view sound inv held live⟩

theorem dismiss {child : Nat} {Q : Except IoError Unit → Disk L E.World × γ → Prop}
    (stable : Stable (lane.discipline entry) pid P)
    (closed : ∀ view, view.1.Sound → lane.Inv view → P view → view.1.live pid →
      lane.Keeps pid view (view.1.setGate child .closed) (Q (.ok ()))) :
    Spec (lane.discipline entry) policy pid P (Io.ask (.dismiss child)) Q := by
  refine ask stable (fun _ => nofun) (fun may => nomatch may) ?_
  intro view answer after sound inv held live _ performed
  obtain ⟨rfl, rfl⟩ := Prod.mk.inj (Option.some.inj performed)
  exact ⟨sound.of_held rfl rfl rfl, .of_held (.of_frame rfl rfl rfl) rfl, closed view sound inv held live⟩

theorem enter {Q : Except IoError Bool → Disk L E.World × γ → Prop}
    (stable : Stable (lane.discipline entry) pid P)
    (admitted : ∀ view, lane.Inv view → P view → view.1.gates pid = .opened → Q (.ok true) view)
    (abandoned : ∀ view, lane.Inv view → P view → view.1.gates pid ≠ .opened → Q (.ok false) view) :
    Spec (lane.discipline entry) policy pid P (Io.ask .enter) Q := by
  refine ask stable (fun _ => nofun) (fun may => nomatch may) ?_
  intro view answer after sound inv held _ _ performed
  simp only [Request.perform] at performed
  split at performed
  · next opened =>
    obtain ⟨rfl, rfl⟩ := Prod.mk.inj (Option.some.inj performed)
    exact ⟨sound, .refl _ _, .idle inv (admitted view inv held opened)⟩
  · next shut =>
    split at performed
    · obtain ⟨rfl, rfl⟩ := Prod.mk.inj (Option.some.inj performed)
      exact ⟨sound, .refl _ _, .idle inv (abandoned view inv held shut)⟩
    · cases performed

theorem park {Q : Except IoError Unit → Disk L E.World × γ → Prop} :
    Spec (lane.discipline entry) policy pid P (Io.ask .park) Q := by
  intro next view _ _ _ now _ _ _ choice answer after _ served
  rcases Request.serve_cases served with ⟨_, performed⟩ | ⟨_, may, _⟩ | ⟨_, _, _, _, same, _⟩
  · cases performed
  · cases may
  · cases same

theorem external {op : E.Op} {Q : Except IoError (E.Result op) → Disk L E.World × γ → Prop}
    (stable : Stable (lane.discipline entry) pid P)
    (acted : ∀ view choice answer world, view.1.Sound → lane.Inv view → P view →
      view.1.live pid → policy.call pid (.external op) (.outside choice) view.1 →
      E.act pid op choice view.1 = some (answer, world) →
      lane.Keeps pid view { view.1 with world := world } (Q answer)) :
    Spec (lane.discipline entry) policy pid P (Io.ask (.external op)) Q := by
  intro next view inv holds rest now moved inv' live choice answer after permitted served
  have held := stable inv holds moved inv'
  rcases Request.serve_cases served with ⟨_, performed⟩ | ⟨_, may, _⟩ |
      ⟨external, choice', answer', world, same, act, rfl, answers, rfl⟩
  · cases performed
  · cases may
  · cases same
    cases answers
    obtain ⟨ghost, kept, promise, result⟩ :=
      acted now choice' answer world inv'.1 inv'.2 held live permitted act
    have sound : ({ now.1 with world := world } : Disk L E.World).Sound :=
      inv'.1.of_held rfl rfl rfl
    exact ⟨ghost, ⟨sound, kept⟩, ⟨.of_held (.of_frame rfl rfl rfl) rfl, promise⟩,
      rest _ _ ⟨sound, kept⟩ result⟩

theorem exit {α : Type} {code : Nat} {Q : Except IoError α → Disk L E.World × γ → Prop}
    (stable : Stable (lane.discipline entry) pid P)
    (left : ∀ view, view.1.Sound → lane.Inv view → P view → view.1.live pid →
      (∀ name, AtEdge pid (view.1.held name)) ∧
        lane.Keeps pid view (view.1.finish pid (some code)) fun _ => True) :
    Spec (lane.discipline entry) policy pid P (Io.exit code : Io (requests L E) α) Q := by
  refine Spec.exit stable fun view inv held live => ?_
  obtain ⟨edge, ghost, kept, promise, -⟩ := left view inv.1 inv.2 held live
  exact ⟨ghost, ⟨inv.1.finish pid _, kept⟩, ⟨.finish inv.1 live edge, promise⟩⟩

theorem spawn {child : Program (requests L E)}
    {Q : Except IoError (Option Nat) → Disk L E.World × γ → Prop}
    (stable : Stable (lane.discipline entry) pid P)
    (refused : ∀ view, lane.Inv view → P view → Q (.ok none) view)
    (newest : ∀ view, lane.Inv view → P view → ∀ name, pid ∈ view.1.held name →
      (view.1.held name).head? = some pid)
    (born : ∀ view, view.1.Sound → lane.Inv view → P view → view.1.live pid →
      lane.Keeps pid view (view.1.birth (some pid)) fun after =>
        Safe (lane.discipline entry) policy child view.1.next after ∧
          Q (.ok (some view.1.next)) after) :
    Spec (lane.discipline entry) policy pid P (Io.spawn child) Q := by
  refine Spec.spawn stable (fun view inv held => refused view inv.2 held) ?_
  intro view inv held live
  obtain ⟨ghost, kept, promise, childSafe, after⟩ := born view inv.1 inv.2 held live
  exact ⟨ghost, ⟨inv.1.birth _, kept⟩, ⟨.fork inv.1 (newest view inv.2 held), promise⟩,
    childSafe, after⟩

end Processes

theorem closed
    (kill : ∀ pid view, view.1.Sound → lane.Inv view → view.1.live pid → policy.kill pid view.1 →
      (∀ name, AtEdge pid (view.1.held name)) ∧
        lane.Keeps pid view (view.1.finish pid none) fun _ => True)
    (change : ∀ what view world, view.1.Sound → lane.Inv view → policy.change what view.1 →
      E.change what view.1 = some world →
      ∃ ghost, lane.Inv ({ view.1 with world := world }, ghost) ∧
        lane.Outer view ({ view.1 with world := world }, ghost))
    (enter : ∀ entry' view, view.1.Sound → lane.Inv view →
      ∃ ghost, lane.Inv (view.1.birth none, ghost) ∧ lane.Outer view (view.1.birth none, ghost) ∧
        Safe (lane.discipline entry) policy (entry entry') view.1.next (view.1.birth none, ghost)) :
    (lane.discipline entry).Closed policy where
  kill pid view inv live permitted := by
    obtain ⟨edge, ghost, kept, promise, -⟩ := kill pid view inv.1 inv.2 live permitted
    exact ⟨ghost, ⟨inv.1.finish pid _, kept⟩, ⟨.finish inv.1 live edge, promise⟩⟩
  change what view after inv permitted changed := by
    obtain ⟨world, moved, rfl⟩ := Option.map_eq_some_iff.mp changed
    obtain ⟨ghost, kept, outer⟩ := change what view world inv.1 inv.2 permitted moved
    exact ⟨ghost, ⟨inv.1.of_held rfl rfl rfl, kept⟩, .of_frame rfl rfl rfl, rfl, outer⟩
  enter entry' view inv := by
    obtain ⟨ghost, kept, outer, safe⟩ := enter entry' view inv.1 inv.2
    exact ⟨ghost, ⟨inv.1.birth none, kept⟩,
      ⟨.birth _ _, Disk.held_birth_none view.1, outer⟩, safe⟩

/-- A start without processes is good as soon as its view is invariant. -/
theorem good_of_idle {start : Config (requests L E) (Disk L E.World)} {ghost : γ}
    (sound : start.state.Sound) (inv : lane.Inv (start.state, ghost))
    (idle : ∀ pid, start.procs pid = none) :
    (lane.discipline entry).Good policy start ghost :=
  ⟨⟨sound, inv⟩, fun pid program running => by rw [idle pid] at running; cases running⟩

end Lane

end AgentBash.Durable
