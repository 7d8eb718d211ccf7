import AgentBash.Supervisor.TerminalScene

/-!
# The steps of the terminal lane

Every request that the lane looks at changes its scene in one of a few ways. Each of them keeps
the invariant and respects the stakes of everybody else, under the condition that its callers
have to meet.
-/

namespace AgentBash

set_option autoImplicit false

open Durable

namespace TerminalLane

variable [setting : Setting]

namespace Scene

/-- What may happen to a scene as long as the stakes of some processes are respected. -/
structure Moves (whose : Nat → Prop) (before after : Scene) : Prop where
  lasts : before.Lasts after
  lock : ∀ pid, whose pid → before.holders = [pid] →
    after.holders = [pid] ∧ after.standing = before.standing
  right : ∀ pid, whose pid → before.tenure = .sole pid →
    after.tenure = .sole pid ∧ after.verdict = before.verdict
  office : whose setting.keeper → before.ghost.renounced = false →
    after.ghost.renounced = false ∧ after.ghost.delegate = before.ghost.delegate
  apart : ∀ pid, whose pid → pid < before.next → pid ∉ before.holders → pid ∉ after.holders

theorem moves_of_scene {whose : Nat → Prop} {before after : View}
    (moves : (scene before).Moves whose (scene after)) :
    watch.toStakes.Moves whose before after where
  lasts := moves.lasts
  respects pid among stake has := by
    cases stake with
    | lock => exact moves.lock pid among has
    | right => exact moves.right pid among has
    | office =>
        obtain ⟨same, office⟩ := has
        subst same
        obtain ⟨kept, same⟩ := moves.office among office
        exact ⟨⟨rfl, kept⟩, same⟩
    | apart =>
        exact ⟨⟨lt_of_lt_of_le has.1 moves.lasts.next, moves.apart pid among has.1 has.2⟩, trivial⟩

structure Leads (pid : Nat) (before after : Scene) : Prop where
  inv : after.Inv
  moves : before.Moves (· ≠ pid) after

def MayPublish (pid : Nat) (s : Scene) : Prop := s.tenure = .sole pid ∨ s.tenure = .anyone

variable {s t : Scene} {pid : Nat} {record : Meta}

theorem MayPublish.not_nobody (may : s.MayPublish pid) : s.tenure ≠ .nobody := by
  intro nobody
  rcases may with sole | anyone
  · rw [nobody] at sole
    cases sole
  · rw [nobody] at anyone
    cases anyone

theorem Moves.trans {whose : Nat → Prop} {first second third : Scene}
    (one : first.Moves whose second) (two : second.Moves whose third) :
    first.Moves whose third where
  lasts := one.lasts.trans two.lasts
  lock pid among held := by
    obtain ⟨still, same⟩ := one.lock pid among held
    obtain ⟨last, same'⟩ := two.lock pid among still
    exact ⟨last, same'.trans same⟩
  right pid among sole := by
    obtain ⟨still, same⟩ := one.right pid among sole
    obtain ⟨last, same'⟩ := two.right pid among still
    exact ⟨last, same'.trans same⟩
  office among kept := by
    obtain ⟨still, same⟩ := one.office among kept
    obtain ⟨last, same'⟩ := two.office among still
    exact ⟨last, same'.trans same⟩
  apart pid among born absent :=
    two.apart pid among (lt_of_lt_of_le born one.lasts.next) (one.apart pid among born absent)

theorem Leads.trans {first second third : Scene} (one : Leads pid first second)
    (two : Leads pid second third) : Leads pid first third :=
  ⟨two.inv, one.moves.trans two.moves⟩

/-- Nothing that anybody has a stake in is touched. -/
theorem Moves.of_frame {whose : Nat → Prop} (lasts : s.Lasts t) (holders : t.holders = s.holders)
    (standing : t.standing = s.standing) (tenure : t.tenure = s.tenure)
    (renounced : t.ghost.renounced = s.ghost.renounced)
    (delegate : t.ghost.delegate = s.ghost.delegate) : s.Moves whose t where
  lasts := lasts
  lock pid _ held := ⟨holders.trans held, standing⟩
  right pid _ sole := ⟨tenure.trans sole, congrArg Prod.fst standing⟩
  office _ kept := ⟨renounced.trans kept, delegate⟩
  apart pid _ _ absent := by rwa [holders]

theorem Moves.of_holder (held : s.holders = [pid]) (lasts : s.Lasts t)
    (holders : t.holders = s.holders) (tenure : t.tenure = s.tenure)
    (own : s.MayPublish pid ∨ t.verdict = s.verdict)
    (renounced : t.ghost.renounced = s.ghost.renounced)
    (delegate : t.ghost.delegate = s.ghost.delegate) : s.Moves (· ≠ pid) t where
  lasts := lasts
  lock other different held' := by
    rw [held] at held'
    exact absurd (List.head_eq_of_cons_eq held').symm different
  right other different sole := by
    refine ⟨tenure.trans sole, ?_⟩
    rcases own with may | same
    · rcases may with own | anyone
      · rw [sole] at own
        exact absurd (Tenure.sole.inj own) different
      · rw [sole] at anyone
        cases anyone
    · exact same
  office _ kept := ⟨renounced.trans kept, delegate⟩
  apart other _ _ absent := by rwa [holders]

/-- What a step keeps is read off what lasts, wherever the verdict and its files stay. -/
theorem Inv.of_lasts (inv : s.Inv) (lasts : s.Lasts t) (legacy : t.registered = s.registered)
    (record : t.record = s.record) (rcFile : t.rcFile = s.rcFile) (peopled : t.Peopled)
    (pledged : t.Pledged) (renounced : t.ghost.renounced = true → t.tenure = .nobody)
    (wards : ∀ pid record, t.ghost.wards pid = some record →
      pid < t.next ∧ (t.gates pid = .opened → t.Follows record))
    (delivered : t.completions = s.completions) : t.Inv where
  legacy := legacy.trans inv.legacy
  recorded := by
    obtain ⟨stored, known, fits⟩ := inv.recorded
    exact ⟨stored, record.trans known, lasts.fits fits⟩
  settled verdict known := by
    have same : t.verdict = s.verdict := by simp only [Scene.verdict, record]
    rw [rcFile]
    exact inv.settled verdict (same ▸ known)
  peopled := peopled
  pledged := pledged
  renounced := renounced
  wards := wards
  delivered some := lasts.decided (inv.delivered (delivered ▸ some))

/-- The children of gated forks that a step leaves behind their gates. -/
theorem Inv.wards_of_lasts (inv : s.Inv) (lasts : s.Lasts t)
    (wards : t.ghost.wards = s.ghost.wards)
    (gates : ∀ pid, pid < s.next → t.gates pid = s.gates pid) (child : Nat) (given : Meta)
    (known : t.ghost.wards child = some given) :
    child < t.next ∧ (t.gates child = .opened → t.Follows given) := by
  obtain ⟨born, admitted⟩ := inv.wards child given (wards ▸ known)
  refine ⟨lt_of_lt_of_le born lasts.next, fun opened => ?_⟩
  rw [gates child born] at opened
  exact lasts.follows (admitted opened)

theorem tenure_of_delegate (delegate : t.ghost.delegate = s.ghost.delegate)
    (renounced : t.ghost.renounced = s.ghost.renounced)
    (ended : ∀ pid, s.ghost.delegate = some pid → t.ended pid = s.ended pid) :
    t.tenure = s.tenure := by
  unfold tenure
  rw [delegate, renounced]
  cases known : s.ghost.delegate with
  | none => rfl
  | some child => simp only [ended child known]

/-- A step that moves nobody and leaves verdict and status as they are. -/
theorem Lasts.of_same (next : t.next = s.next) (ended : t.ended = s.ended)
    (verdict : t.verdict = s.verdict) (rcFile : t.rcFile = s.rcFile)
    (delegate : t.ghost.delegate = s.ghost.delegate)
    (renounced : t.ghost.renounced = s.ghost.renounced)
    (pledged : s.ghost.pledged = true → t.ghost.pledged = true)
    (wards : t.ghost.wards = s.ghost.wards) : s.Lasts t := by
  have tenure : t.tenure = s.tenure :=
    tenure_of_delegate delegate renounced fun _ _ => congrFun ended _
  exact ⟨next.ge, fun _ _ _ known => (congrFun ended _).trans known,
    fun _ known => ⟨verdict.trans known, rcFile⟩, fun _ known => delegate.trans known,
    fun anyone => tenure.trans anyone, fun nobody => ⟨tenure.trans nobody, verdict⟩, pledged,
    fun _ _ known => (congrFun wards _).trans known⟩

section Files

/-- A record with the same verdict may replace the old one at any time. -/
theorem Inv.rewrite (inv : s.Inv) (fits : s.Fits record) (same : record.verdict = s.verdict) :
    Leads pid s { s with record := some record } := by
  have verdict : ({ s with record := some record } : Scene).verdict = s.verdict := same
  have accepted : ({ s with record := some record } : Scene).accepted = s.accepted := by
    simp only [Scene.accepted, verdict]
  have lasts : s.Lasts { s with record := some record } :=
    .of_same rfl rfl verdict rfl rfl rfl id rfl
  refine ⟨⟨inv.legacy, ⟨record, rfl, lasts.fits fits⟩, ?_, ?_, ?_, inv.renounced,
    inv.wards_of_lasts lasts rfl fun _ _ => rfl, fun some => lasts.decided (inv.delivered some)⟩,
    .of_frame lasts rfl (by simp only [standing, verdict, accepted]) rfl rfl rfl⟩
  · exact fun settled known => inv.settled settled (verdict ▸ known)
  · exact ⟨inv.peopled.holder, inv.peopled.keeper, inv.peopled.delegate⟩
  · have pledged := inv.pledged
    exact ⟨by rw [accepted, verdict]; exact pledged.kept, by rw [accepted]; exact pledged.given,
      by rw [accepted]; exact pledged.unborn⟩

/-- The verdict is given once, by who may give it, after its status was written and with the
acceptance of a cancellation taken into account. -/
theorem Inv.publish {verdict : Verdict} (inv : s.Inv) (held : s.holders = [pid])
    (may : s.MayPublish pid) (open_ : s.verdict = none) (fits : s.Fits record)
    (gives : record.verdict = some verdict) (status : verdict.rc.isSome)
    (written : s.rcFile = verdict.rc) (heeds : s.marker = true → verdict.cancelled) :
    Leads pid s { s with record := some record } := by
  have now : ({ s with record := some record } : Scene).verdict = some verdict := gives
  have undecided : ¬ s.Decided := fun decided =>
    decided.elim (fun settled => settled open_) may.not_nobody
  have lasts : s.Lasts { s with record := some record } :=
    ⟨le_refl _, fun _ _ _ same => same,
      fun _ known => absurd (open_.symm.trans known) nofun,
      fun _ same => same, id, fun nobody => absurd nobody may.not_nobody, id,
      fun _ _ same => same⟩
  refine ⟨⟨inv.legacy, ⟨record, rfl, lasts.fits fits⟩, ?_, ?_, ⟨?_, ?_, ?_⟩, inv.renounced, ?_, ?_⟩,
    .of_holder held lasts rfl rfl (.inl may) rfl rfl⟩
  · intro settled known
    obtain rfl : verdict = settled := Option.some.inj (now.symm.trans known)
    exact ⟨status, written⟩
  · exact ⟨inv.peopled.holder, inv.peopled.keeper, inv.peopled.delegate⟩
  · intro pledged
    rcases inv.pledged.kept pledged with accepted | ⟨old, known, -⟩
    · simp only [Scene.accepted, Bool.and_eq_true] at accepted
      exact .inr ⟨verdict, now, heeds accepted.2⟩
    · exact absurd (open_.symm.trans known) nofun
  · intro _ accepted
    simp [Scene.accepted, now] at accepted
  · intro _
    simp [Scene.accepted, now]
  · intro child given known
    obtain ⟨born, admitted⟩ := inv.wards child given known
    exact ⟨born, fun opened => absurd (admitted opened).decided undecided⟩
  · exact fun some => absurd (inv.delivered some) undecided

theorem Inv.writeRc {rc : Int} (inv : s.Inv) (held : s.holders = [pid]) (open_ : s.verdict = none) :
    Leads pid s { s with rcFile := some rc } := by
  have lasts : s.Lasts { s with rcFile := some rc } :=
    ⟨le_refl _, fun _ _ _ same => same, fun _ known => absurd (open_.symm.trans known) nofun,
      fun _ same => same, id, fun nobody => ⟨nobody, rfl⟩, id, fun _ _ same => same⟩
  refine ⟨⟨inv.legacy, inv.recorded.imp fun _ known => ⟨known.1, lasts.fits known.2⟩,
    fun _ known => absurd (open_.symm.trans known) nofun,
    ⟨inv.peopled.holder, inv.peopled.keeper, inv.peopled.delegate⟩,
    ⟨inv.pledged.kept, inv.pledged.given, inv.pledged.unborn⟩, inv.renounced,
    inv.wards_of_lasts lasts rfl fun _ _ => rfl, fun some => lasts.decided (inv.delivered some)⟩,
    .of_holder held lasts rfl rfl (.inr rfl) rfl rfl⟩

/-- A cancellation is accepted by the holder once there is a supervisor, and an acceptance that
nobody else counts on may be taken back. -/
theorem Inv.mark (inv : s.Inv) (held : s.holders = [pid]) (marker : Bool)
    (supervised : s.ghost.delegate ≠ none) (kept : s.ghost.pledged = true → marker = s.marker) :
    Leads pid s { s with marker } := by
  have lasts : s.Lasts { s with marker } :=
    .of_same rfl rfl rfl rfl rfl rfl id rfl
  refine ⟨inv.of_lasts lasts rfl rfl rfl ⟨inv.peopled.holder, inv.peopled.keeper,
    inv.peopled.delegate⟩ ⟨?_, ?_, fun none => absurd none supervised⟩ inv.renounced
    (inv.wards_of_lasts lasts rfl fun _ _ => rfl) rfl, .of_holder held lasts rfl rfl (.inr rfl) rfl rfl⟩
  · intro pledged
    have same := kept pledged
    subst same
    exact inv.pledged.kept pledged
  · intro free
    exact absurd (held.symm.trans free) nofun

theorem Inv.markSettled (inv : s.Inv) (settled : s.verdict ≠ none) (marker : Bool) :
    Leads pid s { s with marker } := by
  obtain ⟨verdict, known⟩ := Option.ne_none_iff_exists'.mp settled
  have refused (marker : Bool) : ({ s with marker } : Scene).accepted = false := by
    have now : ({ s with marker } : Scene).verdict = some verdict := known
    simp [Scene.accepted, now]
  have lasts : s.Lasts { s with marker } :=
    .of_same rfl rfl rfl rfl rfl rfl id rfl
  refine ⟨inv.of_lasts lasts rfl rfl rfl ⟨inv.peopled.holder, inv.peopled.keeper,
    inv.peopled.delegate⟩ ⟨fun pledged => ?_, fun _ accepted => ?_, fun _ => refused marker⟩
    inv.renounced (inv.wards_of_lasts lasts rfl fun _ _ => rfl) rfl,
    .of_frame lasts rfl ?_ rfl rfl rfl⟩
  · rcases inv.pledged.kept pledged with accepted | cancelled
    · exact absurd (accepted.symm.trans (refused s.marker)) nofun
    · exact .inr cancelled
  · exact absurd (accepted.symm.trans (refused marker)) nofun
  · have old := refused s.marker
    have new := refused marker
    exact Prod.ext rfl (Prod.ext rfl (Prod.ext (new.trans old.symm) rfl))

end Files

section Locks

theorem Inv.acquire (inv : s.Inv) (free : s.holders = []) (born : pid < s.next) :
    Leads pid s { s with holders := [pid] } := by
  have lasts : s.Lasts { s with holders := [pid] } :=
    .of_same rfl rfl rfl rfl rfl rfl id rfl
  refine ⟨inv.of_lasts lasts rfl rfl rfl ⟨?_, inv.peopled.keeper, inv.peopled.delegate⟩
    ⟨inv.pledged.kept, fun held => absurd held nofun, inv.pledged.unborn⟩ inv.renounced
    (inv.wards_of_lasts lasts rfl fun _ _ => rfl) rfl, ⟨lasts, ?_, ?_, fun _ kept => ⟨kept, rfl⟩, ?_⟩⟩
  · intro other held
    obtain rfl := List.mem_singleton.mp held
    exact ⟨rfl, born⟩
  · exact fun _ _ held => absurd (free.symm.trans held) nofun
  · exact fun _ _ sole => ⟨sole, rfl⟩
  · exact fun _ different _ _ held => different (List.mem_singleton.mp held)

/-- Whoever leaves the lock leaves an acceptance for good. -/
def leave (s : Scene) (pid : Nat) : Scene :=
  { s with
    holders := s.holders.erase pid
    ghost := { s.ghost with
      pledged := s.ghost.pledged || (s.holders.contains pid && s.accepted) } }

omit setting in
theorem leave_absent (absent : pid ∉ s.holders) : s.leave pid = s := by
  simp [leave, List.erase_of_not_mem absent, absent]

theorem Inv.leave (inv : s.Inv) (pid : Nat) : Leads pid s (s.leave pid) := by
  by_cases holds : pid ∈ s.holders
  · obtain ⟨alone, born⟩ := inv.peopled.holder pid holds
    have lasts : s.Lasts (s.leave pid) :=
      .of_same rfl rfl rfl rfl rfl rfl (fun pledged => by simp [Scene.leave, pledged]) rfl
    have left : (s.leave pid).holders = [] := by simp [Scene.leave, alone]
    refine ⟨inv.of_lasts lasts rfl rfl rfl ⟨?_, inv.peopled.keeper, inv.peopled.delegate⟩
      ⟨?_, ?_, inv.pledged.unborn⟩ inv.renounced (inv.wards_of_lasts lasts rfl fun _ _ => rfl) rfl,
      ⟨lasts, ?_, fun _ _ sole => ⟨sole, rfl⟩, fun _ kept => ⟨kept, rfl⟩, ?_⟩⟩
    · intro other held
      rw [left] at held
      cases held
    · intro pledged
      simp only [Scene.leave, Bool.or_eq_true, Bool.and_eq_true] at pledged
      rcases pledged with pledged | ⟨-, accepted⟩
      · exact inv.pledged.kept pledged
      · exact .inl accepted
    · intro _ accepted
      have now : s.accepted = true := accepted
      simp [Scene.leave, now, holds]
    · intro other different held
      rw [alone] at held
      exact absurd (List.head_eq_of_cons_eq held).symm different
    · intro other _ _ _ held
      rw [left] at held
      cases held
  · rw [leave_absent holds]
    exact ⟨inv, .of_frame (.refl s) rfl rfl rfl rfl rfl⟩

end Locks

section Processes

/-- A process is over; the right of the supervisor falls to its heirs. -/
def ending (s : Scene) (pid : Nat) (status : Option Nat) : Scene :=
  { s with ended := Function.update s.ended pid (some status) }

theorem tenure_ending (status : Option Nat) (running : s.ended pid = none) :
    (s.ending pid status).tenure = s.tenure ∨ s.tenure = .sole pid := by
  cases known : s.ghost.delegate with
  | none => exact .inl (by simp [tenure, ending, known])
  | some child =>
      by_cases own : child = pid
      · subst own
        exact .inr (by simp [tenure, known, running])
      · refine .inl (tenure_of_delegate rfl rfl fun other found => ?_)
        obtain rfl : child = other := Option.some.inj (known.symm.trans found)
        exact Function.update_of_ne own _ _

theorem Inv.ending (status : Option Nat) (inv : s.Inv) (running : s.ended pid = none) :
    Leads pid s (s.ending pid status) := by
  have tenure := tenure_ending status running
  have lasts : s.Lasts (s.ending pid status) := by
    refine ⟨le_refl _, fun other status _ known => ?_, fun _ known => ⟨known, rfl⟩,
      fun _ same => same, fun anyone => ?_, fun nobody => ⟨?_, rfl⟩, id, fun _ _ same => same⟩
    · have different : other ≠ pid := by
        rintro rfl
        rw [running] at known
        cases known
      exact (Function.update_of_ne different _ _).trans known
    · rcases tenure with same | sole
      · exact same.trans anyone
      · exact absurd (sole.symm.trans anyone) nofun
    · rcases tenure with same | sole
      · exact same.trans nobody
      · exact absurd (sole.symm.trans nobody) nofun
  refine ⟨inv.of_lasts lasts rfl rfl rfl ⟨inv.peopled.holder, inv.peopled.keeper,
    inv.peopled.delegate⟩ ⟨inv.pledged.kept, inv.pledged.given, inv.pledged.unborn⟩
    (fun renounced => (lasts.nobody (inv.renounced renounced)).1)
    (inv.wards_of_lasts lasts rfl fun _ _ => rfl) rfl,
    ⟨lasts, fun _ _ held => ⟨held, rfl⟩, fun other different sole => ?_,
      fun _ kept => ⟨kept, rfl⟩, fun _ _ _ absent => absent⟩⟩
  rcases tenure with same | own
  · exact ⟨same.trans sole, rfl⟩
  · exact absurd (Tenure.sole.inj (own.symm.trans sole)).symm different

def birth (s : Scene) (ghost : Ghost) : Scene :=
  { s with
    next := s.next + 1
    ended := Function.update s.ended s.next none
    gates := Function.update s.gates s.next .waiting
    ghost := ghost }

omit setting in
theorem ended_birth {ghost : Ghost} {other : Nat} (born : other < s.next) :
    (s.birth ghost).ended other = s.ended other :=
  Function.update_of_ne (Nat.ne_of_lt born) _ _

omit setting in
theorem gates_birth {ghost : Ghost} {other : Nat} (born : other < s.next) :
    (s.birth ghost).gates other = s.gates other :=
  Function.update_of_ne (Nat.ne_of_lt born) _ _

/-- A birth under the same delegate; the child may be a ward. -/
theorem Inv.birth (ward : Option Meta) (whose : Nat → Prop) (inv : s.Inv) :
    (s.birth (s.ghost.adopt s.next ward)).Inv ∧
      s.Moves whose (s.birth (s.ghost.adopt s.next ward)) := by
  have tenure : (s.birth (s.ghost.adopt s.next ward)).tenure = s.tenure :=
    tenure_of_delegate rfl rfl fun child known => ended_birth (inv.peopled.delegate child known).2
  have lasts : s.Lasts (s.birth (s.ghost.adopt s.next ward)) := by
    refine ⟨Nat.le_succ _, fun other status born known => (ended_birth born).trans known,
      fun _ known => ⟨known, rfl⟩, fun _ same => same, fun anyone => tenure.trans anyone,
      fun nobody => ⟨tenure.trans nobody, rfl⟩, id, fun other record known => ?_⟩
    have born := (inv.wards other record known).1
    exact (Function.update_of_ne (Nat.ne_of_lt born) _ _).trans known
  refine ⟨inv.of_lasts lasts rfl rfl rfl ?_ ⟨inv.pledged.kept, inv.pledged.given,
    inv.pledged.unborn⟩ (fun renounced => tenure.trans (inv.renounced renounced)) ?_ rfl,
    .of_frame lasts rfl rfl tenure rfl rfl⟩
  · refine ⟨fun other held => ?_, Nat.lt_succ_of_lt inv.peopled.keeper, fun other known => ?_⟩
    · obtain ⟨alone, born⟩ := inv.peopled.holder other held
      exact ⟨alone, Nat.lt_succ_of_lt born⟩
    · obtain ⟨different, born⟩ := inv.peopled.delegate other known
      exact ⟨different, Nat.lt_succ_of_lt born⟩
  · intro child given known
    by_cases new : child = s.next
    · subst new
      refine ⟨Nat.lt_succ_self _, fun opened => ?_⟩
      simp [Scene.birth] at opened
    · have old : s.ghost.wards child = some given :=
        (Function.update_of_ne new _ _).symm.trans known
      obtain ⟨born, admitted⟩ := inv.wards child given old
      refine ⟨Nat.lt_succ_of_lt born, fun opened => ?_⟩
      rw [gates_birth born] at opened
      exact lasts.follows (admitted opened)

/-- The keeper forks the supervisor, and with it goes the right to the verdict. -/
theorem Inv.delegate (inv : s.Inv) (undelegated : s.ghost.delegate = none)
    (keeper : pid = setting.keeper) :
    Leads pid s (s.birth { s.ghost with delegate := some s.next }) ∧
      (s.birth { s.ghost with delegate := some s.next }).tenure = .sole s.next := by
  have now : (s.birth { s.ghost with delegate := some s.next }).tenure = .sole s.next := by
    simp [Scene.tenure, Scene.birth]
  have before : s.tenure = .sole setting.keeper := by simp [Scene.tenure, undelegated]
  have lasts : s.Lasts (s.birth { s.ghost with delegate := some s.next }) :=
    ⟨Nat.le_succ _, fun other status born known => (ended_birth born).trans known,
      fun _ known => ⟨known, rfl⟩, fun _ known => absurd (undelegated.symm.trans known) nofun,
      fun anyone => absurd (before.symm.trans anyone) nofun,
      fun nobody => absurd (before.symm.trans nobody) nofun, id, fun _ _ same => same⟩
  refine ⟨⟨inv.of_lasts lasts rfl rfl rfl ?_ ⟨inv.pledged.kept, inv.pledged.given, nofun⟩
    (fun renounced => absurd (before.symm.trans (inv.renounced renounced)) nofun)
    (inv.wards_of_lasts lasts rfl fun _ born => gates_birth born) rfl,
    ⟨lasts, fun _ _ held => ⟨held, rfl⟩, ?_, fun different => absurd keeper.symm different,
      fun _ _ _ absent => absent⟩⟩, now⟩
  · refine ⟨fun other held => ?_, Nat.lt_succ_of_lt inv.peopled.keeper, fun other known => ?_⟩
    · obtain ⟨alone, born⟩ := inv.peopled.holder other held
      exact ⟨alone, Nat.lt_succ_of_lt born⟩
    · obtain rfl : s.next = other := Option.some.inj known
      exact ⟨(Nat.ne_of_lt inv.peopled.keeper).symm, Nat.lt_succ_self _⟩
  · intro other different sole
    rw [before] at sole
    exact absurd ((Tenure.sole.inj sole).symm.trans keeper.symm) different

end Processes

section Delivery

/-- The gate of a child opens. A guardian that hands over a handle without a verdict renounces. -/
def unlatch (s : Scene) (child : Nat) (renounced : Bool) : Scene :=
  { s with
    gates := Function.update s.gates child .opened
    ghost := { s.ghost with renounced } }

/-- A process that may hand the handle to delivery: it is decided, or the guardian decides it
by handing it over. -/
def Deliverable (pid : Nat) (s : Scene) : Prop :=
  s.Decided ∨ (pid = setting.keeper ∧ setting.mode = .sentinel ∧ s.tenure = .sole pid ∧
    s.ghost.delegate ≠ none ∧ s.ghost.renounced = false)

/-- Giving up what the guardian alone had: nobody gives a verdict from now on. -/
theorem tenure_renounced (mode : setting.mode = .sentinel)
    (sole : s.tenure = .sole setting.keeper) (supervised : s.ghost.delegate ≠ none) (inv : s.Inv)
    {gates : Nat → Gate} :
    ({ s with gates, ghost := { s.ghost with renounced := true } } : Scene).tenure = .nobody := by
  obtain ⟨child, known⟩ := Option.ne_none_iff_exists'.mp supervised
  have different := (inv.peopled.delegate child known).1
  unfold tenure at *
  simp only [known, mode, reduceCtorEq, if_false, if_true] at *
  by_cases running : s.ended child = none
  · simp only [running, if_true] at sole
    exact absurd (Tenure.sole.inj sole) different
  · simp only [if_neg running]

theorem Inv.unlatch {child : Nat} (inv : s.Inv) (ward : s.ghost.wards child = some record)
    (fits : s.Fits record) (same : record.verdict = s.verdict) (may : s.Deliverable pid) :
    ∃ renounced, Leads pid s (s.unlatch child renounced) ∧
      (s.unlatch child renounced).Follows record := by
  have known (renounced : Bool) (decided : (s.unlatch child renounced).Decided)
      (lasts : s.Lasts (s.unlatch child renounced)) (other : Nat) (given : Meta)
      (found : (s.unlatch child renounced).ghost.wards other = some given) :
      other < (s.unlatch child renounced).next ∧
        ((s.unlatch child renounced).gates other = .opened →
          (s.unlatch child renounced).Follows given) := by
    obtain ⟨born, admitted⟩ := inv.wards other given found
    refine ⟨born, fun opened => ?_⟩
    by_cases own : other = child
    · subst own
      obtain rfl : record = given := Option.some.inj (ward.symm.trans found)
      exact ⟨lasts.fits fits, decided, same⟩
    · have old : s.gates other = .opened :=
        (Function.update_of_ne own _ _).symm.trans opened
      exact lasts.follows (admitted old)
  rcases may with decided | ⟨keeper, mode, sole, supervised, kept⟩
  · refine ⟨s.ghost.renounced, ?_⟩
    have lasts : s.Lasts (s.unlatch child s.ghost.renounced) :=
      .of_same rfl rfl rfl rfl rfl rfl id rfl
    have still := lasts.decided decided
    refine ⟨⟨inv.of_lasts lasts rfl rfl rfl ⟨inv.peopled.holder, inv.peopled.keeper,
      inv.peopled.delegate⟩ ⟨inv.pledged.kept, inv.pledged.given, inv.pledged.unborn⟩
      inv.renounced (known _ still lasts) rfl, .of_frame lasts rfl rfl rfl rfl rfl⟩, ?_⟩
    exact ⟨lasts.fits fits, still, same⟩
  · subst keeper
    have nobody : (s.unlatch child true).tenure = .nobody :=
      tenure_renounced mode sole supervised inv
    have lasts : s.Lasts (s.unlatch child true) :=
      ⟨le_refl _, fun _ _ _ same => same, fun _ known => ⟨known, rfl⟩, fun _ same => same,
        fun anyone => absurd (sole.symm.trans anyone) nofun, fun _ => ⟨nobody, rfl⟩, id,
        fun _ _ same => same⟩
    refine ⟨true, ⟨inv.of_lasts lasts rfl rfl rfl ⟨inv.peopled.holder, inv.peopled.keeper,
      inv.peopled.delegate⟩ ⟨inv.pledged.kept, inv.pledged.given, inv.pledged.unborn⟩
      (fun _ => nobody) (known true (.inr nobody) lasts) rfl,
      ⟨lasts, fun _ _ held => ⟨held, rfl⟩, ?_, fun different => absurd rfl different,
        fun _ _ _ absent => absent⟩⟩, lasts.fits fits, .inr nobody, same⟩
    intro other different sole'
    rw [sole] at sole'
    exact absurd (Tenure.sole.inj sole').symm different

/-- A gate that closes admits nobody. -/
theorem Inv.dismiss {child : Nat} (inv : s.Inv) :
    Leads pid s { s with gates := Function.update s.gates child .closed } := by
  have lasts : s.Lasts { s with gates := Function.update s.gates child .closed } :=
    .of_same rfl rfl rfl rfl rfl rfl id rfl
  refine ⟨inv.of_lasts lasts rfl rfl rfl ⟨inv.peopled.holder, inv.peopled.keeper,
    inv.peopled.delegate⟩ ⟨inv.pledged.kept, inv.pledged.given, inv.pledged.unborn⟩
    inv.renounced ?_ rfl, .of_frame lasts rfl rfl rfl rfl rfl⟩
  intro other given known
  obtain ⟨born, admitted⟩ := inv.wards other given known
  refine ⟨born, fun opened => ?_⟩
  by_cases own : other = child
  · simp [own] at opened
  · have old : s.gates other = .opened := (Function.update_of_ne own _ _).symm.trans opened
    exact lasts.follows (admitted old)

theorem Inv.deliver (inv : s.Inv) (decided : s.Decided) :
    Leads pid s { s with completions := s.completions + 1 } := by
  have lasts : s.Lasts { s with completions := s.completions + 1 } :=
    .of_same rfl rfl rfl rfl rfl rfl id rfl
  exact ⟨⟨inv.legacy, inv.recorded.imp fun _ known => ⟨known.1, lasts.fits known.2⟩, inv.settled,
    ⟨inv.peopled.holder, inv.peopled.keeper, inv.peopled.delegate⟩,
    ⟨inv.pledged.kept, inv.pledged.given, inv.pledged.unborn⟩, inv.renounced,
    inv.wards_of_lasts lasts rfl fun _ _ => rfl, fun _ => lasts.decided decided⟩,
    .of_frame lasts rfl rfl rfl rfl rfl⟩

end Delivery

end Scene

end TerminalLane

end AgentBash
