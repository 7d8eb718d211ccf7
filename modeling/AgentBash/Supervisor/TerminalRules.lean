import AgentBash.Supervisor.TerminalMoves

/-!
# Rules of the terminal lane

A fact about the scene that the others leave alone, and that does not depend on a record beyond
its verdict, may stand in front of any request. The rules here say what a request that the lane
looks at makes of such facts; a script that looks elsewhere leaves all of them.
-/

namespace AgentBash

set_option autoImplicit false

open Durable

namespace TerminalLane

variable [setting : Setting] {policy : System.Policy legacySystem} {pid : Nat} {α β : Type}
  {p q : Scene → Prop}

/-- What the outside is promised: whether there is a registration can be told, and nobody who is
alive is missing from the process table. -/
structure Lawful (policy : System.Policy legacySystem) : Prop where
  registration : ∀ {pid error disk},
    ¬ policy.call pid (.read File.registration) (.fault error) disk
  present : ∀ {pid table disk other},
    policy.call pid (.external .processTable) (.outside (.processes table)) disk →
    disk.live other → table (setting.identityOf other) ≠ .notFound

/-- A result tells one thing by its value and another one by its error. -/
abbrev outcome (value : α → Scene → Prop) (error : IoError → Scene → Prop) :
    Except IoError α → Scene → Prop
  | .ok result => value result
  | .error failure => error failure

abbrev Triple (policy : System.Policy legacySystem) (pid : Nat) (p : Scene → Prop)
    (script : Script α) (q : Except IoError α → Scene → Prop) : Prop :=
  Spec (watch.discipline LegacyEntry.program) policy pid (fun view => p (scene view)) script
    fun result view => q result (scene view)

abbrev Stays (policy : System.Policy legacySystem) (pid : Nat) (p : Scene → Prop)
    (script : Script α) : Prop :=
  Triple policy pid p script fun _ => p

theorem Triple.bind {script : Script α} {rest : α → Script β}
    {Q : Except IoError α → Scene → Prop} {R : Except IoError β → Scene → Prop}
    (first : Triple policy pid p script Q)
    (value : ∀ value, Triple policy pid (Q (.ok value)) (rest value) R)
    (error : ∀ error s, Q (.error error) s → R (.error error) s) :
    Triple policy pid p (script >>= rest) R :=
  Spec.bind first value fun failure view _ holds => error failure (scene view) holds

theorem scene_of_moves {whose : Nat → Prop} {before after : View}
    (moves : watch.toStakes.Moves whose before after) : (scene before).Moves whose (scene after) where
  lasts := moves.lasts
  lock pid among held := moves.respects pid among Stake.lock held
  right pid among sole := moves.respects pid among Stake.right sole
  office among kept := by
    obtain ⟨⟨-, still⟩, same⟩ := moves.respects setting.keeper among Stake.office ⟨rfl, kept⟩
    exact ⟨still, same⟩
  apart pid among born absent := (moves.respects pid among Stake.apart ⟨born, absent⟩).1.2

/-- A process that does not hold the completion lock. -/
structure Apart (pid : Nat) (s : Scene) : Prop where
  born : pid < s.next
  absent : pid ∉ s.holders

theorem Apart.leave {s : Scene} (inv : s.Inv) (born : pid < s.next) : Apart pid (s.leave pid) where
  born := born
  absent holds := by
    by_cases held : pid ∈ s.holders
    · simp [Scene.leave, (inv.peopled.holder pid held).1] at holds
    · rw [Scene.leave_absent held] at holds
      exact held holds

/-- A fact that a process may count on until it makes its next step. -/
structure Fact (pid : Nat) (p : Scene → Prop) : Prop where
  stable : ∀ {s t : Scene}, s.Inv → t.Inv → s.Moves (· = pid) t → p s → p t
  rewritten : ∀ {s : Scene} {record : Meta}, record.verdict = s.verdict → p s →
    p { s with record := some record }

namespace Fact

theorem local_ (fact : Fact pid p) :
    watch.Local LegacyEntry.program pid fun view => p (scene view) where
  stable inv holds moved inv' := fact.stable inv inv' (scene_of_moves moved) holds
  same {before after ghost} same holds := by
    change p (scene (after, ghost))
    rw [scene_same same]
    exact holds

theorem top : Fact pid fun _ => True := ⟨fun _ _ _ _ => trivial, fun _ _ => trivial⟩

theorem pure (known : Prop) : Fact pid fun _ => known := ⟨fun _ _ _ holds => holds, fun _ holds => holds⟩

theorem and (left : Fact pid p) (right : Fact pid q) : Fact pid fun s => p s ∧ q s where
  stable inv inv' moved holds :=
    ⟨left.stable inv inv' moved holds.1, right.stable inv inv' moved holds.2⟩
  rewritten same holds := ⟨left.rewritten same holds.1, right.rewritten same holds.2⟩

theorem or (left : Fact pid p) (right : Fact pid q) : Fact pid fun s => p s ∨ q s where
  stable inv inv' moved holds :=
    holds.imp (left.stable inv inv' moved) (right.stable inv inv' moved)
  rewritten same holds := holds.imp (left.rewritten same) (right.rewritten same)

theorem decided : Fact pid Scene.Decided where
  stable _ _ moved holds := moved.lasts.decided holds
  rewritten same holds := holds.imp (fun settled => by rwa [← same] at settled) id

theorem fits (record : Meta) : Fact pid (Scene.Fits · record) where
  stable _ _ moved holds := moved.lasts.fits holds
  rewritten _ holds := ⟨holds.mode, holds.whole, holds.names⟩

theorem follows (record : Meta) : Fact pid (Scene.Follows · record) where
  stable _ _ moved holds := moved.lasts.follows holds
  rewritten same holds :=
    ⟨⟨holds.fits.mode, holds.fits.whole, holds.fits.names⟩,
      (decided : Fact pid Scene.Decided).rewritten same holds.decided, holds.same.trans same.symm⟩

theorem mayPublish : Fact pid (Scene.MayPublish pid) where
  stable _ _ moved holds :=
    holds.imp (fun sole => (moved.right pid rfl sole).1) moved.lasts.anyone
  rewritten _ holds := holds

theorem apart : Fact pid (Apart pid) where
  stable _ _ moved holds :=
    ⟨lt_of_lt_of_le holds.born moved.lasts.next, moved.apart pid rfl holds.born holds.absent⟩
  rewritten _ holds := ⟨holds.born, holds.absent⟩

theorem sole : Fact pid fun s => s.tenure = .sole pid where
  stable _ _ moved holds := (moved.right pid rfl holds).1
  rewritten _ holds := holds

theorem ward (child : Nat) (record : Meta) : Fact pid fun s => s.ghost.wards child = some record where
  stable _ _ moved holds := moved.lasts.wards child record holds
  rewritten _ holds := holds

theorem delegate (child : Nat) : Fact pid fun s => s.ghost.delegate = some child where
  stable _ _ moved holds := moved.lasts.delegate child holds
  rewritten _ holds := holds

theorem settled : Fact pid fun s => s.verdict ≠ none where
  stable _ _ moved holds := by
    rw [moved.lasts.verdict (.inl holds)]
    exact holds
  rewritten same holds := by rwa [← same] at holds

theorem implied (known : Prop) (fact : Fact pid q) : Fact pid fun s => known → q s where
  stable inv inv' moved holds given := fact.stable inv inv' moved (holds given)
  rewritten same holds given := fact.rewritten same (holds given)

end Fact

/-- A record that was read still has the verdict of the handle: that one is settled, or it is the
reader's own. -/
structure Current (pid : Nat) (record : Meta) (s : Scene) : Prop where
  owner : s.Decided ∨ s.tenure = .sole pid
  fits : s.Fits record
  same : record.verdict = s.verdict

theorem Fact.current (record : Meta) : Fact pid (Current pid record) where
  stable {s t} inv inv' moved holds := by
    refine ⟨(Fact.decided.or Fact.sole).stable inv inv' moved holds.owner,
      moved.lasts.fits holds.fits, holds.same.trans ?_⟩
    rcases holds.owner with decided | sole
    · exact (moved.lasts.verdict decided).symm
    · exact (moved.right pid rfl sole).2.symm
  rewritten same holds :=
    ⟨(Fact.decided.or Fact.sole).rewritten same holds.owner,
      ⟨holds.fits.mode, holds.fits.whole, holds.fits.names⟩, holds.same.trans same.symm⟩

theorem Scene.Deliverable.owner {s : Scene} (may : s.Deliverable pid) :
    s.Decided ∨ s.tenure = .sole pid :=
  may.imp id fun office => office.2.2.1

section Scenes

omit setting

theorem files_put {disk : HandleDisk} {file : File} (content : Option file.Content) :
    (disk.put (L := layout) file content).files =
      Function.update (β := fun file : File => Option file.Content) disk.files file content := rfl

theorem scene_meta (view : View) (record : Meta) (ghost : Ghost) :
    scene (view.1.write (L := layout) File.metaJson record, ghost) =
      { scene view with record := some record, ghost := ghost } := by
  unfold scene Disk.write
  rw [files_put]
  simp [Disk.put]
  rfl

theorem scene_rc (view : View) (rc : Int) (ghost : Ghost) :
    scene (view.1.write (L := layout) File.rc rc, ghost) =
      { scene view with rcFile := some rc, ghost := ghost } := by
  unfold scene Disk.write
  rw [files_put]
  simp [Disk.put]
  rfl

theorem scene_marker (view : View) (marker : Option File.acceptedCancel.Content) (ghost : Ghost) :
    scene (view.1.put (L := layout) File.acceptedCancel marker, ghost) =
      { scene view with marker := marker.isSome, ghost := ghost } := by
  unfold scene
  rw [files_put]
  simp [Disk.put]

theorem scene_acquire (view : View) (ghost : Ghost) :
    scene (view.1.acquire (L := layout) Lock.completion pid, ghost) =
      { scene view with holders := [pid], ghost := ghost } := by
  simp [scene, Disk.acquire]

theorem scene_release (view : View) :
    scene (view.1.release (L := layout) Lock.completion pid, ((scene view).leave pid).ghost) =
      (scene view).leave pid := by
  simp [scene, Disk.release, Scene.leave]

theorem scene_finish (view : View) (status : Option Nat) :
    scene (view.1.finish pid status, ((scene view).leave pid).ghost) =
      ((scene view).leave pid).ending pid status := rfl

theorem scene_keepOnly (view : View) (apart : Apart pid (scene view)) :
    scene (view.1.keepOnly (L := layout) Lock.delivery pid, view.2) = scene view := by
  have absent : pid ∉ view.1.held Lock.completion := apart.absent
  simp [scene, Disk.keepOnly, List.erase_of_not_mem absent]

theorem scene_birth {parent : Option Nat} (view : View) (ghost : Ghost)
    (apart : ∀ pid, parent = some pid → pid ∉ (scene view).holders) :
    scene (view.1.birth parent, ghost) = (scene view).birth ghost := by
  have held : (view.1.birth parent).held Lock.completion = view.1.held Lock.completion := by
    unfold Disk.birth
    cases parent with
    | none => rfl
    | some pid =>
        have absent : pid ∉ view.1.held Lock.completion := apart pid rfl
        simp [absent]
  simp only [scene, held]
  rfl

end Scenes

theorem reaches_of_leads {view : View} {after : HandleDisk} {M : View → Prop} (ghost : Ghost)
    (leads : Scene.Leads pid (scene view) (scene (after, ghost))) (holds : M (after, ghost)) :
    watch.Reaches pid view after M :=
  ⟨ghost, leads.inv, Scene.moves_of_scene leads.moves, holds⟩

section Requests

variable {Q : Except IoError α → Scene → Prop}

theorem Fact.steady {script : Script α} (fact : Fact pid p)
    (made : script.Makes concern.Beside) : Stays policy pid p script :=
  Watch.steady fact.local_ made

theorem readMeta_spec {Q : Except IoError Meta → Scene → Prop} (fact : Fact pid p)
    (found : ∀ s record, s.Inv → p s → s.record = some record → Q (.ok record) s)
    (failed : ∀ error s, s.Inv → p s → Q (.error error) s) : Triple policy pid p readMeta Q := by
  unfold readMeta readFile
  refine Watch.ask fact.local_.stable (fun _ => nofun)
    (fun _ error view _ _ inv holds => failed error (scene view) inv holds) ?_
  intro view answer after inv holds _ _ performed
  simp only [Request.perform] at performed
  split at performed <;> obtain ⟨rfl, rfl⟩ := Prod.mk.inj (Option.some.inj performed)
  · next record present => exact .idle inv (found (scene view) record inv holds present)
  · exact .idle inv (failed _ (scene view) inv holds)

theorem replaceMeta_spec {record : Meta} (fact : Fact pid p)
    (written : ∀ s : Scene, s.Inv → p s →
      Scene.Leads pid s { s with record := some record } ∧ q { s with record := some record }) :
    Triple policy pid p (replaceFile .metaJson record) (outcome (fun _ => q) fun _ => p) := by
  refine Watch.ask fact.local_.stable (fun _ => nofun) (fun _ _ _ _ _ _ holds => holds) ?_
  intro view answer after inv holds _ _ performed
  obtain ⟨rfl, rfl⟩ := Prod.mk.inj (Option.some.inj performed)
  obtain ⟨leads, known⟩ := written (scene view) inv holds
  exact reaches_of_leads view.2 ((scene_meta view record view.2).symm ▸ leads)
    ((scene_meta view record view.2).symm ▸ known)

theorem replaceRc_spec {rc : Int} (fact : Fact pid p)
    (written : ∀ s : Scene, s.Inv → p s → s.holders = [pid] ∧ s.verdict = none ∧
      q { s with rcFile := some rc }) :
    Triple policy pid p (replaceFile .rc rc) (outcome (fun _ => q) fun _ => p) := by
  refine Watch.ask fact.local_.stable (fun _ => nofun) (fun _ _ _ _ _ _ holds => holds) ?_
  intro view answer after inv holds _ _ performed
  obtain ⟨rfl, rfl⟩ := Prod.mk.inj (Option.some.inj performed)
  obtain ⟨held, open_, known⟩ := written (scene view) inv holds
  exact reaches_of_leads view.2
    ((scene_rc view rc view.2).symm ▸ Scene.Inv.writeRc inv held open_)
    ((scene_rc view rc view.2).symm ▸ known)

omit setting in
theorem syncDirectory_beside : syncDirectory.Makes concern.Beside := .ask trivial

/-- An atomic write may report an error after the new content is in place. -/
theorem atomicWrite_spec {file : File} {content : file.Content} (after : Fact pid q)
    (replaced : Triple policy pid p (replaceFile file content) (outcome (fun _ => q) fun _ => p)) :
    Triple policy pid p (atomicWrite file content)
      (outcome (fun _ => q) fun _ s => p s ∨ q s) := by
  refine Spec.bind replaced (fun _ => ?_) fun _ _ _ holds => .inl holds
  exact (after.steady syncDirectory_beside).relax fun result _ _ holds => by
    cases result with
    | ok _ => exact holds
    | error _ => exact .inr holds

omit setting in
theorem readDeliveryMode_beside : readDeliveryMode.Makes concern.Beside := by
  refine .bind (.handle (.ask trivial) fun result => ?_) fun _ => .pure
  cases result with
  | ok content => exact .pure
  | error error => exact .branch .pure .throw

/-- The mirror of the mode is the only part of a record that its writer does not choose. -/
theorem writeMetaAtomic_spec {record : Meta} (before : Fact pid p) (after : Fact pid q)
    (written : ∀ mode (s : Scene), s.Inv → p s →
      Scene.Leads pid s { s with record := some { record with deliveryMode := mode } } ∧
        q { s with record := some { record with deliveryMode := mode } }) :
    Triple policy pid p (writeMetaAtomic record) (outcome (fun _ => q) fun _ s => p s ∨ q s) := by
  refine Spec.handle (before.steady readDeliveryMode_beside) fun result => ?_
  cases result with
  | ok mode => exact atomicWrite_spec after (replaceMeta_spec before fun s => written mode s)
  | error _ =>
      exact atomicWrite_spec after (replaceMeta_spec before fun s => written record.deliveryMode s)

/-- A record with the verdict of the handle may be written over and over. -/
theorem rewriteMeta_spec {record : Meta} (fact : Fact pid p)
    (current : ∀ s : Scene, s.Inv → p s → s.Fits record ∧ record.verdict = s.verdict) :
    Stays policy pid p (writeMetaAtomic record) := by
  refine (writeMetaAtomic_spec fact fact fun mode s inv holds => ?_).relax
    fun result _ _ holds => ?_
  · obtain ⟨fits, same⟩ := current s inv holds
    have same' : ({ record with deliveryMode := mode } : Meta).verdict = s.verdict := same
    exact ⟨inv.rewrite ⟨fits.mode, fits.whole, fits.names⟩ same', fact.rewritten same' holds⟩
  · cases result with
    | ok _ => exact holds
    | error _ => exact holds.elim id id

theorem continuationEnabled_spec (lawful : Lawful policy) (fact : Fact pid p) :
    Triple policy pid p continuationEnabled fun result s => result = .ok false ∧ p s := by
  refine Spec.handle (Q := fun result view =>
    (∃ error, result = .error error ∧ error.kind = .notFound) ∧ p (scene view)) ?_ fun result => ?_
  · refine Watch.ask fact.local_.stable (fun _ => nofun)
      (fun _ error view _ permitted _ _ => (lawful.registration permitted).elim) ?_
    intro view answer after inv holds _ _ performed
    have absent : view.1.files File.registration = none := by
      have legacy : (view.1.files File.registration).isSome = false := inv.legacy
      simpa using legacy
    simp only [Request.perform, absent] at performed
    obtain ⟨rfl, rfl⟩ := Prod.mk.inj (Option.some.inj performed)
    exact .idle inv ⟨⟨_, rfl, rfl⟩, holds⟩
  · cases result with
    | ok _ =>
        refine Spec.pure fun _ _ holds => ?_
        obtain ⟨⟨_, same, -⟩, -⟩ := holds
        cases same
    | error error =>
        refine Spec.pure fun _ _ holds => ?_
        obtain ⟨⟨_, same, missing⟩, known⟩ := holds
        cases same
        exact ⟨by simp [missing], known⟩

theorem explicitCancelAccepted_spec (fact : Fact pid p) :
    Triple policy pid p explicitCancelAccepted
      (outcome (fun accepted s => p s ∧ accepted = s.marker) fun _ => p) := by
  unfold explicitCancelAccepted durableMarkerExists tryExists readOptional
  refine Spec.bind (Q := byResult (fun (content : Option Unit) view =>
    p (scene view) ∧ content.isSome = (scene view).marker) fun _ view => p (scene view)) ?_
    (fun _ => .pure fun _ _ holds => holds) fun _ _ _ holds => holds
  refine Spec.handle (Q := fun result view => p (scene view) ∧ (match result with
    | .ok _ => (scene view).marker = true
    | .error error => error.kind = .notFound → (scene view).marker = false)) ?_ fun result => ?_
  · refine Watch.ask fact.local_.stable (fun _ => nofun) (fun _ error view plain _ _ holds =>
      ⟨holds, fun missing => ?_⟩) ?_
    · simp [IoError.plain, missing] at plain
    intro view answer after inv holds _ _ performed
    simp only [Request.perform] at performed
    split at performed <;> obtain ⟨rfl, rfl⟩ := Prod.mk.inj (Option.some.inj performed)
    · next present => exact .idle inv ⟨holds, by simp [scene, present]⟩
    · next absent => exact .idle inv ⟨holds, fun _ => by simp [scene, absent]⟩
  · cases result with
    | ok _ => exact Spec.pure fun _ _ holds => ⟨holds.1, holds.2.symm⟩
    | error error =>
        refine Spec.branch (fun missing => ?_) fun _ => Spec.throw fun _ _ holds => holds.1
        exact Spec.pure fun _ _ holds => ⟨holds.1, (holds.2 missing).symm⟩

end Requests

section Locks

theorem lock_spec (fact : Fact pid p)
    (entered : ∀ s : Scene, s.Inv → p s → s.holders = [] → pid < s.next →
      q { s with holders := [pid] }) :
    Triple policy pid p (lock .completion) (outcome (fun _ => q) fun _ => p) := by
  refine Watch.ask fact.local_.stable (fun _ => nofun) (fun _ _ _ _ _ _ holds => holds) ?_
  intro view answer after inv holds live _ performed
  simp only [Request.perform] at performed
  split at performed
  · next free =>
    obtain ⟨rfl, rfl⟩ := Prod.mk.inj (Option.some.inj performed)
    exact reaches_of_leads view.2
      ((scene_acquire view view.2).symm ▸ Scene.Inv.acquire inv free live.1)
      ((scene_acquire view view.2).symm ▸ entered (scene view) inv holds free live.1)
  · cases performed

theorem unlock_spec (fact : Fact pid p)
    (left : ∀ s : Scene, s.Inv → pid < s.next → p s → q (s.leave pid)) :
    Triple policy pid p (unlock .completion) (outcome (fun _ => q) fun _ _ => False) := by
  refine Watch.ask fact.local_.stable (fun _ => nofun) (fun may => nomatch may) ?_
  intro view answer after inv holds live _ performed
  obtain ⟨rfl, rfl⟩ := Prod.mk.inj (Option.some.inj performed)
  exact reaches_of_leads ((scene view).leave pid).ghost
    ((scene_release view).symm ▸ Scene.Inv.leave inv pid)
    ((scene_release view).symm ▸ left (scene view) inv live.1 holds)

theorem unlockBeside_spec {name : Lock} (other : name ≠ .completion) (fact : Fact pid p) :
    Triple policy pid p (unlock name) (outcome (fun _ => p) fun _ _ => False) := by
  refine Watch.beside fact.local_ other (fun _ => nofun) (fun may => nomatch may) ?_
  intro view answer after inv _ performed kept
  obtain ⟨rfl, rfl⟩ := Prod.mk.inj (Option.some.inj performed)
  exact kept

theorem locked_spec {body : Script α} {inside : Scene → Prop} {Q Q' : Except IoError α → Scene → Prop}
    (fact : Fact pid p) (settled : ∀ result, Fact pid (Q result))
    (entered : ∀ s : Scene, s.Inv → p s → s.holders = [] → pid < s.next →
      inside { s with holders := [pid] })
    (refused : ∀ error s, s.Inv → p s → Q' (.error error) s)
    (within : Triple policy pid inside body Q)
    (left : ∀ result (s : Scene), s.Inv → pid < s.next → Q result s → Q' result (s.leave pid)) :
    Triple policy pid p (locked .completion body) Q' := by
  refine Spec.bind (lock_spec fact entered) (fun _ => ?_) fun error view inv holds =>
    refused error (scene view) inv holds
  refine Spec.handle within fun result => ?_
  refine Spec.bind (unlock_spec (settled result) (left result)) (fun _ => ?_)
    fun _ _ _ holds => holds.elim
  exact .ofExcept fun _ _ holds => holds

/-- A holder keeps what the lock keeps. -/
structure Holding (pid : Nat) (standing : Option Verdict × Option Int × Bool × Bool) (s : Scene) :
    Prop where
  held : s.holders = [pid]
  standing : s.standing = standing

theorem Fact.holding (standing : Option Verdict × Option Int × Bool × Bool) :
    Fact pid (Holding pid standing) where
  stable _ _ moved holds := by
    obtain ⟨held, same⟩ := moved.lock pid rfl holds.held
    exact ⟨held, same.trans holds.standing⟩
  rewritten {s record} same holds := by
    refine ⟨holds.held, Eq.trans ?_ holds.standing⟩
    have verdict : ({ s with record := some record } : Scene).verdict = s.verdict := same
    simp only [Scene.standing, Scene.accepted, verdict]

end Locks

section Processes

theorem finish_reaches {view : View} (status : Option Nat) (inv : watch.Inv view)
    (live : view.1.live pid) :
    ∃ ghost, watch.Inv (view.1.finish pid status, ghost) ∧
      watch.toStakes.Moves (· ≠ pid) view (view.1.finish pid status, ghost) := by
  have running : ((scene view).leave pid).ended pid = none := live.2
  have left := Scene.Inv.leave inv pid
  have leads := left.trans (left.inv.ending status running)
  refine ⟨((scene view).leave pid).ghost, ?_, Scene.moves_of_scene ?_⟩
  · change (scene _).Inv
    rw [scene_finish]
    exact leads.inv
  · rw [scene_finish]
    exact leads.moves

theorem exit_spec {code : Nat} {Q : Except IoError α → Scene → Prop} (fact : Fact pid p) :
    Triple policy pid p (Io.exit code : Script α) Q :=
  Spec.exit fact.local_.stable fun _ inv _ live => finish_reaches _ inv live

theorem safe_of_triple {script : Script α} {status : Except IoError α → Nat} {view : View}
    {Q : Except IoError α → Scene → Prop} (triple : Triple policy pid p script Q)
    (settled : ∀ result, Fact pid (Q result)) (inv : watch.Inv view) (holds : p (scene view)) :
    Safe (watch.discipline LegacyEntry.program) policy (script.program status) pid view :=
  Spec.safe triple inv holds (fun result => (settled result).local_.stable)
    fun _ _ inv _ live => finish_reaches _ inv live

theorem waitPid_spec {child : Nat} {Q : Except IoError (Option Nat) → Scene → Prop}
    (fact : Fact pid p)
    (reaped : ∀ s status, s.Inv → p s → s.ended child = some status → Q (.ok status) s) :
    Triple policy pid p (waitPid child) Q := by
  refine Watch.ask fact.local_.stable (fun _ => nofun) (fun may => nomatch may) ?_
  intro view answer after inv holds _ _ performed
  simp only [Request.perform] at performed
  split at performed
  · next status ended =>
    obtain ⟨rfl, rfl⟩ := Prod.mk.inj (Option.some.inj performed)
    exact .idle inv (reaped (scene view) status inv holds ended)
  · cases performed

theorem self_spec (fact : Fact pid p) {q : Nat → Scene → Prop} (known : ∀ s, p s → q pid s) :
    Triple policy pid p (Io.ask (L := layout) (E := outside) .self)
      (outcome q fun _ _ => False) := by
  refine Watch.ask fact.local_.stable (fun _ => nofun) (fun may => nomatch may) ?_
  intro view answer after inv holds _ _ performed
  obtain ⟨rfl, rfl⟩ := Prod.mk.inj (Option.some.inj performed)
  exact .idle inv (known (scene view) holds)

/-- Behind an open gate the child may count on what it was given. -/
theorem enterGate_spec {record : Meta} (fact : Fact pid p)
    (ward : ∀ s, p s → s.ghost.wards pid = some record) :
    Triple policy pid p enterGate
      (outcome (fun entered s => p s ∧ (entered = true → s.Follows record)) fun _ _ => False) := by
  refine Watch.ask fact.local_.stable (fun _ => nofun) (fun may => nomatch may) ?_
  intro view answer after inv holds _ _ performed
  simp only [Request.perform] at performed
  split at performed
  · next opened =>
    obtain ⟨rfl, rfl⟩ := Prod.mk.inj (Option.some.inj performed)
    have admitted : (scene view).Follows record := (inv.wards pid record (ward _ holds)).2 opened
    exact .idle inv ⟨holds, fun _ => admitted⟩
  · split at performed
    · obtain ⟨rfl, rfl⟩ := Prod.mk.inj (Option.some.inj performed)
      exact .idle inv ⟨holds, fun entered => by cases entered⟩
    · cases performed

theorem keepDelivery_spec (fact : Fact pid p) (apart : ∀ s, p s → Apart pid s) :
    Stays policy pid p (keepOnly .delivery) := by
  refine Watch.ask fact.local_.stable (fun _ => nofun) (fun may => nomatch may) ?_
  intro view answer after inv holds _ _ performed
  obtain ⟨rfl, rfl⟩ := Prod.mk.inj (Option.some.inj performed)
  have same := scene_keepOnly view (apart _ holds)
  refine reaches_of_leads view.2 ?_ ?_
  · rw [same]
    exact ⟨inv, .of_frame (.refl _) rfl rfl rfl rfl rfl⟩
  · change p (scene _)
    rw [same]
    exact holds

theorem admitChild_spec {child : Nat} (record : Meta) (fact : Fact pid p)
    (known : ∀ s : Scene, p s → s.ghost.wards child = some record ∧ s.Fits record ∧
      record.verdict = s.verdict ∧ s.Deliverable pid)
    (kept : ∀ (s : Scene) renounced, p s → q (s.unlatch child renounced)) :
    Triple policy pid p (admitChild child)
      (outcome (fun _ s => q s ∧ s.Follows record) fun _ _ => False) := by
  refine Watch.ask fact.local_.stable (fun _ => nofun) (fun may => nomatch may) ?_
  intro view answer after inv holds _ _ performed
  obtain ⟨rfl, rfl⟩ := Prod.mk.inj (Option.some.inj performed)
  obtain ⟨ward, fits, same, may⟩ := known _ holds
  obtain ⟨renounced, leads, follows⟩ := Scene.Inv.unlatch inv ward fits same may
  exact reaches_of_leads { view.2 with renounced } leads ⟨kept _ renounced holds, follows⟩

theorem dismissChild_spec {child : Nat} (fact : Fact pid p)
    (kept : ∀ s : Scene, p s → p { s with gates := Function.update s.gates child .closed }) :
    Stays policy pid p (dismissChild child) := by
  refine Watch.ask fact.local_.stable (fun _ => nofun) (fun may => nomatch may) ?_
  intro view answer after inv holds _ _ performed
  obtain ⟨rfl, rfl⟩ := Prod.mk.inj (Option.some.inj performed)
  exact reaches_of_leads view.2 (Scene.Inv.dismiss inv) (kept _ holds)

/-- A completion helper is started where the verdict cannot change any more. -/
theorem spawnCompletion_spec (fact : Fact pid p) (decided : ∀ s : Scene, p s → s.Decided)
    (counted : ∀ s : Scene, p s → p { s with completions := s.completions + 1 }) :
    Stays policy pid p (outsideAsk (.spawnHelper .complete)) := by
  refine Watch.external fact.local_.stable ?_
  intro view choice answer world inv holds _ _ acted
  cases choice with
  | agree =>
      obtain ⟨rfl, rfl⟩ := Prod.mk.inj (Option.some.inj acted)
      exact reaches_of_leads view.2 (Scene.Inv.deliver inv (decided _ holds)) (counted _ holds)
  | fail error =>
      obtain ⟨rfl, rfl⟩ := Prod.mk.inj (Option.some.inj acted)
      exact .idle inv holds
  | _ => cases acted

/-- A fork. The parent keeps its facts; what the child may count on is read off the birth. -/
theorem spawn_spec {script : Script β} {status : Except IoError β → Nat}
    {final : Nat → Except IoError β → Scene → Prop} (ward : Option Meta)
    (first : Nat → Scene → Prop) (fact : Fact pid p) (apart : ∀ s, p s → Apart pid s)
    (settled : ∀ child result, Fact child (final child result))
    (verified : ∀ child, Triple policy child (first child) script (final child))
    (born : ∀ s : Scene, s.Inv → p s → ∀ t : Scene, t.Inv → s.Lasts t → Apart s.next t →
      t.ghost.wards s.next = ward → t.verdict = s.verdict → first s.next t) :
    Triple policy pid p (Io.spawn (script.program status))
      (outcome (fun child s => p s ∧ ∀ born, child = some born → s.ghost.wards born = ward)
        fun _ _ => False) := by
  refine Spec.spawn fact.local_.stable (fun _ _ holds => ⟨holds, nofun⟩) ?_
  intro view inv holds _
  have absent := (apart _ holds).absent
  have newborn : scene ((system layout outside LegacyEntry.program).birth (some pid) view.1,
      view.2.adopt view.1.next ward) = (scene view).birth (view.2.adopt view.1.next ward) :=
    scene_birth view _ fun other same => Option.some.inj same ▸ absent
  obtain ⟨inv', moves⟩ := Scene.Inv.birth ward (· = pid) inv
  have promise := (Scene.Inv.birth ward (· ≠ pid) inv).2
  have given : ((scene view).birth (view.2.adopt view.1.next ward)).ghost.wards view.1.next =
    ward := Function.update_self _ _ _
  have alone : Apart view.1.next ((scene view).birth (view.2.adopt view.1.next ward)) :=
    ⟨Nat.lt_succ_self _, fun held => Nat.lt_irrefl _ (inv.peopled.holder _ held).2⟩
  have safe : watch.Inv ((system layout outside LegacyEntry.program).birth (some pid) view.1,
      view.2.adopt view.1.next ward) := by
    change (scene _).Inv
    rw [newborn]
    exact inv'
  refine ⟨view.2.adopt view.1.next ward, safe, ?_, safe_of_triple (verified _) (settled _) safe ?_,
    ?_⟩
  · apply Scene.moves_of_scene
    rw [newborn]
    exact promise
  · rw [newborn]
    exact born _ inv holds _ inv' moves.lasts alone given rfl
  · change p (scene _) ∧ _
    rw [newborn]
    refine ⟨fact.stable inv inv' moves holds, fun child same => ?_⟩
    cases same
    exact given

theorem park_spec {Q : Except IoError Unit → Scene → Prop} : Triple policy pid p park Q := by
  intro next view _ _ _ now _ _ _ choice answer after _ served
  rcases Request.serve_cases served with ⟨_, performed⟩ | ⟨_, may, _⟩ | ⟨_, _, _, _, same, _⟩
  · cases performed
  · cases may
  · cases same

end Processes

end TerminalLane

end AgentBash
