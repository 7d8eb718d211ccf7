import AgentBash.Supervisor.TerminalPublication

/-!
# Calls from outside

Status, list, cancel, detach and mode calls have no right of their own to the verdict. A status or
list call comes by one when it sees that the supervisor of a handle that completes on exit is
gone, and a cancellation only ever adds to what the next publisher has to heed.
-/

namespace AgentBash

set_option autoImplicit false

open Durable

namespace TerminalLane

variable [setting : Setting] {policy : System.Policy legacySystem} {pid : Nat} {p : Scene → Prop}
  {record : Meta} {role external : Bool}

section Lost

/-- A record that was read: it belongs to the handle, and it is final if it is terminal. -/
abbrev Grounded (record : Meta) (s : Scene) : Prop :=
  s.Fits record ∧ (terminal record = true → s.Follows record)

theorem Fact.grounded (record : Meta) : Fact pid (Grounded record) :=
  (Fact.fits record).and (.implied _ (.follows record))

theorem readGrounded_spec (fact : Fact pid p) :
    Triple policy pid p readMeta (outcome (fun record s => p s ∧ Grounded record s) fun _ => p) := by
  refine readMeta_spec fact (fun s record inv known present => ?_) fun _ _ _ known => known
  obtain ⟨stored, same, fits⟩ := inv.recorded
  obtain rfl : stored = record := Option.some.inj (same.symm.trans present)
  have verdict : s.verdict = stored.verdict := by simp [Scene.verdict, present]
  refine ⟨known, fits, fun final => ⟨fits, .inl ?_, verdict.symm⟩⟩
  rw [verdict, Meta.verdict_of_terminal final]
  exact Option.some_ne_none _

/-- Nobody is found under the name of the supervisor once it is gone, and not before. -/
theorem processTable_spec (boot : String) (lawful : Lawful policy) (fact : Fact pid p)
    (fits : ∀ s : Scene, p s → s.Fits record) (exits : record.mode = .exit) :
    Triple policy pid p (outsideAsk .processTable)
      (outcome (fun table s => p s ∧ (record.supervisorEvidence table boot = .gone →
        s.tenure = .anyone)) fun _ => p) := by
  refine Watch.external fact.local_.stable ?_
  intro view choice answer world inv known _ permitted acted
  cases choice with
  | processes table =>
      obtain ⟨rfl, rfl⟩ := Prod.mk.inj (Option.some.inj acted)
      refine .idle inv ⟨known, fun gone => ?_⟩
      obtain ⟨-, -, number, named, absent⟩ := boot_of_gone gone
      obtain ⟨delegate, supervisor, same⟩ := (fits _ known).names number named
      have born := (inv.peopled.delegate delegate supervisor).2
      have ceased : (scene view).ended delegate ≠ none := fun running =>
        lawful.present permitted ⟨born, running⟩ (same ▸ absent)
      have mode : setting.mode = .exit := (fits _ known).mode.symm.trans exits
      simp only [Scene.tenure, supervisor, if_neg ceased, if_pos mode]
  | _ => cases acted

theorem Fact.anyone : Fact pid fun s => s.tenure = .anyone where
  stable _ _ moved holds := moved.lasts.anyone holds
  rewritten _ holds := holds

theorem exactSupervisorAndWorkloadAreGone_spec (lawful : Lawful policy) (fact : Fact pid p)
    (fits : ∀ s : Scene, p s → s.Fits record) :
    Triple policy pid p (exactSupervisorAndWorkloadAreGone record)
      (outcome (fun gone s => p s ∧ (gone = true → s.tenure = .anyone)) fun _ => p) := by
  refine Spec.branch (fun _ => .pure fun _ _ known => ⟨known, nofun⟩) fun running => ?_
  have exits : record.mode = .exit := by
    simp only [runningExitMode, Bool.not_eq_true', Bool.not_eq_false, Bool.and_eq_true,
      beq_iff_eq] at running
    exact running.2
  refine Spec.bind (fact.steady (outsideAsk_beside nofun)) (fun boot => ?_) fun _ _ _ known => known
  refine Spec.branch (fun _ => .pure fun _ _ known => ⟨known, nofun⟩) fun _ => ?_
  refine Spec.bind (processTable_spec boot lawful fact fits exits) (fun table => ?_)
    fun _ _ _ known => known
  refine Spec.branch (fun gone => ?_) fun _ => .pure fun _ _ known => ⟨known.1, nofun⟩
  have lost : Stays policy pid (fun s => p s ∧ s.tenure = .anyone) (outsideAsk .processTable) :=
    (fact.and .anyone).steady (outsideAsk_beside nofun)
  refine Spec.bind (lost.strengthen fun _ _ known => ⟨known.1, known.2 gone⟩)
    (fun _ => .pure fun _ _ known => ⟨known.1, fun _ => known.2⟩) fun _ _ _ known => known.1

theorem lossIsConclusive_spec {settled : Bool} (lawful : Lawful policy) (fact : Fact pid p)
    (fits : ∀ s : Scene, p s → s.Fits record)
    (guarded : settled = true → ∀ s : Scene, p s → s.MayPublish pid) :
    Triple policy pid p (lossIsConclusive record settled)
      (outcome (fun gone s => p s ∧ (gone = true → s.MayPublish pid)) fun _ => p) := by
  have observed : Triple policy pid p (exactSupervisorAndWorkloadAreGone record)
      (outcome (fun gone s => p s ∧ (gone = true → s.MayPublish pid)) fun _ => p) := by
    refine (exactSupervisorAndWorkloadAreGone_spec lawful fact fits).relax fun result _ _ known => ?_
    cases result with
    | ok _ => exact ⟨known.1, fun gone => .inr (known.2 gone)⟩
    | error _ => exact known
  refine Spec.branch (fun cancelled => ?_) fun _ => observed
  refine Spec.bind (explicitCancelAccepted_spec fact) (fun accepted => ?_) fun _ _ _ known => known
  refine Spec.strengthen (P := fun view => p (scene view)) ?_ fun _ _ known => known.1
  refine Spec.branch (fun _ => .pure fun _ _ known => ?_) fun _ => observed
  exact ⟨known, fun _ => guarded cancelled _ known⟩

variable {disposition : CompletionDeliveryDisposition} {settled : Bool}

/-- The reconciler delivers for a final record, publishes on evidence, or leaves the record. -/
theorem reconcileLocked_spec {Q : Except IoError Meta → Scene → Prop} (lawful : Lawful policy)
    (firm : Firm pid p) (guarded : settled = true → ∀ s : Scene, p s → s.MayPublish pid)
    (delivered : ∀ record, Triple policy pid (fun s => (p s ∧ Apart pid s) ∧ s.Follows record)
      (deliverTerminal record disposition role) Q)
    (published : ∀ record, terminal record = false →
      Triple policy pid (fun s => (p s ∧ s.MayPublish pid ∧ s.Fits record) ∧ Apart pid s) (do
        let published ← publishTerminalWithDeliveryDisposition record false .supervisorLost
          disposition role
        pure published.1) Q)
    (kept : ∀ record s, terminal record = false → (p s ∧ Apart pid s) ∧ s.Fits record →
      Q (.ok record) s)
    (failed : ∀ error s, p s ∧ Apart pid s → Q (.error error) s) :
    Triple policy pid (fun s => p s ∧ Apart pid s)
      (reconcileLostSupervisorLocked disposition settled role) Q := by
  have fact : Fact pid fun s => p s ∧ Apart pid s := firm.fact.and .apart
  refine Spec.bind (readGrounded_spec fact) (fun record => ?_) fun _ view _ known =>
    failed _ (scene view) known
  refine Spec.branch (fun terminated => ?_) fun open_ => ?_
  · exact (delivered record).strengthen fun _ _ known => ⟨known.1, known.2.2 terminated⟩
  have running : terminal record = false := by simpa using open_
  have read : Fact pid fun s => (p s ∧ Apart pid s) ∧ s.Fits record := fact.and (.fits record)
  refine Spec.strengthen (P := fun view => (p (scene view) ∧ Apart pid (scene view)) ∧
    (scene view).Fits record) ?_ fun _ _ known => ⟨known.1, known.2.1⟩
  refine Spec.bind (lossIsConclusive_spec lawful read (fun _ known => known.2)
    fun cancelled s known => guarded cancelled s known.1.1) (fun gone => ?_)
    fun _ view _ known => failed _ (scene view) known.1
  refine Spec.branch (fun conclusive => ?_) fun _ => .pure fun view _ known =>
    kept record (scene view) running known.1
  exact (published record running).strengthen fun _ _ known =>
    ⟨⟨known.1.1.1, known.2 conclusive, known.1.2⟩, known.1.1.2⟩

theorem Firm.publisher (firm : Firm pid p) (record : Meta) :
    Firm pid fun s => p s ∧ s.MayPublish pid ∧ s.Fits record :=
  firm.and (Firm.mayPublish.and (.fits record))

/-- A reconciler that leaves the delivery to others keeps what it knows. -/
theorem reconcilePending_spec (lawful : Lawful policy) (firm : Firm pid p)
    (guarded : settled = true → ∀ s : Scene, p s → s.MayPublish pid) :
    Triple policy pid (fun s => p s ∧ Apart pid s)
      (reconcileLostSupervisorLocked .leavePending settled role)
      (outcome (fun record s => (p s ∧ Apart pid s) ∧ Grounded record s)
        fun _ s => p s ∧ Apart pid s) := by
  refine reconcileLocked_spec lawful firm guarded (fun record => ?_) (fun record running => ?_)
    (fun record s running known => ?_) fun _ _ known => known
  · exact Spec.branch nofun fun _ => .pure fun _ _ known => ⟨known.1, known.2.fits, fun _ => known.2⟩
  · refine Spec.bind (publishTerminal_spec_pending lawful (firm.publisher record)
      (fun _ known => known.2.1) (fun _ known => known.2.2) nofun) (fun published => ?_)
      fun _ _ _ known => ⟨known.1.1.1, known.1.2⟩
    refine .pure fun _ _ known => ⟨⟨known.1.1.1, known.1.2⟩, ?_⟩
    obtain ⟨read, _ | _⟩ := published
    · exact ⟨known.2.fits, fun _ => known.2⟩
    · exact ⟨known.2.1, fun terminated => nomatch (known.2.2.trans running).symm.trans terminated⟩
  · exact ⟨known.1, known.2, fun terminated => nomatch running.symm.trans terminated⟩

theorem reconcileDelivering_spec (lawful : Lawful policy) :
    Stays policy pid (Apart pid) (reconcileLostSupervisorLocked disposition false role) := by
  refine Spec.strengthen (P := fun view => True ∧ Apart pid (scene view)) ?_
    fun _ _ known => ⟨trivial, known⟩
  refine reconcileLocked_spec lawful .top nofun (fun record => ?_) (fun record _ => ?_)
    (fun _ _ _ known => known.1.2) fun _ _ known => known.2
  · refine Spec.branch (fun _ => ?_) fun _ => .pure fun _ _ known => known.1.2
    refine (reconcileCompletionDelivery_spec lawful).weaken (fun _ _ known => ⟨known.2, known.1.2⟩)
      fun result _ _ known => ?_
    cases result with
    | ok _ => exact known.2
    | error _ => exact known
  · exact Spec.bind (publishTerminal_spec_delivering lawful (Firm.top.publisher record)
      (fun _ known => known.2.1) fun _ known => known.2.2) (fun _ => .pure fun _ _ known => known.1)
      fun _ _ _ known => known.1

theorem lockedBeside_spec {α : Type} {name : Lock} {body : Script α}
    {Q : Except IoError α → Scene → Prop} (other : name ≠ .completion) (fact : Fact pid p)
    (settled : ∀ result, Fact pid (Q result)) (refused : ∀ error s, p s → Q (.error error) s)
    (within : Triple policy pid p body Q) : Triple policy pid p (locked name body) Q := by
  refine Spec.bind (fact.steady (.ask other)) (fun _ => ?_) fun error view _ known =>
    refused error (scene view) known
  refine Spec.handle within fun result => ?_
  exact Spec.bind (unlockBeside_spec other (settled result)) (fun _ => .ofExcept fun _ _ known => known)
    fun _ _ _ known => known.elim

theorem reconcileLostSupervisor_spec (lawful : Lawful policy) :
    Stays policy pid (Apart pid) (reconcileLostSupervisor role) :=
  lockedBeside_spec nofun .apart (fun _ => .apart) (fun _ _ known => known)
    (reconcileDelivering_spec lawful)

theorem reconcileLostSupervisorForList_spec (lawful : Lawful policy) :
    Stays policy pid (Apart pid) (reconcileLostSupervisorForList role) :=
  lockedBeside_spec nofun .apart (fun _ => .apart) (fun _ _ known => known)
    (reconcileDelivering_spec lawful)

theorem reconcileAfterGuardian_spec (lawful : Lawful policy) (firm : Firm pid p)
    (guarded : settled = true → ∀ s : Scene, p s → s.MayPublish pid) :
    Triple policy pid (fun s => p s ∧ Apart pid s) (reconcileLostSupervisorAfterGuardian settled role)
      (outcome (fun found s => (p s ∧ Apart pid s) ∧
        ∀ record, found = some record → Grounded record s) fun _ s => p s ∧ Apart pid s) := by
  have fact : Fact pid fun s => p s ∧ Apart pid s := firm.fact.and .apart
  refine Spec.bind (fact.steady (.ask (by simp [concern, Concern.Beside]))) (fun acquired => ?_)
    fun _ _ _ known => known
  refine Spec.branch (fun _ => ?_) fun _ =>
    .pure fun _ _ known => ⟨known, fun _ same => by cases same⟩
  refine Spec.handle (reconcilePending_spec lawful firm guarded) fun result => ?_
  cases result with
  | ok record =>
      refine Spec.bind (unlockBeside_spec (by decide) (fact.and (.grounded record))) (fun _ => ?_)
        fun _ _ _ known => known.elim
      refine Spec.bind (Q := fun result view => result = .ok record ∧ (p (scene view) ∧
        Apart pid (scene view)) ∧ Grounded record (scene view))
        (.ofExcept fun _ _ known => ⟨rfl, known⟩) (fun read => ?_) fun _ _ _ known => by cases known.1
      refine .pure fun _ _ known => ⟨known.2.1, fun found same => ?_⟩
      cases known.1
      cases same
      exact known.2.2
  | error error =>
      refine Spec.bind (unlockBeside_spec (by decide) fact) (fun _ => ?_) fun _ _ _ known => known.elim
      exact Spec.bind (Q := fun result view => result = .error error ∧ p (scene view) ∧
        Apart pid (scene view)) (.ofExcept fun _ _ known => ⟨rfl, known⟩)
        (fun _ => .pure fun _ _ known => by cases known.1) fun _ _ _ known => known.2

theorem reconcileStatusMeta_spec (lawful : Lawful policy) :
    Stays policy pid (Apart pid) reconcileStatusMeta := by
  refine Spec.bind (readGrounded_spec .apart) (fun record => ?_) fun _ _ _ known => known
  refine Spec.branch (fun pending => ?_) fun _ => Spec.branch (fun _ => .pure fun _ _ known => known.1)
    fun _ => (reconcileLostSupervisor_spec lawful).strengthen fun _ _ known => known.1
  have terminated : terminal record = true := by
    simp only [completionDeliveryPending, Bool.and_eq_true] at pending
    exact pending.1
  refine (reconcileCompletionDelivery_spec lawful).weaken
    (fun _ _ known => ⟨known.2.2 terminated, known.1⟩) fun result _ _ known => ?_
  cases result with
  | ok _ => exact known.2
  | error _ => exact known

theorem reconcileListMeta_spec (lawful : Lawful policy) :
    Stays policy pid (Apart pid) reconcileListMeta := by
  refine Spec.bind (readGrounded_spec .apart) (fun record => ?_) fun _ _ _ known => known
  refine Spec.strengthen (P := fun view => Apart pid (scene view)) ?_ fun _ _ known => known.1
  exact Spec.branch (fun _ => .pure fun _ _ known => known)
    fun _ => reconcileLostSupervisorForList_spec lawful

end Lost

section Cancel

variable {q r : Scene → Prop}

theorem createMarker_spec (fact : Fact pid p)
    (create : ∀ s : Scene, s.Inv → p s → s.marker = false →
      s.Leads pid { s with marker := true } ∧ q { s with marker := true }) :
    Triple policy pid p (createFile .acceptedCancel ()) (outcome (fun _ => q) fun _ => p) := by
  refine Watch.ask fact.local_.stable (fun _ => nofun) (fun _ _ _ _ _ _ holds => holds) ?_
  intro view answer after inv holds _ _ performed
  simp only [Request.perform] at performed
  split at performed <;> obtain ⟨rfl, rfl⟩ := Prod.mk.inj (Option.some.inj performed)
  · exact .idle inv holds
  · next absent =>
    obtain ⟨leads, known⟩ := create (scene view) inv holds (by simp [scene, absent])
    exact reaches_of_leads view.2 ((scene_marker view (some ()) view.2).symm ▸ leads)
      ((scene_marker view (some ()) view.2).symm ▸ known)

theorem removeMarker_spec (fact : Fact pid p)
    (remove : ∀ s : Scene, s.Inv → p s →
      s.Leads pid { s with marker := false } ∧ q { s with marker := false }) :
    Triple policy pid p (removeFile .acceptedCancel) (outcome (fun _ => q) fun _ => p) := by
  refine Watch.ask fact.local_.stable (fun _ => nofun) (fun _ _ _ _ _ _ holds => holds) ?_
  intro view answer after inv holds _ _ performed
  simp only [Request.perform] at performed
  split at performed <;> obtain ⟨rfl, rfl⟩ := Prod.mk.inj (Option.some.inj performed)
  · obtain ⟨leads, known⟩ := remove (scene view) inv holds
    exact reaches_of_leads view.2 ((scene_marker view none view.2).symm ▸ leads)
      ((scene_marker view none view.2).symm ▸ known)
  · exact .idle inv holds

/-- An acceptance is created once, and it is taken back if it did not become durable. -/
theorem recordExplicitCancelAcceptance_spec (before : Fact pid p) (made : Fact pid q)
    (final : Fact pid r) (kept : ∀ s, p s → r s) (accepted : ∀ s, q s → r s)
    (create : ∀ s : Scene, s.Inv → p s → s.marker = false →
      s.Leads pid { s with marker := true } ∧ q { s with marker := true })
    (remove : ∀ s : Scene, s.Inv → q s →
      s.Leads pid { s with marker := false } ∧ r { s with marker := false }) :
    Triple policy pid p recordExplicitCancelAcceptance fun _ => r := by
  refine Spec.bind (before.steady syncDirectory_beside) (fun _ => ?_) fun _ _ _ known => kept _ known
  refine Spec.handle (createMarker_spec before create) fun result => ?_
  cases result with
  | error _ =>
      exact Spec.branch (fun _ => .pure fun _ _ known => kept _ known)
        fun _ => .throw fun _ _ known => kept _ known
  | ok _ =>
      refine Spec.handle (made.steady (.bind syncDirectory_beside fun _ => syncDirectory_beside))
        fun result => ?_
      cases result with
      | ok _ => exact .pure fun _ _ known => accepted _ known
      | error _ =>
          have removed : Triple policy pid q (rollbackCreatedMarker .acceptedCancel) fun _ => r := by
            refine Spec.handle (removeMarker_spec made remove) fun result => ?_
            cases result with
            | ok _ => exact final.steady syncDirectory_beside
            | error _ =>
                exact Spec.branch (fun _ => .pure fun _ _ known => accepted _ known)
                  fun _ => .throw fun _ _ known => accepted _ known
          refine Spec.handle removed fun result => ?_
          cases result <;> exact .throw fun _ _ known => known

/-- A handle with a verdict, outside of the lock. -/
abbrev Settled (pid : Nat) (s : Scene) : Prop := s.verdict ≠ none ∧ Apart pid s

theorem Fact.settledApart : Fact pid (Settled pid) := Fact.settled.and .apart

theorem acceptSettled_spec :
    Stays policy pid (Settled pid) recordExplicitCancelAcceptance :=
  recordExplicitCancelAcceptance_spec .settledApart .settledApart .settledApart (fun _ => id)
    (fun _ => id)
    (fun _ inv known _ => ⟨inv.markSettled known.1 true, known.1, known.2.born, known.2.absent⟩)
    fun _ inv known => ⟨inv.markSettled known.1 false, known.1, known.2.born, known.2.absent⟩

theorem acceptTerminalCustodyCancel_spec :
    Stays policy pid (Settled pid) acceptTerminalCustodyCancel := by
  have fact : Fact pid (Settled pid) := .settledApart
  have tried : lockCustody.Makes concern.Beside :=
    .bind (.ask (by simp [concern, Concern.Beside])) fun _ => .branch .pure .throw
  have answered (accepted : Bool) : (answerAdmission accepted).Makes concern.Beside :=
    .branch (.bind (outsideAsk_beside (by simp)) fun _ => .pure) .pure
  have undrained : Stays policy pid (Settled pid) acceptUndrained :=
    Steady.bind (fact.steady tryExists_beside) fun _ => Steady.branch .pure acceptSettled_spec
  have against (recorded boot : BootId) :
      Stays policy pid (Settled pid) (acceptRecordedCustody recorded boot) :=
    Steady.branch .throw (Steady.branch .pure undrained)
  have accepted : Stays policy pid (Settled pid) acceptHoldingCustody := by
    refine Steady.bind (fact.steady readOptional_beside) fun found => ?_
    cases found with
    | none => exact Steady.pure
    | some recorded =>
        exact Steady.bind (fact.steady (outsideAsk_beside (by simp))) fun boot => against recorded boot
  refine Steady.bind (fact.steady tried) fun _ => ?_
  refine Steady.bind (Steady.attempt (Steady.bind accepted fun _ => fact.steady (answered _)))
    fun _ => ?_
  exact Steady.bind (fact.steady (.ask (by simp [concern, Concern.Beside])))
    fun _ => .ofExcept

theorem requestTerminalCancel_spec : Stays policy pid (Settled pid) requestTerminalCancel :=
  Steady.bind acceptTerminalCustodyCancel_spec fun _ => Steady.branch .pure .pure

/-- What a locked request leaves of the verdict. -/
def answered : Except IoError LockedCancel → Scene → Prop
  | .ok .terminalCustody => fun s => s.verdict ≠ none
  | _ => fun _ => True

theorem Fact.answered (result : Except IoError LockedCancel) : Fact pid (answered result) := by
  rcases result with _ | _ | _ | _
  · exact .top
  · exact .settled
  · exact .top
  · exact .top

variable {standing : Option Verdict × Option Int × Bool × Bool} {seen : CancelOutside}

/-- Under the lock an acceptance is new only if nobody counted on it before. -/
theorem acceptLocked_spec {delegate : Nat} (open_ : standing.1 = none) :
    Triple policy pid (Inside pid (fun s => s.ghost.delegate = some delegate) standing)
      recordExplicitCancelAcceptance fun _ s => s.holders = [pid] := by
  have firm : Firm pid fun s => s.ghost.delegate = some delegate :=
    ⟨.delegate delegate, fun same _ known => by
      simp only [Scene.people, Prod.mk.injEq] at same
      rw [same.2.2.1, known]⟩
  have delegated (s : Scene) (known : s.ghost.delegate = some delegate) : s.ghost.delegate ≠ none :=
    Option.ne_none_iff_exists'.mpr ⟨delegate, known⟩
  refine recordExplicitCancelAcceptance_spec firm.inside
    (q := Inside pid (fun s => s.ghost.delegate = some delegate) (none, standing.2.1, true, false))
    firm.inside .held (fun _ known => known.2.held) (fun _ known => known.2.held)
    (fun s inv known absent => ?_) fun s inv known => ?_
  · have same : s.standing = standing := known.2.standing
    have unsettled : s.verdict = none := (congrArg Prod.fst same).trans open_
    have accepted : s.accepted = false := by simp [Scene.accepted, absent]
    have unpledged : s.ghost.pledged = false := by
      by_contra pledged
      rcases inv.pledged.kept (by simpa using pledged) with earlier | ⟨_, settled, -⟩
      · cases accepted.symm.trans earlier
      · cases unsettled.symm.trans settled
    have nobody : s.ghost.pledged = true → true = s.marker :=
      fun pledged => by cases unpledged.symm.trans pledged
    refine ⟨inv.mark known.2.held true (delegated s known.1) nobody, known.1, known.2.held, ?_⟩
    have marked : ({ s with marker := true } : Scene).accepted = true := by
      have now : ({ s with marker := true } : Scene).verdict = none := unsettled
      simp [Scene.accepted, now]
    rw [← same]
    exact Prod.ext unsettled (Prod.ext rfl (Prod.ext marked unpledged))
  · have unpledged : s.ghost.pledged = false := congrArg (·.2.2.2) known.2.standing
    have nobody : s.ghost.pledged = true → false = s.marker :=
      fun pledged => by cases unpledged.symm.trans pledged
    exact ⟨inv.mark known.2.held false (delegated s known.1) nobody, known.2.held⟩

theorem requestCancelLocked_spec :
    Triple policy pid (Inside pid (fun _ => True) standing) (requestCancelLocked seen)
      fun result s => (True ∧ s.holders = [pid]) ∧ answered result s := by
  refine Spec.bind (readCurrent_spec .top) (fun current => ?_)
    fun _ _ _ known => ⟨⟨trivial, known.2.held⟩, trivial⟩
  refine Spec.branch (fun terminated => .pure fun view _ known => ⟨⟨trivial, known.1.2.held⟩, ?_⟩)
    fun open_ => ?_
  · have same : (scene view).verdict = current.verdict :=
      (congrArg Prod.fst known.1.2.standing).trans known.2.2.symm
    change (scene view).verdict ≠ none
    rw [same, Meta.verdict_of_terminal terminated]
    nofun
  refine Spec.branch (fun named => ?_) fun _ => .pure fun _ _ known =>
    ⟨⟨trivial, known.1.2.held⟩, trivial⟩
  obtain ⟨number, recorded⟩ : ∃ number, current.supervisorPid = some number := by
    cases recorded : current.supervisorPid with
    | none => simp [supervisorIdentity, recorded] at named
    | some number => exact ⟨number, rfl⟩
  unfold acceptLiveCancel
  rcases captureCancelSupervisorUsing seen with error | live
  · exact .throw fun _ _ known => ⟨⟨trivial, known.1.2.held⟩, trivial⟩
  cases live with
  | false => exact .pure fun _ _ known => ⟨⟨trivial, known.1.2.held⟩, trivial⟩
  | true =>
      have accepting : ∀ delegate, Triple policy pid
          (fun s => s.ghost.delegate = some delegate ∧ standing.1 = none ∧ Holding pid standing s)
          recordExplicitCancelAcceptance fun _ s => s.holders = [pid] := fun delegate => by
        refine Spec.weaken (P := fun view => standing.1 = none ∧ Inside pid
          (fun s => s.ghost.delegate = some delegate) standing (scene view))
          (Spec.assume acceptLocked_spec) (fun _ _ known => ⟨known.2.1, known.1, known.2.2⟩)
          fun _ _ _ known => known
      refine Spec.bind (Q := fun _ view => (scene view).holders = [pid])
        ((Spec.any accepting).strengthen fun view _ known => ?_) (fun _ => .pure fun _ _ known => ?_)
        fun _ _ _ known => ⟨⟨trivial, known⟩, trivial⟩
      · obtain ⟨delegate, supervisor, -⟩ := known.2.1.names number recorded
        refine ⟨delegate, supervisor, ?_, known.1.2⟩
        rw [← known.2.2]
        exact Meta.verdict_of_open (by simpa using open_)
      · exact ⟨⟨trivial, known⟩, by unfold wakeOutcome; cases seen.wake <;> trivial⟩

theorem finishCancel_spec (lawful : Lawful policy) (locked : LockedCancel) :
    Triple policy pid (fun s => Apart pid s ∧ answered (.ok locked) s) (finishCancel locked)
      fun _ => Apart pid := by
  have lost : Stays policy pid (Apart pid) (reconcileLostSupervisor false) :=
    reconcileLostSupervisor_spec lawful
  cases locked with
  | terminalCustody =>
      exact requestTerminalCancel_spec.weaken (fun _ _ known => ⟨known.2, known.1⟩)
        fun _ _ _ known => known.2
  | lostSupervisor =>
      refine Spec.strengthen (P := fun view => Apart pid (scene view)) ?_ fun _ _ known => known.1
      exact Steady.bind lost fun _ => Steady.pure
  | accepted wake wakeError =>
      refine Spec.strengthen (P := fun view => Apart pid (scene view)) ?_ fun _ _ known => known.1
      refine Steady.branch (Spec.handle lost fun result => ?_) Steady.pure
      cases result <;> exact Steady.pure

theorem waitForSupervisorMetadata_spec (fact : Fact pid p) (polls : Nat) :
    Triple policy pid p (waitForSupervisorMetadata polls)
      (outcome (fun record s => p s ∧ Grounded record s) fun _ => p) := by
  induction polls with
  | zero => exact readGrounded_spec fact
  | succ polls again =>
      refine Spec.bind (readGrounded_spec fact) (fun record => ?_) fun _ _ _ known => known
      exact Spec.branch (fun _ => .pure fun _ _ known => known)
        fun _ => again.strengthen fun _ _ known => known.1

theorem requestCancel_spec (lawful : Lawful policy) :
    Stays policy pid (Apart pid) (requestCancel seen) := by
  refine Spec.bind (waitForSupervisorMetadata_spec .apart seen.polls) (fun record => ?_)
    fun _ _ _ known => known
  refine Spec.branch (fun terminated => ?_) fun _ => ?_
  · refine requestTerminalCancel_spec.weaken (fun _ _ known => ⟨?_, known.1⟩)
      fun _ _ _ known => known.2
    rw [← (known.2.2 terminated).same, Meta.verdict_of_terminal terminated]
    nofun
  · refine Spec.bind ((critical_spec .top .answered (fun _ _ _ => ?_) (fun result _ known => ?_)
      fun _ => requestCancelLocked_spec).strengthen fun _ _ known => ⟨trivial, known.1⟩)
      (fun locked => ?_) fun _ _ _ known => known.1.2
    · trivial
    · rcases result with _ | _ | _ | _
      · trivial
      · exact known
      · trivial
      · trivial
    · exact (finishCancel_spec lawful locked).strengthen fun _ _ known => ⟨known.1.2, known.2⟩

end Cancel

section Detach

variable {mode : DeliveryMode}

theorem repairMirror_spec {standing : Option Verdict × Option Int × Bool × Bool} :
    Triple policy pid (Inside pid (fun _ => True) standing) (repairMirror mode)
      fun _ s => (True ∧ s.holders = [pid]) ∧ True := by
  refine Spec.bind (readCurrent_spec .top) (fun current => ?_)
    fun _ _ _ known => ⟨⟨trivial, known.2.held⟩, trivial⟩
  refine Spec.branch (fun _ => .pure fun _ _ known => ⟨⟨trivial, known.1.2.held⟩, trivial⟩)
    fun _ => ?_
  have fact : Fact pid fun s => Inside pid (fun _ => True) standing s ∧ s.Fits current ∧
      current.verdict = standing.1 :=
    Firm.top.inside.and ((Fact.fits current).and (.pure _))
  refine Spec.bind (rewriteMeta_spec fact fun s _ known => ?_) (fun _ => .pure fun _ _ known => ?_)
    fun _ _ _ known => ⟨⟨trivial, known.1.2.held⟩, trivial⟩
  · exact ⟨⟨known.2.1.mode, known.2.1.whole, known.2.1.names⟩,
      known.2.2.trans (congrArg Prod.fst known.1.2.standing).symm⟩
  · exact ⟨⟨trivial, known.1.2.held⟩, trivial⟩

/-- The mirror is repaired under the lock, and nothing else about the record. -/
theorem repairDeliveryModeMirror_spec :
    Stays policy pid (Apart pid) (repairDeliveryModeMirror mode) :=
  (critical_spec .top (fun _ => .top) (fun _ _ _ => trivial) (fun _ _ _ => trivial)
    fun _ => repairMirror_spec).weaken (fun _ _ known => ⟨trivial, known⟩)
    fun _ _ _ known => known.1.2

section Beside

omit setting

theorem activationTransferState_beside : activationTransferState.Makes concern.Beside := by
  refine .bind readDeliveryMode_beside fun _ => .bind (.bind readOptional_beside fun found => ?_)
    fun _ => .pure
  cases found with
  | some _ => exact .pure
  | none => exact .bind tryExists_beside fun _ => .pure

theorem requireSettledActivation_beside : requireSettledActivation.Makes concern.Beside := by
  refine .bind activationTransferState_beside fun activation => ?_
  rcases activation with ⟨_, _ | _ | _ | _ | _ | _ | _⟩ <;> first | exact .pure | exact .throw

theorem observedDeliveryMode_beside : observedDeliveryMode.Makes concern.Beside :=
  .bind activationTransferState_beside fun _ =>
    .branch (.bind requireSettledActivation_beside fun _ => .pure) .pure

theorem activateRequest_beside : activateRequest.Makes concern.Beside := by
  refine .bind (outsideAsk_beside nofun) fun request => ?_
  cases request <;> first | exact .pure | exact .throw

theorem waitRequiredDeliveryHelper_beside :
    (waitRequiredDeliveryHelper .activate).Makes concern.Beside := by
  refine .handle (outsideAsk_beside (by simp)) fun spawned => ?_
  cases spawned with
  | error _ => exact .pure
  | ok _ =>
      refine .handle (outsideAsk_beside nofun) fun output => ?_
      cases output <;> exact .pure

theorem writeActivationOutcome_beside {outcome : ActivationRecord} :
    (writeActivationOutcome outcome).Makes concern.Beside :=
  atomicWrite_beside (by simp [concern])

theorem rollbackActivationAttempt_beside : rollbackActivationAttempt.Makes concern.Beside :=
  .bind syncDirectory_beside fun _ => removeOptional_beside (by simp [concern])

end Beside

theorem settleOrphanedActivation_spec : Stays policy pid (Apart pid) settleOrphanedActivation := by
  have fact : Fact pid (Apart pid) := .apart
  have undone : Stays policy pid (Apart pid) rollBackActivation := by
    refine Steady.bind (fact.steady (atomicWrite_beside (by simp [concern]))) fun _ => ?_
    refine Steady.bind repairDeliveryModeMirror_spec fun _ => ?_
    refine Steady.bind (fact.steady (removeOptional_beside (by simp [concern]))) fun _ => ?_
    exact fact.steady rollbackActivationAttempt_beside
  refine Steady.bind (fact.steady activationTransferState_beside) fun activation => ?_
  rcases activation with ⟨_, _ | _ | _ | _ | _ | _ | _⟩ <;>
    first
      | exact undone
      | exact fact.steady writeActivationOutcome_beside
      | exact Steady.pure

theorem activateWorker_spec : Stays policy pid (Apart pid) activateWorker := by
  have fact : Fact pid (Apart pid) := .apart
  have helped : Stays policy pid (Apart pid)
      (runRequiredDeliveryHelperCommandDetailed .activate true) := by
    refine Steady.bind (withExternalTransferCustody_spec fact
      (fact.steady waitRequiredDeliveryHelper_beside)) fun result => ?_
    cases result <;> exact Steady.pure
  have claimed : Stays policy pid (Apart pid) runClaimedActivation := by
    refine Spec.handle (fact.steady writeActivationOutcome_beside) fun pending => ?_
    cases pending with
    | error _ => exact Steady.bind settleOrphanedActivation_spec fun _ => Steady.throw
    | ok _ => exact helped
  have adopted : Stays policy pid (Apart pid) adoptSettledActivation :=
    Steady.bind (fact.steady requireSettledActivation_beside) fun _ => Steady.pure
  have finished (result : Except DeliveryHelperCommandError Unit) :
      Stays policy pid (Apart pid) (finishActivation result) := by
    rcases result with (_ | _) | _
    · refine Steady.bind (fact.steady writeActivationOutcome_beside) fun _ => ?_
      exact Steady.bind settleOrphanedActivation_spec fun _ => Steady.throw
    · refine Steady.bind (fact.steady writeActivationOutcome_beside) fun _ => ?_
      exact Steady.bind repairDeliveryModeMirror_spec fun _ => Steady.throw
    · refine Steady.bind (fact.steady writeActivationOutcome_beside) fun _ => ?_
      exact Steady.bind repairDeliveryModeMirror_spec fun _ => Steady.pure
  refine Steady.bind (fact.steady (recordDurableCreateOnceMarker_beside (by simp [concern])))
    fun own => ?_
  refine Spec.handle (fact.steady (atomicWrite_beside (by simp [concern]))) fun written => ?_
  cases written with
  | error _ =>
      refine Steady.bind (Steady.branch (Steady.bind (Steady.attempt
        (fact.steady rollbackActivationAttempt_beside)) fun _ => Steady.pure) Steady.pure) fun _ => ?_
      exact Steady.throw
  | ok _ => exact Steady.bind (Steady.branch claimed adopted) fun result => finished result

/-- A worker holds what its parent holds, which is nothing of the lane. -/
theorem runDeliveryTransferWorker_spec {work : Script Unit}
    (verified : ∀ worker, Stays policy worker (Apart worker) work) :
    Stays policy pid (Apart pid) (runDeliveryTransferWorkerHoldingLock work) := by
  refine Spec.bind (spawn_spec none Apart .apart (fun _ known => known) (fun _ _ => .apart) verified
    fun _ _ _ _ _ _ apart _ _ => apart) (fun child => ?_) fun _ _ _ known => known.elim
  refine Spec.strengthen (P := fun view => Apart pid (scene view)) ?_ fun _ _ known => known.1
  cases child with
  | none => exact Steady.throw
  | some worker =>
      exact Steady.bind (waitPid_spec .apart fun _ _ _ known _ => known) fun _ => Steady.ofExcept

theorem detach_spec (lawful : Lawful policy) : Stays policy pid (Apart pid) detach := by
  have fact : Fact pid (Apart pid) := .apart
  have read : Stays policy pid (Apart pid) readMeta :=
    readMeta_spec fact (fun _ _ _ known _ => known) fun _ _ _ known => known
  have certain : Stays policy pid (Apart pid) retryUncertainActivation := by
    refine Spec.bind (Q := fun result view => result = .ok false ∧ Apart pid (scene view)) ?_
      (fun uncertain => ?_) fun _ _ _ known => known.2
    · refine Spec.bind (continuationEnabled_spec lawful fact) (fun enabled => ?_)
        fun _ _ _ known => nomatch known.1
      refine Spec.assume fun known => ?_
      cases known
      exact .pure fun _ _ known => ⟨rfl, known⟩
    · refine Spec.assume fun known => ?_
      cases known
      exact .pure fun _ _ known => known
  refine lockedBeside_spec nofun fact (fun _ => fact) (fun _ _ known => known) ?_
  refine Steady.bind settleOrphanedActivation_spec fun _ => ?_
  refine Steady.bind (fact.steady activationTransferState_beside) fun activation => ?_
  refine Steady.branch ?_ ?_
  · refine Steady.bind certain fun _ => ?_
    refine Steady.bind (fact.steady requireSettledActivation_beside) fun _ => ?_
    exact Steady.bind repairDeliveryModeMirror_spec fun _ => Steady.pure
  · refine Steady.bind read fun _ => Steady.bind (fact.steady activateRequest_beside) fun _ => ?_
    refine Steady.bind (Steady.attempt (runDeliveryTransferWorker_spec fun _ => activateWorker_spec))
      fun result => ?_
    refine Steady.bind settleOrphanedActivation_spec fun _ => ?_
    refine Steady.bind (fact.steady requireSettledActivation_beside) fun _ => ?_
    exact Steady.bind Steady.ofExcept fun _ => Steady.bind read fun _ => Steady.pure

end Detach

section Entries

variable {view : View}

theorem settledDeliveryMode_spec : Stays policy pid (Apart pid) settledDeliveryMode := by
  have fact : Fact pid (Apart pid) := .apart
  refine lockedBeside_spec nofun fact (fun _ => fact) (fun _ _ known => known) ?_
  refine Steady.bind settleOrphanedActivation_spec fun _ => ?_
  exact fact.steady observedDeliveryMode_beside

/-- A call by a process that holds nothing is safe, whatever it is. -/
theorem entry_safe (lawful : Lawful policy) (inv : watch.Inv view) (apart : Apart pid (scene view))
    (entry : LegacyEntry) :
    Safe (watch.discipline LegacyEntry.program) policy entry.program pid view := by
  have safe {α : Type} {script : Script α} (stays : Stays policy pid (Apart pid) script) :
      Safe (watch.discipline LegacyEntry.program) policy (script.program softwareExit) pid view :=
    safe_of_triple stays (fun _ => .apart) inv apart
  have fact : Fact pid (Apart pid) := .apart
  cases entry with
  | status => exact safe (reconcileStatusMeta_spec lawful)
  | list => exact safe (reconcileListMeta_spec lawful)
  | cancel seen => exact safe (requestCancel_spec lawful)
  | detach => exact safe (detach_spec lawful)
  | settledMode => exact safe settledDeliveryMode_spec
  | observedMode => exact safe (fact.steady observedDeliveryMode_beside)

end Entries

end TerminalLane

end AgentBash
