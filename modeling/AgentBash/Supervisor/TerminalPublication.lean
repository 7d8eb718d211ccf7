import AgentBash.Supervisor.TerminalDelivery

/-!
# Publication under the completion lock

A publisher reads the record and the marker while it holds the lock, and until it has written
nobody else gives a verdict or accepts a cancellation. What it hands on is the record of the
handle, or a record that is still open.
-/

namespace AgentBash

set_option autoImplicit false

open Durable

section Verdicts

theorem Meta.verdict_of_open {record : Meta} (open_ : terminal record = false) :
    record.verdict = none := by
  simp [Meta.verdict, open_]

theorem Meta.verdict_of_terminal {record : Meta} (terminated : terminal record = true) :
    record.verdict =
      some ⟨record.state, record.completionReason, record.rc, record.signal, record.completedAt⟩ := by
  simp [Meta.verdict, terminated]

theorem TerminalProposal.apply_status (record : Meta) (stamp : Stamp) (proposal : TerminalProposal) :
    (proposal.apply record stamp).rc.isSome = true ∧
      (proposal.apply record stamp).mode = record.mode ∧
      (proposal.apply record stamp).supervisorPid = record.supervisorPid := by
  cases proposal <;> exact ⟨rfl, rfl, rfl⟩

theorem finalizeTerminalProposal_accepted {proposal final : TerminalProposal}
    (finalized : finalizeTerminalProposal proposal true = some final) :
    final = .cancellation .explicitRequest := by
  cases proposal <;> simp_all [finalizeTerminalProposal]

theorem TerminalProposal.apply_explicit (record : Meta) (stamp : Stamp) {verdict : Verdict}
    (gives : (TerminalProposal.apply record stamp (.cancellation .explicitRequest)).verdict =
      some verdict) : verdict.cancelled := by
  rw [Meta.verdict_of_terminal rfl] at gives
  cases gives
  exact ⟨rfl, rfl⟩

end Verdicts

namespace TerminalLane

variable [setting : Setting] {policy : System.Policy legacySystem} {pid : Nat} {p : Scene → Prop}
  {record : Meta}

/-- Who is there, and what is said of them beside the directory. -/
def Scene.people (s : Scene) : Nat × (Nat → Option (Option Nat)) × Option Nat × Bool :=
  (s.next, s.ended, s.ghost.delegate, s.ghost.renounced)

section People

variable {s t : Scene}

theorem tenure_of_people (same : t.people = s.people) : t.tenure = s.tenure := by
  simp only [Scene.people, Prod.mk.injEq] at same
  obtain ⟨-, ended, delegate, renounced⟩ := same
  simp only [Scene.tenure, ended, delegate, renounced]

theorem fits_of_people (same : t.people = s.people) (fits : s.Fits record) : t.Fits record where
  mode := fits.mode
  whole := fits.whole
  names number named := by
    simp only [Scene.people, Prod.mk.injEq] at same
    rw [same.2.2.1]
    exact fits.names number named

theorem follows_of_people (same : t.people = s.people) (verdict : t.verdict = s.verdict)
    (follows : s.Follows record) : t.Follows record where
  fits := fits_of_people same follows.fits
  decided := by
    unfold Scene.Decided
    rw [verdict, tenure_of_people same]
    exact follows.decided
  same := follows.same.trans verdict.symm

/-- A fact about people and about a verdict that was given: no other file and no lock has a part
in it. -/
structure Firm (pid : Nat) (p : Scene → Prop) : Prop where
  fact : Fact pid p
  kept : ∀ {s t : Scene}, t.people = s.people → (s.verdict ≠ none → t.verdict = s.verdict) →
    p s → p t

theorem Firm.and {q : Scene → Prop} (left : Firm pid p) (right : Firm pid q) :
    Firm pid fun s => p s ∧ q s where
  fact := left.fact.and right.fact
  kept same verdict holds := ⟨left.kept same verdict holds.1, right.kept same verdict holds.2⟩

theorem Firm.top : Firm pid fun _ => True := ⟨.top, fun _ _ _ => trivial⟩

theorem Firm.fits (record : Meta) : Firm pid (Scene.Fits · record) :=
  ⟨.fits record, fun same _ holds => fits_of_people same holds⟩

theorem Firm.mayPublish : Firm pid (Scene.MayPublish pid) where
  fact := .mayPublish
  kept same _ holds := by
    unfold Scene.MayPublish
    rw [tenure_of_people same]
    exact holds

theorem Firm.implied (known : Prop) (firm : Firm pid p) : Firm pid fun s => known → p s where
  fact := firm.fact.implied known
  kept same verdict holds given := firm.kept same verdict (holds given)

theorem Firm.decided : Firm pid Scene.Decided where
  fact := .decided
  kept same verdict holds := by
    rcases holds with settled | nobody
    · exact .inl (by rw [verdict settled]; exact settled)
    · exact .inr ((tenure_of_people same).trans nobody)

end People

theorem Fact.held : Fact pid fun s => s.holders = [pid] where
  stable _ _ moved holds := (moved.lock pid rfl holds).1
  rewritten _ holds := holds

theorem critical_spec {α : Type} {body : Script α} {Q : Except IoError α → Scene → Prop}
    (firm : Firm pid p) (settled : ∀ result, Fact pid (Q result))
    (refused : ∀ error s, p s → Q (.error error) s)
    (left : ∀ result (s : Scene), Q result s → Q result (s.leave pid))
    (within : ∀ standing, Triple policy pid (fun s => p s ∧ Holding pid standing s) body
      fun result s => (p s ∧ s.holders = [pid]) ∧ Q result s) :
    Triple policy pid (fun s => p s ∧ Apart pid s) (locked .completion body)
      fun result s => (p s ∧ Apart pid s) ∧ Q result s := by
  have entered : Triple policy pid (fun s => ∃ standing, p s ∧ Holding pid standing s) body
      fun result s => (p s ∧ s.holders = [pid]) ∧ Q result s := Spec.any within
  refine locked_spec (firm.fact.and .apart) (fun result => (firm.fact.and .held).and (settled result))
    (fun s _ known _ _ => ?_) (fun error s _ known => ⟨known, refused error s known.1⟩) entered ?_
  · exact ⟨_, firm.kept (s := s) rfl (fun _ => rfl) known.1, rfl, rfl⟩
  · intro result s inv born known
    exact ⟨⟨firm.kept (s := s) rfl (fun _ => rfl) known.1.1, .leave inv born⟩, left result s known.2⟩

/-- What a publication makes of the record it was called with. -/
def handed (record : Meta) : Except IoError (Meta × TerminalPublishResult) → Scene → Prop
  | .ok (read, .published) => fun s => s.Follows read
  | .ok (read, .deferredForAcceptedCancel) => fun s => s.Fits read ∧ terminal read = terminal record
  | .error _ => fun _ => True

theorem Fact.handed (result : Except IoError (Meta × TerminalPublishResult)) :
    Fact pid (handed record result) := by
  rcases result with _ | ⟨read, _ | _⟩
  · exact .top
  · exact .follows read
  · exact (Fact.fits read).and (.pure _)

theorem handed_leave {result : Except IoError (Meta × TerminalPublishResult)} {s : Scene}
    (known : handed record result s) : handed record result (s.leave pid) := by
  rcases result with _ | ⟨read, _ | _⟩
  · trivial
  · exact follows_of_people (s := s) rfl rfl known
  · exact ⟨fits_of_people (s := s) rfl known.1, known.2⟩

section Locked

variable {standing : Option Verdict × Option Int × Bool × Bool} {published : Meta}
  {verdict : Verdict}

/-- What a publisher knows inside the critical section. -/
abbrev Inside (pid : Nat) (p : Scene → Prop) (standing : Option Verdict × Option Int × Bool × Bool)
    (s : Scene) : Prop :=
  p s ∧ Holding pid standing s

theorem Firm.inside (firm : Firm pid p) : Fact pid (Inside pid p standing) :=
  firm.fact.and (.holding standing)

theorem readCurrent_spec (firm : Firm pid p) :
    Triple policy pid (Inside pid p standing) readMeta
      (outcome (fun record s => Inside pid p standing s ∧ s.Fits record ∧
        record.verdict = standing.1) fun _ => Inside pid p standing) := by
  refine readMeta_spec firm.inside (fun s record inv known present => ?_) fun _ _ _ known => known
  obtain ⟨stored, same, fits⟩ := inv.recorded
  obtain rfl : stored = record := Option.some.inj (same.symm.trans present)
  refine ⟨known, fits, ?_⟩
  rw [← known.2.standing]
  simp [Scene.standing, Scene.verdict, present]

theorem writeStatus_spec {rc : Int} (firm : Firm pid p) (open_ : standing.1 = none) :
    Triple policy pid (Inside pid p standing) (writeRcAtomic rc)
      (outcome (fun _ => Inside pid p (none, some rc, standing.2.2))
        fun _ s => p s ∧ s.holders = [pid]) := by
  have written : Triple policy pid (Inside pid p standing) (replaceFile .rc rc)
      (outcome (fun _ => Inside pid p (none, some rc, standing.2.2))
        fun _ => Inside pid p standing) := by
    refine replaceRc_spec firm.inside fun s _ known => ?_
    have same : s.standing = standing := known.2.standing
    have unsettled : s.verdict = none := (congrArg Prod.fst same).trans open_
    refine ⟨known.2.held, unsettled, firm.kept (s := s) rfl (fun _ => rfl) known.1, known.2.held, ?_⟩
    rw [← same]
    exact Prod.ext unsettled rfl
  refine (atomicWrite_spec firm.inside written).relax fun result _ _ known => ?_
  cases result with
  | ok _ => exact known
  | error _ =>
      rcases known with before | after
      · exact ⟨before.1, before.2.held⟩
      · exact ⟨after.1, after.2.held⟩

theorem writeVerdict_spec {rc : Int} (firm : Firm pid p)
    (may : ∀ s : Scene, p s → s.MayPublish pid) (fits : ∀ s : Scene, p s → s.Fits published)
    (gives : published.verdict = some verdict) (status : verdict.rc = some rc)
    (open_ : standing.1 = none) (written : standing.2.1 = some rc)
    (heeds : standing.2.2.1 = true → verdict.cancelled) :
    Triple policy pid (Inside pid p standing) (writeMetaAtomic published)
      (outcome (fun _ s => (p s ∧ s.holders = [pid]) ∧ s.Follows published)
        fun _ s => p s ∧ s.holders = [pid]) := by
  have after : Fact pid fun s => (p s ∧ s.holders = [pid]) ∧ s.Follows published :=
    (firm.fact.and .held).and (.follows published)
  refine (writeMetaAtomic_spec firm.inside after fun mirror s inv known => ?_).relax
    fun result _ _ known => ?_
  · have same : s.standing = standing := known.2.standing
    have unsettled : s.verdict = none := (congrArg Prod.fst same).trans open_
    have stored : s.rcFile = some rc := (congrArg (·.2.1) same).trans written
    have accepted : s.accepted = standing.2.2.1 := congrArg (·.2.2.1) same
    have good : s.Fits { published with deliveryMode := mirror } :=
      ⟨(fits s known.1).mode, (fits s known.1).whole, (fits s known.1).names⟩
    have final : ({ published with deliveryMode := mirror } : Meta).verdict = some verdict := gives
    refine ⟨inv.publish known.2.held (may s known.1) unsettled good final (by simp [status])
      (stored.trans status.symm) fun marker => heeds ?_, ⟨firm.kept (s := s) rfl
        (fun settled => absurd unsettled settled) known.1, known.2.held⟩, ⟨?_, ?_, ?_⟩⟩
    · rw [← accepted]
      simp [Scene.accepted, unsettled, marker]
    · exact fits_of_people (s := s) rfl (fits s known.1)
    · exact .inl fun none => by cases final.symm.trans none
    · exact gives.trans final.symm
  · cases result with
    | ok _ => exact known
    | error _ =>
        rcases known with before | after
        · exact ⟨before.1, before.2.held⟩
        · exact after.1

theorem fits_apply {s : Scene} {stamp : Stamp} {final : TerminalProposal} (fits : s.Fits record) :
    s.Fits (final.apply record stamp) := by
  obtain ⟨-, mode, names⟩ := final.apply_status record stamp
  refine ⟨mode.trans fits.mode, .inl (final.apply_terminal record stamp), ?_⟩
  rw [names]
  exact fits.names

theorem writeTerminal_spec {final : TerminalProposal} (firm : Firm pid p)
    (may : ∀ s : Scene, p s → s.MayPublish pid) (fits : ∀ s : Scene, p s → s.Fits record)
    (open_ : standing.1 = none)
    (heeds : standing.2.2.1 = true → final = .cancellation .explicitRequest) :
    Triple policy pid (Inside pid p standing) (writeTerminal record final)
      (outcome (fun published s => (p s ∧ s.holders = [pid]) ∧ s.Follows published)
        fun _ s => p s ∧ s.holders = [pid]) := by
  have timed : readStamp.Makes concern.Beside :=
    .bind (outsideAsk_beside nofun) fun _ => .bind (outsideAsk_beside nofun) fun _ => .pure
  refine Spec.bind (firm.inside.steady timed) (fun stamp => ?_)
    fun _ _ _ known => ⟨known.1, known.2.held⟩
  obtain ⟨rc, status⟩ := Option.isSome_iff_exists.mp (final.apply_status record stamp).1
  have gives := Meta.verdict_of_terminal (final.apply_terminal record stamp)
  refine Spec.bind (writeStatus_spec firm open_) (fun _ => ?_) fun _ _ _ known => known
  rw [status]
  refine Spec.bind (writeVerdict_spec firm may (fun s known => fits_apply (fits s known)) gives
    status rfl rfl fun accepted => ?_) (fun _ => .pure fun _ _ known => known)
    fun _ _ _ known => known
  obtain rfl := heeds accepted
  exact TerminalProposal.apply_explicit record stamp gives

/-- A terminal record of a handle without a registration is published for good. -/
theorem alreadyPublished_spec (record : Meta) (lawful : Lawful policy) (fact : Fact pid p) :
    Triple policy pid p (alreadyPublished record) fun result s =>
      result = .ok (terminal record) ∧ p s := by
  refine Spec.branch (fun terminated => ?_) fun open_ => ?_
  · refine Spec.bind (continuationEnabled_spec lawful fact) (fun enabled => ?_)
      fun _ _ _ known => nomatch known.1
    refine Spec.assume fun known => ?_
    cases known
    exact .pure fun _ _ known => ⟨by rw [terminated], known⟩
  · exact .pure fun _ _ known => ⟨by simpa using open_, known⟩

/-- A proposal that heeds the acceptance is written after the drain and the log. -/
theorem publishFinal_spec {called : Meta} {accepted log : Bool} {final : TerminalProposal}
    {disposition : CompletionDeliveryDisposition} (firm : Firm pid p)
    (may : ∀ s : Scene, p s → s.MayPublish pid) (fits : ∀ s : Scene, p s → s.Fits record)
    (open_ : standing.1 = none)
    (heeds : standing.2.2.1 = true → final = .cancellation .explicitRequest) :
    Triple policy pid (Inside pid p standing) (do
        drainBeforePublication accepted disposition final
        syncOptionalLog log
        let published ← writeTerminal record final
        pure (published, TerminalPublishResult.published))
      fun result s => (p s ∧ s.holders = [pid]) ∧ handed called result s := by
  have inside : Fact pid (Inside pid p standing) := firm.inside
  have drained : (drainBeforePublication accepted disposition final).Makes concern.Beside :=
    .branch recordCancellationDrained_beside .pure
  have logged : (syncOptionalLog log).Makes concern.Beside :=
    .branch (outsideAsk_beside nofun) .pure
  refine Spec.bind (inside.steady drained) (fun _ => ?_)
    fun _ _ _ known => ⟨⟨known.1, known.2.held⟩, trivial⟩
  refine Spec.bind (inside.steady logged) (fun _ => ?_)
    fun _ _ _ known => ⟨⟨known.1, known.2.held⟩, trivial⟩
  exact Spec.bind (writeTerminal_spec firm may fits open_ heeds)
    (fun _ => .pure fun _ _ known => known) fun _ _ _ known => ⟨known, trivial⟩

theorem publishTerminalLocked_spec {log : Bool} {proposal : TerminalProposal}
    {disposition : CompletionDeliveryDisposition} (lawful : Lawful policy) (firm : Firm pid p)
    (may : ∀ s : Scene, p s → s.MayPublish pid) (fits : ∀ s : Scene, p s → s.Fits record) :
    Triple policy pid (Inside pid p standing)
      (publishTerminalLocked record log proposal disposition)
      fun result s => (p s ∧ s.holders = [pid]) ∧ handed record result s := by
  have inside : Fact pid (Inside pid p standing) := firm.inside
  refine Spec.bind (readCurrent_spec firm) (fun current => ?_)
    fun _ _ _ known => ⟨⟨known.1, known.2.held⟩, trivial⟩
  have read : Fact pid fun s => Inside pid p standing s ∧ s.Fits current ∧
      current.verdict = standing.1 := inside.and ((Fact.fits current).and (.pure _))
  refine Spec.bind (alreadyPublished_spec current lawful read) (fun published => ?_)
    fun _ _ _ known => nomatch known.1
  refine Spec.assume fun known => ?_
  cases known
  refine Spec.branch (fun terminated => ?_) fun open_ => ?_
  · refine .pure fun view _ known => ⟨⟨known.1.1, known.1.2.held⟩, known.2.1, .inl ?_, ?_⟩
    · have same : (scene view).verdict = current.verdict :=
        (congrArg Prod.fst known.1.2.standing).trans known.2.2.symm
      rw [same, Meta.verdict_of_terminal terminated]
      nofun
    · exact known.2.2.trans (congrArg Prod.fst known.1.2.standing).symm
  refine Spec.weaken (P := fun view => current.verdict = standing.1 ∧
    Inside pid p standing (scene view)) (Spec.assume fun same => ?_)
    (fun _ _ known => ⟨known.2.2, known.1⟩) fun _ _ _ known => known
  have unsettled : standing.1 = none := by
    rw [← same]
    exact Meta.verdict_of_open (by simpa using open_)
  have merged (s : Scene) (known : p s) : s.Fits { record with delivery := current.delivery } :=
    ⟨(fits s known).mode, (fits s known).whole, (fits s known).names⟩
  have deferred : Spec (watch.discipline LegacyEntry.program) policy pid
      (fun view => Inside pid p standing (scene view))
      (pure ({ record with delivery := current.delivery },
        TerminalPublishResult.deferredForAcceptedCancel))
      fun result view => (p (scene view) ∧ (scene view).holders = [pid]) ∧
        handed record result (scene view) :=
    .pure fun view _ known => ⟨⟨known.1, known.2.held⟩, merged (scene view) known.1, rfl⟩
  refine Spec.bind (explicitCancelAccepted_spec inside) (fun accepted => ?_)
    fun _ _ _ known => ⟨⟨known.1, known.2.held⟩, trivial⟩
  refine Spec.weaken (P := fun view => accepted = standing.2.2.1 ∧
    Inside pid p standing (scene view)) (Spec.assume fun observed => ?_)
    (fun view _ known => ⟨?_, known.1⟩) fun _ _ _ known => known
  · refine Spec.branch (fun _ => deferred) fun _ => ?_
    cases finalized : finalizeTerminalProposal proposal accepted with
    | none => exact deferred
    | some final =>
        refine publishFinal_spec firm may merged unsettled fun heeded => ?_
        rw [← observed] at heeded
        subst heeded
        exact finalizeTerminalProposal_accepted finalized
  · have verdict : (scene view).verdict = none :=
      (congrArg Prod.fst known.1.2.standing).trans unsettled
    have marked : (scene view).accepted = standing.2.2.1 := congrArg (·.2.2.1) known.1.2.standing
    rw [known.2, ← marked]
    simp [Scene.accepted, verdict]

end Locked

section Publishing

variable {log role : Bool} {proposal : TerminalProposal}
  {disposition : CompletionDeliveryDisposition}

theorem publishTerminal_spec (lawful : Lawful policy) (firm : Firm pid p)
    (may : ∀ s : Scene, p s → s.MayPublish pid) (fits : ∀ s : Scene, p s → s.Fits record) :
    Triple policy pid (fun s => p s ∧ Apart pid s)
      (locked .completion (publishTerminalLocked record log proposal disposition))
      fun result s => (p s ∧ Apart pid s) ∧ handed record result s :=
  critical_spec firm Fact.handed (fun _ _ _ => trivial) (fun _ _ known => handed_leave known)
    fun _ => publishTerminalLocked_spec lawful firm may fits

/-- A publisher that leaves the delivery to others keeps what it knows. -/
theorem publishTerminal_spec_pending (lawful : Lawful policy) (firm : Firm pid p)
    (may : ∀ s : Scene, p s → s.MayPublish pid) (fits : ∀ s : Scene, p s → s.Fits record)
    (pending : disposition ≠ .claimPending) :
    Triple policy pid (fun s => p s ∧ Apart pid s)
      (publishTerminalWithDeliveryDisposition record log proposal disposition role)
      fun result s => (p s ∧ Apart pid s) ∧ handed record result s := by
  refine Spec.bind (publishTerminal_spec lawful firm may fits) (fun published => ?_)
    fun _ _ _ known => known
  refine Spec.branch (fun claims => ?_) fun _ => .pure fun _ _ known => known
  simp [pending] at claims

theorem publishTerminal_spec_delivering (lawful : Lawful policy) (firm : Firm pid p)
    (may : ∀ s : Scene, p s → s.MayPublish pid) (fits : ∀ s : Scene, p s → s.Fits record) :
    Triple policy pid (fun s => p s ∧ Apart pid s)
      (publishTerminalWithDeliveryDisposition record log proposal disposition role)
      fun result s => Apart pid s ∧ handed record result s := by
  refine Spec.bind (publishTerminal_spec lawful firm may fits) (fun published => ?_)
    fun _ _ _ known => ⟨known.1.2, trivial⟩
  refine Spec.branch (fun claims => ?_) fun _ => .pure fun _ _ known => ⟨known.1.2, known.2⟩
  obtain ⟨read, result⟩ := published
  obtain rfl : result = .published := by simp_all
  refine Spec.bind ((reconcileCompletionDelivery_spec lawful).strengthen fun _ _ known =>
    ⟨known.2, known.1.2⟩) (fun _ => .pure fun _ _ known => ⟨known.2, known.1⟩)
    fun _ _ _ known => ⟨known, trivial⟩

end Publishing

end TerminalLane

end AgentBash
