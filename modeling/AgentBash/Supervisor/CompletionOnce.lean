import AgentBash.Delivery.CompletionRuns

/-!
# At most one completion helper

The event loop, the guardian and the reconciling calls keep the delivery lock exactly
while a transfer of theirs runs, so every run of the delivery path stays inside the
completion lane as long as no custodian dies between its worker and its owner.
-/

namespace AgentBash

set_option autoImplicit false

open Durable

namespace CompletionLane

variable {policy : System.Policy completionSystem} {pid child : Nat} {α : Type}
  {F : View → Prop} {fact : Fact} {P : View → Prop}

section EventLoop

variable [Truth]

/-- The part of the delivery lock that the supervisor's custody stands for. -/
def owns (pid : Nat) (custody : CompletionCustody) : View → Prop :=
  match custody.reapedTransfer, custody.transfer with
  | none, none => Free pid
  | none, some transfer => Below pid transfer
  | some _, some transfer => Stays pid (Tends pid transfer.retryCount)
  | some _, none => fun _ => False

def kept (pid : Nat) : Except IoError CompletionCustody → View → Prop
  | .ok custody => owns pid custody
  | .error _ => Loose pid

theorem owns_of_same {custody after : CompletionCustody} {view : View}
    (transfer : after.transfer = custody.transfer)
    (reaped : after.reapedTransfer = custody.reapedTransfer) (holds : owns pid custody view) :
    owns pid after view := by
  simp only [owns] at holds ⊢
  rw [transfer, reaped]
  exact holds

theorem free_of_owns {custody : CompletionCustody} {view : View}
    (none : custody.transfer = none) (holds : owns pid custody view) :
    custody.reapedTransfer = .none ∧ Free pid view := by
  simp only [owns] at holds
  rw [none] at holds
  cases reaped : custody.reapedTransfer with
  | none =>
      rw [reaped] at holds
      exact ⟨rfl, holds⟩
  | some _ =>
      rw [reaped] at holds
      exact holds.elim

theorem owns_of_free {custody : CompletionCustody} {view : View}
    (none : custody.transfer = none) (reaped : custody.reapedTransfer = .none)
    (free : Free pid view) : owns pid custody view := by
  simp only [owns]
  rw [none, reaped]
  exact free

theorem retryCompletionIntegration_spec (custody : CompletionCustody) :
    Spec discipline policy pid (owns pid custody) (custody.retryCompletionIntegration)
      (kept pid) := by
  simp only [CompletionCustody.retryCompletionIntegration]
  split
  · next status transfer reaped running =>
    have holding : ∀ view, owns pid custody view →
        Stays pid (Tends pid transfer.retryCount) view := by
      intro view holds
      simp only [owns] at holds
      rw [reaped, running] at holds
      exact holds
    refine Spec.handle ((integrateCompletionTransfer_spec tends_frame _ transfer.retryCount
      fun _ known => known.2).strengthen fun view _ => holding view) fun result => ?_
    cases result with
    | error _ =>
        refine .pure fun view _ holds => ?_
        simp only [kept, owns]
        rw [reaped, running]
        exact holds
    | ok record =>
        exact Spec.bind (unlock_spec fun _ holds => holds.2.1.1)
          (fun _ => .pure fun _ _ free => free) fun _ _ _ free => .inl free
  · exact .pure fun _ _ holds => holds

theorem reapCompletionTransfer_spec (custody : CompletionCustody) :
    Spec discipline policy pid (owns pid custody) (custody.reapCompletionTransfer)
      (kept pid) := by
  simp only [CompletionCustody.reapCompletionTransfer]
  split
  · next transfer running pending =>
    have below : ∀ view, owns pid custody view → Below pid transfer view := by
      intro view holds
      simp only [owns] at holds
      rw [pending, running] at holds
      exact holds
    refine Spec.strengthen ?_ fun view _ => below view
    refine Spec.bind (Owned.poll_spec tends_frame) (fun polled => ?_)
      fun _ _ _ holds => .inr holds.2.1
    cases polled with
    | none =>
        refine .pure fun view _ holds => ?_
        simp only [kept, owns]
        rw [pending, running]
        exact holds
    | some status =>
        refine Steady.before (P := Stays pid (Tends pid transfer.retryCount))
          ((spectator (holds_local tends_frame)).outsideAsk (by exact nofun)) (fun _ => ?_)
          fun _ _ _ holds => loose_of_stays holds
        refine (retryCompletionIntegration_spec
          { custody with reapedTransfer := some status }).strengthen fun view _ holds => ?_
        simp only [owns]
        rw [running]
        exact holds
  · exact .pure fun _ _ holds => holds

theorem driveCompletionDelivery_spec [Heeds policy] (custody : CompletionCustody) :
    Spec discipline policy pid (owns pid custody) (custody.driveCompletionDelivery)
      (kept pid) := by
  refine .branch (fun _ => .pure fun _ _ holds => holds) fun idle => ?_
  have none : custody.transfer = none := by
    simp only [Bool.or_eq_true, not_or, Bool.not_eq_true, Option.isSome_eq_false_iff,
      Option.isNone_iff_eq_none] at idle
    exact idle.2
  refine Spec.strengthen (Spec.assume (p := custody.reapedTransfer = .none) (P := Free pid)
    fun reaped => ?_) fun _ _ holds => free_of_owns none holds
  refine Spec.bind (tryStartCompletionDelivery_spec custody.record true) (fun start => ?_)
    fun _ _ _ free => .inl free
  match start with
  | (record, .busy) => exact .pure fun _ _ free => owns_of_free none reaped free
  | (record, .settled) => exact .pure fun _ _ free => owns_of_free none reaped free
  | (record, .running transfer) =>
      refine .pure fun view _ below => ?_
      simp only [kept, owns]
      rw [reaped]
      exact below

/-- Merging the root status touches neither the delivery part nor the count. -/
theorem flushRootStatus_spec (custody : CompletionCustody) :
    Spec discipline policy pid (owns pid custody) (custody.flushRootStatus) (kept pid) := by
  simp only [CompletionCustody.flushRootStatus]
  split
  · exact .pure fun _ _ holds => holds
  · next status pending =>
    refine .branch (fun _ => .pure fun _ _ holds => holds) fun idle => ?_
    have none : custody.transfer = none := by
      simp only [Bool.or_eq_true, not_or, Bool.not_eq_true, Option.isSome_eq_false_iff,
        Option.isNone_iff_eq_none] at idle
      exact idle.2
    refine Spec.strengthen (Spec.assume (p := custody.reapedTransfer = .none) (P := Free pid)
      fun reaped => ?_) fun _ _ holds => free_of_owns none holds
    refine Spec.bind tryLock_spec (fun taken => ?_) fun _ _ _ free => .inl free
    cases taken with
    | false => exact .pure fun _ _ free => owns_of_free none reaped free
    | true =>
        refine Spec.strengthen (P := Stays pid (Bottom pid)) ?_ fun _ _ holds =>
          Owned.Holds.stays holds
        refine Spec.handle (Q := fun _ => Stays pid (Bottom pid)) ?_ fun result => ?_
        · refine Spec.bind (readMeta_spec bottom_frame) (fun persisted => ?_)
            fun _ _ _ holds => holds.stays
          let merged := CompletionCustody.applyRootStatusMetadata persisted status
          have allowed : Allowed pid (seen (fun _ => True) (.ok persisted)) merged.delivery :=
            .of_seen persisted rfl
          have writes : Spec discipline policy pid
              (Holds pid (Bottom pid) (seen (fun _ => True) (.ok persisted)))
              (writeMetaAtomic merged) fun _ => Stays pid (Bottom pid) := by
            refine (writeMetaAtomic_spec bottom_frame allowed (survives_seen persisted rfl)).relax
              fun _ _ _ holds => ?_
            exact holds.stays
          exact Spec.bind writes (fun _ => .pure fun _ _ holds => holds) fun _ _ _ holds => holds
        · cases result with
          | ok merged =>
              exact Spec.bind (unlock_spec fun _ holds => holds.2.1)
                (fun _ => .pure fun _ _ free => owns_of_free none reaped free)
                fun _ _ _ free => .inl free
          | error error =>
              exact Spec.bind (unlock_spec fun _ holds => holds.2.1)
                (fun _ => .throw fun _ _ free => .inl free) fun _ _ _ free => .inl free

theorem completionTurn_spec [Heeds policy] (custody : CompletionCustody) :
    Spec discipline policy pid (owns pid custody) (custody.completionTurn) (kept pid) := by
  refine Spec.bind (retryCompletionIntegration_spec custody) (fun custody => ?_)
    fun _ _ _ loose => loose
  exact Spec.bind (driveCompletionDelivery_spec custody)
    (fun custody => flushRootStatus_spec custody) fun _ _ _ loose => loose

theorem recordRootStatus_spec (custody : CompletionCustody) (observed : Option RootStatus) :
    Spec discipline policy pid (owns pid custody) (custody.recordRootStatus observed)
      (kept pid) := by
  cases observed with
  | none => exact .pure fun _ _ holds => holds
  | some status =>
      exact (flushRootStatus_spec
        { custody with rootStatus := some status, rootStatusPending := true }).strengthen
          fun _ _ holds => owns_of_same rfl rfl holds

theorem reapChildren_spec (custody : CompletionCustody) (turn : LoopTurn) :
    Spec discipline policy pid (owns pid custody) (custody.reapChildren turn) (kept pid) := by
  refine Spec.bind (reapCompletionTransfer_spec custody) (fun custody => ?_)
    fun _ _ _ loose => loose
  exact Spec.bind (recordRootStatus_spec custody turn.rootStatus)
    (fun _ => .pure fun _ _ holds => holds) fun _ _ _ loose => loose

theorem loose_of_owns {custody : CompletionCustody} {view : View} (holds : owns pid custody view) :
    Loose pid view := by
  cases reaped : custody.reapedTransfer <;> cases running : custody.transfer <;>
    simp only [owns, reaped, running] at holds
  · exact .inl holds
  · exact .inr holds.2.1
  · exact .inr holds.2.1.1

theorem superviseCompletion_spec [Heeds policy] (turns : List LoopTurn) (custody : CompletionCustody) :
    Spec discipline policy pid (owns pid custody)
      (CompletionCustody.superviseCompletion turns custody) fun _ => Loose pid := by
  induction turns generalizing custody with
  | nil => exact Lane.park
  | cons turn turns ih =>
      refine Spec.bind (completionTurn_spec (custody.observe turn)) (fun custody => ?_)
        fun _ _ _ loose => loose
      refine .branch (fun _ => .pure fun _ _ holds => loose_of_owns holds) fun _ => ?_
      exact Spec.bind (reapChildren_spec custody turn) (fun custody => ih custody)
        fun _ _ _ loose => loose

end EventLoop

section Guardian

variable [Truth]

/-- The part of the delivery lock that the guardian's custody stands for; a transfer of its
own is never started twice. -/
def guards (pid : Nat) (custody : GuardianCustody) : View → Prop :=
  match custody.reaped, custody.transfer with
  | none, none => Free pid
  | none, some transfer => fun view =>
      Below pid transfer view ∧ custody.reconciled = true
  | some (transfer, _), none => Stays pid (Tends pid transfer.retryCount)
  | some _, some _ => fun _ => False

def guarded (pid : Nat) : Except IoError GuardianCustody → View → Prop
  | .ok custody => guards pid custody
  | .error _ => Loose pid

theorem loose_of_guards {custody : GuardianCustody} {view : View}
    (holds : guards pid custody view) : Loose pid view := by
  cases reaped : custody.reaped <;> cases running : custody.transfer <;>
    simp only [guards, reaped, running] at holds
  · exact .inl holds
  · exact .inr holds.1.2.1
  · exact .inr holds.2.1.1

theorem reapGuardianTransfer_spec (custody : GuardianCustody) :
    Spec discipline policy pid (guards pid custody) (custody.reapGuardianTransfer)
      (guarded pid) := by
  simp only [GuardianCustody.reapGuardianTransfer]
  cases running : custody.transfer with
  | none => exact .pure fun _ _ holds => holds
  | some transfer =>
      refine Spec.strengthen (Spec.assume (p := custody.reaped = none ∧ custody.reconciled = true)
        (P := Below pid transfer) fun known => ?_) fun view _ holds => ?_
      · refine Spec.bind (Owned.poll_spec tends_frame) (fun polled => ?_)
          fun _ _ _ holds => .inr holds.2.1
        cases polled with
        | none =>
            refine .pure fun view _ holds => ?_
            simp only [guarded, guards]
            rw [known.1, running]
            exact ⟨holds, known.2⟩
        | some status =>
            exact Steady.before (P := Stays pid (Tends pid transfer.retryCount))
              ((spectator (holds_local tends_frame)).outsideAsk (by exact nofun))
              (fun _ => .pure fun _ _ holds => holds) fun _ _ _ holds => loose_of_stays holds
      · simp only [guards] at holds
        rw [running] at holds
        cases reaped : custody.reaped with
        | none =>
            rw [reaped] at holds
            exact ⟨⟨rfl, holds.2⟩, holds.1⟩
        | some _ =>
            rw [reaped] at holds
            exact holds.elim

theorem integrateReapedTransfer_spec (custody : GuardianCustody) :
    Spec discipline policy pid (guards pid custody) (custody.integrateReapedTransfer)
      (guarded pid) := by
  simp only [GuardianCustody.integrateReapedTransfer]
  cases reaped : custody.reaped with
  | none => exact .pure fun _ _ holds => holds
  | some pending =>
      obtain ⟨transfer, status⟩ := pending
      refine Spec.strengthen (Spec.assume (p := custody.transfer = none)
        (P := Stays pid (Tends pid transfer.retryCount)) fun idle => ?_) fun view _ holds => ?_
      · refine Spec.handle (Spec.bind (readMeta_spec tends_frame) (fun _ =>
          (integrateCompletionTransfer_spec tends_frame _ transfer.retryCount
            fun _ known => known.2).strengthen fun _ _ holds => holds.stays)
          fun _ _ _ holds => holds.stays) fun result => ?_
        cases result with
        | error _ =>
            refine .pure fun view _ holds => ?_
            simp only [guarded, guards]
            rw [reaped, idle]
            exact holds
        | ok _ =>
            refine Spec.bind (unlock_spec fun _ holds => holds.2.1.1) (fun _ => .pure ?_)
              fun _ _ _ free => .inl free
            intro view _ free
            simp only [guarded, guards]
            rw [idle]
            exact free
      · simp only [guards] at holds
        rw [reaped] at holds
        cases running : custody.transfer with
        | none =>
            rw [running] at holds
            exact ⟨rfl, holds⟩
        | some _ =>
            rw [running] at holds
            exact holds.elim

theorem deliverFromGuardian_spec [Heeds policy] (custody : GuardianCustody) (reaped : custody.reaped = none)
    (idle : custody.transfer = none) :
    Spec discipline policy pid (Free pid) (custody.deliverFromGuardian) (guarded pid) := by
  have keeps {view : View} (free : Free pid view) : guards pid custody view := by
    simp only [guards]
    rw [reaped, idle]
    exact free
  refine Spec.handle ((spectator free_local).readFile _) fun record => ?_
  cases record with
  | error _ => exact .pure fun _ _ free => keeps free
  | ok record =>
      refine .branch (fun _ => ?_) fun _ => .pure fun _ _ free => keeps free
      refine Spec.handle (tryStartCompletionDelivery_spec record true) fun start => ?_
      match start with
      | .error _ => exact .pure fun _ _ free => keeps free
      | .ok (_, .busy) => exact .pure fun _ _ free => keeps free
      | .ok (_, .settled) =>
          refine .pure fun view _ free => ?_
          simp only [guarded, guards]
          rw [reaped, idle]
          exact free
      | .ok (_, .running transfer) =>
          refine .pure fun view _ below => ?_
          simp only [guarded, guards]
          rw [reaped]
          exact ⟨below, trivial⟩

/-- Outside a transfer that is being reconciled the guardian holds nothing. -/
theorem free_of_guards {custody : GuardianCustody} {view : View} (holds : guards pid custody view)
    (reaped : custody.reaped = none) (pending : custody.reconciled = false) :
    custody.transfer = none ∧ Free pid view := by
  simp only [guards] at holds
  rw [reaped] at holds
  cases running : custody.transfer with
  | none =>
      rw [running] at holds
      exact ⟨rfl, holds⟩
  | some _ =>
      rw [running] at holds
      exact absurd (pending.symm.trans holds.2) nofun

theorem guards_local (custody : GuardianCustody) : Local pid (guards pid custody) := by
  cases reaped : custody.reaped <;> cases running : custody.transfer <;>
    simp only [guards, reaped, running]
  · exact free_local
  · next transfer =>
    have known : Local pid (Below pid transfer) := below_frame.local_
    exact ⟨fun inv holds moved inv' => ⟨known.stable inv holds.1 moved inv', holds.2⟩,
      fun held next same holds => ⟨known.quiet held next same holds.1, holds.2⟩⟩
  · exact holds_local tends_frame
  · exact ⟨fun _ impossible _ _ => impossible, fun _ _ _ impossible => impossible⟩

theorem roleWithheld_spec (known : Local pid P) (treeEmpty : Bool) :
    Steady discipline policy pid P (GuardianCustody.roleWithheld treeEmpty) :=
  .branch (.bind ((spectator known).outsideAsk (by exact nofun)) fun _ => .pure)
    (.bind ((spectator known).outsideAsk (by exact nofun)) fun _ => .pure)

theorem guardTurns_spec [Heeds policy] (turns : List Bool) (custody : GuardianCustody) :
    Spec discipline policy pid (guards pid custody) (GuardianCustody.guardTurns turns custody)
      fun _ => Loose pid := by
  induction turns generalizing custody with
  | nil => exact Lane.park
  | cons observed turns ih =>
      refine Spec.bind (reapGuardianTransfer_spec custody) (fun custody => ?_)
        fun _ _ _ loose => loose
      refine Spec.bind (integrateReapedTransfer_spec custody) (fun custody => ?_)
        fun _ _ _ loose => loose
      refine .branch (fun _ => ih custody) fun reaped => ?_
      refine Steady.before (P := guards pid custody) (roleWithheld_spec (guards_local custody) _)
        (fun withheld => ?_) fun _ _ _ holds => loose_of_guards holds
      refine .branch (fun _ => ?_) fun pending => .branch (fun _ => ih custody) fun _ => ?_
      · exact .branch (fun _ => .pure fun _ _ holds => loose_of_guards holds) fun _ => ih custody
      · have absent : custody.reaped = none := by simpa using reaped
        refine Spec.strengthen (Spec.assume (p := custody.transfer = none) (P := Free pid)
          fun idle => ?_) fun _ _ holds =>
            free_of_guards holds absent (by simpa using pending)
        exact Spec.bind (deliverFromGuardian_spec custody absent idle)
          (fun custody => ih custody) fun _ _ _ loose => loose

theorem reconciledAtExit_spec (status : Option Nat) :
    Steady discipline policy pid (Free pid) (GuardianCustody.reconciledAtExit status) := by
  refine .bind (spectator free_local).continuationEnabled fun enabled => .branch ?_ .pure
  refine .bind (.attempt (spectator free_local).handedOff) fun handed => ?_
  cases handed <;> exact .pure

theorem guardCompletion_spec [Heeds policy] (turns : List Bool) (supervisor : Nat) :
    Spec discipline policy pid (Free pid) (GuardianCustody.guardCompletion turns supervisor)
      fun _ => Loose pid := by
  refine Spec.bind (Q := fun _ => Free pid)
    (Lane.wait free_local.stable fun _ _ _ _ free _ _ => free) (fun status => ?_)
    fun _ _ _ free => .inl free
  exact Spec.bind (reconciledAtExit_spec status)
    (fun reconciled => guardTurns_spec turns { reconciled }) fun _ _ _ free => .inl free

end Guardian

section Entries

variable [Truth] [Heeds policy]

theorem superviseCompletion_safe (turns : List LoopTurn) (record : Meta) (view : View)
    (inv : discipline.Inv view) (free : Free pid view) :
    Safe discipline policy
      ((CompletionCustody.superviseCompletion turns { record }).program softwareExit) pid view :=
  Owned.safe_of_spec loose_local (fun _ loose => loose.edge)
    (superviseCompletion_spec turns { record }) inv free

theorem completionDaemon_spec (turns : List LoopTurn) (guarding : List Bool) (record : Meta) :
    Spec discipline policy pid (Free pid) (completionDaemon turns guarding record)
      fun _ => Loose pid := by
  refine Spec.bind (Owned.spawnFree_spec fun born view inv free =>
    superviseCompletion_safe turns record view inv free) (fun supervisor => ?_)
    fun _ _ _ free => .inl free
  cases supervisor with
  | none => exact Owned.exit_spec free_local fun _ free => .inl free.1
  | some supervisor => exact guardCompletion_spec guarding supervisor

theorem reconcileTerminal_spec (role : Bool) :
    Spec discipline policy pid (Free pid) (reconcileTerminal role) fun _ => Loose pid :=
  Steady.before ((spectator free_local).readFile _) (fun record =>
    .branch (fun _ => reconcileCompletionDelivery_spec record role)
      fun _ => .pure fun _ _ free => .inl free) fun _ _ _ free => .inl free

theorem entry_safe (entry : CompletionEntry) (born : Nat) (view : View)
    (inv : discipline.Inv view) (free : Free born view) :
    Safe discipline policy entry.program born view := by
  cases entry with
  | daemon turns guarding record =>
      exact Owned.safe_of_spec loose_local (fun _ loose => loose.edge)
        (completionDaemon_spec turns guarding record) inv free
  | reconcile role =>
      exact Owned.safe_of_spec loose_local (fun _ loose => loose.edge)
        (reconcileTerminal_spec role) inv free

end Entries

section Run

/-- Nobody dies in the middle of the delivery lock's holders. Only a custodian stands there,
while its worker and its owner are both alive. -/
def custodianSurvives : System.Policy completionSystem where
  call _ _ _ _ := True
  kill pid disk := AtEdge pid (disk.held Lock.delivery)
  change _ _ := True

/-- A handle whose completion was not delivered yet: nobody runs and nobody holds a lock. -/
structure Undelivered (config : Config (requests layout outside) HandleDisk) : Prop where
  idle : ∀ pid, config.procs pid = none
  free : ∀ name, config.state.held name = []
  recorded : config.state.record.isSome
  none : config.state.world.completions = 0

/-- What completion delivery owes in one state. -/
structure AtMostOnce (disk : HandleDisk) : Prop where
  once : disk.world.completions ≤ 1
  closed : ∃ record, disk.record = some record ∧ (1 ≤ disk.world.completions →
    record.delivery.attempted = true ∧ record.delivery.completionLifecycle.permitsAttempt = false)

section Steps

variable [Truth] {event : Event completionSystem} {before after : View}

theorem closed [Heeds policy]
    (kill : ∀ pid disk, policy.kill pid disk → AtEdge pid (disk.held Lock.delivery)) :
    discipline.Closed policy :=
  Owned.closed (fun pid view _ permitted => kill pid view.1 permitted) nofun entry_safe

theorem Undelivered.good {start : Config (requests layout outside) HandleDisk}
    (fresh : Undelivered start)
    (truthful : Truth.required → ∀ record, start.state.record = some record →
      record.delivery.attempted = true → unresolved record.delivery) :
    ∃ ghost, discipline.Good policy start ghost := by
  obtain ⟨record, present⟩ := Option.isSome_iff_exists.mp fresh.recorded
  have valid : Valid false (owned.value (start.state, {})) := by
    refine ⟨⟨record, present, fun some => ?_, nofun, nofun, fun required attempted _ =>
      truthful required record present attempted⟩, ?_, nofun, nofun, nofun, nofun⟩
    · have spawned : 1 ≤ start.state.world.completions := some
      exact absurd fresh.none (by omega)
    · change start.state.world.completions ≤ 1
      rw [fresh.none]
      exact Nat.zero_le 1
  obtain ⟨ghost, valid', -⟩ := owned.left valid
  exact ⟨ghost, owned.good_of_idle fresh.idle fresh.free valid' trivial⟩

/-- An event keeps the record with its past, up to what the last holder leaves behind, or it is a
move of one process. -/
theorem dropped_or_moved (moves : discipline.Moves event before after) :
    Dropped (owned.value before) (owned.value after) ∨
      ∃ pid, Moved pid (owned.value before) (owned.value after) := by
  obtain ⟨pid, promise⟩ := Owned.promise_of_moves moves
  cases promise with
  | same same =>
      rw [same.value]
      exact .inl ⟨rfl, rfl, rfl, id, id⟩
  | left left => exact .inl left.drops
  | noted noted => exact noted.adds.elim
  | moved moved => exact .inr ⟨pid, moved.moves⟩

theorem spawned_provisional (moves : discipline.Moves event before after)
    (more : before.1.world.completions < after.1.world.completions) :
    provisional before.1.record ∧ after.1.record = before.1.record := by
  rcases dropped_or_moved moves with dropped | ⟨pid, moved⟩
  · exact absurd dropped.spawned more.ne'
  · cases moved with
    | write _ _ past _ _ =>
        have spawned := congrArg Past.spawned past
        exact absurd spawned more.ne'
    | spawn open_ record _ _ => exact ⟨open_, record⟩

/-- A record that was left behind is left for good: no helper is started for it any more. -/
theorem moves_orphaned (moves : discipline.Moves event before after)
    (left : before.2.orphaned = true) :
    after.2.orphaned = true ∧ after.1.world.completions = before.1.world.completions := by
  rcases dropped_or_moved moves with dropped | ⟨pid, moved⟩
  · exact ⟨dropped.orphaned left, dropped.spawned⟩
  · cases moved with
    | write _ _ past _ _ =>
        have orphaned := congrArg (·.orphaned) past
        exact ⟨orphaned.trans left, congrArg Past.spawned past⟩
    | spawn _ _ expected _ => exact absurd (expected.symm.trans left) nofun

theorem atMostOnce_of_valid {free : Bool} {view : View} (valid : Valid free (owned.value view)) :
    AtMostOnce view.1 :=
  ⟨valid.once, valid.recorded.imp fun _ known => ⟨known.1, fun some =>
    have attempted := known.2.started some
    ⟨attempted, CompletionDeliveryMeta.not_permits_of_attempted attempted⟩⟩⟩

/-- A provisional record with nobody at the lock starts no helper and stays unresolved. -/
theorem orphaned_unresolved (closed : discipline.Closed policy)
    {left final : Config (requests layout outside) HandleDisk}
    {ghost : History} (good : discipline.Good policy left ghost)
    (free : left.state.held Lock.delivery = []) (open_ : provisional left.state.record)
    (run : System.Run policy left final) :
    final.state.world.completions = left.state.world.completions ∧
      ∃ record, final.state.record = some record ∧ unresolved record.delivery := by
  have valid := good.1.2.valid
  rw [show left.state.held owned.name = [] from free] at valid
  obtain ⟨ghost', good', orphaned, count⟩ := Discipline.run_keeps closed
    (K := fun view => view.2.orphaned = true ∧
      view.1.world.completions = left.state.world.completions)
    (fun event before after _ _ moves kept => by
      obtain ⟨orphaned, count⟩ := moves_orphaned moves kept.1
      exact ⟨orphaned, count.trans kept.2⟩)
    good ⟨valid.marked rfl open_, rfl⟩ run
  obtain ⟨record, present, explains⟩ := good'.1.2.valid.recorded
  exact ⟨count, record, present, explains.left orphaned⟩

end Steps

section Unasked

/-- Where records need not be truthful about helpers that never were, nothing is excluded. -/
abbrev unasked : Truth := ⟨False⟩

theorem unasked_heeds : @Heeds unasked policy :=
  @Heeds.mk unasked policy fun impossible => impossible.elim

theorem survives_closed : (@discipline unasked).Closed custodianSurvives :=
  @closed _ unasked unasked_heeds fun _ _ edge => edge

end Unasked

/-- As long as no custodian dies between its worker and its owner, a handle never gets a
second completion helper: helpers are started from a provisional record only, and a
provisional record that was left behind never starts one. -/
theorem completion_helper_at_most_once {start final : Config (requests layout outside) HandleDisk}
    (fresh : Undelivered start) (run : System.Run custodianSurvives start final) :
    AtMostOnce final.state ∧
    (∀ event next, custodianSurvives.permits final event →
      completionSystem.apply event final = some next →
      final.state.world.completions < next.state.world.completions →
      provisional final.state.record ∧ next.state.record = final.state.record) ∧
    (final.state.held Lock.delivery = [] → provisional final.state.record →
      ∀ later, System.Run custodianSurvives final later →
        later.state.world.completions = final.state.world.completions ∧
        ∃ record, later.state.record = some record ∧ unresolved record.delivery) := by
  let := unasked
  have fair : ∃ ghost, discipline.Good custodianSurvives start ghost :=
    fresh.good fun impossible => impossible.elim
  obtain ⟨ghost, good⟩ := fair
  obtain ⟨ghost', good'⟩ := Discipline.run_good survives_closed good run
  refine ⟨atMostOnce_of_valid good'.1.2.valid, fun event next permitted applied more => ?_,
    fun free open_ later rest => orphaned_unresolved survives_closed good' free open_ rest⟩
  obtain ⟨_, moves, _⟩ := Discipline.apply_good survives_closed event good' permitted applied
  exact spawned_provisional moves more

def finishedRecord : Meta :=
  { state := .done, completionReason := some .exit, completedAt := some 1, rc := some 0 }

/-- A registered handle without a v2 registration, whose workload has finished. -/
def finishedHandle : Config (requests layout outside) HandleDisk where
  state :=
    { files := fun | .metaJson => some finishedRecord | _ => none
      held := fun _ => []
      next := 1
      ended := fun _ => none
      parent := fun _ => none
      gates := fun _ => .waiting
      world := {} }
  procs _ := none

theorem finishedHandle_undelivered : Undelivered finishedHandle :=
  ⟨fun _ => rfl, fun _ => rfl, rfl, rfl⟩

abbrev pass (pid : Nat) : Event completionSystem := .step pid .pass

abbrev agree (pid : Nat) : Event completionSystem := .step pid (.outside .agree)

section LostProcesses

/-- Kills that hit an end of the delivery lock's holders. -/
def atEnds (config : Config (requests layout outside) HandleDisk) : Event completionSystem → Bool
  | .kill pid => decide (AtEdge pid (config.state.held Lock.delivery))
  | _ => true

theorem atEnds_permits (config : Config (requests layout outside) HandleDisk)
    (event : Event completionSystem) (ends : atEnds config event = true) :
    custodianSurvives.permits config event := by
  cases event with
  | kill pid =>
      have edge : AtEdge pid (config.state.held Lock.delivery) := of_decide_eq_true ends
      exact edge
  | step pid choice => exact fun _ _ _ => trivial
  | _ => trivial

/-- The supervisor 2 starts a delivery, and below its custodian 3 the worker 4 announces a
helper. -/
def announcedHelper : List (Event completionSystem) :=
  [.enter (.daemon [⟨true, false, false, none, false⟩] [] finishedRecord), .fork 1] ++
  [pass 2, pass 2, pass 2, pass 2, pass 2, agree 2, .fork 2, agree 2, pass 2] ++
  [pass 3, agree 3, pass 3, agree 3, .fork 3] ++
  [pass 4, agree 4, pass 4, pass 4, pass 4]

/-- The helper runs; then the supervisor, the custodian and the worker are killed. -/
def lostProcesses : List (Event completionSystem) := [.kill 2, .kill 3, .kill 4]

/-- A reconciling call 5 comes to the free lock. -/
def laterReconcile : List (Event completionSystem) :=
  .enter (.reconcile false) :: List.replicate 10 (pass 5) ++ [.leave 5]

theorem lostProcesses_unresolved :
    ((completionSystem.play atEnds announcedHelper finishedHandle).bind fun announced =>
      (completionSystem.apply (agree 4) announced).bind fun started =>
        (completionSystem.play atEnds lostProcesses started).bind fun left =>
          (completionSystem.play atEnds laterReconcile left).map fun settled =>
            ((announced.state.world.completions, started.state.world.completions),
              (left.state.held Lock.delivery,
                left.state.record.map (·.delivery.completionLifecycle)),
              settled.state.record.map (·.delivery.completionLifecycle))) =
      some ((0, 1), ([], some .provisionalTransfer), some .nonReplayableUnknownTransfer) := by
  rfl

/-- A helper is started once, loses everybody above it, and is not started again. -/
theorem completion_helper_at_most_once_lost : ∃ announced started left settled,
    completionSystem.play atEnds announcedHelper finishedHandle = some announced ∧
      completionSystem.apply (agree 4) announced = some started ∧
      completionSystem.play atEnds lostProcesses started = some left ∧
      completionSystem.play atEnds laterReconcile left = some settled ∧
      provisional announced.state.record ∧ started.state.world.completions = 1 ∧
      settled.state.world.completions = left.state.world.completions ∧
      AtMostOnce settled.state := by
  obtain ⟨announced, played, rest⟩ := Option.bind_eq_some_iff.mp lostProcesses_unresolved
  obtain ⟨started, spawned, rest⟩ := Option.bind_eq_some_iff.mp rest
  obtain ⟨left, killed, rest⟩ := Option.bind_eq_some_iff.mp rest
  obtain ⟨settled, reconciled, known⟩ := Option.map_eq_some_iff.mp rest
  simp only [Prod.mk.injEq] at known
  obtain ⟨⟨none, one⟩, ⟨free, open_⟩, -⟩ := known
  have announces := System.Run.of_play atEnds_permits played
  have starts : System.Run custodianSurvives finishedHandle started :=
    .step (agree 4) announces (fun _ _ _ => trivial) spawned
  have leaves := starts.trans (System.Run.of_play atEnds_permits killed)
  have settles := System.Run.of_play atEnds_permits reconciled
  obtain ⟨-, counted, -⟩ := completion_helper_at_most_once finishedHandle_undelivered announces
  obtain ⟨-, -, orphaned⟩ := completion_helper_at_most_once finishedHandle_undelivered leaves
  obtain ⟨once, -, -⟩ :=
    completion_helper_at_most_once finishedHandle_undelivered (leaves.trans settles)
  obtain ⟨record, present, lifecycle⟩ := Option.map_eq_some_iff.mp open_
  exact ⟨announced, started, left, settled, played, spawned, killed, reconciled,
    (counted (agree 4) started (fun _ _ _ => trivial) spawned (by omega)).1, one,
    (orphaned free ⟨record, present, lifecycle⟩ settled settles).1, once⟩

end LostProcesses

section LostCustodian

/-- The supervisor 2 starts a delivery; its custodian 3 dies as soon as the worker 4 is
there, and the supervisor reads the record before the worker has written it. The worker
delivers, the supervisor then records a failed launch, and a reconciling call 5 with its
worker 6 delivers again. -/
def lostCustodian : List (Event completionSystem) :=
  [.enter (.daemon [⟨true, false, false, none, false⟩] [] finishedRecord), .fork 1] ++
  [pass 2, pass 2, pass 2, pass 2, pass 2, agree 2, .fork 2, agree 2, pass 2] ++
  [pass 3, agree 3, pass 3, agree 3, .fork 3, .kill 3] ++
  [pass 2, agree 2, pass 2] ++
  [pass 4, agree 4, pass 4, pass 4, pass 4, agree 4, .step 4 (.outside (.exited (.code 0))),
    pass 4, pass 4, pass 4, .leave 4] ++
  [pass 2, pass 2, pass 2, pass 2] ++
  [.enter (.reconcile false), pass 5, pass 5, pass 5, pass 5, pass 5, pass 5, agree 5, .fork 5,
    pass 5] ++
  [pass 6, agree 6, pass 6, pass 6, agree 6, pass 6, pass 6, pass 6,
    .step 6 (.outside (.boot none)), pass 6, pass 6, pass 6, agree 6]

theorem lostCustodian_completions :
    (completionSystem.play (fun _ _ => true) lostCustodian finishedHandle).map
      (·.state.world.completions) = some 2 := by
  rfl

/-- With a lost custodian the record of a delivered completion offers a second attempt. -/
theorem completion_helper_twice :
    ¬ ∀ start final, Undelivered start → start.state.files File.registration = none →
      System.Run (System.Policy.free completionSystem) start final → AtMostOnce final.state := by
  intro always
  obtain ⟨final, played, twice⟩ := Option.map_eq_some_iff.mp lostCustodian_completions
  have once := (always finishedHandle final finishedHandle_undelivered rfl
    (System.Run.of_play (fun config event _ => System.Policy.free_permits config event) played)).once
  omega

end LostCustodian

end Run

end CompletionLane

end AgentBash
