import AgentBash.Delivery.CompletionLane

/-!
# Runs of the delivery path

The processes of the completion lane one by one: the worker, its custodian, the owner that
forked them, and the three ways to start. Whoever holds the delivery lock below others keeps
its place and its licence to integrate the transfer.
-/

namespace AgentBash

set_option autoImplicit false

open Durable

namespace CompletionLane

variable [Truth] {policy : System.Policy completionSystem} {pid child : Nat} {F : View → Prop}
  {fact : Fact} {P : View → Prop}

abbrev Clean (pid : Nat) : View → Prop := owned.Clean pid

abbrev Bottom (pid : Nat) : View → Prop := owned.Bottom pid

/-- The owner of a transfer, with its licence. -/
abbrev Tends (pid retries : Nat) (view : View) : Prop :=
  Bottom pid view ∧ Licensed pid retries view

/-- The owner below the child that carries its transfer. -/
abbrev Below (pid : Nat) (transfer : CompletionTransfer) : View → Prop :=
  owned.Below pid transfer.pid (Tends pid transfer.retryCount)

abbrev Free (pid : Nat) : View → Prop := owned.Free pid

abbrev Loose (pid : Nat) : View → Prop := owned.Loose pid

theorem clean_frame : Frame pid (Clean pid) := Owned.Clean.frame

theorem bottom_frame : Frame pid (Bottom pid) := Owned.Bottom.frame

theorem tends_frame {retries : Nat} : Frame pid (Tends pid retries) :=
  bottom_frame.and (Owned.Shares.frame Licence.kept)

theorem below_frame {transfer : CompletionTransfer} : Frame pid (Below pid transfer) :=
  Owned.Below.frame tends_frame

theorem free_local : Local pid (Free pid) := Owned.Free.frame.local_

theorem loose_local : Local pid (Loose pid) := Owned.Loose.frame.local_

theorem loose_of_stays {retries : Nat} {view : View}
    (holds : Stays pid (Tends pid retries) view) : Loose pid view :=
  .inr holds.2.1.1

/-- Nobody was started and nobody has announced anything since the lock was taken. -/
def Fresh (retries : Nat) (ledger : Ledger) : Prop := Untried retries ledger ∧ Quiet ledger

theorem licensed {retries : Nat} {view : View} (holds : Holds pid F (Fresh retries) view) :
    Holds pid (fun view => F view ∧ Licensed pid retries view) (Fresh retries) view :=
  ⟨holds.1, ⟨holds.2.1, holds.1.mem, .of_quiet holds.2.2.1 holds.2.2.2⟩, holds.2.2⟩

section Custodian

theorem worker_safe [Heeds policy] (record : Meta) (retryCount : Nat) (external : Bool) (view : View)
    (inv : discipline.Inv view) (holds : Working pid (Untried retryCount) view) :
    Safe discipline policy
      ((executeCompletionTransfer record retryCount external).program softwareExit) pid view :=
  Owned.safe_of_spec (holds_local .top) (fun _ holds => holds.edge)
    (executeCompletionTransfer_spec record retryCount external) inv holds

theorem working {view : View} (holds : Holds pid F fact view) : Working pid fact view :=
  ⟨holds.1, trivial, holds.2.2⟩

/-- Certifying the drain and leaving, as every custodian does in the end. -/
theorem drained_spec (frame : Frame pid F) {code : Nat} :
    Spec discipline policy pid (Holds pid F fact)
      (do outsideAsk .drainRole; Io.exit code : Script Unit) fun _ => Stays pid F :=
  Steady.before ((spectator (holds_local frame)).outsideAsk (by exact nofun))
    (fun _ => Owned.exit_spec (holds_local frame) fun _ holds => holds.edge)
    fun _ _ _ holds => holds.stays

theorem runCustodian_spec [Heeds policy] (record : Meta) (retryCount : Nat) (external : Bool) :
    Spec discipline policy pid (Holds pid (Clean pid) (Fresh retryCount))
      (runCustodian (executeCompletionTransfer record retryCount external)
        fun status => do
          let _ ← integrateCompletionTransfer (transferStatus status) retryCount
          Pure.pure ())
      fun _ => Stays pid (Clean pid) := by
  refine Spec.handle ((spectator (holds_local clean_frame)).outsideAsk (by exact nofun))
    fun subreaper => ?_
  cases subreaper with
  | error _ => exact drained_spec clean_frame
  | ok _ =>
      have frame : Frame pid fun view => Clean pid view ∧ Licensed pid retryCount view :=
        clean_frame.and (Owned.Shares.frame Licence.kept)
      have left {view : View}
          (holds : Stays pid (fun view => Clean pid view ∧ Licensed pid retryCount view) view) :
          Stays pid (Clean pid) view := ⟨holds.1, holds.2.1.1, trivial⟩
      refine Spec.strengthen ?_ fun _ _ holds => licensed holds
      refine Spec.bind (Owned.spawn_spec ((Owned.Clean.forkable fun _ => trivial).shares Licence.kept)
        fun born view inv holds =>
          worker_safe record retryCount external view inv (working (holds.imp fun _ => And.left)))
        (fun worker => ?_) fun _ _ _ impossible => impossible.elim
      cases worker with
      | none =>
          refine Spec.relax ?_ fun _ _ _ holds => left holds
          exact (drained_spec frame : Spec discipline policy pid
            (Holds pid (fun view => Clean pid view ∧ Licensed pid retryCount view)
              (Fresh retryCount)) _ _)
      | some worker =>
          refine Spec.relax ?_ fun _ _ _ holds => left holds
          refine Spec.bind (Owned.wait_spec frame) (fun status => ?_) fun _ _ _ holds => holds
          exact Spec.handle (Steady.bind (integrateCompletionTransfer_spec frame _ retryCount
            fun _ known => known.2) fun _ => .pure) fun result => drained_spec frame

theorem completionChild_spec [Heeds policy] (record : Meta) (retryCount : Nat) (role external : Bool) :
    Spec discipline policy pid (Holds pid (Clean pid) (Fresh retryCount))
      (completionChild record retryCount role external)
      fun _ => Stays pid (Clean pid) := by
  have known {fact : Fact} : Local pid (Holds pid (Clean pid) fact) := holds_local clean_frame
  have refused {fact : Fact} : Spec discipline policy pid (Holds pid (Clean pid) fact)
      (do drainIf role; Io.exit 70 : Script Unit) fun _ => Stays pid (Clean pid) :=
    Steady.before (.branch ((spectator known).outsideAsk (by exact nofun)) .pure)
      (fun _ => Owned.exit_spec known fun _ holds => holds.edge) fun _ _ _ holds => holds.stays
  refine Steady.before (Lane.enter known.stable (fun _ _ holds _ => holds) fun _ _ holds _ => holds)
    (fun admitted => ?_) fun _ _ _ holds => holds.stays
  refine .branch (fun _ => ?_) fun _ => refused
  refine Spec.handle (Steady.bind ((spectator known).outsideAsk (by exact nofun))
    fun _ => Owned.keepOnly_spec) fun prepared => ?_
  cases prepared with
  | error _ => exact refused
  | ok _ =>
      refine .branch (fun _ => runCustodian_spec record retryCount external) fun _ => ?_
      exact Spec.handle ((executeCompletionTransfer_spec record retryCount external).strengthen
        fun _ _ holds => working (holds.imp fun _ => And.left)) fun _ =>
          Owned.exit_spec (holds_local .top) fun _ holds => holds.edge

theorem completionChild_safe [Heeds policy] (record : Meta) (retryCount : Nat) (role external : Bool)
    (born : Nat) (view : View) (inv : discipline.Inv view)
    (holds : Holds born (Clean born) (Fresh retryCount) view) :
    Safe discipline policy
      ((completionChild record retryCount role external).program softwareExit) born view :=
  Owned.safe_of_spec (holds_local clean_frame) (fun _ holds => holds.edge)
    (completionChild_spec record retryCount role external) inv holds

end Custodian

section Owner

/-- Where an owner stands after starting: it keeps the lock only below a running child. -/
def started (pid : Nat) : Except IoError (Meta × CompletionStart) → View → Prop
  | .ok (_, .running transfer) => Below pid transfer
  | .ok _ => Stays pid (Bottom pid)
  | .error _ => Bottom pid

theorem gate_keeps {view : View} {gate : Gate} (known : Local pid P) (inv : owned.Inv view)
    (holds : P view) : owned.lane.Keeps pid view (view.1.setGate child gate) P :=
  Owned.keeps_quiet inv rfl (.of_disk rfl rfl) (known.quiet rfl rfl (.of_disk rfl rfl) holds)

theorem admitCompletionChild_spec (known : Local pid P) (role : Bool) :
    Steady discipline policy pid P (admitCompletionChild role child) := by
  refine Spec.handle (Steady.branch ((spectator known).outsideAsk (by exact nofun)) .pure)
    fun published => ?_
  cases published with
  | error error =>
      exact Steady.bind (Lane.dismiss known.stable fun _ _ inv holds _ => gate_keeps known inv holds)
        fun _ => .throw
  | ok _ => exact Lane.openGate known.stable fun _ _ inv holds _ => gate_keeps known inv holds

theorem forkCompletionChild_spec [Heeds policy] (record : Meta) (retryCount : Nat) (role external : Bool) :
    Spec discipline policy pid (Holds pid (Bottom pid) (Fresh retryCount))
      (forkCompletionChild record retryCount role external) (started pid) := by
  refine Steady.before ((spectator (holds_local bottom_frame)).outsideAsk (by exact nofun))
    (fun _ => ?_) fun _ _ _ holds => holds.2.1
  refine Spec.strengthen ?_ fun _ _ holds => licensed holds
  refine Spec.bind (Owned.spawn_spec ((Owned.Bottom.forkable trivial).shares Licence.kept)
    (completionChild_safe record retryCount role external)) (fun born => ?_)
    fun _ _ _ impossible => impossible.elim
  cases born with
  | none =>
      refine Spec.bind ((integrateCompletionTransfer_spec tends_frame _ retryCount
        fun _ known => known.2).strengthen ?_)
        (fun _ => .pure fun _ _ holds => ⟨holds.1, holds.2.1.1, trivial⟩)
        fun _ _ _ holds => holds.2.1.1
      intro view _ holds
      have free : Holds pid (Tends pid retryCount) (Fresh retryCount) view := holds
      exact free.stays
  | some child =>
      have below : Local pid (Below pid ⟨child, retryCount⟩) := below_frame.local_
      exact Spec.bind (admitCompletionChild_spec below role)
        (fun _ => .pure fun _ _ holds => holds) fun _ _ _ holds => holds.2.1

/-- What a start knows of the attempt: it is free if the lifecycle it read permits one. -/
def offered (delivery : CompletionDeliveryMeta) (lifecycle : CompletionDeliveryLifecycle) : Fact :=
  fun ledger => lifecycle.permitsAttempt = true →
    Fresh (nextRetryCount delivery lifecycle) ledger

theorem settleOrphanedCompletion_spec (frame : Frame pid F) (observed : Meta)
    (quiet : ∀ ledger, fact ledger → Quiet ledger)
    (present : ∀ ledger, fact ledger → ledger.record.map (·.delivery) = some observed.delivery)
    (settles : ∀ ledger, fact ledger →
      offered observed.delivery observed.delivery.completionLifecycle ledger) :
    Spec discipline policy pid (Holds pid F fact) (settleOrphanedCompletion observed) fun
      | .ok persisted =>
          Holds pid F (offered persisted.delivery observed.delivery.completionLifecycle)
      | .error _ => Stays pid F := by
  refine .branch (fun open_ => ?_) fun _ => .pure fun _ _ holds =>
    holds.imp fun ledger known => settles ledger known
  have refuses : ∀ delivery view, Stays pid F view →
      Holds pid F (offered delivery observed.delivery.completionLifecycle) view := by
    rw [open_]
    exact fun _ _ holds => holds.imp fun _ _ permits => nomatch permits
  have silent : ∀ ledger, fact ledger → pid ∉ ledger.past.announcers := fun ledger known => by
    rw [quiet ledger known]
    exact List.not_mem_nil
  have opened : ∀ ledger, fact ledger → provisional ledger.record := fun ledger known => by
    obtain ⟨entry, recorded, same⟩ := Option.map_eq_some_iff.mp (present ledger known)
    exact ⟨entry, recorded, by rw [same]; exact open_⟩
  exact Spec.bind (writeUnknown_spec frame rfl rfl silent opened)
    (fun _ => .pure fun view _ holds => refuses _ view holds) fun _ _ _ holds => holds

theorem completionHandedOff_spec (known : Local pid P) (persisted : Meta) :
    Steady discipline policy pid P (completionHandedOff persisted) :=
  .bind (spectator known).continuationEnabled fun _ =>
    .branch (.branch (spectator known).handedOff .pure) .pure

theorem snapshotPending_spec (known : Local pid P) :
    Steady discipline policy pid P snapshotPending :=
  .bind (spectator known).continuationEnabled fun _ =>
    .branch (.bind ((spectator known).tryExists _) fun _ => .pure) .pure

/-- Only a record that permits an attempt, read under the lock, leads to a fork. -/
theorem startWithLock_spec [Heeds policy] (record : Meta) (role external : Bool) :
    Spec discipline policy pid (Holds pid (Bottom pid) Quiet) (startWithLock record role external)
      (started pid) := by
  have known {fact : Fact} : Local pid (Holds pid (Bottom pid) fact) := holds_local bottom_frame
  refine Spec.bind (readMeta_spec bottom_frame) (fun read => ?_) fun _ _ _ holds => holds.2.1
  refine Steady.before (P := Holds pid (Bottom pid) (seen Quiet (.ok read)))
    (spectator known).readDeliveryMode (fun mode => ?_) fun _ _ _ holds => holds.2.1
  refine Steady.before (P := Holds pid (Bottom pid) (seen Quiet (.ok read)))
    (snapshotPending_spec known) (fun pending => ?_) fun _ _ _ holds => holds.2.1
  refine .branch (fun _ => .pure fun _ _ holds => Owned.Holds.stays holds) fun _ => ?_
  refine Spec.bind (settleOrphanedCompletion_spec bottom_frame
    { read with deliveryMode := mode } (fun _ known => known.1)
    (fun _ known => by rw [known.2.present]; rfl)
    fun ledger known (permits : _ = true) =>
      (⟨untried_of_permits known.2 permits, known.1⟩ : Fresh (nextRetryCount read.delivery _) _))
    (fun persisted => ?_) fun _ _ _ holds => holds.2.1
  refine Steady.before (completionHandedOff_spec known persisted) (fun handed => ?_)
    fun _ _ _ holds => holds.2.1
  refine .branch (fun _ => .pure fun _ _ holds => Owned.Holds.stays holds) fun _ => ?_
  refine .branch (fun _ => .pure fun _ _ holds => Owned.Holds.stays holds) fun permits => ?_
  refine (forkCompletionChild_spec persisted _ role external).strengthen fun _ _ holds =>
    holds.imp fun _ free => free ?_
  simpa using permits

/-- Where a caller stands once a start is over: without the lock, or below a running child. -/
def answered (pid : Nat) : Except IoError (Meta × CompletionStart) → View → Prop
  | .ok (_, .running transfer) => Below pid transfer
  | _ => Free pid

theorem unlock_spec (bottom : ∀ view, P view → Bottom pid view) :
    Spec discipline policy pid P (unlock .delivery) fun _ => Free pid :=
  Owned.unlock_spec bottom

theorem quiet_of_taken {view : View} (holds : Holds pid F (Valid true) view) :
    Holds pid F Quiet view :=
  holds.imp fun _ valid => valid.quiet rfl

theorem startCompletionDelivery_spec [Heeds policy] (record : Meta) (role external : Bool) :
    Spec discipline policy pid (Holds pid (Bottom pid) Quiet)
      (startCompletionDelivery record role external) (answered pid) := by
  refine Spec.handle (startWithLock_spec record role external) fun result => ?_
  have leave {P : View → Prop} (rest : Script (Meta × CompletionStart))
      (bottom : ∀ view, P view → Bottom pid view)
      (spec : Spec discipline policy pid (Free pid) rest (answered pid)) :
      Spec discipline policy pid P (do unlock .delivery; rest) (answered pid) :=
    Spec.bind (unlock_spec bottom) (fun _ => spec) fun _ _ _ free => free
  match result with
  | .ok (record, .running transfer) => exact .pure fun _ _ holds => holds
  | .ok (record, .busy) =>
      exact leave _ (fun _ holds => holds.2.1) (.pure fun _ _ holds => holds)
  | .ok (record, .settled) =>
      exact leave _ (fun _ holds => holds.2.1) (.pure fun _ _ holds => holds)
  | .error error => exact leave _ (fun _ holds => holds) (.throw fun _ _ holds => holds)

theorem tryLock_spec :
    Spec discipline policy pid (Free pid) (tryLock .delivery) (owned.attempted pid) :=
  Owned.tryLock_spec

theorem tryStartCompletionDelivery_spec [Heeds policy] (record : Meta) (role : Bool) :
    Spec discipline policy pid (Free pid) (tryStartCompletionDelivery record role)
      (answered pid) := by
  refine Spec.bind tryLock_spec (fun taken => ?_) fun _ _ _ holds => holds
  cases taken with
  | false => exact .pure fun _ _ holds => holds
  | true =>
      exact (startCompletionDelivery_spec record role false).strengthen fun _ _ holds =>
        quiet_of_taken holds

theorem waitForCompletionCustodian_spec (transfer : CompletionTransfer) (role : Bool) :
    Spec discipline policy pid (Below pid transfer)
      (waitForCompletionCustodian transfer.pid role)
      fun _ => Stays pid (Tends pid transfer.retryCount) := by
  refine Spec.bind (Owned.wait_spec tends_frame) (fun status => ?_) fun _ _ _ holds => holds
  exact .branch (fun _ => Steady.bind
    ((spectator (holds_local tends_frame)).outsideAsk (by exact nofun)) fun _ => .pure)
    fun _ => .pure fun _ _ holds => holds

theorem reconcileCompletionDelivery_spec [Heeds policy] (record : Meta) (role : Bool) :
    Spec discipline policy pid (Free pid) (reconcileCompletionDelivery record role)
      fun _ => Loose pid := by
  refine Spec.bind Owned.lock_spec (fun _ => ?_) fun _ _ _ free => .inl free
  refine Spec.bind ((startCompletionDelivery_spec record role true).strengthen fun _ _ holds =>
    quiet_of_taken holds) (fun start => ?_) fun _ _ _ free => .inl free
  match start with
  | (record, .busy) => exact .pure fun _ _ free => .inl free
  | (record, .settled) => exact .pure fun _ _ free => .inl free
  | (record, .running transfer) =>
      refine Spec.bind (waitForCompletionCustodian_spec transfer role) (fun status => ?_)
        fun _ _ _ holds => loose_of_stays holds
      refine Spec.handle (integrateCompletionTransfer_spec tends_frame _ transfer.retryCount
        fun _ known => known.2) fun result => ?_
      exact Spec.bind (unlock_spec fun _ holds => holds.2.1.1)
        (fun _ => .ofExcept fun _ _ free => .inl free) fun _ _ _ free => .inl free

end Owner

end CompletionLane

end AgentBash
