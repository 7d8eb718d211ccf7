import AgentBash.Delivery.ActivationLane

/-!
# An async handle was activated

The processes of the activation lane one by one, and what every run of them owes as long as the
worker's turn to async is durable: a settled async mode was earned by a helper.
-/

namespace AgentBash

set_option autoImplicit false

open Durable

namespace ActivationLane

variable {policy : System.Policy activationSystem} {pid child : Nat} {α : Type}
  {P F F' : View → Prop} {fact : Fact}

section Settlement

/-- The mirror is repaired under the completion lock and does not touch the claim. -/
theorem repairDeliveryModeMirror_spec {mode : DeliveryMode}
    (within : owned.Section ActivationEntry.program pid Lock.completion F F') :
    Steady discipline policy pid (Holds pid F fact) (repairDeliveryModeMirror mode) := by
  have own : owned.name ≠ Lock.completion := nofun
  have known := spectator (P := Holds pid F' fact) (holds_local within.inner)
  refine lockedElsewhere_spec (Q := fun _ => fact) within own (fun _ _ known => known) ?_
  refine Steady.bind (known.readFile _) fun record => ?_
  refine Steady.branch .pure (Steady.bind ?_ fun _ => .pure)
  exact known.writeMetaAtomic (by exact fun _ _ => rfl)

theorem rollBackActivation_spec
    (within : owned.Section ActivationEntry.program pid Lock.completion F F') :
    Steady discipline policy pid (Stays pid F) rollBackActivation := by
  have frame := within.outer
  refine Spec.bind (writeMode_spec (D := synchronous) frame fun claim valid _ =>
    ⟨.of_synchronous rfl valid.succeeded, rfl⟩) (fun _ => ?_) fun _ _ _ holds => holds.stays
  refine Steady.before (P := Holds pid F synchronous) (repairDeliveryModeMirror_spec within)
    (fun _ => ?_) fun _ _ _ holds => holds.stays
  refine Spec.bind (removeOutcome_spec frame) (fun _ => ?_) fun _ _ _ holds => holds.stays
  exact (rollbackActivationAttempt_spec frame).weaken
    (fun _ _ holds => holds.imp fun _ mode => .inl mode) fun _ _ _ holds => holds.stays

theorem settleOrphanedActivation_spec
    (within : owned.Section ActivationEntry.program pid Lock.completion F F') :
    Steady discipline policy pid (Stays pid F) settleOrphanedActivation := by
  have frame := within.outer
  refine Spec.bind (activationTransferState_spec frame) (fun state => ?_)
    fun _ _ _ holds => holds.stays
  refine Spec.strengthen (P := Stays pid F) ?_ fun _ _ holds => holds.stays
  obtain ⟨mode, outcome⟩ := state
  cases outcome with
  | claimedWithoutOutcome => exact rollBackActivation_spec within
  | preAdmissionFailed _ => exact rollBackActivation_spec within
  | pending => exact writeOutcome_spec frame nofun
  | _ => exact Steady.pure

theorem requireSettledActivation_steady (known : Local pid P) :
    Steady discipline policy pid P requireSettledActivation := by
  refine .bind (spectator known).activationTransferState fun state => ?_
  obtain ⟨mode, outcome⟩ := state
  cases outcome <;> first | exact .pure | exact .throw

theorem observedDeliveryMode_spec (known : Local pid P) :
    Steady discipline policy pid P observedDeliveryMode :=
  .bind (spectator known).activationTransferState fun _ =>
    .branch (.bind (requireSettledActivation_steady known) fun _ => .pure) .pure

end Settlement

section Helper

/-- A helper is running or was run for the claim. -/
def admitted : Fact := fun claim => 1 ≤ claim.activations

/-- What the output of a helper tells: its success earns the claim. -/
def outputFact : Except DeliveryHelperCommandError (ExitStatus × Option String) → Fact
  | .ok (status, _) => fun claim => status.success = true → claim.Earned
  | .error _ => fun _ => True

def finished : Except DeliveryHelperCommandError Unit → Fact
  | .ok _ => Claim.Earned
  | .error _ => fun _ => True

/-- What holds of the answer of a helper command, and nothing after an error around it. -/
def answered (pid : Nat) (F : View → Prop) (known : α → Fact) : Except IoError α → View → Prop
  | .ok answer => Holds pid F (known answer)
  | .error _ => Stays pid F

theorem Valid.of_earned {before after : Claim} (valid : Valid before)
    (mode : after.mode = before.mode) (marker : after.marker = before.marker)
    (outcome : after.outcome = before.outcome) (earned : before.Earned → after.Earned) :
    Valid after where
  unclaimed async none unrecorded := by
    refine earned (valid.unclaimed ?_ (marker ▸ none) (outcome ▸ unrecorded))
    simp only [Claim.state] at async ⊢
    rw [← mode]
    exact async
  succeeded recorded := earned (valid.succeeded (outcome ▸ recorded))

theorem spawnHelper_spec (frame : Frame pid F) :
    Spec discipline policy pid (Stays pid F) (outsideAsk (.spawnHelper .activate))
      (answered pid F fun _ => admitted) := by
  refine Lane.external (holds_local frame).stable ?_
  intro view choice answer world _ inv holds _ _ acted
  cases choice with
  | agree =>
      obtain ⟨rfl, rfl⟩ := Prod.mk.inj (Option.some.inj acted)
      exact Owned.keeps_moved (g := ()) inv rfl ⟨holds.1, trivial, rfl⟩
        ((holds.valid inv).of_earned rfl rfl rfl fun earned => ⟨Nat.le_succ_of_le earned.1, earned.2⟩)
        ⟨holds.1, frame.same rfl rfl ⟨⟨trivial, trivial⟩, trivial⟩ holds.2.1, Nat.succ_le_succ (Nat.zero_le _)⟩
  | fail error =>
      obtain ⟨rfl, rfl⟩ := Prod.mk.inj (Option.some.inj acted)
      exact Owned.keeps_quiet inv rfl (.of_disk rfl rfl) holds
  | _ => cases acted

theorem waitHelperOutput_spec (frame : Frame pid F) :
    Spec discipline policy pid (Holds pid F admitted) (outsideAsk (.waitHelperOutput .activate))
      (answered pid F fun output => outputFact (.ok output)) := by
  refine Lane.external (holds_local frame).stable ?_
  intro view choice answer world _ inv holds _ _ acted
  cases choice with
  | output status detail =>
      obtain ⟨rfl, rfl⟩ := Prod.mk.inj (Option.some.inj acted)
      have count : (view.1.world.reported pid .activate status).activations =
          view.1.world.activations := by
        unfold World.reported
        split <;> rfl
      have report : status.success = true ∨ view.1.world.activationReported = true →
          (view.1.world.reported pid .activate status).activationReported = true := by
        unfold World.reported
        split
        · exact fun _ => rfl
        · next failed => exact fun either => either.elim (fun ok => absurd ok (by simpa using failed)) id
      have started : 1 ≤ view.1.world.activations := holds.2.2
      have confirm : (view.1.world.reported pid .activate status).activationConfirmed =
          view.1.world.activationConfirmed := by
        unfold World.reported
        split <;> rfl
      refine Owned.keeps_moved (g := ()) inv rfl ⟨holds.1, trivial, rfl⟩
        ((holds.valid inv).of_earned rfl rfl rfl fun earned => ?_)
        ⟨holds.1, frame.same rfl rfl ⟨⟨trivial, trivial⟩, trivial⟩ holds.2.1, fun succeeded => ?_⟩
      · exact ⟨earned.1.trans_eq count.symm, earned.2.imp (fun told => report (.inr told))
          fun told => ⟨told.1, confirm.trans told.2⟩⟩
      · exact ⟨started.trans_eq count.symm, .inl (report (.inl succeeded))⟩
  | fail error =>
      obtain ⟨rfl, rfl⟩ := Prod.mk.inj (Option.some.inj acted)
      exact Owned.keeps_quiet inv rfl (.of_disk rfl rfl) holds.stays
  | _ => cases acted

theorem waitRequiredDeliveryHelper_spec (frame : Frame pid F) :
    Spec discipline policy pid (Stays pid F) (waitRequiredDeliveryHelper .activate)
      (answered pid F outputFact) := by
  refine Spec.handle (spawnHelper_spec frame) fun started => ?_
  cases started with
  | error _ => exact .pure fun _ _ holds => holds
  | ok _ =>
      refine Spec.handle (waitHelperOutput_spec frame) fun output => ?_
      cases output with
      | error _ => exact .pure fun _ _ holds => holds
      | ok output => exact .pure fun _ _ holds => holds

theorem finished_of_output {output : ExitStatus × Option String} {claim : Claim}
    (known : outputFact (.ok output) claim) : finished (requireHelperSuccess output) claim := by
  obtain ⟨status, detail⟩ := output
  simp only [requireHelperSuccess]
  split
  · next succeeded => exact known succeeded
  · trivial

theorem runActivate_spec (frame : Frame pid F) (external : Bool) :
    Spec discipline policy pid (Stays pid F)
      (runRequiredDeliveryHelperCommandDetailed .activate external) (answered pid F finished) := by
  refine Spec.bind (withExternalTransferCustody_spec custody external
    (spectator (holds_local frame)) (fun _ => spectator (holds_local frame)) (fun _ _ holds => holds)
    (fun _ _ _ holds => Owned.Holds.stays holds) (waitRequiredDeliveryHelper_spec frame))
    (fun answer => ?_) fun _ _ _ holds => holds
  cases answer with
  | error _ => exact .pure fun _ _ holds => holds
  | ok output =>
      have known : ∀ view, answered pid F outputFact (.ok (.ok output)) view →
          Holds pid F (finished (requireHelperSuccess output)) view :=
        fun _ holds => Owned.Holds.imp holds fun _ known => finished_of_output known
      exact .pure fun view _ holds => known view holds

end Helper

section Worker

abbrev Working (pid : Nat) (fact : Fact) : View → Prop := Holds pid (fun _ => True) fact

theorem recordActivationAttempt_spec (frame : Frame pid F) :
    Spec discipline policy pid (Holds pid F synchronous) recordActivationAttempt fun
      | .ok _ => Holds pid F fun claim => synchronous claim ∧ marked claim
      | .error _ => Holds pid F synchronous := by
  have creates : Update owned policy pid (.create File.activationAttempted ())
      .activationAttempted (some ()) synchronous fun claim => synchronous claim ∧ marked claim :=
    update_of fun claim valid mode => ⟨.of_synchronous mode valid.succeeded, mode, rfl⟩
  have removes : Update owned policy pid (.remove File.activationAttempted) .activationAttempted
      none (fun claim => synchronous claim ∧ marked claim) synchronous :=
    update_of fun claim valid known => ⟨.of_synchronous known.1 valid.succeeded, known.1⟩
  have found (view : View) (taken : view.1.files File.activationAttempted ≠ none)
      (mode : synchronous (owned.value view)) :
      synchronous (owned.value view) ∧ marked (owned.value view) :=
    ⟨mode, Option.isSome_iff_ne_none.mpr taken⟩
  have spec := recordDurableCreateOnceMarker_spec synchronous
    (fun claim => synchronous claim ∧ marked claim) synchronous blind frame
    (fun _ _ mode => mode) found creates removes
    (fun _ mode => mode) fun _ known => known.1
  refine spec.relax fun result _ _ holds => ?_
  match result with
  | .ok true => exact holds
  | .ok false => exact holds
  | .error _ => exact holds

/-- A claim stands under an async mode, and no outcome is recorded yet. -/
structure Turning (disk : HandleDisk) : Prop where
  async : (claimOf disk.files disk.world).state.mode = .async
  marked : disk.files File.activationAttempted ≠ none
  unrecorded : disk.files File.activationOutcome = none

/-- The directory sync after the rename to async does not fail: without it the worker would take
its claim back and leave the mode as it is. -/
def TurnsDurably (policy : System.Policy activationSystem) : Prop :=
  ∀ pid error disk, Turning disk → ¬ policy.call pid .sync (.fault error) disk

/-- The claim and its mode turn together, or the claim can be taken back. -/
theorem turnAsync_spec (durable : TurnsDurably policy) (frame : Frame pid F) :
    Spec discipline policy pid (Holds pid F fun claim => synchronous claim ∧ marked claim)
      (writeDeliveryModeAtomic .async) fun
        | .ok _ => Holds pid F marked
        | .error _ => Holds pid F releasable := by
  have update : Update owned policy pid (.replace File.deliveryMode .async) .deliveryMode
      (some .async) (fun claim => synchronous claim ∧ marked claim)
      fun claim => claim.mode = some .async ∧ marked claim :=
    update_of fun claim valid known => ⟨.of_marked known.2 valid.succeeded, rfl, known.2⟩
  refine Spec.bind (replaceFile_spec frame update) (fun _ => ?_)
    fun _ _ _ holds => holds.imp fun _ known => .inl known.1
  refine Lane.askPermitted (holds_local frame).stable (fun _ => nofun) ?_ ?_
  · intro _ error view _ permitted _ holds
    refine ⟨holds.1, holds.2.1, .inr ?_⟩
    obtain ⟨mode, marker⟩ := holds.2.2
    by_contra unrecorded
    have none : (owned.value view).outcome = none := by simpa using unrecorded
    have turning : Turning view.1 :=
      ⟨congrArg (·.getD .async) mode, Option.isSome_iff_ne_none.mp marker, none⟩
    exact durable pid error view.1 turning permitted
  · intro view answer after sound inv holds _ _ performed
    obtain ⟨rfl, rfl⟩ := Prod.mk.inj (Option.some.inj performed)
    exact ⟨sound, .refl _ _, .idle inv (holds.imp fun _ known => known.2)⟩

theorem rollbackOwnClaim_spec (frame : Frame pid F) (claimed : Bool) :
    Spec discipline policy pid (Holds pid F releasable) (rollbackOwnClaim claimed)
      fun _ => Stays pid F :=
  .branch (fun _ => Spec.handle (rollbackActivationAttempt_spec frame) fun _ =>
    .pure fun _ _ holds => holds.stays) fun _ => .pure fun _ _ holds => holds.stays

theorem runClaimedActivation_spec (frame : Frame pid F)
    (within : owned.Section ActivationEntry.program pid Lock.completion F F') :
    Spec discipline policy pid (Stays pid F) runClaimedActivation (answered pid F finished) := by
  refine Spec.handle (writeOutcome_spec frame nofun) fun pending => ?_
  cases pending with
  | error error =>
      exact Spec.bind (settleOrphanedActivation_spec within) (fun _ => .throw fun _ _ holds => holds)
        fun _ _ _ holds => holds
  | ok _ => exact runActivate_spec frame true

theorem adoptSettledActivation_spec (frame : Frame pid F) :
    Spec discipline policy pid (Holds pid F marked) adoptSettledActivation
      (answered pid F finished) := by
  refine Spec.bind (requireSettledActivation_spec frame) (fun _ => .pure fun view inv holds => ?_)
    fun _ _ _ holds => holds.stays
  exact ⟨holds.1, holds.2.1,
    earned_of_settled (holds.valid inv.2) holds.2.2.1 holds.2.2.2⟩

theorem finishActivation_spec (frame : Frame pid F)
    (within : owned.Section ActivationEntry.program pid Lock.completion F F')
    (result : Except DeliveryHelperCommandError Unit) :
    Spec discipline policy pid (Holds pid F (finished result)) (finishActivation result)
      fun _ => Stays pid F := by
  match result with
  | .error (.notStarted error) =>
      refine Spec.bind (writeOutcome_spec frame nofun) (fun _ => ?_) fun _ _ _ holds => holds
      exact Spec.bind (settleOrphanedActivation_spec within) (fun _ => .throw fun _ _ holds => holds)
        fun _ _ _ holds => holds
  | .error (.admitted error) =>
      refine Spec.bind (writeOutcome_spec frame nofun) (fun _ => ?_) fun _ _ _ holds => holds
      exact Spec.bind (repairDeliveryModeMirror_spec within)
        (fun _ => .throw fun _ _ holds => holds) fun _ _ _ holds => holds
  | .ok _ =>
      refine Spec.bind (writeOutcome_spec frame fun _ _ earned => earned) (fun _ => ?_)
        fun _ _ _ holds => holds
      exact Spec.bind (repairDeliveryModeMirror_spec within) (fun _ => .pure fun _ _ holds => holds)
        fun _ _ _ holds => holds

/-- The worker may turn the mode async because the marker already shows its claim. -/
theorem activateWorker_spec (durable : TurnsDurably policy) :
    Spec discipline policy pid (Working pid synchronous) activateWorker
      fun _ => Stays pid fun _ => True := by
  have frame : Frame pid fun _ => True := .top
  have within : owned.Section ActivationEntry.program pid Lock.completion (fun _ => True)
    fun _ => True := .top
  refine Spec.bind (recordActivationAttempt_spec frame) (fun claimed => ?_)
    fun _ _ _ holds => holds.stays
  refine Spec.handle (turnAsync_spec durable frame) fun written => ?_
  cases written with
  | error error =>
      exact Spec.bind (rollbackOwnClaim_spec frame claimed) (fun _ => .throw fun _ _ holds => holds)
        fun _ _ _ holds => holds
  | ok _ =>
      refine Spec.bind (Q := answered pid (fun _ => True) finished) ?_
        (fun result => finishActivation_spec frame within result) fun _ _ _ holds => holds
      refine Spec.branch (fun _ => ?_) fun _ => ?_
      · exact (runClaimedActivation_spec frame within).strengthen fun _ _ holds => holds.stays
      · exact (adoptSettledActivation_spec frame).strengthen fun _ _ holds => holds

end Worker

section Retry

/-- What is relied on of the owner: it confirms an activation only of a registered handle for
which a helper was started before. -/
def ConfirmsStarted (policy : System.Policy activationSystem) : Prop :=
  ∀ pid disk, policy.call pid (.external .readbackActivationCommitted) (.outside .agree) disk →
    1 ≤ disk.world.activations ∧ (disk.files File.registration).isSome = true

variable (owner : ConfirmsStarted policy)
include owner

theorem readbackCommitted_spec (frame : Frame pid F) :
    Spec discipline policy pid (Stays pid F) (outsideAsk .readbackActivationCommitted)
      (answered pid F fun committed claim => committed = true → claim.Earned) := by
  refine Lane.external (holds_local frame).stable ?_
  intro view choice answer world _ inv holds _ permitted acted
  cases choice with
  | agree =>
      obtain ⟨rfl, rfl⟩ := Prod.mk.inj (Option.some.inj acted)
      obtain ⟨started, registered⟩ := owner pid view.1 permitted
      have earned : Claim.Earned (owned.value
          ({ view.1 with world := { view.1.world with activationConfirmed := true } }, ())) :=
        ⟨started, .inr ⟨registered, rfl⟩⟩
      exact Owned.keeps_moved (g := ()) inv rfl ⟨holds.1, trivial, rfl⟩
        ((holds.valid inv).of_earned rfl rfl rfl fun _ => earned)
        ⟨holds.1, frame.same rfl rfl ⟨⟨trivial, trivial⟩, trivial⟩ holds.2.1, fun _ => earned⟩
  | decline =>
      obtain ⟨rfl, rfl⟩ := Prod.mk.inj (Option.some.inj acted)
      exact Owned.keeps_quiet inv rfl (.of_disk rfl rfl)
        ⟨holds.1, holds.2.1, fun same => by cases same⟩
  | fail error =>
      obtain ⟨rfl, rfl⟩ := Prod.mk.inj (Option.some.inj acted)
      exact Owned.keeps_quiet inv rfl (.of_disk rfl rfl) holds
  | _ => cases acted

omit owner in
theorem activateRequest_spec (known : Local pid P) :
    Steady discipline policy pid P activateRequest := by
  refine .bind ((spectator known).outsideAsk trivial) fun request => ?_
  cases request with
  | ok _ => exact .pure
  | error _ => exact .throw

theorem readbackConfirms_spec (frame : Frame pid F) :
    Spec discipline policy pid (Stays pid F) readbackConfirms
      (answered pid F fun committed claim => committed = true → claim.Earned) := by
  have known : Local pid (Stays pid F) := holds_local frame
  refine Spec.handle (Q := answered pid F fun committed claim => committed = true → claim.Earned)
    ?_ fun answer => ?_
  · refine (activateRequest_spec known).before (fun _ => ?_) fun _ _ _ holds => holds
    refine ((spectator known).runStructuredHelper custody true (by exact trivial)
      (by exact trivial) (by exact trivial) (by exact trivial)).before
      (fun reply => ?_) fun _ _ _ holds => holds
    cases reply with
    | error _ => exact .throw fun _ _ holds => holds
    | ok _ => exact readbackCommitted_spec owner frame
  · cases answer with
    | ok _ => exact .pure fun _ _ holds => holds
    | error _ =>
        refine .pure fun view _ holds => ?_
        have stays : Stays pid F view := holds
        have known : Holds pid F (fun claim => false = true → claim.Earned) view :=
          stays.imp fun _ _ impossible => nomatch impossible
        exact known

theorem retryActivation_spec (frame : Frame pid F) :
    Steady discipline policy pid (Stays pid F) retryActivation := by
  refine Spec.bind (runActivate_spec frame true) (fun result => ?_) fun _ _ _ holds => holds
  cases result with
  | ok _ => exact writeOutcome_spec frame fun _ _ earned => earned
  | error error =>
      refine Spec.bind ((readbackConfirms_spec owner frame).strengthen fun _ _ holds => holds)
        (fun committed => ?_) fun _ _ _ holds => holds
      have known : ∀ view, answered pid F (fun committed claim => committed = true → claim.Earned)
          (.ok committed) view → Holds pid F (fun claim => committed = true → claim.Earned) view :=
        fun _ holds => holds
      refine .branch (fun confirmed => ?_) fun _ => .throw fun view _ holds => (known view holds).stays
      exact (writeOutcome_spec frame fun _ _ earned => earned confirmed).strengthen
        fun view _ holds => known view holds

end Retry

section Detach

abbrev Bottom (pid : Nat) : View → Prop := owned.Bottom pid

abbrev Free (pid : Nat) : View → Prop := owned.Free pid

theorem bottom_frame : Frame pid (Bottom pid) := Owned.Bottom.frame

theorem within_bottom : owned.Section ActivationEntry.program pid Lock.completion (Bottom pid)
    fun view => view.1.Oldest pid owned.name ∧ owned.CleanBut Lock.completion pid view :=
  Owned.Bottom.within nofun

/-- The parent of a transfer worker learns nothing but that the worker is gone. -/
theorem runDeliveryTransferWorkerHoldingLock_spec {operation : Script Unit}
    (worker : ∀ born, Spec discipline policy born (Working born fact) operation
      fun _ => Stays born fun _ => True) :
    Spec discipline policy pid (Holds pid (Bottom pid) fact)
      (runDeliveryTransferWorkerHoldingLock operation) fun _ => Stays pid (Bottom pid) := by
  refine Spec.bind (Owned.spawn_spec (Owned.Bottom.forkable (le_refl 2)) fun born view inv holds =>
    Owned.safe_of_spec (holds_local .top) (fun _ holds => holds.edge) (worker born) inv
      ⟨holds.1, trivial, holds.2.2⟩) (fun child => ?_) fun _ _ _ impossible => impossible.elim
  cases child with
  | none =>
      refine .throw fun view _ holds => ?_
      have free : Holds pid (Bottom pid) fact view := holds
      exact free.stays
  | some child =>
      exact Spec.bind (Owned.wait_spec bottom_frame)
        (fun _ => .ofExcept fun _ _ holds => holds) fun _ _ _ holds => holds

theorem retryUncertainActivation_spec (owner : ConfirmsStarted policy) :
    Steady discipline policy pid (Stays pid (Bottom pid)) retryUncertainActivation := by
  have known : Local pid (Stays pid (Bottom pid)) := holds_local bottom_frame
  refine Steady.bind (.bind (spectator known).continuationEnabled fun _ => ?_) fun uncertain => ?_
  · refine .branch ?_ .pure
    refine Spec.bind (activationTransferState_spec bottom_frame) (fun state => ?_)
      fun _ _ _ holds => holds
    obtain ⟨mode, outcome⟩ := state
    cases outcome <;> exact .pure fun _ _ holds => holds.stays
  · refine .branch ?_ .pure
    refine .bind ((spectator known).readFile _) fun _ => .bind (activateRequest_spec known) fun _ => ?_
    exact runDeliveryTransferWorkerHoldingLock_spec fun _ => retryActivation_spec owner .top

theorem detachHoldingLock_spec (durable : TurnsDurably policy) (owner : ConfirmsStarted policy) :
    Steady discipline policy pid (Stays pid (Bottom pid)) detachHoldingLock := by
  have known {fact : Fact} : Local pid (Holds pid (Bottom pid) fact) := holds_local bottom_frame
  refine Steady.bind (settleOrphanedActivation_spec within_bottom) fun _ => ?_
  refine Spec.bind (activationTransferState_spec bottom_frame) (fun activation => ?_)
    fun _ _ _ holds => holds
  refine .branch (fun _ => ?_) fun sync => ?_
  · refine Spec.strengthen (P := Stays pid (Bottom pid)) ?_ fun _ _ holds => holds.stays
    refine Steady.bind (retryUncertainActivation_spec owner) fun _ => ?_
    refine Steady.bind (requireSettledActivation_steady known) fun _ => ?_
    exact Steady.bind (repairDeliveryModeMirror_spec within_bottom) fun _ => .pure
  · refine Spec.strengthen (P := Holds pid (Bottom pid) synchronous) ?_ fun _ _ holds =>
      holds.imp fun claim known => ?_
    · refine Steady.before (P := Holds pid (Bottom pid) synchronous) ((spectator known).readFile _)
        (fun _ => ?_) fun _ _ _ holds => holds.stays
      refine Steady.before (P := Holds pid (Bottom pid) synchronous) (activateRequest_spec known)
        (fun _ => ?_) fun _ _ _ holds => holds.stays
      refine Spec.handle (runDeliveryTransferWorkerHoldingLock_spec fun _ => activateWorker_spec durable)
        fun result => ?_
      refine Steady.bind (settleOrphanedActivation_spec within_bottom) fun _ => ?_
      refine Steady.bind (requireSettledActivation_steady known) fun _ => ?_
      exact Steady.bind .ofExcept fun _ => Steady.bind ((spectator known).readFile _) fun _ => .pure
    · have mode : claim.mode.getD .async = activation.mode :=
        congrArg ActivationTransferState.mode known.2
      rcases claim with ⟨_ | _ | _, _, _, _, _⟩
      · exact absurd mode.symm sync
      · rfl
      · exact absurd mode.symm sync

theorem entry_safe (durable : TurnsDurably policy) (owner : ConfirmsStarted policy)
    (entry : ActivationEntry) (born : Nat) (view : View) (inv : discipline.Inv view)
    (free : Free born view) : Safe discipline policy entry.program born view := by
  have leaves : ∀ view, Free born view → AtEdge born (view.1.held owned.name) :=
    fun _ free => .inl free.1
  have spec : Steady discipline policy born (Free born) detach ∧
      Steady discipline policy born (Free born) settledDeliveryMode :=
    ⟨lockedOwn_spec rfl (detachHoldingLock_spec durable owner),
      lockedOwn_spec rfl (Steady.bind (settleOrphanedActivation_spec within_bottom)
        fun _ => observedDeliveryMode_spec (holds_local bottom_frame))⟩
  cases entry with
  | detach => exact Owned.safe_of_spec Owned.Free.frame.local_ leaves spec.1 inv free
  | settledMode => exact Owned.safe_of_spec Owned.Free.frame.local_ leaves spec.2 inv free
  | observedMode =>
      exact Owned.safe_of_spec Owned.Free.frame.local_ leaves
        (observedDeliveryMode_spec Owned.Free.frame.local_) inv free

end Detach

section Run

theorem closed (durable : TurnsDurably policy) (owner : ConfirmsStarted policy) :
    discipline.Closed policy :=
  Owned.closed (fun _ _ inv _ => .of_length inv.depth) nofun (entry_safe durable owner)

def activationState (disk : HandleDisk) : ActivationTransferState :=
  (claimOf disk.files disk.world).state

section Detached

abbrev pass (pid : Nat) : Event activationSystem := .step pid .pass

abbrev agree (pid : Nat) : Event activationSystem := .step pid (.outside .agree)

/-- The owner confirms what was started. -/
def confirming : System.Policy activationSystem where
  call _ op choice disk :=
    op = .external .readbackActivationCommitted → choice = .outside .agree →
      1 ≤ disk.world.activations ∧ (disk.files File.registration).isSome = true
  kill _ _ := True
  change _ _ := True

/-- The owner confirms nothing. -/
def unconfirmed (config : Config (requests layout outside) HandleDisk) :
    Event activationSystem → Bool
  | .step pid (.outside .agree) =>
      match config.procs pid with
      | some (.call (.external .readbackActivationCommitted) _) => false
      | _ => true
  | _ => true

def calm (config : Config (requests layout outside) HandleDisk) (event : Event activationSystem) :
    Bool :=
  unconfirmed config event && match event with
    | .step _ (.fault _) => false
    | _ => true

/-- A detach forks its worker for a claim that reads sync. -/
def forkedWorker (pid : Nat) : List (Event activationSystem) :=
  .enter .detach :: (List.replicate 8 (pass pid) ++ [agree pid, .fork pid])

/-- The worker 2 is killed once its rename to async took effect, and its detach 1 rolls back. -/
def rolledBack : List (Event activationSystem) :=
  forkedWorker 1 ++ List.replicate 5 (pass 2) ++ [.kill 2] ++ List.replicate 17 (pass 1) ++ [.leave 1]

/-- The worker 4 of another detach 3 marks its claim again, turns the mode async and runs the
helper to its success. -/
def detached : List (Event activationSystem) :=
  rolledBack ++ forkedWorker 3 ++ List.replicate 8 (pass 4) ++ [.step 4 (.outside (.boot none))] ++
  List.replicate 3 (pass 4) ++ [agree 4, .step 4 (.outside (.output (.code 0) none))] ++
  List.replicate 11 (pass 4) ++ [.leave 4] ++ List.replicate 7 (pass 3) ++ [.leave 3]

end Detached

section LostSync

end LostSync

end Run

end ActivationLane

end AgentBash
