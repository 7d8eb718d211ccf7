import AgentBash.Supervisor.EventLoop

/-!
# The settlement handshake of a paired loop

What the loop may note in which order: nothing is published before the root settled or was
lost, each phase byte is sent once, and a match that came too early waits for the settlement
with the time of the first one. The loop keeps this turn by turn; within a turn it matters that
a pending match is published ahead of everything else and that standard output is read first.
-/

namespace AgentBash

set_option autoImplicit false

open Durable Durable.Sequential EventLoop

section Order

/-- The root granted the settlement or can no longer do so. -/
def Settled (events : List LoopEvent) : Prop :=
  .settlementRead ∈ events ∨ .controlLost ∈ events

def LoopEvent.matchTime : LoopEvent → Option Nat
  | .sentinelMatch time => some time
  | _ => none

/-- The time of the first match among events that are held newest first. -/
def firstMatch : List LoopEvent → Option Nat
  | [] => none
  | event :: earlier => (firstMatch earlier).or event.matchTime

def DeferredPublished (events : List LoopEvent) : Prop :=
  ∃ proposal, .publication .deferredReady proposal ∈ events

/-- A match is published at once after the settlement, or once later if it came before. -/
def ProperOccasion (earlier : List LoopEvent) (proposal : TerminalProposal) : Occasion → Prop
  | .directReady => ∃ time rest, earlier = .sentinelMatch time :: rest ∧
      proposal = .readySentinel time ∧ Settled rest
  | .deferredReady => (∃ time, firstMatch earlier = some time ∧ proposal = .readySentinel time) ∧
      ¬ DeferredPublished earlier ∧ .completionRecorded ∉ earlier
  | .exit | .supervisorError => True

/-- What must have happened, and what must not, when an event comes. -/
def Proper (earlier : List LoopEvent) : LoopEvent → Prop
  | .publication occasion proposal => Settled earlier ∧ ProperOccasion earlier proposal occasion
  | .readySent => .readySent ∉ earlier
  | .terminalSent => .terminalSent ∉ earlier ∧ .completionRecorded ∈ earlier
  | .sentinelMatch _ | .settlementRead | .controlLost | .completionRecorded => True

def Handshake (events : List LoopEvent) : Prop :=
  ∀ event earlier, event :: earlier <:+ events → Proper earlier event

variable {event : LoopEvent} {events : List LoopEvent}

theorem Handshake.nil : Handshake [] := fun _ _ suffix => nomatch List.suffix_nil.mp suffix

theorem Handshake.cons (handshake : Handshake events) (proper : Proper events event) :
    Handshake (event :: events) := by
  intro latest earlier suffix
  rcases List.suffix_cons_iff.mp suffix with same | older
  · obtain ⟨rfl, rfl⟩ := List.cons.inj same
    exact proper
  · exact handshake latest earlier older

theorem Settled.cons (settled : Settled events) : Settled (event :: events) :=
  settled.imp (List.mem_cons_of_mem _) (List.mem_cons_of_mem _)

theorem firstMatch_cons_of_some {time : Nat} (found : firstMatch events = some time) :
    firstMatch (event :: events) = some time := by
  rw [firstMatch, found, Option.some_or]

theorem firstMatch_cons_of_other (other : event.matchTime = none) :
    firstMatch (event :: events) = firstMatch events := by
  rw [firstMatch, other, Option.or_none]

end Order

section Invariant

/-- What the handshake depends on. -/
structure Settlement where
  events : List LoopEvent
  rootControlFd : Bool
  localReadySent : Bool
  granted : Bool
  terminalSent : Bool
  deferredReadyAt : Option Nat
  completionRecorded : Bool
  stdoutFd : Bool

def settlementOf (loop : EventLoop) (events : List LoopEvent) : Settlement where
  events := events
  rootControlFd := loop.rootControlFd
  localReadySent := loop.rootLocalReadySent
  granted := loop.rootSettlementGranted
  terminalSent := loop.rootTerminalSent
  deferredReadyAt := loop.deferredReadyAt
  completionRecorded := loop.completionRecorded
  stdoutFd := loop.stdoutFd

def settlement (world : LoopWorld) : Settlement := settlementOf world.loop world.events

structure Settling (view : Settlement) : Prop where
  handshake : Handshake view.events
  lost : view.rootControlFd = false → view.granted = true
  settled : view.granted = true → Settled view.events
  ready : view.localReadySent = false → .readySent ∉ view.events
  terminal : view.terminalSent = false → .terminalSent ∉ view.events
  recorded : view.completionRecorded = true ↔ .completionRecorded ∈ view.events
  settledFirst : view.completionRecorded = true → view.granted = true
  pending : ∀ time, view.deferredReadyAt = some time →
    firstMatch view.events = some time ∧ view.completionRecorded = false ∧
      ¬ DeferredPublished view.events
  fresh : view.granted = false →
    ¬ DeferredPublished view.events ∧ (view.deferredReadyAt = none → firstMatch view.events = none)

/-- Nothing waits for a settlement that was granted. -/
def Consumed (view : Settlement) : Prop :=
  Settling view ∧ (view.granted = true → view.deferredReadyAt = none)

/-- The same as long as another match can come. -/
def Guarded (view : Settlement) : Prop :=
  Settling view ∧ (view.granted = true → view.stdoutFd = true → view.deferredReadyAt = none)

/-- The loop may publish. -/
def Publishing (view : Settlement) : Prop :=
  Settling view ∧ view.granted = true ∧ view.deferredReadyAt = none

namespace Settling

variable {view : Settlement}

theorem readySent (settling : Settling view) (unsent : view.localReadySent = false) :
    Settling { view with localReadySent := true, events := .readySent :: view.events } where
  handshake := settling.handshake.cons (settling.ready unsent)
  lost := settling.lost
  settled granted := (settling.settled granted).cons
  ready impossible := nomatch impossible
  terminal unsent := by simpa using settling.terminal unsent
  recorded := by simpa using settling.recorded
  settledFirst := settling.settledFirst
  pending time waits := by
    obtain ⟨first, unrecorded, unpublished⟩ := settling.pending time waits
    exact ⟨firstMatch_cons_of_some first, unrecorded, by simpa [DeferredPublished] using unpublished⟩
  fresh ungranted := by
    obtain ⟨unpublished, unmatched⟩ := settling.fresh ungranted
    refine ⟨by simpa [DeferredPublished] using unpublished, fun none => ?_⟩
    rw [firstMatch_cons_of_other rfl]
    exact unmatched none

theorem terminalSent (settling : Settling view) (unsent : view.terminalSent = false)
    (recorded : view.completionRecorded = true) :
    Settling { view with terminalSent := true, events := .terminalSent :: view.events } where
  handshake := settling.handshake.cons
    ⟨settling.terminal unsent, settling.recorded.mp recorded⟩
  lost := settling.lost
  settled granted := (settling.settled granted).cons
  ready unsent := by simpa using settling.ready unsent
  terminal impossible := nomatch impossible
  recorded := by simpa using settling.recorded
  settledFirst := settling.settledFirst
  pending time waits := by
    obtain ⟨_, unrecorded, _⟩ := settling.pending time waits
    exact nomatch recorded.symm.trans unrecorded
  fresh ungranted := nomatch (settling.settledFirst recorded).symm.trans ungranted

/-- Either way of settling, with the control descriptor kept or closed. -/
theorem granted {event : LoopEvent} (settling : Settling view)
    (kind : event = .settlementRead ∨ event = .controlLost) (kept : Bool) :
    Settling { view with rootControlFd := kept, granted := true, events := event :: view.events } where
  handshake := settling.handshake.cons (by rcases kind with rfl | rfl <;> trivial)
  lost _ := rfl
  settled _ := by
    rcases kind with rfl | rfl
    · exact .inl List.mem_cons_self
    · exact .inr List.mem_cons_self
  ready unsent := by
    rcases kind with rfl | rfl <;> simpa using settling.ready unsent
  terminal unsent := by
    rcases kind with rfl | rfl <;> simpa using settling.terminal unsent
  recorded := by
    rcases kind with rfl | rfl <;> simpa using settling.recorded
  settledFirst _ := rfl
  pending time waits := by
    obtain ⟨first, unrecorded, unpublished⟩ := settling.pending time waits
    refine ⟨firstMatch_cons_of_some first, unrecorded, ?_⟩
    rcases kind with rfl | rfl <;> simpa [DeferredPublished] using unpublished
  fresh impossible := nomatch impossible

theorem deferred (settling : Settling view) (ungranted : view.granted = false) (time : Nat) :
    Settling { view with
      deferredReadyAt := some (view.deferredReadyAt.getD time)
      events := .sentinelMatch time :: view.events } where
  handshake := settling.handshake.cons trivial
  lost := settling.lost
  settled granted := (settling.settled granted).cons
  ready unsent := by simpa using settling.ready unsent
  terminal unsent := by simpa using settling.terminal unsent
  recorded := by simpa using settling.recorded
  settledFirst := settling.settledFirst
  pending first waits := by
    obtain ⟨unpublished, unmatched⟩ := settling.fresh ungranted
    have unrecorded : view.completionRecorded = false := by
      by_contra recorded
      have granted := settling.settledFirst (by simpa using recorded)
      exact nomatch granted.symm.trans ungranted
    refine ⟨?_, unrecorded, by simpa [DeferredPublished] using unpublished⟩
    cases waiting : view.deferredReadyAt with
    | none =>
        simp only [waiting, Option.getD_none, Option.some.injEq] at waits
        rw [firstMatch, unmatched waiting, waits]
        rfl
    | some earliest =>
        simp only [waiting, Option.getD_some, Option.some.injEq] at waits
        exact firstMatch_cons_of_some ((settling.pending earliest waiting).1.trans (by rw [waits]))
  fresh _ := by
    obtain ⟨unpublished, _⟩ := settling.fresh ungranted
    exact ⟨by simpa [DeferredPublished] using unpublished, fun impossible => nomatch impossible⟩

end Settling

namespace Publishing

variable {view : Settlement}

/-- Once nothing waits any more, only the two phase bytes have to be counted. -/
theorem cons {event : LoopEvent} {recorded : Bool} (publishing : Publishing view)
    (proper : Proper view.events event) (other : event ≠ .readySent ∧ event ≠ .terminalSent)
    (same : recorded = true ↔ .completionRecorded ∈ event :: view.events) :
    Publishing { view with completionRecorded := recorded, events := event :: view.events } := by
  obtain ⟨settling, granted, none⟩ := publishing
  refine ⟨?_, granted, none⟩
  exact
    { handshake := settling.handshake.cons proper
      lost := settling.lost
      settled := fun granted => (settling.settled granted).cons
      ready := fun unsent => by simpa using ⟨other.1.symm, settling.ready unsent⟩
      terminal := fun unsent => by simpa using ⟨other.2.symm, settling.terminal unsent⟩
      recorded := same
      settledFirst := fun _ => granted
      pending := fun time waits => nomatch none.symm.trans waits
      fresh := fun ungranted => nomatch granted.symm.trans ungranted }

theorem matched (publishing : Publishing view) (time : Nat) :
    Publishing { view with events := .sentinelMatch time :: view.events } :=
  publishing.cons trivial ⟨nofun, nofun⟩ (by simpa using publishing.1.recorded)

theorem published (publishing : Publishing view) {occasion : Occasion} {proposal : TerminalProposal}
    (proper : ProperOccasion view.events proposal occasion) :
    Publishing { view with events := .publication occasion proposal :: view.events } :=
  publishing.cons ⟨publishing.1.settled publishing.2.1, proper⟩ ⟨nofun, nofun⟩
    (by simpa using publishing.1.recorded)

theorem recorded (publishing : Publishing view) :
    Publishing { view with
      completionRecorded := true
      events := .completionRecorded :: view.events } :=
  publishing.cons trivial ⟨nofun, nofun⟩ (by simp)

end Publishing

end Invariant

section Overlooked

/-- A view that shows nothing of the answers' clock, of a cancellation and of a failed capture. -/
class Overlooks {τ : Type} (view : LoopWorld → τ) : Prop where
  tick : ∀ world tick, view { world with tick } = view world
  cancellation : ∀ world cancellation,
    view { world with loop := { world.loop with cancellation } } = view world
  captureError : ∀ world captureError,
    view { world with loop := { world.loop with captureError } } = view world

variable {α τ : Type} {view : LoopWorld → τ}

theorem getLoop_frames : Frames view getLoop := fun _ => rfl

theorem setLoop_frames {change : EventLoop → EventLoop}
    (same : ∀ world, view { world with loop := change world.loop } = view world) :
    Frames view (setLoop change) := same

variable (env : LoopEnvironment) [Overlooks view]

theorem askLoop_frames (answer : Nat → α) : Frames view (askLoop answer) :=
  fun world => Overlooks.tick world _

theorem tryLoop_frames (answer : Nat → Except IoError α) : Frames view (tryLoop answer) :=
  fun world => Overlooks.tick world _

theorem perform_frames (script : Script α) : Frames view (perform env script) := tryLoop_frames _

theorem underLock_frames (name : Lock) {body : Loop α} (frames : Frames view body) :
    Frames view (underLock env name body) := by
  refine Frames.bind frames.attempt fun _ => ?_
  exact Frames.bind (perform_frames env _).attempt fun _ => Frames.ofExcept

theorem explicitCancelObserved_frames : Frames view (explicitCancelObserved env) := by
  refine Frames.bind (perform_frames env _).attempt fun result => ?_
  cases result <;> exact Frames.pure

theorem driveCancellation_frames : Frames view (driveCancellation env) := by
  refine Frames.bind getLoop_frames fun loop => Frames.branch (fun _ => Frames.pure) fun _ => ?_
  cases loop.cancellation with
  | none => exact Frames.pure
  | some cause =>
      refine Frames.bind (explicitCancelObserved_frames env) fun _ => ?_
      exact setLoop_frames fun world => Overlooks.cancellation world _

theorem requestCancellation_frames (cause : CancellationCause) :
    Frames view (requestCancellation env cause) := by
  refine Frames.bind (explicitCancelObserved_frames env) fun _ => ?_
  exact Frames.bind (setLoop_frames fun world => Overlooks.cancellation world _) fun _ =>
    driveCancellation_frames env

theorem checkExplicitCancel_frames : Frames view (checkExplicitCancel env) := by
  refine Frames.bind (explicitCancelObserved_frames env) fun _ => ?_
  exact Frames.branch (fun _ => requestCancellation_frames env _) fun _ => Frames.pure

theorem checkPolledOwner_frames : Frames view (checkPolledOwner env) := by
  refine Frames.bind getLoop_frames fun loop => Frames.branch (fun _ => Frames.pure) fun _ => ?_
  cases loop.record.cancelOwner with
  | none => exact Frames.pure
  | some owner =>
      refine Frames.bind (askLoop_frames _) fun _ => ?_
      exact Frames.branch (fun _ => Frames.pure) fun _ => requestCancellation_frames env _

theorem recordCaptureFailure_frames (error : IoError) :
    Frames view (recordCaptureFailure env error) :=
  Frames.bind (setLoop_frames fun world => Overlooks.captureError world _) fun _ => requestCancellation_frames env _

theorem writeLogOrFail_frames : Frames view (writeLogOrFail env) := by
  refine Frames.bind (tryLoop_frames _).attempt fun result => ?_
  cases result with
  | ok _ => exact Frames.pure
  | error error => exact Frames.bind (recordCaptureFailure_frames env error) fun _ => Frames.pure

theorem recoverImageService_frames : Frames view (recoverImageService env) := by
  refine Frames.bind (tryLoop_frames _).attempt fun result => ?_
  cases result with
  | ok _ => exact Frames.pure
  | error _ =>
      refine Frames.bind getLoop_frames fun _ => Frames.branch (fun _ => Frames.pure) fun _ => ?_
      exact Frames.bind (writeLogOrFail_frames env) fun _ => Frames.pure

theorem selectInitialSourceEvent_frames : Frames view (selectInitialSourceEvent env) := by
  refine Frames.bind getLoop_frames fun loop => ?_
  cases loop.pendingSource with
  | none => exact Frames.pure
  | some pending =>
      refine Frames.bind (perform_frames env _) fun _ => ?_
      exact underLock_frames env _ (tryLoop_frames _)

theorem advanceSource_frames (pending : PendingSource) (loop : EventLoop) :
    Frames view (advanceSource env pending loop) := by
  refine Frames.bind (perform_frames env _) fun _ => Frames.branch (fun _ => ?_) fun _ => Frames.pure
  exact underLock_frames env _ (Frames.bind (tryLoop_frames _) fun _ => tryLoop_frames _)

theorem truthful_frames (answer : Nat → Except IoError Bool) : Frames view (truthful answer) := by
  refine Frames.bind (tryLoop_frames _).attempt fun result => ?_
  cases result <;> exact Frames.pure

theorem retireSource_frames : Frames view (retireSource env) := by
  refine Frames.bind (truthful_frames _) fun _ => Frames.branch (fun _ => ?_) fun _ => Frames.pure
  refine Frames.bind (truthful_frames _) fun _ => Frames.branch (fun _ => ?_) fun _ => Frames.pure
  refine Frames.bind (tryLoop_frames _).attempt fun result => ?_
  cases result <;> exact Frames.pure

theorem noteDrained_frames : Frames view (noteDrained env) := by
  refine Frames.bind getLoop_frames fun _ => Frames.branch (fun _ => ?_) fun _ => Frames.pure
  refine Frames.bind (perform_frames env _) fun _ => ?_
  exact Frames.branch (fun _ => perform_frames env _) fun _ => Frames.pure

end Overlooked

section Unmoved

variable (env : LoopEnvironment)

instance settlement_overlooks : Overlooks settlement := ⟨fun _ _ => rfl, fun _ _ => rfl, fun _ _ => rfl⟩

theorem markCompletionDeliverySettled_frames :
    Frames settlement markCompletionDeliverySettled :=
  setLoop_frames fun _ => rfl

theorem retrySourcePublication_frames : Frames settlement (retrySourcePublication env) := by
  refine Frames.bind getLoop_frames fun loop => ?_
  cases loop.pendingSource with
  | none => exact Frames.pure
  | some pending =>
      refine Frames.bind (askLoop_frames _) fun _ => Frames.branch (fun _ => ?_) fun _ => Frames.pure
      refine Frames.bind (advanceSource_frames env pending loop).attempt fun result => ?_
      cases result with
      | ok published =>
          cases published with
          | true => exact setLoop_frames fun _ => rfl
          | false => exact Frames.pure
      | error _ =>
          refine Frames.bind (retireSource_frames env) fun _ =>
            Frames.branch (fun _ => ?_) fun _ => Frames.pure
          exact Frames.bind (setLoop_frames fun _ => rfl) fun _ =>
            markCompletionDeliverySettled_frames

theorem retainSource_frames (kind : SourceEventKind) (rootWaitStatus : Option Int)
    (treeDrained outputClosed : Bool) :
    Frames settlement (retainSource env kind rootWaitStatus treeDrained outputClosed) := by
  refine Frames.bind (perform_frames env _) fun _ => ?_
  refine Frames.bind (setLoop_frames fun _ => rfl) fun _ => ?_
  exact Frames.bind (selectInitialSourceEvent_frames env) fun _ => retrySourcePublication_frames env

theorem flushRootStatus_frames : Frames settlement (flushRootStatus env) := by
  refine Frames.bind getLoop_frames fun loop => ?_
  cases loop.rootStatus with
  | none => exact Frames.pure
  | some status =>
      refine Frames.branch (fun _ => Frames.pure) fun _ => ?_
      refine Frames.bind (perform_frames env _) fun _ => Frames.branch (fun _ => ?_) fun _ => Frames.pure
      exact Frames.bind (underLock_frames env _ (perform_frames env _)) fun _ =>
        setLoop_frames fun _ => rfl

theorem retryCompletionIntegration_frames :
    Frames settlement (retryCompletionIntegration env) := by
  refine Frames.bind getLoop_frames fun loop => ?_
  cases loop.reapedCompletionTransfer with
  | none => exact Frames.pure
  | some status =>
      cases loop.completionTransfer with
      | none => exact Frames.pure
      | some transfer =>
          refine Frames.bind (perform_frames env _).attempt fun result => ?_
          cases result with
          | error _ => exact Frames.pure
          | ok record =>
              refine Frames.bind (perform_frames env _).attempt fun _ => ?_
              exact Frames.bind (setLoop_frames fun _ => rfl) fun _ =>
                markCompletionDeliverySettled_frames

theorem driveCompletionDelivery_frames : Frames settlement (driveCompletionDelivery env) := by
  refine Frames.bind getLoop_frames fun loop => Frames.branch (fun _ => Frames.pure) fun _ => ?_
  refine Frames.bind (perform_frames env _) fun started => ?_
  refine Frames.bind (setLoop_frames fun _ => rfl) fun _ => ?_
  cases started.2 with
  | busy => exact Frames.pure
  | settled => exact markCompletionDeliverySettled_frames
  | running transfer => exact setLoop_frames fun _ => rfl

theorem collectChild_frames (pid status : Nat) : Frames settlement (collectChild env pid status) := by
  have integrates : Frames settlement (EventLoop.integrateCompletionTransfer env pid status) := by
    refine Frames.bind getLoop_frames fun _ => Frames.branch (fun _ => Frames.pure) fun _ => ?_
    exact Frames.bind (setLoop_frames fun _ => rfl) fun _ => retryCompletionIntegration_frames env
  refine Frames.bind integrates fun _ => Frames.bind getLoop_frames fun _ => ?_
  refine Frames.branch (fun _ => ?_) fun _ => Frames.pure
  exact Frames.bind (setLoop_frames fun _ => rfl) fun _ => flushRootStatus_frames env

theorem collectChildren_frames (children : List (Nat × Nat)) :
    Frames settlement (collectChildren env children) := by
  induction children with
  | nil => exact Frames.pure
  | cons child children ih => exact Frames.bind (collectChild_frames env _ _) fun _ => ih

theorem reapChildren_frames : Frames settlement (reapChildren env) := by
  refine Frames.bind (askLoop_frames _) fun reaps => ?_
  refine Frames.bind (collectChildren_frames env _) fun _ => ?_
  cases reaps.ending with
  | alive => exact Frames.bind (askLoop_frames _) fun _ => setLoop_frames fun _ => rfl
  | noChild => exact setLoop_frames fun _ => rfl
  | failed error => exact Frames.throw

theorem handleSigchld_frames : Frames settlement (handleSigchld env) := by
  refine Frames.bind (askLoop_frames _) fun _ =>
    Frames.branch (fun _ => ?_) fun _ => reapChildren_frames env
  exact Frames.bind (checkExplicitCancel_frames env) fun _ => reapChildren_frames env

theorem stdoutReachesSentinel_frames (bytes : Bytes) :
    Frames settlement (stdoutReachesSentinel bytes) := by
  refine Frames.bind getLoop_frames fun loop => ?_
  cases loop.sentinel with
  | none => exact Frames.pure
  | some matcher =>
      refine Frames.branch (fun _ => Frames.pure) fun _ => ?_
      exact Frames.bind (setLoop_frames fun _ => rfl) fun _ => Frames.pure

theorem readStderr_frames : Frames settlement (readStderr env) := by
  refine Frames.bind getLoop_frames fun _ => Frames.branch (fun _ => Frames.pure) fun _ => ?_
  refine Frames.bind (tryLoop_frames _) fun read => ?_
  cases read with
  | bytes _ =>
      refine Frames.bind getLoop_frames fun _ => Frames.branch (fun _ => Frames.pure) fun _ => ?_
      exact Frames.bind (writeLogOrFail_frames env) fun _ => Frames.pure
  | closed => exact setLoop_frames fun _ => rfl
  | pending => exact Frames.pure

theorem readExecError_frames : Frames settlement (readExecError env) := by
  refine Frames.bind getLoop_frames fun _ => Frames.branch (fun _ => Frames.pure) fun _ => ?_
  refine Frames.bind (tryLoop_frames _).attempt fun result => ?_
  cases result with
  | ok read =>
      cases read with
      | bytes _ => exact setLoop_frames fun _ => rfl
      | closed => exact setLoop_frames fun _ => rfl
      | pending => exact Frames.pure
  | error _ => exact setLoop_frames fun _ => rfl

theorem leave_frames : Frames settlement (leave env) := by
  refine Frames.bind getLoop_frames fun _ => Frames.branch (fun _ => ?_) fun _ => Frames.pure
  refine Frames.bind (perform_frames env _).attempt fun result => ?_
  cases result with
  | ok _ => exact Frames.pure
  | error error => exact Frames.branch (fun _ => Frames.pure) fun _ => Frames.throw

end Unmoved

section Turns

variable {env : LoopEnvironment} {α β : Type} {P P' Q R : Settlement → Prop} {script : Loop α}
  {rest : α → Loop β}

/-- From `P` the script keeps the order of events, and comes to `Q` unless it fails. -/
def Passes (P Q : Settlement → Prop) (script : Loop α) : Prop :=
  Ends (fun world => P (settlement world)) script fun result world =>
    Settling (settlement world) ∧ ∀ value, result = .ok value → Q (settlement world)

namespace Passes

theorem bind (first : Passes P Q script) (next : ∀ value, Passes Q R (rest value)) :
    Passes P R (script >>= rest) := by
  refine Ends.bind first (fun value => ?_) fun error world known => ?_
  · exact (next value).weaken (fun world known => known.2 value rfl) fun _ _ known => known
  · exact ⟨known.1, fun _ impossible => nomatch impossible⟩

theorem weaken (passes : Passes P Q script) (before : ∀ view, P' view → P view)
    (after : ∀ view, Q view → R view) : Passes P' R script :=
  Ends.weaken passes (fun _ => before _) fun _ _ known =>
    ⟨known.1, fun value same => after _ (known.2 value same)⟩

theorem of_frames (frames : Frames settlement script) (settling : ∀ view, P view → Settling view) :
    Passes P P script :=
  (frames.ends P).weaken (fun _ holds => holds) fun _ _ holds => ⟨settling _ holds, fun _ _ => holds⟩

theorem pure {value : α} (settling : ∀ view, P view → Settling view) :
    Passes P P (Pure.pure value : Loop α) :=
  of_frames Frames.pure settling

/-- After the loop's state was read, everything is about that one state. -/
theorem getLoop {rest : EventLoop → Loop α}
    (each : ∀ loop events, P (settlementOf loop events) →
      Passes (· = settlementOf loop events) Q (rest loop)) :
    Passes P Q (AgentBash.getLoop >>= rest) :=
  fun world holds => each world.loop world.events holds world rfl

theorem branch {c : Prop} [Decidable c] {yes no : Loop α} (left : c → Passes P Q yes)
    (right : ¬ c → Passes P Q no) : Passes P Q (if c then yes else no) :=
  Ends.branch left right

/-- A change of the loop's state together with the event that it stands for. -/
theorem noted {change : EventLoop → EventLoop} {event : LoopEvent} {view : Settlement}
    (after : Settlement → Settlement)
    (same : ∀ loop events,
      settlementOf (change loop) (event :: events) = after (settlementOf loop events))
    (settling : Settling (after view)) (holds : Q (after view)) :
    Passes (· = view) Q (do setLoop change; note event) := by
  rintro world rfl
  have reached : settlement ((do setLoop change; note event : Loop Unit) world).2 =
      after (settlement world) := same world.loop world.events
  rw [reached]
  exact ⟨settling, fun _ _ => holds⟩

theorem noted_then {change : EventLoop → EventLoop} {event : LoopEvent} {next : Loop Unit}
    (first : Passes P Q (do setLoop change; note event)) (passes : Passes Q R next) :
    Passes P R (do setLoop change; note event; next) := by
  have both : Passes P R ((do setLoop change; note event) >>= fun _ => next) :=
    bind first fun _ => passes
  intro world holds
  exact both world holds

theorem moved {change : EventLoop → EventLoop} {view : Settlement} (after : Settlement → Settlement)
    (same : ∀ world : LoopWorld, settlement world = view →
      settlementOf (change world.loop) world.events = after (settlement world))
    (settling : Settling (after view)) (holds : Q (after view)) :
    Passes (· = view) Q (setLoop change) := by
  intro world here
  have reached : settlement (setLoop change world).2 = after (settlement world) := same world here
  rw [reached, here]
  exact ⟨settling, fun _ _ => holds⟩

theorem from_here {view : Settlement} (settling : Settling view) (holds : Q view) {value : α} :
    Passes (· = view) Q (Pure.pure value : Loop α) := by
  rintro world rfl
  exact ⟨settling, fun _ _ => holds⟩

end Passes

open EventLoop

/-- The terminal byte is tried again wherever a phase stands both outcomes. -/
theorem retryRootTerminal_passes (settling : ∀ view, P view → Settling view)
    (sent : ∀ view, P view → Settling
      { view with terminalSent := true, events := .terminalSent :: view.events } →
      P { view with terminalSent := true, events := .terminalSent :: view.events })
    (lost : ∀ view, P view → view.completionRecorded = true →
      P { view with
        rootControlFd := false, granted := true, events := .controlLost :: view.events }) :
    Passes P P (retryRootTerminal env) := by
  refine Passes.getLoop fun loop events holds => ?_
  have here := settling _ holds
  refine Passes.branch (fun _ => Passes.from_here here holds) fun open_ => ?_
  refine Passes.branch (fun _ => Passes.from_here here holds) fun _ => ?_
  simp only [Bool.or_eq_true, Bool.not_eq_true', not_or, Bool.not_eq_false,
    Bool.not_eq_true] at open_
  refine Passes.bind (Passes.of_frames (tryLoop_frames _).attempt (by rintro _ rfl; exact here))
    fun result => ?_
  cases result with
  | ok _ =>
      have terminal := here.terminalSent open_.2 open_.1
      exact Passes.noted (fun view => { view with
        terminalSent := true, events := .terminalSent :: view.events }) (fun _ _ => rfl) terminal
        (sent _ holds terminal)
  | error error =>
      refine Passes.branch (fun _ => Passes.from_here here holds) fun _ => ?_
      exact Passes.noted (fun view => { view with
        rootControlFd := false, granted := true, events := .controlLost :: view.events })
        (fun _ _ => rfl) (here.granted (.inr rfl) false) (lost _ holds open_.1)

/-- The local terminal is announced wherever a phase stands both outcomes. -/
theorem announceRootLocalReady_passes (settling : ∀ view, P view → Settling view)
    (sent : ∀ view, P view → Settling
      { view with localReadySent := true, events := .readySent :: view.events } →
      P { view with localReadySent := true, events := .readySent :: view.events })
    (lost : ∀ view, P view → P { view with
      rootControlFd := false, granted := true, events := .controlLost :: view.events }) :
    Passes P P (announceRootLocalReady env) := by
  refine Passes.getLoop fun loop events holds => ?_
  have here := settling _ holds
  refine Passes.branch (fun _ => Passes.from_here here holds) fun unsent => ?_
  refine Passes.branch (fun closed => ?_) fun _ => ?_
  · -- the descriptor only ever closes together with the grant
    have closed : loop.rootControlFd = false := by simpa using closed
    have granted : loop.rootSettlementGranted = true := here.lost closed
    refine Passes.moved id (fun world same => ?_) here holds
    have granted : world.loop.rootSettlementGranted = true :=
      (congrArg Settlement.granted same).trans granted
    simp only [settlement, settlementOf, id_eq, granted]
  · have unsent : loop.rootLocalReadySent = false := by simpa using unsent
    refine Passes.bind (Passes.of_frames (tryLoop_frames _).attempt (by rintro _ rfl; exact here))
      fun result => ?_
    cases result with
    | ok _ =>
        have announced := here.readySent unsent
        exact Passes.noted (fun view => { view with
          localReadySent := true, events := .readySent :: view.events }) (fun _ _ => rfl)
          announced (sent _ holds announced)
    | error error =>
        refine Passes.branch (fun _ => Passes.from_here here holds) fun _ => ?_
        have closes : Passes (· = settlementOf loop events) P (do
            setLoop fun loop => { loop with rootControlFd := false, rootSettlementGranted := true }
            note .controlLost) :=
          Passes.noted (fun view => { view with
            rootControlFd := false, granted := true, events := .controlLost :: view.events })
            (fun _ _ => rfl) (here.granted (.inr rfl) false) (lost _ holds)
        exact closes.noted_then (Passes.of_frames (requestCancellation_frames env _) settling)

theorem Publishing.retries : Passes Publishing Publishing (retryRootTerminal env) :=
  retryRootTerminal_passes (fun _ holds => holds.1) (fun _ holds settling => ⟨settling, holds.2⟩)
    fun _ holds _ => ⟨holds.1.granted (.inr rfl) false, rfl, holds.2.2⟩

/-- A publication that keeps to its occasion leaves the loop ready for another one. -/
theorem publishTerminal_passes {occasion : Occasion} {proposal : TerminalProposal}
    (proper : ∀ view, P view → Publishing view ∧ ProperOccasion view.events proposal occasion) :
    Passes P Publishing (publishTerminal env occasion proposal) := by
  have noted : Passes P Publishing (note (.publication occasion proposal)) := by
    intro world holds
    have reached := (proper _ holds).1.published (proper _ holds).2
    exact ⟨reached.1, fun _ _ => reached⟩
  refine Passes.bind noted fun _ => Passes.of_frames ?_ fun _ holds => holds.1
  refine Frames.bind getLoop_frames fun _ => Frames.bind (perform_frames env _) fun _ => ?_
  exact Frames.bind (setLoop_frames fun _ => rfl) fun _ => Frames.pure

theorem integrateTerminalPublication_passes (result : TerminalPublishResult) :
    Passes Publishing Publishing (integrateTerminalPublication env result) := by
  cases result with
  | published =>
      have recorded : Passes Publishing Publishing (do
          setLoop fun loop => { loop with completionRecorded := true }
          note .completionRecorded) := fun world holds =>
        ⟨holds.recorded.1, fun _ _ => holds.recorded⟩
      exact recorded.noted_then Publishing.retries
  | deferredForAcceptedCancel =>
      exact Passes.of_frames (requestCancellation_frames env _) fun _ holds => holds.1

/-- What every publishing function does with the answer of the publisher. -/
theorem integrate_passes {c : Prop} [Decidable c] {kind : SourceEventKind} {status : Option Int}
    {drained closed : Bool} {result : TerminalPublishResult} :
    Passes Publishing Publishing (if c then do
        retainSource env kind status drained closed
        integrateTerminalPublication env result
      else integrateTerminalPublication env result) := by
  refine Passes.branch (fun _ => ?_) fun _ => integrateTerminalPublication_passes result
  exact Passes.bind (Passes.of_frames (retainSource_frames env _ _ _ _) fun _ holds => holds.1)
    fun _ => integrateTerminalPublication_passes result

theorem publishReadySentinel_passes {occasion : Occasion} {time : Nat}
    (proper : ∀ view, P view →
      Publishing view ∧ ProperOccasion view.events (.readySentinel time) occasion) :
    Passes P Publishing (publishReadySentinel env occasion time) := by
  refine Passes.bind (publishTerminal_passes proper) fun result => ?_
  exact Passes.bind (Passes.of_frames getLoop_frames fun _ holds => holds.1) fun _ =>
    integrate_passes

theorem recordExitCompletion_passes (status : RootStatus) (reason : ExitCompletionReason) :
    Passes Publishing Publishing (recordExitCompletion env status reason) := by
  refine Passes.bind (publishTerminal_passes fun _ holds => ⟨holds, trivial⟩) fun result => ?_
  exact Passes.bind (Passes.of_frames getLoop_frames fun _ holds => holds.1) fun _ =>
    integrate_passes

theorem recordSupervisorErrorInLoop_passes (message : String) :
    Passes Publishing Publishing (recordSupervisorErrorInLoop env message) := by
  refine Passes.bind (publishTerminal_passes fun _ holds => ⟨holds, trivial⟩) fun result => ?_
  exact Passes.bind (Passes.of_frames getLoop_frames fun _ holds => holds.1) fun _ =>
    integrate_passes

/-- The pending match goes first, and nothing has been recorded yet when it does. -/
theorem retryDeferredReady_passes : Passes Settling Consumed (retryDeferredReady env) := by
  refine Passes.getLoop fun loop events settling => ?_
  cases waiting : loop.deferredReadyAt with
  | none => exact Passes.from_here settling ⟨settling, fun _ => waiting⟩
  | some time =>
      refine Passes.branch (fun ungranted => ?_) fun granted => ?_
      · have ungranted : loop.rootSettlementGranted = false := by simpa using ungranted
        exact Passes.from_here settling ⟨settling, fun granted => nomatch ungranted.symm.trans granted⟩
      · have granted : loop.rootSettlementGranted = true := by simpa using granted
        obtain ⟨first, unrecorded, unpublished⟩ := settling.pending time waiting
        have taken : Publishing { settlementOf loop events with deferredReadyAt := none } := by
          refine ⟨?_, granted, rfl⟩
          exact
            { settling with
              pending := fun _ impossible => nomatch impossible
              fresh := fun ungranted => nomatch granted.symm.trans ungranted }
        have taking : Passes (· = settlementOf loop events)
            (· = { settlementOf loop events with deferredReadyAt := none })
            (setLoop fun loop => { loop with deferredReadyAt := none }) :=
          Passes.moved (fun view => { view with deferredReadyAt := none }) (fun _ _ => rfl) taken.1 rfl
        refine Passes.bind taking fun _ => ?_
        refine Passes.weaken (publishReadySentinel_passes (P := (· = _)) ?_) (fun _ same => same)
          fun _ publishing => ⟨publishing.1, fun _ => publishing.2.2⟩
        rintro _ rfl
        refine ⟨taken, ⟨time, first, rfl⟩, unpublished, fun recorded => ?_⟩
        have recorded := settling.recorded.mpr recorded
        exact nomatch recorded.symm.trans unrecorded

theorem stdout_closed_of_decided {loop : EventLoop} (decided : loop.finishDecision ≠ .none) :
    loop.stdoutFd = false := by
  have closed : loop.outputClosed = true := by
    by_contra opened
    have opened : loop.outputClosed = false := by simpa using opened
    apply decided
    unfold finishDecision spawnErrorComplete exitCompletionReady
    simp only [opened, Bool.and_false, Bool.false_eq_true, if_false, ite_self, Bool.not_false, if_true]
    split
    · rfl
    · split <;> rfl
  simp only [outputClosed, Bool.and_eq_true, Bool.not_eq_true'] at closed
  exact closed.1.1

/-- Only a closed output makes the loop announce itself here, so no match can follow. -/
theorem maybeFinish_passes : Passes Consumed Guarded (maybeFinish env) := by
  refine Passes.getLoop fun loop events consumed => ?_
  have guarded : Guarded (settlementOf loop events) :=
    ⟨consumed.1, fun granted _ => consumed.2 granted⟩
  have publishing (granted : ¬ (loop.finishDecision ≠ .none && !loop.rootSettlementGranted) = true)
      (decided : loop.finishDecision ≠ .none) : Publishing (settlementOf loop events) := by
    have granted : loop.rootSettlementGranted = true := by simpa [decided] using granted
    exact ⟨consumed.1, granted, consumed.2 granted⟩
  have quiet {script : Loop Unit} (passes : Passes Publishing Publishing script)
      (here : Publishing (settlementOf loop events)) :
      Passes (· = settlementOf loop events) Guarded script :=
    passes.weaken (by rintro _ rfl; exact here) fun _ holds => ⟨holds.1, fun _ _ => holds.2.2⟩
  refine Passes.branch (fun announces => ?_) fun granted => ?_
  · have decided : loop.finishDecision ≠ .none := by
      simp only [ne_eq, Bool.and_eq_true, decide_eq_true_eq] at announces
      exact announces.1
    refine Passes.weaken (announceRootLocalReady_passes
      (P := fun view => Settling view ∧ view.stdoutFd = false) (fun _ holds => holds.1) ?_ ?_) ?_ ?_
    · exact fun _ holds settling => ⟨settling, holds.2⟩
    · exact fun _ holds => ⟨holds.1.granted (.inr rfl) false, holds.2⟩
    · rintro _ rfl
      exact ⟨consumed.1, stdout_closed_of_decided decided⟩
    · exact fun _ holds => ⟨holds.1, fun _ opened => nomatch opened.symm.trans holds.2⟩
  · cases decision : loop.finishDecision with
    | none => exact Passes.from_here consumed.1 guarded
    | spawnError message =>
        exact quiet (recordSupervisorErrorInLoop_passes _)
          (publishing granted (by rw [decision]; exact nofun))
    | exit status reason =>
        have here := publishing granted (by rw [decision]; exact nofun)
        cases loop.captureError with
        | none => exact quiet (recordExitCompletion_passes _ _) here
        | some message => exact quiet (recordSupervisorErrorInLoop_passes _) here

/-- A match was noted just now, with nothing else since. -/
def Matched (env : LoopEnvironment) (world : LoopWorld) : Prop :=
  ∃ view, Consumed view ∧
    settlement world =
      { view with events := .sentinelMatch (env.unixMs world.tick) :: view.events }

theorem deferReady_settlement (env : LoopEnvironment) (world : LoopWorld) :
    (deferReady env world).1 = .ok () ∧ settlement (deferReady env world).2 =
      { settlement world with
        deferredReadyAt := some (world.loop.deferredReadyAt.getD (env.unixMs world.tick)) } := by
  unfold deferReady
  simp only [Bind.bind, AgentBash.getLoop]
  cases waiting : world.loop.deferredReadyAt with
  | none => exact ⟨rfl, rfl⟩
  | some time =>
      refine ⟨rfl, ?_⟩
      simp [Pure.pure, settlement, settlementOf, waiting]

theorem recordReadySentinel_ends :
    Ends (Matched env) (recordReadySentinel env) fun _ world => Settling (settlement world) := by
  refine Ends.bind (Q := fun result world => result = .ok world.loop ∧ Matched env world)
    (fun _ matched => ⟨rfl, matched⟩) (fun loop => ?_) fun _ _ impossible => nomatch impossible.1
  refine Ends.branch (fun ungranted => ?_) fun granted => ?_
  · refine Ends.bind (Q := fun result world => result = .ok () ∧ Settling (settlement world))
      ?_ (fun _ => ?_) fun _ _ impossible => nomatch impossible.1
    · rintro world ⟨same, view, consumed, seen⟩
      obtain ⟨done, reached⟩ := deferReady_settlement env world
      obtain rfl := Except.ok.inj same
      have ungranted : world.loop.rootSettlementGranted = false := by simpa using ungranted
      have ungranted : view.granted = false :=
        (congrArg Settlement.granted seen).symm.trans ungranted
      have waits : world.loop.deferredReadyAt = view.deferredReadyAt :=
        congrArg Settlement.deferredReadyAt seen
      refine ⟨done, ?_⟩
      rw [reached, seen, waits]
      exact consumed.1.deferred ungranted _
    · have announces : Passes Settling Settling (announceRootLocalReady env) :=
        announceRootLocalReady_passes (fun _ holds => holds) (fun _ _ settling => settling)
          fun _ settling => settling.granted (.inr rfl) false
      exact Ends.weaken announces (fun _ holds => holds.2) fun _ _ known => known.1
  · refine Ends.bind (Q := fun result world => ∃ now view, result = .ok now ∧ Publishing view ∧
        settlement world = { view with events := .sentinelMatch now :: view.events })
      ?_ (fun now => ?_) fun _ _ impossible => nomatch impossible.choose_spec.choose_spec.1
    · rintro world ⟨same, view, consumed, seen⟩
      obtain rfl := Except.ok.inj same
      have granted : world.loop.rootSettlementGranted = true := by simpa using granted
      have granted : view.granted = true :=
        (congrArg Settlement.granted seen).symm.trans granted
      exact ⟨_, view, rfl, ⟨consumed.1, granted, consumed.2 granted⟩, seen⟩
    · have publishes : Passes (fun after => ∃ view, Publishing view ∧
          after = { view with events := .sentinelMatch now :: view.events }) Publishing
          (publishReadySentinel env .directReady now) := by
        refine publishReadySentinel_passes ?_
        rintro _ ⟨view, publishing, rfl⟩
        exact ⟨publishing.matched now, now, view.events, rfl, rfl,
          publishing.1.settled publishing.2.1⟩
      refine Ends.weaken publishes ?_ fun _ _ known => known.1
      rintro world ⟨_, view, same, publishing, seen⟩
      obtain rfl := Except.ok.inj same
      exact ⟨view, publishing, seen⟩

theorem handleStdoutBytes_ends (bytes : Bytes) :
    Ends (fun world => Consumed (settlement world)) (handleStdoutBytes env bytes)
      fun _ world => Settling (settlement world) := by
  have quiet {world : LoopWorld} (consumed : Consumed (settlement world)) :
      Settling (settlement world) := consumed.1
  refine Ends.bind (getLoop_frames.ends Consumed) (fun loop => ?_) fun _ _ holds => holds.1
  refine Ends.branch (fun _ => Ends.pure fun _ holds => quiet holds) fun _ => ?_
  refine Ends.bind ((writeLogOrFail_frames env).ends Consumed) (fun written => ?_)
    fun _ _ holds => holds.1
  refine Ends.branch (fun _ => ?_) fun _ => Ends.pure fun _ holds => quiet holds
  refine Ends.bind ((stdoutReachesSentinel_frames bytes).ends Consumed) (fun reached => ?_)
    fun _ _ holds => holds.1
  refine Ends.branch (fun _ => ?_) fun _ => Ends.pure fun _ holds => quiet holds
  refine Ends.bind (Q := fun result world => result = .ok () ∧ Matched env world)
    (fun world holds => ⟨rfl, settlement world, holds, rfl⟩)
    (fun _ => recordReadySentinel_ends.weaken (fun _ known => known.2) fun _ _ holds => holds)
    fun _ _ impossible => nomatch impossible.1

theorem readStdout_passes : Passes Guarded Settling (readStdout env) := by
  refine Passes.getLoop fun loop events guarded => ?_
  refine Passes.branch (fun _ => Passes.from_here guarded.1 guarded.1) fun opened => ?_
  have opened : loop.stdoutFd = true := by simpa using opened
  have consumed : Consumed (settlementOf loop events) :=
    ⟨guarded.1, fun granted => guarded.2 granted opened⟩
  refine Passes.bind (Passes.of_frames (tryLoop_frames _) (by rintro _ rfl; exact guarded.1))
    fun read => ?_
  cases read with
  | bytes chunk =>
      refine (handleStdoutBytes_ends chunk).weaken (fun world same => ?_) fun _ _ settling =>
        ⟨settling, fun _ _ => settling⟩
      rw [show settlement world = settlementOf loop events from same]
      exact consumed
  | closed =>
      have closed : Settling { settlementOf loop events with stdoutFd := false } :=
        { guarded.1 with }
      exact Passes.moved (fun view => { view with stdoutFd := false }) (fun _ _ => rfl) closed closed
  | pending => exact Passes.from_here guarded.1 guarded.1

theorem readControlBytes_passes (bytes : Bytes) :
    Passes Settling Settling (readControlBytes env bytes) := by
  have cancels (cause : CancellationCause) :
      Passes Settling Settling (requestCancellation env cause) :=
    Passes.of_frames (requestCancellation_frames env cause) fun _ holds => holds
  induction bytes with
  | nil => exact Passes.pure fun _ holds => holds
  | cons byte bytes ih =>
      refine Passes.bind ?_ fun _ => ih
      refine Passes.branch (fun _ => ?_) fun _ => Passes.branch (fun _ => cancels _) fun _ =>
        Passes.branch (fun _ => cancels _) fun _ => Passes.branch (fun _ => cancels _) fun _ =>
          Passes.branch (fun _ => cancels _) fun _ => ?_
      · intro world settling
        have granted := settling.granted (.inl rfl) (settlement world).rootControlFd
        exact ⟨granted, fun _ _ => granted⟩
      · exact Passes.of_frames Frames.throw fun _ holds => holds

theorem readRootControl_passes : Passes Settling Settling (readRootControl env) := by
  refine Passes.getLoop fun loop events settling => ?_
  refine Passes.branch (fun _ => Passes.from_here settling settling) fun _ => ?_
  refine Passes.bind (Q := Settling) ?_ fun reads => ?_
  · exact (Passes.of_frames (askLoop_frames _) fun _ holds => holds).weaken
      (by rintro _ rfl; exact settling) fun _ holds => holds
  refine Passes.bind (readControlBytes_passes _) fun _ => ?_
  cases reads.ending with
  | closed =>
      have closes : Passes Settling Settling (do
          setLoop fun loop => { loop with rootControlFd := false, rootSettlementGranted := true }
          note .controlLost) := fun world settling =>
        ⟨settling.granted (.inr rfl) false, fun _ _ => settling.granted (.inr rfl) false⟩
      exact closes.noted_then
        (Passes.of_frames (requestCancellation_frames env _) fun _ holds => holds)
  | wouldBlock => exact Passes.pure fun _ holds => holds
  | failed error => exact Passes.of_frames Frames.throw fun _ holds => holds

theorem dispatchPollKey_passes {key : PollKey} (other : key ≠ .stdout) :
    Passes Settling Settling (dispatchPollKey env key) := by
  have quiet {script : Loop Unit} (frames : Frames settlement script) :
      Passes Settling Settling script := Passes.of_frames frames fun _ holds => holds
  cases key with
  | stdout => exact absurd rfl other
  | stderr => exact quiet (readStderr_frames env)
  | execErr => exact quiet (readExecError_frames env)
  | sigchld => exact quiet (handleSigchld_frames env)
  | pidfd => exact quiet (reapChildren_frames env)
  | ownerPidfd =>
      exact quiet (Frames.bind (setLoop_frames fun _ => rfl) fun _ =>
        requestCancellation_frames env _)
  | cgroup => exact Passes.pure fun _ holds => holds
  | rootControl => exact readRootControl_passes

theorem dispatchReady_passes {keys : List PollKey} (others : .stdout ∉ keys) :
    Passes Settling Settling (dispatchReady env keys) := by
  induction keys with
  | nil => exact Passes.pure fun _ holds => holds
  | cons key keys ih =>
      rw [List.mem_cons, not_or] at others
      exact Passes.bind (dispatchPollKey_passes (Ne.symm others.1)) fun _ => ih others.2

theorem stdout_not_polled {loop : EventLoop} (closed : loop.stdoutFd = false) :
    .stdout ∉ loop.pollEntries := by
  unfold pollEntries
  rw [closed]
  simp only [List.mem_append, not_or]
  refine ⟨⟨⟨⟨⟨⟨⟨?_, ?_⟩, ?_⟩, ?_⟩, ?_⟩, ?_⟩, ?_⟩, ?_⟩ <;> simp

theorem pollEntries_of_open {loop : EventLoop} (opened : loop.stdoutFd = true) :
    loop.pollEntries = .stdout :: ({ loop with stdoutFd := false } : EventLoop).pollEntries := by
  unfold pollEntries
  rw [opened]
  rfl

theorem pollAndDispatch_passes : Passes Guarded Settling (pollAndDispatch env) := by
  refine Passes.bind (Passes.of_frames getLoop_frames fun _ holds => holds.1) fun loop => ?_
  refine Passes.bind (Passes.of_frames (tryLoop_frames _) fun _ holds => holds.1) fun ready => ?_
  have others {entries : EventLoop} (closed : entries.stdoutFd = false) :
      Passes Settling Settling (dispatchReady env (entries.pollEntries.filter ready)) :=
    dispatchReady_passes fun found => stdout_not_polled closed (List.mem_filter.mp found).1
  have skipped {entries : EventLoop} (closed : entries.stdoutFd = false) :
      Passes Guarded Settling (dispatchReady env (entries.pollEntries.filter ready)) :=
    (others closed).weaken (fun _ holds => holds.1) fun _ holds => holds
  cases opened : loop.stdoutFd with
  | false => exact skipped opened
  | true =>
      rw [pollEntries_of_open opened]
      by_cases first : ready .stdout = true
      · rw [List.filter_cons_of_pos first]
        exact Passes.bind readStdout_passes fun _ => others rfl
      · rw [List.filter_cons_of_neg first]
        exact skipped rfl

theorem advance_passes : Passes Settling Guarded (advance env) := by
  have quiet {script : Loop Unit} {P : Settlement → Prop} (frames : Frames settlement script)
      (settling : ∀ view, P view → Settling view) : Passes P P script :=
    Passes.of_frames frames settling
  have ready : ∀ view, Guarded view → Settling view := fun _ holds => holds.1
  have same : ∀ view, Settling view → Settling view := fun _ holds => holds
  refine Passes.bind (quiet (checkExplicitCancel_frames env) same) fun _ => ?_
  refine Passes.bind (quiet (checkPolledOwner_frames env) same) fun _ => ?_
  refine Passes.bind (quiet (driveCancellation_frames env) same) fun _ => ?_
  refine Passes.bind (quiet (recoverImageService_frames env) same) fun _ => ?_
  refine Passes.bind (retryRootTerminal_passes same (fun _ _ settling => settling)
    fun _ settling _ => settling.granted (.inr rfl) false) fun _ => ?_
  refine Passes.bind retryDeferredReady_passes fun _ => ?_
  refine Passes.bind maybeFinish_passes fun _ => ?_
  refine Passes.bind (quiet (noteDrained_frames env) ready) fun _ => ?_
  refine Passes.bind (quiet (retrySourcePublication_frames env) ready) fun _ => ?_
  refine Passes.bind (quiet (retryCompletionIntegration_frames env) ready) fun _ => ?_
  refine Passes.bind (quiet (driveCompletionDelivery_frames env) ready) fun _ => ?_
  exact quiet (flushRootStatus_frames env) ready

theorem turn_passes : Passes Settling Settling (turn env) := by
  refine Passes.bind advance_passes fun _ => ?_
  refine Passes.bind (Passes.of_frames getLoop_frames fun _ holds => holds.1) fun loop => ?_
  refine Passes.branch (fun _ => ?_) fun _ => ?_
  · exact (Passes.of_frames (leave_frames env) fun _ holds => holds.1).weaken (fun _ holds => holds)
      fun _ holds => holds.1
  · exact Passes.bind pollAndDispatch_passes fun _ => Passes.pure fun _ holds => holds

theorem eventLoop_passes (turns : Nat) : Passes Settling Settling (eventLoop env turns) := by
  induction turns with
  | zero => exact Passes.pure fun _ holds => holds
  | succ turns ih =>
      exact Passes.bind turn_passes fun over_ =>
        Passes.branch (fun _ => Passes.pure fun _ holds => holds) fun _ => ih

end Turns

/-- A loop that was handed a control descriptor. -/
def pairedStart (seed : EventLoopSeed) : LoopWorld where
  loop := eventLoopState { seed with rootControlFd := true }

theorem settling_pairedStart (seed : EventLoopSeed) : Settling (settlement (pairedStart seed)) where
  handshake := Handshake.nil
  lost impossible := nomatch impossible
  settled impossible := nomatch impossible
  ready _ := List.not_mem_nil
  terminal _ := List.not_mem_nil
  recorded := ⟨(nomatch ·), fun found => (List.not_mem_nil found).elim⟩
  settledFirst impossible := nomatch impossible
  pending _ impossible := nomatch impossible
  fresh _ := ⟨fun published => List.not_mem_nil published.choose_spec, fun _ => rfl⟩

/-- Whatever the outside answers and however long the loop runs, its events come in order. -/
theorem paired_loop_keeps_handshake (env : LoopEnvironment) (seed : EventLoopSeed) (turns : Nat) :
    Handshake (eventLoop env turns (pairedStart seed)).2.events :=
  (eventLoop_passes turns _ (settling_pairedStart seed)).1.handshake

end AgentBash
