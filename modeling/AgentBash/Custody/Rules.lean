import AgentBash.Custody.Recovery

/-!
# Custody scripts beside a lane's concern

What the scripts of source custody answer and leave alone, for any lane that leaves their files and
requests free. Only two requests are more than a question: the release of a workload and its
execution.
-/

namespace AgentBash

set_option autoImplicit false

open Durable

namespace SourceCustody

/-- A request that neither releases nor executes a workload. -/
def CustodyOp.quiet : CustodyOp → Prop
  | .releaseWorkload _ | .exec => False
  | _ => True

theorem CustodyOp.act_cases {caller : Nat} {op : CustodyOp} {choice : CustodyChoice}
    {disk : CustodyDisk} {answer : Except IoError op.Result} {world : CustodyWorld}
    (acted : op.act caller choice disk = some (answer, world)) :
    (∃ error, answer = .error error ∧ world = disk.world) ∨
      op.perform caller choice disk = some (answer, world) := by
  unfold CustodyOp.act at acted
  split at acted
  · next error =>
    split at acted
    · obtain ⟨rfl, rfl⟩ := Prod.mk.inj (Option.some.inj acted)
      exact .inl ⟨error, rfl, rfl⟩
    · cases acted
  · exact .inr acted

variable {γ Entry α : Type} {lane : Lane custodyLayout custodyOutside γ}
  {entry : Entry → Program (requests custodyLayout custodyOutside)}
  {policy : System.Policy (system custodyLayout custodyOutside entry)} {pid : Nat}
  {P : CustodyDisk × γ → Prop} {files : SourceFile → Prop}

/-- An assertion beside files that a lane leaves free and all quiet requests. -/
abbrev Calm (lane : Lane custodyLayout custodyOutside γ)
    (entry : Entry → Program (requests custodyLayout custodyOutside)) (files : SourceFile → Prop)
    (pid : Nat) (P : CustodyDisk × γ → Prop) : Prop :=
  Bystander lane entry files CustodyOp.quiet pid P

section Answers

theorem value_spec {file : SourceFile}
    {Q : Except IoError file.Content → CustodyDisk × γ → Prop}
    (stable : Stable (lane.discipline entry) pid P)
    (found : ∀ view (content : file.Content), lane.Inv view → P view →
      view.1.files file = some content → Q (.ok content) view)
    (failed : ∀ error view, lane.Inv view → P view → Q (.error error) view) :
    Spec (lane.discipline entry) policy pid P (value file) Q :=
  Lane.read stable found (fun view inv holds _ => failed _ view inv holds)
    fun error view _ inv holds => failed error view inv holds

theorem fail_steady {detail : String} :
    Steady (lane.discipline entry) policy pid P (fail detail : CustodyScript α) :=
  .throw

theorem required_spec {detail : String} {found : Option α} :
    Spec (lane.discipline entry) policy pid P (required detail found)
      (byResult (fun value view => found = some value ∧ P view) fun _ => P) := by
  cases found with
  | none => exact .throw fun _ _ holds => holds
  | some value => exact .pure fun _ _ holds => ⟨rfl, holds⟩

theorem required_steady {detail : String} {found : Option α} :
    Steady (lane.discipline entry) policy pid P (required detail found) := by
  cases found with
  | none => exact .throw
  | some value => exact .pure

theorem ofExcept_spec {result : Except IoError α} :
    Spec (lane.discipline entry) policy pid P (Io.ofExcept result)
      (byResult (fun value view => result = .ok value ∧ P view) fun _ => P) := by
  apply Spec.ofExcept
  intro view _ holds
  cases result with
  | ok value => exact ⟨rfl, holds⟩
  | error error => exact holds

theorem readIdentity_steady {value : Value} :
    Steady (lane.discipline entry) policy pid P (readIdentity value) :=
  required_steady

/-- An error leaves the assertion in front of a script, a value is said more about. -/
theorem Steady.learns {script : CustodyScript α} {β : Type} {rest : α → CustodyScript β}
    {fact : α → Prop} {R : Except IoError β → CustodyDisk × γ → Prop}
    (first : Spec (lane.discipline entry) policy pid P script
      (byResult (fun value view => fact value ∧ P view) fun _ => P))
    (value : ∀ value, fact value → Spec (lane.discipline entry) policy pid P (rest value) R)
    (error : ∀ error view, (lane.discipline entry).Inv view → P view → R (.error error) view) :
    Spec (lane.discipline entry) policy pid P (script >>= rest) R :=
  Spec.bind first (fun found => Spec.assume (value found)) error

end Answers

namespace Calm

variable (calm : Calm lane entry files pid P)
include calm

theorem ask (op : CustodyOp) (quiet : op.quiet) :
    Steady (lane.discipline entry) policy pid P (SourceCustody.ask op) :=
  Bystander.external calm quiet

theorem value (file : SourceFile) :
    Steady (lane.discipline entry) policy pid P (SourceCustody.value file) :=
  Bystander.read calm file

theorem tryExists (file : SourceFile) :
    Steady (lane.discipline entry) policy pid P (SourceCustody.tryExists file) :=
  Bystander.tryExists calm file

theorem save {file : SourceFile} {content : file.Content} (free : files file) :
    Steady (lane.discipline entry) policy pid P (SourceCustody.save file content) :=
  Bystander.atomicWrite calm free

theorem immutable {file : SourceFile} {content : file.Content} (free : files file) :
    Steady (lane.discipline entry) policy pid P (SourceCustody.immutable file content) :=
  Bystander.immutable calm free

theorem markerExists (file : BesideFile) :
    Steady (lane.discipline entry) policy pid P (SourceCustody.markerExists file) :=
  calm.ask (.markerExists file) trivial

theorem readBeside (file : BesideFile) :
    Steady (lane.discipline entry) policy pid P (SourceCustody.readBeside file) :=
  calm.ask (.readBeside file) trivial

theorem enabled : Steady (lane.discipline entry) policy pid P enabled := by
  apply Steady.bind (.attempt (Bystander.read calm _))
  intro answer
  cases answer <;> exact .pure

end Calm

variable [Codec] {site : Site}

/-- The identity that a binding answers is the one of the registration it answers. -/
def Bound (bound : Value × Value) : Prop := ∃ digest, bound.2 = common bound.1 digest

theorem bound_of_bind {registration : Value} {bound : Value × Value}
    (binds : bindRegistration site registration = .ok bound) : Bound bound := by
  obtain ⟨_, _, rest⟩ := ok_of_bind binds
  obtain ⟨_, _, rest⟩ := ok_of_bind rest
  have found := Except.ok.inj rest
  refine ⟨Codec.sha256 (Codec.encode registration), ?_⟩
  rw [← found]

/-- An event under the name that its observation gave it. -/
def Tells (kind : EventKind) (staged : Value) : Prop :=
  (staged.get "outcome").get "kind" = .string kind.text

instance (kind : EventKind) (staged : Value) : Decidable (Tells kind staged) :=
  inferInstanceAs (Decidable (_ = _))

omit [Codec] in
theorem isObject_common {registration : Value} {digest : String} :
    (common registration digest).isObject = true := by
  rw [common_eq_object]
  exact Value.isObject_object _

omit [Codec] in
theorem tells_staged {registration fence cancellation : Value} {digest : String}
    {record : SourceMeta} {observation : SourceObservation} {observer : CallerChainEntry} :
    Tells observation.kind (stagedEvent
      (outcomeValue (common registration digest) fence observation observer cancellation)
      (snapshotValue (outcomeValue (common registration digest) fence observation observer
        cancellation) record observation.kind)) := by
  have outcome : ∀ outcome snapshot, (stagedEvent outcome snapshot).get "outcome" = outcome := by
    intro outcome snapshot
    rw [stagedEvent, Value.get_object]
    rfl
  rw [Tells, outcome, Value.get_eq_field?, outcomeValue,
    (Value.field?_foldl _ "kind" isObject_common).2]
  rfl

namespace Calm

variable (calm : Calm lane entry files pid P)
include calm

theorem binding : Spec (lane.discipline entry) policy pid P (binding site)
    (byResult (fun bound view => Bound bound ∧ P view) fun _ => P) := by
  apply Spec.bind (calm.value .registration)
  · intro registration
    apply ofExcept_spec.relax
    intro result view _ holds
    cases result with
    | ok bound => exact ⟨bound_of_bind holds.1, holds.2⟩
    | error error => exact holds
  · exact fun _ _ _ holds => holds

theorem binding_steady : Steady (lane.discipline entry) policy pid P (SourceCustody.binding site) :=
  calm.binding.relax fun result _ _ holds =>
    match result with
    | .ok _ => holds.2
    | .error _ => holds

omit [Codec] in
theorem readFence {identity : Value} :
    Steady (lane.discipline entry) policy pid P (readFence identity) :=
  .bind (calm.value .fence) fun _ => .bind .ofExcept fun _ => .pure

omit [Codec] in
theorem mayTransition {fence : Value} :
    Steady (lane.discipline entry) policy pid P (mayTransition fence) :=
  .bind readIdentity_steady fun _ => .bind (calm.ask _ trivial) fun _ => .pure

omit [Codec] in
theorem updateLocal {registration : String} (free : files .continuationLocal) :
    Steady (lane.discipline entry) policy pid P (updateLocal registration) :=
  .bind (calm.value .continuationLocal) fun _ => calm.save free

theorem pinRecoveryImage (free : files .recoveryImage) :
    Steady (lane.discipline entry) policy pid P pinRecoveryImage :=
  .bind (calm.ask .currentImage trivial) fun _ => .bind (Bystander.create calm free) fun _ =>
    .bind (Bystander.replace calm free) fun _ => .bind calm.sync fun _ =>
      .bind (Bystander.read calm _) fun _ => .pure

omit [Codec] in
theorem ownersLive {hello : Value} {keys : List String} :
    Steady (lane.discipline entry) policy pid P (ownersLive hello keys) := by
  induction keys with
  | nil => exact .pure
  | cons key rest ih =>
      apply Steady.bind readIdentity_steady
      intro identity
      apply Steady.bind (calm.ask (.processIdentityIsLive identity) trivial)
      intro (live : Bool)
      exact .branch ih fail_steady

omit [Codec] in
theorem reportRegistration {outcome : RegistrationOutcome} :
    Steady (lane.discipline entry) policy pid P (reportRegistration outcome) := by
  cases outcome with
  | registered => exact .pure
  | unwritten _ => exact .pure
  | unprepared _ =>
      exact .bind (.attempt (calm.ask (.recordRegistrationError _) trivial)) fun _ =>
        calm.ask (.sendRegistrationResult _ _) trivial
  | refused _ =>
      exact .bind (.attempt (calm.ask (.recordRegistrationError _) trivial)) fun _ =>
        calm.ask (.sendRegistrationResult _ _) trivial
  | unknown _ =>
      exact .bind (.attempt (calm.ask (.recordRegistrationUnknown _) trivial)) fun _ =>
        calm.ask (.sendRegistrationResult _ _) trivial

theorem acceptedWork : Steady (lane.discipline entry) policy pid P (acceptedWork site) :=
  .bind (calm.readBeside _) fun _ => .bind (calm.readBeside _) fun _ =>
    .bind required_steady fun _ => .bind required_steady fun _ => .branch .pure fail_steady

theorem cancellationReceipt {record : SourceMeta} {receipt : Value} :
    Steady (lane.discipline entry) policy pid P (cancellationReceipt site record receipt) := by
  have causal : Steady (lane.discipline entry) policy pid P (causalReceipt site receipt) :=
    .bind calm.acceptedWork fun _ => .bind (calm.readBeside _) fun _ =>
      .bind required_steady fun _ => .branch .pure fail_steady
  have rootLoss : Steady (lane.discipline entry) policy pid P (rootLossReceipt site receipt) :=
    .bind calm.acceptedWork fun _ => .pure
  apply Steady.bind (calm.markerExists _)
  intro requested
  apply Steady.branch
  · exact .bind (calm.readBeside _) fun _ => .pure
  · split
    · exact .pure
    · exact causal
    · exact rootLoss
    · exact fail_steady

theorem cancellationIdentity {record : SourceMeta} (free : files .sourceCancellation) :
    Steady (lane.discipline entry) policy pid P (cancellationIdentity site record) :=
  .bind calm.binding_steady fun _ => .bind calm.cancellationReceipt fun _ =>
    .bind (calm.immutable free) fun _ => .pure

omit [Codec] in
theorem selectionBase {outputTrusted : Bool} :
    Spec (lane.discipline entry) policy pid P (selectionBase outputTrusted)
      (byResult (fun base view => base.isObject = true ∧ P view) fun _ => P) := by
  apply Spec.branch
  · intro _
    apply Steady.before (.attempt (calm.ask .pinOutput trivial)) _ fun _ _ _ holds => holds
    intro pinned
    cases pinned with
    | ok log => exact .pure fun _ _ holds => ⟨Value.isObject_object _, holds⟩
    | error _ => exact .pure fun _ _ holds => ⟨Value.isObject_object _, holds⟩
  · exact fun _ => .pure fun _ _ holds => ⟨Value.isObject_object _, holds⟩

/-- Whatever an observer stages tells the kind of its observation. -/
theorem observedEvent {record : SourceMeta} {observation : SourceObservation}
    (free : files .sourceCancellation) :
    Spec (lane.discipline entry) policy pid P (observedEvent site record observation)
      (byResult (fun staged view => Tells observation.kind staged ∧ P view) fun _ => P) := by
  have failed : ∀ error view, (lane.discipline entry).Inv view → P view →
      byResult (fun staged view => Tells observation.kind staged ∧ P view) (fun _ => P)
        (.error error) view := fun _ _ _ holds => holds
  apply Steady.learns calm.binding _ failed
  rintro ⟨registration, identity⟩ ⟨digest, same⟩
  change identity = common registration digest at same
  subst same
  apply Steady.before calm.readFence _ failed
  intro fence
  apply Spec.branch
  · intro _
    apply Spec.branch
    · intro _
      apply Steady.before (calm.ask .identity trivial) _ failed
      intro observer
      apply Steady.before (calm.cancellationIdentity free) _ failed
      intro cancellation
      exact .pure fun _ _ holds => ⟨tells_staged, holds⟩
    · intro _
      exact .throw fun _ _ holds => holds
  · intro _
    apply Steady.before (calm.ask .identity trivial) _ failed
    intro observer
    exact .pure fun _ _ holds => ⟨tells_staged, holds⟩

end Calm

end SourceCustody

end AgentBash
