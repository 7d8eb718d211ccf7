import AgentBash.Delivery.Activation
import AgentBash.State.Rules

/-!
# Helper scripts beside a lane's concern

A helper runs inside the custody of its attempt. Whatever a lane knows of the helper's result
survives the custody markers around it.
-/

namespace AgentBash

set_option autoImplicit false

open Durable

variable {γ Entry α : Type} {lane : Lane layout outside γ} {entry : Entry → HandleProgram}
  {policy : System.Policy (system layout outside entry)} {pid : Nat} {margin : Margin}
  {P : HandleDisk × γ → Prop}

/-- The custody files lie within the margin. -/
structure Margin.Custody (margin : Margin) : Prop where
  marker : margin.files .externalTransferCustody
  cleanup : margin.files .externalTransferCleanupError
  boot : margin.ops .currentBootId

/-- A refusal before the operation is reported as a helper that was not started. -/
theorem withExternalTransferCustody_begun (custody : margin.Custody) (external : Bool)
    {operation : Script (Except DeliveryHelperCommandError α)}
    {Q : Except IoError (Except DeliveryHelperCommandError α) → HandleDisk × γ → Prop}
    (begun : Spec (lane.discipline entry) policy pid P beginExternalTransferCustody fun
      | .ok _ => P
      | .error error => Q (.ok (.error (.notStarted error))))
    (after : ∀ result, Spectator lane entry margin pid (Q (.ok result)))
    (raised : ∀ result error view, Q (.ok result) view → Q (.error error) view)
    (spec : Spec (lane.discipline entry) policy pid P operation Q) :
    Spec (lane.discipline entry) policy pid P
      (withExternalTransferCustody external operation) Q := by
  refine .branch (fun _ => ?_) fun _ => spec
  refine Spec.handle begun fun owned => ?_
  cases owned with
  | error error => exact .pure fun _ _ held => held
  | ok owned =>
      refine Spec.bind spec (fun result => ?_) fun _ _ _ held => held
      refine .branch (fun _ => ?_) fun _ => .pure fun _ _ held => held
      refine Steady.before (.attempt ((after result).endExternalTransferCustody custody.marker))
        (fun answer => ?_) fun error view _ held => raised result error view held
      refine Steady.before ?_ (fun _ => .pure fun _ _ held => held)
        fun error view _ held => raised result error view held
      cases answer with
      | ok _ => exact .pure
      | error _ =>
          exact .bind (.attempt ((after result).atomicWrite custody.cleanup)) fun _ => .pure

/-- The same where a lane does not ask why the custody was refused. -/
theorem withExternalTransferCustody_spec (custody : margin.Custody) (external : Bool)
    {operation : Script (Except DeliveryHelperCommandError α)}
    {Q : Except IoError (Except DeliveryHelperCommandError α) → HandleDisk × γ → Prop}
    (known : Spectator lane entry margin pid P)
    (after : ∀ result, Spectator lane entry margin pid (Q (.ok result)))
    (refused : ∀ error view, P view → Q (.ok (.error (.notStarted error))) view)
    (raised : ∀ result error view, Q (.ok result) view → Q (.error error) view)
    (spec : Spec (lane.discipline entry) policy pid P operation Q) :
    Spec (lane.discipline entry) policy pid P
      (withExternalTransferCustody external operation) Q := by
  refine withExternalTransferCustody_begun custody external ?_ after raised spec
  refine (known.beginExternalTransferCustody custody.marker custody.boot).relax
    fun result view _ held => ?_
  cases result with
  | ok _ => exact held
  | error error => exact refused error view held

/-- A structured helper that a lane does not care about. -/
theorem Spectator.runStructuredHelper (known : Spectator lane entry margin pid P)
    (custody : margin.Custody) {operation : HelperOperation} (external : Bool)
    (opens : margin.ops .openAttempt) (evidence : margin.ops (.system .attemptEvidence))
    (spawn : margin.ops (.spawnHelper operation)) (wait : margin.ops (.waitHelper operation)) :
    Steady (lane.discipline entry) policy pid P (runStructuredHelper operation external) := by
  have waits {kind : String} :
      Steady (lane.discipline entry) policy pid P (waitHelper kind operation) := by
    refine .bind (.attempt (known.outsideAsk spawn)) fun started => ?_
    cases started with
    | error _ => exact .pure
    | ok _ =>
        refine .bind (.attempt (known.outsideAsk wait)) fun status => ?_
        cases status <;> exact .pure
  have prepares : Steady (lane.discipline entry) policy pid P prepareAttempt :=
    .bind (known.outsideAsk opens) fun _ => .bind (known.readFile _) fun _ =>
      .bind (known.outsideAsk evidence) fun _ => .pure
  refine withExternalTransferCustody_spec custody external known (fun _ => known)
    (fun _ _ held => held) (fun _ _ _ held => held) ?_
  refine Spec.handle (Q := fun _ => P) prepares fun prepared => ?_
  cases prepared with
  | error _ => exact Steady.pure
  | ok retained =>
      refine Steady.bind waits fun answer => ?_
      cases answer with
      | error _ => exact Steady.pure
      | ok status =>
          have records : Steady (lane.discipline entry) policy pid P
              (recordAttempt retained status) :=
            .bind (known.outsideAsk evidence) fun _ => .branch (known.outsideAsk evidence) .throw
          refine Spec.handle (Q := fun _ => P) records fun receipt => ?_
          cases receipt <;> exact Steady.pure

namespace Spectator

theorem activateRequest (known : Spectator lane entry margin pid P)
    (request : margin.ops .deliveryRequest) :
    Steady (lane.discipline entry) policy pid P activateRequest := by
  refine .bind (known.outsideAsk request) fun answer => ?_
  cases answer with
  | ok _ => exact .pure
  | error _ => exact .throw

theorem requireSettledActivation (known : Spectator lane entry margin pid P) :
    Steady (lane.discipline entry) policy pid P requireSettledActivation := by
  refine .bind known.activationTransferState fun state => ?_
  obtain ⟨mode, outcome⟩ := state
  cases outcome <;> first | exact .pure | exact .throw

theorem observedDeliveryMode (known : Spectator lane entry margin pid P) :
    Steady (lane.discipline entry) policy pid P observedDeliveryMode :=
  .bind known.activationTransferState fun _ =>
    .branch (.bind known.requireSettledActivation fun _ => .pure) .pure

end Spectator

end AgentBash
