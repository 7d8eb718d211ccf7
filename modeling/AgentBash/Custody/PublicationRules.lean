import AgentBash.Custody.Rules

/-!
# Publication scripts beside a lane's concern

The scripts of `Custody.Publication` and `Custody.Recovery` that take no lock, for any lane that
leaves the files they write free.
-/

namespace AgentBash

set_option autoImplicit false

open Durable

namespace SourceCustody

variable {γ Entry α : Type} {lane : Lane custodyLayout custodyOutside γ}
  {entry : Entry → Program (requests custodyLayout custodyOutside)}
  {policy : System.Policy (system custodyLayout custodyOutside entry)} {pid : Nat}
  {P : CustodyDisk × γ → Prop} {files : SourceFile → Prop}

namespace Calm

variable [Codec] {site : Site} (calm : Calm lane entry files pid P)
include calm

section Hashing

omit [Codec] in
theorem newHasher : Steady (lane.discipline entry) policy pid P newHasher :=
  .bind (Bystander.read calm _) fun _ => .pure

theorem finishHash {hasher : OutputHasher} :
    Steady (lane.discipline entry) policy pid P (finishHash hasher) :=
  .branch (.bind (Bystander.read calm _) fun _ => .branch .pure fail_steady) fail_steady

omit [Codec] in
theorem readBuffer : Keeping.Steady (lane.discipline entry) policy pid P readBuffer := by
  apply Keeping.Steady.bind .now
  intro hasher
  apply Keeping.Steady.bind (.lift (calm.ask (.readOutput hasher.count) trivial))
  intro (chunk : Bytes)
  apply Keeping.Steady.branch .pure
  apply Keeping.Steady.branch _ .throw
  apply Keeping.Steady.bind .modify
  intro _
  exact .branch .throw (.bind .modify fun _ => .pure)

theorem readQuantum (fuel quantum : Nat) :
    Keeping.Steady (lane.discipline entry) policy pid P (readQuantum fuel quantum) := by
  induction fuel generalizing quantum with
  | zero => exact .pure
  | succ fuel ih =>
      apply Keeping.Steady.branch .pure
      apply Keeping.Steady.bind calm.readBuffer
      intro length
      apply Keeping.Steady.branch
      · exact .bind .now fun _ => .bind (.lift calm.finishHash) fun _ => .pure
      · exact ih _

theorem hashAll (fuel : Nat) : Keeping.Steady (lane.discipline entry) policy pid P (hashAll fuel) := by
  induction fuel with
  | zero => exact .throw
  | succ fuel ih =>
      apply Keeping.Steady.bind (calm.readQuantum _ _)
      intro found
      cases found with
      | some descriptor => exact .pure
      | none => exact ih

theorem wholeOutput : Steady (lane.discipline entry) policy pid P wholeOutput :=
  .bind calm.newHasher fun _ => .bind ((calm.hashAll _).run _) fun _ => .ofExcept

omit [Codec] in
theorem hasherOf {progress : Publication} :
    Steady (lane.discipline entry) policy pid P (hasherOf progress) := by
  unfold SourceCustody.hasherOf
  split
  · exact .pure
  · exact calm.newHasher

theorem advanceDescriptor : Keeping.Steady (lane.discipline entry) policy pid P advanceDescriptor := by
  apply Keeping.Steady.bind .now
  intro progress
  split
  · exact .pure
  · apply Keeping.Steady.bind (.lift calm.hasherOf)
    intro hasher
    apply Keeping.Steady.bind (.lift ((calm.readQuantum _ _).run hasher))
    rintro ⟨answer, hasher⟩
    apply Keeping.Steady.bind .modify
    intro _
    cases answer with
    | error error => exact .throw
    | ok found =>
        cases found with
        | none => exact .pure
        | some descriptor => exact .bind .modify fun _ => .pure

end Hashing

section Files

theorem finishSnapshot (outcome : files .outcome) (snapshot : files .snapshot) :
    Steady (lane.discipline entry) policy pid P (finishSnapshot site) :=
  .bind (calm.value .sourceBundle) fun _ => .bind required_steady fun _ =>
    .bind required_steady fun _ => .bind calm.binding_steady fun _ => .bind .ofExcept fun _ =>
      .bind .ofExcept fun _ => .branch
        (.bind (calm.immutable outcome) fun _ => calm.immutable snapshot) fail_steady

theorem finishObservationWithOutput {descriptor : Value} (bundle : files .sourceBundle)
    (outcome : files .outcome) (snapshot : files .snapshot) : Steady (lane.discipline entry) policy
      pid P (finishObservationWithOutput site descriptor) :=
  .bind (calm.value .observation) fun _ => .bind calm.binding_steady fun _ =>
    .bind .ofExcept fun _ => .bind .ofExcept fun _ => .branch
      (.bind (calm.immutable bundle) fun _ => calm.finishSnapshot outcome snapshot) fail_steady

omit [Codec] in
theorem freeze (output : files .output) : Steady (lane.discipline entry) policy pid P freeze := by
  apply Steady.bind (calm.tryExists .output)
  intro (there : Bool)
  apply Steady.branch .pure
  apply Steady.bind (calm.tryExists .missingOutput)
  intro (missing : Bool)
  apply Steady.branch fail_steady
  exact .bind (calm.ask .capture trivial) fun _ => .bind (Bystander.create calm output) fun _ =>
    calm.sync

theorem attestLoss {staged : Value} {observer : CallerChainEntry} (missing : files .missingOutput) :
    Steady (lane.discipline entry) policy pid P (attestLoss staged observer) := by
  apply Steady.bind (calm.ask (.processIdentityEvidence observer) trivial)
  intro (evidence : ProcessIdentityEvidence)
  apply Steady.branch _ .pure
  apply Steady.bind (calm.value .selection)
  intro _
  apply Steady.bind (calm.tryExists .output)
  intro (there : Bool)
  apply Steady.branch .pure
  apply Steady.bind (calm.ask .loss trivial)
  intro (inventory : Option LossInventory)
  unfold attestFound
  split
  · exact .pure
  · next found =>
      apply Steady.bind calm.sync
      intro _
      apply Steady.bind (calm.ask .identity trivial)
      intro (producer : CallerChainEntry)
      exact .bind (calm.immutable missing) fun _ => .pure

theorem observeMissing (missing : files .missingOutput) :
    Steady (lane.discipline entry) policy pid P observeMissing := by
  apply Steady.bind (calm.tryExists .missingOutput)
  intro (there : Bool)
  apply Steady.branch
  · exact .bind (calm.value .missingOutput) fun _ => .pure
  · apply Steady.bind (calm.value .observation)
    intro staged
    split
    · exact .pure
    · exact calm.attestLoss missing

theorem restoreSelectedEvent (observation : files .observation) :
    Steady (lane.discipline entry) policy pid P (restoreSelectedEvent site) :=
  .bind (calm.value .selection) fun _ => .bind required_steady fun _ =>
    .bind calm.binding_steady fun _ => .bind .ofExcept fun _ => .bind .ofExcept fun _ =>
      calm.immutable observation

omit [Codec] in
theorem recordMissingOutput (error : files .publicationError) :
    Steady (lane.discipline entry) policy pid P recordMissingOutput :=
  calm.save error

theorem recoverHoldingCapture (output : files .output) (captureError : files .captureError)
    (publicationError : files .publicationError) (missing : files .missingOutput)
    (bundle : files .sourceBundle) (outcome : files .outcome) (snapshot : files .snapshot) :
    Steady (lane.discipline entry) policy pid P (recoverHoldingCapture site) := by
  apply Steady.bind (.attempt (calm.freeze output))
  intro result
  cases result with
  | ok _ => exact .pure
  | error captured =>
      apply Steady.bind (calm.save captureError)
      intro _
      apply Steady.bind (calm.recordMissingOutput publicationError)
      intro _
      apply Steady.bind (calm.observeMissing missing)
      intro found
      cases found with
      | none => exact .pure
      | some proof =>
          exact .bind (calm.finishObservationWithOutput bundle outcome snapshot) fun _ => .pure

theorem answerSource {identity : Value} :
    Steady (lane.discipline entry) policy pid P (answerSource identity) := by
  apply Steady.bind (calm.tryExists .snapshot)
  intro (there : Bool)
  exact .branch (.bind (calm.value .snapshot) fun _ => .bind (calm.value .outcome) fun _ =>
    .bind required_steady fun _ => .pure) .pure

end Files

end Calm

end SourceCustody

end AgentBash
