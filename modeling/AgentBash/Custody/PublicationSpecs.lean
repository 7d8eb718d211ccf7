import AgentBash.Custody.PublicationLane

/-!
# What the publication scripts do

One specification for each script that publishes something of a source. What a script has read of
the chronicle stands for good, so that everything it publishes follows.
-/

namespace AgentBash

set_option autoImplicit false

open Durable

namespace SourceCustody

/-- A directory as its publication is seen: nothing is carried along. -/
abbrev Sight := CustodyDisk × Unit

abbrev Seen := Body → Records custodyLayout → Prop

variable [Codec] {site : Site} {policy : System.Policy (custodySystem site)} {pid : Nat}
  {P : Sight → Prop} {record : SourceMeta} {observation : SourceObservation} {α : Type}

abbrev publishDiscipline (site : Site) : Discipline (custodySystem site) Unit :=
  publications.discipline (CustodyEntry.program site)

abbrev PublishFrame (site : Site) (pid : Nat) (P : Sight → Prop) : Prop :=
  publications.Frame (CustodyEntry.program site) pid P

theorem frame_free (frame : PublishFrame site pid P) :
    Bystander publications.lane (CustodyEntry.program site) besidePublication (fun _ => True) pid P :=
  unpublished.bystander frame.local_

theorem frame_calm (frame : PublishFrame site pid P) :
    Calm publications.lane (CustodyEntry.program site) besidePublication pid P where
  stable := frame.stable
  writes := (frame_free frame).writes
  asks _ := (frame_free frame).asks trivial

section Chronicled

/-- A published file, for good. -/
abbrev stood (file : SourceFile) (content : file.Content) : Seen :=
  publishing.stands (E := custodyOutside) file content

theorem stood_frame {file : SourceFile} {content : file.Content} (frame : PublishFrame site pid P) :
    PublishFrame site pid fun view => P view ∧ publications.Knows (stood file content) view :=
  frame.and Chronicle.stands_lasting.frame

theorem learns {file : SourceFile} (frame : PublishFrame site pid P)
    (logged : chronicled file = true) :
    Spec (publishDiscipline site) policy pid P (value file)
      (byResult (fun content view => P view ∧ publications.Knows (stood file content) view)
        fun _ => P) :=
  Chronicle.learns_rule frame logged

theorem publishes {file : SourceFile} {content : file.Content} (frame : PublishFrame site pid P)
    (logged : chronicled file = true)
    (follows : ∀ view, P view → Follows (publications.value view) (publications.notes view) file
      content) :
    Steady (publishDiscipline site) policy pid P (immutable file content) := by
  apply Spec.relax (Chronicle.publishes_rule frame logged follows)
  intro result view _ holds
  cases result with
  | ok _ => exact holds.1
  | error _ => exact holds

variable (frame : PublishFrame site pid P)
include frame

theorem finishSnapshot_publishes :
    Steady (publishDiscipline site) policy pid P (finishSnapshot site) := by
  apply Spec.bind (learns frame rfl)
  · intro (bundle : SourceBundle)
    have frame' : PublishFrame site pid fun view =>
        P view ∧ publications.Knows (stood .sourceBundle bundle) view := stood_frame frame
    have calm := frame_calm frame'
    have steady : Steady (publishDiscipline site) policy pid
        (fun view => P view ∧ publications.Knows (stood .sourceBundle bundle) view)
        (finishBundle site bundle) := by
      apply Steady.bind required_steady
      intro snapshot
      apply Steady.bind required_steady
      intro outcome
      apply Steady.bind calm.binding_steady
      intro bound
      apply Steady.bind .ofExcept
      intro _
      apply Steady.bind .ofExcept
      intro _
      apply Steady.branch _ fail_steady
      apply Steady.bind
      · exact publishes frame' rfl fun view holds => ⟨bundle, holds.2, rfl⟩
      · exact fun _ => publishes frame' rfl fun view holds => ⟨bundle, holds.2, rfl⟩
    exact steady.relax fun _ _ _ holds => holds.1
  · exact fun _ _ _ holds => holds

/-- A bundle is made of the header that stands and of what describes the output. -/
theorem finishObservationWithOutput_publishes {descriptor : Value}
    (describes : ∀ view, P view → Describes (publications.value view) descriptor) :
    Steady (publishDiscipline site) policy pid P (finishObservationWithOutput site descriptor) := by
  apply Spec.bind (learns frame rfl)
  · intro (staged : Value)
    have frame' : PublishFrame site pid fun view =>
        P view ∧ publications.Knows (stood .observation staged) view := stood_frame frame
    have calm := frame_calm frame'
    have steady : Steady (publishDiscipline site) policy pid
        (fun view => P view ∧ publications.Knows (stood .observation staged) view)
        (finishStaged site staged descriptor) := by
      apply Steady.bind calm.binding_steady
      intro bound
      apply Steady.bind .ofExcept
      intro _
      apply Steady.bind .ofExcept
      intro _
      apply Steady.branch _ fail_steady
      apply Steady.bind
      · exact publishes frame' rfl fun view holds =>
          ⟨staged, descriptor, holds.2, describes view holds.1, rfl⟩
      · exact fun _ => finishSnapshot_publishes frame'
    exact steady.relax fun _ _ _ holds => holds.1
  · exact fun _ _ _ holds => holds

theorem restoreSelectedEvent_publishes :
    Steady (publishDiscipline site) policy pid P (restoreSelectedEvent site) := by
  apply Spec.bind (learns frame rfl)
  · intro (selection : Value)
    have frame' : PublishFrame site pid fun view =>
        P view ∧ publications.Knows (stood .selection selection) view := stood_frame frame
    have calm := frame_calm frame'
    apply Steady.learns required_spec
    · intro staged there
      have steady : Steady (publishDiscipline site) policy pid
          (fun view => P view ∧ publications.Knows (stood .selection selection) view)
          (restoreStaged site staged) := by
        apply Steady.bind calm.binding_steady
        intro bound
        apply Steady.bind .ofExcept
        intro _
        apply Steady.bind .ofExcept
        intro _
        exact publishes frame' rfl fun view holds => ⟨selection, holds.2, there⟩
      exact steady.relax fun _ _ _ holds => holds.1
    · exact fun _ _ _ holds => holds.1
  · exact fun _ _ _ holds => holds

theorem selectEventOutput_publishes {staged : Value} {outputTrusted : Bool} :
    Steady (publishDiscipline site) policy pid P (selectEventOutput staged outputTrusted) := by
  have calm := frame_calm frame
  apply Steady.bind calm.enabled
  intro (there : Bool)
  apply Steady.branch _ .pure
  apply Steady.bind (calm.tryExists .selection)
  intro (selected : Bool)
  apply Steady.branch .pure
  apply Steady.bind (calm.ask .directoryMetadata trivial)
  intro (directory : Nat × Nat)
  apply Steady.learns calm.selectionBase
  · exact fun _ _ => publishes frame rfl fun _ _ => trivial
  · exact fun _ _ _ holds => holds

theorem selectObservedEvent_publishes :
    Steady (publishDiscipline site) policy pid P (selectObservedEvent site record observation) := by
  have calm := frame_calm frame
  have free : besidePublication .sourceCancellation := trivial
  apply Steady.bind calm.enabled
  intro (there : Bool)
  apply Steady.branch _ .pure
  apply Steady.bind (calm.tryExists .observation)
  intro (observed : Bool)
  apply Steady.branch .pure
  apply Steady.bind (calm.tryExists .selection)
  intro (selected : Bool)
  apply Steady.branch .pure
  apply Steady.learns (calm.observedEvent free)
  · exact fun _ _ => selectEventOutput_publishes frame
  · exact fun _ _ _ holds => holds

theorem retainEvent_publishes :
    Steady (publishDiscipline site) policy pid P (retainEvent site record observation) := by
  have calm := frame_calm frame
  apply Steady.bind (selectObservedEvent_publishes frame)
  intro _
  apply Steady.bind (calm.tryExists .observation)
  intro (there : Bool)
  exact .branch .pure (restoreSelectedEvent_publishes frame)

end Chronicled

end SourceCustody

end AgentBash
