import AgentBash.Continuation.CaptureAttempt

/-!
# Freezing the selected output

`freeze` with its two attempts: whatever it answers, the holder of the lease is left with a
directory in which nothing that was completed waits for its publication.
-/

namespace AgentBash

set_option autoImplicit false

open Durable SourceStorage

namespace Continuation

variable [Unbroken] {original : Bytes} {selection : Selection} {pid : Nat}
  {policy : System.Policy sourceSystem} {P : SourceStorage → Prop} {s : SourceStorage}
  {name : SourceName} {inode source : Nat}

/-- A made name that does not exist for `try_exists` is not there at all. -/
theorem tryExists_spec (own : isMade name = true) (lasting : Lasting original P) :
    Spec (discipline original) policy pid (Owning pid P) (tryExists name) fun result =>
      Owning pid fun s => P s ∧ (result = .ok false → s.find name = none) := by
  have asks : Quiet (.tryExists name) := trivial
  refine learn_spec asks lasting fun {s answer} sane holds told => ⟨holds, fun absent => ?_⟩
  subst absent
  cases found : s.find name with
  | none => rfl
  | some inode => exact absurd (told.2 rfl inode found) (sane.plain own found)

section Anonymous

theorem Ready.allocated (sane : Sane original s) (ready : Ready selection s) :
    Draft original selection none s.next 0 (s.allocate (.bytes [])) where
  copying := ⟨⟨ready.vacant.output, ready.vacant.proof, ready.vacant.selection⟩, .allocated sane,
    nodes_allocate_new⟩
  free := (Unreceipted.new sane).allocate sane
  base := ⟨ready.base.selection, fun required => (ready.base.settled required).allocate sane⟩

theorem createAnonymous_spec [Careful policy] :
    Spec (discipline original) policy pid (Owning pid (Ready selection)) (sourceAsk .createAnonymous)
      (Gives pid selection fun file : Nat => Draft original selection none file 0) := by
  have asked : Spec (discipline original) policy pid (Owning pid (Ready selection))
      (sourceAsk .createAnonymous) fun result => Owning pid fun s => Base selection s ∧
        ∀ file : Nat, result = .ok file → Draft original selection none file 0 s := by
    refine ask_spec policy lasting_ready ?_
    intro s choice answer after sane ready _ _ act
    have base := ready.base
    rcases act_cases act with ⟨error, -, -, rfl, rfl⟩ | performed
    · exact ⟨.same sane fun required => .inl (base.settled required), base,
        fun _ same => by cases same⟩
    · obtain ⟨rfl, rfl⟩ := Prod.mk.inj (Option.some.inj performed)
      have draft := ready.allocated sane
      refine ⟨.allocate sane base, draft.base, fun file same => ?_⟩
      cases same
      exact draft
  refine asked.relax ?_
  rintro (error | file) view _ owning
  · exact owning.imp fun _ holds => holds.1
  · exact owning.imp fun _ holds => holds.2 file rfl

/-- A node without a name is published under the one name of the output. -/
theorem linkAnonymous_spec [Careful policy] (chosen : selection.inode.isSome) :
    Spec (discipline original) policy pid
      (Owning pid (Draft original selection none inode original.length))
      (sourceAsk (.linkAnonymous inode .output)) fun _ => Owning pid (Base selection) := by
  refine ask_spec policy (lasting_draft (leased_slot (.inl rfl))) ?_
  intro s choice answer after sane draft _ _ act
  have copying := draft.copying
  have unnamed : ∀ name, s.find name ≠ some inode := by
    intro name found
    cases copying.fresh.only name found
  rcases act_cases act with ⟨error, -, -, rfl, rfl⟩ | performed
  · exact ⟨.same sane fun required => .inl (draft.base.settled required), draft.base⟩
  · simp only [SourceStorage.perform, copying.vacant.output] at performed
    obtain ⟨rfl, rfl⟩ := Prod.mk.inj (Option.some.inj performed)
    have whole : Whole original s inode := by
      refine ⟨copying.fresh.born, copying.fresh.other, ?_⟩
      rw [copying.content, List.take_length]
    have settled : SourceStorage.Settled (s.link .output inode) := by
      refine ⟨fun none => ?_, fun {named name} found also => ?_⟩
      · rw [find_link_same] at none
        cases none
      · rw [find_link_same] at found
        cases found
        rw [find_link] at also
        split at also
        · next same => exact same
        · exact absurd also (unnamed name)
    exact ⟨.publish sane copying.vacant whole chosen (fun _ _ _ => unnamed _) (fun _ => unnamed _)
      fun _ => .inl settled, copying.vacant.selection, fun _ => settled⟩

theorem captureAnonymous_spec [Careful policy] (chosen : selection.inode = some source) :
    Spec (discipline original) policy pid (Owning pid (Ready selection))
      (captureAnonymous source original.length) fun _ => Owning pid (Base selection) := by
  have selected : selection.inode.isSome := by
    rw [chosen]
    rfl
  refine Spec.bind createAnonymous_spec (fun file => ?_) fun _ _ _ owning => owning
  refine Spec.bind (copySelected_spec (.inl rfl) chosen) (fun _ => ?_) fun _ _ _ owning => owning
  refine Spec.bind (linkAnonymous_spec selected) (fun _ => ?_) fun _ _ _ owning => owning
  exact quiet_steady (by exact trivial) lasting_base

end Anonymous

section Named

theorem conclude_spec [Careful policy] {created : Created} {published : Bool}
    (slots : Slots created) :
    Steady (discipline original) policy pid (Owning pid (Base selection))
      (conclude selection created published false) := by
  have weaker : ∀ {disposed : Bool} view, (discipline original).Inv view →
      Owning pid (fun s => Base selection s ∧ (disposed = true → Disposable original s)) view →
      Owning pid (Base selection) view := fun _ _ owning => Owning.imp (fun _ holds => holds.1) owning
  refine Spec.branch (fun _ => ?_) fun _ =>
    Spec.branch (fun done => absurd done Bool.false_ne_true) fun _ => Steady.pure
  refine Spec.bind disposable_spec (fun disposed => ?_) fun _ _ _ owning => owning
  refine .branch (fun whole => ?_) fun _ => .pure weaker
  have slots : Slots created.reverse := fun entry inside =>
    slots entry (List.mem_reverse.mp inside)
  have cleans : Steady (discipline original) policy pid
      (Owning pid fun s => Base selection s ∧ Disposable original s)
      (Attempt.cleanup created.reverse) := cleanup_spec created.reverse slots
  refine Spec.weaken cleans ?_ ?_
  · exact fun _ _ owning => Owning.imp (fun _ holds => ⟨holds.1, holds.2 whole⟩) owning
  · exact fun _ _ _ owning => Owning.imp (fun _ holds => holds.1) owning

/-- A copy that was linked is still there, and only the name of its slot goes. -/
theorem conclude_linked [Careful policy] {created : Created} {found : Except IoError Bool} :
    Spec (discipline original) policy pid
      (Owning pid fun s => (s.selection = selection ∧ ∃ inode, Linked inode s) ∧
        (found = .ok false → s.find .output = none))
      (conclude selection created (found.toOption.getD true) true)
      fun _ => Owning pid (Base selection) := by
  refine Spec.branch (fun gone => ?_) fun _ =>
    Spec.branch (fun _ => ?_) fun undone => absurd rfl undone
  · intro next view _ owning _
    obtain ⟨⟨-, inode, linked⟩, absent⟩ := owning.1.2
    have missed : found = .ok false := by
      rcases found with error | _ | _
      · cases gone
      · rfl
      · cases gone
    cases linked.output.symm.trans (absent missed)
  · have drops (inode : Nat) : Spec (discipline original) policy pid
        (Owning pid fun s => s.selection = selection ∧ Linked inode s)
        (removeFile (.body .slot)) fun _ => Owning pid (Base selection) := dropSlot_spec
    refine Spec.strengthen (Spec.any drops) ?_
    intro view _ owning
    obtain ⟨⟨same, inode, linked⟩, -⟩ := owning.1.2
    exact ⟨inode, ⟨owning.1.1, same, linked⟩, owning.2⟩

theorem captureNamed_spec [Careful policy] (chosen : selection.inode = some source) :
    Spec (discipline original) policy pid (Owning pid (Ready selection))
      (captureNamed source original.length selection) fun _ => Owning pid (Base selection) := by
  have none_ : Slots [] := fun _ inside => absurd inside List.not_mem_nil
  refine Spec.bind (capture_leaves none_ chosen) (fun ended => ?_) fun _ _ _ failed => failed.elim
  obtain ⟨result, created⟩ := ended
  refine Spec.assume fun slots => ?_
  cases result with
  | error error =>
      have asks : Quiet (.tryExists .output) := trivial
      refine Spec.handle (quiet_steady asks lasting_base) fun found => ?_
      exact Steady.bind (conclude_spec slots) fun _ => .ofExcept
  | ok done =>
      have linked : Lasting original fun s => s.selection = selection ∧ ∃ inode, Linked inode s := by
        rintro before after sane around ⟨same, inode, linked⟩
        exact ⟨lasting_selection sane around same, inode, lasting_linked sane around linked⟩
      refine Spec.handle (tryExists_spec rfl linked) fun found => ?_
      exact Spec.bind conclude_linked (fun _ => .ofExcept fun _ _ owning => owning)
        fun _ _ _ owning => owning

end Named

section Freezing

theorem readSelection_spec (lasting : Lasting original P)
    (selected : ∀ s, P s → s.selection = selection) :
    Spec (discipline original) policy pid (Owning pid P) readSelection
      (byResult (fun answer view => answer = selection ∧ Owning pid P view)
        fun _ => Owning pid P) := by
  have asks : Quiet .selection := trivial
  refine (quiet_spec asks (owning_stable lasting)).relax ?_
  rintro (error | answer) view _ ⟨owning, same⟩
  · exact owning
  · exact ⟨Eq.trans same (selected _ owning.1.2), owning⟩

theorem occupied_steady (lasting : Lasting original P) (names : List SourceName) :
    Steady (discipline original) policy pid (Owning pid P) (occupied names) := by
  induction names with
  | nil => exact .pure
  | cons name rest ih =>
      have asks : Quiet (.symlinkMetadata name) := trivial
      refine Spec.handle (quiet_steady asks lasting) fun result => ?_
      cases result with
      | ok => exact Spec.pure fun _ _ owning => owning
      | error error => exact Steady.branch ih .throw

theorem recoverCopy_spec [Careful policy] :
    Spec (discipline original) policy pid (Owning pid (Ready selection)) (recoverCopy selection)
      (byResult (fun recovered => if recovered then Owning pid (Base selection)
        else Owning pid (Ready selection)) fun _ => Owning pid (Base selection)) := by
  refine Steady.before (quiet_steady (by exact trivial) lasting_ready) (fun names => ?_)
    fun _ _ _ owning => owning.imp fun _ ready => ready.base
  refine (recoverFrom_spec names).relax ?_
  rintro (error | _ | _) view _ owning
  · exact owning
  · exact owning
  · exact owning

/-- The capture proper, once the directory was found to be the selected one. -/
theorem freeze_ready [Careful policy] :
    Spec (discipline original) policy pid (Owning pid (Ready selection))
      (do
        if ← recoverCopy selection then pure ()
        else do
          let source ← selectedFile selection
          match selection.byteLen with
          | none => Io.throw (.other "missing selected boundary")
          | some length =>
              if ← occupiedSlot then captureAnonymous source length
              else captureNamed source length selection)
      fun _ => Owning pid (Base selection) := by
  have base : ∀ view, (discipline original).Inv view → Owning pid (Ready selection) view →
      Owning pid (Base selection) view := fun _ _ owning => owning.imp fun _ ready => ready.base
  refine Spec.bind recoverCopy_spec (fun recovered => ?_) fun _ _ _ owning => owning
  cases recovered with
  | true => exact .pure fun _ _ owning => owning
  | false =>
      refine Spec.bind (selectedFile_spec lasting_ready fun _ ready => ready.vacant.selection)
        (fun source => ?_) fun _ => base
      refine Spec.assume fun chosen => ?_
      refine Spec.strengthen ?_ fun view _ owning => owning.imp fun _ holds => holds.1
      cases bounded : selection.byteLen with
      | none => exact .throw base
      | some length =>
          have whole : ∀ view, (discipline original).Inv view →
              Owning pid (Ready selection) view →
              length = original.length ∧ Owning pid (Ready selection) view := by
            intro view inv owning
            refine ⟨inv.2.sane.length ?_, owning⟩
            rw [owning.1.2.base.selection]
            exact bounded
          refine Spec.strengthen (Spec.assume fun same => ?_) whole
          subst same
          refine Steady.before (occupied_steady lasting_ready _) (fun taken => ?_) fun _ => base
          exact .branch (fun _ => captureAnonymous_spec chosen) fun _ => captureNamed_spec chosen

/-- Whatever a capture answers, nothing that was completed is left to wait for it. -/
theorem freeze_spec [Careful policy] :
    Steady (discipline original) policy pid (Owning pid (Base selection)) freeze := by
  have vacant : Lasting original fun s => Base selection s ∧ s.find .output = none :=
    lasting_base.and (lasting_find rfl)
  refine Spec.bind (tryExists_spec rfl lasting_base) (fun found => ?_)
    fun _ _ _ owning => owning.imp fun _ holds => holds.1
  refine .branch (fun _ => .pure fun _ _ owning => owning.imp fun _ holds => holds.1) fun absent => ?_
  rw [Bool.not_eq_true] at absent
  subst absent
  refine Spec.strengthen ?_ fun view _ owning => owning.imp fun _ holds =>
    And.intro holds.1 (holds.2 rfl)
  refine Spec.bind (tryExists_spec rfl vacant) (fun found => ?_)
    fun _ _ _ owning => owning.imp fun _ holds => holds.1.1
  refine .branch (fun _ => .throw fun _ _ owning => owning.imp fun _ holds => holds.1.1) fun absent => ?_
  rw [Bool.not_eq_true] at absent
  subst absent
  refine Spec.strengthen (P := Owning pid (Ready selection)) ?_ fun view _ owning =>
    owning.imp fun _ holds => ⟨⟨holds.1.2, holds.2 rfl, holds.1.1.selection⟩, holds.1.1⟩
  refine Spec.bind (readSelection_spec lasting_ready fun _ ready => ready.vacant.selection)
    (fun answer => ?_) fun _ _ _ owning => owning.imp fun _ ready => ready.base
  refine Spec.assume fun same => ?_
  subst same
  refine Steady.before (quiet_steady (by exact trivial) lasting_ready) (fun same => ?_)
    fun _ _ _ owning => owning.imp fun _ ready => ready.base
  exact .branch (fun _ => freeze_ready) fun _ =>
    .throw fun _ _ owning => owning.imp fun _ ready => ready.base

end Freezing

end Continuation

end AgentBash
