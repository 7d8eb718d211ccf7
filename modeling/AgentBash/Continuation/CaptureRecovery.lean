import AgentBash.Continuation.CaptureFreeze

/-!
# Adjudicating a loss

The missing-output observation under the lease that the failed capture ran under, and the
programs of a source directory as a whole: each of them may be started at any time, and each of
them leaves the lease behind.
-/

namespace AgentBash

set_option autoImplicit false

open Durable SourceStorage

namespace Continuation

variable [Unbroken] {original : Bytes} {selection : Selection} {pid : Nat} {C : View → Prop}
  {policy : System.Policy sourceSystem} {P : SourceStorage → Prop}

section Inventory

theorem inventoryOf_spec (lasting : Lasting original P) (names : List SourceName) :
    Spec (discipline original) policy pid (Owning pid P) (MissingOutput.inventoryOf names)
      (byResult (fun entries view => entries.map Prod.fst = names ∧ Owning pid P view)
        fun _ => Owning pid P) := by
  induction names with
  | nil => exact .pure fun _ _ owning => ⟨rfl, owning⟩
  | cons name rest ih =>
      have asks : Quiet (.symlinkMetadata name) := trivial
      refine Steady.before (quiet_steady asks lasting) (fun found => ?_) fun _ _ _ owning => owning
      refine .branch (fun _ => .throw fun _ _ owning => owning) fun _ => ?_
      refine Spec.bind ih (fun entries => ?_) fun _ _ _ owning => owning
      refine .assume fun same => .pure fun _ _ owning => ⟨?_, owning⟩
      rw [List.map_cons, same]

/-- What the inventory does not list is not there. -/
theorem inventory_spec (lasting : Lasting original P) :
    Spec (discipline original) policy pid (Owning pid P) MissingOutput.inventory
      (byResult (fun entries => Owning pid fun s => P s ∧
          (.output ∉ entries.map Prod.fst → s.find .output = none))
        fun _ => Owning pid P) := by
  have asks : Quiet .readDir := trivial
  have listed : Spec (discipline original) policy pid (Owning pid P) readDir
      (byResult (fun names => Owning pid fun s => P s ∧ (.output ∉ names → s.find .output = none))
        fun _ => Owning pid P) := by
    refine (quiet_spec asks (owning_stable lasting)).relax ?_
    rintro (error | names) view _ ⟨owning, told⟩
    · exact owning
    · refine ⟨⟨owning.1.1, owning.1.2, fun unlisted => ?_⟩, owning.2⟩
      by_contra present
      exact unlisted (told .output present)
  refine Spec.bind listed (fun names => ?_) fun _ _ _ owning => owning
  have known : Lasting original fun s => P s ∧ (.output ∉ names → s.find .output = none) :=
    lasting.and (Lasting.imp (lasting_find rfl))
  refine (inventoryOf_spec known names).relax ?_
  rintro (error | entries) view _ owning
  · exact owning.imp fun _ holds => holds.1
  · obtain ⟨rfl, owning⟩ := owning
    exact owning

theorem blocked_spec (lasting : Lasting original P)
    (entries : List (SourceName × Metadata)) :
    Spec (discipline original) policy pid (Owning pid P) (MissingOutput.blocked selection entries)
      (byResult (fun stopped view => (stopped = false → .output ∉ entries.map Prod.fst) ∧
          Owning pid P view)
        fun _ => Owning pid P) := by
  induction entries with
  | nil => exact .pure fun _ _ owning => ⟨fun _ => List.not_mem_nil, owning⟩
  | cons entry rest ih =>
      obtain ⟨name, found⟩ := entry
      have passed (other : SourceName.output ≠ name) :
          Spec (discipline original) policy pid (Owning pid P) (MissingOutput.blocked selection rest)
            (byResult (fun stopped view => (stopped = false →
                .output ∉ ((name, found) :: rest).map Prod.fst) ∧ Owning pid P view)
              fun _ => Owning pid P) := by
        refine ih.relax ?_
        rintro (error | stopped) view _ held
        · exact held
        · refine ⟨fun free listed => ?_, held.2⟩
          rcases List.mem_cons.mp listed with same | below
          · exact other same
          · exact held.1 free below
      have stops : Spec (discipline original) policy pid (Owning pid P) (pure true)
          (byResult (fun stopped view => (stopped = false →
              .output ∉ ((name, found) :: rest).map Prod.fst) ∧ Owning pid P view)
            fun _ => Owning pid P) :=
        .pure fun _ _ owning => ⟨(fun open_ => by cases open_), owning⟩
      cases name with
      | output => exact stops
      | stray => exact stops
      | body copy =>
          have short : Steady (discipline original) policy pid (Owning pid P)
              (inactiveShortCopy copy found selection) := by
            refine Spec.handle (receipt_steady lasting) fun record => ?_
            cases record with
            | error => exact Spec.pure fun _ _ owning => owning
            | ok => exact Spec.pure fun _ _ owning => owning
          refine Steady.before short (fun inactive => ?_) fun _ _ _ owning => owning
          exact .branch (fun _ => passed SourceName.noConfusion) fun _ => stops
      | _ => exact passed SourceName.noConfusion

end Inventory

section Observation

/-- The holder of the lease knows that no output is there. -/
abbrev Outputless (selection : Selection) (s : SourceStorage) : Prop :=
  Base selection s ∧ s.find .output = none

theorem lasting_outputless : Lasting original (Outputless selection) :=
  lasting_base.and (lasting_find rfl)

/-- The proof of a loss is published by a holder that found no output. -/
theorem Frame.outputless :
    Frame original .missingOutput pid (Holding pid (Outputless selection)) where
  stable := holding_stable lasting_outputless
  moved inv holds publishes := by
    obtain ⟨newest, base, absent⟩ := holds
    refine ⟨newest, ⟨?_, fun required => publishes.settled (base.settled required)⟩, ?_⟩
    · exact publishes.kept.selection.trans base.selection
    · exact (publishes.kept.leased rfl).trans absent
  holder _ _ holds := ⟨holds.1, holds.2.2⟩

theorem syncLoss_steady (lasting : Lasting original P) (found : MissingOutput.Loss)
    (entries : List (SourceName × Metadata)) :
    Steady (discipline original) policy pid (Owning pid P) (MissingOutput.syncLoss found entries) := by
  unfold MissingOutput.syncLoss
  split
  · unfold MissingOutput.syncShortSelection
    split
    · exact .throw
    · refine Steady.bind (quiet_steady (by exact trivial) lasting) fun file => ?_
      refine Steady.bind (quiet_steady (by exact trivial) lasting) fun _ => ?_
      refine Steady.bind (quiet_steady (by exact trivial) lasting) fun found => ?_
      exact .branch .pure .throw
  · exact .pure

theorem adjudicate_steady [Careful policy] {observer : CallerChainEntry} {staged : Staged} :
    Steady (discipline original) policy pid (Owning pid (Base selection))
      (do
        let entries ← MissingOutput.inventory
        if ← MissingOutput.blocked selection entries then pure none
        else
          match MissingOutput.loss selection entries with
          | none => pure none
          | some found => do
              MissingOutput.syncLoss found entries
              syncDirectory
              let producer ← sourceAsk .identity
              let proof : MissingOutput :=
                { reason := found.reason, producer, originalObserver := observer
                  completionRevision := staged.completionRevision
                  outcomeSha256 := staged.outcomeSha256
                  selected := found.selected, observedByteLen := found.observedByteLen }
              immutable .missingOutput (.missing proof)
              pure (some proof)) := by
  have base : ∀ {view}, Owning pid (Outputless selection) view → Owning pid (Base selection) view :=
    fun owning => owning.imp fun _ holds => holds.1
  refine Spec.bind (inventory_spec lasting_base) (fun entries => ?_) fun _ _ _ owning => owning
  have known : Lasting original fun s => Base selection s ∧
      (.output ∉ entries.map Prod.fst → s.find .output = none) :=
    lasting_base.and (Lasting.imp (lasting_find rfl))
  refine Spec.bind (blocked_spec known entries) (fun stopped => ?_)
    fun _ _ _ owning => owning.imp fun _ holds => holds.1
  refine .assume fun listed => ?_
  refine .branch (fun _ => .pure fun _ _ owning => owning.imp fun _ holds => holds.1) fun free => ?_
  rw [Bool.not_eq_true] at free
  refine Spec.strengthen (P := Owning pid (Outputless selection)) ?_ fun _ _ owning =>
    owning.imp fun _ holds => ⟨holds.1, holds.2 (listed free)⟩
  split
  · exact .pure fun _ _ => base
  · next found _ =>
    refine Steady.before (syncLoss_steady lasting_outputless found entries) (fun _ => ?_)
      fun _ _ _ => base
    refine Steady.before (quiet_steady (by exact trivial) lasting_outputless) (fun _ => ?_)
      fun _ _ _ => base
    refine Steady.before (quiet_steady (by exact trivial) lasting_outputless) (fun producer => ?_)
      fun _ _ _ => base
    refine Steady.before (immutable_steady Frame.outputless (by simp)) (fun _ => ?_)
      fun _ _ _ => base
    exact .pure fun _ _ => base

theorem observe_steady [Careful policy] :
    Steady (discipline original) policy pid (Owning pid (Base selection)) MissingOutput.observe := by
  refine Steady.bind (quiet_steady (by exact trivial) lasting_base) fun adjudicated => ?_
  refine Steady.branch ?_ ?_
  · refine Steady.bind (quiet_steady (by exact trivial) lasting_base) fun node => ?_
    cases node with
    | missing proof => exact Spec.pure fun _ _ owning => owning
    | _ => exact Spec.throw fun _ _ owning => owning
  refine Steady.bind (quiet_steady (by exact trivial) lasting_base) fun staged => ?_
  split
  · exact .pure
  · refine Steady.bind (quiet_steady (by exact trivial) lasting_base) fun evidence => ?_
    refine Steady.branch .pure ?_
    refine Spec.bind (readSelection_spec lasting_base fun _ base => base.selection) (fun answer => ?_)
      fun _ _ _ owning => owning
    refine .assume fun same => ?_
    subst same
    refine Steady.bind (quiet_steady (by exact trivial) lasting_base) fun same => ?_
    exact Steady.branch adjudicate_steady .pure

end Observation

section Programs

theorem quiet_tidied {op : SourceOp} (quiet : Quiet op)
    (stable : Stable (discipline original) pid C) :
    Steady (discipline original) policy pid (Tidied pid C) (sourceAsk op) :=
  (quiet_spec quiet (tidied_stable stable)).relax fun _ _ _ held => held.1

theorem finishSnapshot_steady [Careful policy] (stable : Stable (discipline original) pid C)
    (frame : ∀ document, document ≠ .missingOutput → Frame original document pid C) :
    Steady (discipline original) policy pid (Tidied pid C) finishSnapshot := by
  refine Steady.bind (quiet_tidied (by exact trivial) stable) fun node => ?_
  cases node with
  | bundle outcome snapshot =>
      refine Steady.bind (quiet_tidied (by exact trivial) stable) fun _ => ?_
      refine Steady.bind (immutable_steady (frame _ (by decide)) (by simp)) fun _ => ?_
      exact immutable_steady (frame _ (by decide)) (by simp)
  | _ => exact Spec.throw fun _ _ held => held

theorem finishObservation_steady [Careful policy] (stable : Stable (discipline original) pid C)
    (frame : ∀ document, document ≠ .missingOutput → Frame original document pid C) :
    Steady (discipline original) policy pid (Tidied pid C) finishObservationWithOutput := by
  refine Steady.bind (quiet_tidied (by exact trivial) stable) fun rendered => ?_
  refine Steady.bind (immutable_steady (frame _ (by decide)) (by simp)) fun _ => ?_
  exact finishSnapshot_steady stable frame

theorem recoverLeased_steady [Careful policy] :
    Steady (discipline original) policy pid (Owning pid (Base selection)) recoverLeased := by
  refine Spec.handle freeze_spec fun frozen => ?_
  cases frozen with
  | ok => exact Spec.pure fun _ _ owning => owning
  | error error =>
      refine Steady.bind (quiet_steady (by exact trivial) lasting_base) fun _ => ?_
      refine Steady.bind (quiet_steady (by exact trivial) lasting_base) fun _ => ?_
      refine Steady.bind observe_steady fun adjudicated => ?_
      cases adjudicated with
      | none => exact Spec.pure fun _ _ owning => owning
      | some proof =>
          refine Steady.bind (finishObservation_steady (holding_stable lasting_base)
            fun _ => Frame.holding lasting_base) fun _ => ?_
          exact .pure

section Lease

/-- Whoever takes the lease finds nothing that waits for its publication. -/
theorem lock_spec :
    Spec (discipline original) policy pid (Idle pid) lock
      (byResult (fun locked => if locked then fun view => ∃ selection, Owning pid (Base selection) view
          else Idle pid)
        fun _ => Idle pid) := by
  refine Lane.tryLock idle_stable ?_ (fun _ _ idle => idle) fun _ _ _ _ idle => idle
  intro view sound inv idle live _ free
  have settled (required : Unbroken.required) : SourceStorage.Settled view.1.world :=
    (inv.settled required).resolve_right fun open_ => open_.1 free
  refine ⟨(), ?_, ⟨fun _ _ => .refl _ _, .inr (.refl _), fun _ => id⟩, view.1.world.selection,
    ⟨Disk.newest_acquire, rfl, settled⟩, idle.2⟩
  refine ⟨inv.sane, ?_, inv.drawn, fun required => .inl (settled required), inv.tidy⟩
  rw [Disk.acquire_same]
  exact Nat.le_refl 1

theorem unlock_spec :
    Spec (discipline original) policy pid (Owning pid (Base selection)) unlock
      fun _ => Idle pid := by
  refine Lane.unlock (owning_stable lasting_base) ?_
  rintro view sound inv ⟨⟨newest, base⟩, tidy⟩ live _
  refine ⟨newest.edge, (), ?_, ⟨fun _ _ => .refl _ _, .inr (.refl _), fun _ => id⟩,
    ⟨live.1, Disk.not_mem_release sound⟩, tidy⟩
  refine ⟨inv.sane, ?_, inv.drawn, fun required => .inl (base.settled required), inv.tidy⟩
  rw [Disk.release_same]
  exact List.length_erase_le.trans inv.alone

/-- What runs under the lease gives it back, whatever became of it. -/
theorem leased_spec {α : Type} {script : SourceScript α}
    (steady : ∀ selection,
      Steady (discipline original) policy pid (Owning pid (Base selection)) script) :
    Spec (discipline original) policy pid
      (fun view => ∃ selection, Owning pid (Base selection) view)
      (do
        let result ← script.attempt
        unlock
        Io.ofExcept result)
      fun _ => Idle pid := by
  refine Spec.any fun selection => Spec.handle (steady selection) fun result => ?_
  exact Spec.bind unlock_spec (fun _ => .ofExcept fun _ _ idle => idle) fun _ _ _ idle => idle

end Lease

theorem freezeOutput_steady [Careful policy] :
    Steady (discipline original) policy pid (Idle pid) freezeOutput := by
  refine Spec.bind lock_spec (fun locked => ?_) fun _ _ _ idle => idle
  cases locked with
  | true => exact leased_spec fun _ => freeze_spec
  | false => exact Spec.throw fun _ _ idle => idle

theorem recoverOutput_steady [Careful policy] :
    Steady (discipline original) policy pid (Idle pid) recoverOutput := by
  refine Steady.bind (quiet_tidied (by exact trivial) free_stable) fun bundled => ?_
  refine Steady.branch ?_ ?_
  · refine Steady.bind (finishSnapshot_steady free_stable fun _ => Frame.free) fun _ => ?_
    exact .pure
  · refine Spec.bind lock_spec (fun locked => ?_) fun _ _ _ idle => idle
    cases locked with
    | true => exact leased_spec fun _ => recoverLeased_steady
    | false => exact Spec.pure fun _ _ idle => idle

end Programs

end Continuation

end AgentBash
