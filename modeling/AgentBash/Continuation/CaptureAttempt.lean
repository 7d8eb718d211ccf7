import AgentBash.Continuation.CaptureSpecs

/-!
# The attempts of a capture

The named attempt writes a copy and its receipts into the slot of the selection, links the copy
and drops the slot; the anonymous one links a node that never had another name. What a failed
attempt removes is never the last whole copy.
-/

namespace AgentBash

set_option autoImplicit false

open Durable SourceStorage

namespace Continuation

variable [Unbroken] {original : Bytes} {selection : Selection} {pid : Nat}
  {policy : System.Policy sourceSystem} {P : SourceStorage → Prop} {s : SourceStorage}
  {name : SourceName} {inode count file : Nat} {node : SourceNode} {record : CopyReceipt}
  {kept : Created}

/-- A node under the name that a receipt is written to. -/
structure Pending (file : Nat) (s : SourceStorage) : Prop where
  fresh : Private (some (.pending .slot)) file s
  free : Unreceipted file s

/-- The slot after its receipt was saved. -/
def Saved (original : Bytes) (selection : Selection) (inode count : Nat) (record : CopyReceipt)
    (s : SourceStorage) : Prop :=
  if record.complete then Sealed original selection inode s
  else Draft original selection (some (.body .slot)) inode count s

section Facts

omit [Unbroken] in
theorem body_leased : ∀ own, some (SourceName.body .slot) = some own → isLeased own = true :=
  leased_slot (.inr rfl)

theorem lasting_pending : Lasting original (Pending file) := by
  intro before after sane around pending
  refine ⟨lasting_private (fun own same => ?_) sane around pending.fresh,
    lasting_unreceipted sane around pending.free⟩
  cases same
  rfl

theorem lasting_saved : Lasting original (Saved original selection inode count record) := by
  intro before after sane around saved
  unfold Saved at saved ⊢
  split
  · next complete =>
    rw [if_pos complete] at saved
    exact lasting_sealed sane around saved
  · next incomplete =>
    rw [if_neg incomplete] at saved
    exact lasting_draft body_leased sane around saved

omit [Unbroken] in
theorem Pending.loose (pending : Pending file s) : Loose s file :=
  pending.fresh.loose pending.free nofun fun _ => nofun

omit [Unbroken] in
theorem Pending.idle (pending : Pending file s) {name : SourceName} (found : s.find name = some file) :
    ¬ s.Carries name file := by
  have same := pending.fresh.only name found
  cases same
  rintro (impossible | ⟨_, impossible⟩ | chosen)
  · cases impossible
  · cases impossible
  · exact pending.fresh.other chosen

omit [Unbroken] in
theorem Pending.write (pending : Pending file s) : Pending file (s.write file node) where
  fresh := ⟨pending.fresh.born, pending.fresh.other, pending.fresh.named, pending.fresh.only⟩
  free := pending.free.write pending.loose.receipt

theorem Draft.write {held : Option SourceName} (draft : Draft original selection held inode count s)
    (different : inode ≠ file) (receipt : ∀ copy, s.find (.receipt copy) ≠ some file) :
    Draft original selection held inode count (s.write file node) where
  copying := draft.copying.write different
  free := draft.free.write receipt
  base := ⟨draft.base.selection, fun required => (draft.base.settled required).write receipt⟩

theorem Draft.create {held : Option SourceName} (sane : Sane original s)
    (draft : Draft original selection held inode count s) (absent : s.find name = none)
    (own : isLeased name = true) (output : name ≠ .output) (receipt : ∀ copy, name ≠ .receipt copy) :
    Draft original selection held inode count (s.create name node) where
  copying := by
    refine draft.copying.create absent output fun same => ?_
    rw [same] at own
    cases own
  free := draft.free.create sane receipt
  base := ⟨draft.base.selection,
    fun required => (draft.base.settled required).create sane output receipt⟩

theorem Ready.draft (sane : Sane original s) (ready : Ready selection s) :
    Draft original selection (some (.body .slot)) s.next 0 (s.create (.body .slot) (.bytes [])) where
      copying := ⟨ready.vacant.create nofun nofun, .created sane, nodes_allocate_new⟩
      free := (Unreceipted.new sane).create sane fun _ => nofun
      base := ⟨ready.base.selection,
        fun required => (ready.base.settled required).create sane nofun fun _ => nofun⟩

end Facts

section Requests

theorem createFile_spec [Careful policy] {Q : Nat → SourceStorage → Prop}
    (own : isLeased name = true) (output : name ≠ .output) (receipt : ∀ copy, name ≠ .receipt copy)
    (lasting : Lasting original P) (base : ∀ s, P s → Base selection s)
    (created : ∀ s, Sane original s → P s → s.find name = none →
      Q s.next (s.create name (.bytes []))) :
    Spec (discipline original) policy pid (Owning pid P) (createFile name)
      (Gives pid selection Q) := by
  have asked : Spec (discipline original) policy pid (Owning pid P) (sourceAsk (.create name))
      fun result => Owning pid fun s => (∀ error, result = .error error → Base selection s) ∧
        ∀ file : Nat, result = .ok file → Q file s := by
    refine ask_spec policy lasting ?_
    intro s choice answer after sane holds _ _ act
    have settled : Unbroken.required → SourceStorage.Settled s ∨ Window s := fun required =>
      .inl ((base s holds).settled required)
    rcases act_cases act with ⟨error, -, -, rfl, rfl⟩ | performed
    · exact ⟨.same sane settled, fun _ _ => base _ holds, fun _ same => by cases same⟩
    · simp only [SourceStorage.perform] at performed
      split at performed <;> obtain ⟨rfl, rfl⟩ := Prod.mk.inj (Option.some.inj performed)
      · exact ⟨.same sane settled, fun _ _ => base _ holds, fun _ same => by cases same⟩
      · next absent =>
        refine ⟨.create sane (base s holds) absent (by simp) own output receipt,
          (fun _ same => by cases same), fun file same => ?_⟩
        cases same
        exact created s sane holds absent
  refine asked.relax ?_
  rintro (error | file) view _ owning
  · exact owning.imp fun _ holds => holds.1 error rfl
  · exact owning.imp fun _ holds => holds.2 file rfl

/-- A draft beside the file of its next receipt. -/
structure Recording (original : Bytes) (selection : Selection) (inode count file : Nat)
    (s : SourceStorage) : Prop where
  draft : Draft original selection (some (.body .slot)) inode count s
  pending : Pending file s
  different : inode ≠ file

theorem lasting_recording : Lasting original (Recording original selection inode count file) :=
  fun sane around recording =>
    ⟨lasting_draft body_leased sane around recording.draft,
      lasting_pending sane around recording.pending, recording.different⟩

theorem Recording.write (recording : Recording original selection inode count file s) :
    Recording original selection inode count file (s.write file node) :=
  ⟨recording.draft.write recording.different recording.pending.loose.receipt,
    recording.pending.write, recording.different⟩

theorem Recording.created (sane : Sane original s) (absent : s.find (.pending .slot) = none)
    (draft : Draft original selection (some (.body .slot)) inode count s) :
    Recording original selection inode count s.next (s.create (.pending .slot) (.bytes [])) where
  draft := draft.create sane absent rfl nofun fun _ => nofun
  pending := ⟨.created sane, (Unreceipted.new sane).create sane fun _ => nofun⟩
  different := Nat.ne_of_lt draft.copying.fresh.born

theorem lasting_written : Lasting original fun s =>
    Recording original selection inode count file s ∧ s.nodes file = node := by
  intro before after sane around holds
  have fresh := holds.1.pending.fresh
  exact ⟨lasting_recording sane around holds.1,
    (around.kept.nodes fresh.born fresh.other).trans holds.2⟩

theorem writeReceipt_spec [Careful policy] :
    Spec (discipline original) policy pid
      (Owning pid (Recording original selection inode count file))
      (sourceAsk (.write file (.copyReceipt record)))
      (Gives pid selection fun _ s => Recording original selection inode count file s ∧
        s.nodes file = .copyReceipt record) := by
  have asked : Spec (discipline original) policy pid
      (Owning pid (Recording original selection inode count file))
      (sourceAsk (.write file (.copyReceipt record))) fun result => Owning pid fun s =>
        Recording original selection inode count file s ∧
          (result = .ok () → s.nodes file = .copyReceipt record) := by
    refine ask_spec policy lasting_recording ?_
    intro s choice answer after sane recording _ _ act
    have base := recording.draft.base
    have writes {node : SourceNode} (plain : node ≠ .symlink) : Acts original s (s.write file node) :=
      .write sane base recording.pending.loose plain recording.pending.idle
    rcases act_cases act with ⟨error, -, -, rfl, rfl⟩ | performed
    · exact ⟨.same sane fun required => .inl (base.settled required), recording,
        fun same => by cases same⟩
    · cases choice <;> simp only [SourceStorage.perform, reduceCtorEq] at performed
      · obtain ⟨rfl, rfl⟩ := Prod.mk.inj (Option.some.inj performed)
        exact ⟨writes (by simp), recording.write, fun _ => nodes_write_same⟩
      · split at performed
        · obtain ⟨rfl, rfl⟩ := Prod.mk.inj (Option.some.inj performed)
          exact ⟨writes (by simp), recording.write, fun same => by cases same⟩
        · cases performed
  refine asked.relax ?_
  rintro (error | _) view _ owning
  · exact owning.imp fun _ holds => holds.1.draft.base
  · exact owning.imp fun _ holds => ⟨holds.1, holds.2 rfl⟩

/-- What a completed receipt may say. -/
def Fits (original : Bytes) (inode count : Nat) (record : CopyReceipt) : Prop :=
  record.complete = true → record.inode = inode ∧ count = original.length

theorem Recording.seals (recording : Recording original selection inode count file s)
    (written : s.nodes file = .copyReceipt record) (fits : Fits original inode count record) :
    Saved original selection inode count record (sealed s file) ∧
      (record.complete = false → Unbroken.required → SourceStorage.Settled (sealed s file)) := by
  obtain ⟨⟨copying, free, base⟩, pending, different⟩ := recording
  have copying' := copying.sealed different
  have settled : record.complete = false → Unbroken.required → SourceStorage.Settled (sealed s file) := by
    intro incomplete required
    refine ⟨fun _ copy named other found holds => ?_, fun output _ => ?_⟩
    · rcases find_of_sealed found with ⟨-, rfl⟩ | old
      · cases written.symm.trans holds
        exact incomplete
      · exact (base.settled required).unfinished copying.vacant.output old holds
    · cases copying'.vacant.output.symm.trans output
  refine ⟨?_, settled⟩
  unfold Saved
  split
  · next complete =>
    obtain ⟨same, rfl⟩ := fits complete
    refine ⟨copying', fun _ => ?_⟩
    refine ⟨inode, file, record, ?_, find_sealed_receipt, written, complete, same⟩
    exact copying'.fresh.named _ rfl
  · next incomplete =>
    rw [Bool.not_eq_true] at incomplete
    refine ⟨copying', free.sealed written fun complete => ?_, base.selection, settled incomplete⟩
    rw [incomplete] at complete
    cases complete

theorem renameReceipt_spec [Careful policy] (fits : Fits original inode count record) :
    Spec (discipline original) policy pid
      (Owning pid fun s => Recording original selection inode count file s ∧
        s.nodes file = .copyReceipt record)
      (sourceAsk (.rename (.pending .slot) (.receipt .slot)))
      (Gives pid selection fun _ => Saved original selection inode count record) := by
  have asked : Spec (discipline original) policy pid
      (Owning pid fun s => Recording original selection inode count file s ∧
        s.nodes file = .copyReceipt record)
      (sourceAsk (.rename (.pending .slot) (.receipt .slot))) fun result => Owning pid fun s =>
        (result = .ok () → Saved original selection inode count record s) ∧
          (∀ error, result = .error error → Base selection s) := by
    refine ask_spec policy lasting_written ?_
    rintro s choice answer after sane ⟨recording, written⟩ _ _ act
    have base := recording.draft.base
    rcases act_cases act with ⟨error, -, -, rfl, rfl⟩ | performed
    · exact ⟨.same sane fun required => .inl (base.settled required),
        (fun same => by cases same), fun _ _ => base⟩
    · simp only [SourceStorage.perform, recording.pending.fresh.named _ rfl] at performed
      obtain ⟨rfl, rfl⟩ := Prod.mk.inj (Option.some.inj performed)
      obtain ⟨saved, settled⟩ := recording.seals written fits
      refine ⟨.sealed sane recording.pending.fresh written (fun complete => ?_) fun required => ?_,
        fun _ => saved, fun _ same => by cases same⟩
      · obtain ⟨same, rfl⟩ := fits complete
        have copying := recording.draft.copying
        rw [same]
        refine ⟨copying.fresh.born, copying.fresh.other, ?_⟩
        rw [copying.content, List.take_length]
      · cases complete : record.complete with
        | false => exact .inl (settled complete required)
        | true =>
            unfold Saved at saved
            rw [if_pos complete] at saved
            exact .inr (saved.window required)
  refine asked.relax ?_
  rintro (error | _) view _ owning
  · exact owning.imp fun _ holds => holds.2 error rfl
  · exact owning.imp fun _ holds => holds.1 rfl

end Requests

section Sealing

theorem syncWindow_spec [Careful policy] (lasting : Lasting original P)
    (selected : ∀ s, P s → s.selection = selection)
    (window : ∀ s, P s → (Unbroken.required → SourceStorage.Settled s) ∨ (Unbroken.required → Window s)) :
    Spec (discipline original) policy pid (Owning pid P) syncDirectory
      (Gives pid selection fun _ => P) := by
  have asked : Spec (discipline original) policy pid (Owning pid P) (sourceAsk .syncDirectory)
      fun result => Owning pid fun s => P s ∧
        (∀ error, result = .error error → Base selection s) := by
    refine ask_spec policy lasting ?_
    intro s choice answer after sane holds settled critical act
    rcases act_cases act with ⟨error, rfl, -, rfl, rfl⟩ | performed
    · refine ⟨.same sane settled, holds, fun _ _ => ⟨selected _ holds, fun required => ?_⟩⟩
      rcases window _ holds with settled | open_
      · exact settled required
      · exact absurd rfl (critical required (open_ required) trivial error)
    · obtain ⟨rfl, rfl⟩ := Prod.mk.inj (Option.some.inj performed)
      exact ⟨.same sane settled, holds, nofun⟩
  refine asked.relax ?_
  rintro (error | _) view _ owning
  · exact owning.imp fun _ holds => holds.2 error rfl
  · exact owning.imp fun _ holds => holds.1

theorem linkSealed_spec [Careful policy] (chosen : selection.inode.isSome) :
    Spec (discipline original) policy pid (Owning pid (Sealed original selection inode))
      (hardLink (.body .slot) .output)
      (Gives pid selection fun _ s => s.selection = selection ∧ Linked inode s) := by
  have asked : Spec (discipline original) policy pid (Owning pid (Sealed original selection inode))
      (sourceAsk (.hardLink (.body .slot) .output)) fun result => Owning pid fun s =>
        s.selection = selection ∧ (result = .ok () → Linked inode s) ∧
          (∀ error, result = .error error → Base selection s) := by
    refine ask_spec policy lasting_sealed ?_
    intro s choice answer after sane sealed settled critical act
    have copying := sealed.copying
    have selected := copying.vacant.selection
    have named := copying.fresh.named _ rfl
    rcases act_cases act with ⟨error, rfl, -, rfl, rfl⟩ | performed
    · refine ⟨.same sane settled, selected, (fun same => by cases same),
        fun _ _ => ⟨selected, fun required => ?_⟩⟩
      exact absurd rfl (critical required (sealed.window required) trivial error)
    · simp only [SourceStorage.perform, named, copying.vacant.output] at performed
      obtain ⟨rfl, rfl⟩ := Prod.mk.inj (Option.some.inj performed)
      have window : Unbroken.required → Window (s.link .output inode) := fun required =>
        (sealed.window required).same (fun _ => rfl) (find_link_other (by simp)) (find_link_other (by simp))
      have whole : Whole original s inode := by
        refine ⟨copying.fresh.born, copying.fresh.other, ?_⟩
        rw [copying.content, List.take_length]
      refine ⟨.publish sane copying.vacant whole chosen (fun _ _ _ found => ?_) (fun _ found => ?_)
        fun required => .inr (window required), selected, fun _ => ?_, fun _ same => by cases same⟩
      · cases copying.fresh.only _ found
      · cases copying.fresh.only _ found
      · refine ⟨find_link_same, (find_link_other (by simp)).trans named, fun name found => ?_, window⟩
        rw [find_link] at found
        split at found
        · next same => exact .inl same
        · exact .inr (Option.some.inj (copying.fresh.only name found)).symm
  refine asked.relax ?_
  rintro (error | _) view _ owning
  · exact owning.imp fun _ holds => holds.2.2 error rfl
  · exact owning.imp fun _ holds => ⟨holds.1, holds.2.1 rfl⟩

theorem dropSlot_spec [Careful policy] :
    Spec (discipline original) policy pid
      (Owning pid fun s => s.selection = selection ∧ Linked inode s) (removeFile (.body .slot))
      fun _ => Owning pid (Base selection) := by
  refine ask_spec policy (lasting_selection.and lasting_linked) ?_
  rintro s choice answer after sane ⟨selected, linked⟩ settled critical act
  rcases act_cases act with ⟨error, rfl, -, rfl, rfl⟩ | performed
  · refine ⟨.same sane settled, selected, fun required => ?_⟩
    exact absurd rfl (critical required (linked.window required) trivial error)
  · simp only [SourceStorage.perform, linked.body] at performed
    obtain ⟨rfl, rfl⟩ := Prod.mk.inj (Option.some.inj performed)
    have output : (s.unlink (.body .slot)).find .output = some inode :=
      (find_unlink_other (by simp)).trans linked.output
    have single : SourceStorage.Settled (s.unlink (.body .slot)) := by
      refine ⟨fun none => ?_, fun {named name} found also => ?_⟩
      · cases output.symm.trans none
      · cases output.symm.trans found
        refine (linked.only name (find_of_find_unlink also)).resolve_right fun same => ?_
        rw [same, find_unlink_same] at also
        cases also
    refine ⟨⟨sane.unlink, fun pid => .unlink (fun _ _ => by simp), fun _ _ => ?_,
      fun _ => .inl single⟩, selected, fun _ => single⟩
    exact ⟨.output, inode, original, output, (sane.exact linked.output).1, List.prefix_rfl, .inl rfl⟩

end Sealing

section Attempts

def Slot (name : SourceName) : Prop :=
  name = .body .slot ∨ name = .pending .slot ∨ name = .receipt .slot

def Slots (created : Created) : Prop := ∀ entry ∈ created, Slot entry.1

/-- How a part of an attempt ends: only names of the slot were created. -/
def Leaves {α : Type} (pid : Nat) (selection : Selection) (Q : α → SourceStorage → Prop)
    (result : Except IoError α) (created : Created) (view : View) : Prop :=
  Slots created ∧ match result with
    | .ok value => Owning pid (Q value) view
    | .error _ => Owning pid (Base selection) view

variable {α β : Type} {Q : α → SourceStorage → Prop} {R : β → SourceStorage → Prop}

omit [Unbroken] in
theorem Slots.add (slots : Slots kept) (slot : Slot name) : Slots (kept ++ [(name, file)]) := by
  intro entry inside
  rcases List.mem_append.mp inside with old | new
  · exact slots entry old
  · rw [List.mem_singleton.mp new]
    exact slot

theorem lift_leaves {script : SourceScript α} (slots : Slots kept)
    (spec : Spec (discipline original) policy pid (Owning pid P) script
      (Gives pid selection Q)) :
    Keeping.Ends (discipline original) policy pid (Owning pid P) kept (Keeping.lift script)
      (Leaves pid selection Q) := by
  refine .lift (spec.relax ?_)
  rintro (error | value) view _ owning
  · exact ⟨slots, owning⟩
  · exact ⟨slots, owning⟩

theorem bind_leaves {script : Attempt.Attempted α} {rest : α → Attempt.Attempted β}
    (first : Keeping.Ends (discipline original) policy pid (Owning pid P) kept script
      (Leaves pid selection Q))
    (next : ∀ value kept, Slots kept → Keeping.Ends (discipline original) policy pid
      (Owning pid (Q value)) kept (rest value) (Leaves pid selection R)) :
    Keeping.Ends (discipline original) policy pid (Owning pid P) kept (script >>= rest)
      (Leaves pid selection R) := by
  refine .bind first (fun value kept => ?_) fun _ _ _ left => left
  exact Spec.assume fun slots => next value kept slots

theorem quiet_leaves {op : SourceOp} (quiet : Quiet op) (slots : Slots kept)
    (lasting : Lasting original P) (base : ∀ s, P s → Base selection s) :
    Keeping.Ends (discipline original) policy pid (Owning pid P) kept (Keeping.lift (sourceAsk op))
      (Leaves pid selection fun _ => P) := by
  refine lift_leaves slots ((quiet_steady quiet lasting).relax ?_)
  rintro (error | value) view _ owning
  · exact owning.imp base
  · exact owning

theorem create_leaves {Q : Nat → SourceStorage → Prop} (slots : Slots kept) (slot : Slot name)
    (creates : Spec (discipline original) policy pid (Owning pid P) (createFile name)
      (Gives pid selection Q))
    (lasting : ∀ file, Lasting original (Q file)) (base : ∀ file s, Q file s → Base selection s) :
    Keeping.Ends (discipline original) policy pid (Owning pid P) kept (Attempt.create name)
      (Leaves pid selection Q) := by
  refine bind_leaves (lift_leaves slots creates) fun file kept slots => ?_
  refine bind_leaves (quiet_leaves (by exact trivial) slots (lasting file) (base file)) ?_
  intro _ kept slots
  refine bind_leaves (Q := fun _ => Q file) ?_ fun _ kept slots => ?_
  · exact .modify fun _ _ owning => ⟨slots.add slot, owning⟩
  · exact .pure fun _ _ owning => ⟨slots, owning⟩

theorem Saved.base (saved : Saved original selection inode count record s)
    (incomplete : record.complete = false) :
    Draft original selection (some (.body .slot)) inode count s := by
  unfold Saved at saved
  rw [incomplete] at saved
  exact saved

theorem saveReceipt_leaves [Careful policy] (slots : Slots kept)
    (fits : Fits original inode count record) :
    Keeping.Ends (discipline original) policy pid
      (Owning pid (Draft original selection (some (.body .slot)) inode count)) kept
      (Attempt.saveReceipt record)
      (Leaves pid selection fun _ => Saved original selection inode count record) := by
  have creates : Spec (discipline original) policy pid
      (Owning pid (Draft original selection (some (.body .slot)) inode count))
      (createFile (.pending .slot))
      (Gives pid selection (Recording original selection inode count)) :=
    createFile_spec rfl nofun (fun _ => nofun) (lasting_draft body_leased) (fun _ draft => draft.base)
      fun _ sane draft absent => .created sane absent draft
  refine bind_leaves (create_leaves slots (.inr (.inl rfl)) creates (fun _ => lasting_recording)
    fun _ _ recording => recording.draft.base) fun file kept slots => ?_
  refine bind_leaves (lift_leaves slots writeReceipt_spec) fun _ kept slots => ?_
  refine bind_leaves (quiet_leaves (by exact trivial) slots lasting_written
    fun _ holds => holds.1.draft.base) fun _ kept slots => ?_
  refine bind_leaves (lift_leaves slots (renameReceipt_spec fits)) fun _ kept slots => ?_
  refine bind_leaves (Q := fun _ => Saved original selection inode count record) ?_ ?_
  · refine .modify fun _ _ owning => ⟨Slots.add ?_ (.inr (.inr rfl)), owning⟩
    exact fun entry inside => slots entry ((List.dropLast_sublist _).subset inside)
  · intro _ kept slots
    refine lift_leaves slots (syncWindow_spec lasting_saved (fun s saved => ?_) fun s saved => ?_)
    · unfold Saved at saved
      split at saved
      · exact saved.copying.vacant.selection
      · exact saved.base.selection
    · unfold Saved at saved
      split at saved
      · exact .inr saved.window
      · exact .inl saved.base.settled

/-- The named attempt ends with its copy published, or with nothing that waits for it. -/
theorem capture_leaves [Careful policy] {source : Nat} (slots : Slots kept)
    (chosen : selection.inode = some source) :
    Keeping.Ends (discipline original) policy pid (Owning pid (Ready selection)) kept
      (Attempt.capture source original.length selection)
      (Leaves pid selection fun _ s => s.selection = selection ∧ ∃ inode, Linked inode s) := by
  have base : ∀ s, Ready selection s → Base selection s := fun _ ready => ready.base
  have retained : Spec (discipline original) policy pid (Owning pid (Ready selection))
      Attempt.retained
      (Gives pid selection fun _ => Ready selection) := by
    refine Steady.before (quiet_steady (by exact trivial) lasting_ready) (fun _ => ?_)
      fun _ _ _ owning => owning.imp base
    refine .branch (fun _ => .pure fun _ _ owning => owning) fun _ => ?_
    refine (quiet_steady (by exact trivial) lasting_ready).relax ?_
    rintro (error | value) view _ owning
    · exact owning.imp base
    · exact owning
  refine bind_leaves (lift_leaves slots retained) fun _ kept slots => ?_
  refine .branch (fun _ => .throw fun _ _ owning => ⟨slots, owning.imp base⟩) fun _ => ?_
  have creates : Spec (discipline original) policy pid (Owning pid (Ready selection))
      (createFile (.body .slot))
      (Gives pid selection fun file => Draft original selection (some (.body .slot)) file 0) :=
    createFile_spec rfl nofun (fun _ => nofun) lasting_ready base fun _ sane ready _ => ready.draft sane
  refine bind_leaves (create_leaves slots (.inl rfl) creates (fun _ => lasting_draft body_leased)
    fun _ _ draft => draft.base) fun file kept slots => ?_
  have found : Spec (discipline original) policy pid
      (Owning pid (Draft original selection (some (.body .slot)) file 0)) (metadata file)
      (Gives pid selection fun found s => found.inode = file ∧
        Draft original selection (some (.body .slot)) file 0 s) := by
    have asks : Quiet (.metadata file) := trivial
    refine (quiet_spec asks (owning_stable (lasting_draft body_leased))).relax ?_
    rintro (error | found) view _ ⟨owning, told⟩
    · exact owning.imp fun _ draft => draft.base
    · refine owning.imp fun s draft => ⟨?_, draft⟩
      rw [show found = view.1.world.metadata file from told]
      rfl
  refine bind_leaves (lift_leaves slots found) fun found kept slots => ?_
  refine Spec.strengthen (Spec.assume fun same => ?_) fun _ _ owning => owning.split
  refine bind_leaves (quiet_leaves (by exact trivial) slots (lasting_draft body_leased)
    fun _ draft => draft.base) fun writer kept slots => ?_
  refine bind_leaves (saveReceipt_leaves slots nofun) fun _ kept slots => ?_
  have copies : Spec (discipline original) policy pid
      (Owning pid (Saved original selection file 0
        { inode := found.inode, selection, byteLen := original.length, writer := some writer
          complete := false }))
      (copySelected source file original.length)
      (Gives pid selection fun _ =>
        Draft original selection (some (.body .slot)) file original.length) :=
    (copySelected_spec (.inr rfl) chosen).strengthen fun _ _ owning =>
      owning.imp fun _ saved => saved.base rfl
  refine bind_leaves (lift_leaves slots copies) fun _ kept slots => ?_
  refine bind_leaves (saveReceipt_leaves slots fun _ => ⟨same, rfl⟩) fun _ kept slots => ?_
  have selected : selection.inode.isSome := by
    rw [chosen]
    rfl
  have links : Spec (discipline original) policy pid
      (Owning pid (Saved original selection file original.length
        { inode := found.inode, selection, byteLen := original.length, writer := some writer
          complete := true }))
      (hardLink (.body .slot) .output)
      (Gives pid selection fun _ s => s.selection = selection ∧ Linked file s) :=
    (linkSealed_spec selected).strengthen fun _ _ owning => owning.imp fun _ saved => saved
  refine bind_leaves (lift_leaves slots links) fun _ kept slots => ?_
  have synced : Spec (discipline original) policy pid
      (Owning pid fun s => s.selection = selection ∧ Linked file s) syncDirectory
      (Gives pid selection fun _ s => s.selection = selection ∧ Linked file s) :=
    syncWindow_spec (lasting_selection.and lasting_linked) (fun _ holds => holds.1)
      fun _ holds => .inr holds.2.window
  refine lift_leaves slots (synced.relax ?_)
  rintro (error | _) view _ owning
  · exact owning
  · exact owning.imp fun _ holds => ⟨holds.1, file, holds.2⟩

end Attempts

section Cleanup

/-- What makes it safe to remove the copy of a slot: the log is there, or the copy is short. -/
def Disposable (original : Bytes) (s : SourceStorage) : Prop :=
  Aliased s ∨ ∀ inode, s.find (.body .slot) = some inode →
    (s.nodes inode).content.length < original.length

theorem lasting_disposable : Lasting original (Disposable original) := by
  intro before after sane around disposable
  refine disposable.imp (lasting_aliased sane around) fun short inode found => ?_
  rw [around.kept.leased rfl] at found
  rw [around.kept.nodes (sane.born found) (sane.apart rfl found)]
  exact short inode found

omit [Unbroken] in
theorem Slot.leased (slot : Slot name) : isLeased name = true ∧ isMade name = true ∧ name ≠ .output := by
  rcases slot with rfl | rfl | rfl
  · exact ⟨rfl, rfl, nofun⟩
  · exact ⟨rfl, rfl, nofun⟩
  · exact ⟨rfl, rfl, nofun⟩

theorem Disposable.unlink (sane : Sane original s) (disposable : Disposable original s)
    (slot : Slot name) : Disposable original (s.unlink name) := by
  rcases disposable with aliased | short
  · refine .inl fun anchored => ?_
    obtain ⟨pin, inode, chosen, found⟩ := aliased anchored
    refine ⟨pin, inode, chosen, (find_unlink_other fun same => ?_).trans found⟩
    exact sane.apart slot.leased.2.1 (same ▸ found) chosen
  · exact .inr fun inode found => short inode (find_of_find_unlink found)

theorem Disposable.survives (sane : Sane original s) (disposable : Disposable original s)
    (slot : Slot name) (anchored : Unbroken.anchored) (survives : Survives original s) :
    Survives original (s.unlink name) := by
  rcases disposable with aliased | short
  · obtain ⟨pin, inode, chosen, found⟩ := aliased anchored
    obtain ⟨_, content, holds, prefixes⟩ := sane.selected chosen
    have still : (s.unlink name).find pin = some inode := by
      refine (find_unlink_other fun same => ?_).trans found
      exact sane.apart slot.leased.2.1 (same ▸ found) chosen
    exact ⟨pin, inode, content, still, holds, prefixes, .inr (.inr chosen)⟩
  · obtain ⟨carrier, inode, content, found, holds, prefixes, carries⟩ := survives
    refine ⟨carrier, inode, content, (find_unlink_other fun same => ?_).trans found, holds, prefixes,
      carries⟩
    rw [same] at found carries
    by_cases body : name = .body .slot
    · rw [body] at found
      have shorter := short inode found
      have longer := prefixes.length_le
      rw [holds] at shorter
      exact absurd shorter (Nat.not_lt.mpr longer)
    · refine sane.carries_none slot.leased.2.1 slot.leased.2.2 (fun copy equal => ?_) found carries
      rcases slot with rfl | rfl | rfl
      · exact body rfl
      · cases equal
      · cases equal

/-- The copy of the slot is as long as it was found to be. -/
structure Measured (selection : Selection) (length : Nat) (s : SourceStorage) : Prop where
  base : Base selection s
  body : ∀ inode, s.find (.body .slot) = some inode → (s.nodes inode).content.length = length

theorem lasting_measured {length : Nat} : Lasting original (Measured selection length) := by
  intro before after sane around measured
  refine ⟨lasting_base sane around measured.base, fun inode present => ?_⟩
  rw [around.kept.leased rfl] at present
  rw [around.kept.nodes (sane.born present) (sane.apart rfl present)]
  exact measured.body inode present

/-- An attempt is thrown away only while the log or its brevity allow it. -/
theorem disposable_spec :
    Spec (discipline original) policy pid (Owning pid (Base selection))
      (Attempt.disposable selection)
      (Gives pid selection fun disposed s =>
        Base selection s ∧ (disposed = true → Disposable original s)) := by
  have keeps : ∀ {length view}, Owning pid (Measured selection length) view →
      Owning pid (fun s => Base selection s ∧ (false = true → Disposable original s)) view :=
    fun owning => owning.imp fun _ measured => ⟨measured.base, nofun⟩
  refine Spec.handle (symlinkMetadata_spec lasting_base) fun result => ?_
  cases result with
  | error => exact .pure fun _ _ owning => owning.imp fun _ base => ⟨base, nofun⟩
  | ok found =>
      have measured : ∀ view, (discipline original).Inv view → Owning pid (fun s =>
          Base selection s ∧ s.find (.body .slot) = some found.inode ∧
            found = s.metadata found.inode) view →
          Owning pid (Measured selection found.len) view := by
        refine fun view _ owning => owning.imp fun s holds => ⟨holds.1, fun inode present => ?_⟩
        obtain ⟨_, named, same⟩ := holds
        cases named.symm.trans present
        rw [same]
        rfl
      refine Spec.strengthen ?_ measured
      refine Spec.handle (receipt_steady lasting_measured) fun record => ?_
      refine .branch (fun _ => .pure fun _ _ => keeps) fun _ => ?_
      refine .branch (fun short => ?_) fun _ => ?_
      · refine .pure fun view inv owning => ⟨⟨owning.1.1, owning.1.2.base, fun _ => ?_⟩, owning.2⟩
        refine .inr fun inode present => ?_
        rw [owning.1.2.body inode present]
        cases length : selection.byteLen with
        | none =>
            rw [length] at short
            exact absurd short (Nat.not_lt_zero _)
        | some bytes =>
            rw [length] at short
            have selected := owning.1.2.base.selection
            rw [← inv.2.sane.length (selected ▸ length)]
            exact short
      · refine Spec.handle (selectedFile_spec lasting_measured fun _ holds => holds.base.selection) ?_
        intro file
        cases file with
        | error => exact .pure fun _ _ => keeps
        | ok file =>
            exact .pure fun _ _ owning => owning.2.imp fun _ holds =>
              ⟨holds.1.base, fun _ => .inl holds.2⟩

/-- A cleanup removes names of the slot only, and none that the selected bytes need. -/
theorem cleanup_spec [Careful policy] (created : Created) (slots : Slots created) :
    Steady (discipline original) policy pid
      (Owning pid fun s => Base selection s ∧ Disposable original s) (Attempt.cleanup created) := by
  have lasting : Lasting original fun s => Base selection s ∧ Disposable original s :=
    lasting_base.and lasting_disposable
  induction created with
  | nil => exact .pure
  | cons entry rest ih =>
      obtain ⟨name, inode⟩ := entry
      have slot : Slot name := slots (name, inode) List.mem_cons_self
      have again := ih fun entry inside => slots entry (List.mem_cons_of_mem _ inside)
      have found : Steady (discipline original) policy pid
          (Owning pid fun s => Base selection s ∧ Disposable original s)
          (sourceAsk (.symlinkMetadata name)) := quiet_steady trivial lasting
      refine Spec.handle found fun result => ?_
      cases result with
      | error => exact again
      | ok found =>
          refine .branch (fun _ => ?_) fun _ => again
          refine Spec.handle (Q := fun _ => Owning pid fun s =>
            Base selection s ∧ Disposable original s) ?_ fun _ => again
          refine ask_spec policy lasting ?_
          rintro s choice answer after sane ⟨base, disposable⟩ settled _ act
          rcases act_cases act with ⟨error, -, -, rfl, rfl⟩ | performed
          · exact ⟨.same sane settled, base, disposable⟩
          · simp only [SourceStorage.perform] at performed
            split at performed <;> obtain ⟨rfl, rfl⟩ := Prod.mk.inj (Option.some.inj performed)
            · exact ⟨.same sane settled, base, disposable⟩
            · have still (required : Unbroken.required) : SourceStorage.Settled (s.unlink name) :=
                (base.settled required).unlink slot.leased.2.2
              refine ⟨⟨sane.unlink, fun pid => .unlink ?_, disposable.survives sane slot,
                fun required => .inl (still required)⟩, ⟨base.selection, still⟩,
                disposable.unlink sane slot⟩
              rintro document serial rfl
              have impossible := slot.leased.1
              cases impossible

end Cleanup

end Continuation

end AgentBash
