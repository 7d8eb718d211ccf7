import AgentBash.Continuation.CaptureSteps
import AgentBash.Continuation.Publication

/-!
# What capture and recovery do

One specification for each script that runs under the lease: the recovery of a completed copy,
the search for the selected log, the named and the anonymous attempt, the cleanup of an attempt
that failed, and the adjudication of a loss.
-/

namespace AgentBash

set_option autoImplicit false

open Durable SourceStorage

namespace Continuation

variable [Unbroken] {original : Bytes} {selection : Selection} {pid : Nat}
  {policy : System.Policy sourceSystem} {P Q : SourceStorage → Prop} {s after : SourceStorage}
  {name : SourceName} {inode count : Nat} {node : SourceNode}

/-- No completed copy waits for its publication. -/
structure Base (selection : Selection) (s : SourceStorage) : Prop where
  selection : s.selection = selection
  settled : Unbroken.required → SourceStorage.Settled s

/-- A part of a capture ends with a value and what it is good for, or it fails. -/
def Gives {α : Type} (pid : Nat) (selection : Selection) (Q : α → SourceStorage → Prop) :
    Except IoError α → View → Prop
  | .ok value => Owning pid (Q value)
  | .error _ => Owning pid (Base selection)

/-- A copy of the first bytes that no completed receipt names. -/
structure Draft (original : Bytes) (selection : Selection) (name : Option SourceName)
    (inode count : Nat) (s : SourceStorage) : Prop where
  copying : Copying original selection name inode count s
  free : Unreceipted inode s
  base : Base selection s

/-- A whole copy under its name, with its completed receipt. -/
structure Sealed (original : Bytes) (selection : Selection) (inode : Nat) (s : SourceStorage) :
    Prop where
  copying : Copying original selection (some (.body .slot)) inode original.length s
  window : Unbroken.required → Window s

/-- The copy is published and still has the name it was written under. -/
structure Linked (inode : Nat) (s : SourceStorage) : Prop where
  output : s.find .output = some inode
  body : s.find (.body .slot) = some inode
  only : ∀ name, s.find name = some inode → name = .output ∨ name = .body .slot
  window : Unbroken.required → Window s

section Lasting

theorem lasting_base : Lasting original (Base selection) := fun sane around base =>
  ⟨lasting_selection sane around base.selection,
    fun required => lasting_settled sane around (base.settled required)⟩

theorem lasting_draft {held : Option SourceName} (own : ∀ own, held = some own → isLeased own = true) :
    Lasting original (Draft original selection held inode count) := fun sane around draft =>
  ⟨lasting_copying own sane around draft.copying, lasting_unreceipted sane around draft.free,
    lasting_base sane around draft.base⟩

theorem lasting_sealed : Lasting original (Sealed original selection inode) := by
  intro before after sane around sealed
  have own : ∀ own, some (SourceName.body .slot) = some own → isLeased own = true := by
    intro own same
    cases same
    rfl
  exact ⟨lasting_copying own sane around sealed.copying,
    fun required => lasting_window sane around (sealed.window required)⟩

theorem lasting_linked : Lasting original (Linked inode) := by
  intro before after sane around linked
  refine ⟨?_, ?_, fun name found => ?_, fun required => ?_⟩
  · exact (around.kept.leased rfl).trans linked.output
  · exact (around.kept.leased rfl).trans linked.body
  · exact linked.only name (around.kept.names rfl linked.output found)
  · exact lasting_window sane around (linked.window required)

end Lasting

section Acts

theorem Acts.same (sane : Sane original s) (settled : Unbroken.required → SourceStorage.Settled s ∨ Window s) :
    Acts original s s :=
  ⟨sane, fun _ => .refl _ s, fun _ => id, settled⟩

theorem Acts.create (sane : Sane original s) (base : Base selection s)
    (absent : s.find name = none) (plain : node ≠ .symlink) (own : isLeased name = true) (output : name ≠ .output)
    (receipt : ∀ copy, name ≠ .receipt copy) : Acts original s (s.create name node) where
  sane := by
    refine sane.create (fun _ => plain) output (fun same => ?_) receipt
    rw [same] at own
    cases own
  mine pid := by
    refine .create sane fun _ _ same => ?_
    rw [same] at own
    cases own
  survives _ survives := survives.create sane absent
  settled required := .inl ((base.settled required).create sane output receipt)

theorem Acts.allocate (sane : Sane original s) (base : Base selection s) :
    Acts original s (s.allocate node) where
  sane := sane.allocate
  mine _ := .allocate
  survives _ survives := survives.allocate sane
  settled required := .inl ((base.settled required).allocate sane)

theorem Acts.write (sane : Sane original s) (base : Base selection s) (loose : Loose s inode)
    (plain : node ≠ .symlink) (idle : ∀ {name}, s.find name = some inode → ¬ s.Carries name inode) :
    Acts original s (s.write inode node) where
  sane := sane.write loose plain
  mine _ := .write
  survives _ survives := survives.write idle
  settled required := .inl ((base.settled required).write loose.receipt)

theorem Acts.extend (sane : Sane original s) (base : Base selection s) (loose : Loose s inode)
    {more : Bytes} : Acts original s (s.extend inode more) where
  sane := sane.write loose nofun
  mine _ := .write
  survives _ survives := survives.extend
  settled required := .inl ((base.settled required).write loose.receipt)

/-- The receipt is private until it takes its place, and names a whole copy if it says so. -/
theorem Acts.sealed {file : Nat} {record : CopyReceipt} (sane : Sane original s)
    (fresh : Private (some (.pending .slot)) file s) (written : s.nodes file = .copyReceipt record)
    (whole : record.complete = true → Whole original s record.inode)
    (settled : Unbroken.required → SourceStorage.Settled (sealed s file) ∨ Window (sealed s file)) :
    Acts original s (sealed s file) where
  sane := by
    refine Sane.unlink (sane.link
      { born := fresh.born, other := fresh.other, plain := ?_, output := nofun, proof := nofun
        receipt := ?_, staged := ?_, published := ?_, temp := nofun, document := nofun })
    · intro _
      rw [written]
      exact nofun
    · intro copy other _ holds complete
      cases written.symm.trans holds
      exact whole complete
    · intro _ _ _ found
      cases fresh.only _ found
    · intro _ found
      cases fresh.only _ found
  mine pid := by
    have linked : Mine pid s (s.link (.receipt .slot) file) := by
      refine .link (fun _ _ => nofun) fun _ _ found => ?_
      cases fresh.only _ found
    exact linked.trans (.unlink fun _ _ => nofun)
  survives _ survives := by
    refine survives.same rfl rfl fun {name another} found carries => ?_
    have carried : name ≠ .receipt .slot ∧ name ≠ .pending .slot := by
      constructor
      · rintro rfl
        exact sane.carries_none (by rfl) (by exact nofun) (by exact nofun) found carries
      · rintro rfl
        exact sane.carries_none (by rfl) (by exact nofun) (by exact nofun) found carries
    exact (find_sealed carried.1 carried.2).trans found
  settled := settled

theorem Acts.publish (sane : Sane original s) (vacant : Vacant selection s)
    (whole : Whole original s inode) (chosen : selection.inode.isSome)
    (staged : ∀ document owner serial, s.find (.temp document owner serial) ≠ some inode)
    (published : ∀ document, s.find (.document document) ≠ some inode)
    (settled : Unbroken.required →
      SourceStorage.Settled (s.link .output inode) ∨ Window (s.link .output inode)) :
    Acts original s (s.link .output inode) where
  sane := by
    refine sane.link
      { born := whole.born, other := whole.other, plain := ?_, output := ?_, proof := nofun
        receipt := nofun, staged := ?_, published := ?_, temp := nofun, document := nofun }
    · intro _
      rw [whole.content]
      exact nofun
    · intro _
      refine ⟨whole, ?_, vacant.proof⟩
      rw [vacant.selection]
      exact chosen
    · exact fun found => absurd found (staged _ _ _)
    · exact fun found => published _ found
  mine pid := .link (fun _ _ => nofun) fun _ _ => staged _ _ _
  survives _ survives := survives.link vacant.output
  settled := settled

end Acts

section Reading

/-- A receipt that fits what was found under the name of its copy. -/
structure Receipted (copy : Copy) (found : Metadata) (selection : Selection) (record : CopyReceipt)
    (s : SourceStorage) : Prop where
  stored : ∃ named, s.find (.receipt copy) = some named ∧ s.nodes named = .copyReceipt record
  inode : record.inode = found.inode
  length : some record.byteLen = selection.byteLen
  selected : record.selection = selection

theorem receipt_spec (lasting : Lasting original P) {copy : Copy} {found : Metadata} :
    Spec (discipline original) policy pid (Owning pid P) (receipt copy found selection) fun
      | .ok record => Owning pid fun s => P s ∧ Receipted copy found selection record s
      | .error _ => Owning pid P := by
  have read : Spec (discipline original) policy pid (Owning pid P) (readNode (.receipt copy)) fun
      | .ok node => Owning pid fun s => P s ∧
          ∃ named, s.find (.receipt copy) = some named ∧ s.nodes named = node
      | .error _ => Owning pid P := by
    have reads : Quiet (.read (.receipt copy)) := trivial
    refine (quiet_spec reads (owning_stable lasting)).relax ?_
    rintro (error | node) view _ ⟨owning, told⟩
    · exact owning
    · exact ⟨⟨owning.1.1, owning.1.2, told⟩, owning.2⟩
  refine Spec.bind read (fun node => ?_) fun _ _ _ owning => owning
  have weaken : ∀ view, (discipline original).Inv view →
      Owning pid (fun s => P s ∧ ∃ named, s.find (.receipt copy) = some named ∧ s.nodes named = node)
        view → Owning pid P view := fun _ _ owning => owning.imp fun _ holds => holds.1
  cases node with
  | copyReceipt record =>
      refine .branch (fun checked => ?_) fun _ => .throw weaken
      simp only [Bool.and_eq_true, beq_iff_eq] at checked
      obtain ⟨⟨⟨-, same⟩, selected⟩, length⟩ := checked
      exact Spec.pure fun view _ owning =>
        owning.imp fun _ holds => ⟨holds.1, holds.2, same, length, selected⟩
  | _ => exact .throw weaken

theorem receipt_steady (lasting : Lasting original P) {copy : Copy} {found : Metadata} :
    Steady (discipline original) policy pid (Owning pid P) (receipt copy found selection) := by
  refine (receipt_spec lasting).relax ?_
  rintro (error | record) view _ owning
  · exact owning
  · exact owning.imp fun _ holds => holds.1

/-- The names that lead to a node are not changed by asking for its metadata. -/
theorem symlinkMetadata_spec (lasting : Lasting original P) :
    Spec (discipline original) policy pid (Owning pid P) (symlinkMetadata name) fun
      | .ok found => Owning pid fun s => P s ∧ s.find name = some found.inode ∧
          found = s.metadata found.inode
      | .error _ => Owning pid P := by
  have asks : Quiet (.symlinkMetadata name) := trivial
  refine (quiet_spec asks (owning_stable lasting)).relax ?_
  rintro (error | found) view _ ⟨owning, told⟩
  · exact owning
  · exact ⟨⟨owning.1.1, owning.1.2, told⟩, owning.2⟩

end Reading

section Recovery

/-- Before anything is published for the selection. -/
structure Ready (selection : Selection) (s : SourceStorage) : Prop where
  vacant : Vacant selection s
  base : Base selection s

/-- A completed copy under its name: one that only a broken publication leaves behind. -/
structure Completed (original : Bytes) (selection : Selection) (copy : Copy) (inode : Nat)
    (s : SourceStorage) : Prop where
  vacant : Vacant selection s
  named : s.find (.body copy) = some inode
  whole : Whole original s inode
  broken : ¬ Unbroken.required

variable {copy : Copy}

theorem lasting_ready : Lasting original (Ready selection) := fun sane around ready =>
  ⟨lasting_vacant sane around ready.vacant, lasting_base sane around ready.base⟩

theorem lasting_completed : Lasting original (Completed original selection copy inode) :=
  fun sane around completed =>
    ⟨lasting_vacant sane around completed.vacant, (around.kept.leased rfl).trans completed.named,
      lasting_whole sane around completed.whole, completed.broken⟩

/-- A completed receipt that fits the node found under its copy's name. -/
theorem Receipted.completed {found : Metadata} {record : CopyReceipt} (sane : Sane original s)
    (ready : Ready selection s) (named : s.find (.body copy) = some found.inode)
    (receipted : Receipted copy found selection record s) (complete : record.complete = true) :
    Completed original selection copy found.inode s := by
  obtain ⟨file, present, holds⟩ := receipted.stored
  have whole := sane.receipts present holds complete
  rw [receipted.inode] at whole
  refine ⟨ready.vacant, named, whole, fun required => ?_⟩
  have incomplete := (ready.base.settled required).unfinished ready.vacant.output present holds
  rw [complete] at incomplete
  cases incomplete

omit [Unbroken] in
theorem Receipted.chosen {found : Metadata} {record : CopyReceipt}
    (receipted : Receipted copy found selection record s) : selection.inode.isSome := by
  have length := receipted.length
  cases selection with
  | missing => cases length
  | pinned => rfl

theorem linkCompleted_spec [Careful policy] (chosen : selection.inode.isSome) :
    Spec (discipline original) policy pid (Owning pid (Completed original selection copy inode))
      (hardLink (.body copy) .output) fun _ => Owning pid (Base selection) := by
  refine ask_spec policy lasting_completed ?_
  intro s choice answer after sane completed settled _ act
  rcases act_cases act with ⟨error, -, -, rfl, rfl⟩ | performed
  · exact ⟨.same sane settled, completed.vacant.selection,
      fun required => absurd required completed.broken⟩
  · simp only [SourceStorage.perform, completed.named, completed.vacant.output] at performed
    obtain ⟨rfl, rfl⟩ := Prod.mk.inj (Option.some.inj performed)
    refine ⟨.publish sane completed.vacant completed.whole chosen ?_ ?_ ?_,
      completed.vacant.selection, fun required => absurd required completed.broken⟩
    · intro document owner serial found
      rcases sane.staged found completed.named with same | same <;> cases same
    · intro document found
      rcases sane.published found completed.named with same | ⟨_, _, same⟩ <;> cases same
    · exact fun required => absurd required completed.broken

theorem publishCopy_spec [Careful policy] {found : Metadata} (chosen : selection.inode.isSome) :
    Spec (discipline original) policy pid
      (Owning pid (Completed original selection copy found.inode))
      (publishCopy copy found selection) fun
      | .ok false => fun _ => False
      | _ => Owning pid (Base selection) := by
  have broken : ∀ view, (discipline original).Inv view →
      Owning pid (Completed original selection copy found.inode) view →
      Owning pid (Base selection) view :=
    fun _ _ owning => owning.imp fun _ completed =>
      ⟨completed.vacant.selection, fun required => absurd required completed.broken⟩
  refine Steady.before (quiet_steady (by exact trivial) lasting_completed) (fun file => ?_)
    fun _ => broken
  refine Steady.before (quiet_steady (by exact trivial) lasting_completed) (fun actual => ?_)
    fun _ => broken
  refine Steady.before (receipt_steady lasting_completed) (fun _ => ?_) fun _ => broken
  refine .branch (fun _ => .throw broken) fun _ => ?_
  refine Steady.before (quiet_steady (by exact trivial) lasting_completed) (fun _ => ?_)
    fun _ => broken
  refine Spec.bind (linkCompleted_spec chosen) (fun _ => ?_) fun _ _ _ owning => owning
  refine Spec.bind (quiet_steady (by exact trivial) lasting_base) (fun _ => ?_)
    fun _ _ _ owning => owning
  exact .pure fun _ _ owning => owning

/-- A recovery publishes one whole copy or leaves everything as it was. -/
theorem recoverFrom_spec [Careful policy] (names : List SourceName) :
    Spec (discipline original) policy pid (Owning pid (Ready selection))
      (recoverFrom selection names) fun
      | .ok false => Owning pid (Ready selection)
      | _ => Owning pid (Base selection) := by
  induction names with
  | nil => exact .pure fun _ _ owning => owning
  | cons name rest ih =>
      cases name with
      | body copy =>
          have named (found : Metadata) : Lasting original fun s =>
              Ready selection s ∧ s.find (.body copy) = some found.inode :=
            lasting_ready.and (lasting_find rfl)
          refine Spec.bind (symlinkMetadata_spec lasting_ready) (fun found => ?_)
            fun _ _ _ owning => owning.imp fun _ ready => ready.base
          refine Spec.strengthen ?_ fun view _ owning =>
            owning.imp fun _ holds => And.intro holds.1 holds.2.1
          refine Spec.handle (receipt_spec (named found)) fun result => ?_
          cases result with
          | error _ => exact ih.strengthen fun _ _ owning => owning.imp fun _ holds => holds.1
          | ok record =>
              refine .branch (fun _ => ?_) fun whole => ?_
              · exact ih.strengthen fun _ _ owning => owning.imp fun _ holds => holds.1.1
              · rw [Bool.or_eq_true, not_or] at whole
                have complete : record.complete = true := by simpa using whole.1
                refine Spec.weaken (Spec.assume fun chosen => publishCopy_spec chosen) ?_ ?_
                · rintro view inv ⟨⟨newest, ⟨ready, present⟩, receipted⟩, tidy⟩
                  exact ⟨receipted.chosen,
                    ⟨newest, receipted.completed inv.2.sane ready present complete⟩, tidy⟩
                · rintro (error | _ | _) view _ owning
                  · exact owning
                  · exact owning.elim
                  · exact owning
      | _ => exact ih

end Recovery

section Copies

theorem Owning.split {p : Prop} {view : View} (owning : Owning pid (fun s => p ∧ P s) view) :
    p ∧ Owning pid P view :=
  ⟨owning.1.2.1, owning.imp fun _ holds => holds.2⟩

theorem selectedAmong_spec (lasting : Lasting original P)
    (selected : ∀ s, P s → s.selection = selection) (length : Nat) (names : List SourceName) :
    Spec (discipline original) policy pid (Owning pid P) (selectedAmong selection length names) fun
      | .ok file => fun view =>
          selection.inode = some file ∧ Owning pid (fun s => P s ∧ Aliased s) view
      | .error _ => Owning pid P := by
  induction names with
  | nil => exact .throw fun _ _ owning => owning
  | cons name rest ih =>
      refine Spec.bind (symlinkMetadata_spec lasting) (fun found => ?_) fun _ _ _ owning => owning
      refine Spec.strengthen ?_ fun view _ owning => owning.imp fun _ holds => holds.1
      refine .branch (fun _ => ih) fun _ => ?_
      have opened : Spec (discipline original) policy pid (Owning pid P) (openFile name) fun
          | .ok file => Owning pid fun s => P s ∧ (selection.inode = some file → Aliased s)
          | .error _ => Owning pid P := by
        have opens : Quiet (.open_ name) := trivial
        refine (quiet_spec opens (owning_stable lasting)).relax ?_
        rintro (error | file) view _ ⟨owning, told⟩
        · exact owning
        · have holds := owning.1.2
          refine ⟨⟨owning.1.1, holds, fun chosen _ => ⟨name, file, ?_, told⟩⟩, owning.2⟩
          rw [selected _ holds]
          exact chosen
      refine Spec.bind opened (fun file => ?_) fun _ _ _ owning => owning
      have known : Lasting original fun s => P s ∧ (selection.inode = some file → Aliased s) :=
        lasting.and (Lasting.imp lasting_aliased)
      have actual : Spec (discipline original) policy pid
          (Owning pid fun s => P s ∧ (selection.inode = some file → Aliased s)) (metadata file) fun
          | .ok actual => Owning pid fun s => actual.inode = file ∧ P s ∧
              (selection.inode = some file → Aliased s)
          | .error _ => Owning pid P := by
        have asks : Quiet (.metadata file) := trivial
        refine (quiet_spec asks (owning_stable known)).relax ?_
        rintro (error | actual) view _ ⟨owning, told⟩
        · exact owning.imp fun _ holds => holds.1
        · refine owning.imp fun s holds => ⟨?_, holds⟩
          rw [show actual = view.1.world.metadata file from told]
          rfl
      refine Spec.bind actual (fun actual => ?_) fun _ _ _ owning => owning
      refine Spec.strengthen (Spec.assume fun same => ?_) fun _ _ owning => owning.split
      refine .branch (fun checked => ?_) fun _ => ?_
      · simp only [Bool.and_eq_true, beq_iff_eq] at checked
        have chosen : selection.inode = some file := same ▸ checked.1.2
        exact .pure fun _ _ owning =>
          ⟨chosen, owning.imp fun _ holds => ⟨holds.1, holds.2 chosen⟩⟩
      · exact ih.strengthen fun _ _ owning => owning.imp fun _ holds => holds.1

theorem selectedFile_spec (lasting : Lasting original P)
    (selected : ∀ s, P s → s.selection = selection) :
    Spec (discipline original) policy pid (Owning pid P) (selectedFile selection) fun
      | .ok file => fun view =>
          selection.inode = some file ∧ Owning pid (fun s => P s ∧ Aliased s) view
      | .error _ => Owning pid P := by
  unfold selectedFile
  split
  · exact .throw fun _ _ owning => owning
  · next length _ =>
    refine Steady.before (quiet_steady (by exact trivial) lasting) (fun _ => ?_)
      fun _ _ _ owning => owning
    refine .branch (fun _ => ?_) fun _ => .throw fun _ _ owning => owning
    refine Steady.before (quiet_steady (by exact trivial) lasting) (fun names => ?_)
      fun _ _ _ owning => owning
    exact selectedAmong_spec lasting selected length names

variable {held : Option SourceName} {source : Nat}

omit [Unbroken] in
theorem leased_slot (kind : held = none ∨ held = some (.body .slot)) :
    ∀ own, held = some own → isLeased own = true := by
  rintro own rfl
  rcases kind with impossible | same
  · cases impossible
  · cases same
    rfl

theorem Draft.loose (draft : Draft original selection held inode count s)
    (kind : held = none ∨ held = some (.body .slot)) : Loose s inode := by
  rcases kind with rfl | rfl
  · exact draft.copying.fresh.loose_unnamed draft.free
  · exact draft.copying.fresh.loose draft.free nofun fun _ => nofun

omit [Unbroken] in
/-- What is read from the selected node below the selected length is the selected bytes. -/
theorem chunk_selected {limit : Nat} (sane : Sane original s)
    (chosen : s.selection.inode = some source) (room : count + limit ≤ original.length) :
    s.chunk source count limit = (original.drop count).take limit := by
  obtain ⟨_, content, holds, more, rfl⟩ := sane.selected chosen
  have enough : limit ≤ (original.drop count).length := by
    rw [List.length_drop]
    omega
  rw [SourceStorage.chunk, holds]
  change ((original ++ more).drop count).take limit = _
  rw [List.drop_append_of_le_length (by omega), List.take_append_of_le_length enough]

theorem copyBytes_spec [Careful policy] {limit : Nat}
    (kind : held = none ∨ held = some (.body .slot)) (chosen : selection.inode = some source)
    (room : count + limit ≤ original.length) :
    Spec (discipline original) policy pid (Owning pid (Draft original selection held inode count))
      (copyBytes source inode count limit) (Gives pid selection fun copied s => copied = limit ∧
        Draft original selection held inode (count + limit) s) := by
  have asked : Spec (discipline original) policy pid
      (Owning pid (Draft original selection held inode count))
      (sourceAsk (.copy source inode count limit)) fun result => Owning pid fun s => Base selection s ∧
        ∀ copied : Nat, result = .ok copied → copied = limit ∧
          Draft original selection held inode (count + limit) s := by
    refine ask_spec policy (lasting_draft (leased_slot kind)) ?_
    intro s choice answer after sane draft _ _ act
    have loose := draft.loose kind
    have base {more : Bytes} : Base selection (s.extend inode more) :=
      ⟨draft.base.selection, fun required => (draft.base.settled required).write loose.receipt⟩
    have read : s.chunk source count limit = (original.drop count).take limit :=
      chunk_selected sane (by rw [draft.copying.vacant.selection]; exact chosen) room
    rcases act_cases act with ⟨error, -, -, rfl, rfl⟩ | performed
    · exact ⟨.same sane fun required => .inl (draft.base.settled required), draft.base, nofun⟩
    · cases choice <;> simp only [SourceStorage.perform, reduceCtorEq] at performed
      · obtain ⟨rfl, rfl⟩ := Prod.mk.inj (Option.some.inj performed)
        refine ⟨.extend sane draft.base loose, base, fun copied same => ?_⟩
        cases same
        rw [read]
        refine ⟨?_, draft.copying.extend, draft.free.write loose.receipt, base⟩
        rw [List.length_take, List.length_drop]
        omega
      · split at performed
        · obtain ⟨rfl, rfl⟩ := Prod.mk.inj (Option.some.inj performed)
          exact ⟨.extend sane draft.base loose, base, nofun⟩
        · cases performed
  refine asked.relax ?_
  rintro (error | copied) view _ owning
  · exact owning.imp fun _ holds => holds.1
  · exact owning.imp fun _ holds => holds.2 copied rfl

theorem copySelected_spec [Careful policy] (kind : held = none ∨ held = some (.body .slot))
    (chosen : selection.inode = some source) :
    Spec (discipline original) policy pid (Owning pid (Draft original selection held inode 0))
      (copySelected source inode original.length)
      (Gives pid selection fun _ => Draft original selection held inode original.length) := by
  refine Spec.bind (copyBytes_spec kind chosen (by omega)) (fun first => ?_)
    fun _ _ _ owning => owning
  refine Spec.strengthen (Spec.assume fun same => ?_) fun _ _ owning => owning.split
  subst same
  rw [Nat.zero_add]
  refine Spec.bind (copyBytes_spec kind chosen (by omega)) (fun rest => ?_)
    fun _ _ _ owning => owning
  refine Spec.strengthen (Spec.assume fun same => ?_) fun _ _ owning => owning.split
  subst same
  have all : min original.length 4096 + (original.length - min original.length 4096) =
      original.length := by omega
  rw [all]
  refine .branch (fun wrong => absurd rfl wrong) fun _ => ?_
  refine (quiet_steady (by exact trivial) (lasting_draft (leased_slot kind))).relax ?_
  rintro (error | _) view _ owning
  · exact owning.imp fun _ draft => draft.base
  · exact owning

end Copies

end Continuation

end AgentBash
