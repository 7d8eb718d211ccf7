import AgentBash.Continuation.CaptureLane

/-!
# The steps of a capture

What the holder of the lease knows while it copies, seals and publishes, and what its requests
do to the storage: a copy is private until it is linked, a completed receipt names a whole copy,
and whatever is linked as the output holds the selected bytes.
-/

namespace AgentBash

set_option autoImplicit false

open Durable SourceStorage

namespace Continuation

/-- Nothing has been published for the selection. -/
structure Vacant (selection : Selection) (s : SourceStorage) : Prop where
  output : s.find .output = none
  proof : s.find (.document .missingOutput) = none
  selection : s.selection = selection

/-- A node that the holder made, under the one name it gave it or under none. -/
structure Private (name : Option SourceName) (inode : Nat) (s : SourceStorage) : Prop where
  born : inode < s.next
  other : s.selection.inode ≠ some inode
  named : ∀ own, name = some own → s.find own = some inode
  only : ∀ other, s.find other = some inode → name = some other

/-- No completed receipt names the node. -/
def Unreceipted (inode : Nat) (s : SourceStorage) : Prop :=
  ∀ copy named record, s.find (.receipt copy) = some named →
    s.nodes named = .copyReceipt record → record.complete = true → record.inode ≠ inode

/-- A private copy of the first bytes of the selection. -/
structure Copying (original : Bytes) (selection : Selection) (name : Option SourceName)
    (inode count : Nat) (s : SourceStorage) : Prop where
  vacant : Vacant selection s
  fresh : Private name inode s
  content : s.nodes inode = .bytes (original.take count)

/-- An anchored log is still named in the directory. -/
def Aliased [Unbroken] (s : SourceStorage) : Prop :=
  Unbroken.anchored → ∃ name inode, s.selection.inode = some inode ∧ s.find name = some inode

section Lasting

variable [Unbroken] {original : Bytes} {selection : Selection} {name : Option SourceName} {inode count : Nat}

theorem lasting_selection : Lasting original fun s => s.selection = selection :=
  fun _ around holds => around.kept.selection.trans holds

theorem lasting_vacant : Lasting original (Vacant selection) := by
  intro before after sane around vacant
  refine ⟨?_, ?_, ?_⟩
  · exact (around.kept.leased rfl).trans vacant.output
  · exact around.proof.trans vacant.proof
  · exact around.kept.selection.trans vacant.selection

theorem lasting_private (own : ∀ own, name = some own → isLeased own = true) :
    Lasting original (Private name inode) := by
  intro before after sane around fresh
  refine ⟨Nat.lt_of_lt_of_le fresh.born around.kept.next, ?_, ?_, ?_⟩
  · rw [around.kept.selection]
    exact fresh.other
  · intro held same
    exact (around.kept.leased (own held same)).trans (fresh.named held same)
  · intro other found
    cases name with
    | none =>
        have unnamed : ∀ name, before.find name ≠ some inode := by
          intro name found
          have impossible := fresh.only name found
          cases impossible
        exact absurd found (around.kept.unnamed fresh.born unnamed other)
    | some held =>
        exact fresh.only other (around.kept.names (own held rfl) (fresh.named held rfl) found)

theorem lasting_copying (own : ∀ own, name = some own → isLeased own = true) :
    Lasting original (Copying original selection name inode count) := by
  intro before after sane around copying
  refine ⟨lasting_vacant sane around copying.vacant,
    lasting_private own sane around copying.fresh, ?_⟩
  exact (around.kept.nodes copying.fresh.born copying.fresh.other).trans copying.content

theorem lasting_unreceipted : Lasting original (Unreceipted inode) := by
  intro before after sane around free copy named record found holds
  obtain ⟨old, same⟩ := around.receipt sane found
  exact free copy named record old (same ▸ holds)

theorem lasting_aliased : Lasting original Aliased := by
  intro before after sane around aliased anchored
  obtain ⟨name, inode, chosen, found⟩ := aliased anchored
  refine ⟨name, inode, ?_, around.kept.aliases anchored chosen found⟩
  rw [around.kept.selection]
  exact chosen

end Lasting

section Storage

variable {original : Bytes} {selection : Selection} {name : SourceName} {inode count : Nat}
  {s : SourceStorage} {node : SourceNode} {file : Nat} {record : CopyReceipt}

theorem Private.loose (fresh : Private (some name) inode s) (free : Unreceipted inode s)
    (output : name ≠ .output) (receipt : ∀ copy, name ≠ .receipt copy) : Loose s inode where
  born := fresh.born
  other := fresh.other
  output found := output (Option.some.inj (fresh.only _ found))
  receipt copy found := receipt copy (Option.some.inj (fresh.only _ found))
  receipted := free _ _ _

theorem Private.loose_unnamed (fresh : Private none inode s) (free : Unreceipted inode s) :
    Loose s inode where
  born := fresh.born
  other := fresh.other
  output found := nomatch fresh.only _ found
  receipt _ found := nomatch fresh.only _ found
  receipted := free _ _ _

theorem Private.created (sane : Sane original s) :
    Private (some name) s.next (s.create name node) where
  born := Nat.lt_succ_self _
  other chosen := absurd (sane.selected chosen).1 (lt_irrefl _)
  named own same := by
    cases same
    exact find_link_same
  only other found := by
    rw [SourceStorage.create, find_link] at found
    split at found
    · next same => rw [same]
    · exact absurd found (fresh_next sane other)

theorem Private.allocated (sane : Sane original s) : Private none s.next (s.allocate node) where
  born := Nat.lt_succ_self _
  other chosen := absurd (sane.selected chosen).1 (lt_irrefl _)
  named _ same := nomatch same
  only other found := absurd found (fresh_next sane other)

theorem Unreceipted.new (sane : Sane original s) : Unreceipted s.next s :=
  fun _ _ _ found holds complete same =>
    absurd (same ▸ (sane.receipts found holds complete).born) (lt_irrefl _)

theorem Unreceipted.allocate (sane : Sane original s) (free : Unreceipted inode s) :
    Unreceipted inode (s.allocate node) := by
  intro copy named record found holds
  rw [nodes_allocate_old (sane.born found)] at holds
  exact free copy named record found holds

theorem Unreceipted.create (sane : Sane original s) (free : Unreceipted inode s)
    (receipt : ∀ copy, name ≠ .receipt copy) : Unreceipted inode (s.create name node) := by
  intro copy named record found
  rw [SourceStorage.create, find_link_other (receipt copy).symm] at found
  exact free.allocate sane copy named record found

theorem Unreceipted.write (free : Unreceipted inode s)
    (receipt : ∀ copy, s.find (.receipt copy) ≠ some file) : Unreceipted inode (s.write file node) := by
  intro copy named record found holds
  have different : named ≠ file := fun same => receipt copy (same ▸ found)
  rw [nodes_write_other different] at holds
  exact free copy named record found holds

theorem Vacant.create (vacant : Vacant selection s) (output : name ≠ .output)
    (proof : name ≠ .document .missingOutput) : Vacant selection (s.create name node) :=
  ⟨(find_link_other output.symm).trans vacant.output,
    (find_link_other proof.symm).trans vacant.proof, vacant.selection⟩

theorem Copying.create {held : Option SourceName}
    (copying : Copying original selection held inode count s) (absent : s.find name = none)
    (output : name ≠ .output) (proof : name ≠ .document .missingOutput) :
    Copying original selection held inode count (s.create name node) where
  vacant := copying.vacant.create output proof
  fresh := by
    have fresh := copying.fresh
    refine ⟨Nat.lt_succ_of_lt fresh.born, fresh.other, fun own same => ?_, fun other found => ?_⟩
    · have found := fresh.named own same
      refine (find_link_other fun equal => ?_).trans found
      rw [equal, absent] at found
      cases found
    · rw [SourceStorage.create, find_link] at found
      split at found
      · cases found
        exact absurd fresh.born (lt_irrefl _)
      · exact fresh.only other found
  content := (nodes_allocate_old copying.fresh.born).trans copying.content

theorem Copying.write {held : Option SourceName}
    (copying : Copying original selection held inode count s) (different : inode ≠ file) :
    Copying original selection held inode count (s.write file node) where
  vacant := ⟨copying.vacant.output, copying.vacant.proof, copying.vacant.selection⟩
  fresh := ⟨copying.fresh.born, copying.fresh.other, copying.fresh.named, copying.fresh.only⟩
  content := (nodes_write_other different).trans copying.content

theorem Copying.extend {held : Option SourceName} {more : Nat}
    (copying : Copying original selection held inode count s) :
    Copying original selection held inode (count + more)
      (s.extend inode ((original.drop count).take more)) where
  vacant := ⟨copying.vacant.output, copying.vacant.proof, copying.vacant.selection⟩
  fresh := ⟨copying.fresh.born, copying.fresh.other, copying.fresh.named, copying.fresh.only⟩
  content := by
    rw [SourceStorage.extend, nodes_write_same, copying.content, List.take_add]
    rfl

/-- The receipt takes the name of its copy's slot. -/
def sealed (s : SourceStorage) (file : Nat) : SourceStorage :=
  (s.link (.receipt .slot) file).unlink (.pending .slot)

theorem find_sealed (receipt : name ≠ .receipt .slot) (pending : name ≠ .pending .slot) :
    (sealed s file).find name = s.find name :=
  (find_unlink_other pending).trans (find_link_other receipt)

theorem find_sealed_receipt : (sealed s file).find (.receipt .slot) = some file :=
  (find_unlink_other (by exact nofun)).trans find_link_same

theorem find_of_sealed (found : (sealed s file).find name = some inode) :
    name = .receipt .slot ∧ inode = file ∨ s.find name = some inode := by
  have linked := find_of_find_unlink found
  rw [find_link] at linked
  split at linked
  · next same =>
    cases linked
    exact .inl ⟨same, rfl⟩
  · exact .inr linked

theorem Copying.sealed (copying : Copying original selection (some (.body .slot)) inode count s)
    (different : inode ≠ file) :
    Copying original selection (some (.body .slot)) inode count (sealed s file) where
  vacant := ⟨(find_sealed (by exact nofun) (by exact nofun)).trans copying.vacant.output,
    (find_sealed (by exact nofun) (by exact nofun)).trans copying.vacant.proof, copying.vacant.selection⟩
  fresh := by
    refine ⟨copying.fresh.born, copying.fresh.other, fun own same => ?_, fun other found => ?_⟩
    · cases same
      exact (find_sealed (by exact nofun) (by exact nofun)).trans (copying.fresh.named _ rfl)
    · rcases find_of_sealed found with ⟨-, same⟩ | old
      · exact absurd same different
      · exact copying.fresh.only other old
  content := copying.content

theorem Unreceipted.sealed (free : Unreceipted inode s) (written : s.nodes file = .copyReceipt record)
    (incomplete : record.complete = true → record.inode ≠ inode) :
    Unreceipted inode (sealed s file) := by
  intro copy named other found holds complete
  rcases find_of_sealed found with ⟨-, rfl⟩ | old
  · cases written.symm.trans holds
    exact incomplete complete
  · exact free copy named other old holds complete

end Storage

end Continuation

end AgentBash
