import AgentBash.Continuation.Source

/-!
# What a source directory keeps

The invariant of the names and nodes of a source, and what one process may do to them beside
another. `Sane` is what every request keeps; `Kept` is what the holder of the capture lease may
rely on; `Mine` is what a process may rely on about the temporary names it drew itself.
-/

namespace AgentBash

set_option autoImplicit false

open Durable

namespace SourceStorage

variable {s before after third : SourceStorage} {name other : SourceName} {inode pid : Nat}
  {node : SourceNode} {original : Bytes} {anchored : Prop}

section Primitives

@[simp] theorem find_link_same : (s.link name inode).find name = some inode :=
  Links.find_link_same

theorem find_link : (s.link name inode).find other =
    if other = name then some inode else s.find other :=
  Links.find_link

theorem find_link_other (different : other ≠ name) :
    (s.link name inode).find other = s.find other :=
  Links.find_link_other different

@[simp] theorem find_unlink_same : (s.unlink name).find name = none := Links.find_unlink_same

theorem find_unlink : (s.unlink name).find other = if other = name then none else s.find other :=
  Links.find_unlink

theorem find_unlink_other (different : other ≠ name) : (s.unlink name).find other = s.find other :=
  Links.find_unlink_other different

theorem find_of_find_unlink (found : (s.unlink name).find other = some inode) :
    s.find other = some inode :=
  Links.find_of_find_unlink found

@[simp] theorem find_write : (s.write inode node).find other = s.find other := rfl

@[simp] theorem find_allocate : (s.allocate node).find other = s.find other := rfl

@[simp] theorem nodes_link : (s.link name inode).nodes = s.nodes := rfl

@[simp] theorem nodes_unlink : (s.unlink name).nodes = s.nodes := rfl

@[simp] theorem nodes_write_same : (s.write inode node).nodes inode = node :=
  Links.nodes_write_same

theorem nodes_write_other {another : Nat} (different : another ≠ inode) :
    (s.write inode node).nodes another = s.nodes another :=
  Links.nodes_write_other different

@[simp] theorem nodes_allocate_new : (s.allocate node).nodes s.next = node :=
  Links.nodes_allocate_new

theorem nodes_allocate_old (old : inode < s.next) : (s.allocate node).nodes inode = s.nodes inode :=
  Links.nodes_allocate_old old

@[simp] theorem next_link : (s.link name inode).next = s.next := rfl

@[simp] theorem next_unlink : (s.unlink name).next = s.next := rfl

@[simp] theorem next_write : (s.write inode node).next = s.next := rfl

@[simp] theorem next_allocate : (s.allocate node).next = s.next + 1 := rfl

@[simp] theorem selection_link : (s.link name inode).selection = s.selection := rfl

@[simp] theorem selection_unlink : (s.unlink name).selection = s.selection := rfl

@[simp] theorem selection_write : (s.write inode node).selection = s.selection := rfl

@[simp] theorem selection_allocate : (s.allocate node).selection = s.selection := rfl

end Primitives

/-- A whole copy of the selected bytes that nobody writes to any more. -/
structure Whole (original : Bytes) (s : SourceStorage) (inode : Nat) : Prop where
  born : inode < s.next
  other : s.selection.inode ≠ some inode
  content : s.nodes inode = .bytes original

/-- Names that the code makes itself, and that never lead to the selected node. -/
def isMade : SourceName → Bool
  | .selectedLog | .other _ | .stray _ | .body (.foreign _) => false
  | _ => true

/-- Names that only the holder of the lease changes. -/
def isLeased : SourceName → Bool
  | .output | .body _ | .receipt _ | .pending _ => true
  | _ => false

structure Sane (original : Bytes) (s : SourceStorage) : Prop where
  born : ∀ {name inode}, s.find name = some inode → inode < s.next
  selected : ∀ {inode}, s.selection.inode = some inode → inode < s.next ∧
    ∃ content, s.nodes inode = .bytes content ∧ original <+: content
  length : ∀ {length}, s.selection.byteLen = some length → length = original.length
  apart : ∀ {name inode}, isMade name = true → s.find name = some inode →
    s.selection.inode ≠ some inode
  plain : ∀ {name inode}, isMade name = true → s.find name = some inode → s.nodes inode ≠ .symlink
  exact : ∀ {inode}, s.find .output = some inode →
    s.nodes inode = .bytes original ∧ s.selection.inode.isSome
  exclusive : s.find .output ≠ none → s.find (.document .missingOutput) = none
  receipts : ∀ {copy inode record}, s.find (.receipt copy) = some inode →
    s.nodes inode = .copyReceipt record → record.complete = true → Whole original s record.inode
  staged : ∀ {document owner serial inode name}, s.find (.temp document owner serial) = some inode →
    s.find name = some inode → name = .temp document owner serial ∨ name = .document document
  published : ∀ {document inode name}, s.find (.document document) = some inode →
    s.find name = some inode →
      name = .document document ∨ ∃ owner serial, name = .temp document owner serial

/-- The names that the survival of the selected bytes may rest on. -/
def Carries (s : SourceStorage) (name : SourceName) (inode : Nat) : Prop :=
  name = .output ∨ (∃ copy, name = .body copy) ∨ s.selection.inode = some inode

/-- The selected bytes are all there: in a published output, in a named copy, or in the log. -/
def Survives (original : Bytes) (s : SourceStorage) : Prop :=
  ∃ name inode content, s.find name = some inode ∧ s.nodes inode = .bytes content ∧
    original <+: content ∧ s.Carries name inode

/-- Nobody else touches the temporary names of a process, nor links to what they hold. -/
structure Mine (pid : Nat) (before after : SourceStorage) : Prop where
  names : ∀ document serial, after.find (.temp document pid serial) =
    before.find (.temp document pid serial)
  links : ∀ {document serial inode other}, before.find (.temp document pid serial) = some inode →
    after.find other = some inode → before.find other = some inode

/-- Nothing of a process is linked under its temporary name and published as well. -/
def Tidy (pid : Nat) (s : SourceStorage) : Prop :=
  ∀ document serial inode, s.find (.temp document pid serial) = some inode →
    s.find (.document document) ≠ some inode

/-- What the holder of the lease may rely on, but for the proof of a loss; the log keeps its names
where it is anchored. -/
structure Kept (anchored : Prop) (before after : SourceStorage) : Prop where
  selection : after.selection = before.selection
  next : before.next ≤ after.next
  leased : ∀ {name}, isLeased name = true → after.find name = before.find name
  nodes : ∀ {inode}, inode < before.next → before.selection.inode ≠ some inode →
    after.nodes inode = before.nodes inode
  aliases : anchored → ∀ {name inode}, before.selection.inode = some inode →
    before.find name = some inode → after.find name = some inode
  names : ∀ {name inode other}, isLeased name = true → before.find name = some inode →
    after.find other = some inode → before.find other = some inode
  unnamed : ∀ {inode}, inode < before.next → (∀ name, before.find name ≠ some inode) →
    ∀ name, after.find name ≠ some inode

section Order

theorem Mine.refl (pid : Nat) (s : SourceStorage) : Mine pid s s := ⟨fun _ _ => rfl, fun _ found => found⟩

theorem Mine.trans (one : Mine pid before after) (two : Mine pid after third) :
    Mine pid before third := by
  refine ⟨fun document serial => (two.names document serial).trans (one.names document serial), ?_⟩
  intro document serial inode other found last
  have still : after.find (.temp document pid serial) = some inode := by
    rw [one.names]
    exact found
  exact one.links found (two.links still last)

theorem Mine.tidy (mine : Mine pid before after) (tidy : Tidy pid before) : Tidy pid after := by
  intro document serial inode found linked
  rw [mine.names] at found
  exact tidy document serial inode found (mine.links found linked)

theorem Kept.refl (s : SourceStorage) : Kept anchored s s where
  selection := rfl
  next := le_refl _
  leased _ := rfl
  nodes _ _ := rfl
  aliases _ _ _ _ found := found
  names _ _ found := found
  unnamed _ absent := absent

theorem Kept.trans (one : Kept anchored before after) (two : Kept anchored after third) :
    Kept anchored before third where
  selection := two.selection.trans one.selection
  next := Nat.le_trans one.next two.next
  leased own := (two.leased own).trans (one.leased own)
  nodes born other := by
    have still := other
    rw [← one.selection] at still
    exact (two.nodes (Nat.lt_of_lt_of_le born one.next) still).trans (one.nodes born other)
  aliases fixed {name inode} selected found := by
    refine two.aliases fixed ?_ (one.aliases fixed selected found)
    rw [one.selection]
    exact selected
  names own found last := by
    have still : after.find _ = some _ := (one.leased own).trans found
    exact one.names own found (two.names own still last)
  unnamed born absent := two.unnamed (Nat.lt_of_lt_of_le born one.next) (one.unnamed born absent)

end Order

section Steps

theorem Sane.unlink (sane : Sane original s) : Sane original (s.unlink name) where
  born found := sane.born (find_of_find_unlink found)
  selected := sane.selected
  length := sane.length
  apart own found := sane.apart own (find_of_find_unlink found)
  plain own found := sane.plain own (find_of_find_unlink found)
  exact found := sane.exact (find_of_find_unlink found)
  exclusive present := by
    have old : s.find .output ≠ none := by
      intro none
      refine present ?_
      rw [find_unlink, none]
      split <;> rfl
    rw [find_unlink, sane.exclusive old]
    split <;> rfl
  receipts found holds complete :=
    have whole := sane.receipts (find_of_find_unlink found) holds complete
    ⟨whole.born, whole.other, whole.content⟩
  staged found also := sane.staged (find_of_find_unlink found) (find_of_find_unlink also)
  published found also := sane.published (find_of_find_unlink found) (find_of_find_unlink also)

theorem Whole.allocate (whole : Whole original s inode) : Whole original (s.allocate node) inode :=
  ⟨Nat.lt_succ_of_lt whole.born, whole.other, (nodes_allocate_old whole.born).trans whole.content⟩

theorem Sane.allocate (sane : Sane original s) : Sane original (s.allocate node) where
  born found := Nat.lt_succ_of_lt (sane.born found)
  selected chosen := by
    obtain ⟨born, content, holds, prefixes⟩ := sane.selected chosen
    exact ⟨Nat.lt_succ_of_lt born, content, (nodes_allocate_old born).trans holds, prefixes⟩
  length := sane.length
  apart := sane.apart
  plain own found := by
    rw [nodes_allocate_old (sane.born found)]
    exact sane.plain own found
  exact found := by
    have exact := sane.exact found
    exact ⟨(nodes_allocate_old (sane.born found)).trans exact.1, exact.2⟩
  exclusive := sane.exclusive
  receipts found holds complete := by
    rw [nodes_allocate_old (sane.born found)] at holds
    exact (sane.receipts found holds complete).allocate
  staged := sane.staged
  published := sane.published

/-- What a node must not be for a write to it to go unnoticed. -/
structure Loose (s : SourceStorage) (inode : Nat) : Prop where
  born : inode < s.next
  other : s.selection.inode ≠ some inode
  output : s.find .output ≠ some inode
  receipt : ∀ copy, s.find (.receipt copy) ≠ some inode
  receipted : ∀ {copy named record}, s.find (.receipt copy) = some named →
    s.nodes named = .copyReceipt record → record.complete = true → record.inode ≠ inode

theorem Sane.write (sane : Sane original s) (loose : Loose s inode) (plain : node ≠ .symlink) :
    Sane original (s.write inode node) where
  born := sane.born
  selected chosen := by
    obtain ⟨born, content, holds, prefixes⟩ := sane.selected chosen
    have different : _ ≠ inode := fun same => loose.other (same ▸ chosen)
    exact ⟨born, content, (nodes_write_other different).trans holds, prefixes⟩
  length := sane.length
  apart := sane.apart
  plain {name another} own found := by
    by_cases same : another = inode
    · rw [same, nodes_write_same]
      exact plain
    · rw [nodes_write_other same]
      exact sane.plain own found
  exact found := by
    have different : _ ≠ inode := fun same => loose.output (same ▸ found)
    exact ⟨(nodes_write_other different).trans (sane.exact found).1, (sane.exact found).2⟩
  exclusive := sane.exclusive
  receipts {copy named record} found holds complete := by
    have different : named ≠ inode := fun same => loose.receipt copy (same ▸ found)
    rw [nodes_write_other different] at holds
    have whole := sane.receipts found holds complete
    have apart := loose.receipted found holds complete
    exact ⟨whole.born, whole.other, (nodes_write_other apart).trans whole.content⟩
  staged := sane.staged
  published := sane.published

/-- What a new link has to respect. -/
structure Linkable (original : Bytes) (s : SourceStorage) (name : SourceName) (inode : Nat) :
    Prop where
  born : inode < s.next
  other : s.selection.inode ≠ some inode
  plain : isMade name = true → s.nodes inode ≠ .symlink
  output : name = .output → Whole original s inode ∧ s.selection.inode.isSome ∧
    s.find (.document .missingOutput) = none
  proof : name = .document .missingOutput → s.find .output = none
  receipt : ∀ copy record, name = .receipt copy → s.nodes inode = .copyReceipt record →
    record.complete = true → Whole original s record.inode
  staged : ∀ {document owner serial}, s.find (.temp document owner serial) = some inode →
    name = .document document
  published : ∀ {document}, s.find (.document document) ≠ some inode
  temp : ∀ document owner serial, name = .temp document owner serial →
    ∀ other, s.find other ≠ some inode
  document : ∀ document, name = .document document →
    ∀ other, s.find other = some inode → ∃ owner serial, other = .temp document owner serial

theorem Sane.link (sane : Sane original s) (linkable : Linkable original s name inode) :
    Sane original (s.link name inode) where
  born found := by
    rw [find_link] at found
    split at found
    · exact Option.some.inj found ▸ linkable.born
    · exact sane.born found
  selected := sane.selected
  length := sane.length
  apart own found := by
    rw [find_link] at found
    split at found
    · exact Option.some.inj found ▸ linkable.other
    · exact sane.apart own found
  plain own found := by
    rw [find_link] at found
    split at found
    · next same =>
      cases found
      rw [same] at own
      exact linkable.plain own
    · exact sane.plain own found
  exact found := by
    rw [find_link] at found
    split at found
    · next same =>
      have whole := linkable.output same.symm
      exact Option.some.inj found ▸ ⟨whole.1.content, whole.2.1⟩
    · exact sane.exact found
  exclusive present := by
    by_cases output : SourceName.output = name
    · have none := (linkable.output output.symm).2.2
      rw [find_link_other (by rw [← output]; exact nofun)]
      exact none
    · rw [find_link_other output] at present
      by_cases proof : SourceName.document .missingOutput = name
      · exact absurd (linkable.proof proof.symm) present
      · rw [find_link_other proof]
        exact sane.exclusive present
  receipts {copy named record} found holds complete := by
    have whole : Whole original s record.inode := by
      rw [find_link] at found
      split at found
      · next same =>
        cases found
        exact linkable.receipt copy record same.symm holds complete
      · exact sane.receipts found holds complete
    exact ⟨whole.born, whole.other, whole.content⟩
  staged {document owner serial named another} found also := by
    rw [find_link] at found also
    split at found
    · next same =>
      cases found
      split at also
      · next again => exact .inl (again.trans same.symm)
      · exact absurd also (linkable.temp document owner serial same.symm _)
    · split at also
      · next same =>
        cases also
        exact .inr (same.trans (linkable.staged found))
      · exact sane.staged found also
  published {document named another} found also := by
    rw [find_link] at found also
    split at found
    · next same =>
      cases found
      split at also
      · next again => exact .inl (again.trans same.symm)
      · exact .inr (linkable.document document same.symm _ also)
    · split at also
      · cases also
        exact absurd found linkable.published
      · exact sane.published found also

theorem fresh_next (sane : Sane original s) : ∀ name, s.find name ≠ some s.next :=
  fun _ found => absurd (sane.born found) (lt_irrefl _)

theorem Sane.create (sane : Sane original s) (plain : isMade name = true → node ≠ .symlink)
    (output : name ≠ .output) (proof : name ≠ .document .missingOutput)
    (receipt : ∀ copy, name ≠ .receipt copy) : Sane original (s.create name node) := by
  refine sane.allocate.link
    { born := Nat.lt_succ_self _, other := ?_, plain := ?_
      output := fun same => absurd same output, proof := fun same => absurd same proof
      receipt := fun copy _ same => absurd same (receipt copy)
      staged := fun found => absurd found (fresh_next sane _)
      published := fun found => fresh_next sane _ found
      temp := fun _ _ _ _ => fresh_next sane
      document := fun _ _ other found => absurd found (fresh_next sane other) }
  · intro chosen
    exact absurd (sane.selected chosen).1 (lt_irrefl _)
  · intro own
    rw [nodes_allocate_new]
    exact plain own

theorem Sane.append (sane : Sane original s) (chosen : s.selection.inode = some inode)
    (more : Bytes) : Sane original (s.extend inode more) where
  born := sane.born
  selected also := by
    obtain ⟨born, content, holds, prefixes⟩ := sane.selected also
    cases chosen.symm.trans also
    refine ⟨born, content ++ more, ?_, prefixes.trans ⟨more, rfl⟩⟩
    rw [SourceStorage.extend, nodes_write_same, holds]
    rfl
  length := sane.length
  apart := sane.apart
  plain {name another} own found := by
    have different : another ≠ inode := fun same => sane.apart own found (same ▸ chosen)
    rw [SourceStorage.extend, nodes_write_other different]
    exact sane.plain own found
  exact {another} found := by
    have different : another ≠ inode := fun same => sane.apart rfl found (same ▸ chosen)
    exact ⟨(nodes_write_other different).trans (sane.exact found).1, (sane.exact found).2⟩
  exclusive := sane.exclusive
  receipts {copy named record} found holds complete := by
    have different : named ≠ inode := fun same => sane.apart rfl found (same ▸ chosen)
    rw [SourceStorage.extend, nodes_write_other different] at holds
    have whole := sane.receipts found holds complete
    have apart : record.inode ≠ inode := fun same => whole.other (same ▸ chosen)
    exact ⟨whole.born, whole.other, (nodes_write_other apart).trans whole.content⟩
  staged := sane.staged
  published := sane.published

end Steps

section Others

theorem Mine.allocate : Mine pid s (s.allocate node) := ⟨fun _ _ => rfl, fun _ found => found⟩

theorem Mine.write : Mine pid s (s.write inode node) := ⟨fun _ _ => rfl, fun _ found => found⟩

theorem Mine.unlink (foreign : ∀ document serial, name ≠ .temp document pid serial) :
    Mine pid s (s.unlink name) :=
  ⟨fun document serial => find_unlink_other (foreign document serial).symm,
    fun _ found => find_of_find_unlink found⟩

theorem Mine.link (foreign : ∀ document serial, name ≠ .temp document pid serial)
    (other : ∀ document serial, s.find (.temp document pid serial) ≠ some inode) :
    Mine pid s (s.link name inode) := by
  refine ⟨fun document serial => find_link_other (foreign document serial).symm, ?_⟩
  intro document serial named another found also
  rw [find_link] at also
  split at also
  · cases also
    exact absurd found (other document serial)
  · exact also

theorem Kept.append (chosen : s.selection.inode = some inode) (more : Bytes) :
    Kept anchored s (s.extend inode more) where
  selection := rfl
  next := le_refl _
  leased _ := rfl
  nodes _ other := nodes_write_other fun same => other (same ▸ chosen)
  aliases _ _ _ _ found := found
  names _ _ found := found
  unnamed _ absent := absent

theorem Kept.unlink (foreign : isLeased name = false)
    (other : anchored → ∀ inode, s.find name = some inode → s.selection.inode ≠ some inode) :
    Kept anchored s (s.unlink name) where
  selection := rfl
  next := le_refl _
  leased own := by
    refine find_unlink_other fun same => ?_
    rw [same, foreign] at own
    cases own
  nodes _ _ := rfl
  aliases fixed {another inode} chosen found := by
    refine (find_unlink_other fun same => ?_).trans found
    exact other fixed _ (same ▸ found) chosen
  names _ _ found := find_of_find_unlink found
  unnamed _ absent name found := absent name (find_of_find_unlink found)

theorem Kept.link (foreign : isLeased name = false) (absent : s.find name = none)
    (other : ∀ name, isLeased name = true → s.find name ≠ some inode)
    (named : ∃ name, s.find name = some inode) :
    Kept anchored s (s.link name inode) where
  selection := rfl
  next := le_refl _
  leased own := by
    refine find_link_other fun same => ?_
    rw [same, foreign] at own
    cases own
  nodes _ _ := rfl
  aliases _ _ _ _ found := by
    refine (find_link_other fun same => ?_).trans found
    rw [same, absent] at found
    cases found
  names own found also := by
    rw [find_link] at also
    split at also
    · cases also
      exact absurd found (other _ own)
    · exact also
  unnamed _ absent another found := by
    rw [find_link] at found
    split at found
    · cases found
      obtain ⟨held, holds⟩ := named
      exact absent held holds
    · exact absent another found

theorem Kept.create (sane : Sane original s) (foreign : isLeased name = false)
    (absent : s.find name = none) : Kept anchored s (s.create name node) := by
  refine { selection := rfl, next := Nat.le_succ _, leased := ?_, nodes := ?_, aliases := ?_,
           names := ?_, unnamed := ?_ }
  · intro other own
    refine find_link_other fun same => ?_
    rw [same, foreign] at own
    cases own
  · exact fun born _ => nodes_allocate_old born
  · intro _ other inode _ found
    refine (find_link_other fun same => ?_).trans found
    rw [same, absent] at found
    cases found
  · intro own inode other _ found also
    rw [SourceStorage.create, find_link] at also
    split at also
    · cases also
      exact absurd found (fresh_next sane own)
    · exact also
  · intro inode born unnamed other found
    rw [SourceStorage.create, find_link] at found
    split at found
    · cases found
      exact absurd born (lt_irrefl _)
    · exact unnamed other found

theorem Mine.create (sane : Sane original s)
    (foreign : ∀ document serial, name ≠ .temp document pid serial) :
    Mine pid s (s.create name node) := by
  refine ⟨fun document serial => find_link_other (foreign document serial).symm, ?_⟩
  intro document serial inode other found also
  rw [SourceStorage.create, find_link] at also
  split at also
  · cases also
    exact absurd (sane.born found) (lt_irrefl _)
  · exact also

end Others

section Survival

theorem Survives.mono (survives : Survives original before)
    (selection : after.selection = before.selection)
    (find : ∀ {name inode}, before.find name = some inode → before.Carries name inode →
      after.find name = some inode)
    (nodes : ∀ {name inode content}, before.find name = some inode → before.Carries name inode →
      before.nodes inode = .bytes content → ∃ more, after.nodes inode = .bytes (content ++ more)) :
    Survives original after := by
  obtain ⟨name, inode, content, found, holds, prefixes, kind⟩ := survives
  obtain ⟨more, now⟩ := nodes found kind holds
  refine ⟨name, inode, content ++ more, find found kind, now, prefixes.trans ⟨more, rfl⟩, ?_⟩
  rw [Carries, selection]
  exact kind

theorem Survives.same (survives : Survives original before)
    (selection : after.selection = before.selection) (nodes : after.nodes = before.nodes)
    (find : ∀ {name inode}, before.find name = some inode → before.Carries name inode →
      after.find name = some inode) : Survives original after := by
  refine survives.mono selection find fun {name inode content} _ _ holds => ⟨[], ?_⟩
  rw [nodes, holds, List.append_nil]

theorem Survives.link (survives : Survives original s) (absent : s.find name = none) :
    Survives original (s.link name inode) := by
  refine survives.same rfl rfl fun {other another} found _ => ?_
  refine (find_link_other fun same => ?_).trans found
  rw [same, absent] at found
  cases found

theorem Survives.allocate (sane : Sane original s) (survives : Survives original s) :
    Survives original (s.allocate node) := by
  refine survives.mono rfl (fun found _ => found) fun {name inode content} found _ holds => ⟨[], ?_⟩
  rw [nodes_allocate_old (sane.born found), holds, List.append_nil]

theorem Survives.create (sane : Sane original s) (survives : Survives original s)
    (absent : s.find name = none) : Survives original (s.create name node) :=
  (survives.allocate sane).link absent

theorem Survives.extend (survives : Survives original s) {more : Bytes} :
    Survives original (s.extend inode more) := by
  refine survives.mono rfl (fun found _ => found) fun {name other content} _ _ holds => ?_
  by_cases same : other = inode
  · refine ⟨more, ?_⟩
    rw [same] at holds ⊢
    rw [SourceStorage.extend, nodes_write_same, holds]
    rfl
  · refine ⟨[], ?_⟩
    rw [SourceStorage.extend, nodes_write_other same, holds, List.append_nil]

theorem Survives.write (survives : Survives original s)
    (other : ∀ {name}, s.find name = some inode → ¬ s.Carries name inode) :
    Survives original (s.write inode node) := by
  refine survives.mono rfl (fun found _ => found) fun {name another content} found kind holds => ?_
  have different : another ≠ inode := by
    intro same
    rw [same] at found kind
    exact other found kind
  exact ⟨[], by rw [nodes_write_other different, holds, List.append_nil]⟩

theorem Survives.unlink (survives : Survives original s)
    (other : ∀ {inode}, s.find name = some inode → ¬ s.Carries name inode) :
    Survives original (s.unlink name) := by
  refine survives.same rfl rfl fun {another inode} found kind => ?_
  refine (find_unlink_other fun same => ?_).trans found
  rw [same] at found kind
  exact other found kind

/-- A made name that is neither the output nor a copy carries nothing. -/
theorem Sane.carries_none (sane : Sane original s) (own : isMade name = true)
    (output : name ≠ .output) (body : ∀ copy, name ≠ .body copy)
    (found : s.find name = some inode) : ¬ s.Carries name inode := by
  rintro (same | ⟨copy, same⟩ | chosen)
  · exact output same
  · exact body copy same
  · exact sane.apart own found chosen

end Survival

section Settling

/-- Nothing waits to be published a second time, and the output has one name. -/
structure Settled (s : SourceStorage) : Prop where
  unfinished : s.find .output = none → ∀ {copy inode record}, s.find (.receipt copy) = some inode →
    s.nodes inode = .copyReceipt record → record.complete = false
  single : ∀ {inode name}, s.find .output = some inode → s.find name = some inode → name = .output

/-- A completed copy is there, and so is the name it was written under. -/
def Window (s : SourceStorage) : Prop :=
  ∃ inode named record, s.find (.body .slot) = some inode ∧
    s.find (.receipt .slot) = some named ∧ s.nodes named = .copyReceipt record ∧
    record.complete = true ∧ record.inode = inode

theorem Settled.allocate (sane : Sane original s) (settled : Settled s) :
    Settled (s.allocate node) where
  unfinished none copy inode record found holds := by
    rw [nodes_allocate_old (sane.born found)] at holds
    exact settled.unfinished none found holds
  single := settled.single

theorem Settled.write (settled : Settled s) (receipt : ∀ copy, s.find (.receipt copy) ≠ some inode) :
    Settled (s.write inode node) where
  unfinished none copy named record found holds := by
    have different : named ≠ inode := fun same => receipt copy (same ▸ found)
    rw [nodes_write_other different] at holds
    exact settled.unfinished none found holds
  single := settled.single

theorem Settled.unlink (settled : Settled s) (output : name ≠ .output) : Settled (s.unlink name) where
  unfinished none copy inode record found holds := by
    rw [find_unlink_other output.symm] at none
    exact settled.unfinished none (find_of_find_unlink found) holds
  single found also :=
    settled.single (find_of_find_unlink found) (find_of_find_unlink also)

theorem Settled.link (settled : Settled s) (output : name ≠ .output)
    (receipt : ∀ copy, name ≠ .receipt copy) (other : s.find .output ≠ some inode) :
    Settled (s.link name inode) where
  unfinished none copy named record found holds := by
    rw [find_link_other output.symm] at none
    rw [find_link_other (receipt copy).symm] at found
    exact settled.unfinished none found holds
  single {named another} found also := by
    rw [find_link_other output.symm] at found
    rw [find_link] at also
    split at also
    · cases also
      exact absurd found other
    · exact settled.single found also

theorem Settled.create (sane : Sane original s) (settled : Settled s) (output : name ≠ .output)
    (receipt : ∀ copy, name ≠ .receipt copy) : Settled (s.create name node) := by
  refine (settled.allocate sane).link output receipt fun found => ?_
  exact absurd (sane.born found) (lt_irrefl _)

theorem Window.same (window : Window before) (nodes : ∀ {name inode}, before.find name = some inode →
      after.nodes inode = before.nodes inode)
    (body : after.find (.body .slot) = before.find (.body .slot))
    (receipt : after.find (.receipt .slot) = before.find (.receipt .slot)) : Window after := by
  obtain ⟨inode, named, record, found, recorded, holds, rest⟩ := window
  exact ⟨inode, named, record, body.trans found, receipt.trans recorded,
    (nodes recorded).trans holds, rest⟩

end Settling

end SourceStorage

end AgentBash
