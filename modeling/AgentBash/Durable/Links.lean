import Mathlib.Data.List.AList
import Mathlib.Logic.Function.Basic

/-!
# Hard links

A directory whose names link to numbered nodes. A node keeps its content while names come and
go, and a node number is never given out twice.
-/

namespace AgentBash.Durable

set_option autoImplicit false

structure Links (Name Content : Type) [DecidableEq Name] where
  entries : AList fun _ : Name => Nat
  nodes : Nat → Content
  next : Nat

namespace Links

variable {Name Content : Type} [DecidableEq Name]

def find (links : Links Name Content) (name : Name) : Option Nat := links.entries.lookup name

def names (links : Links Name Content) : List Name := links.entries.keys

def count (links : Links Name Content) (node : Nat) : Nat :=
  links.names.countP fun name => links.find name = some node

def link (links : Links Name Content) (name : Name) (node : Nat) : Links Name Content :=
  { links with entries := links.entries.insert name node }

def unlink (links : Links Name Content) (name : Name) : Links Name Content :=
  { links with entries := links.entries.erase name }

def write (links : Links Name Content) (node : Nat) (content : Content) : Links Name Content :=
  { links with nodes := Function.update links.nodes node content }

/-- A new node that no name links to yet; its number is the old `next`. -/
def allocate (links : Links Name Content) (content : Content) : Links Name Content :=
  { links with
    nodes := Function.update links.nodes links.next content
    next := links.next + 1 }

def create (links : Links Name Content) (name : Name) (content : Content) : Links Name Content :=
  (links.allocate content).link name links.next

variable {links : Links Name Content} {name other : Name} {node : Nat} {content : Content}

@[simp] theorem find_link_same : (links.link name node).find name = some node :=
  AList.lookup_insert _

theorem find_link_other (different : other ≠ name) :
    (links.link name node).find other = links.find other :=
  AList.lookup_insert_ne different

theorem find_link : (links.link name node).find other =
    if other = name then some node else links.find other := by
  split
  · next same => rw [same, find_link_same]
  · next different => exact find_link_other different

@[simp] theorem find_unlink_same : (links.unlink name).find name = none :=
  AList.lookup_erase _ _

theorem find_unlink_other (different : other ≠ name) :
    (links.unlink name).find other = links.find other :=
  AList.lookup_erase_ne different

theorem find_unlink : (links.unlink name).find other =
    if other = name then none else links.find other := by
  split
  · next same => rw [same, find_unlink_same]
  · next different => exact find_unlink_other different

theorem find_of_find_unlink (found : (links.unlink name).find other = some node) :
    links.find other = some node := by
  rw [find_unlink] at found
  split at found
  · cases found
  · exact found

@[simp] theorem find_write : (links.write node content).find other = links.find other := rfl

@[simp] theorem find_allocate : (links.allocate content).find other = links.find other := rfl

@[simp] theorem nodes_link : (links.link name node).nodes = links.nodes := rfl

@[simp] theorem nodes_unlink : (links.unlink name).nodes = links.nodes := rfl

@[simp] theorem nodes_write_same : (links.write node content).nodes node = content :=
  Function.update_self _ _ _

theorem nodes_write_other {another : Nat} (different : another ≠ node) :
    (links.write node content).nodes another = links.nodes another :=
  Function.update_of_ne different _ _

@[simp] theorem nodes_allocate_new : (links.allocate content).nodes links.next = content :=
  Function.update_self _ _ _

theorem nodes_allocate_old (old : node < links.next) :
    (links.allocate content).nodes node = links.nodes node :=
  Function.update_of_ne (Nat.ne_of_lt old) _ _

@[simp] theorem next_link : (links.link name node).next = links.next := rfl

@[simp] theorem next_unlink : (links.unlink name).next = links.next := rfl

@[simp] theorem next_write : (links.write node content).next = links.next := rfl

@[simp] theorem next_allocate : (links.allocate content).next = links.next + 1 := rfl

theorem mem_names : name ∈ links.names ↔ (links.find name).isSome :=
  AList.mem_keys.symm.trans AList.lookup_isSome.symm

theorem count_eq_one (found : links.find name = some node)
    (only : ∀ other, links.find other = some node → other = name) : links.count node = 1 := by
  have member : name ∈ links.names := mem_names.mpr (by rw [found]; rfl)
  have same : ∀ other ∈ links.names, (decide (links.find other = some node) = true) ↔
      ((other == name) = true) := by
    intro other _
    rw [decide_eq_true_iff, beq_iff_eq]
    exact ⟨only other, fun same => same ▸ found⟩
  have counted : links.count node = links.names.count name := by
    unfold count List.count
    exact List.countP_congr same
  rw [counted]
  exact List.count_eq_one_of_mem links.entries.keys_nodup member

theorem only_of_count (found : links.find name = some node) (one : links.count node = 1)
    (also : links.find other = some node) : other = name := by
  by_contra different
  have counted : ∀ key, links.find key = some node →
      key ∈ links.names.filter fun name => links.find name = some node := by
    intro key present
    refine List.mem_filter.mpr ⟨mem_names.mpr ?_, decide_eq_true present⟩
    rw [present]
    rfl
  rw [count, List.countP_eq_length_filter] at one
  obtain ⟨only, shape⟩ := List.length_eq_one_iff.mp one
  have first := counted name found
  have second := counted other also
  rw [shape, List.mem_singleton] at first second
  exact different (second.trans first.symm)

end Links

end AgentBash.Durable
