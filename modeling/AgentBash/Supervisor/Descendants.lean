import Mathlib.Data.List.AList
import Mathlib.Data.List.Perm.Subperm
import Mathlib.Data.List.Sort
import Mathlib.Logic.Relation

/-!
# Descendants by the parent map

A reaper lists the processes below it from one reading of procfs: a map from process to parent,
searched upwards from each of its keys. A parent map may have missing parents, self loops and
cycles; the search is bounded by the size of the map.
-/

namespace AgentBash

set_option autoImplicit false

namespace Supervisor

/-- `libc::pid_t`, as procfs shows it. -/
abbrev Pid := Int

/-- The order of the entries is the order in which the hash map is walked. -/
abbrev ParentMap := AList fun _ : Pid => Pid

/-- The body of the loop of `descendant_depth`, for the depths that are left. -/
def depthSearch (parents : ParentMap) (rootPid : Pid) : Nat → Nat → Pid → Option Nat
  | 0, _, _ => none
  | left + 1, depth, current =>
      match parents.lookup current with
      | none => none
      | some parent =>
          if parent = rootPid then some depth
          else if parent ≤ 1 ∨ parent = current then none
          else depthSearch parents rootPid left (depth + 1) parent

def descendantDepth (pid rootPid : Pid) (parents : ParentMap) : Option Nat :=
  depthSearch parents rootPid parents.keys.length 1 pid

/-- The order of the sort: the greater depth goes first. -/
def Deeper (one two : Pid × Nat) : Prop := two.2 ≤ one.2

instance : DecidableRel Deeper := fun one two => inferInstanceAs (Decidable (two.2 ≤ one.2))

instance : Std.Total Deeper := ⟨fun one two => le_total two.2 one.2⟩

instance : IsTrans (Pid × Nat) Deeper := ⟨fun _ _ _ first second => le_trans second first⟩

/-- Equal depths keep the order of the walk, which is arbitrary. -/
def descendantPids (parents : ParentMap) (rootPid : Pid) : List Pid :=
  let descendants := parents.keys.filterMap fun pid =>
    (descendantDepth pid rootPid parents).map fun depth => (pid, depth)
  (descendants.insertionSort Deeper).map Prod.fst

def ParentOf (parents : ParentMap) (pid parent : Pid) : Prop := parents.lookup pid = some parent

def Ancestor (parents : ParentMap) : Pid → Pid → Prop := Relation.TransGen (ParentOf parents)

/-- Following parents from a process reaches the root, and before it neither a PID that is at most
one, nor a self loop, nor a missing entry. -/
inductive Reaches (parents : ParentMap) (root : Pid) : Pid → Prop
  | child {pid} (up : ParentOf parents pid root) : Reaches parents root pid
  | step {pid parent} (up : ParentOf parents pid parent) (other : parent ≠ root)
      (owned : 1 < parent) (moves : parent ≠ pid) (rest : Reaches parents root parent) :
      Reaches parents root pid

/-- The same, with the number of parents followed. -/
inductive AtDepth (parents : ParentMap) (root : Pid) : Pid → Nat → Prop
  | child {pid} (up : ParentOf parents pid root) : AtDepth parents root pid 1
  | step {pid parent depth} (up : ParentOf parents pid parent) (other : parent ≠ root)
      (owned : 1 < parent) (moves : parent ≠ pid) (rest : AtDepth parents root parent depth) :
      AtDepth parents root pid (depth + 1)

variable {parents : ParentMap} {root pid parent other : Pid} {depth deeper left : Nat}

section Depth

theorem ParentOf.unique (one : ParentOf parents pid parent) (two : ParentOf parents pid other) :
    parent = other :=
  Option.some.inj (one.symm.trans two)

theorem AtDepth.reaches (found : AtDepth parents root pid depth) : Reaches parents root pid := by
  induction found with
  | child up => exact .child up
  | step up other owned moves _ ih => exact .step up other owned moves ih

theorem Reaches.atDepth (reaches : Reaches parents root pid) :
    ∃ depth, AtDepth parents root pid depth := by
  induction reaches with
  | child up => exact ⟨1, .child up⟩
  | step up other owned moves _ ih =>
      obtain ⟨depth, found⟩ := ih
      exact ⟨depth + 1, .step up other owned moves found⟩

theorem AtDepth.positive (found : AtDepth parents root pid depth) : 0 < depth := by
  cases found with
  | child => exact Nat.one_pos
  | step => exact Nat.succ_pos _

theorem AtDepth.unique (one : AtDepth parents root pid depth) :
    ∀ {deeper}, AtDepth parents root pid deeper → depth = deeper := by
  induction one with
  | child up =>
      intro deeper two
      cases two with
      | child => rfl
      | step up' other => exact absurd (up'.unique up) other
  | step up other _ _ _ ih =>
      intro deeper two
      cases two with
      | child up' => exact absurd (up.unique up') other
      | step up' _ _ _ rest =>
          rw [up.unique up'] at ih
          rw [ih rest]

theorem AtDepth.key (found : AtDepth parents root pid depth) : pid ∈ parents.keys := by
  have present : (parents.lookup pid).isSome := by
    cases found with
    | child up => exact Option.isSome_of_eq_some up
    | step up => exact Option.isSome_of_eq_some up
  exact AList.mem_keys.mp (AList.lookup_isSome.mp present)

/-- The processes on the way are different keys of the map: each has its own depth. -/
theorem AtDepth.chain (found : AtDepth parents root pid depth) :
    ∃ chain : List Pid, chain.length = depth ∧ chain.Nodup ∧
      ∀ member ∈ chain, member ∈ parents.keys ∧
        ∃ below ≤ depth, AtDepth parents root member below := by
  induction found with
  | @child pid up =>
      refine ⟨[pid], rfl, List.nodup_singleton pid, fun member inside => ?_⟩
      rw [List.mem_singleton.mp inside]
      have found : AtDepth parents root pid 1 := .child up
      exact ⟨found.key, 1, le_refl 1, found⟩
  | @step pid parent depth up other owned moves rest ih =>
      obtain ⟨chain, length, nodup, members⟩ := ih
      have found : AtDepth parents root pid (depth + 1) := .step up other owned moves rest
      refine ⟨pid :: chain, congrArg (· + 1) length, List.nodup_cons.mpr ⟨?_, nodup⟩, ?_⟩
      · intro inside
        obtain ⟨_, below, bound, also⟩ := members pid inside
        have same := found.unique also
        omega
      · intro member inside
        rcases List.mem_cons.mp inside with rfl | inside
        · exact ⟨found.key, depth + 1, le_refl _, found⟩
        · obtain ⟨key, below, bound, at_⟩ := members member inside
          exact ⟨key, below, Nat.le_succ_of_le bound, at_⟩

theorem AtDepth.bounded (found : AtDepth parents root pid depth) :
    depth ≤ parents.keys.length := by
  obtain ⟨chain, length, nodup, members⟩ := found.chain
  have inside : chain ⊆ parents.keys := fun member inside => (members member inside).1
  rw [← length]
  exact (List.subperm_of_subset nodup inside).length_le

end Depth

section Search

theorem depthSearch_eq_some : depthSearch parents root left depth pid = some deeper ↔
    ∃ more, more ≤ left ∧ AtDepth parents root pid more ∧ deeper + 1 = depth + more := by
  induction left generalizing depth pid with
  | zero =>
      constructor
      · intro found
        cases found
      · rintro ⟨more, none, found, _⟩
        have some := found.positive
        omega
  | succ left ih =>
      rw [depthSearch]
      cases up : parents.lookup pid with
      | none =>
          constructor
          · intro found
            cases found
          · rintro ⟨more, _, found, _⟩
            cases found with
            | child up' => cases up.symm.trans up'
            | step up' => cases up.symm.trans up'
      | some parent =>
          simp only
          by_cases top : parent = root
          · rw [if_pos top, Option.some.injEq]
            subst top
            constructor
            · rintro rfl
              exact ⟨1, by omega, .child up, rfl⟩
            · rintro ⟨more, _, found, counts⟩
              have one : more = 1 := found.unique (.child up)
              omega
          · rw [if_neg top]
            by_cases stops : parent ≤ 1 ∨ parent = pid
            · rw [if_pos stops]
              constructor
              · intro found
                cases found
              · rintro ⟨more, _, found, _⟩
                cases found with
                | child up' => exact absurd (ParentOf.unique up up') top
                | step up' _ owned moves =>
                    have same := ParentOf.unique up up'
                    rcases stops with low | loops
                    · exact absurd (same ▸ low) (Int.not_le.mpr owned)
                    · exact absurd (same.symm.trans loops) moves
            · rw [if_neg stops, ih]
              rw [not_or] at stops
              constructor
              · rintro ⟨more, bound, found, counts⟩
                exact ⟨more + 1, by omega, .step up top (Int.not_le.mp stops.1) stops.2 found, by omega⟩
              · rintro ⟨more, bound, found, counts⟩
                cases found with
                | child up' => exact absurd (ParentOf.unique up up') top
                | step up' _ _ _ rest =>
                    rw [ParentOf.unique up' up] at rest
                    exact ⟨_, by omega, rest, by omega⟩

theorem descendantDepth_eq_some : descendantDepth pid root parents = some depth ↔
    AtDepth parents root pid depth := by
  rw [descendantDepth, depthSearch_eq_some]
  constructor
  · rintro ⟨more, _, found, counts⟩
    have same : depth = more := by omega
    exact same ▸ found
  · intro found
    exact ⟨depth, found.bounded, found, Nat.add_comm depth 1⟩

end Search

section Order

/-- An ancestor that reaches the root as well is less deep, unless the root is its own ancestor. -/
theorem AtDepth.decreases (acyclic : ¬ Ancestor parents root root)
    (found : AtDepth parents root pid depth) (above : Ancestor parents pid other) :
    ∀ {lower}, AtDepth parents root other lower → lower < depth := by
  -- along the chain the ancestor is met before the root: past the root it would close a cycle
  induction found with
  | @child pid up =>
      intro lower at_
      exfalso
      have reached : Ancestor parents other root := by
        clear above
        induction at_ with
        | child up => exact .single up
        | step up _ _ _ _ ih => exact Relation.TransGen.head up ih
      rcases Relation.TransGen.head'_iff.mp above with ⟨first, up', rest⟩
      have same := ParentOf.unique up' up
      subst same
      exact acyclic (Relation.TransGen.trans_right rest reached)
  | @step pid parent depth up _ _ _ rest ih =>
      intro lower at_
      rcases Relation.TransGen.head'_iff.mp above with ⟨first, up', further⟩
      have same := ParentOf.unique up' up
      subst same
      rcases Relation.reflTransGen_iff_eq_or_transGen.mp further with same | further
      · subst same
        have equal := rest.unique at_
        omega
      · exact Nat.lt_succ_of_lt (ih further at_)

theorem mem_descendantPids : pid ∈ descendantPids parents root ↔ Reaches parents root pid := by
  have found : pid ∈ descendantPids parents root ↔ ∃ depth, AtDepth parents root pid depth := by
    simp only [descendantPids, List.mem_map, List.mem_insertionSort, List.mem_filterMap,
      Option.map_eq_some_iff, descendantDepth_eq_some]
    constructor
    · rintro ⟨_, ⟨member, _, depth, at_, rfl⟩, rfl⟩
      exact ⟨depth, at_⟩
    · rintro ⟨depth, at_⟩
      exact ⟨(pid, depth), ⟨pid, at_.key, depth, at_, rfl⟩, rfl⟩
  rw [found]
  constructor
  · rintro ⟨depth, at_⟩
    exact at_.reaches
  · exact Reaches.atDepth

theorem nodup_descendantPids : (descendantPids parents root).Nodup := by
  have keys : ((parents.keys.filterMap fun pid =>
      (descendantDepth pid root parents).map fun depth => (pid, depth)).map Prod.fst).Nodup := by
    rw [List.map_filterMap]
    refine parents.keys_nodup.filterMap fun one two pid inside also => ?_
    simp only [Option.map_map, Option.mem_def, Option.map_eq_some_iff, Function.comp_apply] at inside also
    obtain ⟨_, _, rfl⟩ := inside
    obtain ⟨_, _, rfl⟩ := also
    rfl
  exact ((List.perm_insertionSort _ _).map _).nodup_iff.mpr keys

theorem descendantPids_deepest_first (parents : ParentMap) (root : Pid) :
    (descendantPids parents root).Pairwise fun earlier later =>
      ∃ deep less, AtDepth parents root earlier deep ∧ AtDepth parents root later less ∧
        less ≤ deep := by
  have ordered := List.pairwise_insertionSort Deeper (parents.keys.filterMap fun pid =>
    (descendantDepth pid root parents).map fun depth => (pid, depth))
  refine List.pairwise_map.mpr (ordered.imp_of_mem fun {one two} inside also less => ?_)
  have searched : ∀ entry : Pid × Nat, entry ∈ (parents.keys.filterMap fun pid =>
      (descendantDepth pid root parents).map fun depth => (pid, depth)) →
      AtDepth parents root entry.1 entry.2 := by
    intro entry inside
    obtain ⟨pid, _, found⟩ := List.mem_filterMap.mp inside
    obtain ⟨depth, at_, rfl⟩ := Option.map_eq_some_iff.mp found
    exact descendantDepth_eq_some.mp at_
  exact ⟨one.2, two.2, searched one ((List.mem_insertionSort _).mp inside),
    searched two ((List.mem_insertionSort _).mp also), less⟩

end Order

/-- The enumeration lists exactly the processes below the root, each once, and every process before
each of its ancestors. -/
theorem descendant_pids_exact (parents : ParentMap) (root : Pid)
    (acyclic : ¬ Ancestor parents root root) :
    (∀ pid, pid ∈ descendantPids parents root ↔ Reaches parents root pid) ∧
    (descendantPids parents root).Nodup ∧
    ∀ pid ancestor, pid ∈ descendantPids parents root → ancestor ∈ descendantPids parents root →
      Ancestor parents pid ancestor →
      (descendantPids parents root).idxOf pid < (descendantPids parents root).idxOf ancestor := by
  refine ⟨fun pid => mem_descendantPids, nodup_descendantPids, ?_⟩
  intro pid ancestor inside also above
  obtain ⟨depth, at_⟩ := (mem_descendantPids.mp inside).atDepth
  obtain ⟨lower, below⟩ := (mem_descendantPids.mp also).atDepth
  have less := at_.decreases acyclic above below
  by_contra later
  rw [not_lt] at later
  rcases Nat.lt_or_eq_of_le later with earlier | same
  · have ordered := List.pairwise_iff_getElem.mp (descendantPids_deepest_first parents root)
      _ _ (List.idxOf_lt_length_of_mem also) (List.idxOf_lt_length_of_mem inside) earlier
    rw [List.getElem_idxOf, List.getElem_idxOf] at ordered
    obtain ⟨deep, shallow, deeper, shallower, bound⟩ := ordered
    have one := below.unique deeper
    have two := at_.unique shallower
    omega
  · have equal : ancestor = pid := (List.idxOf_inj also).mp same
    rw [equal] at below
    have level := at_.unique below
    omega

def smallTree : ParentMap :=
  [Sigma.mk (30 : Pid) (20 : Pid), ⟨20, 10⟩, ⟨41, 42⟩, ⟨42, 41⟩].toAList

example : descendantPids smallTree 10 = [30, 20] := by decide +kernel

theorem descendant_pids_exact_small :
    (∀ pid, pid ∈ descendantPids smallTree 10 ↔ Reaches smallTree 10 pid) ∧
    (descendantPids smallTree 10).Nodup ∧
    ∀ pid ancestor, pid ∈ descendantPids smallTree 10 → ancestor ∈ descendantPids smallTree 10 →
      Ancestor smallTree pid ancestor →
      (descendantPids smallTree 10).idxOf pid < (descendantPids smallTree 10).idxOf ancestor := by
  refine descendant_pids_exact smallTree 10 fun above => ?_
  rcases Relation.TransGen.head'_iff.mp above with ⟨first, up, _⟩
  have missing : smallTree.lookup 10 = none := by decide
  cases missing.symm.trans up

end Supervisor

end AgentBash
