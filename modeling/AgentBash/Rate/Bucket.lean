import Mathlib.Data.Nat.Basic

/-!
# A token bucket

A bucket that starts full and gains one token for each whole period that has passed since its mark,
up to its capacity. The mark moves by whole periods only, so what is left of a period is never lost.
Whatever the instants of the attempts, the grants that fall into a window are bounded by the
capacity and the length of the window.
-/

set_option autoImplicit false

namespace Rate

structure Bucket where
  level : Nat
  mark : Nat
  deriving DecidableEq, Repr

namespace Bucket

def full (cap now : Nat) : Bucket := ⟨cap, now⟩

/-- The bucket at an instant: its level has grown by the periods that have passed. -/
def refill (period cap now : Nat) (bucket : Bucket) : Bucket where
  level := min (bucket.level + (now - bucket.mark) / period) cap
  mark := bucket.mark + (now - bucket.mark) / period * period

def take (period cap now : Nat) (bucket : Bucket) : Bool × Bucket :=
  let filled := bucket.refill period cap now
  if filled.level = 0 then (false, filled) else (true, { filled with level := filled.level - 1 })

def since (start : Nat) (grants : List Nat) : Nat := grants.countP fun instant => start ≤ instant

def within (start stop : Nat) (grants : List Nat) : Nat :=
  grants.countP fun instant => start ≤ instant ∧ instant ≤ stop

/-- What is known of a bucket and of the grants it has made. The grants since an instant and the
tokens that are left are paid for by the capacity and the periods that have passed since some
`first` mark, which lies less than a period before that instant. -/
structure Kept (period cap : Nat) (bucket : Bucket) (now : Nat) (grants : List Nat) : Prop where
  level : bucket.level ≤ cap
  mark : bucket.mark ≤ now
  past : ∀ instant ∈ grants, instant ≤ now
  paid : ∀ start, since start grants = 0 ∨ ∃ first, start < first + period ∧ first ≤ bucket.mark ∧
    since start grants + bucket.level ≤ cap + (bucket.mark - first) / period
  window : ∀ start width, within start (start + width) grants ≤ cap + width / period + 1

variable {period cap now : Nat} {bucket : Bucket} {grants : List Nat}

theorem kept_full (period cap now : Nat) : Kept period cap (full cap now) now [] where
  level := Nat.le_refl cap
  mark := Nat.le_refl now
  past := fun _ inside => nomatch inside
  paid := fun _ => .inl rfl
  window := fun _ _ => Nat.zero_le _

theorem Kept.later {after : Nat} (kept : Kept period cap bucket now grants)
    (order : now ≤ after) : Kept period cap bucket after grants where
  level := kept.level
  mark := Nat.le_trans kept.mark order
  past := fun instant inside => Nat.le_trans (kept.past instant inside) order
  paid := kept.paid
  window := kept.window

section Refill

variable (positive : 0 < period)
include positive

theorem mark_refill (kept : Kept period cap bucket now grants) :
    (bucket.refill period cap now).mark ≤ now ∧
      now < (bucket.refill period cap now).mark + period := by
  have whole := Nat.div_mul_le_self (now - bucket.mark) period
  have less := Nat.lt_div_mul_add positive (a := now - bucket.mark)
  have order := kept.mark
  simp only [refill]
  omega

/-- The periods that a refill counts are the ones by which the mark moves. -/
theorem kept_refill (kept : Kept period cap bucket now grants) :
    Kept period cap (bucket.refill period cap now) now grants where
  level := Nat.min_le_right _ _
  mark := (mark_refill positive kept).1
  past := kept.past
  paid := by
    intro start
    rcases kept.paid start with none_ | ⟨first, near, order, paid⟩
    · exact .inl none_
    · refine .inr ⟨first, near, Nat.le_trans order (Nat.le_add_right _ _), ?_⟩
      have periods : ((bucket.refill period cap now).mark - first) / period =
          (bucket.mark - first) / period + (now - bucket.mark) / period := by
        rw [refill, Nat.sub_add_comm order, Nat.add_mul_div_right _ _ positive]
      have grown : (bucket.refill period cap now).level ≤
          bucket.level + (now - bucket.mark) / period := Nat.min_le_left _ _
      omega
  window := kept.window

end Refill

theorem since_append (start instant : Nat) (grants : List Nat) :
    since start (grants ++ [instant]) = since start grants + if start ≤ instant then 1 else 0 := by
  simp [since, List.countP_append, List.countP_cons]

theorem within_append (start stop instant : Nat) (grants : List Nat) :
    within start stop (grants ++ [instant]) =
      within start stop grants + if start ≤ instant ∧ instant ≤ stop then 1 else 0 := by
  simp [within, List.countP_append, List.countP_cons]

theorem within_le_since (start stop : Nat) (grants : List Nat) :
    within start stop grants ≤ since start grants := by
  refine List.countP_mono_left fun instant _ inside => ?_
  simp only [decide_eq_true_eq] at inside ⊢
  exact inside.1

theorem Kept.grant (positive : 0 < period) (kept : Kept period cap bucket now grants)
    (near : now < bucket.mark + period) (some_ : bucket.level ≠ 0) :
    Kept period cap { bucket with level := bucket.level - 1 } now (grants ++ [now]) := by
  have paid : ∀ start, since start (grants ++ [now]) = 0 ∨ ∃ first, start < first + period ∧
      first ≤ bucket.mark ∧ since start (grants ++ [now]) + (bucket.level - 1) ≤
        cap + (bucket.mark - first) / period := by
    intro start
    have level := kept.level
    rw [since_append]
    split
    · next reached =>
      refine .inr ?_
      rcases kept.paid start with none_ | ⟨first, near, order, paid⟩
      · refine ⟨bucket.mark, by omega, Nat.le_refl _, ?_⟩
        rw [none_, Nat.sub_self, Nat.zero_div]
        omega
      · exact ⟨first, near, order, by omega⟩
    · next ahead =>
      rcases kept.paid start with none_ | ⟨first, near, order, paid⟩
      · exact .inl (by omega)
      · exact .inr ⟨first, near, order, by omega⟩
  refine ⟨Nat.le_trans (Nat.sub_le _ _) kept.level, kept.mark, ?_, paid, ?_⟩
  · intro instant inside
    rcases List.mem_append.mp inside with inside | inside
    · exact kept.past instant inside
    · exact Nat.le_of_eq (List.mem_singleton.mp inside)
  · intro start width
    have before := kept.window start width
    rw [within_append]
    split
    · next reached =>
      -- no grant is later than this one, so the window is paid for as a whole
      have counted := within_le_since start (start + width) grants
      have grown := since_append start now grants
      rw [if_pos reached.1] at grown
      rcases paid start with none_ | ⟨first, near, order, paid⟩
      · omega
      · have mark := kept.mark
        have periods : (bucket.mark - first) / period ≤ width / period + 1 := by
          rw [← Nat.add_div_right width positive]
          exact Nat.div_le_div_right (by omega)
        omega
    · exact before

theorem Kept.take (positive : 0 < period) (kept : Kept period cap bucket now grants) :
    Kept period cap (bucket.take period cap now).2 now
      (if (bucket.take period cap now).1 then grants ++ [now] else grants) := by
  have filled := kept_refill positive kept
  by_cases empty : (bucket.refill period cap now).level = 0
  · rw [Bucket.take, if_pos empty]
    exact filled
  · rw [Bucket.take, if_neg empty]
    exact filled.grant positive (mark_refill positive kept).2 empty

end Bucket

end Rate
