import Mathlib.Data.List.Basic

/-!
# Bounded sweeps

A sweep goes through a list from its front, considers the items whose turn it is and takes some of
them away, until it has considered or taken as many as it may. Sweeps that always start at the front
reach an item exactly if few enough items before it stay.
-/

set_option autoImplicit false

namespace Sweep

/-- What becomes of an item that is considered. One that vanishes is not counted as taken. -/
inductive Fate
  | stays
  | taken
  | vanishes
  deriving DecidableEq, Repr

variable {Item : Type}

/-- What a sweep leaves, with so many items still to consider and to take. -/
def sweep (turn : Item → Bool) (fate : Item → Fate) : Nat → Nat → List Item → List Item
  | _, _, [] => []
  | 0, _, item :: rest => item :: rest
  | _, 0, item :: rest => item :: rest
  | scans + 1, takes + 1, item :: rest =>
    if turn item then
      match fate item with
      | .stays => item :: sweep turn fate scans (takes + 1) rest
      | .taken => sweep turn fate scans takes rest
      | .vanishes => sweep turn fate scans (takes + 1) rest
    else item :: sweep turn fate (scans + 1) (takes + 1) rest

theorem sweep_cons (turn : Item → Bool) (fate : Item → Fate) (scans takes : Nat) (item : Item)
    (rest : List Item) :
    sweep turn fate (scans + 1) (takes + 1) (item :: rest) =
      if turn item then
        match fate item with
        | .stays => item :: sweep turn fate scans (takes + 1) rest
        | .taken => sweep turn fate scans takes rest
        | .vanishes => sweep turn fate scans (takes + 1) rest
      else item :: sweep turn fate (scans + 1) (takes + 1) rest :=
  rfl

theorem sweep_exhausted (turn : Item → Bool) (fate : Item → Fate) (takes : Nat) (item : Item)
    (rest : List Item) : sweep turn fate 0 takes (item :: rest) = item :: rest :=
  rfl

theorem sweep_sated (turn : Item → Bool) (fate : Item → Fate) (scans : Nat) (item : Item)
    (rest : List Item) : sweep turn fate (scans + 1) 0 (item :: rest) = item :: rest :=
  rfl

section Once

variable {turn : Item → Bool} {fate : Item → Fate} {items front back : List Item} {item target : Item}

theorem sweep_sublist (turn : Item → Bool) (fate : Item → Fate) (scans takes : Nat)
    (items : List Item) : (sweep turn fate scans takes items).Sublist items := by
  fun_induction sweep turn fate scans takes items with
  | case1 => exact .slnil
  | case2 => exact List.Sublist.refl _
  | case3 => exact List.Sublist.refl _
  | case4 _ _ _ _ _ _ ih => exact ih.cons_cons _
  | case5 _ _ _ _ _ _ ih => exact ih.cons _
  | case6 _ _ _ _ _ _ ih => exact ih.cons _
  | case7 _ _ _ _ _ ih => exact ih.cons_cons _

/-- An item stays if it is not its turn, or if it stays when it is considered. -/
theorem mem_sweep (scans takes : Nat) (inside : item ∈ items)
    (safe : turn item = true → fate item = .stays) : item ∈ sweep turn fate scans takes items := by
  fun_induction sweep turn fate scans takes items with
  | case1 => cases inside
  | case2 => exact inside
  | case3 => exact inside
  | case4 _ _ other rest _ _ ih =>
    obtain rfl | inside := List.mem_cons.mp inside
    · exact List.mem_cons_self
    · exact List.mem_cons_of_mem _ (ih inside)
  | case5 _ _ other rest yes here ih =>
    obtain rfl | inside := List.mem_cons.mp inside
    · rw [safe yes] at here
      cases here
    · exact ih inside
  | case6 _ _ other rest yes here ih =>
    obtain rfl | inside := List.mem_cons.mp inside
    · rw [safe yes] at here
      cases here
    · exact ih inside
  | case7 _ _ other rest _ ih =>
    obtain rfl | inside := List.mem_cons.mp inside
    · exact List.mem_cons_self
    · exact List.mem_cons_of_mem _ (ih inside)

def stubborn (turn : Item → Bool) (fate : Item → Fate) (items : List Item) : Nat :=
  items.countP fun item => turn item && fate item = .stays

theorem stubborn_cons (first : Item) (front : List Item) :
    stubborn turn fate (first :: front) =
      stubborn turn fate front + if turn first && fate first = .stays then 1 else 0 :=
  List.countP_cons

/-- What a sweep leaves of a list that starts with an item that stays. -/
theorem sweep_cons_stays {scans takes : Nat} {first : Item} {rest : List Item}
    (mine : turn first = true) (here : fate first = .stays) :
    sweep turn fate (scans + 1) (takes + 1) (first :: rest) =
      first :: sweep turn fate scans (takes + 1) rest := by
  rw [sweep_cons, if_pos mine, here]

theorem sweep_cons_other {scans takes : Nat} {first : Item} {rest : List Item}
    (other : turn first = false) :
    sweep turn fate (scans + 1) (takes + 1) (first :: rest) =
      first :: sweep turn fate (scans + 1) (takes + 1) rest := by
  rw [sweep_cons, if_neg (by simp [other])]

theorem not_mem_sweep_cons {scans takes : Nat} {first : Item} {rest : List Item}
    (fresh : first ∉ rest) (mine : turn first = true) (goes : fate first ≠ .stays) :
    first ∉ sweep turn fate (scans + 1) (takes + 1) (first :: rest) := by
  rw [sweep_cons, if_pos mine]
  cases here : fate first with
  | stays => exact absurd here goes
  | taken => exact fun inside => fresh ((sweep_sublist _ _ _ _ _).subset inside)
  | vanishes => exact fun inside => fresh ((sweep_sublist _ _ _ _ _).subset inside)

/-- If fewer items before it stay than may be considered, a sweep takes the target away or an item
before it. -/
theorem sweep_progress {scans takes : Nat} (distinct : (front ++ target :: back).Nodup)
    (mine : turn target = true) (goes : fate target ≠ .stays)
    (few : stubborn turn fate front < scans) :
    target ∉ sweep turn fate scans (takes + 1) (front ++ target :: back) ∨
      ∃ item ∈ front, turn item = true ∧
        item ∉ sweep turn fate scans (takes + 1) (front ++ target :: back) := by
  induction front generalizing scans with
  | nil =>
    obtain ⟨left, rfl⟩ := Nat.exists_eq_add_one_of_ne_zero (Nat.ne_of_gt (Nat.zero_lt_of_lt few))
    exact .inl (not_mem_sweep_cons (List.nodup_cons.mp distinct).1 mine goes)
  | cons first front ih =>
    obtain ⟨left, rfl⟩ := Nat.exists_eq_add_one_of_ne_zero (Nat.ne_of_gt (Nat.zero_lt_of_lt few))
    rw [List.cons_append] at distinct ⊢
    obtain ⟨fresh, rest⟩ := List.nodup_cons.mp distinct
    rw [stubborn_cons] at few
    -- An item that stays in front of what is left changes nothing for the others.
    have behind {swept : List Item}
        (found : target ∉ swept ∨ ∃ item ∈ front, turn item = true ∧ item ∉ swept) :
        target ∉ first :: swept ∨
          ∃ item ∈ first :: front, turn item = true ∧ item ∉ first :: swept := by
      obtain absent | ⟨item, inside, yes, absent⟩ := found
      · refine .inl fun back => (List.mem_cons.mp back).elim (fun same => ?_) absent
        exact fresh (List.mem_append_right _ (same ▸ List.mem_cons_self))
      · refine .inr ⟨item, List.mem_cons_of_mem _ inside, yes, fun back => ?_⟩
        refine (List.mem_cons.mp back).elim (fun same => ?_) absent
        exact fresh (List.mem_append_left _ (same ▸ inside))
    cases yes : turn first with
    | false =>
      rw [sweep_cons_other yes]
      exact behind (ih rest (by simpa [yes] using few))
    | true =>
      by_cases here : fate first = .stays
      · rw [sweep_cons_stays yes here]
        exact behind (ih rest (by simpa [yes, here] using few))
      · exact .inr ⟨first, List.mem_cons_self, yes, not_mem_sweep_cons fresh yes here⟩

/-- If at least as many items before it stay as may be considered, a sweep does not reach the
target. -/
theorem sweep_starved {scans takes : Nat} (many : scans ≤ stubborn turn fate front) :
    target ∈ sweep turn fate scans takes (front ++ target :: back) := by
  induction front generalizing scans takes with
  | nil =>
    obtain rfl : scans = 0 := Nat.le_zero.mp many
    simp [sweep_exhausted]
  | cons first front ih =>
    rw [stubborn_cons] at many
    rw [List.cons_append]
    match scans, takes with
    | 0, _ => simp [sweep_exhausted]
    | _ + 1, 0 => simp [sweep_sated]
    | scans + 1, takes + 1 =>
      cases yes : turn first with
      | false =>
        rw [sweep_cons_other yes]
        exact List.mem_cons_of_mem _ (ih (by simpa [yes] using many))
      | true =>
        rw [sweep_cons, if_pos yes]
        cases here : fate first with
        | stays => exact List.mem_cons_of_mem _ (ih (by simpa [yes, here] using many))
        | taken => exact ih (by simp [yes, here] at many; omega)
        | vanishes => exact ih (by simp [yes, here] at many; omega)

end Once

/-! ### Sweep after sweep -/

/-- A run of sweeps over one list, each of which considers the items of one shard. -/
structure Sweeps (Item : Type) where
  shard : Item → Nat
  turn : Nat → Nat
  fate : Nat → Item → Fate
  scans : Nat
  takes : Nat
  left : Nat → List Item
  distinct : (left 0).Nodup
  step : ∀ pass, left (pass + 1) =
    sweep (fun item => shard item = turn pass) (fate pass) scans (takes + 1) (left pass)

namespace Sweeps

variable (run : Sweeps Item) {front back : List Item} {target : Item}

theorem left_sublist (pass : Nat) : (run.left pass).Sublist (run.left 0) := by
  induction pass with
  | zero => exact List.Sublist.refl _
  | succ pass ih =>
    rw [run.step]
    exact (sweep_sublist _ _ _ _ _).trans ih

theorem left_antitone {early late : Nat} (order : early ≤ late) :
    (run.left late).Sublist (run.left early) := by
  induction order with
  | refl => exact List.Sublist.refl _
  | step _ ih =>
    rw [Nat.succ_eq_add_one, run.step]
    exact (sweep_sublist _ _ _ _ _).trans ih

/-- As long as the target is there, what stands before it is some of what stood before it. -/
theorem left_split (whole : run.left 0 = front ++ target :: back) {pass : Nat}
    (inside : target ∈ run.left pass) :
    ∃ ahead behind, run.left pass = ahead ++ target :: behind ∧ ahead.Sublist front ∧
      ∀ item ∈ front, item ∈ run.left pass → item ∈ ahead := by
  have distinct := run.distinct
  rw [whole] at distinct
  have sub := run.left_sublist pass
  rw [whole] at sub
  obtain ⟨ahead, rest, split, inFront, inBack⟩ := List.sublist_append_iff.mp sub
  obtain ⟨-, backDistinct, apart⟩ := List.nodup_append.mp distinct
  have fresh : target ∉ back := (List.nodup_cons.mp backDistinct).1
  have stands : target ∈ rest := by
    rw [split] at inside
    refine (List.mem_append.mp inside).resolve_left fun early => ?_
    exact apart target (inFront.subset early) target List.mem_cons_self rfl
  have starts : ∃ behind, rest = target :: behind := by
    cases inBack with
    | cons _ later => exact absurd (later.subset stands) fresh
    | cons_cons _ later => exact ⟨_, rfl⟩
  obtain ⟨behind, rfl⟩ := starts
  refine ⟨ahead, behind, split, inFront, fun item first here => ?_⟩
  rw [split] at here
  refine (List.mem_append.mp here).resolve_right fun late => ?_
  exact apart item first item (inBack.subset late) rfl

theorem countP_lt {p q : Item → Bool} {items : List Item} {item : Item}
    (weaker : ∀ other ∈ items, q other = true → p other = true) (inside : item ∈ items)
    (holds : p item = true) (fails : q item = false) : items.countP q < items.countP p := by
  induction items with
  | nil => cases inside
  | cons first items ih =>
    have rest : items.countP q ≤ items.countP p :=
      List.countP_mono_left fun other member => weaker other (List.mem_cons_of_mem _ member)
    rw [List.countP_cons, List.countP_cons]
    obtain rfl | inside := List.mem_cons.mp inside
    · rw [if_pos holds, if_neg (by simp [fails])]
      omega
    · have fewer := ih (fun other member => weaker other (List.mem_cons_of_mem _ member)) inside
      by_cases here : q first = true
      · rw [if_pos here, if_pos (weaker first List.mem_cons_self here)]
        omega
      · rw [if_neg here]
        split <;> omega

section Coverage

variable [DecidableEq Item]

def ahead (front : List Item) (target : Item) (pass : Nat) : Nat :=
  front.countP fun item => run.shard item = run.shard target && item ∈ run.left pass

theorem ahead_antitone {early late : Nat} (order : early ≤ late) (front : List Item)
    (target : Item) : run.ahead front target late ≤ run.ahead front target early := by
  refine List.countP_mono_left fun item _ here => ?_
  simp only [Bool.and_eq_true, decide_eq_true_eq] at here ⊢
  exact ⟨here.1, (run.left_antitone order).subset here.2⟩

theorem ahead_lt (whole : run.left 0 = front ++ target :: back)
    (goes : ∀ pass, run.fate pass target ≠ .stays) (may : Item → Bool)
    (known : ∀ item pass, run.fate pass item = .stays → may item = true)
    (few : (front.countP fun item => run.shard item = run.shard target && may item) < run.scans)
    {pass : Nat} (turn : run.turn pass = run.shard target) (inside : target ∈ run.left pass) :
    target ∉ run.left (pass + 1) ∨
      run.ahead front target (pass + 1) < run.ahead front target pass := by
  obtain ⟨before, behind, split, part, -⟩ := run.left_split whole inside
  have distinct := (run.left_sublist pass).nodup run.distinct
  rw [split] at distinct
  have fewer : stubborn (fun item => run.shard item = run.turn pass) (run.fate pass) before <
      run.scans := by
    refine Nat.lt_of_le_of_lt (Nat.le_trans ?_ part.countP_le) few
    refine List.countP_mono_left fun item _ here => ?_
    simp only [Bool.and_eq_true, decide_eq_true_eq] at here ⊢
    exact ⟨here.1.trans turn, known item pass here.2⟩
  obtain absent | ⟨item, ahead, mine, absent⟩ :=
    sweep_progress distinct (by simp [turn]) (goes pass) fewer
  · rw [← split, ← run.step] at absent
    exact .inl absent
  · rw [← split, ← run.step] at absent
    refine .inr (countP_lt (fun other _ here => ?_) (part.subset ahead) ?_ ?_)
    · simp only [Bool.and_eq_true, decide_eq_true_eq] at here ⊢
      exact ⟨here.1, (run.left_antitone (Nat.le_succ pass)).subset here.2⟩
    · have same : run.shard item = run.turn pass := by simpa using mine
      simp [same, turn, split, ahead]
    · simp [absent]

/-- If its shard has its turn once in each period and fewer items before it may ever stay than a
pass considers, the target is taken away within a period for each item of its shard up to it. -/
theorem covered (whole : run.left 0 = front ++ target :: back)
    (goes : ∀ pass, run.fate pass target ≠ .stays) (may : Item → Bool)
    (known : ∀ item pass, run.fate pass item = .stays → may item = true)
    (few : (front.countP fun item => run.shard item = run.shard target && may item) < run.scans)
    {period : Nat}
    (cyclic : ∀ pass, ∃ later < period, run.turn (pass + later) = run.shard target) :
    target ∉ run.left
      (period * ((front.countP fun item => run.shard item = run.shard target) + 1)) := by
  have periods (round : Nat) : target ∉ run.left (period * round) ∨
      run.ahead front target (period * round) + round ≤
        front.countP fun item => run.shard item = run.shard target := by
    induction round with
    | zero =>
      refine .inr (List.countP_mono_left fun item _ here => ?_)
      simp only [Bool.and_eq_true] at here
      exact here.1
    | succ round ih =>
      obtain gone | less := ih
      · refine .inl fun back => gone ((run.left_antitone ?_).subset back)
        exact Nat.mul_le_mul_left _ (Nat.le_succ round)
      · obtain ⟨later, soon, turn⟩ := cyclic (period * round)
        have after : period * round + later + 1 ≤ period * (round + 1) := by
          rw [Nat.mul_succ]
          omega
        by_cases inside : target ∈ run.left (period * round + later)
        · obtain gone | fewer := run.ahead_lt whole goes may known few turn inside
          · exact .inl fun back => gone ((run.left_antitone after).subset back)
          · have before := run.ahead_antitone (Nat.le_add_right (period * round) later) front target
            have behind := run.ahead_antitone after front target
            exact .inr (by omega)
        · refine .inl fun back => inside ((run.left_antitone ?_).subset back)
          omega
  refine (periods _).resolve_right fun less => ?_
  omega

omit [DecidableEq Item] in
/-- If at least as many items of its shard before it stay in every pass as a pass considers, the
target is never taken away. -/
theorem starved (whole : run.left 0 = front ++ target :: back) (never : Item → Bool)
    (known : ∀ item pass, never item = true → run.fate pass item = .stays)
    (many : run.scans ≤
      front.countP fun item => run.shard item = run.shard target && never item) (pass : Nat) :
    target ∈ run.left pass := by
  have kept (item : Item) (stays : never item = true) (inside : item ∈ run.left 0) (pass : Nat) :
      item ∈ run.left pass := by
    induction pass with
    | zero => exact inside
    | succ pass ih =>
      rw [run.step]
      exact mem_sweep _ _ ih fun _ => known item pass stays
  induction pass with
  | zero =>
    rw [whole]
    simp
  | succ pass ih =>
    rw [run.step]
    by_cases turn : run.shard target = run.turn pass
    · obtain ⟨before, behind, split, -, still⟩ := run.left_split whole ih
      rw [split]
      refine sweep_starved (Nat.le_trans many ?_)
      have distinct := run.distinct
      rw [whole] at distinct
      rw [stubborn, List.countP_eq_length_filter, List.countP_eq_length_filter]
      refine List.Nodup.length_le_of_subset ((List.nodup_append.mp distinct).1.filter _) ?_
      intro item inside
      simp only [List.mem_filter, Bool.and_eq_true, decide_eq_true_eq] at inside ⊢
      obtain ⟨first, shard, stays⟩ := inside
      refine ⟨still item first (kept item stays ?_ pass), shard.trans turn, known item pass stays⟩
      rw [whole]
      exact List.mem_append_left _ first
    · exact mem_sweep _ _ ih fun mine => absurd (by simpa using mine) turn

end Coverage

end Sweeps

end Sweep
