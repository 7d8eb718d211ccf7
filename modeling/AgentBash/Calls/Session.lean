import Mathlib.Data.List.Basic

/-!
# Calls at their instants

A session asks its environment one thing after another and keeps the record of it. Anything may
change between two calls, so what the environment answers depends on the instant of the call: the
number of calls made before it.
-/

set_option autoImplicit false

namespace Calls

variable {Ask : Type} {Answer : Ask → Type} {α β : Type}

structure Call (Answer : Ask → Type) where
  ask : Ask
  answer : Answer ask

abbrev Record (Answer : Ask → Type) := List (Call Answer)

abbrev Environment (Answer : Ask → Type) := Nat → (ask : Ask) → Answer ask

inductive Session (Answer : Ask → Type) (α : Type) where
  | done (value : α)
  | call (ask : Ask) (next : Answer ask → Session Answer α)

namespace Session

protected def bind : Session Answer α → (α → Session Answer β) → Session Answer β
  | .done value, next => next value
  | .call ask rest, next => .call ask fun answer => (rest answer).bind next

instance : Monad (Session Answer) where
  pure := .done
  bind := Session.bind

def ask (question : Ask) : Session Answer (Answer question) := .call question .done

def run (environment : Environment Answer) : Session Answer α → Record Answer → α × Record Answer
  | .done value, record => (value, record)
  | .call question next, record =>
      (next (environment record.length question)).run environment
        (record ++ [⟨question, environment record.length question⟩])

variable {environment : Environment Answer} {act : Session Answer α} {next : α → Session Answer β}
  {record : Record Answer}

theorem run_ask (question : Ask) :
    (ask question : Session Answer _).run environment record =
      (environment record.length question,
        record ++ [⟨question, environment record.length question⟩]) := rfl

theorem run_bind : (act >>= next).run environment record =
    (next (act.run environment record).1).run environment (act.run environment record).2 := by
  induction act generalizing record with
  | done value => rfl
  | call question rest ih => exact ih _

theorem run_grows (environment : Environment Answer) (act : Session Answer α)
    (record : Record Answer) : record <+: (act.run environment record).2 := by
  induction act generalizing record with
  | done value => exact List.prefix_rfl
  | call question rest ih => exact (List.prefix_append _ _).trans (ih _ _)

end Session

/-- What a session that ends by the instant `last` has returned and recorded. -/
def Ends (environment : Environment Answer) (last : Nat) (record : Record Answer)
    (act : Session Answer α) (post : α → Record Answer → Prop) : Prop :=
  (act.run environment record).2.length ≤ last →
    post (act.run environment record).1 (act.run environment record).2

namespace Ends

variable {environment : Environment Answer} {last : Nat} {record : Record Answer}
  {act : Session Answer α} {next : α → Session Answer β} {mid post : α → Record Answer → Prop}
  {finally_ : β → Record Answer → Prop}

theorem pure {value : α} (holds : post value record) :
    Ends environment last record (Pure.pure value : Session Answer α) post := fun _ => holds

theorem bind (first : Ends environment last record act mid)
    (then_ : ∀ value later, record <+: later → mid value later →
      Ends environment last later (next value) finally_) :
    Ends environment last record (act >>= next) finally_ := by
  intro within
  rw [Session.run_bind] at within ⊢
  have grows := Session.run_grows environment (next (act.run environment record).1)
    (act.run environment record).2
  have early : (act.run environment record).2.length ≤ last := Nat.le_trans grows.length_le within
  exact then_ _ _ (Session.run_grows environment act record) (first early) within

theorem ask_bind {question : Ask} {next : Answer question → Session Answer β}
    (then_ : record.length < last → ∀ answer, environment record.length question = answer →
      Ends environment last (record ++ [⟨question, answer⟩]) (next answer) finally_) :
    Ends environment last record (Session.ask question >>= next) finally_ := by
  intro within
  rw [Session.run_bind, Session.run_ask] at within ⊢
  have grows := Session.run_grows environment (next (environment record.length question))
    (record ++ [⟨question, environment record.length question⟩])
  have early := Nat.le_trans grows.length_le within
  rw [List.length_append] at early
  exact then_ early _ rfl within

theorem imp (ends : Ends environment last record act mid)
    (weaker : ∀ value later, record <+: later → later.length ≤ last → mid value later →
      post value later) : Ends environment last record act post :=
  fun within => weaker _ _ (Session.run_grows environment act record) within (ends within)

theorem and {other : α → Record Answer → Prop} (one : Ends environment last record act post)
    (two : Ends environment last record act other) :
    Ends environment last record act fun value later => post value later ∧ other value later :=
  fun within => ⟨one within, two within⟩

theorem whole (ends : Ends environment (act.run environment record).2.length record act post) :
    post (act.run environment record).1 (act.run environment record).2 := ends (Nat.le_refl _)

/-- A search for a hit. Where it finds none, every test has missed, and what a miss has shown is
still so in a longer record. -/
theorem anyM {test : α → Session Answer Bool} {items : List α} {stage : Record Answer → Prop}
    {missed : α → Record Answer → Prop} (begins : stage record)
    (lasts : ∀ item earlier later, earlier <+: later → missed item earlier → missed item later)
    (tested : ∀ item ∈ items, ∀ now, record <+: now → stage now →
      Ends environment last now (test item) fun hit later =>
        stage later ∧ (hit = false → missed item later)) :
    Ends environment last record (items.anyM test) fun hit later =>
      stage later ∧ (hit = false → ∀ item ∈ items, missed item later) := by
  induction items generalizing record with
  | nil =>
      rw [List.anyM_nil]
      exact pure ⟨begins, fun _ item inside => absurd inside List.not_mem_nil⟩
  | cons item items ih =>
      rw [List.anyM_cons]
      refine bind (tested item List.mem_cons_self record List.prefix_rfl begins) ?_
      intro hit now grown shown
      cases hit with
      | true => exact pure ⟨shown.1, fun none => Bool.noConfusion none⟩
      | false =>
          have rest := ih shown.1 fun other inside later further =>
            tested other (List.mem_cons_of_mem _ inside) later (grown.trans further)
          refine rest.imp fun hit later further _ found => ⟨found.1, fun none => ?_⟩
          intro other inside
          rcases List.mem_cons.mp inside with rfl | inside
          · exact lasts _ _ _ further (shown.2 rfl)
          · exact found.2 none other inside

theorem anyM_misses {test : α → Session Answer Bool} {items : List α}
    (misses : ∀ item ∈ items, ∀ now, Ends environment last now (test item) fun hit _ => hit = false) :
    Ends environment last record (items.anyM test) fun hit _ => hit = false := by
  induction items generalizing record with
  | nil =>
      rw [List.anyM_nil]
      exact pure rfl
  | cons item items ih =>
      rw [List.anyM_cons]
      refine bind (misses item List.mem_cons_self record) fun hit now _ missed => ?_
      subst missed
      exact ih fun other inside => misses other (List.mem_cons_of_mem _ inside)

theorem forM_keeps {body : α → Session Answer PUnit} {items : List α} {stage : Record Answer → Prop}
    (begins : stage record)
    (keeps : ∀ item ∈ items, ∀ now, record <+: now → stage now →
      Ends environment last now (body item) fun _ later => stage later) :
    Ends environment last record (items.forM body) fun _ later => stage later := by
  induction items generalizing record with
  | nil => exact pure begins
  | cons item items ih =>
      change Ends environment last record (body item >>= fun _ => items.forM body) _
      refine bind (keeps item List.mem_cons_self record List.prefix_rfl begins) ?_
      intro _ now grown shown
      exact ih shown fun other inside later further =>
        keeps other (List.mem_cons_of_mem _ inside) later (grown.trans further)

theorem forM_does {body : α → Session Answer PUnit} {items : List α} {item : α}
    {stage : Record Answer → Prop} (inside : item ∈ items)
    (lasts : ∀ earlier later, earlier <+: later → stage earlier → stage later)
    (does : ∀ now, Ends environment last now (body item) fun _ later => stage later) :
    Ends environment last record (items.forM body) fun _ later => stage later := by
  induction items generalizing record with
  | nil => exact absurd inside List.not_mem_nil
  | cons other items ih =>
      change Ends environment last record (body other >>= fun _ => items.forM body) _
      rcases List.mem_cons.mp inside with rfl | inside
      · refine bind (does record) fun _ now _ done => ?_
        exact fun _ => lasts now _ (Session.run_grows environment (items.forM body) now) done
      · have passes : Ends environment last record (body other) fun _ _ => True := fun _ => trivial
        exact bind passes fun _ _ _ _ => ih inside

end Ends

end Calls
