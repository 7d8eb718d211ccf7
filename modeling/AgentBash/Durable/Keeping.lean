import AgentBash.Durable.Spec

/-!
# Scripts that keep a state of their own

A `Keeping` script carries a local value that survives its errors, as a value with methods
does when one of them returns early.
-/

namespace AgentBash.Durable

set_option autoImplicit false

def Keeping (I : Interface) (κ α : Type) : Type := κ → Io I (Except IoError α × κ)

namespace Keeping

variable {I : Interface} {κ α β : Type}

instance : Monad (Keeping I κ) where
  pure value := fun kept => Pure.pure (.ok value, kept)
  bind script rest := fun kept => do
    match ← script kept with
    | (.ok value, kept) => rest value kept
    | (.error error, kept) => Pure.pure (.error error, kept)

def throw (error : IoError) : Keeping I κ α := fun kept => Pure.pure (.error error, kept)

def lift (script : Io I α) : Keeping I κ α := fun kept => do
  let result ← script.attempt
  Pure.pure (result, kept)

def now : Keeping I κ κ := fun kept => Pure.pure (.ok kept, kept)

def modify (change : κ → κ) : Keeping I κ Unit := fun kept => Pure.pure (.ok (), change kept)

variable {σ γ : Type} {S : System I σ} {D : Discipline S γ} {policy : System.Policy S} {pid : Nat}

/-- From a view with `P` and a kept value the script ends with a result and a kept value. -/
def Ends (D : Discipline S γ) (policy : System.Policy S) (pid : Nat) (P : σ × γ → Prop) (kept : κ)
    (script : Keeping I κ α) (Q : Except IoError α → κ → σ × γ → Prop) : Prop :=
  Spec D policy pid P (script kept) fun
    | .ok (result, kept) => Q result kept
    | .error _ => fun _ => False

namespace Ends

variable {P : σ × γ → Prop} {kept : κ} {script : Keeping I κ α} {rest : α → Keeping I κ β}
  {Q : Except IoError α → κ → σ × γ → Prop} {R : Except IoError β → κ → σ × γ → Prop}

theorem pure {value : α} (holds : ∀ view, D.Inv view → P view → Q (.ok value) kept view) :
    Ends D policy pid P kept (Pure.pure value) Q :=
  Spec.pure holds

theorem throw {error : IoError} (holds : ∀ view, D.Inv view → P view → Q (.error error) kept view) :
    Ends D policy pid P kept (Keeping.throw error) Q :=
  Spec.pure holds

theorem modify {change : κ → κ} {Q : Except IoError Unit → κ → σ × γ → Prop}
    (holds : ∀ view, D.Inv view → P view → Q (.ok ()) (change kept) view) :
    Ends D policy pid P kept (Keeping.modify change) Q :=
  Spec.pure holds

theorem now {rest : κ → Keeping I κ β} (ends : Ends D policy pid P kept (rest kept) R) :
    Ends D policy pid P kept (Keeping.now >>= rest) R :=
  ends

theorem lift {body : Io I α} (spec : Spec D policy pid P body fun result => Q result kept) :
    Ends D policy pid P kept (Keeping.lift body) Q :=
  Spec.handle spec fun _ => Spec.pure fun _ _ holds => holds

theorem bind (first : Ends D policy pid P kept script Q)
    (value : ∀ value kept, Ends D policy pid (Q (.ok value) kept) kept (rest value) R)
    (error : ∀ error kept view, Q (.error error) kept view → R (.error error) kept view) :
    Ends D policy pid P kept (script >>= rest) R := by
  refine Spec.bind first (fun answer => ?_) fun _ _ _ impossible => impossible.elim
  obtain ⟨result, kept⟩ := answer
  cases result with
  | ok found => exact value found kept
  | error failure => exact Spec.pure fun view _ holds => error failure kept view holds

theorem lifted {body : Io I α} {Q : Except IoError α → σ × γ → Prop}
    (first : Spec D policy pid P body Q)
    (value : ∀ value, Ends D policy pid (Q (.ok value)) kept (rest value) R)
    (error : ∀ error view, Q (.error error) view → R (.error error) kept view) :
    Ends D policy pid P kept (Keeping.lift body >>= rest) R := by
  apply Spec.bind (Q := byResult
    (fun answer view => answer.2 = kept ∧ Q answer.1 view) fun _ _ => False)
  · exact Spec.handle first fun _ => Spec.pure fun _ _ holds => ⟨rfl, holds⟩
  · rintro ⟨result, kept'⟩
    apply Spec.assume
    rintro rfl
    cases result with
    | ok found => exact value found
    | error failure => exact Spec.pure fun view _ holds => error failure view holds
  · exact fun _ _ _ impossible => impossible.elim

theorem modified {change : κ → κ} {rest : Unit → Keeping I κ β}
    (ends : Ends D policy pid P (change kept) (rest ()) R) :
    Ends D policy pid P kept (Keeping.modify change >>= rest) R :=
  ends

theorem branch {c : Prop} [Decidable c] {yes no : Keeping I κ α}
    (left : c → Ends D policy pid P kept yes Q) (right : ¬ c → Ends D policy pid P kept no Q) :
    Ends D policy pid P kept (if c then yes else no) Q := by
  by_cases holds : c
  · rw [if_pos holds]
    exact left holds
  · rw [if_neg holds]
    exact right holds

end Ends

/-- A script that leaves an assertion as it found it, whatever it answers and keeps. -/
abbrev Steady (D : Discipline S γ) (policy : System.Policy S) (pid : Nat) (P : σ × γ → Prop)
    (script : Keeping I κ α) : Prop :=
  ∀ kept, Ends D policy pid P kept script fun _ _ => P

namespace Steady

variable {P : σ × γ → Prop} {script : Keeping I κ α} {rest : α → Keeping I κ β}

theorem pure {value : α} : Steady D policy pid P (Pure.pure value : Keeping I κ α) :=
  fun _ => Ends.pure fun _ _ holds => holds

theorem throw {error : IoError} : Steady D policy pid P (Keeping.throw error : Keeping I κ α) :=
  fun _ => Ends.throw fun _ _ holds => holds

theorem modify {change : κ → κ} : Steady D policy pid P (Keeping.modify (I := I) change) :=
  fun _ => Ends.modify fun _ _ holds => holds

theorem now : Steady D policy pid P (Keeping.now (I := I) (κ := κ)) :=
  fun _ => Ends.pure fun _ _ holds => holds

theorem lift {body : Io I α} (steady : Durable.Steady D policy pid P body) :
    Steady D policy pid P (Keeping.lift body : Keeping I κ α) :=
  fun _ => Ends.lift steady

theorem bind (first : Steady D policy pid P script)
    (value : ∀ value, Steady D policy pid P (rest value)) :
    Steady D policy pid P (script >>= rest) :=
  fun kept => Ends.bind (first kept) (fun found kept => value found kept) fun _ _ _ holds => holds

theorem branch {c : Prop} [Decidable c] {yes no : Keeping I κ α}
    (left : Steady D policy pid P yes) (right : Steady D policy pid P no) :
    Steady D policy pid P (if c then yes else no) :=
  fun kept => Ends.branch (fun _ => left kept) fun _ => right kept

theorem run (steady : Steady D policy pid P script) (kept : κ) :
    Durable.Steady D policy pid P (script kept) :=
  (steady kept).relax fun answer _ _ holds =>
    match answer, holds with
    | .ok _, holds => holds
    | .error _, impossible => impossible.elim

end Steady

end Keeping

end AgentBash.Durable
