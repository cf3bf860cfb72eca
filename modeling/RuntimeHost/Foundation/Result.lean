import Mathlib

namespace RuntimeHost.Foundation

variable {ε α β : Type}

theorem bind_eq_ok {x : Except ε α} {f : α → Except ε β} {b : β} :
    (x >>= f) = .ok b ↔ ∃ a, x = .ok a ∧ f a = .ok b := by
  cases x <;> simp [Bind.bind, Except.bind]

theorem bind_eq_error {x : Except ε α} {f : α → Except ε β} {e : ε} :
    (x >>= f) = .error e ↔ x = .error e ∨ ∃ a, x = .ok a ∧ f a = .error e := by
  cases x <;> simp [Bind.bind, Except.bind]

@[simp] theorem ok_bind (a : α) (f : α → Except ε β) : ((.ok a : Except ε α) >>= f) = f a := rfl

@[simp] theorem error_bind (e : ε) (f : α → Except ε β) :
    ((.error e : Except ε α) >>= f) = .error e := rfl

@[simp] theorem pure_eq_ok (a : α) : (pure a : Except ε α) = .ok a := rfl

def orError {ε' : Type} (e : ε) : Except ε' α → Except ε α
  | .ok a => .ok a
  | .error _ => .error e

@[simp] theorem orError_ok {ε' : Type} (e : ε) (x : Except ε' α) (a : α) :
    orError e x = .ok a ↔ x = .ok a := by
  cases x <;> simp [orError]

def okOr (e : ε) : Option α → Except ε α
  | some a => .ok a
  | none => .error e

@[simp] theorem okOr_eq_ok (e : ε) (x : Option α) (a : α) : okOr e x = .ok a ↔ x = some a := by
  cases x <;> simp [okOr]

theorem ite_error_eq_ok {p : Prop} [Decidable p] {e : ε} {x : Except ε α} {a : α} :
    (if p then .error e else x) = .ok a ↔ ¬p ∧ x = .ok a := by
  split <;> simp_all

variable {σ : Type}

@[simp] theorem throw_eq_error (e : ε) : (throw e : Except ε α) = .error e := rfl

@[simp] theorem run_lift (x : Except ε α) (s : σ) :
    (liftM x : StateT σ (Except ε) α).run s = x.map fun a => (a, s) := by
  cases x <;> rfl

theorem run_bind_eq_ok {x : StateT σ (Except ε) α} {f : α → StateT σ (Except ε) β} {s : σ}
    {r : β × σ} :
    (x >>= f).run s = .ok r ↔ ∃ a t, x.run s = .ok (a, t) ∧ (f a).run t = .ok r := by
  rw [StateT.run_bind, bind_eq_ok]
  simp

end RuntimeHost.Foundation
