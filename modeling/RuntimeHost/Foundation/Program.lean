import Mathlib

namespace RuntimeHost.Foundation

/-- A computation that asks for operations one at a time and goes on with their answers. -/
inductive Prog (Op : Type) (Answer : Op → Type) (α : Type) : Type where
  | done (a : α)
  | act (op : Op) (next : Answer op → Prog Op Answer α)

namespace Prog

variable {Op Op' : Type} {Answer : Op → Type} {Answer' : Op' → Type} {α β γ : Type}

def bind : Prog Op Answer α → (α → Prog Op Answer β) → Prog Op Answer β
  | .done a, f => f a
  | .act op next, f => .act op fun answer => (next answer).bind f

instance : Monad (Prog Op Answer) where
  pure := .done
  bind := .bind

def perform (op : Op) : Prog Op Answer (Answer op) := .act op .done

/-- Runs a program over other operations, each of its own spelled out by `impl`. -/
def handle (impl : ∀ op, Prog Op' Answer' (Answer op)) : Prog Op Answer α → Prog Op' Answer' α
  | .done a => .done a
  | .act op next => (impl op).bind fun answer => (next answer).handle impl

/-- However its operations are answered, the program ends with a result in `post`. -/
def Ends (post : α → Prop) : Prog Op Answer α → Prop
  | .done a => post a
  | .act _ next => ∀ answer, (next answer).Ends post

def Only (ok : Op → Prop) : Prog Op Answer α → Prop
  | .done _ => True
  | .act op next => ok op ∧ ∀ answer, (next answer).Only ok

@[simp] theorem pure_eq_done (a : α) : (pure a : Prog Op Answer α) = .done a := rfl

@[simp] theorem done_bind (a : α) (f : α → Prog Op Answer β) : (Prog.done a >>= f) = f a := rfl

@[simp] theorem act_bind (op : Op) (next : Answer op → Prog Op Answer α) (f : α → Prog Op Answer β) :
    (Prog.act op next >>= f) = .act op fun answer => next answer >>= f := rfl

@[simp] theorem perform_bind (op : Op) (f : Answer op → Prog Op Answer β) :
    (perform op >>= f) = .act op f := rfl

@[simp] theorem bind_done (p : Prog Op Answer α) : p >>= .done = p := by
  induction p with
  | done a => rfl
  | act op next ih =>
    rw [act_bind]
    congr 1
    funext answer
    exact ih answer

@[simp] theorem bind_bind (p : Prog Op Answer α) (f : α → Prog Op Answer β) (g : β → Prog Op Answer γ) :
    p >>= f >>= g = p >>= fun a => f a >>= g := by
  induction p with
  | done a => rfl
  | act op next ih =>
    simp only [act_bind]
    congr 1
    funext answer
    exact ih answer

section Handle

variable (impl : ∀ op, Prog Op' Answer' (Answer op))

@[simp] theorem handle_done (a : α) : (Prog.done a : Prog Op Answer α).handle impl = .done a := rfl

@[simp] theorem handle_act (op : Op) (next : Answer op → Prog Op Answer α) :
    (Prog.act op next).handle impl = impl op >>= fun answer => (next answer).handle impl := rfl

@[simp] theorem handle_bind (p : Prog Op Answer α) (f : α → Prog Op Answer β) :
    (p >>= f).handle impl = p.handle impl >>= fun a => (f a).handle impl := by
  induction p with
  | done a => rfl
  | act op next ih =>
    simp only [act_bind, handle_act, bind_bind]
    congr 1
    funext answer
    exact ih answer

theorem handle_handle {Op'' : Type} {Answer'' : Op'' → Type} (impl' : ∀ op, Prog Op'' Answer'' (Answer' op))
    (p : Prog Op Answer α) : (p.handle impl).handle impl' = p.handle fun op => (impl op).handle impl' := by
  induction p with
  | done a => rfl
  | act op next ih => simp only [handle_act, handle_bind, ih]

end Handle

section Ends

variable {post post' : α → Prop}

theorem Ends.imp {p : Prog Op Answer α} (ends : p.Ends post) (weaker : ∀ a, post a → post' a) :
    p.Ends post' := by
  induction p with
  | done a => exact weaker a ends
  | act op next ih =>
    intro answer
    exact ih answer (ends answer)

theorem Ends.bind {p : Prog Op Answer α} {f : α → Prog Op Answer β} {post : β → Prop}
    (ends : p.Ends fun a => (f a).Ends post) : (p >>= f).Ends post := by
  induction p with
  | done a => exact ends
  | act op next ih =>
    intro answer
    exact ih answer (ends answer)

theorem Ends.bind_done {p : Prog Op Answer α} {post : α → Prop} {f : α → Prog Op Answer α} (ends : p.Ends post)
    (same : ∀ a, post a → f a = .done a) : p >>= f = p := by
  induction p with
  | done a => exact same a ends
  | act op next ih =>
    refine congrArg (Prog.act op) ?_
    funext answer
    exact ih answer (ends answer)

end Ends

section Only

variable {ok ok' : Op → Prop}

theorem Only.imp {p : Prog Op Answer α} (only : p.Only ok) (weaker : ∀ op, ok op → ok' op) :
    p.Only ok' := by
  induction p with
  | done a => trivial
  | act op next ih => exact ⟨weaker op only.1, fun answer => ih answer (only.2 answer)⟩

theorem Only.bind {p : Prog Op Answer α} {f : α → Prog Op Answer β} (first : p.Only ok)
    (rest : ∀ a, (f a).Only ok) : (p >>= f).Only ok := by
  induction p with
  | done a => exact rest a
  | act op next ih => exact ⟨first.1, fun answer => ih answer (first.2 answer)⟩

theorem Only.handle {impl : ∀ op, Prog Op' Answer' (Answer op)} {ok : Op' → Prop}
    (each : ∀ op, (impl op).Only ok) (p : Prog Op Answer α) : (p.handle impl).Only ok := by
  induction p with
  | done a => trivial
  | act op next ih => exact .bind (each op) ih

end Only

section Yields

/-- With these answers to its operations in turn, the program comes to the result. -/
def Yields : Prog Op Answer α → List ((op : Op) × Answer op) → α → Prop
  | .done a, steps, result => steps = [] ∧ result = a
  | .act op next, steps, result => ∃ answer later, steps = ⟨op, answer⟩ :: later ∧ (next answer).Yields later result

theorem yields_bind {p : Prog Op Answer α} {f : α → Prog Op Answer β} {steps : List ((op : Op) × Answer op)}
    {result : β} : (p >>= f).Yields steps result ↔
      ∃ first second a, steps = first ++ second ∧ p.Yields first a ∧ (f a).Yields second result := by
  induction p generalizing steps with
  | done a => simp [Yields]
  | act op next ih =>
    simp only [act_bind, Yields, ih]
    constructor
    · rintro ⟨answer, _, rfl, first, second, a, rfl, left, right⟩
      exact ⟨_ :: first, second, a, rfl, ⟨answer, first, rfl, left⟩, right⟩
    · rintro ⟨_, second, a, rfl, ⟨answer, first, rfl, left⟩, right⟩
      exact ⟨answer, _, rfl, first, second, a, rfl, left, right⟩

theorem Yields.unique {p : Prog Op Answer α} {first first' later later' : List ((op : Op) × Answer op)} {a a' : α}
    (yields : p.Yields first a) (yields' : p.Yields first' a') (same : first ++ later = first' ++ later') :
    a = a' ∧ later = later' := by
  induction p generalizing first first' with
  | done =>
    obtain ⟨rfl, rfl⟩ := yields
    obtain ⟨rfl, rfl⟩ := yields'
    exact ⟨rfl, same⟩
  | act op next ih =>
    obtain ⟨answer, rest, rfl, yields⟩ := yields
    obtain ⟨answer', rest', rfl, yields'⟩ := yields'
    obtain ⟨here, rests⟩ := List.cons.inj same
    cases here
    exact ih answer yields yields' rests

end Yields

section Answered

variable (answers : ℕ → ∀ op, Answer op)

/-- The steps and the result of a program whose operation in each place gets the answer of that place. -/
def answered : Prog Op Answer α → ℕ → List ((op : Op) × Answer op) × α
  | .done a, _ => ([], a)
  | .act op next, place =>
    let rest := (next (answers place op)).answered (place + 1)
    (⟨op, answers place op⟩ :: rest.1, rest.2)

theorem answered_bind (p : Prog Op Answer α) (f : α → Prog Op Answer β) (place : ℕ) :
    (p >>= f).answered answers place =
      let first := p.answered answers place
      let second := (f first.2).answered answers (place + first.1.length)
      (first.1 ++ second.1, second.2) := by
  induction p generalizing place with
  | done a => rfl
  | act op next ih =>
    simp only [act_bind, answered, ih, List.length_cons, List.cons_append]
    rw [Nat.add_right_comm, Nat.add_assoc]

end Answered

end Prog

end RuntimeHost.Foundation
