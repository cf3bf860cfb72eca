import RuntimeHost.Foundation.Interleaving

namespace RuntimeHost.Foundation

open Function

namespace Prog

variable {Op Op' : Type} {Answer : Op → Type} {Answer' : Op' → Type} {S α β : Type}

/-- Wherever the answers to its operations take it, the program stays in `inv`, and it ends in `post`. -/
def Ensures (step : S → (op : Op) → Answer op → S → Prop) (inv : S → Prop) (post : α → S → Prop) :
    Prog Op Answer α → S → Prop
  | .done a, x => inv x ∧ post a x
  | .act op next, x => inv x ∧ ∀ answer x', step x op answer x' → (next answer).Ensures step inv post x'

variable {step : S → (op : Op) → Answer op → S → Prop} {inv : S → Prop} {p : Prog Op Answer α} {x : S}

theorem Ensures.within {post : α → S → Prop} (ensures : p.Ensures step inv post x) : inv x := by
  cases p with
  | done a => exact ensures.1
  | act op next => exact ensures.1

theorem Ensures.imp {post post' : α → S → Prop} (ensures : p.Ensures step inv post x)
    (weaker : ∀ a x', inv x' → post a x' → post' a x') : p.Ensures step inv post' x := by
  induction p generalizing x with
  | done a => exact ⟨ensures.1, weaker a x ensures.1 ensures.2⟩
  | act op next ih => exact ⟨ensures.1, fun answer x' moved => ih answer (ensures.2 answer x' moved)⟩

theorem Ensures.bind {post : β → S → Prop} {f : α → Prog Op Answer β}
    (ensures : p.Ensures step inv (fun a => (f a).Ensures step inv post) x) : (p >>= f).Ensures step inv post x := by
  induction p generalizing x with
  | done a => exact ensures.2
  | act op next ih => exact ⟨ensures.1, fun answer x' moved => ih answer (ensures.2 answer x' moved)⟩

theorem Ensures.still {ok : Op → Prop} (only : p.Only ok) (here : inv x)
    (same : ∀ op answer x', ok op → step x op answer x' → x' = x) : p.Ensures step inv (fun _ x' => x' = x) x := by
  induction p with
  | done a => exact ⟨here, rfl⟩
  | act op next ih =>
    refine ⟨here, fun answer x' moved => ?_⟩
    obtain rfl := same op answer x' only.1 moved
    exact ih answer (only.2 answer)

end Prog

namespace System

variable {Tid State Op : Type} {Answer : Op → Type} {Task Result S : Type} [DecidableEq Tid]

/-- A part of the state belongs to one thread: the tasks of the others are guests, whose operations leave it as it is. What
is known of a task that comes to its end is in `ends`. -/
structure Owns (sys : System Tid State Op Answer Task Result) (owner : Tid) (view : State → S)
    (step : S → (op : Op) → Answer op → S → Prop) (inv rest : S → Prop) (post : Task → Result → S → Prop)
    (ends : Task → Result → State → Prop) (guest : Task → Prop) (shared : Op → Prop) : Prop where
  calm : ∀ x, rest x → inv x
  start : ∀ task s s', rest (view s) → sys.start owner task s s' →
    (sys.code task).Ensures step inv (post task) (view s')
  exec : ∀ op s answer s', sys.exec owner op s answer s' → step (view s) op answer (view s')
  finish : ∀ task result s s', inv (view s) → post task result (view s) → ends task result s →
    sys.finish owner task result s s' → rest (view s')
  visit : ∀ t task s s', t ≠ owner → sys.start t task s s' → view s' = view s ∧ guest task ∧ (sys.code task).Only shared
  pass : ∀ t op s answer s', t ≠ owner → shared op → sys.exec t op s answer s' → view s' = view s
  leave : ∀ t task result s s', t ≠ owner → guest task → sys.finish t task result s s' → view s' = view s
  env : ∀ s s', sys.env s s' → view s' = view s

namespace Owns

variable {sys : System Tid State Op Answer Task Result} {owner : Tid} {view : State → S}
  {step : S → (op : Op) → Answer op → S → Prop} {inv rest : S → Prop} {post : Task → Result → S → Prop}
  {ends : Task → Result → State → Prop} {guest : Task → Prop} {shared : Op → Prop} {initial : State → Prop}
  {c c' : Config Tid State Op Answer Task Result}

def Holds (step : S → (op : Op) → Answer op → S → Prop) (inv rest : S → Prop) (post : Task → Result → S → Prop) (x : S) :
    Activity Op Answer Task Result → Prop
  | .idle => rest x
  | .running task p => p.Ensures step inv (post task) x

def Visits (guest : Task → Prop) (shared : Op → Prop) : Activity Op Answer Task Result → Prop
  | .idle => True
  | .running task p => guest task ∧ p.Only shared

def Kept (owner : Tid) (view : State → S) (step : S → (op : Op) → Answer op → S → Prop) (inv rest : S → Prop)
    (post : Task → Result → S → Prop) (guest : Task → Prop) (shared : Op → Prop)
    (c : Config Tid State Op Answer Task Result) : Prop :=
  Holds step inv rest post (view c.state) (c.threads owner) ∧ ∀ t, t ≠ owner → Visits guest shared (c.threads t)

theorem kept_step (owns : sys.Owns owner view step inv rest post ends guest shared)
    (known : ∀ task r, c.threads owner = .running task (.done r) → ends task r c.state)
    (kept : Kept owner view step inv rest post guest shared c) (moved : sys.Step c c') :
    Kept owner view step inv rest post guest shared c' := by
  obtain ⟨holds, visits⟩ := kept
  have others : ∀ {s : State} {t : Tid} {activity : Activity Op Answer Task Result}, t ≠ owner →
      view s = view c.state → Visits guest shared activity →
      Kept owner view step inv rest post guest shared ⟨s, update c.threads t activity⟩ := by
    intro s t activity other same here
    refine ⟨?_, fun t' other' => ?_⟩
    · show Holds step inv rest post (view s) (update c.threads t activity owner)
      rw [update_of_ne other.symm, same]
      exact holds
    · show Visits guest shared (update c.threads t activity t')
      by_cases this : t' = t
      · subst this
        rw [update_self]
        exact here
      · rw [update_of_ne this]
        exact visits t' other'
  have own : ∀ {s : State} {activity : Activity Op Answer Task Result}, Holds step inv rest post (view s) activity →
      Kept owner view step inv rest post guest shared ⟨s, update c.threads owner activity⟩ := by
    intro s activity here
    refine ⟨?_, fun t' other => ?_⟩
    · show Holds step inv rest post (view s) (update c.threads owner activity owner)
      rw [update_self]
      exact here
    · show Visits guest shared (update c.threads owner activity t')
      rw [update_of_ne other]
      exact visits t' other
  cases moved with
  | @start t task s idle begun =>
    by_cases mine : t = owner
    · subst mine
      rw [idle] at holds
      exact own (owns.start task c.state s holds begun)
    · obtain ⟨same, welcome⟩ := owns.visit t task c.state s mine begun
      exact others mine same welcome
  | @act t task op next answer s running answered =>
    by_cases mine : t = owner
    · subst mine
      rw [running] at holds
      exact own (holds.2 answer _ (owns.exec op c.state answer s answered))
    · have here := visits t mine
      rw [running] at here
      exact others mine (owns.pass t op c.state answer s mine here.2.1 answered) ⟨here.1, here.2.2 answer⟩
  | @finish t task r s running ended =>
    by_cases mine : t = owner
    · subst mine
      rw [running] at holds
      exact own (owns.finish task r c.state s holds.1 holds.2 (known task r running) ended)
    · have here := visits t mine
      rw [running] at here
      exact others mine (owns.leave t task r c.state s mine here.1 ended) trivial
  | @env s moved =>
    refine ⟨?_, visits⟩
    show Holds step inv rest post (view s) (c.threads owner)
    rw [owns.env c.state s moved]
    exact holds

theorem kept (owns : sys.Owns owner view step inv rest post ends guest shared)
    (init : ∀ s, initial s → rest (view s))
    (known : ∀ c : Config Tid State Op Answer Task Result, sys.Reachable initial c →
      ∀ task r, c.threads owner = .running task (.done r) → ends task r c.state)
    (reached : sys.Reachable initial c) : Kept owner view step inv rest post guest shared c := by
  obtain ⟨s, initially, run⟩ := reached
  induction run with
  | refl => exact ⟨init s initially, fun _ _ => trivial⟩
  | tail earlier moved ih => exact owns.kept_step (known _ ⟨s, initially, earlier⟩) ih moved

omit [DecidableEq Tid] in
theorem Kept.within (kept : Kept owner view step inv rest post guest shared c) (calm : ∀ x, rest x → inv x) :
    inv (view c.state) := by
  obtain ⟨holds, -⟩ := kept
  cases active : c.threads owner with
  | idle =>
    rw [active] at holds
    exact calm _ holds
  | running task p =>
    rw [active] at holds
    exact Prog.Ensures.within holds

end Owns

end System

end RuntimeHost.Foundation
