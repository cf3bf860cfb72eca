import RuntimeHost.Foundation.Interleaving

namespace RuntimeHost.Foundation

open Function

/-- Which operations a thread may ask for where it stands, which answers can come, and where they take it. -/
structure Contract (Op : Type) (Answer : Op → Type) (S : Type) where
  allows : S → Op → Prop
  answers : S → (op : Op) → Answer op → Prop
  next : S → (op : Op) → Answer op → S

namespace Prog

variable {Op Op' : Type} {Answer : Op → Type} {Answer' : Op' → Type} {S α β : Type}

/-- As long as its operations get such answers, the program asks only for what it may and ends in `post`. -/
def Meets (k : Contract Op Answer S) (post : α → S → Prop) : Prog Op Answer α → S → Prop
  | .done a, x => post a x
  | .act op next, x => k.allows x op ∧
    ∀ answer, k.answers x op answer → (next answer).Meets k post (k.next x op answer)

variable {k : Contract Op Answer S} {p : Prog Op Answer α} {x : S}

theorem Meets.imp {post post' : α → S → Prop} (meets : p.Meets k post x)
    (weaker : ∀ a x', post a x' → post' a x') : p.Meets k post' x := by
  induction p generalizing x with
  | done a => exact weaker a x meets
  | act op next ih => exact ⟨meets.1, fun answer possible => ih answer (meets.2 answer possible)⟩

theorem Meets.bind {post : β → S → Prop} {f : α → Prog Op Answer β}
    (meets : p.Meets k (fun a => (f a).Meets k post) x) : (p >>= f).Meets k post x := by
  induction p generalizing x with
  | done a => exact meets
  | act op next ih => exact ⟨meets.1, fun answer possible => ih answer (meets.2 answer possible)⟩

theorem Meets.handle_bind {impl : ∀ op, Prog Op Answer (Answer' op)} {q : Prog Op' Answer' α} {post : β → S → Prop}
    {f : α → Prog Op' Answer' β}
    (meets : (q.handle impl).Meets k (fun a => ((f a).handle impl).Meets k post) x) :
    ((q >>= f).handle impl).Meets k post x := by
  rw [Prog.handle_bind]
  exact .bind meets

end Prog

namespace System

variable {Tid State Op : Type} {Answer : Op → Type} {Task Result S α : Type} [DecidableEq Tid]

theorem Safe.of_meets {sys : System Tid State Op Answer Task Result} {inv : State → (Tid → S) → Prop} {t : Tid}
    {k : Contract Op Answer S} {post : α → S → Prop} {p : Prog Op Answer α} {x : S}
    (keeps : ∀ s L op answer s', inv s L → k.allows (L t) op → sys.exec t op s answer s' →
      k.answers (L t) op answer ∧ inv s' (update L t (k.next (L t) op answer)))
    (meets : p.Meets k post x) : sys.Safe inv t post p x := by
  induction p generalizing x with
  | done a => exact meets
  | act op next ih =>
    intro s L holds here answer s' answered
    subst here
    obtain ⟨possible, kept⟩ := keeps s L op answer s' holds meets.1 answered
    exact ⟨_, ih answer (meets.2 answer possible), kept⟩

end System

end RuntimeHost.Foundation
