import RuntimeHost.Foundation.Program

namespace RuntimeHost.Foundation

namespace Prog

variable {Op : Type} {Answer : Op → Type} {α : Type}

/-- What is left of a program once its next operation has been answered. -/
inductive After : Prog Op Answer α → Prog Op Answer α → Prop
  | answered (op : Op) (next : Answer op → Prog Op Answer α) (answer : Answer op) : After (next answer) (.act op next)

theorem wellFounded_after : WellFounded (After : Prog Op Answer α → Prog Op Answer α → Prop) := by
  refine ⟨fun p => ?_⟩
  induction p with
  | done a => exact ⟨_, fun q after => by cases after⟩
  | act op next ih =>
    refine ⟨_, fun q after => ?_⟩
    cases after with
    | answered _ _ answer => exact ih answer

end Prog

variable {C R : Type} {step : C → C → Prop} {goal : C → Prop}

/-- Whatever steps are taken, the goal is reached: a state that is not there yet can move, and it comes closer. -/
inductive Leads (step : C → C → Prop) (goal : C → Prop) : C → Prop
  | now {c} (reached : goal c) : Leads step goal c
  | next {c c'} (moves : step c c') (all : ∀ c', step c c' → Leads step goal c') : Leads step goal c

theorem Leads.of_rank {r : R → R → Prop} (wf : WellFounded r) (rank : C → R) {inv : C → Prop}
    (moves : ∀ c, inv c → ¬goal c → ∃ c', step c c')
    (lowers : ∀ c c', inv c → ¬goal c → step c c' → goal c' ∨ inv c' ∧ r (rank c') (rank c)) {c : C} (holds : inv c) :
    Leads step goal c := by
  generalize height : rank c = x
  induction x using wf.induction generalizing c with
  | _ x ih =>
    subst height
    by_cases reached : goal c
    · exact .now reached
    · obtain ⟨c', moved⟩ := moves c holds reached
      refine .next moved fun c'' moved => ?_
      rcases lowers c c'' holds reached moved with reached | ⟨holds', lower⟩
      · exact .now reached
      · exact ih _ lower holds' rfl

end RuntimeHost.Foundation
