import RuntimeHost.Foundation.Interleaving

namespace RuntimeHost.Foundation.System

variable {Tid State Op : Type} {Answer : Op → Type} {Task Result P : Type} [DecidableEq Tid]

def beside (sys : System Tid State Op Answer Task Result) (moves : State × P → State × P → Prop) :
    System Tid (State × P) Op Answer Task Result where
  code := sys.code
  start t task d d' := sys.start t task d.1 d'.1 ∧ d'.2 = d.2
  exec t op d answer d' := sys.exec t op d.1 answer d'.1 ∧ d'.2 = d.2
  finish t task r d d' := sys.finish t task r d.1 d'.1 ∧ d'.2 = d.2
  env := moves

variable {sys : System Tid State Op Answer Task Result} {moves : State × P → State × P → Prop}

theorem Run.envs {c c' : Config Tid State Op Answer Task Result} (run : sys.Run c c') {s : State}
    (moved : Relation.ReflTransGen sys.env c'.state s) : sys.Run c ⟨s, c'.threads⟩ := by
  induction moved with
  | refl => exact run
  | tail _ moved ih => exact ih.env moved

theorem Run.of_beside (possible : ∀ d d', moves d d' → Relation.ReflTransGen sys.env d.1 d'.1)
    {c c' : Config Tid (State × P) Op Answer Task Result} (run : (sys.beside moves).Run c c') :
    sys.Run ⟨c.state.1, c.threads⟩ ⟨c'.state.1, c'.threads⟩ := by
  induction run with
  | refl => exact .refl
  | tail earlier step ih =>
    cases step with
    | start idle begun => exact .tail ih (.start idle begun.1)
    | act running answered => exact .tail ih (.act running answered.1)
    | finish running ended => exact .tail ih (.finish running ended.1)
    | env moved => exact Run.envs ih (possible _ _ moved)

theorem Reachable.of_beside {initial : State × P → Prop} {base : State → Prop}
    (possible : ∀ d d', moves d d' → Relation.ReflTransGen sys.env d.1 d'.1) (starts : ∀ d, initial d → base d.1)
    {c : Config Tid (State × P) Op Answer Task Result} (reached : (sys.beside moves).Reachable initial c) :
    sys.Reachable base ⟨c.state.1, c.threads⟩ := by
  obtain ⟨d, initially, run⟩ := reached
  exact ⟨d.1, starts d initially, Run.of_beside possible run⟩

end RuntimeHost.Foundation.System
