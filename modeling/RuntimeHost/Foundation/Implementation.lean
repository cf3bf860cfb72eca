import RuntimeHost.Foundation.Interleaving

namespace RuntimeHost.Foundation

open Function

namespace System

variable {Tid State State' Op Op' Task Result : Type} {Answer : Op → Type} {Answer' : Op' → Type} [DecidableEq Tid]
  {conc : System Tid State Op Answer Task Result} {abs : System Tid State' Op' Answer' Task Result} {view : State → State'}
  {impl : ∀ op, Prog Op Answer (Answer' op)}

/-- The program carries the operation out in its last step, and nothing can be seen of the steps before it. -/
def Realises (conc : System Tid State Op Answer Task Result) (abs : System Tid State' Op' Answer' Task Result)
    (view : State → State') (op : Op') : Prog Op Answer (Answer' op) → Prop
  | .done _ => False
  | .act op' next =>
    ((∀ t s answer s', conc.exec t op' s answer s' → view s' = view s) ∧
      ∀ answer, Realises conc abs view op (next answer)) ∨
    ∀ answer, ∃ result, next answer = .done result ∧
      ∀ t s s', conc.exec t op' s answer s' → abs.exec t op (view s) result (view s')

omit [DecidableEq Tid] in
theorem Realises.bind {α : Type} {op : Op'} {p : Prog Op Answer α} {f : α → Prog Op Answer (Answer' op)}
    (hidden : p.Only fun op' => ∀ t s answer s', conc.exec t op' s answer s' → view s' = view s)
    (rest : ∀ a, Realises conc abs view op (f a)) : Realises conc abs view op (p >>= f) := by
  induction p with
  | done a => exact rest a
  | act op next ih => exact .inl ⟨hidden.1, fun answer => ih answer (hidden.2 answer)⟩

/-- One system runs the tasks of another, with a program of its own for each operation. -/
structure Implements (conc : System Tid State Op Answer Task Result) (abs : System Tid State' Op' Answer' Task Result)
    (impl : ∀ op, Prog Op Answer (Answer' op)) (view : State → State') : Prop where
  code : ∀ task, conc.code task = (abs.code task).handle impl
  realises : ∀ op, Realises conc abs view op (impl op)
  start : ∀ t task s s', conc.start t task s s' → abs.start t task (view s) (view s')
  finish : ∀ t task result s s', conc.finish t task result s s' → abs.finish t task result (view s) (view s')
  env : ∀ s s', conc.env s s' → view s' = view s

inductive Stage (conc : System Tid State Op Answer Task Result) (abs : System Tid State' Op' Answer' Task Result)
    (impl : ∀ op, Prog Op Answer (Answer' op)) (view : State → State') :
    Activity Op Answer Task Result → Activity Op' Answer' Task Result → Prop
  | idle : Stage conc abs impl view .idle .idle
  | between (task : Task) (p : Prog Op' Answer' Result) :
    Stage conc abs impl view (.running task (p.handle impl)) (.running task p)
  | within (task : Task) {op : Op'} {rest : Prog Op Answer (Answer' op)} (next : Answer' op → Prog Op' Answer' Result)
    (realises : Realises conc abs view op rest) :
    Stage conc abs impl view (.running task (rest >>= fun answer => (next answer).handle impl)) (.running task (.act op next))

namespace Implements

omit [DecidableEq Tid] in
theorem stage_cases (implements : conc.Implements abs impl view) {task : Task} {q : Prog Op Answer Result}
    {activity : Activity Op' Answer' Task Result} (stage : Stage conc abs impl view (.running task q) activity) :
    (∃ r, q = .done r ∧ activity = .running task (.done r)) ∨
      ∃ (op : Op') (rest : Prog Op Answer (Answer' op)) (next : Answer' op → Prog Op' Answer' Result),
        Realises conc abs view op rest ∧ q = (rest >>= fun answer => (next answer).handle impl) ∧
          activity = .running task (.act op next) := by
  cases stage with
  | between _ p =>
    cases p with
    | done r => exact .inl ⟨r, rfl, rfl⟩
    | act op next => exact .inr ⟨op, impl op, next, implements.realises op, rfl, rfl⟩
  | within _ next realises => exact .inr ⟨_, _, next, realises, rfl, rfl⟩

theorem reachable (implements : conc.Implements abs impl view) {initial : State → Prop} (initial' : State' → Prop)
    (fresh : ∀ s, initial s → initial' (view s)) {c : Config Tid State Op Answer Task Result}
    (reached : conc.Reachable initial c) : ∃ threads, abs.Reachable initial' ⟨view c.state, threads⟩ ∧
      ∀ t, Stage conc abs impl view (c.threads t) (threads t) := by
  obtain ⟨s, initially, run⟩ := reached
  induction run with
  | refl => exact ⟨fun _ => .idle, ⟨view s, fresh s initially, .refl⟩, fun _ => .idle⟩
  | @tail before after earlier step ih =>
    obtain ⟨threads, ⟨s', initially', run'⟩, stages⟩ := ih
    have others : ∀ {t : Tid} {activity : Activity Op Answer Task Result} {activity' : Activity Op' Answer' Task Result},
        Stage conc abs impl view activity activity' →
          ∀ t', Stage conc abs impl view (update before.threads t activity t') (update threads t activity' t') := by
      intro t activity activity' stage t'
      by_cases same : t' = t
      · subst same
        simpa only [update_self] using stage
      · simpa only [update_of_ne same] using stages t'
    cases step with
    | @start t task s idle begun =>
      have stage := stages t
      rw [idle] at stage
      generalize shape : threads t = activity at stage
      cases stage
      refine ⟨_, ⟨s', initially', run'.start t task shape (implements.start _ _ _ _ begun)⟩, others ?_⟩
      rw [implements.code]
      exact .between task (abs.code task)
    | @act t task op next answer s running answered =>
      have stage := stages t
      rw [running] at stage
      rcases implements.stage_cases stage with ⟨r, same, -⟩ | ⟨op', rest, next', realises, same, shape⟩
      · cases same
      · cases rest with
        | done a => exact realises.elim
        | act _ rest =>
          cases same
          rcases realises with ⟨hidden, realises⟩ | carries
          · refine ⟨threads, ⟨s', initially', ?_⟩, fun t' => ?_⟩
            · rw [hidden t _ answer s answered]
              exact run'
            · have moved := @others t _ _ (.within task next' (realises answer)) t'
              rwa [← shape, update_eq_self] at moved
          · obtain ⟨result, ends, performs⟩ := carries answer
            refine ⟨_, ⟨s', initially', run'.act t op' result shape (performs t _ s answered)⟩, others ?_⟩
            show Stage conc abs impl view (.running task (rest answer >>= _)) _
            rw [ends]
            exact .between task (next' result)
    | @finish t task r s running ended =>
      have stage := stages t
      rw [running] at stage
      rcases implements.stage_cases stage with ⟨r, same, shape⟩ | ⟨op', rest, next', realises, same, shape⟩
      · cases same
        exact ⟨_, ⟨s', initially', run'.finish t shape (implements.finish _ _ _ _ _ ended)⟩, others .idle⟩
      · cases rest with
        | done a => exact realises.elim
        | act _ rest => cases same
    | env moved =>
      refine ⟨threads, ⟨s', initially', ?_⟩, stages⟩
      rw [implements.env _ _ moved]
      exact run'

end Implements

end System

end RuntimeHost.Foundation
