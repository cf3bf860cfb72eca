import RuntimeHost.Foundation.Interleaving

namespace RuntimeHost.Foundation

open Function

/-- Which operations a thread may ask for where it stands, and where their answers take it. -/
structure Typestate (Op : Type) (Answer : Op → Type) (S : Type) where
  allows : S → Op → Prop
  next : S → (op : Op) → Answer op → S

namespace Prog

variable {Op Op' : Type} {Answer : Op → Type} {Answer' : Op' → Type} {S α β : Type}

/-- However its operations are answered, the program asks only for what it may and ends in `post`. -/
def Follows (ts : Typestate Op Answer S) (post : α → S → Prop) : Prog Op Answer α → S → Prop
  | .done a, x => post a x
  | .act op next, x => ts.allows x op ∧ ∀ answer, (next answer).Follows ts post (ts.next x op answer)

variable {ts : Typestate Op Answer S} {p : Prog Op Answer α} {x : S}

theorem Follows.imp {post post' : α → S → Prop} (follows : p.Follows ts post x)
    (weaker : ∀ a x', post a x' → post' a x') : p.Follows ts post' x := by
  induction p generalizing x with
  | done a => exact weaker a x follows
  | act op next ih => exact ⟨follows.1, fun answer => ih answer (follows.2 answer)⟩

theorem Follows.bind {post : β → S → Prop} {f : α → Prog Op Answer β}
    (follows : p.Follows ts (fun a => (f a).Follows ts post) x) : (p >>= f).Follows ts post x := by
  induction p generalizing x with
  | done a => exact follows
  | act op next ih => exact ⟨follows.1, fun answer => ih answer (follows.2 answer)⟩

theorem Follows.handle {impl : ∀ op, Prog Op Answer (Answer' op)} {ok : Op' → Prop} {q : Prog Op' Answer' α}
    (only : q.Only ok) (each : ∀ op, ok op → (impl op).Follows ts (fun _ x' => x' = x) x) :
    (q.handle impl).Follows ts (fun _ x' => x' = x) x := by
  induction q with
  | done a => rfl
  | act op next ih =>
    refine .bind (Follows.imp (each op only.1) fun answer x' same => ?_)
    subst same
    exact ih answer (only.2 answer)

end Prog

namespace System

variable {Tid State Op : Type} {Answer : Op → Type} {Task Result S : Type} [DecidableEq Tid]

/-- The state shows where each thread stands, and every task starts where it may. -/
structure Tracks (sys : System Tid State Op Answer Task Result) (ts : Typestate Op Answer S)
    (stands : State → Tid → S) (post : Task → Result → S → Prop) (rest : S) : Prop where
  start : ∀ t task s s', sys.start t task s s' → ∃ x, stands s' = update (stands s) t x ∧
    (sys.code task).Follows ts (post task) x
  exec : ∀ t op s answer s', sys.exec t op s answer s' →
    stands s' = update (stands s) t (ts.next (stands s t) op answer)
  finish : ∀ t task result s s', sys.finish t task result s s' → stands s' = update (stands s) t rest
  env : ∀ s s', sys.env s s' → stands s' = stands s

/-- What a task relies on from its start to its end; nobody else takes it away. -/
structure Employs (sys : System Tid State Op Answer Task Result) (relies : Tid → Task → State → Prop) : Prop where
  start : ∀ t task s s', sys.start t task s s' → relies t task s'
  others : ∀ t task t' task' s s', t ≠ t' → relies t task s → sys.start t' task' s s' → relies t task s'
  exec : ∀ t task t' op s answer s', relies t task s → sys.exec t' op s answer s' → relies t task s'
  finish : ∀ t task t' task' result s s', t ≠ t' → relies t task s → relies t' task' s →
    sys.finish t' task' result s s' → relies t task s'
  env : ∀ t task s s', relies t task s → sys.env s s' → relies t task s'

namespace Employs

variable {sys : System Tid State Op Answer Task Result} {relies : Tid → Task → State → Prop} {initial : State → Prop}
  {c : Config Tid State Op Answer Task Result}

omit [DecidableEq Tid] in
theorem nothing : sys.Employs fun _ _ _ => True where
  start _ _ _ _ _ := trivial
  others _ _ _ _ _ _ _ _ _ := trivial
  exec _ _ _ _ _ _ _ _ _ := trivial
  finish _ _ _ _ _ _ _ _ _ _ _ := trivial
  env _ _ _ _ _ _ := trivial

omit [DecidableEq Tid] in
theorem restrict {ok : Tid → Op → State → Prop} (employs : sys.Employs relies) : (sys.restrict ok).Employs relies :=
  { employs with exec := fun t task t' op s answer s' relied answered =>
      employs.exec t task t' op s answer s' relied answered.2 }

theorem holds (employs : sys.Employs relies) (reached : sys.Reachable initial c) {t : Tid} {task : Task}
    {p : Prog Op Answer Result} (running : c.threads t = .running task p) : relies t task c.state := by
  obtain ⟨s, initially, run⟩ := reached
  induction run generalizing t task p with
  | refl => cases running
  | tail _ step ih =>
    cases step with
    | @start t' _ _ idle begun =>
      by_cases same : t = t'
      · subst same
        simp only [update_self] at running
        cases running
        exact employs.start _ _ _ _ begun
      · simp only [update_of_ne same] at running
        exact employs.others _ _ _ _ _ _ same (ih running) begun
    | @act t' _ _ _ _ _ active answered =>
      by_cases same : t = t'
      · subst same
        simp only [update_self] at running
        cases running
        exact employs.exec _ _ _ _ _ _ _ (ih active) answered
      · simp only [update_of_ne same] at running
        exact employs.exec _ _ _ _ _ _ _ (ih running) answered
    | @finish t' _ _ _ active ended =>
      by_cases same : t = t'
      · subst same
        simp only [update_self] at running
        cases running
      · simp only [update_of_ne same] at running
        exact employs.finish _ _ _ _ _ _ _ same (ih running) (ih active) ended
    | env moved => exact employs.env _ _ _ _ (ih running) moved

end Employs

def Standing (ts : Typestate Op Answer S) (post : Task → Result → S → Prop) (rest : S) (x : S) :
    Activity Op Answer Task Result → Prop
  | .idle => x = rest
  | .running task p => p.Follows ts (post task) x

namespace Tracks

variable {sys : System Tid State Op Answer Task Result} {ts : Typestate Op Answer S} {stands : State → Tid → S}
  {post : Task → Result → S → Prop} {rest : S} {initial : State → Prop} {c c' : Config Tid State Op Answer Task Result}

theorem standing_update {x : Tid → S} {threads : Tid → Activity Op Answer Task Result} {t : Tid} {y : S}
    {activity : Activity Op Answer Task Result} (others : ∀ t, Standing ts post rest (x t) (threads t))
    (here : Standing ts post rest y activity) (t' : Tid) :
    Standing ts post rest (update x t y t') (update threads t activity t') := by
  by_cases same : t' = t
  · subst same
    rw [update_self, update_self]
    exact here
  · rw [update_of_ne same, update_of_ne same]
    exact others t'

theorem restrict {ok : Tid → Op → State → Prop} (tracks : sys.Tracks ts stands post rest) :
    (sys.restrict ok).Tracks ts stands post rest :=
  { tracks with exec := fun t op s answer s' answered => tracks.exec t op s answer s' answered.2 }

theorem standing_step (tracks : sys.Tracks ts stands post rest)
    (standing : ∀ t, Standing ts post rest (stands c.state t) (c.threads t)) (step : sys.Step c c') :
    ∀ t, Standing ts post rest (stands c'.state t) (c'.threads t) := by
  cases step with
  | start idle begun =>
    obtain ⟨x, same, follows⟩ := tracks.start _ _ _ _ begun
    rw [same]
    exact standing_update standing follows
  | @act t _ _ _ answer _ running answered =>
    have here := standing t
    rw [running] at here
    rw [tracks.exec _ _ _ _ _ answered]
    exact standing_update standing (here.2 answer)
  | finish running ended =>
    rw [tracks.finish _ _ _ _ _ ended]
    exact standing_update standing rfl
  | env moved =>
    rw [tracks.env _ _ moved]
    exact standing

variable (tracks : sys.Tracks ts stands post rest) (init : ∀ s, initial s → ∀ t, stands s t = rest)

include tracks init

theorem standing (reached : sys.Reachable initial c) (t : Tid) :
    Standing ts post rest (stands c.state t) (c.threads t) := by
  obtain ⟨s, start, run⟩ := reached
  induction run generalizing t with
  | refl => exact init s start t
  | tail _ step ih => exact tracks.standing_step ih step t

/-- An invariant has to be kept only by operations that are allowed, and by the end of a task with what it relies on. -/
theorem invariant_of_employs {inv : State → Prop} {relies : Tid → Task → State → Prop} (employs : sys.Employs relies)
    (base : ∀ s, initial s → inv s)
    (start : ∀ t task s s', inv s → stands s t = rest → sys.start t task s s' → inv s')
    (exec : ∀ t op s answer s', inv s → ts.allows (stands s t) op → sys.exec t op s answer s' → inv s')
    (finish : ∀ t task result s s', inv s → relies t task s → post task result (stands s t) →
      sys.finish t task result s s' → inv s')
    (env : ∀ s s', inv s → sys.env s s' → inv s') (reached : sys.Reachable initial c) : inv c.state := by
  obtain ⟨s, initially, run⟩ := reached
  induction run with
  | refl => exact base s initially
  | @tail before _ earlier step ih =>
    have standing := fun t => tracks.standing init ⟨s, initially, earlier⟩ t
    cases step with
    | @start t _ _ idle begun =>
      have here := standing t
      rw [idle] at here
      exact start _ _ _ _ ih here begun
    | @act t _ _ _ _ _ running answered =>
      have here := standing t
      rw [running] at here
      exact exec _ _ _ _ _ ih here.1 answered
    | @finish t _ _ _ running ended =>
      have here := standing t
      rw [running] at here
      exact finish _ _ _ _ _ ih (employs.holds ⟨s, initially, earlier⟩ running) here ended
    | env moved => exact env _ _ ih moved

theorem invariant {inv : State → Prop} (base : ∀ s, initial s → inv s)
    (start : ∀ t task s s', inv s → stands s t = rest → sys.start t task s s' → inv s')
    (exec : ∀ t op s answer s', inv s → ts.allows (stands s t) op → sys.exec t op s answer s' → inv s')
    (finish : ∀ t task result s s', inv s → post task result (stands s t) → sys.finish t task result s s' → inv s')
    (env : ∀ s s', inv s → sys.env s s' → inv s') (reached : sys.Reachable initial c) : inv c.state :=
  tracks.invariant_of_employs init .nothing base start exec (fun t task result s s' kept _ => finish t task result s s' kept)
    env reached

end Tracks

end System

end RuntimeHost.Foundation
