import RuntimeHost.Foundation.Program

namespace RuntimeHost.Foundation

/-- Threads that run tasks, one after another each, over a shared state. -/
structure System (Tid State Op : Type) (Answer : Op → Type) (Task Result : Type) where
  code : Task → Prog Op Answer Result
  start : Tid → Task → State → State → Prop
  exec : Tid → (op : Op) → State → Answer op → State → Prop
  finish : Tid → Task → Result → State → State → Prop
  env : State → State → Prop

inductive Activity (Op : Type) (Answer : Op → Type) (Task Result : Type) where
  | idle
  | running (task : Task) (rest : Prog Op Answer Result)

structure Config (Tid State Op : Type) (Answer : Op → Type) (Task Result : Type) where
  state : State
  threads : Tid → Activity Op Answer Task Result

namespace System

open Function

variable {Tid State Op : Type} {Answer : Op → Type} {Task Result : Type} [DecidableEq Tid]

section Semantics

variable (sys : System Tid State Op Answer Task Result)

inductive Step : Config Tid State Op Answer Task Result → Config Tid State Op Answer Task Result → Prop
  | start {c t task s} (idle : c.threads t = .idle) (begun : sys.start t task c.state s) :
      Step c ⟨s, update c.threads t (.running task (sys.code task))⟩
  | act {c t task op next answer s} (running : c.threads t = .running task (.act op next))
      (answered : sys.exec t op c.state answer s) :
      Step c ⟨s, update c.threads t (.running task (next answer))⟩
  | finish {c t task r s} (running : c.threads t = .running task (.done r))
      (ended : sys.finish t task r c.state s) : Step c ⟨s, update c.threads t .idle⟩
  | env {c s} (moved : sys.env c.state s) : Step c ⟨s, c.threads⟩

def Run : Config Tid State Op Answer Task Result → Config Tid State Op Answer Task Result → Prop :=
  Relation.ReflTransGen sys.Step

variable {sys} in
theorem Run.start {c c' : Config Tid State Op Answer Task Result} (run : sys.Run c c') (t : Tid) (task : Task)
    {s : State} (idle : c'.threads t = .idle) (begun : sys.start t task c'.state s) :
    sys.Run c ⟨s, update c'.threads t (.running task (sys.code task))⟩ :=
  .tail run (.start idle begun)

variable {sys} in
theorem Run.act {c c' : Config Tid State Op Answer Task Result} (run : sys.Run c c') (t : Tid) {task : Task}
    (op : Op) {next : Answer op → Prog Op Answer Result} (answer : Answer op) {s : State}
    (running : c'.threads t = .running task (.act op next)) (answered : sys.exec t op c'.state answer s) :
    sys.Run c ⟨s, update c'.threads t (.running task (next answer))⟩ :=
  .tail run (.act running answered)

variable {sys} in
theorem Run.finish {c c' : Config Tid State Op Answer Task Result} (run : sys.Run c c') (t : Tid) {task : Task}
    {r : Result} {s : State} (running : c'.threads t = .running task (.done r))
    (ended : sys.finish t task r c'.state s) : sys.Run c ⟨s, update c'.threads t .idle⟩ :=
  .tail run (.finish running ended)

variable {sys} in
theorem Run.env {c c' : Config Tid State Op Answer Task Result} (run : sys.Run c c') {s : State}
    (moved : sys.env c'.state s) : sys.Run c ⟨s, c'.threads⟩ :=
  .tail run (.env moved)

variable {α β : Type}

def Performs (t : Tid) : Prog Op Answer α → State → α → State → Prop
  | .done a, s, result, s' => a = result ∧ s = s'
  | .act op next, s, result, s' => ∃ answer between, sys.exec t op s answer between ∧
    Performs t (next answer) between result s'

omit [DecidableEq Tid] in
variable {sys} in
theorem Performs.bind {t : Tid} {p : Prog Op Answer α} {f : α → Prog Op Answer β} {s between s' : State} {a : α} {b : β}
    (first : sys.Performs t p s a between) (rest : sys.Performs t (f a) between b s') :
    sys.Performs t (p >>= f) s b s' := by
  induction p generalizing s with
  | done =>
    obtain ⟨rfl, rfl⟩ := first
    exact rest
  | act op next ih =>
    obtain ⟨answer, after, answered, first⟩ := first
    exact ⟨answer, after, answered, ih answer first⟩

variable {sys} in
theorem Run.perform {c c' : Config Tid State Op Answer Task Result} (run : sys.Run c c') (t : Tid) {task : Task}
    {p : Prog Op Answer Result} {r : Result} {s : State} (running : c'.threads t = .running task p)
    (performs : sys.Performs t p c'.state r s) : sys.Run c ⟨s, update c'.threads t (.running task (.done r))⟩ := by
  induction p generalizing c' with
  | done =>
    obtain ⟨rfl, rfl⟩ := performs
    rwa [← running, update_eq_self]
  | act op next ih =>
    obtain ⟨answer, between, answered, performs⟩ := performs
    have later := ih answer (run.act t op answer running answered) (update_self ..) performs
    rwa [update_idem] at later

variable {sys} in
theorem Run.complete {c c' : Config Tid State Op Answer Task Result} (run : sys.Run c c') (t : Tid) (task : Task)
    {r : Result} {s between s' : State} (idle : c'.threads t = .idle) (begun : sys.start t task c'.state s)
    (performs : sys.Performs t (sys.code task) s r between) (ended : sys.finish t task r between s') :
    sys.Run c ⟨s', c'.threads⟩ := by
  have performed := (run.start t task idle begun).perform t (update_self ..) performs
  have finished := performed.finish t (update_self ..) ended
  rwa [update_idem, update_idem, ← idle, update_eq_self] at finished

/-- A part of a run in which a thread stays at its task: the operations that it takes, with their answers, while the others
go on. -/
inductive Takes (t : Tid) : Config Tid State Op Answer Task Result → List ((op : Op) × Answer op) →
    Config Tid State Op Answer Task Result → Prop
  | refl {c} : Takes t c [] c
  | act {c c' steps task op next answer s} (earlier : Takes t c steps c') (running : c'.threads t = .running task (.act op next))
      (answered : sys.exec t op c'.state answer s) :
      Takes t c (steps ++ [⟨op, answer⟩]) ⟨s, update c'.threads t (.running task (next answer))⟩
  | other {c c' c'' steps} (earlier : Takes t c steps c') (step : sys.Step c' c'')
      (still : c''.threads t = c'.threads t) : Takes t c steps c''

variable {sys} in
theorem Takes.yields {c c' : Config Tid State Op Answer Task Result} {t : Tid} {task task' : Task}
    {p p' : Prog Op Answer Result} {r : Result} {steps later : List ((op : Op) × Answer op)} (takes : sys.Takes t c steps c')
    (started : c.threads t = .running task p) (stopped : c'.threads t = .running task' p') (rest : p'.Yields later r) :
    task' = task ∧ p.Yields (steps ++ later) r := by
  induction takes generalizing task' p' later with
  | refl =>
    rw [started] at stopped
    cases stopped
    exact ⟨rfl, rest⟩
  | act earlier running answered ih =>
    simp only [update_self] at stopped
    cases stopped
    rw [List.append_assoc]
    exact ih running ⟨_, _, rfl, rest⟩
  | other earlier step still ih => exact ih (still.symm.trans stopped) rest

variable {sys} in
theorem Takes.perform {c c' : Config Tid State Op Answer Task Result} {t : Tid} {task : Task} {p : Prog Op Answer α}
    {f : α → Prog Op Answer Result} {a : α} {s : State} {steps : List ((op : Op) × Answer op)} (takes : sys.Takes t c steps c')
    (running : c'.threads t = .running task (p >>= f)) (performs : sys.Performs t p c'.state a s) :
    ∃ later, p.Yields later a ∧ sys.Takes t c (steps ++ later) ⟨s, update c'.threads t (.running task (f a))⟩ := by
  induction p generalizing c' steps with
  | done =>
    obtain ⟨rfl, rfl⟩ := performs
    refine ⟨[], ⟨rfl, rfl⟩, ?_⟩
    rw [Prog.done_bind] at running
    rwa [← running, update_eq_self, List.append_nil]
  | act op next ih =>
    obtain ⟨answer, between, answered, performs⟩ := performs
    obtain ⟨later, yields, taken⟩ := ih answer (takes.act running answered) (update_self ..) performs
    refine ⟨⟨op, answer⟩ :: later, ⟨answer, later, rfl, yields⟩, ?_⟩
    rwa [update_idem, List.append_assoc] at taken

def Reachable (initial : State → Prop) (c : Config Tid State Op Answer Task Result) : Prop :=
  ∃ s, initial s ∧ sys.Run ⟨s, fun _ => .idle⟩ c

/-- The runs in which every operation meets a condition on the state before it. -/
def restrict (ok : Tid → Op → State → Prop) : System Tid State Op Answer Task Result :=
  { sys with exec := fun t op s answer s' => ok t op s ∧ sys.exec t op s answer s' }

variable {sys} in
theorem Run.of_restrict {ok : Tid → Op → State → Prop} {c c' : Config Tid State Op Answer Task Result}
    (run : (sys.restrict ok).Run c c') : sys.Run c c' := by
  refine Relation.ReflTransGen.mono ?_ _ _ run
  intro before after step
  cases step with
  | start idle begun => exact .start idle begun
  | act running answered => exact .act running answered.2
  | finish running ended => exact .finish running ended
  | env moved => exact .env moved

/-- The runs in which every task starts, and every operation is answered, under a condition. -/
def confine (starts : Tid → Task → State → Prop) (acts : Tid → (op : Op) → State → Answer op → Prop) :
    System Tid State Op Answer Task Result :=
  { sys with
    start := fun t task s s' => starts t task s ∧ sys.start t task s s'
    exec := fun t op s answer s' => acts t op s answer ∧ sys.exec t op s answer s' }

variable {sys} in
theorem Run.of_confine {starts : Tid → Task → State → Prop} {acts : Tid → (op : Op) → State → Answer op → Prop}
    {c c' : Config Tid State Op Answer Task Result} (run : (sys.confine starts acts).Run c c') : sys.Run c c' := by
  refine Relation.ReflTransGen.mono ?_ _ _ run
  intro before after step
  cases step with
  | start idle begun => exact .start idle begun.2
  | act running answered => exact .act running answered.2
  | finish running ended => exact .finish running ended
  | env moved => exact .env moved

end Semantics

section Rule

variable {Local : Type}

/-- Answering `op` keeps the invariant and moves the ghost state of the thread into `post`. -/
def Keeps (sys : System Tid State Op Answer Task Result) (inv : State → (Tid → Local) → Prop) (t : Tid)
    (op : Op) (l : Local) (post : Answer op → Local → Prop) : Prop :=
  ∀ s (L : Tid → Local), inv s L → L t = l → ∀ answer s', sys.exec t op s answer s' →
    ∃ l', post answer l' ∧ inv s' (update L t l')

/-- Every operation of the program keeps the invariant, whatever the other threads do in between. -/
def Safe (sys : System Tid State Op Answer Task Result) (inv : State → (Tid → Local) → Prop) (t : Tid)
    {α : Type} (post : α → Local → Prop) : Prog Op Answer α → Local → Prop
  | .done a, l => post a l
  | .act op next, l => sys.Keeps inv t op l fun answer => Safe sys inv t post (next answer)

variable {sys : System Tid State Op Answer Task Result} {inv : State → (Tid → Local) → Prop} {t : Tid}
  {α β : Type}

theorem Keeps.imp {op : Op} {l : Local} {post post' : Answer op → Local → Prop}
    (keeps : sys.Keeps inv t op l post) (weaker : ∀ answer l', post answer l' → post' answer l') :
    sys.Keeps inv t op l post' := by
  intro s L holds here answer s' answered
  obtain ⟨l', reached, kept⟩ := keeps s L holds here answer s' answered
  exact ⟨l', weaker answer l' reached, kept⟩

theorem Safe.imp {post post' : α → Local → Prop} {p : Prog Op Answer α} {l : Local}
    (safe : sys.Safe inv t post p l) (weaker : ∀ a l', post a l' → post' a l') :
    sys.Safe inv t post' p l := by
  induction p generalizing l with
  | done a => exact weaker a l safe
  | act op next ih => exact Keeps.imp safe fun answer l' safe => ih answer safe

theorem Safe.bind {post : β → Local → Prop} {p : Prog Op Answer α} {f : α → Prog Op Answer β} {l : Local}
    (safe : sys.Safe inv t (fun a => sys.Safe inv t post (f a)) p l) :
    sys.Safe inv t post (p >>= f) l := by
  induction p generalizing l with
  | done a => exact safe
  | act op next ih => exact Keeps.imp safe fun answer l' safe => ih answer safe

/-- What each thread's ghost state says about the shared state, and why it stays true. -/
structure Discipline (sys : System Tid State Op Answer Task Result) (initial : State → Prop)
    (Local : Type) where
  inv : State → (Tid → Local) → Prop
  resting : Tid → Local → Prop
  finished : Tid → Task → Result → Local → Prop
  init : ∀ s, initial s → ∃ L, inv s L ∧ ∀ t, resting t (L t)
  start : ∀ t task s L s', inv s L → resting t (L t) → sys.start t task s s' →
    ∃ l, inv s' (update L t l) ∧ sys.Safe inv t (finished t task) (sys.code task) l
  finish : ∀ t task r s L s', inv s L → finished t task r (L t) → sys.finish t task r s s' →
    ∃ l, inv s' (update L t l) ∧ resting t l
  env : ∀ s L s', inv s L → sys.env s s' → inv s' L

namespace Discipline

variable {initial : State → Prop} (d : Discipline sys initial Local)

def Holds (t : Tid) (l : Local) : Activity Op Answer Task Result → Prop
  | .idle => d.resting t l
  | .running task rest => sys.Safe d.inv t (d.finished t task) rest l

def Valid (c : Config Tid State Op Answer Task Result) : Prop :=
  ∃ L, d.inv c.state L ∧ ∀ t, d.Holds t (L t) (c.threads t)

theorem holds_update {L : Tid → Local} {threads : Tid → Activity Op Answer Task Result} {t : Tid}
    {l : Local} {activity : Activity Op Answer Task Result} (others : ∀ t, d.Holds t (L t) (threads t))
    (here : d.Holds t l activity) (t' : Tid) :
    d.Holds t' (update L t l t') (update threads t activity t') := by
  by_cases same : t' = t
  · subst same
    rw [update_self, update_self]
    exact here
  · rw [update_of_ne same, update_of_ne same]
    exact others t'

theorem valid_step {c c' : Config Tid State Op Answer Task Result} (valid : d.Valid c)
    (step : sys.Step c c') : d.Valid c' := by
  obtain ⟨L, holds, threads⟩ := valid
  cases step with
  | @start t _ _ idle begun =>
    have here := threads t
    rw [idle] at here
    obtain ⟨l, kept, safe⟩ := d.start _ _ _ _ _ holds here begun
    exact ⟨update L t l, kept, d.holds_update threads safe⟩
  | @act t _ _ _ _ _ running answered =>
    have here := threads t
    rw [running] at here
    obtain ⟨l, safe, kept⟩ := here _ L holds rfl _ _ answered
    exact ⟨update L t l, kept, d.holds_update threads safe⟩
  | @finish t _ _ _ running ended =>
    have here := threads t
    rw [running] at here
    obtain ⟨l, kept, rest⟩ := d.finish _ _ _ _ _ _ holds here ended
    exact ⟨update L t l, kept, d.holds_update threads rest⟩
  | env moved => exact ⟨L, d.env _ _ _ holds moved, threads⟩

theorem valid_of_reachable {c : Config Tid State Op Answer Task Result}
    (reached : sys.Reachable initial c) : d.Valid c := by
  obtain ⟨s, start, run⟩ := reached
  induction run with
  | refl =>
    obtain ⟨L, holds, rest⟩ := d.init s start
    exact ⟨L, holds, rest⟩
  | tail _ step ih => exact d.valid_step ih step

end Discipline

end Rule

end System

end RuntimeHost.Foundation
