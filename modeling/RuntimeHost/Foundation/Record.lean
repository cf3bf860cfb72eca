import RuntimeHost.Foundation.Typestate

namespace RuntimeHost.Foundation

open Function

/-- An operation with its answer, and the states before and after it. -/
structure Answered (Tid State Op : Type) (Answer : Op → Type) where
  thread : Tid
  op : Op
  answer : Answer op
  before : State
  after : State

namespace Answered

variable {Tid State Op : Type} {Answer : Op → Type}

def step (event : Answered Tid State Op Answer) : (op : Op) × Answer op := ⟨event.op, event.answer⟩

end Answered

namespace Prog

variable {Tid State Op : Type} {Answer : Op → Type} {α β : Type}

/-- The program asks for the operations of these events in turn, and with their answers it comes to the result. -/
def Takes : Prog Op Answer α → List (Answered Tid State Op Answer) → α → Prop
  | .done a, events, result => events = [] ∧ result = a
  | .act op next, events, result => ∃ t answer before after later,
    events = ⟨t, op, answer, before, after⟩ :: later ∧ (next answer).Takes later result

variable {p : Prog Op Answer α} {f : α → Prog Op Answer β}

theorem Only.takes {ok : Op → Prop} (only : p.Only ok) {events : List (Answered Tid State Op Answer)} {result : α}
    (taken : p.Takes events result) : ∀ event ∈ events, ok event.op := by
  induction p generalizing events with
  | done a =>
    obtain ⟨rfl, -⟩ := taken
    exact fun event present => absurd present List.not_mem_nil
  | act op next ih =>
    obtain ⟨t, answer, before, after, later, rfl, rest⟩ := taken
    exact List.forall_mem_cons.mpr ⟨only.1, ih answer (only.2 answer) rest⟩

theorem takes_bind {events : List (Answered Tid State Op Answer)} {result : β} :
    (p >>= f).Takes events result ↔
      ∃ first second a, events = first ++ second ∧ p.Takes first a ∧ (f a).Takes second result := by
  induction p generalizing events with
  | done a => simp [Takes]
  | act op next ih =>
    simp only [act_bind, Takes, ih]
    constructor
    · rintro ⟨t, answer, before, after, _, rfl, first, second, a, rfl, left, right⟩
      exact ⟨_ :: first, second, a, rfl, ⟨t, answer, before, after, first, rfl, left⟩, right⟩
    · rintro ⟨_, second, a, rfl, ⟨t, answer, before, after, first, rfl, left⟩, right⟩
      exact ⟨t, answer, before, after, _, rfl, first, second, a, rfl, left, right⟩

end Prog

section Follows

variable {Tid State Op S α : Type} {Answer : Op → Type}

def Typestate.after (ts : Typestate Op Answer S) (x : S) (events : List (Answered Tid State Op Answer)) : S :=
  events.foldl (fun x event => ts.next x event.op event.answer) x

theorem Prog.Follows.takes {ts : Typestate Op Answer S} {post : α → S → Prop} {p : Prog Op Answer α} {x : S}
    {events : List (Answered Tid State Op Answer)} {result : α} (follows : p.Follows ts post x)
    (taken : p.Takes events result) : post result (ts.after x events) := by
  induction p generalizing x events with
  | done a =>
    obtain ⟨rfl, rfl⟩ := taken
    exact follows
  | act op next ih =>
    obtain ⟨t, answer, before, after, later, rfl, rest⟩ := taken
    show post result (ts.after (ts.next x op answer) later)
    exact ih answer (follows.2 answer) rest

end Follows

/-- A state with what has happened: every event, the newest first; those of each thread's task, the oldest first; and
the tasks that have returned. -/
structure Recorded (Tid State Op : Type) (Answer : Op → Type) (Task Result : Type) where
  state : State
  events : List (Answered Tid State Op Answer) := []
  current : Tid → List (Answered Tid State Op Answer) := fun _ => []
  returned : List (Tid × Task × List (Answered Tid State Op Answer) × Result) := []

/-- Every event was an operation that its thread was allowed where it stood. -/
def Recorded.Allowed {Tid State Op S : Type} {Answer : Op → Type} {Task Result : Type}
    (ts : Typestate Op Answer S) (stands : State → Tid → S) (r : Recorded Tid State Op Answer Task Result) : Prop :=
  ∀ event ∈ r.events, ts.allows (stands event.before event.thread) event.op

namespace System

variable {Tid State Op : Type} {Answer : Op → Type} {Task Result : Type} [DecidableEq Tid]

def recorded (sys : System Tid State Op Answer Task Result) :
    System Tid (Recorded Tid State Op Answer Task Result) Op Answer Task Result where
  code := sys.code
  start t task r r' := ∃ s, sys.start t task r.state s ∧
    r' = { r with state := s, current := update r.current t [] }
  exec t op r answer r' := ∃ s, sys.exec t op r.state answer s ∧
    r' = { r with
      state := s
      events := ⟨t, op, answer, r.state, s⟩ :: r.events
      current := update r.current t (r.current t ++ [⟨t, op, answer, r.state, s⟩]) }
  finish t task result r r' := ∃ s, sys.finish t task result r.state s ∧
    r' = { r with state := s, returned := (t, task, r.current t, result) :: r.returned }
  env r r' := ∃ s, sys.env r.state s ∧ r' = { r with state := s }

variable {sys : System Tid State Op Answer Task Result} {initial : State → Prop}

theorem invariant (inv : State → Prop) {c : Config Tid State Op Answer Task Result}
    (base : ∀ s, initial s → inv s) (start : ∀ t task s s', inv s → sys.start t task s s' → inv s')
    (exec : ∀ t op s answer s', inv s → sys.exec t op s answer s' → inv s')
    (finish : ∀ t task result s s', inv s → sys.finish t task result s s' → inv s')
    (env : ∀ s s', inv s → sys.env s s' → inv s') (reached : sys.Reachable initial c) : inv c.state := by
  obtain ⟨s, initially, run⟩ := reached
  induction run with
  | refl => exact base s initially
  | tail _ step ih =>
    cases step with
    | start _ begun => exact start _ _ _ _ ih begun
    | act _ answered => exact exec _ _ _ _ _ ih answered
    | finish _ ended => exact finish _ _ _ _ _ ih ended
    | env moved => exact env _ _ ih moved

theorem Run.recorded {s : State} {c : Config Tid State Op Answer Task Result}
    (run : sys.Run ⟨s, fun _ => .idle⟩ c) :
    ∃ r, sys.recorded.Run ⟨{ state := s }, fun _ => .idle⟩ ⟨r, c.threads⟩ ∧ r.state = c.state := by
  induction run with
  | refl => exact ⟨_, .refl, rfl⟩
  | tail _ step ih =>
    obtain ⟨r, run, same⟩ := ih
    cases step with
    | start idle begun => exact ⟨_, run.start _ _ idle ⟨_, same ▸ begun, rfl⟩, rfl⟩
    | act running answered => exact ⟨_, run.act _ _ _ running ⟨_, same ▸ answered, rfl⟩, rfl⟩
    | finish running ended => exact ⟨_, run.finish _ running ⟨_, same ▸ ended, rfl⟩, rfl⟩
    | env moved => exact ⟨_, run.env ⟨_, same ▸ moved, rfl⟩, rfl⟩

def Records (sys : System Tid State Op Answer Task Result) (initial : State → Prop)
    (c : Config Tid (Recorded Tid State Op Answer Task Result) Op Answer Task Result) : Prop :=
  sys.recorded.Reachable (fun r => ∃ s, initial s ∧ r = { state := s }) c

namespace Records

variable {c : Config Tid (Recorded Tid State Op Answer Task Result) Op Answer Task Result}

theorem reachable (records : sys.Records initial c) : sys.Reachable initial ⟨c.state.state, c.threads⟩ := by
  obtain ⟨_, ⟨s, initially, rfl⟩, run⟩ := records
  refine ⟨s, initially, ?_⟩
  induction run with
  | refl => exact .refl
  | tail _ step ih =>
    cases step with
    | start idle begun =>
      obtain ⟨s, begun, rfl⟩ := begun
      exact ih.start _ _ idle begun
    | act running answered =>
      obtain ⟨s, answered, rfl⟩ := answered
      exact ih.act _ _ _ running answered
    | finish running ended =>
      obtain ⟨s, ended, rfl⟩ := ended
      exact ih.finish _ running ended
    | env moved =>
      obtain ⟨s, moved, rfl⟩ := moved
      exact ih.env moved

theorem exec (records : sys.Records initial c) :
    ∀ event ∈ c.state.events, sys.exec event.thread event.op event.before event.answer event.after := by
  refine System.invariant (fun r => ∀ event ∈ r.events, sys.exec event.thread event.op event.before
    event.answer event.after) ?_ ?_ ?_ ?_ ?_ records
  · rintro _ ⟨s, -, rfl⟩ event present
    cases present
  · rintro t task r _ known ⟨s, -, rfl⟩
    exact known
  · rintro t op r answer _ known ⟨s, answered, rfl⟩
    exact List.forall_mem_cons.mpr ⟨answered, known⟩
  · rintro t task result r _ known ⟨s, -, rfl⟩
    exact known
  · rintro r _ known ⟨s, -, rfl⟩
    exact known

/-- The events of a task that has returned are among all events, in their order, and they are what its code takes. -/
theorem returned (records : sys.Records initial c) {t : Tid} {task : Task} {result : Result}
    {events : List (Answered Tid State Op Answer)} (ended : (t, task, events, result) ∈ c.state.returned) :
    events.reverse.Sublist c.state.events ∧ (sys.code task).Takes events result := by
  obtain ⟨r, ⟨s, -, rfl⟩, run⟩ := records
  have whole : (∀ t, (c.state.current t).reverse.Sublist c.state.events) ∧
      (∀ t task rest, c.threads t = .running task rest → ∀ later result, rest.Takes later result →
        (sys.code task).Takes (c.state.current t ++ later) result) ∧
      ∀ t task events result, (t, task, events, result) ∈ c.state.returned →
        events.reverse.Sublist c.state.events ∧ (sys.code task).Takes events result := by
    clear ended
    induction run with
    | refl => exact ⟨fun t => .slnil, nofun, nofun⟩
    | tail _ step ih =>
      obtain ⟨order, running, returned⟩ := ih
      cases step with
      | @start t task _ idle begun =>
        obtain ⟨s, -, rfl⟩ := begun
        refine ⟨fun t' => ?_, fun t' task' rest active => ?_, returned⟩
        · by_cases same : t' = t
          · simp [same]
          · simpa [same] using order t'
        · by_cases same : t' = t
          · subst same
            simp only [update_self] at active
            cases active
            simp only [update_self, List.nil_append]
            exact fun later result taken => taken
          · simp only [update_of_ne same] at active
            simpa [same] using running t' task' rest active
      | @act t task op next answer _ active answered =>
        obtain ⟨s, -, rfl⟩ := answered
        refine ⟨fun t' => ?_, fun t' task' rest active' => ?_, fun t' task' events result ended => ?_⟩
        · by_cases same : t' = t
          · subst same
            simpa using order t'
          · simpa [same] using (order t').cons _
        · by_cases same : t' = t
          · subst same
            simp only [update_self] at active'
            cases active'
            intro later result taken
            simp only [update_self, List.append_assoc, List.singleton_append]
            exact running t' task _ active _ _ ⟨t', answer, _, s, later, rfl, taken⟩
          · simp only [update_of_ne same] at active'
            simpa [same] using running t' task' rest active'
        · obtain ⟨sub, taken⟩ := returned t' task' events result ended
          exact ⟨sub.cons _, taken⟩
      | @finish t task result _ active ended =>
        obtain ⟨s, -, rfl⟩ := ended
        refine ⟨order, fun t' task' rest active' => ?_, fun t' task' events result' ended => ?_⟩
        · by_cases same : t' = t
          · subst same
            simp only [update_self] at active'
            cases active'
          · simp only [update_of_ne same] at active'
            exact running t' task' rest active'
        · rcases List.mem_cons.mp ended with same | earlier
          · cases same
            have taken := running t task _ active [] result ⟨rfl, rfl⟩
            rw [List.append_nil] at taken
            exact ⟨order t, taken⟩
          · exact returned t' task' events result' earlier
      | env moved =>
        obtain ⟨s, -, rfl⟩ := moved
        exact ⟨order, running, returned⟩
  exact whole.2.2 t task events result ended

end Records

namespace Tracks

variable {S : Type} {ts : Typestate Op Answer S} {stands : State → Tid → S} {post : Task → Result → S → Prop} {rest : S}

theorem recorded (tracks : sys.Tracks ts stands post rest) :
    sys.recorded.Tracks ts (fun r => stands r.state) post rest where
  start t task r _ begun := by
    obtain ⟨s, begun, rfl⟩ := begun
    exact tracks.start t task r.state s begun
  exec t op r answer _ answered := by
    obtain ⟨s, answered, rfl⟩ := answered
    exact tracks.exec t op r.state answer s answered
  finish t task result r _ ended := by
    obtain ⟨s, ended, rfl⟩ := ended
    exact tracks.finish t task result r.state s ended
  env r _ moved := by
    obtain ⟨s, moved, rfl⟩ := moved
    exact tracks.env r.state s moved

theorem allowed {c : Config Tid (Recorded Tid State Op Answer Task Result) Op Answer Task Result}
    (tracks : sys.Tracks ts stands post rest) (init : ∀ s, initial s → ∀ t, stands s t = rest)
    (records : sys.Records initial c) : c.state.Allowed ts stands := by
  have base : ∀ r : Recorded Tid State Op Answer Task Result, (∃ s, initial s ∧ r = { state := s }) →
      ∀ t, stands r.state t = rest := by
    rintro _ ⟨s, initially, rfl⟩
    exact init s initially
  refine tracks.recorded.invariant base ?_ ?_ ?_ ?_ ?_ records
  · rintro _ ⟨s, -, rfl⟩ event present
    cases present
  · rintro t task r _ known _ ⟨s, -, rfl⟩
    exact known
  · rintro t op r answer _ known allowed ⟨s, answered, rfl⟩
    exact List.forall_mem_cons.mpr ⟨allowed, known⟩
  · rintro t task result r _ known _ ⟨s, -, rfl⟩
    exact known
  · rintro r _ known ⟨s, -, rfl⟩
    exact known

end Tracks

end System

end RuntimeHost.Foundation
