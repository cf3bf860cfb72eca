import RuntimeHost.Foundation.Record
import RuntimeHost.Process.Conduct

namespace RuntimeHost.Process

open Foundation Function Protocol Native ProcessProg

/-- What a thread of the process does: the main thread serves pass after pass and drops the server in the end, the
payload's own threads make Host calls. -/
inductive IsolatedTask where
  | serve (state : State)
  | drop (state : State)
  | host (table : HostCallbacks) (call : HostCall)

inductive IsolatedResult where
  | pass (pass : Server.Pass)
  | done

def IsolatedTask.code : IsolatedTask → ProcessProg IsolatedResult
  | .serve state => return .pass (← Server.serve state)
  | .drop state => do
    Server.dropEngine state
    return .done
  | .host table call => do
    let _ ← onStdio (table.code call)
    return .done

def IsolatedTask.stands : IsolatedTask → Conduct
  | .serve _ => free .resting none
  | _ => {}

inductive IsolatedEvent where
  | read (site : ReadSite) (answer : Except ProtocolError (Option Message))
  | wrote (message : Message)
  | library (server : State)
  | began (payload : Nat) (call : Native.PluginCall)
  | returned (payload : Nat) (call : Native.PluginCall) (result : PluginReturn)
  | answered (command response : Message) (before after : State)

def ProcessOp.events (server : State) : (op : ProcessOp) → op.Answer → List IsolatedEvent
  | .stdio (.readFrame site), answer => [.read site answer]
  | .stdio (.writeFrame message), .ok () => [.wrote message]
  | .engine (.register ..), _ => [.library server]
  | .behave payload call, _ => [.began payload call]
  | .returned payload call result, _ => [.returned payload call result]
  | _, _ => []

/-- A step puts nothing on record but a read, a frame that was written, a library, or the begin or the return of a plugin
call. -/
theorem ProcessOp.mem_events {server : State} {op : ProcessOp} {answer : op.Answer} {event : IsolatedEvent}
    (listed : event ∈ op.events server answer) :
    (∃ site read, op = .stdio (.readFrame site) ∧ event = .read site read) ∨ (∃ message, event = .wrote message) ∨
      event = .library server ∨ (∃ payload call, event = .began payload call) ∨
        ∃ payload call result, event = .returned payload call result := by
  cases op with
  | stdio op =>
    cases op with
    | readFrame site => exact .inl ⟨site, answer, rfl, List.mem_singleton.mp listed⟩
    | writeFrame message =>
      rcases (answer : Except ProtocolError Unit) with error | _
      · cases listed
      · exact .inr (.inl ⟨message, List.mem_singleton.mp listed⟩)
    | _ => cases listed
  | engine op =>
    cases op with
    | register libraryPath pluginId session => exact .inr (.inr (.inl (List.mem_singleton.mp listed)))
    | _ => cases listed
  | newEngine => cases listed
  | behave payload call => exact .inr (.inr (.inr (.inl ⟨payload, call, List.mem_singleton.mp listed⟩)))
  | returned payload call result => exact .inr (.inr (.inr (.inr ⟨payload, call, result, List.mem_singleton.mp listed⟩)))

def Conduct.events (before after : State) (x : Conduct) : List IsolatedEvent :=
  match x.phase with
  | .answered command response => [.answered command response before after]
  | _ => []

/-- An isolated Host: its streams, its engine, the state of its server, what `serve` has returned and whether the server
has been dropped; where each of its threads stands, and a record, newest first. -/
structure Isolated (Worker : Type) where
  stdio : Stdio (Option Worker) := {}
  engines : Engines (Option Worker) := {}
  server : State := .awaitHello
  outcome : Option (Except ProtocolError Unit) := none
  dropped : Bool := false
  conduct : Option Worker → Conduct := fun _ => {}
  history : List IsolatedEvent := []

abbrev IsolatedConfig (Worker : Type) :=
  Config (Option Worker) (Isolated Worker) ProcessOp ProcessOp.Answer IsolatedTask IsolatedResult

def outcomeOf : Except ProtocolError Bool → Option (Except ProtocolError Unit)
  | .ok true => none
  | .ok false => some (.ok ())
  | .error error => some (.error error)

namespace Isolated

variable {Worker : Type} [DecidableEq Worker]

def Fresh (s : Isolated Worker) : Prop := ∃ fallible, s = { stdio := { fallible } }

def put (s : Isolated Worker) (t : Option Worker) (x : Conduct) : Isolated Worker :=
  { s with conduct := update s.conduct t x }

def step (t : Option Worker) : (op : ProcessOp) → Isolated Worker → op.Answer → Isolated Worker → Prop
  | .stdio op, s, answer, s' => ∃ stdio, s.stdio.exec t op answer stdio ∧ s' = { s with stdio }
  | .engine op, s, answer, s' => ∃ engines, s.engines.exec t op answer engines ∧ s' = { s with engines }
  | .newEngine, s, _, s' => s' = { s with
    engines := { s.engines with engine := {} }
    stdio := { s.stdio with nextCallbackId := 2 } }
  | .behave .., s, _, s' => s' = s
  | .returned .., s, _, s' => s' = s

def exec (t : Option Worker) (op : ProcessOp) (s : Isolated Worker) (answer : op.Answer) (s' : Isolated Worker) : Prop :=
  ∃ next, s.step t op answer next ∧
    s' = { next with history := op.events s.server answer ++ s.history }.put t ((s.conduct t).next op answer)

def start (t : Option Worker) (task : IsolatedTask) (s s' : Isolated Worker) : Prop :=
  match t, task with
  | none, .serve state => s.outcome = none ∧ state = s.server ∧ s' = s.put none task.stands
  | none, .drop state => s.outcome.isSome ∧ s.dropped = false ∧ state = s.server ∧
    s' = { s with dropped := true }.put none task.stands
  | some worker, .host .. => s' = s.put (some worker) task.stands
  | _, _ => False

def finish (t : Option Worker) : IsolatedTask → IsolatedResult → Isolated Worker → Isolated Worker → Prop
  | .serve before, .pass pass, s, s' => s' = { s with
    server := pass.state
    outcome := outcomeOf pass.outcome
    history := (s.conduct t).events before pass.state ++ s.history }.put t {}
  | _, _, s, s' => s' = s.put t {}

def env (s s' : Isolated Worker) : Prop :=
  ∃ stdio, s' = { s with stdio } ∧
    ((∃ input, s.stdio.ended = false ∧ stdio = { s.stdio with unread := s.stdio.unread ++ [input] }) ∨
      stdio = { s.stdio with ended := true } ∨
      (∃ count, stdio = { s.stdio with output := s.stdio.output.drop count }) ∨ s.stdio.Spill stdio)

def system (Worker : Type) [DecidableEq Worker] :
    System (Option Worker) (Isolated Worker) ProcessOp ProcessOp.Answer IsolatedTask IsolatedResult where
  code := IsolatedTask.code
  start := start
  exec := exec
  finish := finish
  env := env

end Isolated

def IsolatedTask.Ends : IsolatedTask → IsolatedResult → Conduct → Prop
  | .serve before, .pass pass, x => ∃ phase, x = free phase none ∧ PassEnds before pass phase
  | .drop _, .done, x => x = {}
  | .host .., .done, x => x = {}
  | _, _, _ => False

namespace Isolated

variable {Worker : Type} [DecidableEq Worker]

omit [DecidableEq Worker] in
theorem follows_code (task : IsolatedTask) : (task.code).Follows typestate task.Ends task.stands := by
  have calls : Phase.Calls .outside := trivial
  cases task with
  | serve state => exact .bind (Prog.Follows.imp follows_serve fun pass x ends => ends)
  | drop state => exact .bind (Prog.Follows.imp (follows_dropEngine calls) fun _ x same => same)
  | host table call => exact .bind (Prog.Follows.imp (follows_host call calls) fun _ x same => same)

theorem stands_start {t : Option Worker} {task : IsolatedTask} {s s' : Isolated Worker} (begun : start t task s s') :
    s'.conduct = update s.conduct t task.stands := by
  cases t with
  | none =>
    cases task with
    | serve state =>
      obtain ⟨-, -, rfl⟩ := begun
      rfl
    | drop state =>
      obtain ⟨-, -, -, rfl⟩ := begun
      rfl
    | host table call => exact begun.elim
  | some worker =>
    cases task with
    | serve state => exact begun.elim
    | drop state => exact begun.elim
    | host table call =>
      obtain rfl : s' = _ := begun
      rfl

omit [DecidableEq Worker] in
theorem step_frame {t : Option Worker} {op : ProcessOp} {s s' : Isolated Worker} {answer : op.Answer}
    (done : s.step t op answer s') : ∃ stdio engines, s' = { s with stdio, engines } := by
  cases op with
  | stdio op =>
    obtain ⟨stdio, -, rfl⟩ := done
    exact ⟨stdio, _, rfl⟩
  | engine op =>
    obtain ⟨engines, -, rfl⟩ := done
    exact ⟨_, engines, rfl⟩
  | newEngine =>
    obtain rfl : s' = _ := done
    exact ⟨_, _, rfl⟩
  | behave payload call =>
    obtain rfl : s' = s := done
    exact ⟨_, _, rfl⟩
  | returned payload call result =>
    obtain rfl : s' = s := done
    exact ⟨_, _, rfl⟩

omit [DecidableEq Worker] in
theorem Fresh.conduct {s : Isolated Worker} (fresh : s.Fresh) (t : Option Worker) : s.conduct t = {} := by
  obtain ⟨fallible, rfl⟩ := fresh
  rfl

theorem stands_finish {t : Option Worker} {task : IsolatedTask} {result : IsolatedResult} {s s' : Isolated Worker}
    (ended : finish t task result s s') : s'.conduct = update s.conduct t {} := by
  cases task with
  | serve before =>
    cases result with
    | pass pass =>
      obtain rfl : s' = _ := ended
      rfl
    | done =>
      obtain rfl : s' = _ := ended
      rfl
  | drop state =>
    obtain rfl : s' = _ := ended
    rfl
  | host table call =>
    obtain rfl : s' = _ := ended
    rfl

theorem tracks : (system Worker).Tracks typestate Isolated.conduct IsolatedTask.Ends {} where
  start t task s s' begun := ⟨task.stands, stands_start begun, follows_code task⟩
  exec t op s answer s' answered := by
    obtain ⟨next, done, rfl⟩ := answered
    obtain ⟨stdio, engines, rfl⟩ := step_frame done
    rfl
  finish t task result s s' ended := stands_finish ended
  env s s' moved := by
    obtain ⟨stdio, rfl, -⟩ := moved
    rfl

/-- What a task of the main thread relies on: the server is its own, and it serves until `serve` has returned. -/
def Relies : Option Worker → IsolatedTask → Isolated Worker → Prop
  | none, .serve state, s => s.outcome = none ∧ state = s.server
  | none, .drop _, s => s.outcome.isSome
  | some _, .host .., _ => True
  | _, _, _ => False

omit [DecidableEq Worker] in
theorem Relies.of_same {t : Option Worker} {task : IsolatedTask} {s s' : Isolated Worker} (relied : Relies t task s)
    (outcome : s'.outcome = s.outcome) (server : s'.server = s.server) : Relies t task s' := by
  cases t with
  | none =>
    cases task with
    | serve state => exact ⟨outcome.trans relied.1, relied.2.trans server.symm⟩
    | drop state => exact (congrArg Option.isSome outcome).trans relied
    | host table call => exact relied
  | some worker =>
    cases task with
    | serve state => exact relied
    | drop state => exact relied
    | host table call => exact relied

theorem start_same {t : Option Worker} {task : IsolatedTask} {s s' : Isolated Worker} (begun : start t task s s') :
    s'.outcome = s.outcome ∧ s'.server = s.server ∧ s'.history = s.history := by
  cases t with
  | none =>
    cases task with
    | serve state =>
      obtain ⟨-, -, rfl⟩ := begun
      exact ⟨rfl, rfl, rfl⟩
    | drop state =>
      obtain ⟨-, -, -, rfl⟩ := begun
      exact ⟨rfl, rfl, rfl⟩
    | host table call => exact begun.elim
  | some worker =>
    cases task with
    | serve state => exact begun.elim
    | drop state => exact begun.elim
    | host table call =>
      obtain rfl : s' = _ := begun
      exact ⟨rfl, rfl, rfl⟩

theorem exec_same {t : Option Worker} {op : ProcessOp} {s s' : Isolated Worker} {answer : op.Answer}
    (answered : exec t op s answer s') :
    s'.outcome = s.outcome ∧ s'.server = s.server ∧ s'.history = op.events s.server answer ++ s.history := by
  obtain ⟨next, done, rfl⟩ := answered
  obtain ⟨stdio, engines, rfl⟩ := step_frame done
  exact ⟨rfl, rfl, rfl⟩

theorem finish_same {t : Option Worker} {task : IsolatedTask} {result : IsolatedResult} {s s' : Isolated Worker}
    (relied : Relies t task s) (ended : finish t task result s s') :
    (∃ pass, t = none ∧ task = .serve s.server ∧ result = .pass pass ∧ s.outcome = none ∧
      s'.server = pass.state ∧ s'.outcome = outcomeOf pass.outcome ∧
        s'.history = (s.conduct none).events s.server pass.state ++ s.history) ∨
      (∀ before pass, task = .serve before → result ≠ .pass pass) ∧
        s'.outcome = s.outcome ∧ s'.server = s.server ∧ s'.history = s.history := by
  cases task with
  | serve before =>
    cases t with
    | none =>
      obtain ⟨serving, rfl⟩ := relied
      cases result with
      | pass pass =>
        obtain rfl : s' = _ := ended
        exact .inl ⟨pass, rfl, rfl, rfl, serving, rfl, rfl, rfl⟩
      | done =>
        obtain rfl : s' = _ := ended
        exact .inr ⟨fun _ _ _ => by simp, rfl, rfl, rfl⟩
    | some worker => exact relied.elim
  | drop state =>
    obtain rfl : s' = _ := ended
    exact .inr ⟨fun _ _ => by simp, rfl, rfl, rfl⟩
  | host table call =>
    obtain rfl : s' = _ := ended
    exact .inr ⟨fun _ _ => by simp, rfl, rfl, rfl⟩

theorem employs : (system Worker).Employs Relies where
  start t task s s' begun := by
    cases t with
    | none =>
      cases task with
      | serve state =>
        obtain ⟨serving, rfl, rfl⟩ := begun
        exact ⟨serving, rfl⟩
      | drop state =>
        obtain ⟨stopped, -, -, rfl⟩ := begun
        exact stopped
      | host table call => exact begun.elim
    | some worker =>
      cases task with
      | serve state => exact begun.elim
      | drop state => exact begun.elim
      | host table call => trivial
  others t task t' task' s s' _ relied begun := relied.of_same (start_same begun).1 (start_same begun).2.1
  exec t task t' op s answer s' relied answered := relied.of_same (exec_same answered).1 (exec_same answered).2.1
  finish t task t' task' result s s' other relied relied' ended := by
    rcases finish_same relied' ended with ⟨pass, rfl, -⟩ | ⟨-, outcome, server, -⟩
    · cases t with
      | none => exact absurd rfl other
      | some worker => cases task <;> exact relied
    · exact relied.of_same outcome server
  env t task s s' relied moved := by
    obtain ⟨stdio, rfl, -⟩ := moved
    exact relied.of_same rfl rfl

end Isolated

end RuntimeHost.Process
