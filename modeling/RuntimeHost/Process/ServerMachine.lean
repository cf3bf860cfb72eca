import RuntimeHost.Process.Passes
import RuntimeHost.Process.PayloadLife

namespace RuntimeHost.Process

open Foundation Function Protocol Native ProcessProg

namespace IsolatedEvent

def Answers : IsolatedEvent → Prop
  | .answered .. => True
  | _ => False

def loads : IsolatedEvent → Bool
  | .answered command response _ _ =>
    match command.body, response.body with
    | .load .., .ok => true
    | _, _ => false
  | _ => false

end IsolatedEvent

def State.afterLoad : State → Nat
  | .awaitHello => 0
  | .awaitLoad => 0
  | .loaded .. => 1
  | .closed => 1

theorem afterLoad_le {before after : State} (moved : after = before ∨ Moves before after) :
    before.afterLoad ≤ after.afterLoad := by
  rcases moved with rfl | moves
  · exact le_rfl
  · cases moves with
    | greeted => exact le_rfl
    | loaded => exact Nat.zero_le 1
    | closed => exact le_rfl

theorem afterLoad_lt {command response : Message} {before after : State}
    (transition : Transition before command.body response.body after)
    (loads : (IsolatedEvent.answered command response before after).loads = true) : before.afterLoad < after.afterLoad := by
  simp only [IsolatedEvent.loads] at loads
  split at loads
  · rename_i load ok
    rw [load, ok] at transition
    cases transition with
    | load => exact Nat.zero_lt_one
    | stays quiet => rcases quiet rfl with enable | disable <;> contradiction
  · cases loads

theorem not_answers {op : ProcessOp} {server : State} {answer : op.Answer} {event : IsolatedEvent}
    (listed : event ∈ op.events server answer) : ¬event.Answers := by
  rcases ProcessOp.mem_events listed with ⟨site, read, -, rfl⟩ | ⟨message, rfl⟩ | rfl | ⟨payload, call, rfl⟩ |
    ⟨payload, call, result, rfl⟩
  all_goals exact id

namespace Isolated

variable {Worker : Type} [DecidableEq Worker] {s s' : Isolated Worker} {t : Option Worker}

omit [DecidableEq Worker] in
theorem estate_engine {op : EngineOp} {answer : op.Answer} {engines : Engines (Option Worker)}
    (done : s.engines.exec t op answer engines) :
    s.estate.step (.engine op) answer { s.estate with
      engine := engines.engine
      payload := engines.payload
      record := ((ProcessOp.engine op).events s.server answer ++ s.history).filter (·.own) } := by
  cases op with
  | register libraryPath pluginId session =>
    rcases Engines.register_cases done with ⟨error, rfl, rfl, -⟩ |
      ⟨self, next, unclosed, ⟨loaded, complete⟩, -, rfl, rfl⟩
    · exact ⟨_, .inl ⟨⟨error, rfl⟩, rfl⟩, rfl⟩
    · exact ⟨_, .inr ⟨_, self, next, unclosed, loaded, complete, rfl, rfl⟩, rfl⟩
  | resolveEntrypoint packageRoot entrypoint =>
    obtain ⟨-, rfl⟩ := done
    rfl
  | payload payloadId =>
    obtain ⟨rfl, rfl⟩ := done
    exact ⟨rfl, rfl⟩
  | remove payloadId =>
    obtain rfl : engines = _ := done
    rfl
  | drain =>
    have done : if s.engines.engine.closed then answer = none ∧ engines = s.engines
      else answer = some s.engines.engine.drained ∧ engines = { s.engines with engine := { s.engines.engine with
        closed := true, loadOrder := [], payloads := fun _ => none } } := done
    show if s.engines.engine.closed then _ else _
    by_cases closed : s.engines.engine.closed
    · rw [if_pos closed] at done ⊢
      obtain ⟨rfl, rfl⟩ := done
      exact ⟨rfl, rfl⟩
    · rw [if_neg closed] at done ⊢
      obtain ⟨rfl, rfl⟩ := done
      exact ⟨rfl, rfl⟩
  | lockPayload payload =>
    obtain ⟨-, rfl, rfl⟩ := done
    exact ⟨rfl, rfl⟩
  | setState payload state =>
    obtain rfl : engines = _ := done
    rfl
  | unlockPayload payload =>
    obtain rfl : engines = _ := done
    rfl

theorem estate_exec {op : ProcessOp} {answer : op.Answer} (answered : exec t op s answer s') :
    s.estate.step op answer s'.estate := by
  obtain ⟨next, done, rfl⟩ := answered
  cases op with
  | stdio op =>
    obtain ⟨stdio, -, rfl⟩ := done
    cases op with
    | readFrame site => rfl
    | writeFrame message =>
      rcases (answer : Except ProtocolError Unit) with error | _
      · rfl
      · rfl
    | _ => rfl
  | engine op =>
    obtain ⟨engines, done, rfl⟩ := done
    exact estate_engine done
  | newEngine =>
    obtain rfl : next = _ := done
    rfl
  | behave payload call =>
    obtain rfl : next = s := done
    rfl
  | returned payload call result =>
    obtain rfl : next = s := done
    rfl

def Leaves : IsolatedTask → IsolatedResult → Estate → Prop
  | .serve before, .pass pass, x => x.server = before ∧ x.outcome = none ∧ x.dropped = false ∧
    (before ≠ .awaitHello → Greeted x.record) ∧
      (x.Owes pass.state ∨ pass.outcome = .ok false ∧ x.engine.closed = true ∧ x.Settled)
  | .drop _, .done, x => x.AtRest
  | _, _, _ => False

theorem start_owner {task : IsolatedTask} (rest : s.estate.AtRest) (begun : start none task s s') :
    (task.code).Ensures Estate.step Estate.Orderly (Leaves task) s'.estate := by
  cases task with
  | serve state =>
    obtain ⟨serving, rfl, rfl⟩ := begun
    have undropped : s.estate.dropped = false := by
      cases dropped : s.estate.dropped with
      | false => rfl
      | true =>
        have returned : s.outcome.isSome := rest.stopped dropped
        rw [serving] at returned
        cases returned
    have owes : s.estate.Owes s.server := by
      rcases rest.owes with owes | ⟨returned, -⟩
      · exact owes
      · have returned : s.outcome.isSome := returned
        rw [serving] at returned
        cases returned
    have serves : s.estate.Serves s.server := ⟨rest.orderly, rest.greeted serving, owes⟩
    refine .bind ((Estate.ensures_serve serves).imp fun pass x here ends => ⟨here, ?_⟩)
    obtain ⟨around, ends⟩ := ends
    exact ⟨around.server, around.outcome.trans serving, around.dropped.trans undropped,
      fun other => (rest.greeted serving other).of_suffix around.record, ends⟩
  | drop state =>
    obtain ⟨returned, undropped, rfl, rfl⟩ := begun
    have still : s.estate.Quiet { s.estate with dropped := true } := ⟨rfl, rfl, rfl, rfl, rest.orderly.legal⟩
    have owes : Estate.Owes { s.estate with dropped := true } s.server ∨ s.estate.engine.closed = true ∧
        Estate.Settled { s.estate with dropped := true } :=
      rest.owes.imp still.owes fun closed => ⟨closed.2.1, still.settled closed.2.2⟩
    refine .bind ((Estate.ensures_dropEngine (still.orderly rest.orderly) owes).imp fun _ x here' ends => ⟨here', ?_⟩)
    obtain ⟨around, settled, ends⟩ := ends
    have stopped : x.outcome.isSome := by
      rw [around.outcome]
      exact returned
    refine ⟨here', ?_, fun _ => stopped, ?_, fun _ => settled⟩
    · intro serving
      rw [serving] at stopped
      cases stopped
    · rw [around.server]
      exact ends.imp_right fun closed => ⟨stopped, closed⟩
  | host table call => exact begun.elim

theorem greets_of_transition {before after : State} {command response : MessageBody}
    (transition : Transition before command response after) (other : after ≠ .awaitHello) :
    before ≠ .awaitHello ∨ command = .hello ∧ response = .ok := by
  cases transition with
  | hello => exact .inr ⟨rfl, rfl⟩
  | load => exact .inl (by simp)
  | shutdown => exact .inl (by simp)
  | stays => exact .inl other

theorem greeted_of_passEnds {before : State} {pass : Server.Pass} {phase : Phase} {x : Estate}
    (ends : PassEnds before pass phase) (greeted : before ≠ .awaitHello → Greeted x.record)
    (serving : outcomeOf pass.outcome = none) (other : pass.state ≠ .awaitHello) :
    Greeted (((free phase none).events before pass.state ++ x.record)) := by
  have old : before ≠ .awaitHello → Greeted ((free phase none).events before pass.state ++ x.record) :=
    fun other => (greeted other).of_suffix (List.suffix_append _ _)
  cases phase with
  | outside =>
    rw [ends.1] at serving
    cases serving
  | resting => exact ends.elim
  | handling command =>
    obtain ⟨⟨error, failed⟩, -⟩ := ends
    rw [failed] at serving
    cases serving
  | failed =>
    obtain ⟨⟨error, failed⟩, -⟩ := ends
    rw [failed] at serving
    cases serving
  | answered command response =>
    obtain ⟨goesOn, -, -, transition⟩ := ends
    rcases greets_of_transition transition other with greeted | greets
    · exact old greeted
    · exact ⟨_, List.mem_append_left _ (List.mem_singleton_self _), greets⟩

theorem events_own (x : Conduct) (before after : State) :
    (x.events before after).filter (·.own) = x.events before after ∧ initializations (x.events before after) = 0 ∧
      shutdowns (x.events before after) = 0 ∧ ∀ event ∈ x.events before after, ∀ earlier, AfterHello earlier event := by
  unfold Conduct.events
  split
  · exact ⟨rfl, rfl, rfl, fun event listed earlier => by rw [List.mem_singleton.mp listed]; trivial⟩
  · exact ⟨rfl, rfl, rfl, fun event listed => absurd listed List.not_mem_nil⟩

theorem finish_owner {task : IsolatedTask} {result : IsolatedResult} (here : s.estate.Orderly)
    (leaves : Leaves task result s.estate) (ends : task.Ends result (s.conduct none))
    (ended : finish none task result s s') : s'.estate.AtRest := by
  cases task with
  | serve before =>
    cases result with
    | pass pass =>
      obtain ⟨phase, stands, ends⟩ := ends
      obtain ⟨server, serving, undropped, greeted, owes⟩ := leaves
      obtain rfl : s' = _ := ended
      rw [stands]
      obtain ⟨own, inits, shuts, quiet⟩ := events_own (free phase none) before pass.state
      have inits' : initializations ((free phase none).events before pass.state ++ s.estate.record) =
          initializations s.estate.record := by
        rw [initializations, List.countP_append]
        exact (congrArg (· + _) inits).trans (Nat.zero_add _)
      have shuts' : shutdowns ((free phase none).events before pass.state ++ s.estate.record) =
          shutdowns s.estate.record := by
        rw [shutdowns, List.countP_append]
        exact (congrArg (· + _) shuts).trans (Nat.zero_add _)
      have record : ((free phase none).events before pass.state ++ s.history).filter (·.own) =
          (free phase none).events before pass.state ++ s.estate.record := by
        rw [List.filter_append, own]
        rfl
      rw [← record] at inits' shuts'
      have still : s.estate.Quiet { s.estate with
          server := pass.state
          outcome := outcomeOf pass.outcome
          record := ((free phase none).events before pass.state ++ s.history).filter (·.own) } :=
        ⟨rfl, rfl, inits', shuts', record ▸ legal_append here.legal quiet⟩
      refine ⟨still.orderly here, fun goesOn other => ?_, fun dropped => ?_, ?_, fun dropped => ?_⟩
      · show Greeted (((free phase none).events before pass.state ++ s.history).filter (·.own))
        rw [record]
        exact greeted_of_passEnds ends greeted goesOn other
      · have dropped : s.dropped = true := dropped
        rw [show s.dropped = false from undropped] at dropped
        cases dropped
      · rcases owes with owes | ⟨stopped, closed, settled⟩
        · exact .inl (still.owes owes)
        · refine .inr ⟨?_, closed, still.settled settled⟩
          show (outcomeOf pass.outcome).isSome
          rw [stopped]
          rfl
      · have dropped : s.dropped = true := dropped
        rw [show s.dropped = false from undropped] at dropped
        cases dropped
    | done => exact leaves.elim
  | drop state =>
    cases result with
    | pass pass => exact leaves.elim
    | done =>
      obtain rfl : s' = _ := ended
      exact leaves
  | host table call => exact leaves.elim

theorem owns : (system Worker).Owns none Isolated.estate Estate.step Estate.Orderly Estate.AtRest Leaves
    (fun task result s => task.Ends result (s.conduct none)) (fun task => ∃ table call, task = .host table call)
    (fun op => ∃ op', op = .stdio op') where
  calm x rest := rest.orderly
  start task s s' rest begun := start_owner rest begun
  exec op s answer s' answered := estate_exec answered
  finish task result s s' here leaves ends ended := finish_owner here leaves ends ended
  visit t task s s' other begun := by
    cases t with
    | none => exact absurd rfl other
    | some worker =>
      cases task with
      | serve state => exact begun.elim
      | drop state => exact begun.elim
      | host table call =>
        obtain rfl : s' = _ := begun
        have each : ∀ op : StdioOp, (ProcessProg.stdio op).Only fun op => ∃ op', op = .stdio op' :=
          fun op => ⟨⟨op, rfl⟩, fun _ => trivial⟩
        exact ⟨rfl, ⟨table, call, rfl⟩, .bind (.handle each (table.code call)) fun _ => trivial⟩
  pass t op s answer s' other shared answered := by
    obtain ⟨op, rfl⟩ := shared
    exact estate_exec answered
  leave t task result s s' other guest ended := by
    obtain ⟨table, call, rfl⟩ := guest
    obtain rfl : s' = _ := ended
    rfl
  env s s' moved := by
    obtain ⟨stdio, rfl, -⟩ := moved
    rfl

section Run

variable {c c' : IsolatedConfig Worker}

theorem kept_of_reachable (reached : (system Worker).Reachable Fresh c) : System.Owns.Kept none Isolated.estate Estate.step
    Estate.Orderly Estate.AtRest Leaves (fun task => ∃ table call, task = .host table call)
    (fun op => ∃ op', op = .stdio op') c := by
  refine owns.kept ?_ ?_ reached
  · rintro s ⟨fallible, rfl⟩
    refine ⟨⟨legal_nil, Nat.zero_le 1, le_rfl⟩, fun _ other => absurd rfl other, fun dropped => ?_, .inl rfl, fun _ => rfl⟩
    cases dropped
  · intro c reached task r running
    have standing := tracks.standing (fun s fresh => fresh.conduct) reached none
    rw [running] at standing
    exact standing

theorem step_cases (reached : (system Worker).Reachable Fresh c) (step : (system Worker).Step c c') :
    (c'.state.server = c.state.server ∧ c'.state.outcome = c.state.outcome ∧
      ∃ new, c'.state.history = new ++ c.state.history ∧ ∀ event ∈ new, ¬event.Answers) ∨
      ∃ pass phase, c.state.outcome = none ∧ c'.state.server = pass.state ∧ c'.state.outcome = outcomeOf pass.outcome ∧
        c'.state.history = (free phase none).events c.state.server pass.state ++ c.state.history ∧
          PassEnds c.state.server pass phase := by
  cases step with
  | start idle begun =>
    obtain ⟨outcome, server, history⟩ := start_same begun
    exact .inl ⟨server, outcome, [], history, fun _ listed => absurd listed List.not_mem_nil⟩
  | @act t task op next answer s running answered =>
    obtain ⟨outcome, server, history⟩ := exec_same answered
    exact .inl ⟨server, outcome, _, history, fun event => not_answers⟩
  | @finish t task result s running ended =>
    have standing := tracks.standing (fun s fresh => fresh.conduct) reached t
    rw [running] at standing
    rcases finish_same (employs.holds reached running) ended with
      ⟨pass, rfl, rfl, rfl, serving, server, outcome, history⟩ | ⟨-, outcome, server, history⟩
    · obtain ⟨phase, stands, ends⟩ := standing
      rw [stands] at history
      exact .inr ⟨pass, phase, serving, server, outcome, history, ends⟩
    · exact .inl ⟨server, outcome, [], history, fun _ listed => absurd listed List.not_mem_nil⟩
  | env moved =>
    obtain ⟨stdio, rfl, -⟩ := moved
    exact .inl ⟨rfl, rfl, [], rfl, fun _ listed => absurd listed List.not_mem_nil⟩

/-- At most one load is answered with `Ok`, and none before the server has its payload; what every answer did to the server
is on record. -/
structure Transitions (s : Isolated Worker) : Prop where
  loads : s.history.countP (·.loads) ≤ s.server.afterLoad
  transitions : ∀ command response before after, .answered command response before after ∈ s.history →
    Transition before command.body response.body after

theorem transitions_of_reachable (reached : (system Worker).Reachable Fresh c) : Transitions c.state := by
  obtain ⟨s, ⟨fallible, rfl⟩, run⟩ := reached
  induction run with
  | refl => exact ⟨le_rfl, fun _ _ _ _ listed => absurd listed List.not_mem_nil⟩
  | @tail c c' earlier step ih =>
    obtain ⟨loads, transitions⟩ := ih
    rcases step_cases ⟨_, ⟨fallible, rfl⟩, earlier⟩ step with
      ⟨server, -, new, history, quiet⟩ | ⟨pass, phase, -, server, -, history, ends⟩
    · refine ⟨?_, ?_⟩
      · have none : new.countP (·.loads) = 0 := by
          rw [List.countP_eq_zero]
          intro event listed loaded
          cases event with
          | answered command response before after => exact quiet _ listed trivial
          | _ => cases loaded
        rw [history, List.countP_append, server, none, Nat.zero_add]
        exact loads
      · intro command response before after listed
        rw [history] at listed
        rcases List.mem_append.mp listed with listed | listed
        · exact absurd trivial (quiet _ listed)
        · exact transitions _ _ _ _ listed
    · have moved := afterLoad_le ends.moves
      cases phase with
      | answered command response =>
        obtain ⟨goesOn, -, -, transition⟩ := ends
        refine ⟨?_, ?_⟩
        · rw [history, server]
          show List.countP _ (_ :: _) ≤ _
          rw [List.countP_cons]
          split
          · rename_i loaded
            exact Nat.lt_of_le_of_lt loads (afterLoad_lt transition loaded)
          · exact loads.trans moved
        · intro command' response' before after listed
          rw [history] at listed
          rcases List.mem_cons.mp listed with same | listed
          · cases same
            exact transition
          · exact transitions _ _ _ _ listed
      | resting => exact ends.elim
      | _ =>
        have history : c'.state.history = c.state.history := history
        refine ⟨?_, ?_⟩
        · rw [history, server]
          exact loads.trans moved
        · rw [history]
          exact transitions

theorem orderly_of_reachable (reached : (system Worker).Reachable Fresh c) : c.state.estate.Orderly :=
  (kept_of_reachable reached).within fun _ rest => rest.orderly

def Ended (c : IsolatedConfig Worker) : Prop :=
  c.state.outcome.isSome ∧ c.state.dropped = true ∧ c.threads none = .idle

theorem settled_of_ended (reached : (system Worker).Reachable Fresh c) (ended : Ended c) : c.state.estate.Settled := by
  obtain ⟨-, dropped, idle⟩ := ended
  have holds := (kept_of_reachable reached).1
  rw [idle] at holds
  exact holds.settled dropped

structure ServerMachine (c : IsolatedConfig Worker) : Prop where
  moves : ∀ c', (system Worker).Step c c' → c'.state.server = c.state.server ∨ Moves c.state.server c'.state.server
  libraries : Legal AfterHello c.state.history
  loads : c.state.history.countP (·.loads) ≤ 1
  refused : ∀ command response before after, .answered command response before after ∈ c.state.history →
    (∃ code message, response.body = .error code message) → after = before
  stops : ∀ c' command response before after, (system Worker).Step c c' →
    c'.state.history = .answered command response before after :: c.state.history →
      if command.body = .shutdown ∧ response.body = .ok then c'.state.outcome = some (.ok ()) else c'.state.outcome = none
  stopped : ∀ c', (system Worker).Step c c' → c.state.outcome.isSome →
    c'.state.outcome = c.state.outcome ∧ ∀ event ∈ c'.state.history, event.Answers → event ∈ c.state.history
  paired : shutdowns c.state.history ≤ initializations c.state.history ∧ initializations c.state.history ≤ 1
  once : Ended c → (0 < initializations c.state.history → shutdowns c.state.history = 1) ∧
    (initializations c.state.history = 0 → shutdowns c.state.history = 0)

theorem server_machine (reached : (system Worker).Reachable Fresh c) : ServerMachine c := by
  have answered := transitions_of_reachable reached
  have orderly := orderly_of_reachable reached
  have once : initializations c.state.history ≤ 1 := initializations_own ▸ orderly.once
  refine ⟨?_, afterHello_of_own orderly.legal, ?_, ?_, ?_, ?_, ?_, ?_⟩
  · intro c' step
    rcases step_cases reached step with ⟨server, -⟩ | ⟨pass, phase, -, server, -, -, ends⟩
    · exact .inl server
    · rw [server]
      exact ends.moves
  · refine answered.loads.trans ?_
    cases c.state.server with
    | awaitHello => exact Nat.zero_le 1
    | awaitLoad => exact Nat.zero_le 1
    | loaded host payloadId => exact le_rfl
    | closed => exact le_rfl
  · intro command response before after listed error
    obtain ⟨code, message, body⟩ := error
    have transition := answered.transitions command response before after listed
    rw [body] at transition
    generalize command.body = command at transition
    cases transition with
    | stays => rfl
  · intro c' command response before after step shape
    rcases step_cases reached step with ⟨-, -, new, history, quiet⟩ | ⟨pass, phase, -, -, outcome, history, ends⟩
    · rw [history] at shape
      have single : new = [.answered command response before after] := List.append_cancel_right shape
      subst single
      exact absurd trivial (quiet _ (.head _))
    · rw [history] at shape
      have single : (free phase none).events c.state.server pass.state = [.answered command response before after] :=
        List.append_cancel_right shape
      cases phase with
      | answered command' response' =>
        cases single
        obtain ⟨goesOn, goes, stops, -⟩ := ends
        rw [outcome, goes]
        split
        · rename_i shutdown
          rw [stops.mpr shutdown]
          rfl
        · rename_i other
          rw [Bool.eq_true_of_not_eq_false (mt stops.mp other)]
          rfl
      | _ => cases single
  · intro c' step stopped
    rcases step_cases reached step with ⟨-, outcome, new, history, quiet⟩ | ⟨pass, phase, serving, -⟩
    · refine ⟨outcome, fun event listed answers => ?_⟩
      rw [history] at listed
      rcases List.mem_append.mp listed with listed | listed
      · exact absurd answers (quiet event listed)
      · exact listed
    · rw [serving] at stopped
      cases stopped
  · exact ⟨by rw [← initializations_own, ← shutdowns_own]; exact orderly.paired, once⟩
  · intro ended
    have settled : shutdowns c.state.history = initializations c.state.history := by
      rw [← initializations_own, ← shutdowns_own]
      exact settled_of_ended reached ended
    exact ⟨fun some => by omega, fun none => by omega⟩

end Run

section EndOfInput

variable {server : State} {stdio : Stdio (Option Worker)} {engines engines' : Engines (Option Worker)}
  {new : List IsolatedEvent}

theorem does_endOfInput (free : stdio.reader = none) (unread : stdio.unread = []) (ended : stdio.ended = true)
    (drops : Does server (Server.dropEngine server) stdio engines () stdio engines' new) :
    Does server (Server.serve server) stdio engines ⟨server, .ok false⟩ stdio engines' (.read .serve (.ok none) :: new) := by
  have reads : { stdio with reader := some none }.exec none (.readFrame .serve)
      (.ok none : Except ProtocolError (Option Message)) { stdio with reader := some none } := by
    refine ⟨[], ?_, ?_⟩
    · show Protocol.readFrame stdio.ended stdio.unread = _
      rw [unread, ended]
      rfl
    · rw [unread]
  have unlocked : stdio = { ({ stdio with reader := some none } : Stdio (Option Worker)) with reader := none } := by
    rw [← free]
  have dropped : Does server (Server.dropEngine server >>= fun _ => .done ⟨server, .ok false⟩ : ProcessProg Server.Pass) stdio
      engines ⟨server, .ok false⟩ stdio engines' new :=
    .of_eq (.bind drops .done) rfl (List.append_nil new)
  exact .streams .lockReader () ⟨free, rfl⟩ (.streams (.readFrame .serve)
    (.ok none : Except ProtocolError (Option Message)) reads (.streams .unlockReader () unlocked dropped))

theorem does_life : ∃ (engines engines' : Engines (Option Worker)) (new : List IsolatedEvent),
    ∀ stdio : Stdio (Option Worker),
      Does (.loaded sessionHost 1) (Server.handle (.loaded sessionHost 1) .enable) stdio (sessionEngines .loaded)
        (.ok ⟨.loaded sessionHost 1, .ok .ok, false⟩) stdio engines
        [.began 0 (.initializePlugin 1 1), .returned 0 (.initializePlugin 1 1) ⟨.ok, none⟩] ∧
      Does (.loaded sessionHost 1) (Server.dropEngine (.loaded sessionHost 1)) stdio engines () stdio engines' new ∧
      Does (.loaded sessionHost 1) (Server.dropEngine (.loaded sessionHost 1)) stdio engines' () stdio engines' [] := by
  have enables : ∃ engines : Engines (Option Worker), (∀ stdio, Does (.loaded sessionHost 1)
      (sessionHost.onEngine (Engine.enablePayload 1)) stdio (sessionEngines .loaded) (.ok () : Except HostError Unit) stdio
        engines [.began 0 (.initializePlugin 1 1), .returned 0 (.initializePlugin 1 1) ⟨.ok, none⟩]) ∧
      engines.engine = (sessionEngines .loaded : Engines (Option Worker)).engine ∧ engines.holder 0 = none ∧
        engines.payload 0 = sessionPayload .enabled :=
    ⟨_, fun stdio => .of_eq (.native (.payload 1) (.ok 0 : Except HostError Nat) ⟨rfl, rfl⟩
      (does_locked rfl (does_plugin (does_quiet ⟨.ok, none⟩) (.native (.setState 0 .enabled) () rfl .done)))) rfl rfl,
        rfl, rfl, rfl⟩
  obtain ⟨engines, enables, engine, free, payload⟩ := enables
  obtain ⟨between, drained, free', payload', closed⟩ : ∃ between : Engines (Option Worker),
      engines.exec none .drain (some [0] : Option (List Nat)) between ∧ between.holder 0 = none ∧
        between.payload 0 = sessionPayload .enabled ∧ between.engine.closed = true := by
    refine ⟨{ engines with engine := { engines.engine with closed := true, loadOrder := [], payloads := fun _ => none } }, ?_,
      free, payload, rfl⟩
    show if engines.engine.closed then _ else _
    rw [engine]
    exact ⟨rfl, rfl⟩
  have shuts : ∀ (stdio : Stdio (Option Worker)) (engines' : Engines (Option Worker)),
      Does (.loaded sessionHost 1) (sessionHost.onEngine ((sessionPayload .enabled).forceShutdown 0)) stdio engines'
        (.ok () : Except HostError Unit) stdio { engines' with
          payload := update engines'.payload 0 { engines'.payload 0 with state := .shutdown } }
        [.began 0 (.shutdown 1), .returned 0 (.shutdown 1) ⟨.ok, none⟩] :=
    fun stdio engines' => .of_eq (does_plugin (does_quiet ⟨.ok, none⟩) (.native (.setState 0 .shutdown) () rfl .done)) rfl rfl
  rw [← payload'] at shuts
  obtain ⟨engines', new, closes, closed⟩ : ∃ (engines' : Engines (Option Worker)) (new : List IsolatedEvent),
      (∀ stdio, Does (.loaded sessionHost 1) (sessionHost.onEngine Engine.close) stdio engines
        (.ok () : Except HostError Unit) stdio engines' new) ∧ engines'.engine.closed = true := by
    refine ⟨{ between with
      payload := update between.payload 0 { between.payload 0 with state := .shutdown }
      holder := update (update between.holder 0 (some none)) 0 none },
      [.began 0 (.shutdown 1), .returned 0 (.shutdown 1) ⟨.ok, none⟩], fun stdio => ?_, closed⟩
    refine .native .drain (some [0] : Option (List Nat)) drained ?_
    show Does _ (sessionHost.onEngine ((locked 0 (EmbeddedPayload.forceShutdown 0) >>= _) >>= _)) _ _ _ _ _ _
    rw [onEngine_bind, onEngine_bind]
    exact .of_eq (.bind (.bind (does_locked free' (shuts stdio _)) .done) .done) rfl rfl
  have done : engines'.exec none .drain (none : Option (List Nat)) engines' := by
    show if engines'.engine.closed then _ else _
    rw [if_pos closed]
    exact ⟨rfl, rfl⟩
  exact ⟨engines, engines', new ++ [], fun stdio => ⟨.of_eq (.bind (.bind (enables stdio) .done) .done) rfl rfl,
    .bind (closes stdio) .done, .of_eq (.bind (.native .drain (none : Option (List Nat)) done .done) .done) rfl rfl⟩⟩

theorem performs_dropped {α : Type} {p : ProcessProg α} {a : α} {s s' : Isolated Worker} {t : Option Worker}
    (performs : (system Worker).Performs t p s a s') : s'.dropped = s.dropped := by
  induction p generalizing s with
  | done =>
    obtain ⟨-, rfl⟩ := performs
    rfl
  | act op next ih =>
    obtain ⟨answer, between, ⟨after, done, rfl⟩, performs⟩ := performs
    obtain ⟨stdio, engines, rfl⟩ := step_frame done
    have kept := ih answer performs
    exact kept

theorem run_drop {s : Isolated Worker} (reached : (system Worker).Reachable Fresh ⟨s, fun _ => .idle⟩)
    (stopped : s.outcome.isSome)
    (does : Does s.server (Server.dropEngine s.server) s.stdio s.engines () stdio engines' new) :
    ∃ c : IsolatedConfig Worker, (system Worker).Reachable Fresh c ∧ Ended c ∧ s.history <:+ c.state.history := by
  cases dropped : s.dropped with
  | true => exact ⟨_, reached, ⟨stopped, dropped, rfl⟩, List.suffix_refl _⟩
  | false =>
    obtain ⟨s₀, fresh, run⟩ := reached
    obtain ⟨between, ran, streams, engine, -, outcome, history⟩ :=
      does ({ s with dropped := true }.put none (IsolatedTask.drop s.server).stands) rfl rfl rfl
    have performs : (system Worker).Performs none (IsolatedTask.drop s.server).code
        ({ s with dropped := true }.put none (IsolatedTask.drop s.server).stands) .done between := ran.bind ⟨rfl, rfl⟩
    have finished := run.complete none (.drop s.server) rfl ⟨stopped, dropped, rfl, rfl⟩ performs rfl
    refine ⟨_, ⟨s₀, fresh, finished⟩, ⟨?_, ?_, rfl⟩, ?_⟩
    · show between.outcome.isSome
      rw [outcome]
      exact stopped
    · exact performs_dropped ran
    · show s.history <:+ between.history
      rw [history]
      exact List.suffix_append _ _

/-- The input ends after an enable: the payload has been initialized, and it is shut down once. -/
theorem server_machine_endOfInput : ∃ c : IsolatedConfig Empty, (system Empty).Reachable Fresh c ∧ Ended c ∧
    0 < initializations c.state.history ∧ shutdowns c.state.history = 1 := by
  obtain ⟨enable, framed⟩ := frame_enableCommand_isOk
  obtain ⟨s, reached, server, engine, serving, unread, ended, reader, writer, fallible, counter⟩ :
    ∃ s : Isolated Empty, (system Empty).Reachable Fresh ⟨s, fun _ => .idle⟩ ∧
      Waits s (.loaded sessionHost 1) (sessionEngines .loaded) (enable.map .byte ++ []) := run_loaded _
  obtain ⟨engines, engines', new, life⟩ := @does_life Empty _
  have answerable : Answerable (.ok .ok) := trivial
  obtain ⟨response, made⟩ := respond_message answerable enableCommand (by decide)
  obtain ⟨out, framed'⟩ := frame_ok_isOk (Message.new_eq_ok_iff.mp made).2
  have passes := does_serve reader unread framed (by decide) (life { s.stdio with unread := [] }).1 made framed' writer
  rw [← server, ← engine] at passes
  obtain ⟨s₁, answered, ⟨s₀, fresh, run₁⟩, streams, engine₁, server₁, outcome₁, history₁⟩ := run_pass reached serving passes
  have run₂ := run₁.env (s := { s₁ with stdio := { s₁.stdio with ended := true } }) ⟨_, rfl, .inr (.inl rfl)⟩
  have free : { s₁.stdio with ended := true }.reader = none := by
    rw [streams]
    exact reader
  have nothing : { s₁.stdio with ended := true }.unread = [] := by rw [streams]
  have stops := does_endOfInput free nothing rfl (life { s₁.stdio with ended := true }).2.1
  have server₁ : s₁.server = .loaded sessionHost 1 := server₁.trans server
  rw [← server₁, ← engine₁] at stops
  obtain ⟨s₃, answered', reached₃, streams₃, engine₃, server₃, outcome₃, history₃⟩ :=
    run_pass ⟨s₀, fresh, run₂⟩ outcome₁ stops
  have drops := (life s₃.stdio).2.2
  have server₃ : s₃.server = .loaded sessionHost 1 := server₃.trans server₁
  rw [← server₃, ← engine₃] at drops
  obtain ⟨c, reached, ended, later⟩ := run_drop reached₃ (by rw [outcome₃]; rfl) drops
  have initialized : .returned 0 (.initializePlugin 1 1) ⟨.ok, none⟩ ∈ c.state.history := by
    refine later.subset ?_
    rw [history₃]
    refine List.mem_append_right _ (List.mem_append_right _ ?_)
    show _ ∈ s₁.history
    rw [history₁]
    simp
  have some : 0 < initializations c.state.history := List.countP_pos_iff.mpr ⟨_, initialized, rfl⟩
  exact ⟨c, reached, ended, some, ((server_machine reached).once ended).1 some⟩

end EndOfInput

end Isolated

end RuntimeHost.Process
