import RuntimeHost.Process.DialogueTurns
import RuntimeHost.Process.Passes

namespace RuntimeHost.Process

open Foundation Function Protocol Native ProcessProg System

def ProcessOp.Quiet : ProcessOp → Prop
  | .stdio (.readFrame _) => False
  | .stdio (.writeFrame _) => False
  | .stdio .flush => False
  | _ => True

namespace Isolated

variable {s s' : Isolated Empty} {op : ProcessOp}

def dealings (s : Isolated Empty) : Dealings where
  unread := s.stdio.unread
  ended := s.stdio.ended
  buffered := s.stdio.buffered
  output := s.stdio.output
  fallible := s.stdio.fallible
  calling := (s.conduct none).calling
  phase := (s.conduct none).phase
  outcome := s.outcome
  server := s.server
  served := s.reads .serve
  replied := s.reads .callback
  called := s.callbacks
  responded := s.responses

theorem dealings_quiet {answer : op.Answer} (quiet : op.Quiet) (answered : exec none op s answer s') :
    s'.dealings = s.dealings := by
  obtain ⟨next, done, rfl⟩ := answered
  cases op with
  | stdio op =>
    obtain ⟨stdio, done, rfl⟩ := done
    cases op with
    | readFrame site => exact quiet.elim
    | writeFrame message => exact quiet.elim
    | flush => exact quiet.elim
    | lockReader =>
      obtain ⟨-, rfl⟩ := done
      rfl
    | unlockReader =>
      obtain rfl : stdio = _ := done
      rfl
    | lockWriter =>
      obtain ⟨-, rfl⟩ := done
      rfl
    | unlockWriter =>
      obtain rfl : stdio = _ := done
      rfl
    | nextCallbackId =>
      obtain ⟨-, rfl⟩ := done
      rfl
  | engine op =>
    obtain ⟨engines, done, rfl⟩ := done
    cases op <;> rfl
  | newEngine =>
    obtain rfl : next = _ := done
    rfl
  | behave payload call =>
    obtain rfl : next = s := done
    rfl
  | returned payload call result =>
    obtain rfl : next = s := done
    rfl

theorem dealings_serve {command : Message} (odd : ¬command.requestId % 2 = 0)
    (answered : exec none (.stdio (.readFrame .serve)) s (arrived command) s') :
    ∃ rest, readFrame s.stdio.ended s.stdio.unread = .ready (arrived command) rest ∧
      s'.dealings = { s.dealings with
        unread := rest
        phase := .handling command
        served := s.dealings.served ++ [arrived command] } := by
  obtain ⟨_, ⟨_, ⟨rest, ready, rfl⟩, rfl⟩, rfl⟩ := answered
  refine ⟨rest, ready, ?_⟩
  have phase : (if command.requestId % 2 = 0 then Phase.failed else .handling command) = .handling command := if_neg odd
  simp [dealings, put, reads, callbacks, responses, ProcessOp.events, List.filterMap_cons, IsolatedEvent.readBy,
    IsolatedEvent.callback, IsolatedEvent.response, Conduct.next, arrived, phase]

theorem dealings_hear {answer : Except ProtocolError (Option Message)}
    (answered : exec none (.stdio (.readFrame .callback)) s answer s') :
    ∃ rest, readFrame s.stdio.ended s.stdio.unread = .ready answer rest ∧
      s'.dealings = { s.dealings with
        unread := rest
        calling := none
        replied := s.dealings.replied ++ [answer] } := by
  obtain ⟨_, ⟨_, ⟨rest, ready, rfl⟩, rfl⟩, rfl⟩ := answered
  refine ⟨rest, ready, ?_⟩
  simp [dealings, put, reads, callbacks, responses, ProcessOp.events, List.filterMap_cons, IsolatedEvent.readBy,
    IsolatedEvent.callback, IsolatedEvent.response, Conduct.next]

theorem written_of_fits {message : Message} {bytes : List UInt8} {answer : Except ProtocolError Unit}
    (framed : frame message = .ok bytes) (unfailing : s.stdio.fallible = false)
    (answered : exec none (.stdio (.writeFrame message)) s answer s') :
    answer = .ok () ∧ s' = ({ s with
      stdio := { s.stdio with buffered := s.stdio.buffered ++ bytes }
      history := .wrote message :: s.history } : Isolated Empty).put none
        ((s.conduct none).next (.stdio (.writeFrame message)) (.ok () : Except ProtocolError Unit)) := by
  obtain ⟨_, ⟨stdio, done, rfl⟩, rfl⟩ := answered
  simp only [Stdio.exec, framed] at done
  rcases done with ⟨rfl, rfl⟩ | ⟨error, written, fails, -⟩
  · exact ⟨rfl, rfl⟩
  · rw [unfailing] at fails
    cases fails

theorem dealings_call {message : Message} {bytes : List UInt8} {answer : Except ProtocolError Unit}
    (even : message.requestId % 2 = 0) (framed : frame message = .ok bytes) (unfailing : s.stdio.fallible = false)
    (answered : exec none (.stdio (.writeFrame message)) s answer s') : s'.dealings = { s.dealings with
      buffered := s.stdio.buffered ++ bytes
      calling := some message
      called := s.dealings.called ++ [message] } := by
  obtain ⟨-, rfl⟩ := written_of_fits framed unfailing answered
  simp [dealings, put, reads, callbacks, responses, List.filterMap_cons, IsolatedEvent.readBy, IsolatedEvent.callback,
    IsolatedEvent.response, Conduct.next, even]

theorem dealings_respond {command message : Message} {bytes : List UInt8} {answer : Except ProtocolError Unit}
    (handling : (s.conduct none).phase = .handling command) (odd : ¬message.requestId % 2 = 0)
    (framed : frame message = .ok bytes) (unfailing : s.stdio.fallible = false)
    (answered : exec none (.stdio (.writeFrame message)) s answer s') : s'.dealings = { s.dealings with
      buffered := s.stdio.buffered ++ bytes
      phase := .answered command message
      responded := s.dealings.responded ++ [message] } := by
  obtain ⟨-, rfl⟩ := written_of_fits framed unfailing answered
  simp [dealings, put, reads, callbacks, responses, List.filterMap_cons, IsolatedEvent.readBy, IsolatedEvent.callback,
    IsolatedEvent.response, Conduct.next, odd, handling]

theorem dealings_flush {answer : Except IoError Unit} (unfailing : s.stdio.fallible = false)
    (answered : exec none (.stdio .flush) s answer s') : s'.dealings = { s.dealings with
      output := s.stdio.output ++ s.stdio.buffered
      buffered := [] } := by
  obtain ⟨_, ⟨stdio, done, rfl⟩, rfl⟩ := answered
  rcases done with ⟨rfl, rfl⟩ | ⟨error, fails, -⟩
  · rfl
  · rw [unfailing] at fails
    cases fails

end Isolated

namespace Dialogue

/-- The main thread is in a pass only between its read and its response, and it drops a server that has nothing left. -/
def Busy (phase : Phase) : Activity ProcessOp ProcessOp.Answer IsolatedTask IsolatedResult → Prop
  | .idle => True
  | .running (.serve _) _ => phase ≠ .outside
  | .running _ p => p = .done .done

structure Agrees (c : DialogueConfig) : Prop where
  accord : ∃ turn, Accord c.state.1.dealings c.state.2 turn
  busy : Busy (c.state.1.conduct none).phase (c.threads none)

theorem possible (d d' : Dialogue) (moved : d.Moves d') :
    Relation.ReflTransGen ((Isolated.system Empty).restrict Fits).env d.1 d'.1 := by
  rcases moved with ⟨command, bytes, -, -, -, -, rfl⟩ | ⟨message, count, -, -, rfl⟩ |
    ⟨message, reply, bytes, -, -, -, -, rfl⟩ | ⟨b, transit, open_, -, rfl⟩ | ⟨stdio, spilled, rfl⟩
  · exact .refl
  · exact .single ⟨_, rfl, .inr (.inr (.inl ⟨count, rfl⟩))⟩
  · exact .refl
  · exact .single ⟨_, rfl, .inl ⟨.byte b, open_, rfl⟩⟩
  · exact .single ⟨_, rfl, .inr (.inr (.inr spilled))⟩

variable {c c' : DialogueConfig}

def Runs (c : DialogueConfig) : Prop :=
  ((Isolated.system Empty).restrict Fits).Reachable Isolated.Fresh ⟨c.state.1, c.threads⟩

theorem Runs.standing (runs : Runs c) :
    Standing typestate IsolatedTask.Ends {} (c.state.1.conduct none) (c.threads none) :=
  Isolated.tracks.restrict.standing (fun _ fresh => fresh.conduct) runs none

theorem Runs.relies (runs : Runs c) {task : IsolatedTask} {p : ProcessProg IsolatedResult}
    (running : c.threads none = .running task p) : Isolated.Relies none task c.state.1 :=
  Isolated.employs.restrict.holds runs running

theorem deals_of_start {t : Option Empty} {task : IsolatedTask} {d : Dialogue} (runs : Runs c) (agrees : Agrees c)
    (idle : c.threads t = .idle) (begun : system.start t task c.state d) : t = none ∧ d.2 = c.state.2 ∧
      c.state.1.dealings.phase = .outside ∧
      ((∃ state, task = .serve state ∧ d.1.dealings = { c.state.1.dealings with phase := .resting }) ∨
        task = .drop .closed ∧ c.state.1.outcome.isSome ∧ c.state.1.dropped = false ∧ d.1.dropped = true ∧
          d.1.dealings = c.state.1.dealings) := by
  obtain ⟨⟨turn, accord⟩, -⟩ := agrees
  obtain ⟨s, parent⟩ := d
  obtain ⟨begun, same⟩ := begun
  cases t with
  | some worker => exact worker.elim
  | none =>
    have rest : c.state.1.conduct none = {} := by
      have standing := runs.standing
      rwa [idle] at standing
    refine ⟨rfl, same, congrArg Conduct.phase rest, ?_⟩
    cases task with
    | serve state =>
      obtain ⟨-, -, rfl⟩ := begun
      refine .inl ⟨state, rfl, ?_⟩
      simp [Isolated.dealings, Isolated.put, Isolated.reads, Isolated.callbacks, Isolated.responses, rest,
        IsolatedTask.stands, free]
    | drop state =>
      obtain ⟨returned, kept, rfl, rfl⟩ := begun
      obtain ⟨outcome, stopped⟩ := Option.isSome_iff_exists.mp returned
      have closed : c.state.1.server = .closed := (accord.stopped outcome stopped).2.1
      refine .inr ⟨by rw [closed], returned, kept, rfl, ?_⟩
      simp [Isolated.dealings, Isolated.put, Isolated.reads, Isolated.callbacks, Isolated.responses, rest,
        IsolatedTask.stands]
    | host table call => exact begun.elim

theorem agrees_start {t : Option Empty} {task : IsolatedTask} {d : Dialogue} (runs : Runs c) (agrees : Agrees c)
    (idle : c.threads t = .idle) (begun : system.start t task c.state d) :
    Agrees ⟨d, update c.threads t (.running task task.code)⟩ := by
  obtain ⟨rfl, same, outside, ⟨state, rfl, dealings⟩ | ⟨rfl, -, -, -, dealings⟩⟩ := deals_of_start runs agrees idle begun
  · obtain ⟨turn, accord⟩ := agrees.accord
    have begins := accord.begins outside
    rw [← dealings, ← same] at begins
    have resting : d.1.dealings.phase = .resting := by rw [dealings]
    refine ⟨⟨turn, begins⟩, ?_⟩
    show Busy _ (update c.threads none _ none)
    rw [update_self, show (d.1.conduct none).phase = .resting from resting]
    exact nofun
  · obtain ⟨turn, accord⟩ := agrees.accord
    rw [← dealings, ← same] at accord
    refine ⟨⟨turn, accord⟩, ?_⟩
    show Busy _ (update c.threads none _ none)
    rw [update_self]
    rfl

theorem deals_of_act {t : Option Empty} {task : IsolatedTask} {op : ProcessOp}
    {next : op.Answer → ProcessProg IsolatedResult} {answer : op.Answer} {d : Dialogue} (runs : Runs c) (agrees : Agrees c)
    (running : c.threads t = .running task (.act op next)) (answered : system.exec t op c.state answer d) :
    t = none ∧ (∃ state, task = .serve state) ∧ (c.state.1.conduct none).phase ≠ .outside ∧
      Deals c.state.1.dealings d.1.dealings ∧ d.2 = c.state.2 := by
  obtain ⟨⟨turn, accord⟩, busy⟩ := agrees
  obtain ⟨⟨fits, answered⟩, same⟩ := answered
  cases t with
  | some worker => exact worker.elim
  | none =>
    have standing := runs.standing
    rw [running] at standing busy
    cases task with
    | host table call => exact (runs.relies running).elim
    | drop state => cases busy
    | serve state =>
      obtain ⟨⟨permits, -⟩, -⟩ := standing
      have inside : (c.state.1.conduct none).phase ≠ .outside := busy
      refine ⟨rfl, ⟨state, rfl⟩, inside, ?_, same⟩
      by_cases quiet : op.Quiet
      · rw [Isolated.dealings_quiet quiet answered]
        exact .quiet
      · cases op with
        | stdio op =>
          cases op with
          | readFrame site =>
            cases site with
            | serve =>
              obtain ⟨-, -, resting⟩ := permits
              obtain ⟨rest, ready⟩ : ∃ rest, readFrame c.state.1.stdio.ended c.state.1.stdio.unread = .ready answer rest := by
                obtain ⟨_, ⟨_, ⟨rest, ready, -⟩, -⟩, -⟩ := answered
                exact ⟨rest, ready⟩
              obtain ⟨command, -, rfl, rfl, -, -⟩ := accord.reads_command resting ready
              obtain ⟨rest', ready', dealings⟩ :=
                Isolated.dealings_serve (odd_of_command (accord.command command rfl)) answered
              rw [dealings]
              exact .serve resting ready'
            | callback =>
              obtain ⟨-, waits, -⟩ := permits
              obtain ⟨rest, ready, dealings⟩ := Isolated.dealings_hear answered
              rw [dealings]
              exact .hear waits ready
          | writeFrame message =>
            obtain ⟨bytes, framed⟩ := fits message rfl
            obtain ⟨-, silent, ⟨even, calls⟩ | ⟨command, handling, -, odd, same, response⟩⟩ := permits
            · obtain ⟨command, handling⟩ : ∃ command, (c.state.1.conduct none).phase = .handling command := by
                cases phase : (c.state.1.conduct none).phase with
                | outside => exact absurd phase inside
                | handling command => exact ⟨command, rfl⟩
                | _ =>
                  rw [phase] at calls
                  exact calls.elim
              rw [Isolated.dealings_call even framed accord.fallible answered]
              exact .call handling silent even framed
            · rw [Isolated.dealings_respond handling odd framed accord.fallible answered]
              exact .respond handling silent same response framed (runs.relies running).1
          | flush =>
            rw [Isolated.dealings_flush accord.fallible answered]
            exact .flush
          | _ => exact absurd trivial quiet
        | _ => exact absurd trivial quiet

theorem agrees_act {t : Option Empty} {task : IsolatedTask} {op : ProcessOp} {next : op.Answer → ProcessProg IsolatedResult}
    {answer : op.Answer} {d : Dialogue} (runs : Runs c) (agrees : Agrees c)
    (running : c.threads t = .running task (.act op next)) (answered : system.exec t op c.state answer d) :
    Agrees ⟨d, update c.threads t (.running task (next answer))⟩ := by
  obtain ⟨rfl, ⟨state, rfl⟩, inside, deals, same⟩ := deals_of_act runs agrees running answered
  obtain ⟨turn, accord⟩ := agrees.accord
  obtain ⟨turn', accord'⟩ := accord.deals deals
  refine ⟨⟨turn', same ▸ accord'⟩, ?_⟩
  show Busy _ (update c.threads none _ none)
  rw [update_self]
  exact deals.inside inside

theorem deals_of_finish {t : Option Empty} {task : IsolatedTask} {result : IsolatedResult} {d : Dialogue} (runs : Runs c)
    (agrees : Agrees c) (running : c.threads t = .running task (.done result))
    (ended : system.finish t task result c.state d) : t = none ∧ d.2 = c.state.2 ∧ d.1.dropped = c.state.1.dropped ∧
      ((∃ state command response goesOn, task = .serve state ∧ c.state.1.dealings.phase = .answered command response ∧
        (goesOn = false ↔ command.body = .shutdown ∧ response.body = .ok) ∧ (goesOn = false → d.1.server = .closed) ∧
        d.1.dealings = { c.state.1.dealings with
          phase := .outside
          outcome := outcomeOf (.ok goesOn)
          server := d.1.server }) ∨
        (∃ state, task = .drop state) ∧ d.1.dealings = c.state.1.dealings) := by
  obtain ⟨⟨turn, accord⟩, busy⟩ := agrees
  obtain ⟨s, parent⟩ := d
  obtain ⟨ended, same⟩ := ended
  cases t with
  | some worker => exact worker.elim
  | none =>
    have ends := runs.standing
    rw [running] at ends busy
    cases task with
    | host table call => exact (runs.relies running).elim
    | drop state =>
      cases result with
      | pass pass => exact ends.elim
      | done =>
        have rest : c.state.1.conduct none = {} := ends
        obtain rfl : s = c.state.1.put none {} := ended
        refine ⟨rfl, same, rfl, .inr ⟨⟨state, rfl⟩, ?_⟩⟩
        simp [Isolated.dealings, Isolated.put, Isolated.reads, Isolated.callbacks, Isolated.responses, rest]
    | serve before =>
      cases result with
      | done => exact ends.elim
      | pass pass =>
        obtain ⟨phase, here, ends⟩ := ends
        have standing : turn.Stands c.state.2.exchanges phase := by
          have stands := accord.stands
          rwa [show c.state.1.dealings.phase = phase from congrArg Conduct.phase here] at stands
        have silent : c.state.1.dealings.calling = none := congrArg Conduct.calling here
        cases phase with
        | outside => exact absurd (congrArg Conduct.phase here) busy
        | resting => exact ends.elim
        | failed =>
          unfold Turn.Stands at standing
          split at standing
          · cases standing
          · rcases standing with outside | resting | ⟨exchange, -, same⟩ <;> contradiction
        | handling command =>
          obtain rfl := accord.turn_child (congrArg Conduct.phase here) silent
          exact absurd (accord.command command rfl) ends.2.1
        | answered command response =>
          obtain ⟨goesOn, outcome, closes, transition⟩ := ends
          obtain rfl : s = _ := ended
          refine ⟨rfl, same, rfl, .inl ⟨before, command, response, goesOn, rfl, congrArg Conduct.phase here, closes, ?_, ?_⟩⟩
          · intro stops
            obtain ⟨shutdown, ok⟩ := closes.mp stops
            rw [shutdown, ok] at transition
            show pass.state = .closed
            generalize pass.state = after at transition ⊢
            cases transition with
            | shutdown => rfl
            | stays quiet => rcases quiet rfl with enable | disable <;> contradiction
          · simp [Isolated.dealings, Isolated.put, Isolated.reads, Isolated.callbacks, Isolated.responses, outcome, here,
              free, Conduct.events, List.filterMap_cons, IsolatedEvent.readBy, IsolatedEvent.callback,
              IsolatedEvent.response]

theorem agrees_finish {t : Option Empty} {task : IsolatedTask} {result : IsolatedResult} {d : Dialogue} (runs : Runs c)
    (agrees : Agrees c) (running : c.threads t = .running task (.done result))
    (ended : system.finish t task result c.state d) : Agrees ⟨d, update c.threads t .idle⟩ := by
  obtain ⟨rfl, same, -, cases⟩ := deals_of_finish runs agrees running ended
  obtain ⟨turn, accord⟩ := agrees.accord
  refine ⟨⟨turn, ?_⟩, ?_⟩
  · rcases cases with ⟨state, command, response, goesOn, rfl, responded, closes, closed, dealings⟩ | ⟨-, dealings⟩
    · have ends := accord.ends responded closes closed
      rwa [← dealings, ← same] at ends
    · rwa [← dealings, ← same] at accord
  · show Busy _ (update c.threads none _ none)
    rw [update_self]
    trivial

theorem agrees_env {d : Dialogue} (agrees : Agrees c) (moved : c.state.Moves d) : Agrees ⟨d, c.threads⟩ := by
  obtain ⟨⟨turn, accord⟩, busy⟩ := agrees
  rcases moved with ⟨command, bytes, free, -, isCommand, framed, rfl⟩ | ⟨message, count, -, ready, rfl⟩ |
    ⟨message, reply, bytes, asked, same, isReply, framed, rfl⟩ | ⟨b, transit, -, shape, rfl⟩ |
    ⟨stdio, ⟨count, -, -, rfl⟩, rfl⟩
  · exact ⟨⟨_, accord.send free isCommand framed⟩, busy⟩
  · obtain ⟨turn', accord'⟩ := accord.receive count ready
    exact ⟨⟨turn', accord'⟩, busy⟩
  · obtain ⟨turn', accord'⟩ := accord.reply asked same isReply framed
    exact ⟨⟨turn', accord'⟩, busy⟩
  · exact ⟨⟨turn, accord.arrive shape⟩, busy⟩
  · exact ⟨⟨turn, accord.spill count⟩, busy⟩

theorem agrees_of_reachable (reached : system.Reachable Fresh c) : Agrees c := by
  obtain ⟨d, rfl, run⟩ := reached
  induction run with
  | refl => exact ⟨⟨.parent, .initial⟩, trivial⟩
  | @tail before after earlier step ih =>
    have runs : Runs before := Reachable.of_beside possible (fun d fresh => by subst fresh; exact ⟨false, rfl⟩)
      ⟨_, rfl, earlier⟩
    cases step with
    | start idle begun => exact agrees_start runs ih idle begun
    | act running answered => exact agrees_act runs ih running answered
    | finish running ended => exact agrees_finish runs ih running ended
    | env moved => exact agrees_env ih moved

theorem run_arrivals {c : DialogueConfig} {transit : List UInt8} (run : system.Run ⟨({}, {}), fun _ => .idle⟩ c)
    (open_ : c.state.1.stdio.ended = false) (shape : c.state.2.transit = transit) :
    system.Run ⟨({}, {}), fun _ => .idle⟩ ⟨({ c.state.1 with stdio := { c.state.1.stdio with
      unread := c.state.1.stdio.unread ++ transit.map .byte } }, { c.state.2 with transit := [] }), c.threads⟩ := by
  induction transit generalizing c with
  | nil =>
    have same : ({ c.state.2 with transit := [] } : Parent) = c.state.2 := by rw [← shape]
    rw [List.map_nil, List.append_nil, same]
    exact run
  | cons b transit ih =>
    have later := ih (run.env (.inr (.inr (.inr (.inl ⟨b, transit, open_, shape, rfl⟩))))) open_ rfl
    rw [List.map_cons, List.append_cons]
    exact later

end Dialogue

end RuntimeHost.Process
