import RuntimeHost.Process.Isolated

namespace RuntimeHost.Process

open Foundation Function Sdk Abi Protocol Native ProcessProg System

theorem events_record {server : State} {op : ProcessOp} {answer : op.Answer} {later before after : List IsolatedEvent}
    (history : after = later.reverse ++ (op.events server answer ++ before)) :
    after = (op.events server answer ++ later).reverse ++ before := by
  have single : (op.events server answer).reverse = op.events server answer := by
    unfold ProcessOp.events
    split <;> rfl
  rw [history, List.reverse_append, single, List.append_assoc]

theorem Stdio.exec_writeFrame {Tid : Type} (t : Tid) (s : Stdio Tid) {message : Message} {bytes : List UInt8}
    (framed : frame message = .ok bytes) :
    s.exec t (.writeFrame message) (.ok ()) { s with buffered := s.buffered ++ bytes } := by
  simp only [Stdio.exec, framed]
  exact .inl ⟨rfl, trivial⟩

theorem Stdio.exec_readFrame {Tid : Type} (t : Tid) (s : Stdio Tid) {site : ReadSite} {message : Message}
    {bytes : List UInt8} {rest : List Input} (framed : frame message = .ok bytes)
    (unread : s.unread = bytes.map .byte ++ rest) :
    s.exec t (.readFrame site) (.ok (some message)) { s with unread := rest } := by
  refine ⟨rest, ?_, rfl⟩
  rw [unread]
  exact readFrame_frame framed

namespace Isolated

variable {Worker : Type} [DecidableEq Worker]

/-- What the main thread does to the streams and the engine when it carries out a program alone, and what that puts on
record, the oldest first. -/
def Does {α : Type} (server : State) (p : ProcessProg α) (stdio : Stdio (Option Worker)) (engines : Engines (Option Worker))
    (a : α) (stdio' : Stdio (Option Worker)) (engines' : Engines (Option Worker)) (new : List IsolatedEvent) : Prop :=
  ∀ s : Isolated Worker, s.stdio = stdio → s.engines = engines → s.server = server →
    ∃ s', (system Worker).Performs none p s a s' ∧ s'.stdio = stdio' ∧ s'.engines = engines' ∧ s'.server = server ∧
      s'.outcome = s.outcome ∧ s'.history = new.reverse ++ s.history

section Rules

variable {α β : Type} {server : State} {stdio stdio' stdio'' : Stdio (Option Worker)}
  {engines engines' engines'' : Engines (Option Worker)} {new later : List IsolatedEvent} {b : β}

theorem Does.done {a : α} : Does server (.done a) stdio engines a stdio engines [] :=
  fun s same same' served => ⟨s, ⟨rfl, rfl⟩, same, same', served, rfl, rfl⟩

theorem Does.of_eq {p : ProcessProg α} {a : α} (does : Does server p stdio engines a stdio' engines' new)
    (same : stdio' = stdio'') (record : new = later) : Does server p stdio engines a stdio'' engines' later :=
  same ▸ record ▸ does

theorem Does.bind {p : ProcessProg α} {f : α → ProcessProg β} {a : α}
    (first : Does server p stdio engines a stdio' engines' new)
    (rest : Does server (f a) stdio' engines' b stdio'' engines'' later) :
    Does server (p >>= f) stdio engines b stdio'' engines'' (new ++ later) := by
  intro s same same' served
  obtain ⟨between, ran, streams, engine, served', outcome, history⟩ := first s same same' served
  obtain ⟨s', ran', streams', engine', served'', outcome', history'⟩ := rest between streams engine served'
  refine ⟨s', ran.bind ran', streams', engine', served'', outcome'.trans outcome, ?_⟩
  rw [history', history, List.reverse_append, List.append_assoc]

theorem Does.streams (op : StdioOp) {next : op.Answer → ProcessProg β} (answer : op.Answer)
    (done : stdio.exec none op answer stdio')
    (rest : Does server (next answer) stdio' engines b stdio'' engines'' later) :
    Does server (.act (.stdio op) next) stdio engines b stdio'' engines''
      (ProcessOp.events server (.stdio op) answer ++ later) := by
  intro s same same' served
  subst same same' served
  obtain ⟨s', ran, streams, engine, served', outcome, history⟩ :=
    rest (({ s with stdio := stdio', history := ProcessOp.events s.server (.stdio op) answer ++ s.history } :
      Isolated Worker).put none ((s.conduct none).next (.stdio op) answer)) rfl rfl rfl
  exact ⟨s', ⟨answer, _, ⟨_, ⟨stdio', done, rfl⟩, rfl⟩, ran⟩, streams, engine, served', outcome,
    events_record history⟩

theorem Does.native (op : EngineOp) {next : op.Answer → ProcessProg β} (answer : op.Answer)
    (done : engines.exec none op answer engines')
    (rest : Does server (next answer) stdio engines' b stdio'' engines'' later) :
    Does server (.act (.engine op) next) stdio engines b stdio'' engines''
      (ProcessOp.events server (.engine op) answer ++ later) := by
  intro s same same' served
  subst same same' served
  obtain ⟨s', ran, streams, engine, served', outcome, history⟩ :=
    rest (({ s with engines := engines', history := ProcessOp.events s.server (.engine op) answer ++ s.history } :
      Isolated Worker).put none ((s.conduct none).next (.engine op) answer)) rfl rfl rfl
  exact ⟨s', ⟨answer, _, ⟨_, ⟨engines', done, rfl⟩, rfl⟩, ran⟩, streams, engine, served', outcome,
    events_record history⟩

theorem Does.newEngine {next : Unit → ProcessProg β}
    (rest : Does server (next ()) { stdio with nextCallbackId := 2 } { engines with engine := {} } b stdio'' engines'' later) :
    Does server (.act .newEngine next) stdio engines b stdio'' engines'' later := by
  intro s same same' served
  subst same same' served
  obtain ⟨s', ran, streams, engine, served', outcome, history⟩ :=
    rest (({ s with
      engines := { s.engines with engine := {} }
      stdio := { s.stdio with nextCallbackId := 2 } } : Isolated Worker).put none
        ((s.conduct none).next .newEngine ())) rfl rfl rfl
  exact ⟨s', ⟨(), _, ⟨_, rfl, rfl⟩, ran⟩, streams, engine, served', outcome, history⟩

theorem Does.behave {payload : Nat} {call : Native.PluginCall} {next : Behaviour → ProcessProg β} (behaviour : Behaviour)
    (rest : Does server (next behaviour) stdio engines b stdio'' engines'' later) :
    Does server (.act (.behave payload call) next) stdio engines b stdio'' engines'' (.began payload call :: later) := by
  intro s same same' served
  subst same same' served
  obtain ⟨s', ran, streams, engine, served', outcome, history⟩ :=
    rest (({ s with history := .began payload call :: s.history } : Isolated Worker).put none
      ((s.conduct none).next (.behave payload call) behaviour)) rfl rfl rfl
  exact ⟨s', ⟨behaviour, _, ⟨s, rfl, rfl⟩, ran⟩, streams, engine, served', outcome,
    by rw [history, List.reverse_cons, List.append_assoc]; rfl⟩

theorem Does.returned {payload : Nat} {call : Native.PluginCall} {result : PluginReturn} {next : Unit → ProcessProg β}
    (rest : Does server (next ()) stdio engines b stdio'' engines'' later) :
    Does server (.act (.returned payload call result) next) stdio engines b stdio'' engines''
      (.returned payload call result :: later) := by
  intro s same same' served
  subst same same' served
  obtain ⟨s', ran, streams, engine, served', outcome, history⟩ :=
    rest (({ s with history := .returned payload call result :: s.history } : Isolated Worker).put none
      ((s.conduct none).next (.returned payload call result) ())) rfl rfl rfl
  exact ⟨s', ⟨(), _, ⟨s, rfl, rfl⟩, ran⟩, streams, engine, served', outcome,
    by rw [history, List.reverse_cons, List.append_assoc]; rfl⟩

end Rules

section Passes

variable {server : State} {stdio stdio' : Stdio (Option Worker)} {engines engines' : Engines (Option Worker)}
  {new : List IsolatedEvent} {s : Isolated Worker} {pass : Server.Pass}

theorem run_pass (reached : (system Worker).Reachable Fresh ⟨s, fun _ => .idle⟩) (serving : s.outcome = none)
    (does : Does s.server (Server.serve s.server) s.stdio s.engines pass stdio' engines' new) :
    ∃ s' answered, (system Worker).Reachable Fresh ⟨s', fun _ => .idle⟩ ∧ s'.stdio = stdio' ∧ s'.engines = engines' ∧
      s'.server = pass.state ∧ s'.outcome = outcomeOf pass.outcome ∧ s'.history = answered ++ (new.reverse ++ s.history) := by
  obtain ⟨s₀, fresh, run⟩ := reached
  obtain ⟨between, ran, streams, engine, -, -, history⟩ :=
    does (s.put none (IsolatedTask.serve s.server).stands) rfl rfl rfl
  have performs : (system Worker).Performs none (IsolatedTask.serve s.server).code
      (s.put none (IsolatedTask.serve s.server).stands) (.pass pass) between := ran.bind ⟨rfl, rfl⟩
  have finished := run.complete none (.serve s.server) rfl ⟨serving, rfl, rfl⟩ performs rfl
  exact ⟨_, _, ⟨s₀, fresh, finished⟩, streams, engine, rfl, rfl, congrArg (_ ++ ·) history⟩

theorem run_input (inputs : List Input) (open_ : s.stdio.ended = false)
    (reached : (system Worker).Reachable Fresh ⟨s, fun _ => .idle⟩) :
    (system Worker).Reachable Fresh
      ⟨{ s with stdio := { s.stdio with unread := s.stdio.unread ++ inputs } }, fun _ => .idle⟩ := by
  induction inputs generalizing s with
  | nil =>
    rw [List.append_nil]
    exact reached
  | cons input inputs ih =>
    obtain ⟨s₀, fresh, run⟩ := reached
    have longer := run.env (s := { s with stdio := { s.stdio with unread := s.stdio.unread ++ [input] } })
      ⟨_, rfl, .inl ⟨input, open_, rfl⟩⟩
    have all := ih (s := { s with stdio := { s.stdio with unread := s.stdio.unread ++ [input] } }) open_ ⟨s₀, fresh, longer⟩
    simp only [List.append_assoc, List.singleton_append] at all
    exact all

variable {command response : Message} {bytes out : List UInt8} {rest : List Input} {handled : Server.Handled}

theorem reply_eq (made : Message.new command.requestId (respond handled.result) = .ok response) :
    Server.reply command.requestId handled = .act (.stdio .lockWriter) fun _ =>
      onStdio (send response) >>= fun sent => .done ⟨handled.state, sent.map fun _ => !handled.close⟩ := by
  unfold Server.reply
  rw [made]
  refine congrArg (Prog.act (ProcessOp.stdio .lockWriter)) (funext fun _ => ?_)
  refine congrArg (onStdio (send response) >>= ·) (funext fun sent => ?_)
  cases sent <;> rfl

theorem does_send (framed : frame response = .ok out) : Does server (onStdio (send response)) stdio engines
    (.ok () : Except ProtocolError Unit)
    { stdio with output := stdio.output ++ (stdio.buffered ++ out), buffered := [], writer := none } engines
    [.wrote response] :=
  .streams (.writeFrame response) (.ok () : Except ProtocolError Unit) (Stdio.exec_writeFrame _ _ framed)
    (.streams .flush (.ok () : Except IoError Unit) (.inl ⟨rfl, rfl⟩) (.streams .unlockWriter () rfl .done))

theorem does_send_error {error : ProtocolError} (framed : frame response = .error error) :
    Does server (onStdio (send response)) stdio engines (.error error : Except ProtocolError Unit)
      { stdio with writer := none } engines [] := by
  have refused : stdio.exec none (.writeFrame response) (.error error : Except ProtocolError Unit) stdio := by
    simp only [Stdio.exec, framed]
    exact ⟨rfl, trivial⟩
  exact .streams (.writeFrame response) (.error error : Except ProtocolError Unit) refused
    (.streams .unlockWriter () rfl .done)

theorem does_serve (free : stdio.reader = none) (unread : stdio.unread = bytes.map .byte ++ rest)
    (framed : frame command = .ok bytes) (odd : ¬command.requestId % 2 = 0)
    (handles : Does server (Server.handle server command.body) { stdio with unread := rest } engines (.ok handled) stdio'
      engines' new)
    (made : Message.new command.requestId (respond handled.result) = .ok response) (framed' : frame response = .ok out)
    (free' : stdio'.writer = none) :
    Does server (Server.serve server) stdio engines ⟨handled.state, .ok !handled.close⟩
      { stdio' with output := stdio'.output ++ (stdio'.buffered ++ out), buffered := [] } engines'
      (.read .serve (.ok (some command)) :: (new ++ [.wrote response])) := by
  have unlocked : { stdio with unread := rest } =
      { ({ stdio with reader := some none, unread := rest } : Stdio (Option Worker)) with reader := none } := by
    rw [← free]
  have unlocked' : { stdio' with output := stdio'.output ++ (stdio'.buffered ++ out), buffered := [] } =
      { ({ stdio' with writer := some none } : Stdio (Option Worker)) with
        output := stdio'.output ++ (stdio'.buffered ++ out)
        buffered := []
        writer := none } := by
    rw [← free']
  have replies : Does server (Server.reply command.requestId handled) stdio' engines' ⟨handled.state, .ok !handled.close⟩
      { stdio' with output := stdio'.output ++ (stdio'.buffered ++ out), buffered := [] } engines' [.wrote response] := by
    rw [reply_eq made, unlocked']
    exact .streams .lockWriter () ⟨free', rfl⟩ (.of_eq (.bind (does_send framed') .done) rfl rfl)
  refine .streams .lockReader () ⟨free, rfl⟩
    (.streams (.readFrame .serve) (.ok (some command) : Except ProtocolError (Option Message))
      (Stdio.exec_readFrame _ _ framed unread) (.streams .unlockReader () unlocked ?_))
  show Does server (if command.requestId % 2 = 0 then _ else _) _ _ _ _ _ _
  rw [if_neg odd]
  exact .bind handles replies

theorem does_call {message : Message} {request : List UInt8} {answer : Except ProtocolError (Option Message)}
    (free : stdio.reader = none) (free' : stdio.writer = none) (counter : stdio.nextCallbackId = message.requestId)
    (framed : frame message = .ok request) (reads : readFrame stdio.ended stdio.unread = .ready answer rest) :
    Does server (onStdio (ProcessBridge.call message.body)) stdio engines (accept message.requestId answer)
      { stdio with
        unread := rest
        buffered := []
        output := stdio.output ++ (stdio.buffered ++ request)
        nextCallbackId := message.requestId + 2 } engines [.wrote message, .read .callback answer] := by
  obtain ⟨unread, ended, buffered, output, fallible, reader, writer, nextCallbackId⟩ := stdio
  obtain rfl : reader = none := free
  obtain rfl : writer = none := free'
  obtain rfl : nextCallbackId = message.requestId := counter
  rw [ProcessBridge.call_eq]
  refine .streams .nextCallbackId message.requestId ⟨rfl, rfl⟩ ?_
  show Does server (onStdio (ProcessBridge.afterId message.body message.requestId)) _ _ _ _ _ _
  rw [ProcessBridge.afterId_legal]
  refine .streams .lockWriter () ⟨rfl, rfl⟩ ?_
  refine .streams (.writeFrame message) (.ok () : Except ProtocolError Unit) (Stdio.exec_writeFrame _ _ framed) ?_
  refine .streams .flush (.ok () : Except IoError Unit) (.inl ⟨rfl, rfl⟩) (.streams .unlockWriter () rfl ?_)
  exact .streams .lockReader () ⟨rfl, rfl⟩ (.streams (.readFrame .callback) answer ⟨rest, reads, rfl⟩
    (.streams .unlockReader () rfl .done))

theorem does_locked {α : Type} {host : HostCallbacks} {method : EmbeddedPayload → NativeProg α} {payload : Nat} {a : α}
    (free : engines.holder payload = none)
    (runs : Does server (host.onEngine (method (engines.payload payload))) stdio
      { engines with holder := update engines.holder payload (some none) } a stdio' engines' new) :
    Does server (host.onEngine (locked payload method)) stdio engines a stdio'
      { engines' with holder := update engines'.holder payload none } new := by
  refine .native (.lockPayload payload) (engines.payload payload) ⟨free, rfl, rfl⟩ ?_
  have unlocks : Does server (host.onEngine (NativeProg.unlockPayload payload >>= fun _ => .done a)) stdio' engines' a stdio'
      { engines' with holder := update engines'.holder payload none } [] :=
    .native (.unlockPayload payload) () rfl .done
  show Does server (host.onEngine (method (engines.payload payload) >>= _)) stdio _ _ _ _ _
  rw [onEngine_bind]
  exact (runs.bind unlocks).of_eq rfl (List.append_nil new)

theorem does_plugin {α : Type} {host : HostCallbacks} {payload : Nat} {call : Native.PluginCall} {behaviour : Behaviour}
    {result : PluginReturn} {next : PluginReturn → NativeProg α} {a : α} {engines'' : Engines (Option Worker)}
    {later : List IsolatedEvent}
    (behaves : Does server (behaviour.handle fun call => onStdio (host.code call)) stdio engines result stdio' engines' new)
    (rest : Does server (host.onEngine (next result)) stdio' engines' a stdio' engines'' later) :
    Does server (host.onEngine (NativeProg.plugin payload call >>= next)) stdio engines a stdio' engines''
      (.began payload call :: (new ++ .returned payload call result :: later)) := by
  rw [onEngine_plugin]
  exact .behave behaviour (behaves.bind (.returned rest))

theorem does_reply (free : stdio.writer = none) (made : Message.new command.requestId (respond handled.result) = .ok response) :
    ∃ pass stdio' new, Does server (Server.reply command.requestId handled) stdio engines pass stdio' engines new := by
  rw [reply_eq made]
  cases framed : frame response with
  | error error => exact ⟨_, _, _, .streams .lockWriter () ⟨free, rfl⟩ (.bind (does_send_error framed) .done)⟩
  | ok bytes => exact ⟨_, _, _, .streams .lockWriter () ⟨free, rfl⟩ (.bind (does_send framed) .done)⟩

end Passes

section Session

/-- The main thread waits for the next command, and everything before it has been answered. -/
structure Waits (s : Isolated Worker) (server : State) (engines : Engines (Option Worker)) (input : List Input) : Prop where
  server : s.server = server
  engines : s.engines = engines
  outcome : s.outcome = none
  unread : s.stdio.unread = input
  ended : s.stdio.ended = false
  reader : s.stdio.reader = none
  writer : s.stdio.writer = none
  fallible : s.stdio.fallible = false
  nextCallbackId : s.stdio.nextCallbackId = 2

variable {server : State} {engines engines' : Engines (Option Worker)} {new : List IsolatedEvent} {s : Isolated Worker}
  {command : Message} {bytes : List UInt8} {rest : List Input} {handled : Server.Handled}

theorem run_command (reached : (system Worker).Reachable Fresh ⟨s, fun _ => .idle⟩)
    (waits : Waits s server engines (bytes.map .byte ++ rest)) (framed : frame command = .ok bytes)
    (odd : ¬command.requestId % 2 = 0)
    (handles : ∀ stdio : Stdio (Option Worker), stdio.nextCallbackId = 2 →
      Does server (Server.handle server command.body) stdio engines (.ok handled) stdio engines' new)
    (ok : handled.result = .ok .ok) (goesOn : handled.close = false) :
    ∃ s', (system Worker).Reachable Fresh ⟨s', fun _ => .idle⟩ ∧ Waits s' handled.state engines' rest := by
  have answerable : Answerable handled.result := ok ▸ trivial
  obtain ⟨response, made⟩ := respond_message answerable command odd
  obtain ⟨out, framed'⟩ := frame_ok_isOk (m := response) ((Message.new_eq_ok_iff.mp made).2.trans (by rw [ok]; rfl))
  obtain ⟨rfl, rfl, serving, unread, ended, reader, writer, fallible, counter⟩ := waits
  have does := does_serve reader unread framed odd (handles { s.stdio with unread := rest } counter) made framed' writer
  obtain ⟨s', answered, reached', streams, engine, served, outcome, -⟩ := run_pass reached serving does
  refine ⟨s', reached', served, engine, ?_, ?_, ?_, ?_, ?_, ?_, ?_⟩
  · rw [outcome, goesOn]
    rfl
  all_goals rw [streams]
  all_goals assumption

def helloCommand : Message := ⟨1, .hello, by decide⟩

def loadCommand : Message := ⟨3, .load "/a" "a.so" 1 1, by decide⟩

def enableCommand : Message := ⟨5, .enable, by decide⟩

theorem frame_helloCommand_isOk : ∃ bytes, frame helloCommand = .ok bytes := by
  have encoded : helloCommand.body.encoded = .ok ("hello", .map []) := rfl
  exact frame_empty_isOk encoded (by decide)

theorem frame_enableCommand_isOk : ∃ bytes, frame enableCommand = .ok bytes := by
  have encoded : enableCommand.body.encoded = .ok ("enable", .map []) := rfl
  exact frame_empty_isOk encoded (by decide)

theorem frame_loadCommand_isOk : ∃ bytes, frame loadCommand = .ok bytes := by
  have encoded : loadCommand.body.encoded = .ok ("load", .map [("packageRoot", .string "/a"), ("entrypoint", .string "a.so"),
      ("pluginId", .integer 1), ("session", .integer 1)]) := by rfl
  rw [frame_isOk_iff encoded]
  constructor
  case fit =>
    simp only [entriesFit, Value.Fits, maxStringBytes, maxDepth, and_true]
    decide
  all_goals decide

def sessionHost : HostCallbacks := ⟨1, 1, ⟨1, 1⟩⟩

def sessionPayload (state : PayloadState) : EmbeddedPayload := ⟨1, 1, ⟨40, 1, true, true, true⟩, state⟩

def sessionEngines (state : PayloadState) : Engines (Option Worker) where
  engine := { nextPayloadId := 2, loadOrder := [1], payloads := update (fun _ => none) 1 (some 0) }
  allocated := 1
  payload := update (fun _ => ⟨0, 0, {}, .shutdown⟩) 0 (sessionPayload state)

theorem does_hello (stdio : Stdio (Option Worker)) : Does .awaitHello (Server.handle .awaitHello .hello) stdio {}
    (.ok ⟨.awaitLoad, .ok .ok, false⟩) stdio {} [] :=
  .done

theorem does_load (stdio : Stdio (Option Worker)) (counter : stdio.nextCallbackId = 2) :
    Does .awaitLoad (Server.handle .awaitLoad loadCommand.body) stdio {}
      (.ok ⟨.loaded sessionHost 1, .ok .ok, false⟩) stdio (sessionEngines .loaded) [.library .awaitLoad] := by
  have counted : { stdio with nextCallbackId := 2 } = stdio := by rw [← counter]
  refine .newEngine ?_
  rw [counted]
  refine .native (.resolveEntrypoint "/a" "a.so") (.ok "/a/a.so" : Except HostError String) ⟨trivial, rfl⟩
    (.native (.register "/a/a.so" 1 1) (.ok 1 : Except HostError UInt64) ?_ .done)
  exact ⟨.queried .ok ⟨40, 1, true, true, true⟩, rfl, rfl⟩

theorem run_loaded (input : List Input) : ∃ s : Isolated Worker, (system Worker).Reachable Fresh ⟨s, fun _ => .idle⟩ ∧
    Waits s (.loaded sessionHost 1) (sessionEngines .loaded) input := by
  obtain ⟨hello, framed⟩ := frame_helloCommand_isOk
  obtain ⟨load, framed'⟩ := frame_loadCommand_isOk
  have fresh : (system Worker).Reachable Fresh ⟨{}, fun _ => .idle⟩ := ⟨{}, ⟨false, rfl⟩, .refl⟩
  have reached := run_input (hello.map .byte ++ (load.map .byte ++ input)) rfl fresh
  have waits : Waits ({ stdio := { unread := [] ++ (hello.map .byte ++ (load.map .byte ++ input)) } } : Isolated Worker)
      .awaitHello {} (hello.map .byte ++ (load.map .byte ++ input)) :=
    ⟨rfl, rfl, rfl, rfl, rfl, rfl, rfl, rfl, rfl⟩
  obtain ⟨s, reached, waits⟩ := run_command reached waits framed (by decide) (fun stdio _ => does_hello stdio) rfl rfl
  exact run_command reached waits framed' (by decide) does_load rfl rfl

theorem does_quiet {host : HostCallbacks} {stdio : Stdio (Option Worker)} (result : PluginReturn) :
    Does server ((.done result : Behaviour).handle fun call => onStdio (host.code call)) stdio engines result stdio engines
      [] :=
  .done

structure Enabled (engines : Engines (Option Worker)) : Prop where
  found : engines.engine.payload 1 = .ok 0
  free : engines.holder 0 = none
  payload : engines.payload 0 = sessionPayload .enabled

theorem does_enable : ∃ (engines : Engines (Option Worker)) (new : List IsolatedEvent), Enabled engines ∧
    ∀ stdio, Does (.loaded sessionHost 1) (Server.handle (.loaded sessionHost 1) enableCommand.body) stdio
      (sessionEngines .loaded) (.ok ⟨.loaded sessionHost 1, .ok .ok, false⟩) stdio engines new := by
  have enables : ∃ (engines : Engines (Option Worker)) (new : List IsolatedEvent), Enabled engines ∧
      ∀ stdio, Does (.loaded sessionHost 1) (sessionHost.onEngine (Engine.enablePayload 1)) stdio (sessionEngines .loaded)
        (.ok () : Except HostError Unit) stdio engines new :=
    ⟨_, _, ⟨rfl, rfl, rfl⟩, fun stdio => .native (.payload 1) (.ok 0 : Except HostError Nat) ⟨rfl, rfl⟩
      (does_locked rfl (does_plugin (does_quiet ⟨.ok, none⟩) (.native (.setState 0 .enabled) () rfl .done)))⟩
  obtain ⟨engines, new, enabled, enables⟩ := enables
  exact ⟨engines, _, enabled, fun stdio => .bind (.bind (enables stdio) .done) .done⟩

theorem run_enabled (input : List Input) : ∃ (s : Isolated Worker) (engines : Engines (Option Worker)),
    (system Worker).Reachable Fresh ⟨s, fun _ => .idle⟩ ∧ Enabled engines ∧
      Waits s (.loaded sessionHost 1) engines input := by
  obtain ⟨enable, framed⟩ := frame_enableCommand_isOk
  obtain ⟨s, reached, waits⟩ := @run_loaded Worker _ (enable.map .byte ++ input)
  obtain ⟨engines, new, enabled, enables⟩ := @does_enable Worker _
  obtain ⟨s', reached', waits'⟩ := run_command reached waits framed (by decide) (fun stdio _ => enables stdio) rfl rfl
  exact ⟨s', engines, reached', enabled, waits'⟩

end Session

end Isolated

end RuntimeHost.Process
