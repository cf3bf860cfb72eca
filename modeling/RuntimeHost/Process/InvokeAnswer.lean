import RuntimeHost.Process.Passes

namespace RuntimeHost.Process

open Foundation Function System Sdk Abi Protocol Native ProcessProg

abbrev ProcessStep := (op : ProcessOp) × op.Answer

def ProcessStep.response : ProcessStep → Option Message
  | ⟨.stdio (.writeFrame message), .ok ()⟩ => if message.requestId % 2 = 0 then none else some message
  | _ => none

def ProcessStep.Unfailing : ProcessStep → Prop
  | ⟨.stdio (.writeFrame message), answer⟩ => answer = (frame message).map fun _ => ()
  | ⟨.stdio .flush, answer⟩ => answer = .ok ()
  | _ => True

def Server.afterRead (state : State) : Except ProtocolError (Option Message) → ProcessProg Server.Pass
  | .error error => return ⟨state, .error error⟩
  | .ok none => do
    dropEngine state
    return ⟨state, .ok false⟩
  | .ok (some message) => do
    if message.requestId % 2 = 0 then
      return ⟨state, .error (invalid "callback response arrived outside a callback")⟩
    else
      match ← handle state message.body with
      | .error error => return ⟨state, .error error⟩
      | .ok handled => reply message.requestId handled

theorem Server.serve_eq (state : State) : Server.serve state =
    .act (.stdio .lockReader) fun _ => .act (.stdio (.readFrame .serve)) fun message =>
      .act (.stdio .unlockReader) fun _ => Server.afterRead state message := rfl

theorem odd_of_invoke {command : Message} {operation : String} {input : List UInt8} {callbackId : UInt64}
    (invoked : command.body = .invoke operation input callbackId) : ¬command.requestId % 2 = 0 := by
  obtain ⟨-, -, parity, -⟩ := checkMessage_eq_ok_iff.mp command.accepted
  rw [parity, invoked]
  exact Bool.false_ne_true

theorem Server.afterRead_invoke {host : HostCallbacks} {payloadId : UInt64} {command : Message} {operation : String}
    {input : List UInt8} {callbackId : UInt64} (invoked : command.body = .invoke operation input callbackId) :
    Server.afterRead (.loaded host payloadId) (.ok (some command)) =
      host.onEngine (Engine.invokePayload payloadId operation input callbackId) >>= fun result =>
        Server.reply command.requestId ⟨.loaded host payloadId, result.map .result, false⟩ := by
  have odd := odd_of_invoke invoked
  show (if command.requestId % 2 = 0 then _ else _) = _
  rw [if_neg odd, invoked]
  show ((_ >>= fun output => _) >>= _) >>= _ = _
  simp only [Prog.bind_bind]
  rfl

section Steps

variable {α : Type} {x : Conduct} {post : α → Conduct → Prop} {p : ProcessProg α} {a : α} {steps : List ProcessStep}

theorem response_of_follows (follows : p.Follows typestate post x) (outside : x.phase = .outside) (ran : p.Yields steps a) :
    steps.filterMap ProcessStep.response = [] := by
  induction p generalizing x steps with
  | done =>
    obtain ⟨rfl, -⟩ := ran
    rfl
  | act op next ih =>
    obtain ⟨allows, rest⟩ := follows
    obtain ⟨answer, later, rfl, ran⟩ := ran
    have silent : ProcessStep.response ⟨op, answer⟩ = none := by
      unfold ProcessStep.response
      split
      · rename_i message same
        cases same
        obtain ⟨-, -, ⟨even, -⟩ | ⟨command, handling, -⟩⟩ := allows.1
        · exact if_pos even
        · rw [handling] at outside
          cases outside
      · rfl
    rw [List.filterMap_cons_none silent]
    exact ih answer (rest answer) (next_outside allows outside) ran

end Steps

section Streams

variable {Tid : Type} {s s' : Stdio Tid}

theorem Stdio.exec_fallible {t : Tid} {op : StdioOp} {answer : op.Answer} (done : s.exec t op answer s') :
    s'.fallible = s.fallible := by
  cases op with
  | writeFrame message =>
    cases framed : frame message <;> simp only [Stdio.exec, framed] at done
    · rw [done.2]
    · rcases done with ⟨-, rfl⟩ | ⟨error, written, -, -, -, rfl⟩ <;> rfl
  | flush =>
    rcases done with ⟨-, rfl⟩ | ⟨error, -, -, rfl⟩ <;> rfl
  | readFrame site =>
    obtain ⟨rest, -, rfl⟩ := done
    rfl
  | lockReader => rw [done.2]
  | lockWriter => rw [done.2]
  | nextCallbackId => rw [done.2]
  | unlockReader =>
    obtain rfl : s' = _ := done
    rfl
  | unlockWriter =>
    obtain rfl : s' = _ := done
    rfl

theorem Stdio.exec_unfailing {t : Tid} {op : StdioOp} {answer : op.Answer} (unfailing : s.fallible = false)
    (done : s.exec t op answer s') : ProcessStep.Unfailing ⟨.stdio op, answer⟩ := by
  cases op with
  | writeFrame message =>
    show answer = (frame message).map fun _ => ()
    cases framed : frame message <;> simp only [Stdio.exec, framed] at done
    · exact done.1
    · rcases done with ⟨rfl, -⟩ | ⟨error, written, fails, -⟩
      · rfl
      · rw [unfailing] at fails
        cases fails
  | flush =>
    rcases done with ⟨rfl, -⟩ | ⟨error, fails, -⟩
    · rfl
    · rw [unfailing] at fails
      cases fails
  | _ => trivial

end Streams

namespace Isolated

variable {Worker : Type} [DecidableEq Worker]

/-- A pass over an invoke command of a loaded payload, in which the engine has come to `result`. -/
structure Invocation (c : IsolatedConfig Worker) (host : HostCallbacks) (payloadId : UInt64) (command : Message)
    (result : Except HostError (List UInt8)) (steps : List ProcessStep) (c' : IsolatedConfig Worker)
    (pass : Server.Pass) : Prop where
  started : c.threads none = .running (.serve (.loaded host payloadId)) (IsolatedTask.serve (.loaded host payloadId)).code
  took : (system Worker).Takes none c steps c'
  ended : ∃ task, c'.threads none = .running task (.done (.pass pass))
  invoked : ∃ operation input callbackId inner later, command.body = .invoke operation input callbackId ∧
    steps = ⟨.stdio .lockReader, ()⟩ :: ⟨.stdio (.readFrame .serve), (.ok (some command) : Except ProtocolError (Option Message))⟩ ::
      ⟨.stdio .unlockReader, ()⟩ :: (inner ++ later) ∧
    (host.onEngine (Engine.invokePayload payloadId operation input callbackId)).Yields inner result

/-- The command has been answered by one response, and the serve loop goes on. -/
structure Answered (server : State) (command : Message) (result : Except HostError (List UInt8)) (steps : List ProcessStep)
    (pass : Server.Pass) : Prop where
  response : ∃ response : Message, steps.filterMap ProcessStep.response = [response] ∧
    response.requestId = command.requestId ∧ response.body = respond (result.map .result)
  goesOn : pass = ⟨server, .ok true⟩

section Takes

variable {t : Option Worker} {op : ProcessOp} {s s' : Isolated Worker} {c c' : IsolatedConfig Worker} {steps : List ProcessStep}

omit [DecidableEq Worker] in
theorem step_fallible {answer : op.Answer} (done : s.step t op answer s') : s'.stdio.fallible = s.stdio.fallible := by
  cases op with
  | stdio op =>
    obtain ⟨stdio, done, rfl⟩ := done
    exact Stdio.exec_fallible done
  | engine op =>
    obtain ⟨engines, -, rfl⟩ := done
    rfl
  | newEngine =>
    obtain rfl : s' = _ := done
    rfl
  | behave payload call =>
    obtain rfl : s' = s := done
    rfl
  | returned payload call result =>
    obtain rfl : s' = s := done
    rfl

theorem exec_unfailing {answer : op.Answer} (unfailing : s.stdio.fallible = false) (answered : exec t op s answer s') :
    ProcessStep.Unfailing ⟨op, answer⟩ := by
  obtain ⟨next, done, -⟩ := answered
  cases op with
  | stdio op =>
    obtain ⟨stdio, done, -⟩ := done
    exact Stdio.exec_unfailing unfailing done
  | _ => trivial

theorem start_stdio {task : IsolatedTask} (begun : Isolated.start t task s s') : s'.stdio = s.stdio := by
  cases t with
  | none =>
    cases task with
    | serve state =>
      obtain ⟨-, -, rfl⟩ := begun
      rfl
    | drop state =>
      obtain ⟨-, -, -, rfl⟩ := begun
      rfl
    | host table call => exact begun.elim
  | some worker =>
    cases task with
    | serve state => exact begun.elim
    | drop state => exact begun.elim
    | host table call =>
      obtain rfl : s' = _ := begun
      rfl

theorem finish_stdio {task : IsolatedTask} {result : IsolatedResult} (ended : Isolated.finish t task result s s') :
    s'.stdio = s.stdio := by
  cases task <;> cases result <;> obtain rfl : s' = _ := ended <;> rfl

theorem fallible_of_step (step : (system Worker).Step c c') : c'.state.stdio.fallible = c.state.stdio.fallible := by
  cases step with
  | start idle begun => exact congrArg Stdio.fallible (start_stdio begun)
  | act running answered =>
    obtain ⟨next, done, rfl⟩ := answered
    have same := step_fallible done
    exact same
  | finish running ended => exact congrArg Stdio.fallible (finish_stdio ended)
  | env moved =>
    obtain ⟨stdio, rfl, ⟨input, -, rfl⟩ | rfl | ⟨count, rfl⟩ | ⟨count, -, -, rfl⟩⟩ := moved <;> rfl

theorem unfailing_of_takes (unfailing : c.state.stdio.fallible = false) (took : (system Worker).Takes t c steps c') :
    c'.state.stdio.fallible = false ∧ ∀ step ∈ steps, step.Unfailing := by
  induction took with
  | refl => exact ⟨unfailing, fun step listed => absurd listed List.not_mem_nil⟩
  | act earlier running answered ih =>
    obtain ⟨still, each⟩ := ih
    refine ⟨(fallible_of_step (.act running answered)).trans still, fun step listed => ?_⟩
    rcases List.mem_append.mp listed with old | new
    · exact each step old
    · obtain rfl := List.mem_singleton.mp new
      exact exec_unfailing still answered
  | other earlier step still ih => exact ⟨(fallible_of_step step).trans ih.1, ih.2⟩

end Takes

section Reply

variable {host : HostCallbacks} {payloadId : UInt64} {command : Message} {result : Except HostError (List UInt8)}
  {steps : List ProcessStep} {c c' : IsolatedConfig Worker} {pass : Server.Pass}

theorem follows_invokePayload {operation : String} {input : List UInt8} {callbackId : UInt64} :
    (host.onEngine (Engine.invokePayload payloadId operation input callbackId)).Follows typestate
      (fun _ x => x = free .outside none) (free .outside none) :=
  follows_method (show Phase.Calls .outside from trivial) fun payload self => self.invoke_inner payload ..

theorem Invocation.split (invocation : Invocation c host payloadId command result steps c' pass) :
    ∃ inner later, steps = ⟨.stdio .lockReader, ()⟩ ::
        ⟨.stdio (.readFrame .serve), (.ok (some command) : Except ProtocolError (Option Message))⟩ ::
          ⟨.stdio .unlockReader, ()⟩ :: (inner ++ later) ∧ inner.filterMap ProcessStep.response = [] ∧
      (Server.reply command.requestId ⟨.loaded host payloadId, result.map .result, false⟩).Yields later pass := by
  obtain ⟨started, took, ⟨task, ended⟩, operation, input, callbackId, inner, later, invoked, rfl, ran⟩ := invocation
  obtain ⟨-, whole⟩ := took.yields started ended ⟨rfl, rfl⟩
  refine ⟨inner, later, rfl, response_of_follows follows_invokePayload rfl ran, ?_⟩
  obtain ⟨first, second, pass', shape, served, rfl, same⟩ := Prog.yields_bind.mp whole
  cases same
  rw [Server.serve_eq] at served
  obtain ⟨_, _, rfl, _, _, rfl, _, _, rfl, after⟩ := served
  simp only [List.append_nil, List.cons.injEq] at shape
  obtain ⟨-, here, -, rfl⟩ := shape
  cases here
  rw [Server.afterRead_invoke invoked] at after
  obtain ⟨inner', later', result', split, ran', reply⟩ := Prog.yields_bind.mp after
  obtain ⟨rfl, rfl⟩ := ran.unique ran' split
  exact reply

theorem answered_iff_framed (invocation : Invocation c host payloadId command result steps c' pass)
    (unfailing : c.state.stdio.fallible = false) : ∃ response : Message, response.requestId = command.requestId ∧
      response.body = respond (result.map .result) ∧
      (Answered (.loaded host payloadId) command result steps pass ↔ ∃ bytes, frame response = .ok bytes) := by
  have answerable : Answerable (result.map .result) := by cases result <;> trivial
  have odd : ¬command.requestId % 2 = 0 := by
    obtain ⟨operation, input, callbackId, -, -, invoked, -⟩ := invocation.invoked
    exact odd_of_invoke invoked
  obtain ⟨response, made⟩ := respond_message answerable command odd
  obtain ⟨numbered, bodied⟩ := Message.new_eq_ok_iff.mp made
  refine ⟨response, numbered, bodied, ?_⟩
  obtain ⟨inner, later, rfl, silent, replies⟩ := invocation.split
  obtain ⟨-, each⟩ := unfailing_of_takes unfailing invocation.took
  obtain ⟨_, _, rfl, rest⟩ := replies
  rw [made] at rest
  obtain ⟨written, _, rfl, rest⟩ := rest
  have took : written = (frame response).map fun _ => () := each ⟨.stdio (.writeFrame response), written⟩ (by simp)
  have odd' : ¬response.requestId % 2 = 0 := numbered ▸ odd
  cases framed : frame response with
  | error error =>
    rw [framed] at took
    obtain rfl : written = .error error := took
    obtain ⟨_, _, rfl, rfl, rfl⟩ := rest
    refine iff_of_false (fun answered => ?_) fun sendable => by simp at sendable
    cases answered.goesOn
  | ok bytes =>
    rw [framed] at took
    obtain rfl : written = .ok () := took
    obtain ⟨flushed, _, rfl, rest⟩ := rest
    have out : flushed = .ok () := each ⟨.stdio .flush, flushed⟩ (by simp)
    subst out
    obtain ⟨_, _, rfl, rfl, rfl⟩ := rest
    refine iff_of_true ⟨⟨response, ?_, numbered, bodied⟩, rfl⟩ ⟨bytes, rfl⟩
    have last : ProcessStep.response ⟨.stdio (.writeFrame response), (.ok () : Except ProtocolError Unit)⟩ = some response :=
      if_neg odd'
    show List.filterMap ProcessStep.response (inner ++ [_, _, _, _]) = [response]
    rw [List.filterMap_append, silent, List.nil_append]
    show List.filterMap ProcessStep.response [⟨.stdio (.writeFrame response), (.ok () : Except ProtocolError Unit)⟩, _, _] = _
    rw [List.filterMap_cons_some last]
    rfl

theorem frame_invokeResponse_iff {response : Message} (bodied : response.body = respond (result.map .result)) :
    (∃ bytes, frame response = .ok bytes) ↔ ∀ output, result = .ok output → output.length ≤ 16777089 := by
  cases result with
  | error error =>
    have sendable := frame_error_isOk (m := response) bodied
    simp [sendable]
  | ok output =>
    rw [frame_result_isOk_iff (m := response) bodied]
    simp

/-- An invocation is answered exactly when its output has at most 16777089 bytes, whatever else the engine comes to. -/
theorem invoke_answered_iff (invocation : Invocation c host payloadId command result steps c' pass)
    (unfailing : c.state.stdio.fallible = false) : Answered (.loaded host payloadId) command result steps pass ↔
      ∀ output, result = .ok output → output.length ≤ 16777089 := by
  obtain ⟨response, -, bodied, answered⟩ := answered_iff_framed invocation unfailing
  exact answered.trans (frame_invokeResponse_iff bodied)

end Reply

section Runs

variable {Worker : Type} [DecidableEq Worker] {stdio : Stdio (Option Worker)} {engines : Engines (Option Worker)}

def invokeCommand : Message := ⟨7, .invoke "run" [] 1, by decide⟩

theorem frame_invokeCommand_isOk : ∃ bytes, frame invokeCommand = .ok bytes := by
  have encoded : invokeCommand.body.encoded = .ok ("invoke", .map [("operation", .string "run"), ("input", .bytes []),
      ("callbackId", .integer 1)]) := by rfl
  rw [frame_isOk_iff encoded]
  constructor
  case fit =>
    simp only [entriesFit, Value.Fits, maxStringBytes, maxDepth, and_true]
    decide
  all_goals decide

theorem does_invokePayload {server : State} (enabled : Enabled engines) (output : List UInt8) :
    ∃ engines' new, Does server (sessionHost.onEngine (Engine.invokePayload 1 "run" [] 1)) stdio engines
      (.ok output : Except HostError (List UInt8)) stdio engines' new := by
  obtain ⟨found, free, payload⟩ := enabled
  have invokes : ∀ engines : Engines (Option Worker), Does server
      (sessionHost.onEngine ((sessionPayload .enabled).invoke 0 "run" [] 1)) stdio engines
      (.ok output : Except HostError (List UInt8)) stdio engines
      [.began 0 (.invoke "run" [] 1), .returned 0 (.invoke "run" [] 1) ⟨.ok, some output⟩] :=
    fun engines => does_plugin (does_quiet ⟨.ok, some output⟩) .done
  rw [← payload] at invokes
  exact ⟨_, _, .native (.payload 1) (.ok 0 : Except HostError Nat) ⟨found.symm, rfl⟩ (does_locked free (invokes _))⟩

theorem takes_read {c : IsolatedConfig Worker} {state : State} {command : Message} {bytes : List UInt8} {rest : List Input}
    (started : c.threads none = .running (.serve state) (IsolatedTask.serve state).code)
    (free : c.state.stdio.reader = none) (framed : frame command = .ok bytes)
    (unread : c.state.stdio.unread = bytes.map .byte ++ rest) : ∃ c' : IsolatedConfig Worker,
      (system Worker).Takes none c [⟨.stdio .lockReader, ()⟩,
        ⟨.stdio (.readFrame .serve), (.ok (some command) : Except ProtocolError (Option Message))⟩,
        ⟨.stdio .unlockReader, ()⟩] c' ∧
      c'.threads none = .running (.serve state) (Server.afterRead state (.ok (some command)) >>= fun pass =>
        .done (.pass pass)) ∧
      c'.state.server = c.state.server ∧ c'.state.engines = c.state.engines ∧
      c'.state.stdio = { c.state.stdio with reader := none, unread := rest } := by
  have locked : (system Worker).Takes none c [⟨.stdio .lockReader, ()⟩] _ :=
    Takes.act .refl started ⟨_, ⟨_, ⟨free, rfl⟩, rfl⟩, rfl⟩
  have read : (system Worker).Takes none c [⟨.stdio .lockReader, ()⟩,
      ⟨.stdio (.readFrame .serve), (.ok (some command) : Except ProtocolError (Option Message))⟩] _ :=
    locked.act rfl ⟨_, ⟨_, Stdio.exec_readFrame _ _ framed unread, rfl⟩, rfl⟩
  exact ⟨_, read.act rfl ⟨_, ⟨_, rfl, rfl⟩, rfl⟩, rfl, rfl, rfl, rfl⟩

theorem run_invocation (output : List UInt8) : ∃ (c : IsolatedConfig Worker) (steps : List ProcessStep)
    (c' : IsolatedConfig Worker) (pass : Server.Pass), (system Worker).Reachable Fresh c ∧
      c.state.stdio.fallible = false ∧ Invocation c sessionHost 1 invokeCommand (.ok output) steps c' pass := by
  obtain ⟨invoke, framed⟩ := frame_invokeCommand_isOk
  obtain ⟨s, engines, ⟨s₀, fresh, run⟩, enabled, waits⟩ := @run_enabled Worker _ (invoke.map .byte ++ [])
  obtain ⟨server, rfl, serving, unread, ended, reader, writer, fallible, counter⟩ := waits
  let c : IsolatedConfig Worker := ⟨s.put none (IsolatedTask.serve (.loaded sessionHost 1)).stands, update (fun _ => .idle)
    none (.running (.serve (.loaded sessionHost 1)) (IsolatedTask.serve (.loaded sessionHost 1)).code)⟩
  have begun : (system Worker).Run ⟨s₀, fun _ => .idle⟩ c :=
    run.start none (.serve (.loaded sessionHost 1)) rfl ⟨serving, server.symm, rfl⟩
  have started : c.threads none = .running (.serve (.loaded sessionHost 1)) (IsolatedTask.serve (.loaded sessionHost 1)).code :=
    rfl
  obtain ⟨c₁, took, running, served, engine, streams⟩ := takes_read started reader framed unread
  rw [Server.afterRead_invoke rfl, Prog.bind_bind] at running
  obtain ⟨engines', new, does⟩ := does_invokePayload (engine ▸ enabled) output
  obtain ⟨s₂, performs, streams', -⟩ := does c₁.state rfl rfl rfl
  obtain ⟨inner, ran, took'⟩ := took.perform running performs
  let handled : Server.Handled := ⟨.loaded sessionHost 1, .ok (.result output), false⟩
  obtain ⟨response, made⟩ := respond_message (show Answerable handled.result from trivial) invokeCommand (by decide)
  have free : s₂.stdio.writer = none := by rw [streams', streams]; exact writer
  obtain ⟨pass, stdio', new', replies⟩ := does_reply free made
  obtain ⟨s₃, performs', -⟩ := replies s₂ rfl rfl rfl
  obtain ⟨later, ran', took''⟩ := took'.perform rfl performs'
  exact ⟨c, _, _, pass, ⟨s₀, fresh, begun⟩, fallible, started, took'', ⟨_, rfl⟩, "run", [], 1, inner, later, rfl,
    rfl, ran⟩

/-- One byte more than fits into a frame: no response is written, and the serve loop fails. -/
theorem large_output_unanswered : ∃ (c : IsolatedConfig Empty) (steps : List ProcessStep) (c' : IsolatedConfig Empty)
    (pass : Server.Pass), (system Empty).Reachable Fresh c ∧ c.state.stdio.fallible = false ∧
      Invocation c sessionHost 1 invokeCommand (.ok (List.replicate 16777090 0)) steps c' pass ∧
      ¬Answered (.loaded sessionHost 1) invokeCommand (.ok (List.replicate 16777090 0)) steps pass := by
  obtain ⟨c, steps, c', pass, reached, unfailing, invocation⟩ := @run_invocation Empty _ (List.replicate 16777090 0)
  obtain ⟨response, -, bodied, answered⟩ := answered_iff_framed invocation unfailing
  refine ⟨c, steps, c', pass, reached, unfailing, invocation, fun done => ?_⟩
  have short := (frame_invokeResponse_iff bodied).mp (answered.mp done) _ rfl
  rw [List.length_replicate] at short
  exact absurd short (by decide)

theorem small_output_answered : ∃ (c : IsolatedConfig Empty) (steps : List ProcessStep) (pass : Server.Pass),
    (system Empty).Reachable Fresh c ∧ Answered (.loaded sessionHost 1) invokeCommand (.ok [1]) steps pass := by
  obtain ⟨c, steps, c', pass, reached, unfailing, invocation⟩ := @run_invocation Empty _ [1]
  refine ⟨c, steps, pass, reached, (invoke_answered_iff invocation unfailing).mpr fun output same => ?_⟩
  cases same
  decide

end Runs

end Isolated

end RuntimeHost.Process
