import RuntimeHost.Foundation.Typestate
import RuntimeHost.Native.Methods
import RuntimeHost.Process.Response

namespace RuntimeHost.Process

open Foundation Abi Protocol Native ProcessProg

/-- How far a thread is with a pass of the serve loop; a thread outside of one can only make Bridge calls. -/
inductive Phase where
  | outside
  | resting
  | handling (command : Message)
  | answered (command response : Message)
  | failed

def Phase.Calls : Phase → Prop
  | .outside => True
  | .handling _ => True
  | _ => False

/-- Where a thread stands: the locks it has, the callback frame it has written and waits for, and its phase. -/
structure Conduct where
  reading : Bool := false
  writing : Bool := false
  guard : Option Nat := none
  calling : Option Message := none
  phase : Phase := .outside

namespace Conduct

/-- A callback frame of the running payload, or the response to the command that is handled. -/
def Writes (x : Conduct) (message : Message) : Prop :=
  (message.requestId % 2 = 0 ∧ x.phase.Calls) ∨ ∃ command, x.phase = .handling command ∧ x.guard = none ∧
    ¬message.requestId % 2 = 0 ∧ message.requestId = command.requestId ∧ IsResponse message.body

def Permits (x : Conduct) : ProcessOp → Prop
  | .stdio .lockReader => x.reading = false ∧ x.writing = false
  | .stdio .unlockReader => x.reading = true
  | .stdio (.readFrame .serve) => x.reading = true ∧ x.calling = none ∧ x.phase = .resting
  | .stdio (.readFrame .callback) => x.reading = true ∧ x.calling.isSome ∧ x.phase.Calls
  | .stdio .lockWriter => x.reading = false ∧ x.writing = false ∧ x.calling = none
  | .stdio .unlockWriter => x.writing = true
  | .stdio (.writeFrame message) => x.writing = true ∧ x.calling = none ∧ x.Writes message
  | .stdio .flush => x.writing = true
  | .engine (.lockPayload _) => x.guard = none ∧ x.writing = false
  | .engine (.unlockPayload payload) => x.guard = some payload ∧ x.writing = false
  | .stdio .nextCallbackId => x.writing = false
  | _ => x.writing = false

def Allows (x : Conduct) (op : ProcessOp) : Prop :=
  x.Permits op ∧ (x.phase = .failed → op = .stdio .unlockReader ∨ op = .stdio .unlockWriter)

def next (x : Conduct) : (op : ProcessOp) → op.Answer → Conduct
  | .stdio .lockReader, _ => { x with reading := true }
  | .stdio .unlockReader, _ => { x with reading := false }
  | .stdio (.readFrame .serve), .error _ => { x with phase := .failed }
  | .stdio (.readFrame .serve), .ok none => { x with phase := .outside }
  | .stdio (.readFrame .serve), .ok (some message) =>
    { x with phase := if message.requestId % 2 = 0 then .failed else .handling message }
  | .stdio (.readFrame .callback), _ => { x with calling := none }
  | .stdio .lockWriter, _ => { x with writing := true }
  | .stdio .unlockWriter, _ => { x with writing := false }
  | .stdio (.writeFrame message), .ok () =>
    if message.requestId % 2 = 0 then { x with calling := some message }
    else match x.phase with
      | .handling command => { x with phase := .answered command message }
      | _ => x
  | .stdio (.writeFrame message), .error _ =>
    if message.requestId % 2 = 0 then x else { x with phase := .failed }
  | .stdio .flush, .ok () => x
  | .stdio .flush, .error _ =>
    match x.phase with
    | .answered .. => { x with phase := .failed }
    | _ => { x with calling := none }
  | .engine (.lockPayload payload), _ => { x with guard := some payload }
  | .engine (.unlockPayload _), _ => { x with guard := none }
  | _, _ => x

end Conduct

def typestate : Typestate ProcessOp ProcessOp.Answer Conduct where
  allows := Conduct.Allows
  next := Conduct.next

section Phases

variable {x : Conduct} {op : ProcessOp} {answer : op.Answer}

theorem next_outside (allows : x.Allows op) (outside : x.phase = .outside) : (x.next op answer).phase = .outside := by
  obtain ⟨permits, -⟩ := allows
  cases op with
  | stdio op =>
    cases op with
    | readFrame site =>
      cases site with
      | serve =>
        rw [permits.2.2] at outside
        cases outside
      | callback => exact outside
    | writeFrame message =>
      obtain ⟨-, -, ⟨even, -⟩ | ⟨command, handling, -⟩⟩ := permits
      · rcases (answer : Except ProtocolError Unit) with error | _ <;>
          simp only [Conduct.next, if_pos even, outside]
      · rw [handling] at outside
        cases outside
    | flush =>
      rcases (answer : Except IoError Unit) with error | _ <;> simp only [Conduct.next, outside]
    | _ => exact outside
  | engine op => cases op <;> exact outside
  | _ => exact outside

theorem next_failed (allows : x.Allows op) (failed : x.phase = .failed) : (x.next op answer).phase = .failed := by
  rcases allows.2 failed with rfl | rfl <;> exact failed

end Phases

inductive Transition : State → (command response : MessageBody) → State → Prop
  | hello : Transition .awaitHello .hello .ok .awaitLoad
  | load {packageRoot entrypoint pluginId session host payloadId} :
    Transition .awaitLoad (.load packageRoot entrypoint pluginId session) .ok (.loaded host payloadId)
  | shutdown {host payloadId} : Transition (.loaded host payloadId) .shutdown .ok .closed
  | stays {state command response} (quiet : response = .ok → command = .enable ∨ command = .disable) :
    Transition state command response state

inductive Moves : State → State → Prop
  | greeted : Moves .awaitHello .awaitLoad
  | loaded {host payloadId} : Moves .awaitLoad (.loaded host payloadId)
  | closed {host payloadId} : Moves (.loaded host payloadId) .closed

theorem Transition.moves {before after : State} {command response : MessageBody}
    (transition : Transition before command response after) : after = before ∨ Moves before after := by
  cases transition with
  | hello => exact .inr .greeted
  | load => exact .inr .loaded
  | shutdown => exact .inr .closed
  | stays => exact .inl rfl

def PassEnds (before : State) (pass : Server.Pass) : Phase → Prop
  | .outside => pass.outcome = .ok false ∧ pass.state = before
  | .resting => False
  | .handling command => (∃ error, pass.outcome = .error error) ∧ ¬IsCommand command.body ∧ pass.state = before
  | .answered command response => ∃ goesOn, pass.outcome = .ok goesOn ∧
    (goesOn = false ↔ command.body = .shutdown ∧ response.body = .ok) ∧
    Transition before command.body response.body pass.state
  | .failed => (∃ error, pass.outcome = .error error) ∧ (pass.state = before ∨ Moves before pass.state)

theorem PassEnds.moves {before : State} {pass : Server.Pass} {phase : Phase} (ends : PassEnds before pass phase) :
    pass.state = before ∨ Moves before pass.state := by
  cases phase with
  | outside => exact .inl ends.2
  | resting => exact ends.elim
  | handling command => exact .inl ends.2.2
  | answered command response =>
    obtain ⟨goesOn, -, -, transition⟩ := ends
    exact transition.moves
  | failed => exact ends.2

/-- A thread in a phase that the payload may run in, with no lock and no callback frame in hand. -/
def free (phase : Phase) (guard : Option Nat) : Conduct := { phase, guard }

theorem allows_of_calls {x : Conduct} {op : ProcessOp} (calls : x.phase.Calls) (permits : x.Permits op) :
    x.Allows op := by
  refine ⟨permits, fun failed => ?_⟩
  rw [failed] at calls
  exact calls.elim

theorem onStdio_bind {α β : Type} (p : StdioProg α) (f : α → StdioProg β) :
    onStdio (p >>= f) = onStdio p >>= fun a => onStdio (f a) :=
  Prog.handle_bind ..

theorem onEngine_bind {α β : Type} (host : HostCallbacks) (p : NativeProg α) (f : α → NativeProg β) :
    host.onEngine (p >>= f) = host.onEngine p >>= fun a => host.onEngine (f a) :=
  Prog.handle_bind ..

theorem onEngine_plugin {α : Type} (host : HostCallbacks) (payload : Nat) (call : Native.PluginCall)
    (next : PluginReturn → NativeProg α) : host.onEngine (NativeProg.plugin payload call >>= next) =
      .act (.behave payload call) fun (behaviour : Behaviour) =>
        (behaviour.handle fun call => onStdio (host.code call)) >>= fun result =>
          .act (.returned payload call result) fun _ => host.onEngine (next result) := by
  refine congrArg (Prog.act (ProcessOp.behave payload call)) (funext fun (behaviour : Behaviour) => ?_)
  exact Prog.bind_bind (behaviour.handle fun call => onStdio (host.code call))
    (fun result => .act (.returned payload call result) fun _ => .done result) fun result => host.onEngine (next result)

section Calls

variable {α : Type} {phase : Phase} {guard : Option Nat} {body : MessageBody} {message : Message} {host : HostCallbacks}

theorem follows_send (even : message.requestId % 2 = 0) (calls : phase.Calls) :
    (onStdio (send message)).Follows typestate (fun sent x => match sent with
      | .ok () => x = { free phase guard with calling := some message }
      | .error _ => x = free phase guard) { free phase guard with writing := true } := by
  refine ⟨allows_of_calls calls ⟨rfl, rfl, .inl ⟨even, calls⟩⟩, fun (written : Except ProtocolError Unit) => ?_⟩
  cases written with
  | error error =>
    simp only [typestate, Conduct.next, if_pos even]
    exact ⟨allows_of_calls calls rfl, fun _ => rfl⟩
  | ok =>
    simp only [typestate, Conduct.next, if_pos even]
    refine ⟨allows_of_calls calls rfl, fun (flushed : Except IoError Unit) => ?_⟩
    cases flushed with
    | error error =>
      cases phase <;> first
        | exact ⟨allows_of_calls calls rfl, fun _ => rfl⟩
        | exact calls.elim
    | ok => exact ⟨allows_of_calls calls rfl, fun _ => rfl⟩

theorem follows_call (even : body.usesEvenRequestId = true) (calls : phase.Calls) :
    (onStdio (ProcessBridge.call body)).Follows typestate (fun _ x => x = free phase guard) (free phase guard) := by
  refine ⟨allows_of_calls calls rfl, fun (id : UInt64) => ?_⟩
  show Prog.Follows _ _ (onStdio (if id = 0 ∨ id > Sdk.i64Max then _ else _)) (free phase guard)
  split
  · rfl
  · cases made : Message.new id body with
    | error error => rfl
    | ok message =>
      obtain ⟨rfl, rfl⟩ := Message.new_eq_ok_iff.mp made
      have parity := (checkMessage_eq_ok_iff.mp message.accepted).2.2.1.mpr even
      refine ⟨allows_of_calls calls ⟨rfl, rfl, rfl⟩, fun _ => ?_⟩
      show Prog.Follows _ _ (onStdio (send message >>= _)) { free phase guard with writing := true }
      rw [onStdio_bind]
      refine .bind (Prog.Follows.imp (follows_send parity calls) fun sent x outcome => ?_)
      cases sent with
      | error error => exact outcome
      | ok =>
        subst outcome
        refine ⟨allows_of_calls calls ⟨rfl, rfl⟩, fun _ => ⟨allows_of_calls calls ⟨rfl, rfl, calls⟩, fun _ => ?_⟩⟩
        exact ⟨allows_of_calls calls rfl, fun _ => rfl⟩

theorem follows_host (call : HostCall) (calls : phase.Calls) :
    (onStdio (host.code call)).Follows typestate (fun _ x => x = free phase guard) (free phase guard) := by
  have handle : ∀ session body, body.usesEvenRequestId = true →
      (onStdio (host.bridge.handleCall session body)).Follows typestate (fun _ x => x = free phase guard)
        (free phase guard) := by
    intro session body even
    unfold ProcessBridge.handleCall
    split
    · rfl
    · rw [onStdio_bind]
      exact .bind (Prog.Follows.imp (follows_call even calls) fun _ _ same => same)
  have bridge : ∀ plugin session operation input, (onStdio (host.bridge.invoke plugin session operation input)).Follows
      typestate (fun _ x => x = free phase guard) (free phase guard) := by
    intro plugin session operation input
    unfold ProcessBridge.invoke
    split
    · rfl
    · rw [onStdio_bind]
      exact .bind (Prog.Follows.imp (follows_call rfl calls) fun _ _ same => same)
  have invoke : ∀ plugin token operation input, (onStdio (host.hostInvoke plugin token operation input)).Follows
      typestate (fun _ x => x = free phase guard) (free phase guard) := by
    intro plugin token operation input
    unfold HostCallbacks.hostInvoke
    split
    · rfl
    · split
      · rfl
      · rw [onStdio_bind]
        exact .bind (Prog.Follows.imp (bridge _ _ _ _) fun _ _ same => same)
  have retain : ∀ objectId generation, (onStdio (host.hostRetainHandle objectId generation)).Follows typestate
      (fun _ x => x = free phase guard) (free phase guard) := by
    intro objectId generation
    unfold HostCallbacks.hostRetainHandle
    rw [onStdio_bind]
    exact .bind (Prog.Follows.imp (handle _ _ rfl) fun _ _ same => same)
  have release : ∀ objectId generation, (onStdio (host.hostReleaseHandle objectId generation)).Follows typestate
      (fun _ x => x = free phase guard) (free phase guard) := by
    intro objectId generation
    unfold HostCallbacks.hostReleaseHandle
    rw [onStdio_bind]
    exact .bind (Prog.Follows.imp (handle _ _ rfl) fun _ _ same => same)
  cases call with
  | invoke plugin token operation input => exact invoke plugin token operation input
  | retainHandle objectId generation => exact retain objectId generation
  | releaseHandle objectId generation => exact release objectId generation

theorem follows_inner {p : NativeProg α} (calls : phase.Calls) (only : p.Only Inner) :
    (host.onEngine p).Follows typestate (fun _ x => x = free phase guard) (free phase guard) := by
  refine Prog.Follows.handle only fun op inner => ?_
  cases op with
  | engine op =>
    cases op <;> first
      | exact inner.elim
      | exact ⟨allows_of_calls calls rfl, fun _ => rfl⟩
  | plugin payload call =>
    refine ⟨allows_of_calls calls rfl, fun (behaviour : Behaviour) => ?_⟩
    have anything : behaviour.Only fun _ => True := by
      induction behaviour with
      | done a => trivial
      | act op next ih => exact ⟨trivial, ih⟩
    show Prog.Follows _ _ (behaviour.handle (fun call => onStdio (host.code call)) >>= _) (free phase guard)
    refine .bind (Prog.Follows.imp (Prog.Follows.handle anything fun call _ => follows_host call calls)
      fun result x same => ?_)
    subst same
    exact ⟨allows_of_calls calls rfl, fun _ => rfl⟩

theorem follows_locked {p : Nat} {method : EmbeddedPayload → NativeProg α} (calls : phase.Calls)
    (only : ∀ self, (method self).Only Inner) :
    (host.onEngine (locked p method)).Follows typestate (fun _ x => x = free phase none) (free phase none) := by
  refine ⟨allows_of_calls calls ⟨rfl, rfl⟩, fun (self : EmbeddedPayload) => ?_⟩
  show Prog.Follows _ _ (host.onEngine (method self >>= _)) (free phase (some p))
  rw [onEngine_bind]
  refine .bind (Prog.Follows.imp (follows_inner calls (only self)) fun _ x same => ?_)
  subst same
  exact ⟨allows_of_calls calls ⟨rfl, rfl⟩, fun _ => rfl⟩

end Calls

section Operations

variable {phase : Phase} {host : HostCallbacks} {payloadId : UInt64} (calls : phase.Calls)

include calls

theorem follows_method {β : Type} {method : Nat → EmbeddedPayload → NativeProg (Except HostError β)}
    (only : ∀ payload self, (method payload self).Only Inner) :
    (host.onEngine (NativeProg.payload payloadId >>= fun found => match found with
      | .error error => return .error error
      | .ok payload => locked payload (method payload))).Follows typestate (fun _ x => x = free phase none)
        (free phase none) := by
  refine ⟨allows_of_calls calls rfl, fun (found : Except HostError Nat) => ?_⟩
  cases found with
  | error error => rfl
  | ok payload => exact follows_locked calls (only payload)

theorem follows_unloadPayload : (host.onEngine (Engine.unloadPayload payloadId)).Follows typestate
    (fun _ x => x = free phase none) (free phase none) := by
  refine ⟨allows_of_calls calls rfl, fun (found : Except HostError Nat) => ?_⟩
  cases found with
  | error error => rfl
  | ok payload =>
    show Prog.Follows _ _ (host.onEngine (locked payload (·.shutdownForUnload payload) >>= _)) (free phase none)
    rw [onEngine_bind]
    refine .bind (Prog.Follows.imp (follows_locked calls (EmbeddedPayload.shutdownForUnload_inner payload))
      fun shutdown x same => ?_)
    subst same
    cases shutdown with
    | error error => rfl
    | ok => exact ⟨allows_of_calls calls rfl, fun _ => rfl⟩

theorem follows_forceShutdowns (payloads : List Nat) (firstFailure : Option HostError) :
    (host.onEngine (Engine.forceShutdowns payloads firstFailure)).Follows typestate (fun _ x => x = free phase none)
      (free phase none) := by
  induction payloads generalizing firstFailure with
  | nil => rfl
  | cons payload payloads ih =>
    show Prog.Follows _ _ (host.onEngine (locked payload (·.forceShutdown payload) >>= _)) (free phase none)
    rw [onEngine_bind]
    refine .bind (Prog.Follows.imp (follows_locked calls (EmbeddedPayload.forceShutdown_inner payload))
      fun shutdown x same => ?_)
    subst same
    cases shutdown with
    | error error => exact ih _
    | ok => exact ih _

theorem follows_close : (host.onEngine Engine.close).Follows typestate (fun _ x => x = free phase none)
    (free phase none) := by
  refine ⟨allows_of_calls calls rfl, fun (drained : Option (List Nat)) => ?_⟩
  cases drained with
  | none => rfl
  | some payloads =>
    show Prog.Follows _ _ (host.onEngine (Engine.forceShutdowns payloads none >>= _)) (free phase none)
    rw [onEngine_bind]
    refine .bind (Prog.Follows.imp (follows_forceShutdowns calls payloads none) fun failure x same => ?_)
    subst same
    cases failure <;> rfl

theorem follows_loadPayload {packageRoot entrypoint : String} {pluginId session : UInt64} :
    (host.onEngine (Engine.loadPayload packageRoot entrypoint pluginId session)).Follows typestate
      (fun _ x => x = free phase none) (free phase none) := by
  unfold Engine.loadPayload
  split
  · rfl
  · refine ⟨allows_of_calls calls rfl, fun (resolved : Except HostError String) => ?_⟩
    cases resolved with
    | error error => rfl
    | ok libraryPath => exact ⟨allows_of_calls calls rfl, fun _ => rfl⟩

end Operations

section Commands

variable {phase : Phase} {state : State} {body : MessageBody}

/-- What a command comes to; only a shutdown that succeeds closes the server. -/
def HandledEnds (before : State) (body : MessageBody) : Except ProtocolError Server.Handled → Prop
  | .error _ => ¬IsCommand body
  | .ok handled => Answerable handled.result ∧ (handled.close = true ↔ body = .shutdown ∧ handled.result = .ok .ok) ∧
    Transition before body (respond handled.result) handled.state

theorem respond_eq_ok_iff {result : Except HostError MessageBody} : respond result = .ok ↔ result = .ok .ok := by
  cases result with
  | error error => simp [respond, errorBody]
  | ok body => simp [respond]

theorem transition_error (error : HostError) : Transition state body (respond (.error error)) state :=
  .stays fun ok => by simp [respond, errorBody] at ok

theorem follows_load (calls : phase.Calls) (packageRoot entrypoint : String) (pluginId session : UInt64) :
    (Server.load state packageRoot entrypoint pluginId session).Follows typestate
      (fun loaded x => x = free phase none ∧ Answerable loaded.2 ∧
        Transition state (.load packageRoot entrypoint pluginId session) (respond loaded.2) loaded.1)
      (free phase none) := by
  unfold Server.load
  split
  · refine ⟨allows_of_calls calls rfl, fun _ => ?_⟩
    show Prog.Follows _ _ (HostCallbacks.onEngine _ _ >>= _) (free phase none)
    refine .bind (Prog.Follows.imp (follows_loadPayload calls) fun loaded x same => ?_)
    subst same
    cases loaded with
    | error error =>
      exact .bind (Prog.Follows.imp (follows_close calls) fun _ x same => ⟨same, trivial, transition_error error⟩)
    | ok payloadId => exact ⟨rfl, trivial, .load⟩
  · exact ⟨rfl, trivial, transition_error _⟩

theorem follows_enable (calls : phase.Calls) : (Server.enable state).Follows typestate
    (fun result x => x = free phase none ∧ Answerable result) (free phase none) := by
  unfold Server.enable
  split
  · exact ⟨rfl, trivial⟩
  · refine .bind (Prog.Follows.imp (follows_method calls EmbeddedPayload.enable_inner) fun enabled x same => ?_)
    cases enabled with
    | error error => exact ⟨same, trivial⟩
    | ok => exact ⟨same, trivial⟩

theorem follows_disable (calls : phase.Calls) : (Server.disable state).Follows typestate
    (fun result x => x = free phase none ∧ Answerable result) (free phase none) := by
  unfold Server.disable
  split
  · exact ⟨rfl, trivial⟩
  · refine .bind (Prog.Follows.imp (follows_method calls EmbeddedPayload.disable_inner) fun disabled x same => ?_)
    cases disabled with
    | error error => exact ⟨same, trivial⟩
    | ok => exact ⟨same, trivial⟩

theorem follows_invoke (calls : phase.Calls) (operation : String) (input : List UInt8) (callbackId : UInt64) :
    (Server.invoke state operation input callbackId).Follows typestate
      (fun result x => x = free phase none ∧ Answerable result ∧ result ≠ .ok .ok) (free phase none) := by
  unfold Server.invoke
  split
  · exact ⟨rfl, trivial, by simp⟩
  · refine .bind (Prog.Follows.imp (follows_method calls fun payload self => self.invoke_inner payload ..)
      fun output x same => ?_)
    cases output with
    | error error => exact ⟨same, trivial, by simp [Except.map]⟩
    | ok => exact ⟨same, trivial, by simp [Except.map]⟩

theorem follows_shutdown (calls : phase.Calls) : (Server.shutdown state).Follows typestate
    (fun outcome x => x = free phase none ∧
      Transition state .shutdown (respond (outcome.2.map fun _ => .ok)) outcome.1) (free phase none) := by
  unfold Server.shutdown
  cases state with
  | loaded host payloadId =>
    refine .bind (Prog.Follows.imp (follows_unloadPayload calls) fun unloaded x same => ?_)
    subst same
    cases unloaded with
    | error error => exact ⟨rfl, transition_error error⟩
    | ok => exact .bind (Prog.Follows.imp (follows_close calls) fun _ x same => ⟨same, .shutdown⟩)
  | awaitHello => exact ⟨rfl, transition_error _⟩
  | awaitLoad => exact ⟨rfl, transition_error _⟩
  | closed => exact ⟨rfl, transition_error _⟩

theorem follows_handle (calls : phase.Calls) : (Server.handle state body).Follows typestate
    (fun handled x => x = free phase none ∧ HandledEnds state body handled) (free phase none) := by
  cases body with
  | hello =>
    refine ⟨rfl, ?_⟩
    cases state with
    | awaitHello => exact ⟨trivial, by simp, .hello⟩
    | awaitLoad => exact ⟨trivial, by simp, transition_error _⟩
    | loaded host payloadId => exact ⟨trivial, by simp, transition_error _⟩
    | closed => exact ⟨trivial, by simp, transition_error _⟩
  | load packageRoot entrypoint pluginId session =>
    refine .bind (Prog.Follows.imp (follows_load calls ..) fun loaded x outcome => ?_)
    obtain ⟨same, answerable, transition⟩ := outcome
    exact ⟨same, answerable, by simp, transition⟩
  | enable =>
    refine .bind (Prog.Follows.imp (follows_enable calls) fun result x outcome => ?_)
    exact ⟨outcome.1, outcome.2, by simp, .stays fun _ => .inl rfl⟩
  | invoke operation input callbackId =>
    refine .bind (Prog.Follows.imp (follows_invoke calls ..) fun result x outcome => ?_)
    obtain ⟨same, answerable, other⟩ := outcome
    exact ⟨same, answerable, by simp, .stays fun ok => absurd (respond_eq_ok_iff.mp ok) other⟩
  | disable =>
    refine .bind (Prog.Follows.imp (follows_disable calls) fun result x outcome => ?_)
    exact ⟨outcome.1, outcome.2, by simp, .stays fun _ => .inr rfl⟩
  | shutdown =>
    refine .bind (Prog.Follows.imp (follows_shutdown calls) fun outcome x reached => ?_)
    obtain ⟨same, transition⟩ := reached
    obtain ⟨state', result⟩ := outcome
    cases result with
    | error error => exact ⟨same, trivial, by simp [Except.map, Except.isOk, Except.toBool], transition⟩
    | ok => exact ⟨same, trivial, by simp [Except.map, Except.isOk, Except.toBool], transition⟩
  | ok => exact ⟨rfl, id⟩
  | result output => exact ⟨rfl, id⟩
  | error code message => exact ⟨rfl, id⟩
  | bridgeInvoke operation input => exact ⟨rfl, id⟩
  | retainHandle objectId generation => exact ⟨rfl, id⟩
  | releaseHandle objectId generation => exact ⟨rfl, id⟩
  | callbackResult output => exact ⟨rfl, id⟩
  | callbackError message => exact ⟨rfl, id⟩

theorem follows_reply {command : Message} {handled : Server.Handled} (odd : ¬command.requestId % 2 = 0)
    (ends : HandledEnds state command.body (.ok handled)) :
    (Server.reply command.requestId handled).Follows typestate
      (fun pass x => ∃ phase, x = free phase none ∧ PassEnds state pass phase) (free (.handling command) none) := by
  obtain ⟨answerable, closes, transition⟩ := ends
  obtain ⟨response, made⟩ := respond_message answerable command odd
  have shape := Message.new_eq_ok_iff.mp made
  have response_odd : ¬response.requestId % 2 = 0 := by rw [shape.1]; exact odd
  have response_body : IsResponse response.body := by rw [shape.2]; exact (respond_valid answerable).1
  refine ⟨allows_of_calls trivial ⟨rfl, rfl, rfl⟩, fun _ => ?_⟩
  rw [made]
  refine ⟨allows_of_calls trivial ⟨rfl, rfl, .inr ⟨command, rfl, rfl, response_odd, shape.1, response_body⟩⟩,
    fun (written : Except ProtocolError Unit) => ?_⟩
  cases written with
  | error error =>
    simp only [typestate, Conduct.next, if_neg response_odd]
    exact ⟨⟨rfl, fun _ => .inr rfl⟩, fun _ => ⟨.failed, rfl, ⟨error, rfl⟩, transition.moves⟩⟩
  | ok =>
    simp only [typestate, Conduct.next, if_neg response_odd]
    refine ⟨⟨rfl, fun failed => by cases failed⟩, fun (flushed : Except IoError Unit) => ?_⟩
    cases flushed with
    | error error => exact ⟨⟨rfl, fun _ => .inr rfl⟩, fun _ => ⟨.failed, rfl, ⟨_, rfl⟩, transition.moves⟩⟩
    | ok =>
      refine ⟨⟨rfl, fun failed => by cases failed⟩, fun _ => ⟨.answered command response, rfl, !handled.close, rfl, ?_, ?_⟩⟩
      · rw [Bool.not_eq_false', closes, shape.2, respond_eq_ok_iff]
      · rw [shape.2]
        exact transition

theorem follows_dropEngine (calls : phase.Calls) : (Server.dropEngine state).Follows typestate
    (fun _ x => x = free phase none) (free phase none) := by
  unfold Server.dropEngine
  split
  · exact .bind (Prog.Follows.imp (follows_close calls) fun _ _ same => same)
  · rfl

theorem follows_serve : (Server.serve state).Follows typestate
    (fun pass x => ∃ phase, x = free phase none ∧ PassEnds state pass phase) (free .resting none) := by
  have awake : ∀ {op : ProcessOp}, (free Phase.resting none).phase = .failed →
      op = .stdio .unlockReader ∨ op = .stdio .unlockWriter := fun failed => by cases failed
  refine ⟨⟨⟨rfl, rfl⟩, awake⟩, fun _ => ⟨⟨⟨rfl, rfl, rfl⟩, awake⟩,
    fun (message : Except ProtocolError (Option Message)) => ?_⟩⟩
  rcases message with error | _ | command
  · exact ⟨⟨rfl, fun _ => .inl rfl⟩, fun _ => ⟨.failed, rfl, ⟨error, rfl⟩, .inl rfl⟩⟩
  · refine ⟨⟨rfl, fun _ => .inl rfl⟩, fun _ => ?_⟩
    show Prog.Follows _ _ (Server.dropEngine state >>= _) (free .outside none)
    refine .bind (Prog.Follows.imp (follows_dropEngine trivial) fun _ x same => ?_)
    exact ⟨.outside, same, rfl, rfl⟩
  · refine ⟨⟨rfl, fun _ => .inl rfl⟩, fun _ => ?_⟩
    show Prog.Follows _ _ (if command.requestId % 2 = 0 then _ else _)
      (free (if command.requestId % 2 = 0 then .failed else .handling command) none)
    by_cases even : command.requestId % 2 = 0
    · rw [if_pos even, if_pos even]
      exact ⟨.failed, rfl, ⟨_, rfl⟩, .inl rfl⟩
    · rw [if_neg even, if_neg even]
      refine .bind (Prog.Follows.imp (follows_handle trivial) fun handled x outcome => ?_)
      obtain ⟨rfl, ends⟩ := outcome
      cases handled with
      | error error => exact ⟨.handling command, rfl, ⟨error, rfl⟩, ends, rfl⟩
      | ok handled => exact follows_reply even ends

end Commands

end RuntimeHost.Process
