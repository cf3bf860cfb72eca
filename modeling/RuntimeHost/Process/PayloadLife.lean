import RuntimeHost.Foundation.History
import RuntimeHost.Foundation.Ownership
import RuntimeHost.Native.RegistrySafety
import RuntimeHost.Process.Isolated

namespace RuntimeHost.Process

open Foundation Function Protocol Native ProcessProg

namespace IsolatedEvent

def own : IsolatedEvent → Bool
  | .read .. => false
  | .wrote _ => false
  | _ => true

def initialized : IsolatedEvent → Bool
  | .returned _ (.initializePlugin ..) result => result.status.isOk
  | _ => false

def shutsDown : IsolatedEvent → Bool
  | .began _ (.shutdown _) => true
  | _ => false

def Greets : IsolatedEvent → Prop
  | .answered command response _ _ => command.body = .hello ∧ response.body = .ok
  | _ => False

end IsolatedEvent

def initializations (record : List IsolatedEvent) : Nat := record.countP (·.initialized)

def shutdowns (record : List IsolatedEvent) : Nat := record.countP (·.shutsDown)

def Greeted (record : List IsolatedEvent) : Prop := ∃ event ∈ record, event.Greets

def AfterHello (earlier : List IsolatedEvent) : IsolatedEvent → Prop
  | .library _ => Greeted earlier
  | _ => True

section Record

variable {record : List IsolatedEvent} {event : IsolatedEvent}

theorem initializations_cons : initializations (event :: record) = initializations record +
    if event.initialized then 1 else 0 :=
  List.countP_cons

theorem shutdowns_cons : shutdowns (event :: record) = shutdowns record + if event.shutsDown then 1 else 0 :=
  List.countP_cons

theorem initializations_own : initializations (record.filter (·.own)) = initializations record := by
  unfold initializations
  rw [List.countP_filter]
  refine List.countP_congr fun event _ => ?_
  cases event <;> simp [IsolatedEvent.initialized, IsolatedEvent.own]

theorem shutdowns_own : shutdowns (record.filter (·.own)) = shutdowns record := by
  unfold shutdowns
  rw [List.countP_filter]
  refine List.countP_congr fun event _ => ?_
  cases event <;> simp [IsolatedEvent.shutsDown, IsolatedEvent.own]

theorem Greeted.of_suffix {record' : List IsolatedEvent} (greeted : Greeted record) (later : record <:+ record') :
    Greeted record' := by
  obtain ⟨event, listed, greets⟩ := greeted
  exact ⟨event, later.subset listed, greets⟩

theorem afterHello_of_own (legal : Legal AfterHello (record.filter (·.own))) : Legal AfterHello record := by
  intro later event earlier shape
  cases event with
  | library server =>
    rw [shape, List.filter_append, List.filter_cons_of_pos rfl] at legal
    obtain ⟨event, listed, greets⟩ := legal _ _ _ rfl
    exact ⟨event, List.mem_of_mem_filter listed, greets⟩
  | _ => trivial

end Record

/-- What belongs to the main thread: the engine and its payloads, the state of the server and of the loop, and what the
main thread alone puts on record. -/
structure Estate where
  engine : EngineState
  payload : Nat → EmbeddedPayload
  server : State
  outcome : Option (Except ProtocolError Unit)
  dropped : Bool
  record : List IsolatedEvent

def Isolated.estate {Worker : Type} (s : Isolated Worker) : Estate where
  engine := s.engines.engine
  payload := s.engines.payload
  server := s.server
  outcome := s.outcome
  dropped := s.dropped
  record := s.history.filter (·.own)

namespace Estate

variable {x x' : Estate}

def log (x : Estate) (event : IsolatedEvent) : Estate := { x with record := event :: x.record }

/-- A load fails, or the engine takes a payload that is not initialized and can be shut down. -/
def Registers (x : Estate) (answer : Except HostError UInt64) (x' : Estate) : Prop :=
  ((∃ error, answer = .error error) ∧ x' = x) ∨ ∃ payload self next,
    x.engine.closed = false ∧ self.state = .loaded ∧ self.pluginTable.hasShutdown = true ∧
      answer = .ok x.engine.nextPayloadId ∧ x' = { x with
        engine := { x.engine with
          nextPayloadId := next
          payloads := update x.engine.payloads x.engine.nextPayloadId (some payload)
          loadOrder := x.engine.loadOrder ++ [x.engine.nextPayloadId] }
        payload := update x.payload payload self }

def step (x : Estate) : (op : ProcessOp) → op.Answer → Estate → Prop
  | .engine (.register ..), answer, x' => ∃ next, x.Registers answer next ∧ x' = next.log (.library x.server)
  | .engine (.payload payloadId), answer, x' => answer = x.engine.payload payloadId ∧ x' = x
  | .engine (.remove payloadId), _, x' => x' = { x with engine := x.engine.remove payloadId }
  | .engine .drain, answer, x' =>
    if x.engine.closed then answer = none ∧ x' = x
    else answer = some x.engine.drained ∧
      x' = { x with engine := { x.engine with closed := true, loadOrder := [], payloads := fun _ => none } }
  | .engine (.lockPayload payload), answer, x' => answer = x.payload payload ∧ x' = x
  | .engine (.setState payload state), _, x' =>
    x' = { x with payload := update x.payload payload { x.payload payload with state } }
  | .newEngine, _, x' => x' = { x with engine := {} }
  | .behave payload call, _, x' => x' = x.log (.began payload call)
  | .returned payload call result, _, x' => x' = x.log (.returned payload call result)
  | _, _, x' => x' = x

def Lived (record : List IsolatedEvent) : PayloadState → Prop
  | .loaded => initializations record = 0 ∧ shutdowns record = 0
  | .enabled | .disabled => initializations record = 1 ∧ shutdowns record = 0
  | .shutdownFailed => initializations record = 1 ∧ shutdowns record = 1
  | .shutdown => initializations record ≤ 1 ∧ shutdowns record = initializations record

theorem lived_initialized {record : List IsolatedEvent} {result : PluginReturn} (payload : Nat) (pluginId session : UInt64)
    (ok : result.status.isOk = true) (inits : initializations record = 0) (shuts : shutdowns record = 0) :
    Lived (.returned payload (.initializePlugin pluginId session) result ::
      .began payload (.initializePlugin pluginId session) :: record) .enabled := by
  simp [Lived, initializations_cons, shutdowns_cons, IsolatedEvent.initialized, IsolatedEvent.shutsDown, ok, inits, shuts]

def Settled (x : Estate) : Prop := shutdowns x.record = initializations x.record

/-- The initialize callback has succeeded at most once, and no shutdown callback was called without. -/
structure Orderly (x : Estate) : Prop where
  legal : Legal AfterHello x.record
  once : initializations x.record ≤ 1
  paired : shutdowns x.record ≤ initializations x.record

structure Has (x : Estate) (payload : Nat) : Prop where
  legal : Legal AfterHello x.record
  complete : (x.payload payload).pluginTable.hasShutdown = true
  lived : Lived x.record (x.payload payload).state

structure Lists (x : Estate) (payloadId : UInt64) (payload : Nat) : Prop where
  unclosed : x.engine.closed = false
  listed : x.engine.payloads payloadId = some payload
  order : x.engine.loadOrder = [payloadId]
  has : x.Has payload

/-- The engine and its payloads may have changed, and there may be more on record. -/
structure Around (x x' : Estate) : Prop where
  server : x'.server = x.server
  outcome : x'.outcome = x.outcome
  dropped : x'.dropped = x.dropped
  record : x.record <:+ x'.record

def Owes (x : Estate) : State → Prop
  | .awaitHello | .awaitLoad => initializations x.record = 0
  | .loaded _ payloadId => ∃ payload, x.Lists payloadId payload
  | .closed => x.Settled

structure AtRest (x : Estate) : Prop where
  orderly : x.Orderly
  greeted : x.outcome = none → x.server ≠ .awaitHello → Greeted x.record
  stopped : x.dropped = true → x.outcome.isSome
  owes : x.Owes x.server ∨ x.outcome.isSome ∧ x.engine.closed = true ∧ x.Settled
  settled : x.dropped = true → x.Settled

section Facts

variable {payload : Nat} {payloadId : UInt64} {event : IsolatedEvent}

theorem Around.refl (x : Estate) : x.Around x := ⟨rfl, rfl, rfl, List.suffix_refl _⟩

theorem Around.trans {x'' : Estate} (first : x.Around x') (second : x'.Around x'') : x.Around x'' :=
  ⟨second.server.trans first.server, second.outcome.trans first.outcome, second.dropped.trans first.dropped,
    first.record.trans second.record⟩

theorem Around.log (around : x.Around x') (event : IsolatedEvent) : x.Around (x'.log event) :=
  ⟨around.server, around.outcome, around.dropped, around.record.trans (List.suffix_cons event x'.record)⟩

theorem Has.orderly (has : x.Has payload) : x.Orderly := by
  obtain ⟨legal, -, lived⟩ := has
  cases state : (x.payload payload).state <;> rw [state] at lived <;> obtain ⟨inits, shuts⟩ := lived <;>
    exact ⟨legal, by omega, by omega⟩

theorem Has.log (has : x.Has payload) (plain : AfterHello x.record event) (same : event.initialized = false)
    (same' : event.shutsDown = false) : (x.log event).Has payload := by
  refine ⟨legal_cons has.legal plain, has.complete, ?_⟩
  have lived := has.lived
  show Lived (event :: x.record) (x.payload payload).state
  cases state : (x.payload payload).state <;> rw [state] at lived <;>
    simpa [Lived, initializations_cons, shutdowns_cons, same, same'] using lived

theorem Orderly.log (orderly : x.Orderly) (plain : AfterHello x.record event) (same : event.initialized = false)
    (same' : event.shutsDown = false) : (x.log event).Orderly := by
  refine ⟨legal_cons orderly.legal plain, ?_, ?_⟩
  · simpa [Estate.log, initializations_cons, same] using orderly.once
  · simpa [Estate.log, initializations_cons, shutdowns_cons, same, same'] using orderly.paired

theorem Lists.found (lists : x.Lists payloadId payload) : x.engine.payload payloadId = .ok payload := by
  unfold EngineState.payload
  rw [lists.unclosed, lists.listed]
  rfl

theorem Lists.drained (lists : x.Lists payloadId payload) : x.engine.drained = [payload] := by
  unfold EngineState.drained
  rw [lists.order]
  simp [lists.listed]

theorem Lists.of_same (lists : x.Lists payloadId payload) (engine : x'.engine = x.engine) (has : x'.Has payload) :
    x'.Lists payloadId payload := by
  refine ⟨?_, ?_, ?_, has⟩
  · rw [engine]
    exact lists.unclosed
  · rw [engine]
    exact lists.listed
  · rw [engine]
    exact lists.order

theorem Orderly.settled (orderly : x.Orderly) (never : initializations x.record = 0) : x.Settled := by
  have paired := orderly.paired
  show shutdowns x.record = initializations x.record
  omega

end Facts

section Quiet

variable {state : State}

/-- Nothing has happened to the engine, its payloads and the plugin. -/
structure Quiet (x x' : Estate) : Prop where
  engine : x'.engine = x.engine
  payload : x'.payload = x.payload
  initializations : initializations x'.record = initializations x.record
  shutdowns : shutdowns x'.record = shutdowns x.record
  legal : Legal AfterHello x'.record

theorem Quiet.orderly (quiet : x.Quiet x') (orderly : x.Orderly) : x'.Orderly := by
  refine ⟨quiet.legal, ?_, ?_⟩
  · rw [quiet.initializations]
    exact orderly.once
  · rw [quiet.initializations, quiet.shutdowns]
    exact orderly.paired

theorem Quiet.settled (quiet : x.Quiet x') (settled : x.Settled) : x'.Settled :=
  quiet.shutdowns.trans (settled.trans quiet.initializations.symm)

theorem Quiet.lived (quiet : x.Quiet x') {state : PayloadState} (lived : Lived x.record state) : Lived x'.record state := by
  cases state <;> simpa only [Lived, quiet.initializations, quiet.shutdowns] using lived

theorem Quiet.owes (quiet : x.Quiet x') (owes : x.Owes state) : x'.Owes state := by
  cases state with
  | awaitHello => exact quiet.initializations.trans owes
  | awaitLoad => exact quiet.initializations.trans owes
  | closed => exact quiet.settled owes
  | loaded host payloadId =>
    obtain ⟨payload, lists⟩ := owes
    refine ⟨payload, lists.of_same quiet.engine ⟨quiet.legal, ?_, ?_⟩⟩
    · rw [quiet.payload]
      exact lists.has.complete
    · rw [quiet.payload]
      exact quiet.lived lists.has.lived

end Quiet

section Methods

variable {α β : Type} {host : HostCallbacks} {payload : Nat} {post : α → Estate → Prop}

theorem ensures_stdio {p : StdioProg β} {f : β → ProcessProg α} (here : x.Orderly)
    (rest : ∀ a, (f a).Ensures step Orderly post x) : (onStdio p >>= f).Ensures step Orderly post x := by
  have each : ∀ op : StdioOp, (ProcessProg.stdio op).Only fun op => ∃ op', op = .stdio op' :=
    fun op => ⟨⟨op, rfl⟩, fun _ => trivial⟩
  have only := Prog.Only.handle each p
  refine .bind (Prog.Ensures.imp (.still only here ?_) fun a x' _ same => ?_)
  · rintro _ answer x' ⟨op, rfl⟩ moved
    exact moved
  · subst same
    exact rest a

theorem ensures_plugin {call : Native.PluginCall} {f : PluginReturn → NativeProg α} (here : x.Orderly)
    (begun : (x.log (.began payload call)).Orderly)
    (rest : ∀ result, (host.onEngine (f result)).Ensures step Orderly post
      ((x.log (.began payload call)).log (.returned payload call result))) :
    (host.onEngine (NativeProg.plugin payload call >>= f)).Ensures step Orderly post x := by
  rw [onEngine_plugin]
  refine ⟨here, fun (behaviour : Behaviour) x' moved => ?_⟩
  obtain rfl : x' = _ := moved
  have calls : ∀ b : Behaviour, (b.handle fun call => onStdio (host.code call)).Ensures step Orderly
      (fun _ x' => x' = x.log (.began payload call)) (x.log (.began payload call)) := by
    intro b
    induction b with
    | done result => exact ⟨begun, rfl⟩
    | act op next ih => exact ensures_stdio begun ih
  refine .bind ((calls behaviour).imp fun result x' _ same => ?_)
  subst same
  refine ⟨begun, fun _ x' moved => ?_⟩
  obtain rfl : x' = _ := moved
  exact rest result

theorem ensures_setState {state : PayloadState} {f : Unit → NativeProg α}
    (rest : (host.onEngine (f ())).Ensures step Orderly post
      { x with payload := update x.payload payload { x.payload payload with state } }) :
    (host.onEngine (NativeProg.setState payload state >>= f)).Ensures step Orderly post x := by
  refine ⟨⟨rest.within.legal, rest.within.once, rest.within.paired⟩, fun _ x' moved => ?_⟩
  obtain rfl : x' = _ := moved
  exact rest

theorem ensures_locked {method : EmbeddedPayload → NativeProg α}
    (rest : (host.onEngine (method (x.payload payload))).Ensures step Orderly post x) :
    (host.onEngine (locked payload method)).Ensures step Orderly post x := by
  refine ⟨rest.within, fun (self : EmbeddedPayload) x' moved => ?_⟩
  obtain ⟨rfl, rfl⟩ : self = _ ∧ x' = x := moved
  show Prog.Ensures _ _ _ (host.onEngine (method (x'.payload payload) >>= _)) x'
  rw [onEngine_bind]
  refine .bind (rest.imp fun result x'' here ends => ⟨here, fun _ x''' moved => ?_⟩)
  obtain rfl : x''' = x'' := moved
  exact ⟨here, ends⟩

def Stays (x : Estate) (payload : Nat) (x' : Estate) : Prop :=
  x'.engine = x.engine ∧ x.Around x' ∧ x'.Has payload

theorem Stays.self (has : x.Has payload) : x.Stays payload x := ⟨rfl, .refl x, has⟩

theorem Has.called (has : x.Has payload) (state : PayloadState) {call : Native.PluginCall} {result : PluginReturn}
    (lived : Lived (.returned payload call result :: .began payload call :: x.record) state) :
    x.Stays payload { (x.log (.began payload call)).log (.returned payload call result) with
      payload := update x.payload payload { x.payload payload with state } } := by
  have around : x.Around ((x.log (.began payload call)).log (.returned payload call result)) :=
    ((Around.refl x).log _).log _
  refine ⟨rfl, ⟨rfl, rfl, rfl, around.record⟩, legal_cons (legal_cons has.legal trivial) trivial, ?_, ?_⟩
  · simpa using has.complete
  · simpa [Estate.log] using lived

theorem Has.logged (has : x.Has payload) {call : Native.PluginCall} {result : PluginReturn}
    (failed : (IsolatedEvent.returned payload call result).initialized = false)
    (other : (IsolatedEvent.began payload call).shutsDown = false) :
    x.Stays payload ((x.log (.began payload call)).log (.returned payload call result)) := by
  have begun : (x.log (.began payload call)).Has payload := has.log trivial rfl other
  exact ⟨rfl, ((Around.refl x).log _).log _, begun.log trivial failed rfl⟩

theorem Has.setState (has : x.Has payload) (state : PayloadState) (lived : Lived x.record state) :
    x.Stays payload { x with payload := update x.payload payload { x.payload payload with state } } := by
  refine ⟨rfl, ⟨rfl, rfl, rfl, List.suffix_refl _⟩, has.legal, ?_, ?_⟩
  · simpa using has.complete
  · simpa using lived

theorem ensures_enable (has : x.Has payload) : (host.onEngine ((x.payload payload).enable payload)).Ensures step Orderly
    (fun _ x' => x.Stays payload x') x := by
  have here := has.orderly
  have lived := has.lived
  unfold EmbeddedPayload.enable
  split
  · rename_i state
    rw [state] at lived
    obtain ⟨inits, shuts⟩ := lived
    split
    · exact ⟨here, .self has⟩
    · refine ensures_plugin here (here.log trivial rfl rfl) fun result => ?_
      unfold requirePluginStatus
      cases ok : result.status.isOk with
      | false =>
        have after : x.Stays payload ((x.log (.began payload (.initializePlugin (x.payload payload).pluginId
            (x.payload payload).session))).log (.returned payload (.initializePlugin (x.payload payload).pluginId
              (x.payload payload).session) result)) := has.logged ok rfl
        exact ⟨after.2.2.orderly, after⟩
      | true =>
        have lived := lived_initialized payload (x.payload payload).pluginId (x.payload payload).session ok inits shuts
        have after := has.called .enabled lived
        exact ensures_setState ⟨after.2.2.orderly, after⟩
  · rename_i state
    rw [state] at lived
    have after := has.setState .enabled lived
    exact ensures_setState ⟨after.2.2.orderly, after⟩
  · exact ⟨here, .self has⟩
  all_goals exact ⟨here, .self has⟩

theorem ensures_disable (has : x.Has payload) : (host.onEngine ((x.payload payload).disable payload)).Ensures step
    Orderly (fun _ x' => x.Stays payload x') x := by
  have here := has.orderly
  have lived := has.lived
  unfold EmbeddedPayload.disable
  split
  · rename_i state
    rw [state] at lived
    have after := has.setState .disabled lived
    exact ensures_setState ⟨after.2.2.orderly, after⟩
  all_goals exact ⟨here, .self has⟩

theorem ensures_invoke (has : x.Has payload) {operation : String} {input : List UInt8} {callback : UInt64} :
    (host.onEngine ((x.payload payload).invoke payload operation input callback)).Ensures step Orderly
      (fun _ x' => x.Stays payload x') x := by
  have here := has.orderly
  unfold EmbeddedPayload.invoke
  split
  · exact ⟨here, .self has⟩
  · split
    · exact ⟨here, .self has⟩
    · refine ensures_plugin here (here.log trivial rfl rfl) fun result => ?_
      have after : x.Stays payload ((x.log (.began payload (.invoke operation input callback))).log
          (.returned payload (.invoke operation input callback) result)) :=
        has.logged rfl rfl
      split
      · exact ⟨after.2.2.orderly, after⟩
      · exact ⟨after.2.2.orderly, after⟩

/-- The shutdown callback is called at most once, because no state in which it is called comes after the call. -/
theorem ensures_shutdownOnce (has : x.Has payload) (lived : Lived x.record .enabled) :
    (host.onEngine ((x.payload payload).shutdownOnce payload)).Ensures step Orderly
      (fun _ x' => x.Stays payload x' ∧ x'.Settled) x := by
  obtain ⟨inits, shuts⟩ := lived
  have here := has.orderly
  have begun : (x.log (.began payload (.shutdown (x.payload payload).pluginId))).Orderly := by
    refine ⟨legal_cons here.legal trivial, here.once, ?_⟩
    simp [Estate.log, initializations_cons, shutdowns_cons, IsolatedEvent.initialized, IsolatedEvent.shutsDown, inits,
      shuts]
  have counts : ∀ result, initializations (.returned payload (.shutdown (x.payload payload).pluginId) result ::
      .began payload (.shutdown (x.payload payload).pluginId) :: x.record) = 1 ∧
        shutdowns (.returned payload (.shutdown (x.payload payload).pluginId) result ::
          .began payload (.shutdown (x.payload payload).pluginId) :: x.record) = 1 := by
    intro result
    simp [initializations_cons, shutdowns_cons, IsolatedEvent.initialized, IsolatedEvent.shutsDown, inits, shuts]
  unfold EmbeddedPayload.shutdownOnce
  rw [has.complete]
  refine ensures_plugin here begun fun result => ?_
  obtain ⟨inits', shuts'⟩ := counts result
  have settled := shuts'.trans inits'.symm
  split
  · have after := has.called .shutdown ⟨inits'.le, settled⟩
    exact ensures_setState ⟨after.2.2.orderly, after, settled⟩
  · have after := has.called .shutdownFailed ⟨inits', shuts'⟩
    exact ensures_setState ⟨after.2.2.orderly, after, settled⟩

theorem ensures_settle (has : x.Has payload) (settled : x.Settled) :
    (host.onEngine (NativeProg.setState payload .shutdown >>= fun _ =>
      (.done (.ok ()) : NativeProg (Except HostError Unit)))).Ensures step Orderly
        (fun _ x' => x.Stays payload x' ∧ x'.Settled) x := by
  have after := has.setState .shutdown ⟨has.orderly.once, settled⟩
  exact ensures_setState ⟨after.2.2.orderly, after, settled⟩

theorem Has.settled (has : x.Has payload) (other : (x.payload payload).state ≠ .enabled)
    (other' : (x.payload payload).state ≠ .disabled) : x.Settled := by
  have lived := has.lived
  cases state : (x.payload payload).state with
  | enabled => exact absurd state other
  | disabled => exact absurd state other'
  | loaded =>
    rw [state] at lived
    exact lived.2.trans lived.1.symm
  | shutdownFailed =>
    rw [state] at lived
    exact lived.2.trans lived.1.symm
  | shutdown =>
    rw [state] at lived
    exact lived.2

theorem ensures_shutdownForUnload (has : x.Has payload) :
    (host.onEngine ((x.payload payload).shutdownForUnload payload)).Ensures step Orderly
      (fun result x' => x.Stays payload x' ∧ (result = .ok () → x'.Settled)) x := by
  have here := has.orderly
  have lived := has.lived
  unfold EmbeddedPayload.shutdownForUnload
  split
  · exact ⟨here, .self has, fun ok => by cases ok⟩
  · rename_i state
    exact (ensures_settle has (has.settled (by simp [state]) (by simp [state]))).imp fun _ x' _ ends => ⟨ends.1, fun _ => ends.2⟩
  · rename_i state
    exact (ensures_settle has (has.settled (by simp [state]) (by simp [state]))).imp fun _ x' _ ends => ⟨ends.1, fun _ => ends.2⟩
  · rename_i state
    rw [state] at lived
    exact (ensures_shutdownOnce has lived).imp fun _ x' _ ends => ⟨ends.1, fun _ => ends.2⟩
  · rename_i state
    exact (ensures_settle has (has.settled (by simp [state]) (by simp [state]))).imp fun _ x' _ ends => ⟨ends.1, fun _ => ends.2⟩

theorem ensures_forceShutdown (has : x.Has payload) :
    (host.onEngine ((x.payload payload).forceShutdown payload)).Ensures step Orderly
      (fun _ x' => x.Stays payload x' ∧ x'.Settled) x := by
  have lived := has.lived
  unfold EmbeddedPayload.forceShutdown
  split
  · rename_i state
    exact ensures_settle has (has.settled (by simp [state]) (by simp [state]))
  · rename_i state
    exact ensures_settle has (has.settled (by simp [state]) (by simp [state]))
  · rename_i state
    exact ensures_settle has (has.settled (by simp [state]) (by simp [state]))
  · rename_i state
    rw [state] at lived
    exact ensures_shutdownOnce has lived
  · rename_i state
    rw [state] at lived
    exact ensures_shutdownOnce has lived

end Methods

section Engine

variable {α : Type} {host : HostCallbacks} {payloadId : UInt64} {payload : Nat}

theorem ensures_method {method : Nat → EmbeddedPayload → NativeProg (Except HostError α)}
    {post : Except HostError α → Estate → Prop} (lists : x.Lists payloadId payload)
    (rest : (host.onEngine (method payload (x.payload payload))).Ensures step Orderly post x) :
    (host.onEngine (NativeProg.payload payloadId >>= fun found => match found with
      | .error error => return .error error
      | .ok payload => locked payload (method payload))).Ensures step Orderly post x := by
  refine ⟨rest.within, fun (found : Except HostError Nat) x' moved => ?_⟩
  obtain ⟨rfl, rfl⟩ : found = x.engine.payload payloadId ∧ x' = x := moved
  rw [lists.found]
  exact ensures_locked rest

theorem ensures_unloadPayload (lists : x.Lists payloadId payload) :
    (host.onEngine (Engine.unloadPayload payloadId)).Ensures step Orderly (fun result x' => x.Around x' ∧ match result with
      | .error _ => x'.Lists payloadId payload
      | .ok () => x'.engine.loadOrder = [] ∧ x'.Settled) x := by
  refine ⟨lists.has.orderly, fun (found : Except HostError Nat) x' moved => ?_⟩
  obtain ⟨rfl, rfl⟩ : found = x.engine.payload payloadId ∧ x' = x := moved
  rw [lists.found]
  show Prog.Ensures _ _ _ (host.onEngine (locked payload (·.shutdownForUnload payload) >>= _)) x'
  rw [onEngine_bind]
  refine .bind (ensures_locked ((ensures_shutdownForUnload lists.has).imp fun result unlocked here ends => ?_))
  obtain ⟨⟨engine, around, has⟩, settled⟩ := ends
  cases result with
  | error error => exact ⟨here, around, lists.of_same engine has⟩
  | ok =>
    refine ⟨here, fun _ removed moved => ?_⟩
    obtain rfl : removed = { unlocked with engine := unlocked.engine.remove payloadId } := moved
    refine ⟨⟨here.legal, here.once, here.paired⟩, ⟨around.server, around.outcome, around.dropped, around.record⟩, ?_,
      settled rfl⟩
    show unlocked.engine.loadOrder.filter (· ≠ payloadId) = []
    rw [engine, lists.order]
    simp

theorem ensures_closeEmpty (here : x.Orderly) (empty : x.engine.closed = true ∨ x.engine.loadOrder = []) :
    (host.onEngine Engine.close).Ensures step Orderly
      (fun _ x' => x.Around x' ∧ x'.engine.closed = true ∧ x'.record = x.record) x := by
  refine ⟨here, fun (drained : Option (List Nat)) x' moved => ?_⟩
  have moved : if x.engine.closed then drained = none ∧ x' = x else drained = some x.engine.drained ∧
    x' = { x with engine := { x.engine with closed := true, loadOrder := [], payloads := fun _ => none } } := moved
  split at moved
  · rename_i closed
    obtain ⟨rfl, rfl⟩ := moved
    exact ⟨here, .refl x', closed, rfl⟩
  · rename_i unclosed
    obtain ⟨rfl, rfl⟩ := moved
    have nothing : x.engine.drained = [] := by
      unfold EngineState.drained
      rw [empty.resolve_left unclosed]
      rfl
    rw [nothing]
    exact ⟨⟨here.legal, here.once, here.paired⟩, ⟨rfl, rfl, rfl, List.suffix_refl _⟩, rfl, rfl⟩

theorem ensures_close (lists : x.Lists payloadId payload) : (host.onEngine Engine.close).Ensures step Orderly
    (fun _ x' => x.Around x' ∧ x'.engine.closed = true ∧ x'.Settled) x := by
  have here := lists.has.orderly
  refine ⟨here, fun (drained : Option (List Nat)) x' moved => ?_⟩
  have moved : if x.engine.closed then drained = none ∧ x' = x else drained = some x.engine.drained ∧
    x' = { x with engine := { x.engine with closed := true, loadOrder := [], payloads := fun _ => none } } := moved
  rw [if_neg (by simp [lists.unclosed]), lists.drained] at moved
  obtain ⟨rfl, rfl⟩ := moved
  have has : { x with engine := { x.engine with closed := true, loadOrder := [], payloads := fun _ => none } }.Has payload :=
    ⟨lists.has.legal, lists.has.complete, lists.has.lived⟩
  show Prog.Ensures _ _ _ (host.onEngine ((locked payload (·.forceShutdown payload) >>= _) >>= _)) _
  rw [onEngine_bind, onEngine_bind]
  refine .bind (.bind (ensures_locked ((ensures_forceShutdown has).imp fun result unlocked here' ends => ?_)))
  obtain ⟨⟨engine, around, -⟩, settled⟩ := ends
  have ended : x.Around unlocked ∧ unlocked.engine.closed = true ∧ unlocked.Settled :=
    ⟨⟨around.server, around.outcome, around.dropped, around.record⟩, by rw [engine], settled⟩
  cases result with
  | error error => exact ⟨here', here', ended⟩
  | ok => exact ⟨here', here', ended⟩

theorem ensures_loadPayload (here : x.Orderly) (greeted : Greeted x.record) (never : initializations x.record = 0)
    (unclosed : x.engine.closed = false) (empty : x.engine.loadOrder = []) {packageRoot entrypoint : String}
    {pluginId session : UInt64} :
    (host.onEngine (Engine.loadPayload packageRoot entrypoint pluginId session)).Ensures step Orderly
      (fun result x' => x.Around x' ∧ initializations x'.record = 0 ∧ match result with
        | .error _ => x'.engine.loadOrder = []
        | .ok payloadId => ∃ payload, x'.Lists payloadId payload) x := by
  unfold Engine.loadPayload
  split
  · exact ⟨here, .refl x, never, empty⟩
  · refine ⟨here, fun (resolved : Except HostError String) x' moved => ?_⟩
    obtain rfl : x' = x := moved
    cases resolved with
    | error error => exact ⟨here, .refl x', never, empty⟩
    | ok libraryPath =>
      refine ⟨here, fun (answer : Except HostError UInt64) x'' moved => ?_⟩
      obtain ⟨next, registers, rfl⟩ : ∃ next, x'.Registers answer next ∧ x'' = next.log (.library x'.server) := moved
      have loading : (x'.log (.library x'.server)).Orderly := here.log greeted rfl rfl
      have count : initializations (x'.log (.library x'.server)).record = 0 := by
        simpa [Estate.log, initializations_cons, IsolatedEvent.initialized] using never
      rcases registers with ⟨⟨error, rfl⟩, rfl⟩ | ⟨payload, self, next', -, loaded, complete, rfl, rfl⟩
      · exact ⟨loading, (Around.refl next).log _, count, empty⟩
      · refine ⟨⟨loading.legal, loading.once, loading.paired⟩, ⟨rfl, rfl, rfl, List.suffix_cons _ _⟩, count, payload,
          unclosed, update_self .., ?_, loading.legal, ?_, ?_⟩
        · show x'.engine.loadOrder ++ [x'.engine.nextPayloadId] = [x'.engine.nextPayloadId]
          rw [empty]
          rfl
        · show (update x'.payload payload self payload).pluginTable.hasShutdown = true
          rw [update_self]
          exact complete
        · show Lived (.library x'.server :: x'.record) (update x'.payload payload self payload).state
          rw [update_self, loaded]
          exact ⟨count, (loading.settled count).trans count⟩

end Engine

section Commands

variable {host : HostCallbacks} {payloadId : UInt64} {payload : Nat} {state : State} {body : MessageBody}

structure Serves (x : Estate) (state : State) : Prop where
  orderly : x.Orderly
  greeted : state ≠ .awaitHello → Greeted x.record
  owes : x.Owes state

theorem ensures_load (serves : x.Serves state) {packageRoot entrypoint : String} {pluginId session : UInt64} :
    (Server.load state packageRoot entrypoint pluginId session).Ensures step Orderly
      (fun loaded x' => x.Around x' ∧ x'.Owes loaded.1) x := by
  obtain ⟨here, greeted, owes⟩ := serves
  unfold Server.load
  cases state with
  | awaitLoad =>
    have fresh : { x with engine := {} }.Orderly := ⟨here.legal, here.once, here.paired⟩
    refine ⟨here, fun _ x' moved => ?_⟩
    obtain rfl : x' = { x with engine := {} } := moved
    show Prog.Ensures _ _ _ (HostCallbacks.onEngine _ _ >>= _) _
    refine .bind ((ensures_loadPayload fresh (greeted (by simp)) owes rfl rfl).imp fun loaded x' here' ends => ?_)
    obtain ⟨around, never, ends⟩ := ends
    have around : x.Around x' := ⟨around.server, around.outcome, around.dropped, around.record⟩
    cases loaded with
    | error error =>
      refine .bind ((ensures_closeEmpty here' (.inr ends)).imp fun _ x'' here'' ends => ⟨here'', ?_⟩)
      obtain ⟨around', -, same⟩ := ends
      refine ⟨around.trans around', ?_⟩
      show initializations x''.record = 0
      rw [same]
      exact never
    | ok payloadId => exact ⟨here', around, ends⟩
  | awaitHello => exact ⟨here, .refl x, owes⟩
  | loaded host payloadId => exact ⟨here, .refl x, owes⟩
  | closed => exact ⟨here, .refl x, owes⟩

theorem ensures_use {α : Type} (serves : x.Serves state) {method : Nat → EmbeddedPayload → NativeProg (Except HostError α)}
    {answer : Except HostError α → ProcessProg (Except HostError MessageBody)}
    (keeps : ∀ (host : HostCallbacks) payload, x.Has payload →
      (host.onEngine (method payload (x.payload payload))).Ensures step Orderly (fun _ x' => x.Stays payload x') x)
    (pure : ∀ result, ∃ response, answer result = .done response) :
    (match Server.loaded state with
      | .error error => .done (.error error)
      | .ok (host, payloadId) => host.onEngine (NativeProg.payload payloadId >>= fun found => match found with
        | .error error => return .error error
        | .ok payload => locked payload (method payload)) >>= answer :
      ProcessProg (Except HostError MessageBody)).Ensures step Orderly (fun _ x' => x.Around x' ∧ x'.Owes state) x := by
  cases state with
  | loaded host payloadId =>
    obtain ⟨payload, lists⟩ := serves.owes
    refine .bind ((ensures_method lists (keeps host payload lists.has)).imp fun result x' here stays => ?_)
    obtain ⟨response, same⟩ := pure result
    rw [same]
    exact ⟨here, stays.2.1, payload, lists.of_same stays.1 stays.2.2⟩
  | awaitHello => exact ⟨serves.orderly, .refl x, serves.owes⟩
  | awaitLoad => exact ⟨serves.orderly, .refl x, serves.owes⟩
  | closed => exact ⟨serves.orderly, .refl x, serves.owes⟩

theorem ensures_enable_command (serves : x.Serves state) : (Server.enable state).Ensures step Orderly
    (fun _ x' => x.Around x' ∧ x'.Owes state) x :=
  ensures_use serves (fun _ _ => ensures_enable) fun result => by cases result <;> exact ⟨_, rfl⟩

theorem ensures_disable_command (serves : x.Serves state) : (Server.disable state).Ensures step Orderly
    (fun _ x' => x.Around x' ∧ x'.Owes state) x :=
  ensures_use serves (fun _ _ => ensures_disable) fun result => by cases result <;> exact ⟨_, rfl⟩

theorem ensures_invoke_command (serves : x.Serves state) {operation : String} {input : List UInt8} {callbackId : UInt64} :
    (Server.invoke state operation input callbackId).Ensures step Orderly (fun _ x' => x.Around x' ∧ x'.Owes state) x :=
  ensures_use serves (fun _ _ has => ensures_invoke has) fun _ => ⟨_, rfl⟩

theorem ensures_shutdown (serves : x.Serves state) : (Server.shutdown state).Ensures step Orderly
    (fun outcome x' => x.Around x' ∧ x'.Owes outcome.1) x := by
  unfold Server.shutdown
  cases state with
  | loaded host payloadId =>
    obtain ⟨payload, lists⟩ := serves.owes
    refine .bind ((ensures_unloadPayload lists).imp fun unloaded x' here ends => ?_)
    obtain ⟨around, ends⟩ := ends
    cases unloaded with
    | error error => exact ⟨here, around, payload, ends⟩
    | ok =>
      refine .bind ((ensures_closeEmpty here (.inr ends.1)).imp fun _ x'' here' ends' => ⟨here', ?_⟩)
      obtain ⟨around', -, same⟩ := ends'
      refine ⟨around.trans around', ?_⟩
      show shutdowns x''.record = initializations x''.record
      rw [same]
      exact ends.2
  | awaitHello => exact ⟨serves.orderly, .refl x, serves.owes⟩
  | awaitLoad => exact ⟨serves.orderly, .refl x, serves.owes⟩
  | closed => exact ⟨serves.orderly, .refl x, serves.owes⟩

theorem ensures_handle (serves : x.Serves state) : (Server.handle state body).Ensures step Orderly
    (fun handled x' => x.Around x' ∧ match handled with
      | .error _ => x'.Owes state
      | .ok handled => x'.Owes handled.state) x := by
  have stays : x.Orderly ∧ x.Around x ∧ x.Owes state := ⟨serves.orderly, .refl x, serves.owes⟩
  cases body with
  | hello =>
    refine ⟨serves.orderly, .refl x, ?_⟩
    cases state with
    | awaitHello => exact serves.owes
    | awaitLoad => exact serves.owes
    | loaded host payloadId => exact serves.owes
    | closed => exact serves.owes
  | load packageRoot entrypoint pluginId session =>
    exact .bind ((ensures_load serves).imp fun loaded x' here ends => ⟨here, ends⟩)
  | enable => exact .bind ((ensures_enable_command serves).imp fun result x' here ends => ⟨here, ends⟩)
  | invoke operation input callbackId =>
    exact .bind ((ensures_invoke_command serves).imp fun result x' here ends => ⟨here, ends⟩)
  | disable => exact .bind ((ensures_disable_command serves).imp fun result x' here ends => ⟨here, ends⟩)
  | shutdown => exact .bind ((ensures_shutdown serves).imp fun outcome x' here ends => ⟨here, ends⟩)
  | ok => exact stays
  | result output => exact stays
  | error code message => exact stays
  | bridgeInvoke operation input => exact stays
  | retainHandle objectId generation => exact stays
  | releaseHandle objectId generation => exact stays
  | callbackResult output => exact stays
  | callbackError message => exact stays

theorem ensures_dropEngine (here : x.Orderly) (owes : x.Owes state ∨ x.engine.closed = true ∧ x.Settled) :
    (Server.dropEngine state).Ensures step Orderly (fun _ x' => x.Around x' ∧ x'.Settled ∧
      (x'.Owes state ∨ x'.engine.closed = true ∧ x'.Settled)) x := by
  unfold Server.dropEngine
  cases state with
  | loaded host payloadId =>
    rcases owes with ⟨payload, lists⟩ | ⟨closed, settled⟩
    · refine .bind ((ensures_close lists).imp fun _ x' here' ends => ⟨here', ends.1, ends.2.2, .inr ends.2⟩)
    · refine .bind ((ensures_closeEmpty here (.inl closed)).imp fun _ x' here' ends => ⟨here', ?_⟩)
      obtain ⟨around, closed', same⟩ := ends
      have settled' : x'.Settled := by
        show shutdowns x'.record = initializations x'.record
        rw [same]
        exact settled
      exact ⟨around, settled', .inr ⟨closed', settled'⟩⟩
  | awaitHello => exact ⟨here, .refl x, owes.elim here.settled And.right, owes⟩
  | awaitLoad => exact ⟨here, .refl x, owes.elim here.settled And.right, owes⟩
  | closed => exact ⟨here, .refl x, owes.elim id And.right, owes⟩

theorem ensures_serve (serves : x.Serves state) : (Server.serve state).Ensures step Orderly
    (fun pass x' => x.Around x' ∧
      (x'.Owes pass.state ∨ pass.outcome = .ok false ∧ x'.engine.closed = true ∧ x'.Settled)) x := by
  have here := serves.orderly
  refine ensures_stdio here fun _ => ensures_stdio here fun message => ensures_stdio here fun _ => ?_
  rcases message with error | _ | command
  · exact ⟨here, .refl x, .inl serves.owes⟩
  · refine .bind ((ensures_dropEngine here (.inl serves.owes)).imp fun _ x' here' ends => ⟨here', ends.1, ?_⟩)
    rcases ends.2.2 with owes | closed
    · exact .inl owes
    · exact .inr ⟨rfl, closed⟩
  · show Prog.Ensures _ _ _ (if command.requestId % 2 = 0 then _ else _) x
    split
    · exact ⟨here, .refl x, .inl serves.owes⟩
    · refine .bind ((ensures_handle serves).imp fun handled x' here' ends => ?_)
      obtain ⟨around, owes⟩ := ends
      cases handled with
      | error error => exact ⟨here', around, .inl owes⟩
      | ok handled =>
        unfold Server.reply
        refine ensures_stdio here' fun _ => ?_
        split
        · exact ensures_stdio here' fun _ => ⟨here', around, .inl owes⟩
        · refine ensures_stdio here' fun sent => ?_
          cases sent with
          | error error => exact ⟨here', around, .inl owes⟩
          | ok => exact ⟨here', around, .inl owes⟩

end Commands

end Estate

end RuntimeHost.Process
