import RuntimeHost.Native.Engine
import RuntimeHost.Sdk.Buffer

namespace RuntimeHost.Native

open Foundation Function Abi Sdk

def isizeMax : Nat := 0x7fffffffffffffff

/-- The identifiers of the Host callbacks of one payload, whose armed table the plugin has. -/
structure HostCallbacks where
  pluginId : UInt64
  session : UInt64
  armed : Bool

/-- The steps of an invocation from the engine to the bridge and back; `insert` is the allocator with the insertion into
the table of allocations. -/
inductive EmbedOp where
  | engine (op : EngineOp)
  | host (op : HostOp)
  | session (op : SessionOp)
  | plugin (operation : String) (input : Value) (callback : UInt64)
  | bridge (plugin session : UInt64) (operation : String) (input : List UInt8)
  | insert (allocation : List UInt8)
  | remove (pointer : UInt64)
  | read (buffer : HmclOwnedBuffer)
  | write (buffer : HmclOwnedBuffer) (bytes : List UInt8)
  | recordCleanupFailure

def EmbedOp.Answer : EmbedOp → Type
  | .engine op => op.Answer
  | .host op => op.Answer
  | .session op => op.Answer
  | .plugin .. => Unwinding (Except Error Value)
  | .bridge .. => Unwinding (Except HostError (List UInt8))
  | .insert _ => Unwinding UInt64
  | .remove _ => Option (List UInt8)
  | .read _ => Unwinding (List UInt8)
  | _ => Unit

abbrev EmbedProg := Prog EmbedOp EmbedOp.Answer

namespace EmbedProg

def engine (op : EngineOp) : EmbedProg op.Answer := .perform (EmbedOp.engine op)
def host (op : HostOp) : EmbedProg op.Answer := .perform (EmbedOp.host op)
def session (op : SessionOp) : EmbedProg op.Answer := .perform (EmbedOp.session op)
def plugin (operation : String) (input : Value) (callback : UInt64) : EmbedProg (Unwinding (Except Error Value)) :=
  .perform (EmbedOp.plugin operation input callback)
def bridge (plugin session : UInt64) (operation : String) (input : List UInt8) :
    EmbedProg (Unwinding (Except HostError (List UInt8))) := .perform (EmbedOp.bridge plugin session operation input)
def insert (allocation : List UInt8) : EmbedProg (Unwinding UInt64) := .perform (EmbedOp.insert allocation)
def remove (pointer : UInt64) : EmbedProg (Option (List UInt8)) := .perform (EmbedOp.remove pointer)
def read (buffer : HmclOwnedBuffer) : EmbedProg (Unwinding (List UInt8)) := .perform (EmbedOp.read buffer)
def write (buffer : HmclOwnedBuffer) (bytes : List UInt8) : EmbedProg Unit := .perform (EmbedOp.write buffer bytes)
def recordCleanupFailure : EmbedProg Unit := .perform EmbedOp.recordCleanupFailure

end EmbedProg

def readSlice (slice : HmclSlice) : Except HmclStatus (List UInt8) :=
  if usizeMax < slice.len.toNat then .error .invalidArgument
  else if slice.len = 0 then
    if slice.data.isNone then .ok [] else .error .invalidArgument
  else
    match slice.data with
    | none => .error .invalidArgument
    | some bytes => .ok (bytes.take slice.len.toNat)

def slice (bytes : List UInt8) : Except HostError HmclSlice :=
  if 2 ^ 64 ≤ bytes.length then .error .invalidHostResult
  else .ok {
    data := if bytes.isEmpty then none else some bytes
    len := UInt64.ofNat bytes.length }

namespace HostCallbacks

def allocate (length : Nat) (initialized : Option (List UInt8)) :
    EmbedProg (Unwinding (Except HostError HmclOwnedBuffer)) := do
  if length = 0 then return .returned (.ok .empty)
  else if (initialized.map List.length).getD length ≠ length then
    -- The box is allocated before the lengths are compared, and dropped again.
    if isizeMax < length then return .panicked else return .returned (.error .invalidHostResult)
  else
    match ← EmbedProg.insert (initialized.getD (List.replicate length 0)) with
    | .panicked => return .panicked
    | .returned pointer => return .returned (.ok {
        data := pointer
        len := UInt64.ofNat ((initialized.map List.length).getD 0)
        capacity := UInt64.ofNat length })

/-- What `release` and `take_output` have in common: the allocation of a descriptor, out of the table. -/
def reclaim (buffer : HmclOwnedBuffer) : EmbedProg (Except HostError (List UInt8)) := do
  if buffer.capacity = 0 then
    return if buffer.data = 0 ∧ buffer.len = 0 then .ok [] else .error .invalidHostResult
  else
    match ← EmbedProg.remove buffer.data with
    | none => return .error .invalidHostResult
    | some allocation =>
      return if UInt64.ofNat allocation.length ≠ buffer.capacity ∨ buffer.capacity < buffer.len then
        .error .invalidHostResult else .ok allocation

def release (buffer : HmclOwnedBuffer) : EmbedProg (Except HostError Unit) := do
  match ← reclaim buffer with
  | .error error => return .error error
  | .ok _ => return .ok ()

def takeOutput (buffer : HmclOwnedBuffer) : EmbedProg (Except HostError (List UInt8)) := do
  match ← reclaim buffer with
  | .error error => return .error error
  | .ok allocation => return .ok (allocation.take buffer.len.toNat)

/-- A panic does not cross the boundary; without `Ok` the output is as it was, empty. -/
def boundary (action : EmbedProg (Unwinding (Except HmclStatus HmclOwnedBuffer))) :
    EmbedProg (HmclStatus × HmclOwnedBuffer) := do
  match ← action with
  | .panicked => return (.hostError, .empty)
  | .returned (.error status) => return (status, .empty)
  | .returned (.ok output) => return (.ok, output)

variable (self : HostCallbacks)

def hostContext : Except HmclStatus Unit :=
  if !self.armed then .error .hostError else .ok ()

def deliver (length : Nat) (initialized : Option (List UInt8)) :
    EmbedProg (Unwinding (Except HmclStatus HmclOwnedBuffer)) := do
  match ← allocate length initialized with
  | .panicked => return .panicked
  | .returned allocated => return .returned (orError .hostError allocated)

def hostAllocate (length : UInt64) : EmbedProg (HmclStatus × HmclOwnedBuffer) := boundary do
  match self.hostContext with
  | .error status => return .returned (.error status)
  | .ok () =>
    if usizeMax < length.toNat then return .returned (.error .invalidArgument)
    else deliver length.toNat none

def hostReleaseBuffer (buffer : HmclOwnedBuffer) : EmbedProg HmclStatus := do
  match self.hostContext with
  | .error status => return status
  | .ok () =>
    match ← release buffer with
    | .error _ => return .invalidArgument
    | .ok () => return .ok

def invokeArguments (plugin token : UInt64) (operation input : HmclSlice) : Except HmclStatus (String × List UInt8) := do
  self.hostContext
  if plugin ≠ self.pluginId ∨ token ≠ self.session then .error .invalidArgument
  else
    let operation ← readSlice operation
    let operation ← okOr .invalidArgument (ofUtf8 operation)
    let input ← readSlice input
    return (operation, input)

def hostInvoke (plugin token : UInt64) (operation input : HmclSlice) : EmbedProg (HmclStatus × HmclOwnedBuffer) :=
  boundary do
    match self.invokeArguments plugin token operation input with
    | .error status => return .returned (.error status)
    | .ok (operation, input) =>
      match ← EmbedProg.bridge self.pluginId self.session operation input with
      | .panicked => return .panicked
      | .returned (.error _) => return .returned (.error .hostError)
      | .returned (.ok result) => deliver result.length (some result)

def table : (op : BufferOp) → EmbedProg op.Answer
  | .host op => EmbedProg.host op
  | .session op => EmbedProg.session op
  | .invoke plugin token operation input => self.hostInvoke plugin token operation input
  | .allocate length => self.hostAllocate length
  | .releaseBuffer buffer => self.hostReleaseBuffer buffer
  | .read buffer => EmbedProg.read buffer
  | .write buffer bytes => EmbedProg.write buffer bytes
  | .recordCleanupFailure => EmbedProg.recordCleanupFailure
  | .plugin _ operation input callback => EmbedProg.plugin operation input callback

end HostCallbacks

/-- An enabled payload that is built with the SDK, and what its session knows of the Host. -/
structure SdkPayload where
  payloadId : UInt64
  payload : Nat
  host : HostCallbacks
  session : SessionRef
  contexts : SessionRef → ContextInner
  armed : host.armed = true
  context : contexts session = ⟨host.pluginId, host.session, ⟨true, true, true⟩⟩

namespace SdkPayload

variable (plugin : SdkPayload)

def call (operation input : HmclSlice) (callback : UInt64) : EmbedProg InvokeReturn :=
  (Private.invokePlugin plugin.contexts ⟨true, operation, input, callback, true⟩).handle plugin.host.table

def invoke (guard : EmbeddedPayload) (operation : String) (input : List UInt8) (callback : UInt64) :
    EmbedProg (Except HostError (List UInt8)) := do
  if guard.state ≠ .enabled then return .error (.invalidState "payload is not enabled")
  else if !guard.pluginTable.hasInvoke then return .error .invalidPluginTable
  else
    match slice (utf8 operation) with
    | .error error => return .error error
    | .ok operation =>
      match slice input with
      | .error error => return .error error
      | .ok input =>
        let returned ← plugin.call operation input callback
        if !returned.status.isOk then return .error (.pluginStatus returned.status.raw)
        else HostCallbacks.takeOutput (returned.written.getD .empty)

def invokePayload (operation : String) (input : List UInt8) (callback : UInt64) :
    EmbedProg (Except HostError (List UInt8)) := do
  match ← EmbedProg.engine (.payload plugin.payloadId) with
  | .error error => return .error error
  | .ok payload =>
    let guard ← EmbedProg.engine (.lockPayload payload)
    let result ← plugin.invoke guard operation input callback
    EmbedProg.engine (.unlockPayload payload)
    return result

def invokeHost (operation : String) (input : Value) : EmbedProg (Unwinding (Except Error Value)) :=
  ((plugin.contexts plugin.session).invoke operation input).handle plugin.host.table

end SdkPayload

inductive EmbedTask where
  | invokePayload (operation : String) (input : List UInt8) (callback : UInt64)
  | invokeHost (operation : String) (input : Value)

inductive EmbedResult where
  | payload (result : Except HostError (List UInt8))
  | host (result : Unwinding (Except Error Value))

def EmbedTask.code (plugin : SdkPayload) : EmbedTask → EmbedProg EmbedResult
  | .invokePayload operation input callback => return .payload (← plugin.invokePayload operation input callback)
  | .invokeHost operation input => return .host (← plugin.invokeHost operation input)

def EmbedTask.Sized : EmbedTask → Prop
  | .invokePayload operation input _ => (utf8 operation).length ≤ isizeMax ∧ input.length ≤ isizeMax
  | .invokeHost operation _ => (utf8 operation).length ≤ isizeMax

/-- What a call does outside of itself: to the plugin, the bridge, and the table of allocations. -/
inductive Effect where
  | plugin (operation : String) (input : Value) (callback : UInt64) (answer : Unwinding (Except Error Value))
  | bridge (plugin session : UInt64) (operation : String) (input : List UInt8)
    (answer : Unwinding (Except HostError (List UInt8)))
  | inserted (pointer : UInt64) (length : Nat)
  | refused (length : Nat)
  | removed (pointer : UInt64)

def EmbedOp.effects : (op : EmbedOp) → op.Answer → List Effect
  | .plugin operation input callback, answer => [.plugin operation input callback answer]
  | .bridge pluginId token operation input, answer => [.bridge pluginId token operation input answer]
  | .insert allocation, .returned pointer => [.inserted pointer allocation.length]
  | .insert allocation, .panicked => [.refused allocation.length]
  | .remove pointer, _ => [.removed pointer]
  | _, _ => []

def Effect.onTable : Effect → Bool
  | .inserted .. => true
  | .removed _ => true
  | _ => false

/-- An engine with the enabled payload, the runtime and the context of its session, and its table of allocations; whether
memory outside of an allocation has been accessed; the effects of each call so far, and the calls that have returned. -/
structure Embedding (Thread : Type) where
  engines : Engines (Thread × Nat)
  runtime : Runtime (Thread × Nat)
  hosts : Hosts Thread
  allocations : UInt64 → Option (List UInt8)
  cleanupFailures : UInt64 := 0
  fault : Bool := false
  journal : Thread × Nat → List Effect := fun _ => []
  returned : List (EmbedTask × EmbedResult × List Effect) := []

abbrev EmbeddingConfig (Thread : Type) :=
  Config (Thread × Nat) (Embedding Thread) EmbedOp EmbedOp.Answer EmbedTask EmbedResult

namespace Embedding

variable {Thread : Type} [DecidableEq Thread]

/-- Every lease and every invocation takes a place on some stack, so there are never `usize::MAX` of them. -/
def Fits (s : Embedding Thread) : EmbedOp → Prop
  | .host (.takeLease _) => s.hosts.admission.inFlight < usizeMax
  | .session (.admitCall session) => (s.runtime.session session).inFlight < usizeMax
  | _ => True

def access (s : Embedding Thread) (pointer : UInt64) (length : Nat) : Option (List UInt8) :=
  (s.allocations pointer).filter fun allocation => length ≤ allocation.length

def step (t : Thread × Nat) : (op : EmbedOp) → Embedding Thread → op.Answer → Embedding Thread → Prop
  | .engine op, s, answer, s' => ∃ engines, s.engines.exec t op answer engines ∧ s' = { s with engines }
  | .host op, s, answer, s' => ∃ hosts, s.hosts.exec t.1 op answer hosts ∧ s' = { s with hosts }
  | .session op, s, answer, s' => ∃ runtime, s.runtime.exec t op answer runtime ∧ s' = { s with runtime }
  | .plugin .., s, _, s' => s' = s
  | .bridge .., s, answer, s' => (∀ bytes, answer = .returned (.ok bytes) → bytes.length ≤ isizeMax) ∧ s' = s
  | .insert _, s, .panicked, s' => s' = s
  | .insert allocation, s, .returned pointer, s' => pointer ≠ 0 ∧ s.allocations pointer = none ∧
    s' = { s with allocations := update s.allocations pointer (some allocation) }
  | .remove pointer, s, answer, s' => answer = s.allocations pointer ∧
    s' = { s with allocations := update s.allocations pointer none }
  | .read buffer, s, answer, s' =>
    match s.access buffer.data buffer.len.toNat with
    | none => s' = { s with fault := true }
    | some allocation => answer = .returned (allocation.take buffer.len.toNat) ∧ s' = s
  | .write buffer bytes, s, _, s' =>
    match s.access buffer.data bytes.length with
    | none => s' = { s with fault := true }
    | some allocation => s' = { s with
      allocations := update s.allocations buffer.data (some (bytes ++ allocation.drop bytes.length)) }
  | .recordCleanupFailure, s, _, s' => s' = { s with cleanupFailures := s.cleanupFailures + 1 }

structure Lists (plugin : SdkPayload) (engines : Engines (Thread × Nat)) : Prop where
  unclosed : engines.engine.closed = false
  listed : engines.engine.payloads plugin.payloadId = some plugin.payload
  enabled : (engines.payload plugin.payload).state = .enabled
  invokable : (engines.payload plugin.payload).pluginTable.hasInvoke = true

/-- The payload is enabled, and its runtime serves the session of the plugin. -/
structure Enabled (plugin : SdkPayload) (s : Embedding Thread) : Prop where
  lists : Lists plugin s.engines
  slot : s.runtime.slot = some plugin.session
  accepting : (s.runtime.session plugin.session).accepting = true
  active : s.hosts.admission.active = true

/-- Such a payload before any call, with what has been allocated until then. -/
structure Fresh (plugin : SdkPayload) (base : UInt64 → Option (List UInt8)) (s : Embedding Thread) : Prop where
  enabled : s.Enabled plugin
  allocations : s.allocations = base
  fault : s.fault = false
  returned : s.returned = []
  journal : ∀ t, s.journal t = []

/-- Calls into an enabled payload and from it, in any order and on any threads, each of any number inside of others. What
else happens to the engine leaves the payload as it is. -/
def system (plugin : SdkPayload) (Thread : Type) [DecidableEq Thread] :
    System (Thread × Nat) (Embedding Thread) EmbedOp EmbedOp.Answer EmbedTask EmbedResult where
  code := EmbedTask.code plugin
  start t task s s' := task.Sized ∧ s' = { s with journal := update s.journal t [] }
  exec t op s answer s' := s.Fits op ∧ ∃ next, s.step t op answer next ∧
    s' = { next with journal := update s.journal t (s.journal t ++ op.effects answer) }
  finish t task result s s' := s' = { s with returned := (task, result, s.journal t) :: s.returned }
  env s s' := ∃ engines, Lists plugin engines ∧ s' = { s with engines }

end Embedding

inductive HostInvocation (host : HostCallbacks) (operation : String) (input : Value) :
    Unwinding (Except Error Value) → List Effect → Prop
  | unencodable {error} (encoded : input.toWire = .error error) :
    HostInvocation host operation input (.returned (.error error)) []
  | failed {wire answer} (encoded : input.toWire = .ok wire) (failed : ∀ bytes, answer ≠ .returned (.ok bytes)) :
    HostInvocation host operation input (.returned (.error hostUnavailable))
      [.bridge host.pluginId host.session operation wire answer]
  | refused {wire bytes} (encoded : input.toWire = .ok wire) :
    HostInvocation host operation input (.returned (.error hostUnavailable))
      [.bridge host.pluginId host.session operation wire (.returned (.ok bytes)), .refused bytes.length]
  | empty {wire} (encoded : input.toWire = .ok wire) :
    HostInvocation host operation input (.returned (Value.fromWire []))
      [.bridge host.pluginId host.session operation wire (.returned (.ok []))]
  | fetched {wire bytes pointer} (encoded : input.toWire = .ok wire) :
    HostInvocation host operation input (.returned (Value.fromWire bytes))
      [.bridge host.pluginId host.session operation wire (.returned (.ok bytes)), .inserted pointer bytes.length,
        .removed pointer]

/-- What `Engine::invoke_payload` comes to, and all that it does beside the calls inside of the plugin. -/
inductive PayloadInvocation (operation : String) (input : List UInt8) (callback : UInt64) :
    Except HostError (List UInt8) → List Effect → Prop
  | undecodable {error} (decoded : Value.fromWire input = .error error) :
    PayloadInvocation operation input callback (.error (.pluginStatus HmclStatus.invalidArgument.raw)) []
  | failed {value answer} (decoded : Value.fromWire input = .ok value) (failed : ∀ r, answer ≠ .returned (.ok r)) :
    PayloadInvocation operation input callback (.error (.pluginStatus HmclStatus.pluginError.raw))
      [.plugin operation value callback answer]
  | unencodable {value r error} (decoded : Value.fromWire input = .ok value) (encoded : r.toWire = .error error) :
    PayloadInvocation operation input callback (.error (.pluginStatus HmclStatus.pluginError.raw))
      [.plugin operation value callback (.returned (.ok r))]
  | refused {value r wire} (decoded : Value.fromWire input = .ok value) (encoded : r.toWire = .ok wire) :
    PayloadInvocation operation input callback (.error (.pluginStatus HmclStatus.hostError.raw))
      [.plugin operation value callback (.returned (.ok r)), .refused wire.length]
  | delivered {value r wire pointer} (decoded : Value.fromWire input = .ok value) (encoded : r.toWire = .ok wire) :
    PayloadInvocation operation input callback (.ok wire)
      [.plugin operation value callback (.returned (.ok r)), .inserted pointer wire.length, .removed pointer]

def Balanced (effects : List Effect) : Prop :=
  effects.filter Effect.onTable = [] ∨
    ∃ pointer length, effects.filter Effect.onTable = [.inserted pointer length, .removed pointer]

structure EndToEnd {Thread : Type} (plugin : SdkPayload) (base : UInt64 → Option (List UInt8))
    (c : EmbeddingConfig Thread) : Prop where
  ok : ∀ operation input callback result effects,
    (.invokePayload operation input callback, .payload result, effects) ∈ c.state.returned →
      ∀ wire, result = .ok wire ↔ ∃ value r pointer, Value.fromWire input = .ok value ∧
        .plugin operation value callback (.returned (.ok r)) ∈ effects ∧ r.toWire = .ok wire ∧
          .inserted pointer wire.length ∈ effects
  failed : ∀ operation input callback error effects,
    (.invokePayload operation input callback, .payload (.error error), effects) ∈ c.state.returned →
      ∃ status, error = .pluginStatus status
  payload : ∀ operation input callback result effects,
    (.invokePayload operation input callback, .payload result, effects) ∈ c.state.returned →
      PayloadInvocation operation input callback result effects
  host : ∀ operation input result effects, (.invokeHost operation input, .host result, effects) ∈ c.state.returned →
    HostInvocation plugin.host operation input result effects
  balanced : ∀ task result effects, (task, result, effects) ∈ c.state.returned → Balanced effects
  kept : ∀ pointer allocation, base pointer = some allocation → c.state.allocations pointer = some allocation
  added : ∀ pointer, base pointer = none → c.state.allocations pointer ≠ none → ∃ t length,
    c.threads t ≠ .idle ∧ (c.state.journal t).filter Effect.onTable = [.inserted pointer length]
  quiescent : (∀ t, c.threads t = .idle) → c.state.allocations = base
  sound : c.state.fault = false

end RuntimeHost.Native
