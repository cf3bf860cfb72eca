import RuntimeHost.Abi.Buffer
import RuntimeHost.Foundation.Record
import RuntimeHost.Sdk.Encoder
import RuntimeHost.Sdk.Decoder
import RuntimeHost.Sdk.Session

namespace RuntimeHost.Sdk

open Foundation Function Abi

def Error.fromHostStatus (status : HmclStatus) : Error :=
  if status = .invalidArgument then ⟨.invalidArgument⟩
  else if status = .unsupportedAbi then ⟨.unavailable⟩
  else if status = .bufferTooSmall then ⟨.invalidResult⟩
  else if status = .hostError then ⟨.unavailable⟩
  else if status = .pluginError then ⟨.internal⟩
  else ⟨.internal⟩

structure BufferCallbacks where
  allocate : Bool
  releaseBuffer : Bool
  invoke : Bool

structure ContextInner where
  plugin : UInt64
  token : UInt64
  table : BufferCallbacks

inductive Unwinding (α : Type) where
  | returned (a : α)
  | panicked

inductive BufferOp where
  | host (op : HostOp)
  | session (op : SessionOp)
  | invoke (plugin token : UInt64) (operation input : HmclSlice)
  | allocate (length : UInt64)
  | releaseBuffer (buffer : HmclOwnedBuffer)
  | read (buffer : HmclOwnedBuffer)
  | write (buffer : HmclOwnedBuffer) (bytes : List UInt8)
  | recordCleanupFailure
  | plugin (session : SessionRef) (operation : String) (input : Value) (callback : UInt64)

/-- The Host callbacks answer with a status and with what they leave in `out_buffer`. -/
def BufferOp.Answer : BufferOp → Type
  | .host op => op.Answer
  | .session op => op.Answer
  | .invoke .. => HmclStatus × HmclOwnedBuffer
  | .allocate _ => HmclStatus × HmclOwnedBuffer
  | .releaseBuffer _ => HmclStatus
  | .read _ => Unwinding (List UInt8)
  | .plugin .. => Unwinding (Except Error Value)
  | _ => Unit

abbrev BufferProg := Prog BufferOp BufferOp.Answer

namespace BufferProg

def onHost {α : Type} (p : HostProg α) : BufferProg α := p.handle fun op => .perform (BufferOp.host op)
def onSession {α : Type} (p : SessionProg α) : BufferProg α := p.handle fun op => .perform (BufferOp.session op)
def invoke (plugin token : UInt64) (operation input : HmclSlice) : BufferProg (HmclStatus × HmclOwnedBuffer) :=
  .perform (BufferOp.invoke plugin token operation input)
def allocate (length : UInt64) : BufferProg (HmclStatus × HmclOwnedBuffer) := .perform (BufferOp.allocate length)
def releaseBuffer (buffer : HmclOwnedBuffer) : BufferProg HmclStatus := .perform (BufferOp.releaseBuffer buffer)
def read (buffer : HmclOwnedBuffer) : BufferProg (Unwinding (List UInt8)) := .perform (BufferOp.read buffer)
def write (buffer : HmclOwnedBuffer) (bytes : List UInt8) : BufferProg Unit :=
  .perform (BufferOp.write buffer bytes)
def recordCleanupFailure : BufferProg Unit := .perform BufferOp.recordCleanupFailure
def plugin (session : SessionRef) (operation : String) (input : Value) (callback : UInt64) :
    BufferProg (Unwinding (Except Error Value)) := .perform (BufferOp.plugin session operation input callback)

end BufferProg

open BufferProg

def borrowedSlice (bytes : List UInt8) : HmclSlice where
  data := if bytes.isEmpty then none else some bytes
  len := UInt64.ofNat bytes.length

def readSlice (slice : HmclSlice) : Except HmclStatus (List UInt8) :=
  if usizeMax < slice.len.toNat then .error .invalidArgument
  else if slice.len = 0 then
    if slice.data.isNone then .ok [] else .error .invalidArgument
  else
    match slice.data with
    | none => .error .invalidArgument
    | some bytes => .ok (bytes.take slice.len.toNat)

namespace HostBuffer

def copyBytes (buffer : HmclOwnedBuffer) : BufferProg (Unwinding (Except Error (List UInt8))) := do
  if usizeMax < buffer.len.toNat then return .returned (.error invalidResult)
  else if buffer.len = 0 then return .returned (.ok [])
  else
    match ← read buffer with
    | .panicked => return .panicked
    | .returned bytes => return .returned (.ok bytes)

def release (buffer : HmclOwnedBuffer) : BufferProg (Except Error Unit) := do
  let status ← releaseBuffer buffer
  return if status.isOk then .ok () else .error (.fromHostStatus status)

def drop (buffer : HmclOwnedBuffer) : BufferProg Unit := do
  let status ← releaseBuffer buffer
  if status.isOk then return ()
  else recordCleanupFailure

def fill (buffer : HmclOwnedBuffer) (bytes : List UInt8) : BufferProg Unit :=
  if bytes.isEmpty then return ()
  else write buffer bytes

end HostBuffer

namespace ContextInner

variable (context : ContextInner)

def invokeLeased (operation : String) (input : Value) : BufferProg (Unwinding (Except Error Value)) := do
  if !context.table.invoke then return .returned (.error hostUnavailable)
  else if !context.table.releaseBuffer then return .returned (.error hostUnavailable)
  else
    match input.toWire with
    | .error error => return .returned (.error error)
    | .ok input =>
      let (status, output) ←
        BufferProg.invoke context.plugin context.token (borrowedSlice (utf8 operation)) (borrowedSlice input)
      if !status.isOk then return .returned (.error (.fromHostStatus status))
      else if !output.hasValidLayout then
        HostBuffer.drop output
        return .returned (.error invalidResult)
      else
        match ← HostBuffer.copyBytes output with
        | .panicked =>
          HostBuffer.drop output
          return .panicked
        | .returned (.error error) =>
          HostBuffer.drop output
          return .returned (.error error)
        | .returned (.ok bytes) =>
          match ← HostBuffer.release output with
          | .error error => return .returned (.error error)
          | .ok () => return .returned (Value.fromWire bytes)

def invoke (operation : String) (input : Value) : BufferProg (Unwinding (Except Error Value)) := do
  match ← onHost HostState.lease with
  | .error error => return .returned (.error error)
  | .ok () =>
    let result ← context.invokeLeased operation input
    onHost HostLease.drop
    return result

def allocateLeased (bytes : List UInt8) : BufferProg (Except Error HmclOwnedBuffer) := do
  if !context.table.allocate then return .error hostUnavailable
  else if !context.table.releaseBuffer then return .error hostUnavailable
  else if 2 ^ 64 ≤ bytes.length then return .error invalidArgument
  else
    let requested := UInt64.ofNat bytes.length
    let (status, output) ← BufferProg.allocate requested
    if !status.isOk then return .error (.fromHostStatus status)
    else if !output.satisfiesAllocationRequest requested then
      HostBuffer.drop output
      return .error invalidResult
    else
      HostBuffer.fill output bytes
      return .ok { output with len := requested }

def allocateWire (bytes : List UInt8) : BufferProg (Except Error HmclOwnedBuffer) := do
  match ← onHost HostState.lease with
  | .error error => return .error error
  | .ok () =>
    let allocated ← context.allocateLeased bytes
    onHost HostLease.drop
    return allocated

end ContextInner

/-- The arguments of a call of the plugin's `invoke` callback; whether its pointers are usable. -/
structure InvokeCall where
  context : Bool
  operation : HmclSlice
  input : HmclSlice
  callback : UInt64
  outBuffer : Bool

/-- The status of such a call, and what it has written to `out_buffer`. -/
structure InvokeReturn where
  status : HmclStatus
  written : Option HmclOwnedBuffer := none

namespace Private

variable (contexts : SessionRef → ContextInner)

def invokeAdmitted (session : SessionRef) (operation : String) (input : Value) (callback : UInt64) :
    BufferProg (Unwinding InvokeReturn) := do
  match ← plugin session operation input callback with
  | .panicked => return .panicked
  | .returned (.error _) => return .returned ⟨.pluginError, none⟩
  | .returned (.ok value) =>
    match value.toWire with
    | .error _ => return .returned ⟨.pluginError, none⟩
    | .ok wire =>
      match ← (contexts session).allocateWire wire with
      | .error _ => return .returned ⟨.hostError, none⟩
      | .ok output => return .returned ⟨.ok, some output⟩

def invokeSession (operation : String) (input : Value) (callback : UInt64) : BufferProg (Unwinding InvokeReturn) := do
  match ← onSession SessionProg.lockSlot with
  | none =>
    onSession SessionProg.unlockSlot
    return .returned ⟨.pluginError, none⟩
  | some session =>
    onSession (SessionProg.cloneArc session)
    if ← onSession (SessionProg.admitCall session) then
      onSession SessionProg.unlockSlot
      let returned ← invokeAdmitted contexts session operation input callback
      onSession (SessionProg.dropArc session)
      onSession (SessionProg.leave session)
      return returned
    else
      onSession (SessionProg.dropArc session)
      onSession SessionProg.unlockSlot
      return .returned ⟨.pluginError, none⟩

def decodeArguments (call : InvokeCall) : Except HmclStatus (String × Value) :=
  if !call.context || !call.outBuffer then .error .invalidArgument
  else do
    let operation ← readSlice call.operation
    let input ← readSlice call.input
    let operation ← okOr .invalidArgument (ofUtf8 operation)
    let input ← orError .invalidArgument (Value.fromWire input)
    return (operation, input)

def invokeInner (call : InvokeCall) : BufferProg (Unwinding InvokeReturn) :=
  match decodeArguments call with
  | .error status => return .returned ⟨status, none⟩
  | .ok (operation, input) => invokeSession contexts operation input call.callback

def invokePlugin (call : InvokeCall) : BufferProg InvokeReturn := do
  match ← invokeInner contexts call with
  | .panicked => return ⟨.pluginError, none⟩
  | .returned returned => return returned

end Private

inductive BufferTask where
  | invoke (context : ContextInner) (operation : String) (input : Value)
  | invokePlugin (call : InvokeCall)

inductive BufferResult where
  | invoked (result : Unwinding (Except Error Value))
  | plugin (returned : InvokeReturn)

def BufferTask.code (contexts : SessionRef → ContextInner) : BufferTask → BufferProg BufferResult
  | .invoke context operation input => return .invoked (← context.invoke operation input)
  | .invokePlugin call => return .plugin (← Private.invokePlugin contexts call)

/-- What happens to a descriptor: the Host delivers it, on a request for some bytes or as a result, or gets it back. -/
inductive Transfer where
  | delivered (requested : Option UInt64) (buffer : HmclOwnedBuffer)
  | released (buffer : HmclOwnedBuffer)

def BufferOp.transfer : (op : BufferOp) → op.Answer → List Transfer
  | .invoke .., (status, buffer) => if status.isOk then [.delivered none buffer] else []
  | .allocate length, (status, buffer) => if status.isOk then [.delivered (some length) buffer] else []
  | .releaseBuffer buffer, _ => [.released buffer]
  | _, _ => []

/-- The value that the plugin has returned to an operation, and the transfers so far. -/
structure Custody where
  value : Option Value := none
  transfers : List Transfer := []

namespace Custody

def holds (x : Custody) (requested : Option UInt64) (buffer : HmclOwnedBuffer) : Prop :=
  x.transfers = [.delivered requested buffer]

/-- The Host is asked for a descriptor only before any transfer. Then the one descriptor is the only one to be read,
written or released, and not after its release. -/
def allows (x : Custody) : BufferOp → Prop
  | .invoke .. => x.transfers = []
  | .allocate _ => x.transfers = []
  | .releaseBuffer buffer => ∃ requested, x.holds requested buffer
  | .read buffer => x.holds none buffer ∧ buffer.hasValidLayout = true
  | .write buffer bytes => ∃ requested, x.holds (some requested) buffer ∧
    buffer.satisfiesAllocationRequest requested = true ∧ requested.toNat = bytes.length
  | _ => True

def next (x : Custody) : (op : BufferOp) → op.Answer → Custody
  | .plugin .., .returned (.ok value) => { x with value := some value }
  | op, answer => { x with transfers := x.transfers ++ op.transfer answer }

def typestate : Typestate BufferOp BufferOp.Answer Custody where
  allows := allows
  next := next

def Settled (transfers : List Transfer) : Prop :=
  transfers = [] ∨ ∃ requested buffer, transfers = [.delivered requested buffer, .released buffer]

end Custody

/-- The operations of a plugin on its buffers; a thread may have any number of them open, each begun inside of a
callback of the one below it. -/
structure Buffers (Thread : Type) where
  custody : Thread × Nat → Custody := fun _ => {}

namespace Buffers

variable {Thread : Type} [DecidableEq Thread]

def put (s : Buffers Thread) (t : Thread × Nat) (x : Custody) : Buffers Thread where
  custody := update s.custody t x

/-- Operations in any order and on any threads; the Host, the plugin, the leases and the sessions answer as they like. -/
def system (Thread : Type) [DecidableEq Thread] (contexts : SessionRef → ContextInner) :
    System (Thread × Nat) (Buffers Thread) BufferOp BufferOp.Answer BufferTask BufferResult where
  code := BufferTask.code contexts
  start t _ s s' := s' = s.put t {}
  exec t op s answer s' := s' = s.put t ((s.custody t).next op answer)
  finish t _ _ s s' := s' = s.put t {}
  env _ _ := False

end Buffers

abbrev BuffersRecord (Thread : Type) :=
  Recorded (Thread × Nat) (Buffers Thread) BufferOp BufferOp.Answer BufferTask BufferResult

abbrev BuffersRecordConfig (Thread : Type) :=
  Config (Thread × Nat) (BuffersRecord Thread) BufferOp BufferOp.Answer BufferTask BufferResult

abbrev BufferEvent (Thread : Type) := Answered (Thread × Nat) (Buffers Thread) BufferOp BufferOp.Answer

section Ownership

variable {Thread : Type}

def transfers (events : List (BufferEvent Thread)) : List Transfer :=
  events.flatMap fun event => event.op.transfer event.answer

def Yields (events : List (BufferEvent Thread)) (value : Value) : Prop :=
  ∃ session operation input callback t before after,
    (⟨t, .plugin session operation input callback, .returned (.ok value), before, after⟩ : BufferEvent Thread) ∈ events

/-- The transfers of an operation so far: it takes over one descriptor at most, and gives it back once at most. -/
def Orderly (transfers : List Transfer) : Prop :=
  Custody.Settled transfers ∨ ∃ requested buffer, transfers = [.delivered requested buffer]

/-- `out_buffer` gets the descriptor allocated for the encoded value, with only its length set. -/
structure HandsOver (events : List (BufferEvent Thread)) (written : HmclOwnedBuffer) (allocated : HmclOwnedBuffer)
    (value : Value) (wire : List UInt8) : Prop where
  yields : Yields events value
  encoded : value.toWire = .ok wire
  delivered : transfers events = [.delivered (some written.len) allocated]
  suits : allocated.satisfiesAllocationRequest written.len = true
  same : written = { allocated with len := written.len }
  length : written.len.toNat = wire.length

structure OwnershipSafe (c : BuffersRecordConfig Thread) : Prop where
  invoked : ∀ t context operation input events result,
    (t, .invoke context operation input, events, .invoked result) ∈ c.state.returned → Custody.Settled (transfers events)
  refused : ∀ t call events status, (t, .invokePlugin call, events, .plugin ⟨status, none⟩) ∈ c.state.returned →
    status ≠ .ok ∧ Custody.Settled (transfers events)
  handedOver : ∀ t call events status written,
    (t, .invokePlugin call, events, .plugin ⟨status, some written⟩) ∈ c.state.returned →
      status = .ok ∧ ∃ allocated value wire, HandsOver events written allocated value wire
  orderly : ∀ t, Orderly (c.state.state.custody t).transfers
  released : ∀ event ∈ c.state.events, ∀ buffer, event.op = .releaseBuffer buffer →
    ∃ requested, (event.before.custody event.thread).holds requested buffer
  read : ∀ event ∈ c.state.events, ∀ buffer, event.op = .read buffer →
    (event.before.custody event.thread).holds none buffer ∧ buffer.hasValidLayout = true
  filled : ∀ event ∈ c.state.events, ∀ buffer bytes, event.op = .write buffer bytes →
    ∃ requested, (event.before.custody event.thread).holds (some requested) buffer ∧
      buffer.satisfiesAllocationRequest requested = true ∧ requested.toNat = bytes.length

end Ownership

end RuntimeHost.Sdk
