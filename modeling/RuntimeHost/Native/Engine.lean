import RuntimeHost.Abi.Status
import RuntimeHost.Foundation.Program
import RuntimeHost.Foundation.Result
import RuntimeHost.Native.HostError

namespace RuntimeHost.Native

open Foundation Function Abi

def hmclBridgeAbiV1 : UInt32 := 1

def hmclPluginApiV1PrefixSize : UInt32 := 40

/-- The header of a plugin's function table, and which of its callbacks are there. -/
structure HmclPluginApiV1 where
  structSize : UInt32 := hmclPluginApiV1PrefixSize
  abiVersion : UInt32 := hmclBridgeAbiV1
  hasInitialize : Bool := false
  hasInvoke : Bool := false
  hasShutdown : Bool := false
  deriving DecidableEq

/-- What the system loader, and the query callback of a library that it accepts, come to. -/
inductive LibraryOutcome where
  | rejected (error : String)
  | withoutQuery
  | queried (status : HmclStatus) (pluginTable : HmclPluginApiV1)

inductive PayloadState where
  | loaded
  | enabled
  | disabled
  | shutdownFailed
  | shutdown
  deriving DecidableEq

structure EmbeddedPayload where
  pluginId : UInt64
  session : UInt64
  pluginTable : HmclPluginApiV1
  state : PayloadState
  deriving DecidableEq

def EmbeddedPayload.load (outcome : LibraryOutcome) (pluginId session : UInt64) :
    Except HostError EmbeddedPayload :=
  match outcome with
  | .rejected error => .error (.library error)
  | .withoutQuery => .error .missingQuerySymbol
  | .queried status pluginTable =>
    if !status.isOk then .error (.queryStatus status.raw)
    else if pluginTable.abiVersion ≠ hmclBridgeAbiV1 then .error (.unsupportedPluginAbi pluginTable.abiVersion)
    else if pluginTable.structSize < hmclPluginApiV1PrefixSize ∨ !pluginTable.hasInitialize ∨ !pluginTable.hasInvoke ∨
        !pluginTable.hasShutdown then .error .invalidPluginTable
    else .ok { pluginId, session, pluginTable, state := .loaded }

theorem EmbeddedPayload.load_eq_ok {outcome : LibraryOutcome} {pluginId session : UInt64} {payload : EmbeddedPayload}
    (loaded : EmbeddedPayload.load outcome pluginId session = .ok payload) :
    payload.state = .loaded ∧ payload.pluginTable.hasShutdown = true := by
  unfold EmbeddedPayload.load at loaded
  split at loaded
  · cases loaded
  · cases loaded
  · split at loaded
    · cases loaded
    · split at loaded
      · cases loaded
      · split at loaded
        · cases loaded
        · rename_i complete
          cases loaded
          simp only [not_or, Bool.not_eq_true', Bool.not_eq_false] at complete
          exact ⟨rfl, complete.2.2.2⟩

inductive PluginCall where
  | initializePlugin (pluginId session : UInt64)
  | invoke (operation : String) (input : List UInt8) (callback : UInt64)
  | shutdown (pluginId : UInt64)
  deriving DecidableEq

/-- The status of a plugin call, and what `take_output` makes of its output buffer. -/
structure PluginReturn where
  status : HmclStatus
  output : Option (List UInt8)
  deriving DecidableEq

def requirePluginStatus (status : HmclStatus) : Except HostError Unit :=
  if status.isOk then .ok () else .error (.pluginStatus status.raw)

/-- The steps of the engine: what it does under the lock of its state, and under the lock of one payload. -/
inductive EngineOp where
  | resolveEntrypoint (packageRoot entrypoint : String)
  | register (libraryPath : String) (pluginId session : UInt64)
  | payload (payloadId : UInt64)
  | remove (payloadId : UInt64)
  | drain
  | lockPayload (payload : Nat)
  | setState (payload : Nat) (state : PayloadState)
  | unlockPayload (payload : Nat)

def EngineOp.Answer : EngineOp → Type
  | .resolveEntrypoint .. => Except HostError String
  | .register .. => Except HostError UInt64
  | .payload _ => Except HostError Nat
  | .drain => Option (List Nat)
  | .lockPayload _ => EmbeddedPayload
  | _ => Unit

inductive NativeOp where
  | engine (op : EngineOp)
  | plugin (payload : Nat) (call : PluginCall)

def NativeOp.Answer : NativeOp → Type
  | .engine op => op.Answer
  | .plugin .. => PluginReturn

abbrev NativeProg := Prog NativeOp NativeOp.Answer

namespace NativeProg

def resolveEntrypoint (packageRoot entrypoint : String) : NativeProg (Except HostError String) :=
  .perform (NativeOp.engine (.resolveEntrypoint packageRoot entrypoint))
def register (libraryPath : String) (pluginId session : UInt64) : NativeProg (Except HostError UInt64) :=
  .perform (NativeOp.engine (.register libraryPath pluginId session))
def payload (payloadId : UInt64) : NativeProg (Except HostError Nat) :=
  .perform (NativeOp.engine (.payload payloadId))
def remove (payloadId : UInt64) : NativeProg Unit := .perform (NativeOp.engine (.remove payloadId))
def drain : NativeProg (Option (List Nat)) := .perform (NativeOp.engine .drain)
def lockPayload (payload : Nat) : NativeProg EmbeddedPayload := .perform (NativeOp.engine (.lockPayload payload))
def setState (payload : Nat) (state : PayloadState) : NativeProg Unit :=
  .perform (NativeOp.engine (.setState payload state))
def unlockPayload (payload : Nat) : NativeProg Unit := .perform (NativeOp.engine (.unlockPayload payload))
def plugin (payload : Nat) (call : PluginCall) : NativeProg PluginReturn :=
  .perform (NativeOp.plugin payload call)

end NativeProg

open NativeProg

namespace EmbeddedPayload

variable (payload : Nat) (self : EmbeddedPayload)

def enable : NativeProg (Except HostError Unit) := do
  match self.state with
  | .loaded =>
    if !self.pluginTable.hasInitialize then return .error .invalidPluginTable
    else
      let returned ← plugin payload (.initializePlugin self.pluginId self.session)
      match requirePluginStatus returned.status with
      | .error error => return .error error
      | .ok () =>
        setState payload .enabled
        return .ok ()
  | .disabled =>
    setState payload .enabled
    return .ok ()
  | .enabled => return .ok ()
  | .shutdownFailed | .shutdown => return .error (.invalidState "payload has shut down")

def disable : NativeProg (Except HostError Unit) := do
  match self.state with
  | .enabled =>
    setState payload .disabled
    return .ok ()
  | .disabled => return .ok ()
  | .loaded => return .error (.invalidState "payload is not enabled")
  | .shutdownFailed | .shutdown => return .error (.invalidState "payload has shut down")

def invoke (operation : String) (input : List UInt8) (callback : UInt64) :
    NativeProg (Except HostError (List UInt8)) := do
  if self.state ≠ .enabled then return .error (.invalidState "payload is not enabled")
  else if !self.pluginTable.hasInvoke then return .error .invalidPluginTable
  else
    let returned ← plugin payload (.invoke operation input callback)
    if !returned.status.isOk then return .error (.pluginStatus returned.status.raw)
    else return okOr .invalidHostResult returned.output

def shutdownOnce : NativeProg (Except HostError Unit) := do
  if !self.pluginTable.hasShutdown then return .error .invalidPluginTable
  else
    let returned ← plugin payload (.shutdown self.pluginId)
    if returned.status.isOk then
      setState payload .shutdown
      return .ok ()
    else
      setState payload .shutdownFailed
      return .error (.pluginStatus returned.status.raw)

def shutdownForUnload : NativeProg (Except HostError Unit) := do
  match self.state with
  | .enabled => return .error (.invalidState "payload is still enabled")
  | .loaded | .shutdown =>
    setState payload .shutdown
    return .ok ()
  | .disabled => self.shutdownOnce payload
  | .shutdownFailed =>
    setState payload .shutdown
    return .ok ()

def forceShutdown : NativeProg (Except HostError Unit) := do
  match self.state with
  | .loaded | .shutdown | .shutdownFailed =>
    setState payload .shutdown
    return .ok ()
  | .enabled | .disabled => self.shutdownOnce payload

end EmbeddedPayload

def locked {α : Type} (payload : Nat) (method : EmbeddedPayload → NativeProg α) : NativeProg α := do
  let guard ← lockPayload payload
  let result ← method guard
  unlockPayload payload
  return result

namespace Engine

def loadPayload (packageRoot entrypoint : String) (pluginId session : UInt64) :
    NativeProg (Except HostError UInt64) := do
  if pluginId = 0 ∨ session = 0 then
    return .error (.invalidState "plugin and session identifiers must be nonzero")
  else
    match ← resolveEntrypoint packageRoot entrypoint with
    | .error error => return .error error
    | .ok libraryPath => register libraryPath pluginId session

def enablePayload (payloadId : UInt64) : NativeProg (Except HostError Unit) := do
  match ← payload payloadId with
  | .error error => return .error error
  | .ok payload => locked payload (·.enable payload)

def disablePayload (payloadId : UInt64) : NativeProg (Except HostError Unit) := do
  match ← payload payloadId with
  | .error error => return .error error
  | .ok payload => locked payload (·.disable payload)

def invokePayload (payloadId : UInt64) (operation : String) (input : List UInt8) (callback : UInt64) :
    NativeProg (Except HostError (List UInt8)) := do
  match ← payload payloadId with
  | .error error => return .error error
  | .ok payload => locked payload (·.invoke payload operation input callback)

def unloadPayload (payloadId : UInt64) : NativeProg (Except HostError Unit) := do
  match ← payload payloadId with
  | .error error => return .error error
  | .ok payload =>
    match ← locked payload (·.shutdownForUnload payload) with
    | .error error => return .error error
    | .ok () =>
      remove payloadId
      return .ok ()

def forceShutdowns : List Nat → Option HostError → NativeProg (Option HostError)
  | [], firstFailure => return firstFailure
  | payload :: payloads, firstFailure => do
    match ← locked payload (·.forceShutdown payload) with
    | .error error => forceShutdowns payloads (firstFailure.or (some error))
    | .ok () => forceShutdowns payloads firstFailure

def close : NativeProg (Except HostError Unit) := do
  match ← drain with
  | none => return .ok ()
  | some payloads =>
    match ← forceShutdowns payloads none with
    | some error => return .error error
    | none => return .ok ()

end Engine

structure EngineState where
  nextPayloadId : UInt64 := 1
  loadOrder : List UInt64 := []
  payloads : UInt64 → Option Nat := fun _ => none
  closed : Bool := false

def checkedAdd (a b : UInt64) : Option UInt64 := if a.toNat + b.toNat < 2 ^ 64 then some (a + b) else none

theorem checkedAdd_eq_some {a b sum : UInt64} (added : checkedAdd a b = some sum) :
    sum.toNat = a.toNat + b.toNat := by
  unfold checkedAdd at added
  split at added
  · rename_i small
    cases added
    rw [UInt64.toNat_add, Nat.mod_eq_of_lt small]
  · cases added

/-- What `load_payload` does under the lock of the engine state with the payload it has loaded; `payload` is the
allocation that the payload moves into. -/
def EngineState.register (state : EngineState) (payload : Nat) : Except HostError (UInt64 × EngineState) :=
  match checkedAdd state.nextPayloadId 1 with
  | none => .error (.invalidState "payload identifier space exhausted")
  | some nextPayloadId => .ok (state.nextPayloadId, {
      state with
      nextPayloadId
      payloads := update state.payloads state.nextPayloadId (some payload)
      loadOrder := state.loadOrder ++ [state.nextPayloadId] })

def EngineState.payload (state : EngineState) (payloadId : UInt64) : Except HostError Nat :=
  if state.closed then .error .engineClosed
  else okOr (.unknownPayload payloadId) (state.payloads payloadId)

def EngineState.remove (state : EngineState) (payloadId : UInt64) : EngineState :=
  { state with
    payloads := update state.payloads payloadId none
    loadOrder := state.loadOrder.filter (· ≠ payloadId) }

def EngineState.drained (state : EngineState) : List Nat := state.loadOrder.reverse.filterMap state.payloads

/-- An engine with the payloads it has allocated and the threads that hold their locks. -/
structure Engines (Tid : Type) where
  engine : EngineState := {}
  allocated : Nat := 0
  payload : Nat → EmbeddedPayload := fun _ => ⟨0, 0, {}, .shutdown⟩
  holder : Nat → Option Tid := fun _ => none

namespace Engines

variable {Tid : Type}

/-- The section of `load_payload` under the lock of the engine state. -/
def Register (pluginId session : UInt64) (s : Engines Tid) (answer : Except HostError UInt64) (s' : Engines Tid) :
    Prop :=
  if s.engine.closed then answer = .error .engineClosed ∧ s' = s
  else ∃ outcome, match EmbeddedPayload.load outcome pluginId session with
    | .error error => answer = .error error ∧ s' = s
    | .ok payload =>
      match s.engine.register s.allocated with
      | .error error => answer = .error error ∧ s' = s
      | .ok (payloadId, engine) =>
        answer = .ok payloadId ∧ s' = { s with
          engine
          allocated := s.allocated + 1
          payload := update s.payload s.allocated payload }

def exec (t : Tid) : (op : EngineOp) → Engines Tid → op.Answer → Engines Tid → Prop
  | .resolveEntrypoint _ _, s, answer, s' =>
    (match answer with
      | .error (.io _) | .error .entrypointEscape | .ok _ => True
      | _ => False) ∧ s' = s
  | .register _ pluginId session, s, answer, s' => s.Register pluginId session answer s'
  | .payload payloadId, s, answer, s' => answer = s.engine.payload payloadId ∧ s' = s
  | .remove payloadId, s, _, s' => s' = { s with engine := s.engine.remove payloadId }
  | .drain, s, answer, s' =>
    if s.engine.closed then answer = none ∧ s' = s
    else answer = some s.engine.drained ∧
      s' = { s with engine := { s.engine with closed := true, loadOrder := [], payloads := fun _ => none } }
  | .lockPayload payload, s, answer, s' =>
    s.holder payload = none ∧ answer = s.payload payload ∧
      s' = { s with holder := update s.holder payload (some t) }
  | .setState payload state, s, _, s' =>
    s' = { s with payload := update s.payload payload { s.payload payload with state } }
  | .unlockPayload payload, s, _, s' => s' = { s with holder := update s.holder payload none }

end Engines

end RuntimeHost.Native
