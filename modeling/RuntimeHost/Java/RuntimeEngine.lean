import RuntimeHost.Foundation.LinkedMap
import RuntimeHost.Java.NativeEngine

namespace RuntimeHost.Java

open Foundation

abbrev IsolatedRef := Nat

abbrev Duration := Int

def defaultInvocationTimeout : Duration := 30 * 10 ^ 9

inductive PayloadBackend where
  | embedded (nativePayloadId : String)
  | isolated (payload : IsolatedRef)
  deriving DecidableEq

/-- What a payload can be asked for; an unload is the shutdown of an isolated payload. -/
inductive PayloadRequest where
  | enable
  | disable
  | invoke (operation : String) (input : List UInt8) (callbackId : Int64) (timeout : Duration)
  | unload

def PayloadRequest.Returns : PayloadRequest → Type
  | .invoke .. => List UInt8
  | _ => Unit

/-- A call into the embedded engine, the factory of isolated payloads, or such a payload. -/
inductive BackendCall where
  | initializeEmbedded
  | healthCheckEmbedded
  | loadEmbedded (context : RuntimePayloadContext)
  | startIsolated (context : RuntimePayloadContext)
  | ask (backend : PayloadBackend) (request : PayloadRequest)
  | closeIsolated (payload : IsolatedRef)
  | closeEmbedded

def BackendCall.Returns : BackendCall → Type
  | .healthCheckEmbedded => Bool
  | .loadEmbedded _ => Option String
  | .startIsolated _ => Option IsolatedRef
  | .ask _ request => request.Returns
  | _ => Unit

def BackendCall.Answer (call : BackendCall) : Type := Except Throwable call.Returns

abbrev BackendProg := Prog BackendCall BackendCall.Answer

namespace BackendProg

def initializeEmbedded : BackendProg (Except Throwable Unit) := .perform BackendCall.initializeEmbedded
def healthCheckEmbedded : BackendProg (Except Throwable Bool) := .perform BackendCall.healthCheckEmbedded
def loadEmbedded (context : RuntimePayloadContext) : BackendProg (Except Throwable (Option String)) :=
  .perform (BackendCall.loadEmbedded context)
def startIsolated (context : RuntimePayloadContext) : BackendProg (Except Throwable (Option IsolatedRef)) :=
  .perform (BackendCall.startIsolated context)
def ask (backend : PayloadBackend) (request : PayloadRequest) : BackendProg (Except Throwable request.Returns) :=
  .perform (BackendCall.ask backend request)
def closeIsolated (payload : IsolatedRef) : BackendProg (Except Throwable Unit) :=
  .perform (BackendCall.closeIsolated payload)
def closeEmbedded : BackendProg (Except Throwable Unit) := .perform BackendCall.closeEmbedded

end BackendProg

def longToString (i : Int64) : String := toString i.toInt

/-- The fields of the engine that change. All methods are synchronized, so that each has them for itself. -/
structure RustRuntimeEngine where
  payloads : LinkedMap String PayloadBackend := .empty
  nextPayloadId : Int64 := 1
  closed : Bool := false

namespace RustRuntimeEngine

open BackendProg

variable (self : RustRuntimeEngine)

def requireOpen : Except Throwable Unit :=
  if self.closed then .error (.ioException "Rust Runtime Host engine is closed") else .ok ()

def allocatePayloadId : Except Throwable (String × RustRuntimeEngine) :=
  let payloadId := self.nextPayloadId
  if payloadId ≤ 0 then .error (.ioException "Rust Runtime Host payload ID space is exhausted")
  else .ok (longToString payloadId,
    { self with nextPayloadId := if payloadId = Int64.maxValue then 0 else payloadId + 1 })

def requireBackend (payloadId : String) : Except Throwable PayloadBackend := do
  self.requireOpen
  match self.payloads.get payloadId with
  | none => .error (.ioException ("Unknown Rust Runtime Host payload ID: " ++ payloadId))
  | some backend => .ok backend

def initializeEngine : BackendProg (Except Throwable Unit × RustRuntimeEngine) := do
  match self.requireOpen with
  | .error thrown => return (.error thrown, self)
  | .ok () => return (← initializeEmbedded, self)

def healthCheck : BackendProg (Except Throwable Bool × RustRuntimeEngine) := do
  match self.requireOpen with
  | .error thrown => return (.error thrown, self)
  | .ok () => return (← healthCheckEmbedded, self)

def openBackend (context : RuntimePayloadContext) : BackendProg (Except Throwable PayloadBackend) :=
  match context.executionMode with
  | .embedded => do
    match ← loadEmbedded context with
    | .error thrown => return .error thrown
    | .ok none => return .error (.runtimeException "nativePayloadId")
    | .ok (some nativePayloadId) => return .ok (.embedded nativePayloadId)
  | .isolated => do
    match ← startIsolated context with
    | .error thrown => return .error thrown
    | .ok none => return .error (.runtimeException "payload")
    | .ok (some payload) => return .ok (.isolated payload)

def loadPayload (context : RuntimePayloadContext) : BackendProg (Except Throwable String × RustRuntimeEngine) := do
  match self.requireOpen with
  | .error thrown => return (.error thrown, self)
  | .ok () =>
    match self.allocatePayloadId with
    | .error thrown => return (.error thrown, self)
    | .ok (payloadId, self) =>
      match ← openBackend context with
      | .error thrown => return (.error thrown, self)
      | .ok backend => return (.ok payloadId, { self with payloads := self.payloads.put payloadId backend })

/-- A method that passes a request on to the backend of a payload and leaves the payloads as they are. -/
def forward (payloadId : String) (request : PayloadRequest) :
    BackendProg (Except Throwable request.Returns × RustRuntimeEngine) := do
  match self.requireBackend payloadId with
  | .error thrown => return (.error thrown, self)
  | .ok backend => return (← ask backend request, self)

def enablePayload (payloadId : String) : BackendProg (Except Throwable Unit × RustRuntimeEngine) :=
  self.forward payloadId .enable

def disablePayload (payloadId : String) : BackendProg (Except Throwable Unit × RustRuntimeEngine) :=
  self.forward payloadId .disable

def invokePayload (payloadId operation : String) (input : List UInt8) (callbackId : Int64) (timeout : Duration) :
    BackendProg (Except Throwable (List UInt8) × RustRuntimeEngine) :=
  if timeout ≤ 0 then return (.error (.ioException "Rust payload invocation timeout must be positive"), self)
  else self.forward payloadId (.invoke operation input callbackId timeout)

/-- An embedded payload goes once it has been unloaded, an isolated one in any case. -/
def unloadPayload (payloadId : String) : BackendProg (Except Throwable Unit × RustRuntimeEngine) := do
  match self.requireBackend payloadId with
  | .error thrown => return (.error thrown, self)
  | .ok (.embedded nativePayloadId) =>
    match ← ask (.embedded nativePayloadId) .unload with
    | .error thrown => return (.error thrown, self)
    | .ok () => return (.ok (), { self with payloads := self.payloads.remove payloadId })
  | .ok (.isolated payload) =>
    let result ← ask (.isolated payload) .unload
    return (result, { self with payloads := self.payloads.remove payloadId })

def closeBackends : List PayloadBackend → BackendProg (Except Throwable Unit)
  | [] => return .ok ()
  | .embedded _ :: backends => closeBackends backends
  | .isolated payload :: backends => do
    match ← closeIsolated payload with
    | .error thrown => return .error thrown
    | .ok () => closeBackends backends

def close : BackendProg (Except Throwable Unit × RustRuntimeEngine) := do
  if self.closed then return (.ok (), self)
  else
    let self := { self with closed := true }
    match ← closeBackends self.payloads.values.reverse with
    | .error thrown => return (.error thrown, self)
    | .ok () => return (← closeEmbedded, { self with payloads := .empty })

end RustRuntimeEngine

/-- A method with its arguments; an invocation may leave out the timeout. -/
inductive RuntimeTask where
  | initializeEngine
  | healthCheck
  | loadPayload (context : RuntimePayloadContext)
  | enablePayload (payloadId : String)
  | disablePayload (payloadId : String)
  | invokePayload (payloadId operation : String) (input : List UInt8) (callbackId : Int64) (timeout : Option Duration)
  | unloadPayload (payloadId : String)
  | close

/-- The method on an engine: what it returns or throws, and the engine that it leaves. -/
def RuntimeTask.run (self : RustRuntimeEngine) : RuntimeTask → BackendProg (Except Throwable JavaValue × RustRuntimeEngine)
  | .initializeEngine => return (← self.initializeEngine).map (.map fun _ => .unit) id
  | .healthCheck => return (← self.healthCheck).map (.map .health) id
  | .loadPayload context => return (← self.loadPayload context).map (.map .payloadId) id
  | .enablePayload payloadId => return (← self.enablePayload payloadId).map (.map fun _ => .unit) id
  | .disablePayload payloadId => return (← self.disablePayload payloadId).map (.map fun _ => .unit) id
  | .invokePayload payloadId operation input callbackId timeout =>
    return (← self.invokePayload payloadId operation input callbackId
      (timeout.getD defaultInvocationTimeout)).map (.map .output) id
  | .unloadPayload payloadId => return (← self.unloadPayload payloadId).map (.map fun _ => .unit) id
  | .close => return (← self.close).map (.map fun _ => .unit) id

abbrev BackendStep := (call : BackendCall) × call.Answer

structure RuntimeCall where
  task : RuntimeTask
  steps : List BackendStep
  result : Except Throwable JavaValue

/-- An engine after some calls, the newest first, over backends that may do anything. -/
inductive Uses : List RuntimeCall → RustRuntimeEngine → Prop
  | new : Uses [] {}
  | call {calls engine task steps result engine'} (earlier : Uses calls engine)
    (ran : (task.run engine).Yields steps (result, engine')) : Uses (⟨task, steps, result⟩ :: calls) engine'

end RuntimeHost.Java
