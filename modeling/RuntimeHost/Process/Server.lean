import RuntimeHost.Native.Engine
import RuntimeHost.Process.Bridge

namespace RuntimeHost.Process

open Foundation Sdk Abi Protocol Native

/-- The functions of the Host table that reach the Bridge, with the arguments that a payload passes. -/
inductive HostCall where
  | invoke (plugin token : UInt64) (operation input : List UInt8)
  | retainHandle (objectId generation : UInt64)
  | releaseHandle (objectId generation : UInt64)

def HostCall.Answer : HostCall → Type
  | .invoke .. => Except HmclStatus (List UInt8)
  | _ => Except HmclStatus Unit

/-- What a payload does in a plugin call: Host calls one after another, and a return. -/
abbrev Behaviour := Prog HostCall HostCall.Answer PluginReturn

structure HostCallbacks where
  pluginId : UInt64
  session : UInt64
  bridge : ProcessBridge

namespace HostCallbacks

variable (host : HostCallbacks)

def hostInvoke (plugin token : UInt64) (operation input : List UInt8) :
    StdioProg (Except HmclStatus (List UInt8)) := do
  if plugin ≠ host.pluginId ∨ token ≠ host.session then return .error .invalidArgument
  else
    match ofUtf8 operation with
    | none => return .error .invalidArgument
    | some operation => return orError .hostError (← host.bridge.invoke host.pluginId host.session operation input)

def hostRetainHandle (objectId generation : UInt64) : StdioProg (Except HmclStatus Unit) :=
  return orError .hostError (← host.bridge.retainHandle host.session objectId generation)

def hostReleaseHandle (objectId generation : UInt64) : StdioProg (Except HmclStatus Unit) :=
  return orError .hostError (← host.bridge.releaseHandle host.session objectId generation)

def code : (call : HostCall) → StdioProg call.Answer
  | .invoke plugin token operation input => host.hostInvoke plugin token operation input
  | .retainHandle objectId generation => host.hostRetainHandle objectId generation
  | .releaseHandle objectId generation => host.hostReleaseHandle objectId generation

end HostCallbacks

/-- The steps of the process: those on its streams, those of its engine, and the begin and the return of a plugin
call. -/
inductive ProcessOp where
  | stdio (op : StdioOp)
  | engine (op : EngineOp)
  | newEngine
  | behave (payload : Nat) (call : Native.PluginCall)
  | returned (payload : Nat) (call : Native.PluginCall) (result : PluginReturn)

def ProcessOp.Answer : ProcessOp → Type
  | .stdio op => op.Answer
  | .engine op => op.Answer
  | .newEngine => Unit
  | .behave .. => Behaviour
  | .returned .. => Unit

abbrev ProcessProg := Prog ProcessOp ProcessOp.Answer

namespace ProcessProg

def stdio (op : StdioOp) : ProcessProg op.Answer := .perform (ProcessOp.stdio op)

def onStdio {α : Type} (p : StdioProg α) : ProcessProg α := p.handle stdio

def newEngine : ProcessProg Unit := .perform ProcessOp.newEngine

end ProcessProg

open ProcessProg

/-- The engine of a process, with the payload's Host calls made on the thread that calls the plugin. -/
def HostCallbacks.native (host : HostCallbacks) : (op : NativeOp) → ProcessProg op.Answer
  | .engine op => .perform (ProcessOp.engine op)
  | .plugin payload call => do
    let behaviour : Behaviour ← .perform (ProcessOp.behave payload call)
    let result ← behaviour.handle fun call => onStdio (host.code call)
    .perform (ProcessOp.returned payload call result)
    return result

def HostCallbacks.onEngine {α : Type} (host : HostCallbacks) (p : NativeProg α) : ProcessProg α :=
  p.handle host.native

inductive State where
  | awaitHello
  | awaitLoad
  | loaded (host : HostCallbacks) (payloadId : UInt64)
  | closed

def truncate : (room : Nat) → List Char → List Char
  | _, [] => []
  | room, c :: rest => if c.utf8Size ≤ room then c :: truncate (room - c.utf8Size) rest else []

def isCharBoundary (text : String) (index : Nat) : Bool :=
  if index = 0 then true
  else
    match (utf8 text)[index]? with
    | none => index == (utf8 text).length
    | some byte => byte < 0x80 || 0xc0 ≤ byte

def charBoundary (text : String) : (index : Nat) → Nat
  | 0 => 0
  | index + 1 => if isCharBoundary text (index + 1) then index + 1 else charBoundary text index

def errorCode : HostError → String
  | .io _ => "payload-io"
  | .library _ => "library-load"
  | .entrypointEscape => "entrypoint-escape"
  | .missingQuerySymbol => "missing-query"
  | .queryStatus _ => "query-status"
  | .unsupportedPluginAbi _ => "unsupported-abi"
  | .invalidPluginTable => "invalid-plugin-table"
  | .pluginStatus _ => "plugin-status"
  | .unknownPayload _ => "unknown-payload"
  | .invalidState _ => "invalid-state"
  | .engineClosed => "engine-closed"
  | .invalidHostResult => "invalid-host-result"
  | .javaBridge => "bridge-callback"
  | .jniPanic => "native-panic"

def errorMessage (error : HostError) : String :=
  let message := error.text
  if 4096 < (utf8 message).length then String.ofList (truncate (charBoundary message 4096) message.toList) else message

def errorBody (error : HostError) : MessageBody := .error (errorCode error) (errorMessage error)

def respond : Except HostError MessageBody → MessageBody
  | .ok body => body
  | .error error => errorBody error

namespace Server

def hello (state : State) : State × Except HostError MessageBody :=
  match state with
  | .awaitHello => (.awaitLoad, .ok .ok)
  | _ => (state, .error (.invalidState "hello already completed"))

def load (state : State) (packageRoot entrypoint : String) (pluginId session : UInt64) :
    ProcessProg (State × Except HostError MessageBody) := do
  match state with
  | .awaitLoad =>
    let host : HostCallbacks := { pluginId, session, bridge := { pluginId, session } }
    newEngine
    match ← host.onEngine (Engine.loadPayload packageRoot entrypoint pluginId session) with
    | .error error =>
      let _ ← host.onEngine Engine.close
      return (state, .error error)
    | .ok payloadId => return (.loaded host payloadId, .ok .ok)
  | _ => return (state, .error (.invalidState "payload load is not available"))

def loaded (state : State) : Except HostError (HostCallbacks × UInt64) :=
  match state with
  | .loaded host payloadId => .ok (host, payloadId)
  | .awaitHello => .error (.invalidState "hello is required")
  | .awaitLoad => .error (.invalidState "payload is not loaded")
  | .closed => .error .engineClosed

def enable (state : State) : ProcessProg (Except HostError MessageBody) := do
  match loaded state with
  | .error error => return .error error
  | .ok (host, payloadId) =>
    match ← host.onEngine (Engine.enablePayload payloadId) with
    | .error error => return .error error
    | .ok () => return .ok .ok

def invoke (state : State) (operation : String) (input : List UInt8) (callbackId : UInt64) :
    ProcessProg (Except HostError MessageBody) := do
  match loaded state with
  | .error error => return .error error
  | .ok (host, payloadId) =>
    return (← host.onEngine (Engine.invokePayload payloadId operation input callbackId)).map .result

def disable (state : State) : ProcessProg (Except HostError MessageBody) := do
  match loaded state with
  | .error error => return .error error
  | .ok (host, payloadId) =>
    match ← host.onEngine (Engine.disablePayload payloadId) with
    | .error error => return .error error
    | .ok () => return .ok .ok

/-- The state that `Closed` replaces is dropped, and its engine with it. -/
def shutdown (state : State) : ProcessProg (State × Except HostError Unit) := do
  match loaded state with
  | .error error => return (state, .error error)
  | .ok (host, payloadId) =>
    match ← host.onEngine (Engine.unloadPayload payloadId) with
    | .error error => return (state, .error error)
    | .ok () =>
      let _ ← host.onEngine Engine.close
      return (.closed, .ok ())

/-- `Drop for Engine`, when the server goes; `close_on_eof` makes the same call. -/
def dropEngine (state : State) : ProcessProg Unit := do
  match state with
  | .loaded host _ =>
    let _ ← host.onEngine Engine.close
    return ()
  | _ => return ()

/-- The response to a command, whether to stop after it, and the state of the server then. -/
structure Handled where
  state : State
  result : Except HostError MessageBody
  close : Bool := false

def handle (state : State) (body : MessageBody) : ProcessProg (Except ProtocolError Handled) := do
  match body with
  | .hello =>
    let (state, result) := hello state
    return .ok { state, result }
  | .load packageRoot entrypoint pluginId session =>
    let (state, result) ← load state packageRoot entrypoint pluginId session
    return .ok { state, result }
  | .enable => return .ok { state, result := ← enable state }
  | .invoke operation input callbackId => return .ok { state, result := ← invoke state operation input callbackId }
  | .disable => return .ok { state, result := ← disable state }
  | .shutdown =>
    let (state, result) ← shutdown state
    return .ok { state, result := result.map fun _ => .ok, close := result.isOk }
  | _ => return .error (invalid "child-only message arrived as a parent command")

/-- What one pass of the loop comes to: the state of the server, and whether it goes on. -/
structure Pass where
  state : State
  outcome : Except ProtocolError Bool

def reply (requestId : UInt64) (handled : Handled) : ProcessProg Pass := do
  onStdio StdioProg.lockWriter
  match Message.new requestId (respond handled.result) with
  | .error _ =>
    onStdio StdioProg.unlockWriter
    return ⟨handled.state, .error (invalid "invalid process response")⟩
  | .ok message =>
    match ← onStdio (send message) with
    | .error error => return ⟨handled.state, .error error⟩
    | .ok () => return ⟨handled.state, .ok !handled.close⟩

def serve (state : State) : ProcessProg Pass := do
  onStdio StdioProg.lockReader
  let message ← onStdio (StdioProg.readFrame .serve)
  onStdio StdioProg.unlockReader
  match message with
  | .error error => return ⟨state, .error error⟩
  | .ok none =>
    dropEngine state
    return ⟨state, .ok false⟩
  | .ok (some message) =>
    if message.requestId % 2 = 0 then
      return ⟨state, .error (invalid "callback response arrived outside a callback")⟩
    else
      match ← handle state message.body with
      | .error error => return ⟨state, .error error⟩
      | .ok handled => reply message.requestId handled

end Server

end RuntimeHost.Process
