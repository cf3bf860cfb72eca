import RuntimeHost.Native.HostError
import RuntimeHost.Process.Stdio

namespace RuntimeHost.Process

open Foundation Sdk Protocol Native

abbrev StdioProg := Prog StdioOp StdioOp.Answer

namespace StdioProg

def lockReader : StdioProg Unit := .perform StdioOp.lockReader
def unlockReader : StdioProg Unit := .perform StdioOp.unlockReader
def readFrame (site : ReadSite) : StdioProg (Except ProtocolError (Option Message)) :=
  .perform (StdioOp.readFrame site)
def lockWriter : StdioProg Unit := .perform StdioOp.lockWriter
def unlockWriter : StdioProg Unit := .perform StdioOp.unlockWriter
def writeFrame (message : Message) : StdioProg (Except ProtocolError Unit) :=
  .perform (StdioOp.writeFrame message)
def flush : StdioProg (Except IoError Unit) := .perform StdioOp.flush
def nextCallbackId : StdioProg UInt64 := .perform StdioOp.nextCallbackId

end StdioProg

open StdioProg

def protocolAsHost : ProtocolError → HostError
  | .io error => .io error
  | .invalidData _ => .invalidHostResult

def send (message : Message) : StdioProg (Except ProtocolError Unit) := do
  match ← writeFrame message with
  | .error error =>
    unlockWriter
    return .error error
  | .ok () =>
    match ← flush with
    | .error error =>
      unlockWriter
      return .error (.io error)
    | .ok () =>
      unlockWriter
      return .ok ()

structure ProcessBridge where
  pluginId : UInt64
  session : UInt64
  deriving DecidableEq

/-- What `call` makes of the frame it has read for the request `requestId`. -/
def accept (requestId : UInt64) : Except ProtocolError (Option Message) → Except HostError MessageBody
  | .error error => .error (protocolAsHost error)
  | .ok none => .error .invalidHostResult
  | .ok (some response) =>
    if response.requestId ≠ requestId then .error .invalidHostResult else .ok response.body

namespace ProcessBridge

def call (body : MessageBody) : StdioProg (Except HostError MessageBody) := do
  let requestId ← nextCallbackId
  if requestId = 0 ∨ requestId > i64Max then return .error .invalidHostResult
  else
    match Message.new requestId body with
    | .error error => return .error (protocolAsHost error)
    | .ok message =>
      lockWriter
      match ← send message with
      | .error error => return .error (protocolAsHost error)
      | .ok () =>
        lockReader
        let response ← readFrame .callback
        unlockReader
        return accept requestId response

/-- The result of `BridgeTransport::invoke` once `call` has returned. -/
def invokeResult : Except HostError MessageBody → Except HostError (List UInt8)
  | .ok (.callbackResult output) => .ok output
  | .ok (.callbackError _) => .error .javaBridge
  | .ok _ => .error .invalidHostResult
  | .error error => .error error

def handleResult : Except HostError MessageBody → Except HostError Unit
  | .ok (.callbackResult output) => if output.isEmpty then .ok () else .error .invalidHostResult
  | .ok (.callbackError _) => .error .javaBridge
  | .ok _ => .error .invalidHostResult
  | .error error => .error error

def invoke (bridge : ProcessBridge) (plugin session : UInt64) (operation : String) (input : List UInt8) :
    StdioProg (Except HostError (List UInt8)) := do
  if plugin ≠ bridge.pluginId ∨ session ≠ bridge.session then return .error .invalidHostResult
  else return invokeResult (← call (.bridgeInvoke operation input))

def handleCall (bridge : ProcessBridge) (session : UInt64) (body : MessageBody) :
    StdioProg (Except HostError Unit) := do
  if session ≠ bridge.session then return .error .invalidHostResult
  else return handleResult (← call body)

def retainHandle (bridge : ProcessBridge) (session objectId generation : UInt64) :
    StdioProg (Except HostError Unit) :=
  bridge.handleCall session (.retainHandle objectId generation)

def releaseHandle (bridge : ProcessBridge) (session objectId generation : UInt64) :
    StdioProg (Except HostError Unit) :=
  bridge.handleCall session (.releaseHandle objectId generation)

def afterSend (requestId : UInt64) : Except ProtocolError Unit → StdioProg (Except HostError MessageBody)
  | .error error => return .error (protocolAsHost error)
  | .ok () => do
    StdioProg.lockReader
    let response ← StdioProg.readFrame .callback
    StdioProg.unlockReader
    return accept requestId response

def afterId (body : MessageBody) (requestId : UInt64) : StdioProg (Except HostError MessageBody) :=
  if requestId = 0 ∨ requestId > Sdk.i64Max then return .error .invalidHostResult
  else
    match Message.new requestId body with
    | .error error => return .error (protocolAsHost error)
    | .ok message => do
      StdioProg.lockWriter
      let sent ← send message
      afterSend requestId sent

theorem call_eq (body : MessageBody) : ProcessBridge.call body = .act .nextCallbackId (afterId body) := rfl

theorem afterId_legal (m : Message) :
    afterId m.body m.requestId = .act .lockWriter fun _ => send m >>= afterSend m.requestId := by
  obtain ⟨positive, bounded, -⟩ := checkMessage_eq_ok_iff.mp m.accepted
  unfold afterId
  rw [if_neg (by simpa using ⟨positive, bounded⟩), Message.new_eq_ok_iff.mpr ⟨rfl, rfl⟩]
  rfl

end ProcessBridge

end RuntimeHost.Process
