import RuntimeHost.Protocol.Fields
import RuntimeHost.Sdk.Codec

namespace RuntimeHost.Protocol

open Foundation Sdk

def MessageBody.encoded : MessageBody → Except ProtocolError (String × Value)
  | .hello => return ("hello", .map [])
  | .load packageRoot entrypoint pluginId session => do
    let pluginId ← idValue pluginId
    let session ← idValue session
    return ("load", .map [("packageRoot", .string packageRoot), ("entrypoint", .string entrypoint),
      ("pluginId", pluginId), ("session", session)])
  | .enable => return ("enable", .map [])
  | .invoke operation input callbackId => do
    let callbackId ← idValue callbackId
    return ("invoke", .map [("operation", .string operation), ("input", .bytes input),
      ("callbackId", callbackId)])
  | .disable => return ("disable", .map [])
  | .shutdown => return ("shutdown", .map [])
  | .ok => return ("ok", .map [])
  | .result output => return ("result", .map [("output", .bytes output)])
  | .error code message =>
    return ("error", .map [("code", .string code), ("message", .string message)])
  | .bridgeInvoke operation input =>
    return ("bridge-invoke", .map [("operation", .string operation), ("input", .bytes input)])
  | .retainHandle objectId generation => do
    let payload ← handlePayload objectId generation
    return ("retain-handle", payload)
  | .releaseHandle objectId generation => do
    let payload ← handlePayload objectId generation
    return ("release-handle", payload)
  | .callbackResult output => return ("callback-result", .map [("output", .bytes output)])
  | .callbackError code => return ("callback-error", .map [("code", .string code)])

def MessageBody.toValue (body : MessageBody) : Except ProtocolError (String × Value) := do
  body.validate
  body.encoded

/-- Decodes one exact object-handle payload into its retain or release kind. -/
def decodeHandle (payload : Value) (retain : Bool) : Except ProtocolError MessageBody := do
  let fields ← exactMap payload ["objectId", "generation"]
  let objectId ← positiveId (← field fields "objectId")
  let generation ← positiveId (← field fields "generation")
  return if retain then .retainHandle objectId generation else .releaseHandle objectId generation

def MessageBody.parse (kind : String) (payload : Value) : Except ProtocolError MessageBody :=
  match kind with
  | "hello" => do
    let _ ← exactMap payload []
    return .hello
  | "load" => do
    let fields ← exactMap payload ["packageRoot", "entrypoint", "pluginId", "session"]
    let packageRoot ← string (← field fields "packageRoot")
    let entrypoint ← string (← field fields "entrypoint")
    let pluginId ← positiveId (← field fields "pluginId")
    let session ← positiveId (← field fields "session")
    return .load packageRoot entrypoint pluginId session
  | "enable" => do
    let _ ← exactMap payload []
    return .enable
  | "invoke" => do
    let fields ← exactMap payload ["operation", "input", "callbackId"]
    let operation ← string (← field fields "operation")
    let input ← bytes (← field fields "input")
    let callbackId ← nonnegativeId (← field fields "callbackId")
    return .invoke operation input callbackId
  | "disable" => do
    let _ ← exactMap payload []
    return .disable
  | "shutdown" => do
    let _ ← exactMap payload []
    return .shutdown
  | "ok" => do
    let _ ← exactMap payload []
    return .ok
  | "result" => do
    let fields ← exactMap payload ["output"]
    let output ← bytes (← field fields "output")
    return .result output
  | "error" => do
    let fields ← exactMap payload ["code", "message"]
    let code ← string (← field fields "code")
    let message ← string (← field fields "message")
    return .error code message
  | "bridge-invoke" => do
    let fields ← exactMap payload ["operation", "input"]
    let operation ← string (← field fields "operation")
    let input ← bytes (← field fields "input")
    return .bridgeInvoke operation input
  | "retain-handle" => decodeHandle payload true
  | "release-handle" => decodeHandle payload false
  | "callback-result" => do
    let fields ← exactMap payload ["output"]
    let output ← bytes (← field fields "output")
    return .callbackResult output
  | "callback-error" => do
    let fields ← exactMap payload ["code"]
    let code ← string (← field fields "code")
    return .callbackError code
  | _ => .error (invalid "unsupported message kind")

def MessageBody.fromValue (kind : String) (payload : Value) : Except ProtocolError MessageBody := do
  let body ← parse kind payload
  body.validate
  return body

def Message.toWire (m : Message) : Except ProtocolError (List UInt8) := do
  let (kind, payload) ← m.body.toValue
  let requestId ← okOr (invalid "request ID overflow") (signed m.requestId)
  orError (invalid "message cannot be encoded as Bridge Value v1")
    (Value.map [("protocolVersion", .integer protocolVersion), ("requestId", .integer requestId),
      ("kind", .string kind), ("payload", payload)]).toWire

def Message.fromWire (input : List UInt8) : Except ProtocolError Message := do
  let value ← orError (invalid "invalid Bridge Value v1 message") (Value.fromWire input)
  let envelope ← exactMap value ["protocolVersion", "requestId", "kind", "payload"]
  let version ← integer (← field envelope "protocolVersion")
  if version ≠ protocolVersion then .error (invalid "unsupported protocol version")
  else do
    let requestId ← positiveId (← field envelope "requestId")
    let kind ← string (← field envelope "kind")
    let body ← MessageBody.fromValue kind (← field envelope "payload")
    Message.new requestId body

end RuntimeHost.Protocol
