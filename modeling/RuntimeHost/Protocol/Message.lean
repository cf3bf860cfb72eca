import RuntimeHost.Foundation.Result
import RuntimeHost.Sdk.Value

namespace RuntimeHost.Protocol

open Foundation Sdk

def protocolVersion : Int64 := 1

inductive ErrorKind where
  | interrupted
  | unexpectedEof
  | other
  deriving DecidableEq, Repr

structure IoError where
  kind : ErrorKind
  text : String
  deriving DecidableEq, Repr

inductive ProtocolError where
  | io (error : IoError)
  | invalidData (message : String)
  deriving DecidableEq, Repr

def invalid (message : String) : ProtocolError := .invalidData message

inductive MessageBody where
  | hello
  | load (packageRoot entrypoint : String) (pluginId session : UInt64)
  | enable
  | invoke (operation : String) (input : List UInt8) (callbackId : UInt64)
  | disable
  | shutdown
  | ok
  | result (output : List UInt8)
  | error (code message : String)
  | bridgeInvoke (operation : String) (input : List UInt8)
  | retainHandle (objectId generation : UInt64)
  | releaseHandle (objectId generation : UInt64)
  | callbackResult (output : List UInt8)
  | callbackError (code : String)
  deriving DecidableEq, Repr

def MessageBody.usesEvenRequestId : MessageBody → Bool
  | .bridgeInvoke .. => true
  | .retainHandle .. => true
  | .releaseHandle .. => true
  | .callbackResult .. => true
  | .callbackError .. => true
  | _ => false

def requireText (value message : String) : Except ProtocolError Unit :=
  if (trim value).isEmpty then .error (invalid message) else .ok ()

def requirePositive (identifier : UInt64) (message : String) : Except ProtocolError Unit :=
  if identifier = 0 ∨ identifier > i64Max then .error (invalid message) else .ok ()

def requireNonnegative (identifier : UInt64) (message : String) : Except ProtocolError Unit :=
  if identifier > i64Max then .error (invalid message) else .ok ()

def requireCode (code : String) : Except ProtocolError Unit :=
  if isSeparatedName (· == 0x2d) (utf8 code) then
    if (utf8 code).length > 128 then .error (invalid "error code must be lower-case kebab text")
    else .ok ()
  else .error (invalid "error code must be lower-case kebab text")

def MessageBody.validate : MessageBody → Except ProtocolError Unit
  | .hello => .ok ()
  | .enable => .ok ()
  | .disable => .ok ()
  | .shutdown => .ok ()
  | .ok => .ok ()
  | .result _ => .ok ()
  | .callbackResult _ => .ok ()
  | .load packageRoot entrypoint pluginId session => do
    requireText packageRoot "package root must not be blank"
    requireText entrypoint "entrypoint must not be blank"
    requirePositive pluginId "plugin ID must be positive"
    requirePositive session "session ID must be positive"
  | .invoke operation _ callbackId => do
    requireText operation "operation must not be blank"
    requireNonnegative callbackId "callback ID exceeds signed-64 range"
  | .error code message => do
    requireCode code
    requireText message "error message must not be blank"
    if (utf8 message).length > 4096 then .error (invalid "error message exceeds 4096 UTF-8 bytes")
    else .ok ()
  | .bridgeInvoke operation _ => requireText operation "Bridge operation must not be blank"
  | .retainHandle objectId generation => do
    requirePositive objectId "object ID must be positive"
    requirePositive generation "handle generation must be positive"
  | .releaseHandle objectId generation => do
    requirePositive objectId "object ID must be positive"
    requirePositive generation "handle generation must be positive"
  | .callbackError code => requireCode code

def checkMessage (requestId : UInt64) (body : MessageBody) : Except ProtocolError Unit :=
  if requestId = 0 ∨ requestId > i64Max then
    .error (invalid "request ID must be a positive signed-64 integer")
  else if decide (requestId % 2 = 0) ≠ body.usesEvenRequestId then
    .error (invalid "request ID belongs to the other protocol direction")
  else body.validate

structure Message where
  requestId : UInt64
  body : MessageBody
  accepted : checkMessage requestId body = .ok ()
  deriving DecidableEq

def Message.new (requestId : UInt64) (body : MessageBody) : Except ProtocolError Message :=
  match checked : checkMessage requestId body with
  | .ok () => .ok { requestId, body, accepted := checked }
  | .error error => .error error

theorem Message.new_eq_ok_iff {requestId : UInt64} {body : MessageBody} {m : Message} :
    Message.new requestId body = .ok m ↔ m.requestId = requestId ∧ m.body = body := by
  obtain ⟨id, content, accepted⟩ := m
  unfold Message.new
  split
  · simp only [Except.ok.injEq, Message.mk.injEq]
    exact ⟨fun ⟨first, second⟩ => ⟨first.symm, second.symm⟩, fun ⟨first, second⟩ => ⟨first.symm, second.symm⟩⟩
  · rename_i error rejected
    simp only [reduceCtorEq, false_iff]
    rintro ⟨rfl, rfl⟩
    rw [accepted] at rejected
    cases rejected

theorem checkMessage_eq_ok_iff {requestId : UInt64} {body : MessageBody} :
    checkMessage requestId body = .ok () ↔
      requestId ≠ 0 ∧ requestId ≤ i64Max ∧ (requestId % 2 = 0 ↔ body.usesEvenRequestId = true) ∧
        body.validate = .ok () := by
  unfold checkMessage
  split
  · rename_i outside
    simp only [reduceCtorEq, false_iff]
    rintro ⟨positive, bounded, -⟩
    rcases outside with zero | large
    · exact positive zero
    · exact absurd bounded (UInt64.not_le.mpr large)
  · rename_i inside
    simp only [not_or, UInt64.not_lt] at inside
    split
    · rename_i wrong
      simp only [reduceCtorEq, false_iff]
      rintro ⟨-, -, parity, -⟩
      exact wrong (by simp [parity])
    · rename_i right
      have parity : requestId % 2 = 0 ↔ body.usesEvenRequestId = true := by
        rw [← not_not.mp right]
        simp
      simp [inside, parity]

end RuntimeHost.Protocol
