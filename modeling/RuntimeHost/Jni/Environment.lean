import RuntimeHost.Foundation.Ownership
import RuntimeHost.Jni.Exports

namespace RuntimeHost.Jni

open Foundation Java Native

inductive TransportOp where
  | invoke (plugin session : UInt64) (operation : String) (input : List UInt8)
  | retainHandle (session objectId generation : UInt64)
  | releaseHandle (session objectId generation : UInt64)

def TransportOp.Answer : TransportOp → Type
  | .invoke .. => Except HostError (List UInt8)
  | _ => Except HostError Unit

inductive JValue where
  | long (value : Int64)
  | string (value : String)
  | byteArray (value : List UInt8)
  deriving DecidableEq

/-- What the native library does with the environment of its thread: on the one that an export is given, and on the one that
a Bridge call attaches to. To `enter` an operation of the library is to find out what it does this time. -/
inductive EnvOp where
  | given (op : JniOp)
  | attach
  | newString (text : String)
  | byteArrayFromSlice (bytes : List UInt8)
  | callMethod (name signature : String) (arguments : List JValue)
  | convertByteArray (bytes : List UInt8)
  | exceptionCheck
  | exceptionClear
  | enter (op : ExportOp)

def EnvOp.Answer : EnvOp → Type
  | .given op => op.Answer
  | .callMethod .. => Except Unit (Option (List UInt8))
  | .exceptionClear => Unit
  | .enter op => Prog TransportOp TransportOp.Answer op.Answer
  | _ => Bool

abbrev EnvProg := Prog EnvOp EnvOp.Answer

def clearPendingException : EnvProg Unit := do
  let pending : Bool ← .perform EnvOp.exceptionCheck
  if pending then .perform EnvOp.exceptionClear else return ()

namespace JavaBridge

def invoke (session : UInt64) (operation : String) (input : List UInt8) : EnvProg (Except HostError (List UInt8)) := do
  let attached : Bool ← .perform EnvOp.attach
  if !attached then return .error .javaBridge
  else
    let made : Bool ← .perform (EnvOp.newString operation)
    if !made then return .error .javaBridge
    else
      let made : Bool ← .perform (EnvOp.byteArrayFromSlice input)
      if !made then return .error .javaBridge
      else
        let result : Except Unit (Option (List UInt8)) ← .perform (EnvOp.callMethod "invokeBridge" "(JLjava/lang/String;[B)[B"
          [.long session.toInt64, .string operation, .byteArray input])
        match result with
        | .error () =>
          clearPendingException
          return .error .javaBridge
        | .ok none => return .error .javaBridge
        | .ok (some output) =>
          let converted : Bool ← .perform (EnvOp.convertByteArray output)
          if !converted then return .error .javaBridge else return .ok output

def handleCall (method : String) (session objectId generation : UInt64) : EnvProg (Except HostError Unit) := do
  let attached : Bool ← .perform EnvOp.attach
  if !attached then return .error .javaBridge
  else
    let result : Except Unit (Option (List UInt8)) ← .perform (EnvOp.callMethod method "(JJJ)V"
      [.long session.toInt64, .long objectId.toInt64, .long generation.toInt64])
    match result with
    | .ok _ => return .ok ()
    | .error () =>
      clearPendingException
      return .error .javaBridge

def transport : (op : TransportOp) → EnvProg op.Answer
  | .invoke _ session operation input => invoke session operation input
  | .retainHandle session objectId generation => handleCall "retainBridgeHandle" session objectId generation
  | .releaseHandle session objectId generation => handleCall "releaseBridgeHandle" session objectId generation

end JavaBridge

def throwNew (message : String) : EnvProg Throwable := do
  clearPendingException
  .perform (EnvOp.given (.throwNew message))

def onEnvironment : (op : ExportOp) → EnvProg op.Answer
  | .jni (.throwNew message) => throwNew message
  | .jni op => .perform (EnvOp.given op)
  | op => do
    let behaviour : Prog TransportOp TransportOp.Answer op.Answer ← .perform (EnvOp.enter op)
    behaviour.handle JavaBridge.transport

/-- The environment of a thread: the exception that is pending, whether a function was called that may not be called while
one is, and whether a Bridge call has left the exception of one of its conversions. -/
structure JniEnv where
  pending : Option Throwable := none
  misused : Bool := false
  spilled : Bool := false

namespace JniEnv

def used (env : JniEnv) : Bool := env.misused || env.pending.isSome

/-- A conversion that works leaves no exception, and one that does not may leave any. -/
def Converts (env : JniEnv) (worked : Bool) (pending : Option Throwable) (env' : JniEnv) (spills : Bool) : Prop :=
  (worked = true → pending = none) ∧ env' = { pending, misused := env.used, spilled := env.spilled || (spills && pending.isSome) }

def step (env : JniEnv) : (op : EnvOp) → op.Answer → JniEnv → Prop
  | .given (.throwNew message), exception, env' => JniOp.Fits (.throwNew message) exception ∧
    env' = { env with pending := some exception, misused := env.used }
  | .given .getJavaVm, worked, env' => ∃ pending, env.Converts worked pending env' false
  | .given .newGlobalRef, worked, env' => ∃ pending, env.Converts worked pending env' false
  | .given (.getString _), worked, env' => ∃ pending, env.Converts worked pending env' false
  | .given (.convertByteArray _), worked, env' => ∃ pending, env.Converts worked pending env' false
  | .given (.byteArrayFromSlice _), worked, env' => ∃ pending, env.Converts worked pending env' false
  | .attach, _, env' => env' = env
  | .newString _, worked, env' => ∃ pending, env.Converts worked pending env' true
  | .byteArrayFromSlice _, worked, env' => ∃ pending, env.Converts worked pending env' true
  | .convertByteArray _, worked, env' => ∃ pending, env.Converts worked pending env' true
  | .callMethod .., result, env' => ∃ pending, (∀ value, result = .ok value → pending = none) ∧
    env' = { env with pending, misused := env.used }
  | .exceptionCheck, pending, env' => pending = env.pending.isSome ∧ env' = env
  | .exceptionClear, _, env' => env' = { env with pending := none }
  | .enter _, _, env' => env' = env

end JniEnv

end RuntimeHost.Jni
