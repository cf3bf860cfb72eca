import RuntimeHost.Foundation.Implementation
import RuntimeHost.Java.NativeEngine
import RuntimeHost.Native.Solo

namespace RuntimeHost.Jni

open Foundation Function Java Native

inductive JniOp where
  | getJavaVm
  | newGlobalRef
  | getString (value : String)
  | convertByteArray (bytes : List UInt8)
  | byteArrayFromSlice (bytes : List UInt8)
  | throwNew (message : String)

def JniOp.Answer : JniOp → Type
  | .throwNew _ => Throwable
  | _ => Bool

/-- The steps of an export: the virtual machine, the box of an engine behind its raw pointer, and the engine in it. -/
inductive ExportOp where
  | jni (op : JniOp)
  | intoRaw
  | asRef (handle : Int64)
  | fromRaw (handle : Int64)
  | dropBox (handle : Int64)
  | engine (handle : Int64) (op : LifecycleOp)

def ExportOp.Answer : ExportOp → Type
  | .jni op => op.Answer
  | .intoRaw => Int64
  | .engine _ op => op.Answer
  | _ => Unit

abbrev ExportProg := Prog ExportOp ExportOp.Answer

namespace ExportProg

variable {α β : Type}

def jni (op : JniOp) : ExportProg op.Answer := .perform (ExportOp.jni op)

def andThen (p : ExportProg (Except HostError α)) (next : α → ExportProg (Except HostError β)) :
    ExportProg (Except HostError β) := do
  match ← p with
  | .error error => return .error error
  | .ok value => next value

def orJavaBridge (worked : ExportProg Bool) (value : α) : ExportProg (Except HostError α) := do
  if ← worked then return .ok value else return .error .javaBridge

def javaString (value : String) : ExportProg (Except HostError String) := orJavaBridge (jni (.getString value)) value

def throwIo (error : HostError) : ExportProg Throwable := jni (.throwNew error.text)

/-- What an export returns to the virtual machine, and the exception that is pending then. -/
def jniResult (fallback : α) (action : ExportProg (Except HostError α)) : ExportProg (α × Option Throwable) := do
  match ← action with
  | .ok value => return (value, none)
  | .error error => return (fallback, some (← throwIo error))

def jniVoid (action : ExportProg (Except HostError Unit)) : ExportProg (Unit × Option Throwable) := jniResult () action

def engine (handle : Int64) : ExportProg (Except HostError Int64) := do
  if handle = 0 then return .error .engineClosed
  else
    let _ : Unit ← .perform (ExportOp.asRef handle)
    return .ok handle

def onEngine (handle : Int64) (p : NativeProg α) : ExportProg α :=
  (p.handle EngineTask.apart).handle fun op => .perform (ExportOp.engine handle op)

end ExportProg

open ExportProg

/-- The box takes its engine only after the owner of the Bridge has been captured. -/
def createEngine : ExportProg (Int64 × Option Throwable) :=
  jniResult 0 <|
    andThen (orJavaBridge (jni .getJavaVm) ()) fun () =>
    andThen (orJavaBridge (jni .newGlobalRef) ()) fun () => do
      let handle : Int64 ← .perform ExportOp.intoRaw
      return .ok handle

def checkEngineHealth (handle : Int64) : ExportProg (Bool × Option Throwable) :=
  jniResult false <| andThen (engine handle) fun _ => return .ok true

def loadEmbeddedPayload (handle : Int64) (packageRoot entrypoint : String) (pluginId session : Int64) :
    ExportProg (Int64 × Option Throwable) :=
  jniResult 0 <|
    andThen (javaString packageRoot) fun packageRoot =>
    andThen (javaString entrypoint) fun entrypoint =>
    andThen (engine handle) fun owner =>
    andThen (onEngine owner (Engine.loadPayload packageRoot entrypoint pluginId.toUInt64 session.toUInt64))
      fun payload => return .ok payload.toInt64

def enableEmbeddedPayload (handle payloadId : Int64) : ExportProg (Unit × Option Throwable) :=
  jniVoid <| andThen (engine handle) fun owner => onEngine owner (Engine.enablePayload payloadId.toUInt64)

def disableEmbeddedPayload (handle payloadId : Int64) : ExportProg (Unit × Option Throwable) :=
  jniVoid <| andThen (engine handle) fun owner => onEngine owner (Engine.disablePayload payloadId.toUInt64)

def invokeEmbeddedPayload (handle payloadId : Int64) (operation : String) (input : List UInt8) (callbackId : Int64) :
    ExportProg (List UInt8 × Option Throwable) :=
  jniResult [] <|
    andThen (javaString operation) fun operation =>
    andThen (orJavaBridge (jni (.convertByteArray input)) input) fun input =>
    andThen (engine handle) fun owner =>
    andThen (onEngine owner (Engine.invokePayload payloadId.toUInt64 operation input callbackId.toUInt64))
      fun result => orJavaBridge (jni (.byteArrayFromSlice result)) result

def unloadEmbeddedPayload (handle payloadId : Int64) : ExportProg (Unit × Option Throwable) :=
  jniVoid <| andThen (engine handle) fun owner => onEngine owner (Engine.unloadPayload payloadId.toUInt64)

def destroyEngine (handle : Int64) : ExportProg Unit := do
  if handle = 0 then return ()
  else
    let _ : Unit ← .perform (ExportOp.fromRaw handle)
    let _ ← onEngine handle Engine.close
    let _ ← onEngine handle Engine.close
    .perform (ExportOp.dropBox handle)

def thrown {α : Type} : α × Option Throwable → Except Throwable α
  | (value, none) => .ok value
  | (_, some exception) => .error exception

def jniBindings : (call : NativeCall) → ExportProg (Except Throwable call.Returns)
  | .create => return thrown (← createEngine)
  | .healthCheck handle => return thrown (← checkEngineHealth handle)
  | .loadPayload handle packageRoot entrypoint pluginId session =>
    return thrown (← loadEmbeddedPayload handle packageRoot entrypoint pluginId session)
  | .enablePayload handle payloadId => return thrown (← enableEmbeddedPayload handle payloadId)
  | .disablePayload handle payloadId => return thrown (← disableEmbeddedPayload handle payloadId)
  | .invokePayload handle payloadId operation input callbackId =>
    return thrown (← invokeEmbeddedPayload handle payloadId operation input callbackId)
  | .unloadPayload handle payloadId => return thrown (← unloadEmbeddedPayload handle payloadId)
  | .destroy handle => return .ok (← destroyEngine handle)

/-- An exception that cannot be made leaves an error of the virtual machine in its place. -/
def JniOp.Fits : (op : JniOp) → op.Answer → Prop
  | .throwNew message, exception => exception = Throwable.ioException message ∨ ∃ message, exception = Throwable.error message
  | _, _ => True

/-- The boxes by their addresses, and whether an address that held none has been used. -/
structure Boxes (Tid : Type) where
  boxes : Int64 → Option (Solo Tid) := fun _ => none
  dangled : Bool := false

namespace Boxes

variable {Tid : Type}

def exec (t : Tid) (b : Boxes Tid) : (op : ExportOp) → op.Answer → Boxes Tid → Prop
  | .jni op, answer, b' => op.Fits answer ∧ b' = b
  | .intoRaw, handle, b' => handle ≠ (0 : Int64) ∧ b.boxes handle = none ∧ b' = { b with boxes := update b.boxes handle (some {}) }
  | .asRef handle, _, b' => b' = { b with dangled := b.dangled || (b.boxes handle).isNone }
  | .fromRaw handle, _, b' => b' = { b with dangled := b.dangled || (b.boxes handle).isNone }
  | .dropBox handle, _, b' => b' = { b with
    boxes := update b.boxes handle none
    dangled := b.dangled || (b.boxes handle).isNone }
  | .engine handle op, answer, b' =>
    match b.boxes handle with
    | none => b' = { b with dangled := true }
    | some solo => ∃ solo', Solo.step t solo op answer solo' ∧ b' = { b with boxes := update b.boxes handle (some solo') }

end Boxes

/-- The steps of a method of the Java engine, with the exports spelled out. -/
inductive BoundOp where
  | java (op : JavaOp)
  | native (op : ExportOp)
  | leave (call : NativeCall) (answer : Except Throwable call.Returns)

def BoundOp.Answer : BoundOp → Type
  | .java op => op.Answer
  | .native op => op.Answer
  | .leave .. => Unit

abbrev BoundProg := Prog BoundOp BoundOp.Answer

def exported (op : ExportOp) : BoundProg op.Answer := .perform (BoundOp.native op)

def bound : (op : JavaOp) → BoundProg op.Answer
  | .leave call => do
    let answer ← (jniBindings call).handle exported
    let _ : Unit ← .perform (BoundOp.leave call answer)
    return answer
  | op => .perform (BoundOp.java op)

structure Bound (Tid : Type) where
  java : Monitored Tid := {}
  native : Boxes Tid := {}

namespace Bound

variable {Tid : Type} [DecidableEq Tid]

def exec (t : Tid) : (op : BoundOp) → Bound Tid → op.Answer → Bound Tid → Prop
  | .java op, s, answer, s' => ∃ java, Monitored.exec t op s.java answer java ∧ s' = { s with java }
  | .native op, s, answer, s' => ∃ native, s.native.exec t op answer native ∧ s' = { s with native }
  | .leave call answer, s, _, s' => ∃ java, Monitored.exec t (.leave call) s.java answer java ∧ s' = { s with java }

/-- Methods of one Java engine, in any order and on any threads, over the native library that it has loaded. The calls that
code inside a native call makes back into the same engine are left out. -/
def system (Tid : Type) [DecidableEq Tid] :
    System Tid (Bound Tid) BoundOp BoundOp.Answer JavaTask (Except Throwable JavaValue) where
  code task := task.code.handle bound
  start _ _ s s' := s' = s
  exec := exec
  finish t task result s s' := ∃ java, (Monitored.system Tid).finish t task result s.java java ∧ s' = { s with java }
  env _ _ := False

end Bound

end RuntimeHost.Jni
