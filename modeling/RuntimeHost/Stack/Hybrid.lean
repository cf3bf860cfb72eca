import RuntimeHost.Java.RuntimeEngine
import RuntimeHost.Jni.Exports

namespace RuntimeHost.Stack

open Foundation Java Native Jni

/-- The steps of a method of the router: its monitor, its fields, the embedded engine with all that is beneath it, and the
isolated payloads. -/
inductive HybridOp where
  | enterMonitor
  | exitMonitor
  | self
  | assign (self : RustRuntimeEngine)
  | embedded (op : BoundOp)
  | isolated (call : BackendCall)

def HybridOp.Answer : HybridOp → Type
  | .self => RustRuntimeEngine
  | .embedded op => op.Answer
  | .isolated call => call.Answer
  | _ => Unit

abbrev HybridProg := Prog HybridOp HybridOp.Answer

namespace HybridProg

variable {α : Type}

def self : HybridProg RustRuntimeEngine := .perform HybridOp.self
def assign (self : RustRuntimeEngine) : HybridProg Unit := .perform (HybridOp.assign self)

def embedded (p : JavaProg α) : HybridProg α := (p.handle bound).handle fun op => .perform (HybridOp.embedded op)

def synchronized (body : HybridProg α) : HybridProg α := do
  let _ : Unit ← .perform HybridOp.enterMonitor
  let result ← body
  let _ : Unit ← .perform HybridOp.exitMonitor
  return result

end HybridProg

open HybridProg

def askEmbedded (nativePayloadId : String) : (request : PayloadRequest) → HybridProg (Except Throwable request.Returns)
  | .enable => embedded (RustNativeEngine.enablePayload nativePayloadId)
  | .disable => embedded (RustNativeEngine.disablePayload nativePayloadId)
  | .invoke operation input callbackId _ => embedded (RustNativeEngine.invokePayload nativePayloadId operation input callbackId)
  | .unload => embedded (RustNativeEngine.unloadPayload nativePayloadId)

def backends : (call : BackendCall) → HybridProg call.Answer
  | .initializeEmbedded => embedded RustNativeEngine.initializeEngine
  | .healthCheckEmbedded => embedded RustNativeEngine.healthCheck
  | .loadEmbedded context => do return (← embedded (RustNativeEngine.loadPayload context)).map some
  | .ask (.embedded nativePayloadId) request => askEmbedded nativePayloadId request
  | .closeEmbedded => embedded RustNativeEngine.close
  | call => .perform (HybridOp.isolated call)

/-- The fields change under the monitor alone, so that they are read when it has been entered and written before it is left. -/
def code (task : RuntimeTask) : HybridProg (Except Throwable JavaValue) := synchronized do
  let this ← self
  let (result, this) ← (task.run this).handle backends
  assign this
  return result

/-- A router with what is beneath it; `threw` are the isolated payloads whose close has thrown. -/
structure Hybrid (Tid : Type) where
  engine : RustRuntimeEngine := {}
  monitor : Option Tid := none
  bound : Bound Tid := {}
  threw : List IsolatedRef := []

def closeThrew : (call : BackendCall) → call.Answer → List IsolatedRef
  | .closeIsolated payload, .error _ => [payload]
  | _, _ => []

namespace Hybrid

variable {Tid : Type} [DecidableEq Tid]

def exec (t : Tid) : (op : HybridOp) → Hybrid Tid → op.Answer → Hybrid Tid → Prop
  | .enterMonitor, s, _, s' => s.monitor = none ∧ s' = { s with monitor := some t }
  | .exitMonitor, s, _, s' => s' = { s with monitor := none }
  | .self, s, answer, s' => answer = s.engine ∧ s' = s
  | .assign engine, s, _, s' => s' = { s with engine }
  | .embedded op, s, answer, s' => ∃ bound, Bound.exec t op s.bound answer bound ∧ s' = { s with bound }
  | .isolated call, s, answer, s' => s' = { s with threw := closeThrew call answer ++ s.threw }

/-- Methods of one router, in any order and on any threads, over isolated payloads that may do anything. The calls that code
inside a native call, or inside an isolated payload's, makes back into the router are left out. -/
def system (Tid : Type) [DecidableEq Tid] :
    System Tid (Hybrid Tid) HybridOp HybridOp.Answer RuntimeTask (Except Throwable JavaValue) where
  code := code
  start _ _ s s' := s' = s
  exec := exec
  finish _ _ _ s s' := s' = s
  env _ _ := False

end Hybrid

end RuntimeHost.Stack
