import RuntimeHost.Foundation.Interleaving
import RuntimeHost.Native.Engine

namespace RuntimeHost.Native

open Foundation Function Abi

inductive EngineTask where
  | loadPayload (packageRoot entrypoint : String) (pluginId session : UInt64)
  | enablePayload (payloadId : UInt64)
  | disablePayload (payloadId : UInt64)
  | invokePayload (payloadId : UInt64) (operation : String) (input : List UInt8) (callback : UInt64)
  | unloadPayload (payloadId : UInt64)
  | close

inductive EngineResult where
  | payloadId (result : Except HostError UInt64)
  | output (result : Except HostError (List UInt8))
  | unit (result : Except HostError Unit)

inductive LifecycleOp where
  | engine (op : EngineOp)
  | enter (payload : Nat) (call : PluginCall)
  | leave (payload : Nat)

def LifecycleOp.Answer : LifecycleOp → Type
  | .engine op => op.Answer
  | .enter .. => Unit
  | .leave _ => PluginReturn

abbrev LifecycleProg := Prog LifecycleOp LifecycleOp.Answer

namespace EngineTask

def native : EngineTask → NativeProg EngineResult
  | .loadPayload packageRoot entrypoint pluginId session =>
    return .payloadId (← Engine.loadPayload packageRoot entrypoint pluginId session)
  | .enablePayload payloadId => return .unit (← Engine.enablePayload payloadId)
  | .disablePayload payloadId => return .unit (← Engine.disablePayload payloadId)
  | .invokePayload payloadId operation input callback =>
    return .output (← Engine.invokePayload payloadId operation input callback)
  | .unloadPayload payloadId => return .unit (← Engine.unloadPayload payloadId)
  | .close => return .unit (← Engine.close)

def apart : (op : NativeOp) → LifecycleProg op.Answer
  | .engine op => .perform (LifecycleOp.engine op)
  | .plugin payload call => do
    let _ : Unit ← .perform (LifecycleOp.enter payload call)
    .perform (LifecycleOp.leave payload)

def code (task : EngineTask) : LifecycleProg EngineResult := task.native.handle apart

end EngineTask

/-- A plugin call: the state in which it found the payload, and its status once it has returned. -/
structure Called (Tid : Type) where
  thread : Tid
  call : PluginCall
  state : PayloadState
  status : Option HmclStatus

namespace Called

variable {Tid : Type} (called : Called Tid)

def IsInitialize : Prop := ∃ pluginId session, called.call = .initializePlugin pluginId session

def IsInvoke : Prop := ∃ operation input callback, called.call = .invoke operation input callback

def IsShutdown : Prop := ∃ pluginId, called.call = .shutdown pluginId

def Succeeded : Prop := ∃ status, called.status = some status ∧ status.isOk = true

def Failed : Prop := ∃ status, called.status = some status ∧ status.isOk = false

end Called

/-- Any number of failing initialize calls, at most one that succeeds, then invoke calls of an enabled payload, then
at most one shutdown call; the newest call comes first. -/
def InOrder {Tid : Type} (calls : List (Called Tid)) : Prop :=
  ∃ shutdowns invokes initializes, calls = shutdowns ++ invokes ++ initializes ∧
    shutdowns.length ≤ 1 ∧ (∀ called ∈ shutdowns, called.IsShutdown) ∧
    (∀ called ∈ invokes, called.IsInvoke ∧ called.state = .enabled) ∧
    (∀ called ∈ initializes, called.IsInitialize) ∧ (∀ called ∈ initializes.tail, called.Failed) ∧
    (shutdowns ++ invokes ≠ [] → ∃ called, initializes.head? = some called ∧ called.Succeeded)

def Apart {Tid : Type} (calls : List (Called Tid)) : Prop := ∀ called ∈ calls.tail, called.status.isSome

inductive LifecycleEvent (Tid : Type) where
  | registered (t : Tid) (payloadId : UInt64) (payload : Nat)
  | removed (t : Tid) (payloadId : UInt64)
  | closed (t : Tid)
  | returned (t : Tid) (task : EngineTask) (result : EngineResult)

/-- The engine with the plugin calls made to each payload, and with what each operation found of them when it began. -/
structure Lifecycle (Tid : Type) where
  engines : Engines Tid := {}
  calls : Nat → List (Called Tid) := fun _ => []
  begun : Tid → Option (EngineTask × (Nat → List (Called Tid))) := fun _ => none
  history : List (LifecycleEvent Tid) := []

abbrev LifecycleConfig (Tid : Type) :=
  Config Tid (Lifecycle Tid) LifecycleOp LifecycleOp.Answer EngineTask EngineResult

namespace Lifecycle

variable {Tid : Type} [DecidableEq Tid]

def log (s : Lifecycle Tid) (event : LifecycleEvent Tid) : Lifecycle Tid :=
  { s with history := event :: s.history }

def record (t : Tid) : (op : EngineOp) → op.Answer → Lifecycle Tid → Lifecycle Tid
  | .register .., .ok payloadId, s => s.log (.registered t payloadId s.engines.allocated)
  | .remove payloadId, _, s => s.log (.removed t payloadId)
  | .drain, some _, s => s.log (.closed t)
  | _, _, s => s

def returns (t : Tid) (status : HmclStatus) : List (Called Tid) → List (Called Tid)
  | [] => []
  | called :: earlier =>
    if called.thread = t ∧ called.status = none then { called with status := some status } :: earlier
    else called :: returns t status earlier

def exec (t : Tid) : (op : LifecycleOp) → Lifecycle Tid → op.Answer → Lifecycle Tid → Prop
  | .engine op, s, answer, s' =>
    ∃ engines, s.engines.exec t op answer engines ∧ s' = { record t op answer s with engines }
  | .enter payload call, s, _, s' =>
    s' = { s with
      calls := update s.calls payload (⟨t, call, (s.engines.payload payload).state, none⟩ :: s.calls payload) }
  | .leave payload, s, answer, s' =>
    s' = { s with calls := update s.calls payload (returns t answer.status (s.calls payload)) }

def system : System Tid (Lifecycle Tid) LifecycleOp LifecycleOp.Answer EngineTask EngineResult where
  code := EngineTask.code
  start t task s s' := s.begun t = none ∧ s' = { s with begun := update s.begun t (some (task, s.calls)) }
  exec := exec
  finish t task result s s' := s' = s.log (.returned t task result)
  env _ _ := False

def ShutdownFailed (calls : List (Called Tid)) : Prop := ∃ called ∈ calls, called.IsShutdown ∧ called.Failed

end Lifecycle

end RuntimeHost.Native
