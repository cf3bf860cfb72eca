import RuntimeHost.Foundation.Interleaving

namespace RuntimeHost.Java

open Foundation Function

inductive Throwable where
  | ioException (message : String)
  | runtimeException (message : String)
  | error (message : String)
  deriving DecidableEq

inductive PluginExecutionMode where
  | embedded
  | isolated
  deriving DecidableEq

def PluginExecutionMode.text : PluginExecutionMode → String
  | .embedded => "EMBEDDED"
  | .isolated => "ISOLATED"

structure RuntimePayloadContext where
  pluginId : String
  executionMode : PluginExecutionMode
  packagePath : String
  entrypoint : String
  deriving DecidableEq

structure BridgeAdapter where
  invoke : RuntimePayloadContext → String → List UInt8 → Except Throwable (List UInt8)
  retainHandle : RuntimePayloadContext → (objectId generation : Int64) → Except Throwable Unit
  releaseHandle : RuntimePayloadContext → (objectId generation : Int64) → Except Throwable Unit

def toUnsignedString (i : Int64) : String := Nat.repr i.toUInt64.toNat

def parseUnsignedLong (s : String) : Option Int64 :=
  let digits := match s.toList with
    | '+' :: rest => rest
    | chars => chars
  if digits = [] ∨ ¬digits.all Char.isDigit then none
  else if Nat.ofDigitChars 10 digits 0 < 2 ^ 64 then some (UInt64.ofNat (Nat.ofDigitChars 10 digits 0)).toInt64
  else none

theorem parse_toUnsignedString (i : Int64) : parseUnsignedLong (toUnsignedString i) = some i := by
  have digit : ∀ c ∈ Nat.toDigits 10 i.toUInt64.toNat, c.isDigit = true :=
    fun c present => Nat.isDigit_of_mem_toDigits (by decide) (by decide) present
  have chars : (toUnsignedString i).toList = Nat.toDigits 10 i.toUInt64.toNat := Nat.toList_repr
  have unsigned : (match (toUnsignedString i).toList with
      | '+' :: rest => rest
      | chars => chars) = Nat.toDigits 10 i.toUInt64.toNat := by
    rw [chars]
    split
    · rename_i rest same
      exact absurd (digit '+' (by rw [same]; exact List.mem_cons_self)) (by decide)
    · rfl
  have small : i.toUInt64.toNat < 2 ^ 64 := i.toUInt64.toNat_lt
  have nonempty : ¬(Nat.toDigits 10 i.toUInt64.toNat = [] ∨ ¬(Nat.toDigits 10 i.toUInt64.toNat).all Char.isDigit) := by
    rw [not_or, not_not, List.all_eq_true]
    exact ⟨Nat.toDigits_ne_nil, digit⟩
  unfold parseUnsignedLong
  simp only [unsigned, if_neg nonempty, Nat.ofDigitChars_ten_toDigits, if_pos small, UInt64.ofNat_toNat,
    Int64.toInt64_toUInt64]

theorem toUnsignedString_inj {i j : Int64} : toUnsignedString i = toUnsignedString j ↔ i = j := by
  refine ⟨fun same => ?_, congrArg _⟩
  have parsed := parse_toUnsignedString i
  rw [same, parse_toUnsignedString] at parsed
  exact (Option.some.inj parsed).symm

inductive NativeCall where
  | create
  | healthCheck (handle : Int64)
  | loadPayload (handle : Int64) (packageRoot entrypoint : String) (pluginId session : Int64)
  | enablePayload (handle payloadId : Int64)
  | disablePayload (handle payloadId : Int64)
  | invokePayload (handle payloadId : Int64) (operation : String) (input : List UInt8) (callbackId : Int64)
  | unloadPayload (handle payloadId : Int64)
  | destroy (handle : Int64)

def NativeCall.Returns : NativeCall → Type
  | .create => Int64
  | .healthCheck _ => Bool
  | .loadPayload .. => Int64
  | .invokePayload .. => List UInt8
  | _ => Unit

structure RustNativeEngine where
  handle : Int64 := 0
  closed : Bool := false
  payloadContexts : String → Option RuntimePayloadContext := fun _ => none
  sessionContexts : Int64 → Option RuntimePayloadContext := fun _ => none
  payloadSessions : String → Option Int64 := fun _ => none
  nextSession : Int64 := 1

/-- The steps of a method: the monitor of the engine, its fields, and the code it calls. -/
inductive JavaOp where
  | enterMonitor
  | exitMonitor
  | self
  | assign (self : RustNativeEngine)
  | resolvePath (packagePath entrypoint : String)
  | enter (call : NativeCall)
  | leave (call : NativeCall)

def JavaOp.Answer : JavaOp → Type
  | .self => RustNativeEngine
  | .resolvePath .. => Except Throwable String
  | .leave call => Except Throwable call.Returns
  | _ => Unit

abbrev JavaProg := Prog JavaOp JavaOp.Answer

namespace JavaProg

variable {α : Type}

def self : JavaProg RustNativeEngine := .perform JavaOp.self
def assign (self : RustNativeEngine) : JavaProg Unit := .perform (JavaOp.assign self)

/-- `packagePath.resolve(entrypoint).normalize()`, which throws when the entrypoint is no path. -/
def resolvePath (packagePath entrypoint : String) : JavaProg (Except Throwable String) :=
  .perform (JavaOp.resolvePath packagePath entrypoint)

def native (call : NativeCall) : JavaProg (Except Throwable call.Returns) := do
  let _ : Unit ← .perform (JavaOp.enter call)
  .perform (JavaOp.leave call)

def create : JavaProg (Except Throwable Int64) := native .create
def checkHealth (handle : Int64) : JavaProg (Except Throwable Bool) := native (.healthCheck handle)
def load (handle : Int64) (packageRoot entrypoint : String) (pluginId session : Int64) :
    JavaProg (Except Throwable Int64) :=
  native (.loadPayload handle packageRoot entrypoint pluginId session)
def enable (handle payloadId : Int64) : JavaProg (Except Throwable Unit) := native (.enablePayload handle payloadId)
def disable (handle payloadId : Int64) : JavaProg (Except Throwable Unit) := native (.disablePayload handle payloadId)
def invoke (operation : String) (input : List UInt8) (callbackId handle payloadId : Int64) :
    JavaProg (Except Throwable (List UInt8)) :=
  native (.invokePayload handle payloadId operation input callbackId)
def unload (handle payloadId : Int64) : JavaProg (Except Throwable Unit) := native (.unloadPayload handle payloadId)
def destroy (handle : Int64) : JavaProg (Except Throwable Unit) := native (.destroy handle)

def synchronized (body : JavaProg α) : JavaProg α := do
  let _ : Unit ← .perform JavaOp.enterMonitor
  let result ← body
  let _ : Unit ← .perform JavaOp.exitMonitor
  return result

end JavaProg

open JavaProg

namespace RustNativeEngine

def requireAvailable (self : RustNativeEngine) : Except Throwable Unit :=
  if self.closed ∨ self.handle = 0 then .error (.ioException "Rust Host native engine is not initialized")
  else .ok ()

def requirePayload (self : RustNativeEngine) (payloadId : String) : Except Throwable Int64 := do
  self.requireAvailable
  if (self.payloadContexts payloadId).isNone then
    .error (.ioException ("Unknown Rust payload handle: " ++ payloadId))
  else
    match parseUnsignedLong payloadId with
    | none => .error (.ioException ("Invalid Rust payload handle: " ++ payloadId))
    | some nativePayload =>
      if nativePayload ≤ 0 then .error (.ioException ("Invalid Rust payload handle: " ++ payloadId))
      else .ok nativePayload

def unknownSession (session : Int64) : Throwable :=
  .ioException ("Unknown Rust Host session: " ++ toUnsignedString session)

def requireSession (self : RustNativeEngine) (session : Int64) : Except Throwable RuntimePayloadContext :=
  match self.sessionContexts session with
  | none => .error (unknownSession session)
  | some context => .ok context

def invokeBridge (self : RustNativeEngine) (bridgeAdapter : BridgeAdapter) (session : Int64) (operation : String)
    (input : List UInt8) : Except Throwable (List UInt8) := do
  bridgeAdapter.invoke (← self.requireSession session) operation input

def retainBridgeHandle (self : RustNativeEngine) (bridgeAdapter : BridgeAdapter) (session objectId generation : Int64) :
    Except Throwable Unit := do
  bridgeAdapter.retainHandle (← self.requireSession session) objectId generation

def releaseBridgeHandle (self : RustNativeEngine) (bridgeAdapter : BridgeAdapter) (session objectId generation : Int64) :
    Except Throwable Unit := do
  bridgeAdapter.releaseHandle (← self.requireSession session) objectId generation

def initializeEngine : JavaProg (Except Throwable Unit) := synchronized do
  let this ← self
  if this.closed then return .error (.ioException "Rust Host native engine is closed")
  else if this.handle ≠ 0 then return .ok ()
  else
    match ← create with
    | .error thrown => return .error thrown
    | .ok createdHandle =>
      if createdHandle = 0 then return .error (.ioException "Rust Host native engine returned a null handle")
      else
        let this ← self
        assign { this with handle := createdHandle }
        return .ok ()

def healthCheck : JavaProg (Except Throwable Bool) := synchronized do
  let this ← self
  match this.requireAvailable with
  | .error thrown => return .error thrown
  | .ok () => checkHealth this.handle

def loadPayload (context : RuntimePayloadContext) : JavaProg (Except Throwable String) := synchronized do
  let this ← self
  match this.requireAvailable with
  | .error thrown => return .error thrown
  | .ok () =>
    if context.executionMode ≠ .embedded then
      return .error (.ioException ("Rust embedded engine cannot load execution mode: " ++ context.executionMode.text))
    else
      let session := this.nextSession
      if session ≤ 0 ∨ session = Int64.maxValue then
        return .error (.ioException "Rust Host session identifier space is exhausted")
      else
        assign { this with nextSession := session + 1 }
        match ← resolvePath context.packagePath context.entrypoint with
        | .error thrown => return .error thrown
        | .ok entrypoint =>
          let this ← self
          assign { this with sessionContexts := update this.sessionContexts session (some context) }
          match ← load this.handle context.packagePath entrypoint session session with
          | .error thrown =>
            let this ← self
            assign { this with sessionContexts := update this.sessionContexts session none }
            return .error thrown
          | .ok nativePayload =>
            let this ← self
            if nativePayload ≤ 0 then
              assign { this with sessionContexts := update this.sessionContexts session none }
              return .error (.ioException "Rust Host native engine returned an invalid payload handle")
            else
              let payloadId := toUnsignedString nativePayload
              if (this.payloadContexts payloadId).isSome then
                assign { this with sessionContexts := update this.sessionContexts session none }
                return .error (.ioException ("Rust Host native engine reused a live payload handle: " ++ payloadId))
              else
                assign { this with
                  payloadContexts := update this.payloadContexts payloadId (some context)
                  payloadSessions := update this.payloadSessions payloadId (some session) }
                return .ok payloadId

/-- A method that calls the native library with the handle of an active payload. -/
def forward {α : Type} (payloadId : String) (call : (handle nativePayload : Int64) → JavaProg (Except Throwable α)) :
    JavaProg (Except Throwable α) := synchronized do
  let this ← self
  match this.requirePayload payloadId with
  | .error thrown => return .error thrown
  | .ok nativePayload => call this.handle nativePayload

def enablePayload (payloadId : String) : JavaProg (Except Throwable Unit) :=
  forward payloadId enable

def disablePayload (payloadId : String) : JavaProg (Except Throwable Unit) :=
  forward payloadId disable

def invokePayload (payloadId operation : String) (input : List UInt8) (callbackId : Int64) :
    JavaProg (Except Throwable (List UInt8)) :=
  forward payloadId (invoke operation input callbackId)

def unloadPayload (payloadId : String) : JavaProg (Except Throwable Unit) := synchronized do
  let this ← self
  match this.requirePayload payloadId with
  | .error thrown => return .error thrown
  | .ok nativePayload =>
    match ← unload this.handle nativePayload with
    | .error thrown => return .error thrown
    | .ok () =>
      let this ← self
      assign { this with
        payloadContexts := update this.payloadContexts payloadId none
        payloadSessions := update this.payloadSessions payloadId none
        sessionContexts := match this.payloadSessions payloadId with
          | some session => update this.sessionContexts session none
          | none => this.sessionContexts }
      return .ok ()

def close : JavaProg (Except Throwable Unit) := synchronized do
  let this ← self
  if this.closed then return .ok ()
  else
    assign { this with closed := true, handle := 0 }
    match ← (if this.handle ≠ 0 then destroy this.handle else return .ok () :
      JavaProg (Except Throwable Unit)) with
    | .error thrown => return .error thrown
    | .ok () =>
      let this ← self
      assign { this with
        payloadContexts := fun _ => none
        payloadSessions := fun _ => none
        sessionContexts := fun _ => none }
      return .ok ()

end RustNativeEngine

inductive JavaTask where
  | initializeEngine
  | healthCheck
  | loadPayload (context : RuntimePayloadContext)
  | enablePayload (payloadId : String)
  | disablePayload (payloadId : String)
  | invokePayload (payloadId operation : String) (input : List UInt8) (callbackId : Int64)
  | unloadPayload (payloadId : String)
  | close

inductive JavaValue where
  | unit
  | health (ready : Bool)
  | payloadId (payloadId : String)
  | output (output : List UInt8)

def JavaTask.code : JavaTask → JavaProg (Except Throwable JavaValue)
  | .initializeEngine => return (← RustNativeEngine.initializeEngine).map fun _ => .unit
  | .healthCheck => return (← RustNativeEngine.healthCheck).map .health
  | .loadPayload context => return (← RustNativeEngine.loadPayload context).map .payloadId
  | .enablePayload payloadId => return (← RustNativeEngine.enablePayload payloadId).map fun _ => .unit
  | .disablePayload payloadId => return (← RustNativeEngine.disablePayload payloadId).map fun _ => .unit
  | .invokePayload payloadId operation input callbackId =>
    return (← RustNativeEngine.invokePayload payloadId operation input callbackId).map .output
  | .unloadPayload payloadId => return (← RustNativeEngine.unloadPayload payloadId).map fun _ => .unit
  | .close => return (← RustNativeEngine.close).map fun _ => .unit

inductive NativeEvent where
  | started (call : NativeCall)
  | ended (call : NativeCall) (answer : Except Throwable call.Returns)

/-- A method that has returned, with the fields as it found them and as it left them. -/
structure Returned where
  task : JavaTask
  result : Except Throwable JavaValue
  before : RustNativeEngine
  after : RustNativeEngine

/-- The engine with its monitor, whether the thread in the monitor is in native code, the native calls so far, the
newest first, and the methods that have returned. -/
structure Monitored (Tid : Type) where
  engine : RustNativeEngine := {}
  monitor : Option Tid := none
  calling : Bool := false
  events : List NativeEvent := []
  entered : Tid → RustNativeEngine := fun _ => {}
  left : Tid → RustNativeEngine := fun _ => {}
  returned : List Returned := []

abbrev MonitoredConfig (Tid : Type) :=
  Config Tid (Monitored Tid) JavaOp JavaOp.Answer JavaTask (Except Throwable JavaValue)

namespace Monitored

variable {Tid : Type} [DecidableEq Tid]

/-- The monitor is free or not: Java would let the thread that has it in again, but the calls that code inside a native call
makes back into the same engine are left out. -/
def exec (t : Tid) : (op : JavaOp) → Monitored Tid → op.Answer → Monitored Tid → Prop
  | .enterMonitor, s, _, s' =>
    s.monitor = none ∧ s' = { s with monitor := some t, entered := update s.entered t s.engine }
  | .exitMonitor, s, _, s' => s' = { s with monitor := none, left := update s.left t s.engine }
  | .self, s, answer, s' => answer = s.engine ∧ s' = s
  | .assign engine, s, _, s' => s' = { s with engine }
  | .resolvePath _ _, s, _, s' => s' = s
  | .enter call, s, _, s' => s' = { s with calling := true, events := .started call :: s.events }
  | .leave call, s, answer, s' => s' = { s with calling := false, events := .ended call answer :: s.events }

/-- Methods of one engine, in any order and on any threads, over a native library that may do anything. -/
def system (Tid : Type) [DecidableEq Tid] :
    System Tid (Monitored Tid) JavaOp JavaOp.Answer JavaTask (Except Throwable JavaValue) where
  code := JavaTask.code
  start _ _ s s' := s' = s
  exec := exec
  finish t task result s s' :=
    s' = { s with returned := ⟨task, result, s.entered t, s.left t⟩ :: s.returned }
  env _ _ := False

/-- A session can be looked up: the monitor is free, or its owner has called native code that calls back. -/
def Observable (s : Monitored Tid) : Prop := s.monitor = none ∨ s.calling = true

end Monitored

end RuntimeHost.Java
