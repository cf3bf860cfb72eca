import RuntimeHost.Foundation.Accounts
import RuntimeHost.Java.NativeEngine

namespace RuntimeHost.Java

open Foundation

structure PluginManifest where
  id : String
  version : String
  providesRuntimes : List String
  deriving DecidableEq

abbrev EngineRef := Nat
abbrev RegistrationRef := Nat

structure ProvidedRuntime where
  providerId : String
  version : String
  declarations : List String
  engine : EngineRef
  deriving DecidableEq

structure RustRuntimeHostPlugin where
  manifest : Option PluginManifest := none
  registration : Option RegistrationRef := none
  engine : Option EngineRef := none

/-- The steps of a method: the monitor of the bootstrap, its fields, its launcher and its engines. -/
inductive PluginOp where
  | enterMonitor
  | exitMonitor
  | self
  | assign (self : RustRuntimeHostPlugin)
  | manifest
  | packageDirectory
  | platform
  | openEngine (packageDirectory platform : String)
  | newProvider (provided : ProvidedRuntime)
  | register (provided : ProvidedRuntime)
  | closeRegistration (registration : RegistrationRef)
  | closeEngine (engine : EngineRef)

def PluginOp.Answer : PluginOp → Type
  | .self => RustRuntimeHostPlugin
  | .manifest => Except Throwable PluginManifest
  | .packageDirectory => Except Throwable String
  | .platform => Except Throwable String
  | .openEngine .. => Except Throwable EngineRef
  | .newProvider _ => Except Throwable ProvidedRuntime
  | .register _ => Except Throwable RegistrationRef
  | .closeRegistration _ => Except Throwable Unit
  | .closeEngine _ => Except Throwable Unit
  | _ => Unit

abbrev PluginProg := Prog PluginOp PluginOp.Answer

def Throwable.unchecked : Throwable → Prop
  | .ioException _ => False
  | _ => True

namespace PluginProg

variable {α : Type}

def self : PluginProg RustRuntimeHostPlugin := .perform PluginOp.self
def assign (self : RustRuntimeHostPlugin) : PluginProg Unit := .perform (PluginOp.assign self)
def manifest : PluginProg (Except Throwable PluginManifest) := .perform PluginOp.manifest
def packageDirectory : PluginProg (Except Throwable String) := .perform PluginOp.packageDirectory
def platform : PluginProg (Except Throwable String) := .perform PluginOp.platform
def openEngine (packageDirectory platform : String) : PluginProg (Except Throwable EngineRef) :=
  .perform (PluginOp.openEngine packageDirectory platform)
def newProvider (provided : ProvidedRuntime) : PluginProg (Except Throwable ProvidedRuntime) :=
  .perform (PluginOp.newProvider provided)
def register (provided : ProvidedRuntime) : PluginProg (Except Throwable RegistrationRef) :=
  .perform (PluginOp.register provided)
def closeRegistration (registration : RegistrationRef) : PluginProg (Except Throwable Unit) :=
  .perform (PluginOp.closeRegistration registration)
def closeEngine (engine : EngineRef) : PluginProg (Except Throwable Unit) := .perform (PluginOp.closeEngine engine)

def synchronized (body : PluginProg α) : PluginProg α := do
  let _ : Unit ← .perform PluginOp.enterMonitor
  let result ← body
  let _ : Unit ← .perform PluginOp.exitMonitor
  return result

end PluginProg

open PluginProg

namespace RustRuntimeHostPlugin

/-- The `catch` block of `load`: a checked exception of the close is only attached to the one that is thrown. -/
def rollBack (openedEngine : EngineRef) (exception : Throwable) : PluginProg (Except Throwable Unit) := do
  match ← closeEngine openedEngine with
  | .ok () | .error (.ioException _) => return .error exception
  | .error thrown => return .error thrown

def publish (loadedManifest : PluginManifest) (openedEngine : EngineRef) : PluginProg (Except Throwable Unit) := do
  match ← newProvider ⟨loadedManifest.id, loadedManifest.version, loadedManifest.providesRuntimes, openedEngine⟩ with
  | .error exception => rollBack openedEngine exception
  | .ok provider =>
    match ← register provider with
    | .error exception => rollBack openedEngine exception
    | .ok openedRegistration =>
      assign ⟨some loadedManifest, some openedRegistration, some openedEngine⟩
      return .ok ()

def load : PluginProg (Except Throwable Unit) := synchronized do
  let this ← self
  if this.registration.isSome ∨ this.engine.isSome then
    return .error (.runtimeException "Rust Runtime Host is already loaded")
  else
    match ← PluginProg.manifest with
    | .error thrown => return .error thrown
    | .ok loadedManifest =>
      match ← packageDirectory with
      | .error thrown => return .error thrown
      | .ok packageRoot =>
        match ← platform with
        | .error thrown => return .error thrown
        | .ok currentPlatform =>
          match ← openEngine packageRoot currentPlatform with
          | .error thrown => return .error thrown
          | .ok openedEngine => publish loadedManifest openedEngine

def wrapChecked : Except Throwable Unit → Except Throwable Unit
  | .error (.ioException _) => .error (.runtimeException "Failed to load the Rust Runtime Host")
  | result => result

def onLoad : PluginProg (Except Throwable Unit) := do
  return wrapChecked (← load)

/-- The first close of `onUnload`, if there is a registration: a checked exception that it throws is kept for later. -/
def unregister : Option RegistrationRef → PluginProg (Except Throwable (Option Throwable))
  | none => return .ok none
  | some closingRegistration => do
    match ← closeRegistration closingRegistration with
    | .ok () => return .ok none
    | .error (.ioException message) => return .ok (some (.ioException message))
    | .error thrown => return .error thrown

/-- The second close of `onUnload`; a further checked exception is attached to the first. -/
def closeRemaining (failure : Option Throwable) : Option EngineRef → PluginProg (Except Throwable (Option Throwable))
  | none => return .ok failure
  | some closingEngine => do
    match ← closeEngine closingEngine with
    | .ok () => return .ok failure
    | .error (.ioException message) => return .ok (failure.or (some (.ioException message)))
    | .error thrown => return .error thrown

def onUnload : PluginProg (Except Throwable Unit) := synchronized do
  let this ← self
  assign { this with registration := none, engine := none }
  match ← unregister this.registration with
  | .error thrown => return .error thrown
  | .ok failure =>
    match ← closeRemaining failure this.engine with
    | .error thrown => return .error thrown
    | .ok none => return .ok ()
    | .ok (some _) => return .error (.runtimeException "Failed to unload the Rust Runtime Host")

def getManifest (self : RustRuntimeHostPlugin) : Except Throwable PluginManifest :=
  match self.manifest with
  | none => .error (.runtimeException "Rust Runtime Host has not loaded")
  | some manifest => .ok manifest

end RustRuntimeHostPlugin

inductive PluginTask where
  | onLoad
  | onUnload

def PluginTask.code : PluginTask → PluginProg (Except Throwable Unit)
  | .onLoad => RustRuntimeHostPlugin.onLoad
  | .onUnload => RustRuntimeHostPlugin.onUnload

inductive PluginEvent where
  | opened (engine : EngineRef)
  | registered (registration : RegistrationRef) (provided : ProvidedRuntime)
  | unregistered (registration : RegistrationRef) (result : Except Throwable Unit)
  | closed (engine : EngineRef) (result : Except Throwable Unit)

namespace PluginEvent

def opens : PluginEvent → Option EngineRef
  | .opened engine => some engine
  | _ => none

def closes : PluginEvent → Option EngineRef
  | .closed engine _ => some engine
  | _ => none

def registers : PluginEvent → Option RegistrationRef
  | .registered registration _ => some registration
  | _ => none

def unregisters : PluginEvent → Option RegistrationRef
  | .unregistered registration _ => some registration
  | _ => none

end PluginEvent

/-- The bootstrap, its monitor, and the events so far, the newest first. -/
structure Bootstrap (Tid : Type) where
  plugin : RustRuntimeHostPlugin := {}
  monitor : Option Tid := none
  events : List PluginEvent := []

abbrev BootstrapConfig (Tid : Type) := Config Tid (Bootstrap Tid) PluginOp PluginOp.Answer PluginTask (Except Throwable Unit)

namespace Bootstrap

variable {Tid : Type} [DecidableEq Tid]

/-- A method without a `throws` clause throws nothing that is checked. -/
def ThrowsUnchecked {α : Type} (answer : Except Throwable α) : Prop := ∀ thrown, answer = .error thrown → thrown.unchecked

/-- Every engine and every registration that is handed out is a new one; a constructor that returns has kept its arguments. -/
def exec (t : Tid) : (op : PluginOp) → Bootstrap Tid → op.Answer → Bootstrap Tid → Prop
  | .enterMonitor, s, _, s' => s.monitor = none ∧ s' = { s with monitor := some t }
  | .exitMonitor, s, _, s' => s' = { s with monitor := none }
  | .self, s, answer, s' => answer = s.plugin ∧ s' = s
  | .assign plugin, s, _, s' => s' = { s with plugin }
  | .manifest, s, answer, s' => ThrowsUnchecked answer ∧ s' = s
  | .packageDirectory, s, answer, s' => ThrowsUnchecked answer ∧ s' = s
  | .platform, s, answer, s' => ThrowsUnchecked answer ∧ s' = s
  | .openEngine _ _, s, answer, s' => match answer with
    | .error _ => s' = s
    | .ok (engine : EngineRef) => engine ∉ s.events.filterMap PluginEvent.opens ∧
      s' = { s with events := .opened engine :: s.events }
  | .newProvider provided, s, answer, s' => ThrowsUnchecked answer ∧ (∀ provider, answer = .ok provider → provider = provided) ∧
    s' = s
  | .register provided, s, answer, s' => match answer with
    | .error thrown => thrown.unchecked ∧ s' = s
    | .ok (registration : RegistrationRef) => registration ∉ s.events.filterMap PluginEvent.registers ∧
      s' = { s with events := .registered registration provided :: s.events }
  | .closeRegistration registration, s, answer, s' => s' = { s with events := .unregistered registration answer :: s.events }
  | .closeEngine engine, s, answer, s' => s' = { s with events := .closed engine answer :: s.events }

/-- `onLoad` and `onUnload` of one bootstrap, in any order and on any threads; a registration that closes into the plugin again
is left out. -/
def system (Tid : Type) [DecidableEq Tid] :
    System Tid (Bootstrap Tid) PluginOp PluginOp.Answer PluginTask (Except Throwable Unit) where
  code := PluginTask.code
  start _ _ s s' := s' = s
  exec := exec
  finish _ _ _ s s' := s' = s
  env _ _ := False

end Bootstrap

/-- The registration that gives the engine to the launcher threw something unchecked when it was closed, and so the engine
never was. -/
def Stranded (events : List PluginEvent) (engine : EngineRef) : Prop :=
  ∃ registration provided thrown, .registered registration provided ∈ events ∧ provided.engine = engine ∧
    .unregistered registration (.error thrown) ∈ events ∧ thrown.unchecked

/-- An engine is closed only after the registration that gives it to the launcher, if there is one. -/
def ClosedLast (earlier : List PluginEvent) : PluginEvent → Prop
  | .closed engine _ => ∀ registration provided, .registered registration provided ∈ earlier → provided.engine = engine →
    registration ∈ earlier.filterMap PluginEvent.unregisters
  | _ => True

/-- A bootstrap is empty, or it holds an engine and the one registration that gives it to the launcher, under the name of the
manifest it has kept. -/
inductive Published (events : List PluginEvent) : RustRuntimeHostPlugin → Prop where
  | unloaded (manifest : Option PluginManifest) : Published events ⟨manifest, none, none⟩
  | loaded (manifest : PluginManifest) (registration : RegistrationRef) (engine : EngineRef)
    (listed : .registered registration ⟨manifest.id, manifest.version, manifest.providesRuntimes, engine⟩ ∈ events)
    (alone : ∀ other provided, .registered other provided ∈ events → provided.engine = engine → other = registration) :
    Published events ⟨some manifest, some registration, some engine⟩

/-- What a bootstrap has done with its engines and its registrations. -/
structure PluginLedger {Tid : Type} (s : Bootstrap Tid) : Prop where
  closedOnce : (s.events.filterMap PluginEvent.closes).Nodup
  unregisteredOnce : (s.events.filterMap PluginEvent.unregisters).Nodup
  inOrder : Legal ClosedLast s.events
  engines : s.monitor = none → Accounts PluginEvent.opens PluginEvent.closes Stranded s.plugin.engine s.events
  registrations : s.monitor = none →
    Accounts PluginEvent.registers PluginEvent.unregisters (fun _ _ => False) s.plugin.registration s.events
  published : s.monitor = none → Published s.events s.plugin
  named : s.monitor = none → s.events.filterMap PluginEvent.registers ≠ [] → ∃ manifest, s.plugin.getManifest = .ok manifest

end RuntimeHost.Java
