import RuntimeHost.Abi.Status
import RuntimeHost.Sdk.HostState

namespace RuntimeHost.Sdk

open Foundation Function Abi

abbrev SessionRef := Nat

abbrev ContextRef := Nat

/-- A session with its invocation gate and the strong count of its `Arc`. -/
structure Session where
  plugin : UInt64
  context : ContextRef
  accepting : Bool := true
  inFlight : Nat := 0
  strong : Nat := 1

inductive Outcome where
  | ok
  | err
  | panic
  deriving DecidableEq

inductive UserCall where
  | construct (context : ContextRef)
  | initializePlugin (context : ContextRef)
  | discard (context : ContextRef)
  | invoke (session : SessionRef)
  | shutdown (session : SessionRef)
  | drop (session : SessionRef)
  deriving DecidableEq

inductive SessionOp where
  | newContext
  | setInactive (context : ContextRef)
  | awaitQuiesced (context : ContextRef)
  | closeCallbacks (context : ContextRef)
  | lockSlot
  | unlockSlot
  | install (context : ContextRef) (plugin : UInt64)
  | take
  | putBack (session : SessionRef)
  | read (session : SessionRef)
  | cloneArc (session : SessionRef)
  | dropArc (session : SessionRef)
  | admitCall (session : SessionRef)
  | leave (session : SessionRef)
  | closeGate (session : SessionRef)
  | waitGate (session : SessionRef)
  | tryUnwrap (session : SessionRef)
  | beginUser (call : UserCall)
  | endUser (call : UserCall)
  | deliver (session : SessionRef)

def SessionOp.Answer : SessionOp → Type
  | .newContext => ContextRef
  | .lockSlot => Option SessionRef
  | .read _ => UInt64 × ContextRef
  | .admitCall _ => Bool
  | .tryUnwrap _ => Bool
  | .endUser _ => Outcome
  | .deliver _ => HmclStatus
  | _ => Unit

abbrev SessionProg := Prog SessionOp SessionOp.Answer

namespace SessionProg

def newContext : SessionProg ContextRef := .perform SessionOp.newContext
def setInactive (context : ContextRef) : SessionProg Unit := .perform (SessionOp.setInactive context)
def awaitQuiesced (context : ContextRef) : SessionProg Unit := .perform (SessionOp.awaitQuiesced context)
def closeCallbacks (context : ContextRef) : SessionProg Unit := .perform (SessionOp.closeCallbacks context)
def lockSlot : SessionProg (Option SessionRef) := .perform SessionOp.lockSlot
def unlockSlot : SessionProg Unit := .perform SessionOp.unlockSlot
def install (context : ContextRef) (plugin : UInt64) : SessionProg Unit :=
  .perform (SessionOp.install context plugin)
def take : SessionProg Unit := .perform SessionOp.take
def putBack (session : SessionRef) : SessionProg Unit := .perform (SessionOp.putBack session)
def read (session : SessionRef) : SessionProg (UInt64 × ContextRef) := .perform (SessionOp.read session)
def cloneArc (session : SessionRef) : SessionProg Unit := .perform (SessionOp.cloneArc session)
def dropArc (session : SessionRef) : SessionProg Unit := .perform (SessionOp.dropArc session)
def admitCall (session : SessionRef) : SessionProg Bool := .perform (SessionOp.admitCall session)
def leave (session : SessionRef) : SessionProg Unit := .perform (SessionOp.leave session)
def closeGate (session : SessionRef) : SessionProg Unit := .perform (SessionOp.closeGate session)
def waitGate (session : SessionRef) : SessionProg Unit := .perform (SessionOp.waitGate session)
def tryUnwrap (session : SessionRef) : SessionProg Bool := .perform (SessionOp.tryUnwrap session)
def beginUser (call : UserCall) : SessionProg Unit := .perform (SessionOp.beginUser call)
def endUser (call : UserCall) : SessionProg Outcome := .perform (SessionOp.endUser call)
def deliver (session : SessionRef) : SessionProg HmclStatus := .perform (SessionOp.deliver session)

end SessionProg

open SessionProg

def userCode (call : UserCall) : SessionProg Outcome := do
  beginUser call
  endUser call

def deactivateContext (context : ContextRef) : SessionProg Unit := do
  setInactive context
  awaitQuiesced context
  closeCallbacks context

/-- `initialize_inner` under its deactivation guard: the status, and whether the guard is still armed. -/
def initializeGuarded (context : ContextRef) (plugin : UInt64) : SessionProg (HmclStatus × Bool) := do
  let installed ← lockSlot
  unlockSlot
  if installed.isSome then return (.pluginError, true)
  else
    match ← userCode (.construct context) with
    | .ok =>
      match ← userCode (.initializePlugin context) with
      | .ok =>
        match ← lockSlot with
        | some _ =>
          unlockSlot
          let _ ← userCode (.discard context)
          return (.pluginError, true)
        | none =>
          install context plugin
          unlockSlot
          return (.ok, false)
      | _ =>
        let _ ← userCode (.discard context)
        return (.pluginError, true)
    | _ => return (.pluginError, true)

def initializeInner (plugin : UInt64) : SessionProg HmclStatus := do
  let context ← newContext
  let (status, armed) ← initializeGuarded context plugin
  if armed then
    deactivateContext context
    return status
  else return status

def invokeAdmitted (session : SessionRef) : SessionProg HmclStatus := do
  match ← userCode (.invoke session) with
  | .ok => deliver session
  | _ => return .pluginError

def invokeInner : SessionProg HmclStatus := do
  match ← lockSlot with
  | none =>
    unlockSlot
    return .pluginError
  | some session =>
    cloneArc session
    if ← admitCall session then
      unlockSlot
      let status ← invokeAdmitted session
      dropArc session
      leave session
      return status
    else
      dropArc session
      unlockSlot
      return .pluginError

def shutdownInner (plugin : UInt64) : SessionProg HmclStatus := do
  match ← lockSlot with
  | none =>
    unlockSlot
    return .pluginError
  | some session =>
    take
    let (owner, context) ← read session
    if owner ≠ plugin then
      putBack session
      unlockSlot
      return .invalidArgument
    else
      closeGate session
      unlockSlot
      waitGate session
      if ← tryUnwrap session then
        let stopped ← userCode (.shutdown session)
        let dropped ← userCode (.drop session)
        deactivateContext context
        if stopped = .ok ∧ dropped ≠ .panic then return .ok
        else return .pluginError
      else
        deactivateContext context
        dropArc session
        return .pluginError

/-- A call of one entry of the plugin table; `arguments` is what its checks before the first lock say. -/
inductive PluginCall where
  | initializePlugin (arguments : Except HmclStatus Unit) (plugin : UInt64)
  | invoke (arguments : Except HmclStatus Unit)
  | shutdown (arguments : Except HmclStatus Unit) (plugin : UInt64)

def PluginCall.code : PluginCall → SessionProg HmclStatus
  | .initializePlugin (.error status) _ => return status
  | .initializePlugin (.ok ()) plugin => initializeInner plugin
  | .invoke (.error status) => return status
  | .invoke (.ok ()) => invokeInner
  | .shutdown (.error status) _ => return status
  | .shutdown (.ok ()) plugin => shutdownInner plugin

inductive SessionEvent (Tid : Type) where
  | created (t : Tid) (context : ContextRef)
  | installed (t : Tid) (session : SessionRef) (plugin : UInt64)
  | checked (t : Tid) (session : SessionRef) (plugin : UInt64)
  | removed (t : Tid) (session : SessionRef)
  | admitted (t : Tid) (session : SessionRef)
  | began (t : Tid) (call : UserCall)
  | ended (t : Tid) (call : UserCall) (outcome : Outcome)
  | unwrapFailed (t : Tid) (session : SessionRef)
  | underflow (t : Tid)
  | deactivated (t : Tid) (context : ContextRef)
  | returned (t : Tid) (call : PluginCall) (status : HmclStatus)

/-- One plugin runtime with every session and context ever made for it. -/
structure Runtime (Tid : Type) where
  slot : Option SessionRef := none
  slotLock : Option Tid := none
  session : SessionRef → Session := fun _ => { plugin := 0, context := 0 }
  sessions : Nat := 0
  context : ContextRef → HostAdmission := fun _ => {}
  contexts : Nat := 0
  begun : Tid → Option PluginCall := fun _ => none
  history : List (SessionEvent Tid) := []

abbrev RuntimeConfig (Tid : Type) := Config Tid (Runtime Tid) SessionOp SessionOp.Answer PluginCall HmclStatus

namespace Runtime

variable {Tid : Type}

def log (s : Runtime Tid) (event : SessionEvent Tid) : Runtime Tid := { s with history := event :: s.history }

def setSession (s : Runtime Tid) (session : SessionRef) (f : Session → Session) : Runtime Tid :=
  { s with session := update s.session session (f (s.session session)) }

section SetSession

variable {s : Runtime Tid} {x y : SessionRef} {f : Session → Session}

@[simp] theorem setSession_slot : (s.setSession x f).slot = s.slot := rfl
@[simp] theorem setSession_sessions : (s.setSession x f).sessions = s.sessions := rfl
@[simp] theorem setSession_contexts : (s.setSession x f).contexts = s.contexts := rfl
@[simp] theorem setSession_scope : (s.setSession x f).context = s.context := rfl
@[simp] theorem setSession_history : (s.setSession x f).history = s.history := rfl

theorem setSession_plugin (kept : ∀ z, (f z).plugin = z.plugin) :
    ((s.setSession x f).session y).plugin = (s.session y).plugin := by
  by_cases here : y = x
  · subst here
    simp [setSession, kept]
  · simp [setSession, here]

theorem setSession_context (kept : ∀ z, (f z).context = z.context) :
    ((s.setSession x f).session y).context = (s.session y).context := by
  by_cases here : y = x
  · subst here
    simp [setSession, kept]
  · simp [setSession, here]

end SetSession

variable [DecidableEq Tid]

def exec (t : Tid) : (op : SessionOp) → Runtime Tid → op.Answer → Runtime Tid → Prop
  | .newContext, s, answer, s' =>
    answer = s.contexts ∧
      s' = { s with contexts := s.contexts + 1, context := update s.context s.contexts {} }.log
        (.created t s.contexts)
  | .setInactive context, s, _, s' =>
    s' = { s with context := update s.context context { s.context context with active := false } }
  | .awaitQuiesced context, s, _, s' => (s.context context).inFlight = 0 ∧ s' = s
  | .closeCallbacks context, s, _, s' => s' = s.log (.deactivated t context)
  | .lockSlot, s, answer, s' => s.slotLock = none ∧ answer = s.slot ∧ s' = { s with slotLock := some t }
  | .unlockSlot, s, _, s' => s' = { s with slotLock := none }
  | .install context plugin, s, _, s' =>
    s' = { s with
      slot := some s.sessions
      session := update s.session s.sessions { plugin, context }
      sessions := s.sessions + 1 }.log (.installed t s.sessions plugin)
  | .take, s, _, s' => s' = { s with slot := none }
  | .putBack session, s, _, s' => s' = { s with slot := some session }
  | .read session, s, answer, s' =>
    answer = ((s.session session).plugin, (s.session session).context) ∧
      s' = s.log (.checked t session (s.session session).plugin)
  | .cloneArc session, s, _, s' => s' = s.setSession session fun x => { x with strong := x.strong + 1 }
  | .dropArc session, s, _, s' => s' = s.setSession session fun x => { x with strong := x.strong - 1 }
  | .admitCall session, s, answer, s' =>
    if (s.session session).accepting ∧ (s.session session).inFlight ≠ usizeMax then
      answer = true ∧
        s' = (s.setSession session fun x => { x with inFlight := x.inFlight + 1 }).log (.admitted t session)
    else answer = false ∧ s' = s
  | .leave session, s, _, s' =>
    match (s.session session).inFlight with
    | inFlight + 1 => s' = s.setSession session fun x => { x with inFlight }
    | 0 => s' = s.log (.underflow t)
  | .closeGate session, s, _, s' =>
    s' = (s.setSession session fun x => { x with accepting := false }).log (.removed t session)
  | .waitGate session, s, _, s' => (s.session session).inFlight = 0 ∧ s' = s
  | .tryUnwrap session, s, answer, s' =>
    if (s.session session).strong = 1 then
      answer = true ∧ s' = s.setSession session fun x => { x with strong := 0 }
    else answer = false ∧ s' = s.log (.unwrapFailed t session)
  | .beginUser call, s, _, s' => s' = s.log (.began t call)
  | .endUser call, s, answer, s' => s' = s.log (.ended t call answer)
  | .deliver _, s, _, s' => s' = s

/-- Each call runs on a thread of its own. Meanwhile the users of a context come and go, as its admission lets
them: a closed context that nobody uses stays unused. -/
def system : System Tid (Runtime Tid) SessionOp SessionOp.Answer PluginCall HmclStatus where
  code := PluginCall.code
  start t call s s' := s.begun t = none ∧ s' = { s with begun := update s.begun t (some call) }
  exec := exec
  finish t call status s s' := s' = s.log (.returned t call status)
  env s s' := ∃ context inFlight, context < s.contexts ∧
    ((s.context context).active = true ∨ (s.context context).inFlight ≠ 0) ∧
    s' = { s with context := update s.context context { s.context context with inFlight } }

end Runtime

end RuntimeHost.Sdk
