import RuntimeHost.Abi.Status
import RuntimeHost.Foundation.Census
import RuntimeHost.Foundation.Record
import RuntimeHost.Foundation.Typestate
import RuntimeHost.Sdk.HostState
import RuntimeHost.Sdk.Value

namespace RuntimeHost.Sdk

open Foundation Function Abi

structure HmclHandleId where
  objectId : UInt64
  generation : UInt64
  deriving DecidableEq

def HandleValue.id (value : HandleValue) : HmclHandleId := ⟨value.objectId, value.generation⟩

structure HandleCallbacks where
  retainHandle : Bool
  releaseHandle : Bool

/-- A live wrapper, with the type name of its marker type; `key` tells it from every other wrapper. -/
structure ObjectHandle where
  key : Nat
  typeName : String
  value : HandleValue
  deriving DecidableEq

/-- The steps on the leases of the context, the handle callbacks, and the wrappers. -/
inductive HandleOp where
  | host (op : HostOp)
  | enterRetain (handle : HmclHandleId)
  | leaveRetain (handle : HmclHandleId)
  | enterRelease (key : Nat) (handle : HmclHandleId)
  | leaveRelease (key : Nat) (handle : HmclHandleId)
  | adopt (typeName : String) (value : HandleValue)
  | wrap (typeName : String) (value : HandleValue)
  | recordCleanupFailure

def HandleOp.Answer : HandleOp → Type
  | .host op => op.Answer
  | .leaveRetain _ => HmclStatus
  | .leaveRelease .. => HmclStatus
  | .adopt .. => ObjectHandle
  | .wrap .. => ObjectHandle
  | _ => Unit

abbrev HandleProg := Prog HandleOp HandleOp.Answer

namespace HandleProg

def onHost {α : Type} (p : HostProg α) : HandleProg α := p.handle fun op => .perform (HandleOp.host op)

def retain (handle : HmclHandleId) : HandleProg HmclStatus := do
  let _ : Unit ← .perform (HandleOp.enterRetain handle)
  .perform (HandleOp.leaveRetain handle)

def release (key : Nat) (handle : HmclHandleId) : HandleProg HmclStatus := do
  let _ : Unit ← .perform (HandleOp.enterRelease key handle)
  .perform (HandleOp.leaveRelease key handle)

def adopt (typeName : String) (value : HandleValue) : HandleProg ObjectHandle :=
  .perform (HandleOp.adopt typeName value)
def wrap (typeName : String) (value : HandleValue) : HandleProg ObjectHandle :=
  .perform (HandleOp.wrap typeName value)
def recordCleanupFailure : HandleProg Unit := .perform HandleOp.recordCleanupFailure

end HandleProg

open HandleProg

def retainStatus (status : HmclStatus) : Except Error Unit :=
  if status.isOk then .ok () else .error ⟨.staleHandle⟩

def validateType (typeName : String) (value : HandleValue) : Except Error Unit :=
  if value.typeName ≠ typeName then .error ⟨.typeMismatch⟩ else .ok ()

namespace PluginContext

variable (table : HandleCallbacks)

def ensureReleaseHandle : HandleProg (Except Error Unit) := do
  match ← onHost HostState.lease with
  | .error error => return .error error
  | .ok () =>
    onHost HostLease.drop
    return if table.releaseHandle then .ok () else .error hostUnavailable

def ensureHandleCallbacks : HandleProg (Except Error Unit) := do
  match ← onHost HostState.lease with
  | .error error => return .error error
  | .ok () =>
    onHost HostLease.drop
    return if !table.retainHandle || !table.releaseHandle then .error hostUnavailable else .ok ()

def retainHandle (handle : HmclHandleId) : HandleProg (Except Error Unit) := do
  match ← onHost HostState.lease with
  | .error error => return .error error
  | .ok () =>
    if !table.releaseHandle || !table.retainHandle then
      onHost HostLease.drop
      return .error hostUnavailable
    else
      let status ← retain handle
      onHost HostLease.drop
      return retainStatus status

/-- Whether the drop of the wrapper `key` has a cleanup failure to record. -/
def releaseHandleForDrop (key : Nat) (handle : HmclHandleId) : HandleProg Bool := do
  match ← onHost HostState.lease with
  | .error _ => return false
  | .ok () =>
    if !table.releaseHandle then
      onHost HostLease.drop
      return true
    else
      let status ← release key handle
      onHost HostLease.drop
      return !status.isOk

end PluginContext

namespace ObjectHandle

open PluginContext

variable (table : HandleCallbacks)

def fromOwned (typeName : String) (value : HandleValue) : HandleProg (Except Error ObjectHandle) := do
  match ← ensureReleaseHandle table with
  | .error error => return .error error
  | .ok () =>
    match validateType typeName value with
    | .error error => return .error error
    | .ok () => return .ok (← adopt typeName value)

def fromBorrowed (typeName : String) (value : HandleValue) : HandleProg (Except Error ObjectHandle) := do
  match ← ensureHandleCallbacks table with
  | .error error => return .error error
  | .ok () =>
    match validateType typeName value with
    | .error error => return .error error
    | .ok () =>
      match ← retainHandle table value.id with
      | .error error => return .error error
      | .ok () => return .ok (← wrap typeName value)

def tryClone (self : ObjectHandle) : HandleProg (Except Error ObjectHandle) :=
  fromBorrowed table self.typeName self.value

def drop (self : ObjectHandle) : HandleProg Unit := do
  if ← releaseHandleForDrop table self.key self.value.id then recordCleanupFailure
  else return ()

end ObjectHandle

inductive HandleTask where
  | fromOwned (typeName : String) (value : HandleValue)
  | fromBorrowed (typeName : String) (value : HandleValue)
  | tryClone (handle : ObjectHandle)
  | drop (handle : ObjectHandle)
  | deactivate

inductive HandleResult where
  | acquired (result : Except Error ObjectHandle)
  | done

def HandleTask.code (table : HandleCallbacks) : HandleTask → HandleProg HandleResult
  | .fromOwned typeName value => return .acquired (← ObjectHandle.fromOwned table typeName value)
  | .fromBorrowed typeName value => return .acquired (← ObjectHandle.fromBorrowed table typeName value)
  | .tryClone handle => return .acquired (← handle.tryClone table)
  | .drop handle => do
    handle.drop table
    return .done
  | .deactivate => do
    onHost HostState.deactivate
    return .done

inductive HandleEvent where
  | adopted (key : Nat) (handle : HmclHandleId)
  | retained (handle : HmclHandleId) (status : HmclStatus)
  | wrapped (key : Nat) (handle : HmclHandleId)
  | released (key : Nat) (handle : HmclHandleId)
  | returned (key : Nat) (handle : HmclHandleId) (status : HmclStatus)
  | refused (key : Nat) (handle : HmclHandleId)
  deriving DecidableEq

/-- Where an operation on handles stands: the reference that is in its hands and in no wrapper, the release call that it
makes, or the failure that it has to record. -/
inductive Stand where
  | clear
  | retained (handle : HmclHandleId)
  | dropping (key : Nat) (handle : HmclHandleId)
  | releasing (key : Nat) (handle : HmclHandleId)
  | owing
  deriving DecidableEq

namespace Stand

def carries : Stand → Option HmclHandleId
  | .retained handle => some handle
  | .dropping _ handle => some handle
  | _ => none

def allows (table : HandleCallbacks) (x : Stand) : HandleOp → Prop
  | .host _ => True
  | .enterRetain _ => x = .clear
  | .leaveRetain _ => x = .clear
  | .adopt .. => x = .clear ∧ table.releaseHandle = true
  | .wrap _ value => x = .retained value.id ∧ table.releaseHandle = true
  | .enterRelease key handle => x = .dropping key handle
  | .leaveRelease key handle => x = .releasing key handle
  | .recordCleanupFailure => x = .owing ∨ table.releaseHandle = false ∧ ∃ key handle, x = .dropping key handle

def next (x : Stand) : (op : HandleOp) → op.Answer → Stand
  | .host (.takeLease _), .error _ =>
    match x with
    | .dropping .. => .clear
    | _ => x
  | .leaveRetain handle, status => if status.isOk then .retained handle else x
  | .adopt .., _ => .clear
  | .wrap .., _ => .clear
  | .enterRelease key handle, _ => .releasing key handle
  | .leaveRelease .., status => if status.isOk then .clear else .owing
  | .recordCleanupFailure, _ => .clear
  | _, _ => x

def typestate (table : HandleCallbacks) : Typestate HandleOp HandleOp.Answer Stand where
  allows := allows table
  next := next

end Stand

/-- One context with the wrappers that hold it; a thread may have any number of operations open, each begun inside of a
callback of the one below it. -/
structure Handles (Thread : Type) where
  hosts : Hosts Thread := {}
  live : List ObjectHandle := []
  wrappers : Nat := 0
  cleanupFailures : UInt64 := 0
  stands : Thread × Nat → Stand := fun _ => .clear
  events : List HandleEvent := []

namespace Handles

variable {Thread : Type} [DecidableEq Thread]

def refusal : Stand → (op : HandleOp) → op.Answer → List HandleEvent
  | .dropping key handle, .host (.takeLease _), .error _ => [.refused key handle]
  | _, _, _ => []

/-- Every lease takes a place on some stack, so there are never `usize::MAX` of them. -/
def Fits (s : Handles Thread) : HandleOp → Prop
  | .host (.takeLease _) => s.hosts.admission.inFlight < usizeMax
  | _ => True

def step (t : Thread × Nat) : (op : HandleOp) → Handles Thread → op.Answer → Handles Thread → Prop
  | .host op, s, answer, s' => ∃ hosts, s.hosts.exec t.1 op answer hosts ∧
    s' = { s with hosts, events := refusal (s.stands t) (.host op) answer ++ s.events }
  | .enterRetain _, s, _, s' => s' = s
  | .leaveRetain handle, s, status, s' => s' = { s with events := .retained handle status :: s.events }
  | .enterRelease key handle, s, _, s' => s' = { s with events := .released key handle :: s.events }
  | .leaveRelease key handle, s, status, s' => s' = { s with events := .returned key handle status :: s.events }
  | .adopt typeName value, s, answer, s' => answer = ⟨s.wrappers, typeName, value⟩ ∧
    s' = { s with
      live := answer :: s.live
      wrappers := s.wrappers + 1
      events := .adopted s.wrappers value.id :: s.events }
  | .wrap typeName value, s, answer, s' => answer = ⟨s.wrappers, typeName, value⟩ ∧
    s' = { s with
      live := answer :: s.live
      wrappers := s.wrappers + 1
      events := .wrapped s.wrappers value.id :: s.events }
  | .recordCleanupFailure, s, _, s' => s' = { s with cleanupFailures := s.cleanupFailures + 1 }

/-- A wrapper that is cloned or dropped is live, and its drop ends its life. -/
def begin (t : Thread × Nat) : HandleTask → Handles Thread → Handles Thread → Prop
  | .tryClone handle, s, s' => handle ∈ s.live ∧ s' = { s with stands := update s.stands t .clear }
  | .drop handle, s, s' => handle ∈ s.live ∧ s' = { s with
    live := s.live.erase handle
    stands := update s.stands t (.dropping handle.key handle.value.id) }
  | _, s, s' => s' = { s with stands := update s.stands t .clear }

def system (Thread : Type) [DecidableEq Thread] (table : HandleCallbacks) :
    System (Thread × Nat) (Handles Thread) HandleOp HandleOp.Answer HandleTask HandleResult where
  code := HandleTask.code table
  start := begin
  exec t op s answer s' := s.Fits op ∧ ∃ next, s.step t op answer next ∧
    s' = { next with stands := update s.stands t ((s.stands t).next op answer) }
  finish t _ _ s s' := s' = { s with stands := update s.stands t .clear }
  env _ _ := False

end Handles

section Counts

variable (handle : HmclHandleId)

def HandleEvent.adopts : HandleEvent → Bool
  | .adopted _ handle' => handle' = handle
  | _ => false

def HandleEvent.retains : HandleEvent → Bool
  | .retained handle' status => handle' = handle && status.isOk
  | _ => false

def HandleEvent.releases : HandleEvent → Bool
  | .released _ handle' => handle' = handle
  | _ => false

def HandleEvent.refuses : HandleEvent → Bool
  | .refused _ handle' => handle' = handle
  | _ => false

def HandleEvent.fails : HandleEvent → Bool
  | .returned _ _ status => !status.isOk
  | _ => false

def ObjectHandle.refersTo (self : ObjectHandle) : Bool := self.value.id = handle

def HandleEvent.made : HandleEvent → Option (Nat × HmclHandleId)
  | .adopted key handle => some (key, handle)
  | .wrapped key handle => some (key, handle)
  | _ => none

def HandleEvent.dropped : HandleEvent → Option (Nat × HmclHandleId)
  | .released key handle => some (key, handle)
  | _ => none

end Counts

/-- The references of an object are those in live wrappers and those in the hands of an operation. -/
structure Ledger {Thread : Type} (s : Handles Thread) : Prop where
  balance : ∀ handle, ∃ n, (Census n fun t => (s.stands t).carries = some handle) ∧
    s.events.countP (HandleEvent.adopts handle) + s.events.countP (HandleEvent.retains handle) =
      s.live.countP (ObjectHandle.refersTo handle) + n + s.events.countP (HandleEvent.releases handle) +
        s.events.countP (HandleEvent.refuses handle)
  failures : ∃ recorded n, (Census n fun t => s.stands t = .owing) ∧ s.cleanupFailures = UInt64.ofNat recorded ∧
    s.events.countP HandleEvent.fails = recorded + n

def Settles {Thread : Type} (s : Handles Thread) : Prop :=
  (∀ handle, s.events.countP (HandleEvent.adopts handle) + s.events.countP (HandleEvent.retains handle) =
    s.live.countP (ObjectHandle.refersTo handle) + s.events.countP (HandleEvent.releases handle) +
      s.events.countP (HandleEvent.refuses handle)) ∧
    s.cleanupFailures = UInt64.ofNat (s.events.countP HandleEvent.fails)

end RuntimeHost.Sdk
