import RuntimeHost.Foundation.Interleaving
import RuntimeHost.Sdk.Value

namespace RuntimeHost.Sdk

open Foundation Function

def maxPendingCallbacks : Nat := 1024

abbrev EntryRef := Nat

inductive EntryState where
  | pending
  | complete (result : Except Error Value)
  | cancelled

structure RegistryState where
  closed : Bool := false
  nextId : UInt64 := 1
  entries : AList fun _ : UInt64 => EntryRef := ∅

structure Callback where
  id : UInt64
  entry : EntryRef
  deriving DecidableEq

structure PluginFuture where
  id : UInt64
  entry : EntryRef
  deriving DecidableEq

def unavailable : Error := ⟨.unavailable⟩
def cancelled : Error := ⟨.cancelled⟩
def callbackFailed : Error := ⟨.callbackFailed⟩

def successor (id : UInt64) : UInt64 := if id = 0xffffffffffffffff then 1 else id + 1

namespace RegistryState

def probe (registry : RegistryState) : Nat → UInt64 → Option UInt64
  | 0, _ => none
  | rounds + 1, candidate =>
    if candidate ∈ registry.entries then registry.probe rounds (successor candidate) else some candidate

def vacantId (registry : RegistryState) : Option UInt64 :=
  registry.probe (registry.entries.entries.length + 1) (if registry.nextId = 0 then 1 else registry.nextId)

/-- `pair` under the registry lock, for a freshly allocated entry. -/
def pair (registry : RegistryState) (entry : EntryRef) : Except Error (UInt64 × RegistryState) :=
  if registry.closed ∨ registry.entries.entries.length ≥ maxPendingCallbacks then .error unavailable
  else
    match registry.vacantId with
    | none => .error unavailable
    | some id =>
      .ok (id, { registry with nextId := successor id, entries := registry.entries.insert id entry })

/-- `close` under the registry lock: what it leaves and what it drains. -/
def drain (registry : RegistryState) : RegistryState × List EntryRef :=
  ({ registry with closed := true, entries := ∅ }, registry.entries.entries.map Sigma.snd)

def registered (registry : RegistryState) (id : UInt64) (entry : EntryRef) : Bool :=
  registry.entries.lookup id = some entry

def remove (registry : RegistryState) (id : UInt64) (entry : EntryRef) : RegistryState :=
  if registry.registered id entry then { registry with entries := registry.entries.erase id } else registry

variable {registry registry' : RegistryState} {id id' : UInt64} {entry entry' : EntryRef}

theorem probe_vacant {rounds : Nat} {candidate : UInt64} (found : registry.probe rounds candidate = some id) :
    id ∉ registry.entries := by
  induction rounds generalizing candidate with
  | zero => cases found
  | succ rounds ih =>
    unfold probe at found
    split at found
    · exact ih found
    · cases found
      assumption

theorem pair_eq_ok (made : registry.pair entry = .ok (id, registry')) :
    registry.closed = false ∧ id ∉ registry.entries ∧
      registry' = { registry with nextId := successor id, entries := registry.entries.insert id entry } := by
  unfold pair at made
  split at made
  · cases made
  · rename_i accepted
    split at made
    · cases made
    · rename_i found
      cases made
      exact ⟨by simp_all, probe_vacant found, rfl⟩

theorem remove_lookup (registry : RegistryState) (id : UInt64) (entry : EntryRef) (id' : UInt64)
    (entry' : EntryRef) : (registry.remove id entry).entries.lookup id' = some entry' ↔
    registry.entries.lookup id' = some entry' ∧ ¬(id' = id ∧ entry' = entry) := by
  unfold remove registered
  by_cases here : id' = id
  · subst here
    split <;> simp_all
    grind
  · split <;> simp [here, AList.lookup_erase_ne]

theorem remove_closed (registry : RegistryState) (id : UInt64) (entry : EntryRef) :
    (registry.remove id entry).closed = registry.closed := by
  unfold remove
  split <;> rfl

theorem mem_drain : entry ∈ registry.drain.2 ↔ ∃ id, registry.entries.lookup id = some entry := by
  simp only [drain, List.mem_map, ← Option.mem_def, AList.mem_lookup_iff]
  constructor
  · rintro ⟨⟨id, _⟩, present, rfl⟩
    exact ⟨id, present⟩
  · rintro ⟨id, present⟩
    exact ⟨⟨id, entry⟩, present, rfl⟩

end RegistryState

inductive FutureOp where
  | pair
  | lockEntry (entry : EntryRef)
  | unlockEntry (entry : EntryRef)
  | upgrade
  | release
  | abandon (entry : EntryRef)
  | settle (callback : Callback) (result : Except Error Value)
  | cancelEntry (entry : EntryRef)
  | remove (future : PluginFuture)
  | look (entry : EntryRef)
  | await (entry : EntryRef)
  | forget (entry : EntryRef)
  | drain

def FutureOp.Answer : FutureOp → Type
  | .pair => Except Error (Callback × PluginFuture)
  | .lockEntry _ => EntryState
  | .upgrade => Bool
  | .settle _ _ => Bool
  | .cancelEntry _ => Bool
  | .look _ => EntryState
  | .await _ => EntryState
  | .drain => List EntryRef
  | _ => Unit

abbrev FutureProg := Prog FutureOp FutureOp.Answer

namespace FutureProg

def pair : FutureProg (Except Error (Callback × PluginFuture)) := .perform FutureOp.pair
def lockEntry (entry : EntryRef) : FutureProg EntryState := .perform (FutureOp.lockEntry entry)
def unlockEntry (entry : EntryRef) : FutureProg Unit := .perform (FutureOp.unlockEntry entry)
def upgrade : FutureProg Bool := .perform FutureOp.upgrade
def release : FutureProg Unit := .perform FutureOp.release
def abandon (entry : EntryRef) : FutureProg Unit := .perform (FutureOp.abandon entry)
def settle (callback : Callback) (result : Except Error Value) : FutureProg Bool :=
  .perform (FutureOp.settle callback result)
def cancelEntry (entry : EntryRef) : FutureProg Bool := .perform (FutureOp.cancelEntry entry)
def remove (future : PluginFuture) : FutureProg Unit := .perform (FutureOp.remove future)
def look (entry : EntryRef) : FutureProg EntryState := .perform (FutureOp.look entry)
def await (entry : EntryRef) : FutureProg EntryState := .perform (FutureOp.await entry)
def forget (entry : EntryRef) : FutureProg Unit := .perform (FutureOp.forget entry)
def drain : FutureProg (List EntryRef) := .perform FutureOp.drain

end FutureProg

open FutureProg

def cancelAll : List EntryRef → FutureProg Unit
  | [] => return ()
  | entry :: entries => do
    let _ ← cancelEntry entry
    cancelAll entries

def CallbackRegistry.close : FutureProg Unit := do
  let entries ← drain
  cancelAll entries

def Callback.complete (callback : Callback) (result : Except Error Value) :
    FutureProg (Except Error Unit) := do
  match ← lockEntry callback.entry with
  | .pending =>
    if ← upgrade then
      if ← settle callback result then
        unlockEntry callback.entry
        release
        return .ok ()
      else
        release
        unlockEntry callback.entry
        return .error cancelled
    else
      abandon callback.entry
      unlockEntry callback.entry
      return .error cancelled
  | .complete _ =>
    unlockEntry callback.entry
    return .error callbackFailed
  | .cancelled =>
    unlockEntry callback.entry
    return .error cancelled

/-- What `poll` reports for an entry state: `none` is `Poll::Pending`. -/
def EntryState.report : EntryState → Option (Except Error Value)
  | .pending => none
  | .complete result => some result
  | .cancelled => some (.error Sdk.cancelled)

def PluginFuture.poll (future : PluginFuture) : FutureProg (Option (Except Error Value)) := do
  let state ← look future.entry
  return state.report

def PluginFuture.wait (future : PluginFuture) : FutureProg (Option (Except Error Value)) := do
  let state ← await future.entry
  return state.report

def PluginFuture.cancel (future : PluginFuture) : FutureProg Bool := do
  if ← cancelEntry future.entry then
    remove future
    return true
  else return false

/-- `Drop for PluginFuture`, then the release of the future's own registry reference. -/
def PluginFuture.drop (future : PluginFuture) : FutureProg Unit := do
  let _ ← future.cancel
  forget future.entry

inductive FutureCall where
  | pair
  | complete (callback : Callback) (result : Except Error Value)
  | poll (future : PluginFuture)
  | wait (future : PluginFuture)
  | cancel (future : PluginFuture)
  | drop (future : PluginFuture)
  | close

inductive FutureResult where
  | pair (made : Except Error (Callback × PluginFuture))
  | complete (outcome : Except Error Unit)
  | report (outcome : Option (Except Error Value))
  | cancel (won : Bool)
  | unit

def FutureCall.code : FutureCall → FutureProg FutureResult
  | .pair => do return .pair (← FutureProg.pair)
  | .complete callback result => do return .complete (← callback.complete result)
  | .poll future => do return .report (← future.poll)
  | .wait future => do return .report (← future.wait)
  | .cancel future => do return .cancel (← future.cancel)
  | .drop future => do
    future.drop
    return .unit
  | .close => do
    CallbackRegistry.close
    return .unit

inductive FutureEvent (Tid : Type) where
  | created (t : Tid) (callback : Callback) (future : PluginFuture)
  | settled (t : Tid) (entry : EntryRef) (state : EntryState)
  | observed (t : Tid) (entry : EntryRef) (state : EntryState)
  | returned (t : Tid) (call : FutureCall) (result : FutureResult)

/-- One registry with the entries ever made from it. `drained` is what each `close` has found in it, and `history` has the
newest event first. -/
structure Futures (Tid : Type) where
  registry : RegistryState := {}
  entry : EntryRef → EntryState := fun _ => .pending
  allocated : Nat := 0
  holder : EntryRef → Option Tid := fun _ => none
  context : Bool := true
  live : EntryRef → Bool := fun _ => false
  upgraded : List Tid := []
  drained : Tid → List EntryRef := fun _ => []
  begun : Tid → Option FutureCall := fun _ => none
  history : List (FutureEvent Tid) := []

abbrev FutureConfig (Tid : Type) := Config Tid (Futures Tid) FutureOp FutureOp.Answer FutureCall FutureResult

namespace Futures

variable {Tid : Type} [DecidableEq Tid]

def Strong (s : Futures Tid) : Prop := s.context = true ∨ (∃ entry, s.live entry = true) ∨ s.upgraded ≠ []

def log (s : Futures Tid) (event : FutureEvent Tid) : Futures Tid := { s with history := event :: s.history }

def settle (s : Futures Tid) (t : Tid) (entry : EntryRef) (state : EntryState) : Futures Tid :=
  { s with entry := update s.entry entry state }.log (.settled t entry state)

def exec (t : Tid) : (op : FutureOp) → Futures Tid → op.Answer → Futures Tid → Prop
  | .pair, s, answer, s' =>
    match s.registry.pair s.allocated with
    | .error error => answer = .error error ∧ s' = s
    | .ok (id, registry) =>
      answer = .ok (⟨id, s.allocated⟩, ⟨id, s.allocated⟩) ∧
        s' = { s with
          registry
          entry := update s.entry s.allocated .pending
          allocated := s.allocated + 1
          live := update s.live s.allocated true }.log (.created t ⟨id, s.allocated⟩ ⟨id, s.allocated⟩)
  | .lockEntry entry, s, answer, s' =>
    s.holder entry = none ∧ answer = s.entry entry ∧
      s' = { s with holder := update s.holder entry (some t) }
  | .unlockEntry entry, s, _, s' => s' = { s with holder := update s.holder entry none }
  | .upgrade, s, answer, s' =>
    (answer = true ∧ s.Strong ∧ s' = { s with upgraded := t :: s.upgraded }) ∨
      (answer = false ∧ ¬s.Strong ∧ s' = s)
  | .release, s, _, s' => s' = { s with upgraded := s.upgraded.erase t }
  | .abandon entry, s, _, s' => s' = s.settle t entry .cancelled
  | .settle callback result, s, answer, s' =>
    if s.registry.closed ∨ ¬s.registry.registered callback.id callback.entry then
      answer = false ∧ s' = s.settle t callback.entry .cancelled
    else
      answer = true ∧
        s' = { s with
          registry := { s.registry with entries := s.registry.entries.erase callback.id } }.settle
            t callback.entry (.complete result)
  | .cancelEntry entry, s, answer, s' =>
    s.holder entry = none ∧
      match s.entry entry with
      | .pending => answer = true ∧ s' = s.settle t entry .cancelled
      | state => answer = false ∧ s' = s.log (.observed t entry state)
  | .remove future, s, _, s' => s' = { s with registry := s.registry.remove future.id future.entry }
  | .look entry, s, answer, s' =>
    s.holder entry = none ∧ answer = s.entry entry ∧ s' = s.log (.observed t entry (s.entry entry))
  | .await entry, s, answer, s' =>
    s.holder entry = none ∧ (s.entry entry).report.isSome ∧ answer = s.entry entry ∧
      s' = s.log (.observed t entry (s.entry entry))
  | .forget entry, s, _, s' => s' = { s with live := update s.live entry false }
  | .drain, s, answer, s' =>
    answer = s.registry.drain.2 ∧
      s' = { s with registry := s.registry.drain.1, drained := update s.drained t s.registry.drain.2 }

/-- A callback or future is only in the hands of code after `pair` made it. -/
def Issued (history : List (FutureEvent Tid)) (id : UInt64) (entry : EntryRef) : Prop :=
  ∃ t, .created t ⟨id, entry⟩ ⟨id, entry⟩ ∈ history

def Admitted (s : Futures Tid) : FutureCall → Prop
  | .pair => s.context = true
  | .complete callback _ => Issued s.history callback.id callback.entry
  | .poll future => Issued s.history future.id future.entry
  | .wait future => Issued s.history future.id future.entry
  | .cancel future => Issued s.history future.id future.entry
  | .drop future => Issued s.history future.id future.entry
  | .close => s.context = true

/-- Each call runs on a thread of its own, so that an event's thread names the call it belongs to. -/
def system : System Tid (Futures Tid) FutureOp FutureOp.Answer FutureCall FutureResult where
  code := FutureCall.code
  start t call s s' :=
    s.begun t = none ∧ s.Admitted call ∧ s' = { s with begun := update s.begun t (some call) }
  exec := exec
  finish t call result s s' := s' = s.log (.returned t call result)
  env s s' := s' = { s with context := false }

end Futures

end RuntimeHost.Sdk
