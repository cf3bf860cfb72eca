import RuntimeHost.Native.Lifecycle

namespace RuntimeHost.Native

open Foundation Function System Abi

variable {Tid : Type}

section Calls

variable {called : Called Tid} {calls earlier : List (Called Tid)} {state : PayloadState}

theorem Called.IsShutdown.not_initialize (shutdown : called.IsShutdown) : ¬called.IsInitialize := by
  obtain ⟨pluginId, shutdown⟩ := shutdown
  rintro ⟨pluginId', session, initialized⟩
  rw [shutdown] at initialized
  cases initialized

theorem Called.IsShutdown.not_invoke (shutdown : called.IsShutdown) : ¬called.IsInvoke := by
  obtain ⟨pluginId, shutdown⟩ := shutdown
  rintro ⟨operation, input, callback, invoked⟩
  rw [shutdown] at invoked
  cases invoked

theorem Called.Failed.returned (failed : called.Failed) : called.status.isSome := by
  obtain ⟨status, same, -⟩ := failed
  rw [same]
  rfl

theorem Called.Succeeded.returned (succeeded : called.Succeeded) : called.status.isSome := by
  obtain ⟨status, same, -⟩ := succeeded
  rw [same]
  rfl

def Unborn (calls : List (Called Tid)) : Prop := ∀ called ∈ calls, called.IsInitialize ∧ called.Failed

/-- The calls of a payload that has been initialized and not shut down. -/
inductive Live : List (Called Tid) → Prop
  | initialized {called : Called Tid} {earlier : List (Called Tid)} (initialized : called.IsInitialize)
      (succeeded : called.Succeeded) (unborn : Unborn earlier) : Live (called :: earlier)
  | invoked {called : Called Tid} {earlier : List (Called Tid)} (invoked : called.IsInvoke)
      (enabled : called.state = .enabled) (returned : called.status.isSome) (live : Live earlier) : Live (called :: earlier)

inductive Over : List (Called Tid) → Prop
  | shutdown {called : Called Tid} {earlier : List (Called Tid)} (shutdown : called.IsShutdown)
      (returned : called.status.isSome) (live : Live earlier) : Over (called :: earlier)

/-- What the state of a payload says about its calls while nobody has its lock. -/
def Settled : PayloadState → List (Called Tid) → Prop
  | .loaded, calls => Unborn calls
  | .enabled, calls => Live calls
  | .disabled, calls => Live calls
  | .shutdownFailed, calls => Over calls
  | .shutdown, calls => Unborn calls ∨ Over calls

structure Fits (calls : List (Called Tid)) : Prop where
  order : InOrder calls
  apart : Apart calls

theorem Live.returned (live : Live calls) : ∀ called ∈ calls, called.status.isSome := by
  induction live with
  | initialized _ succeeded unborn =>
    exact List.forall_mem_cons.mpr ⟨succeeded.returned, fun called old => (unborn called old).2.returned⟩
  | invoked _ _ returned _ ih => exact List.forall_mem_cons.mpr ⟨returned, ih⟩

theorem Live.shape (live : Live calls) : ∃ invokes called failing, calls = invokes ++ called :: failing ∧
    (∀ called ∈ invokes, called.IsInvoke ∧ called.state = .enabled) ∧ called.IsInitialize ∧ called.Succeeded ∧
    Unborn failing := by
  induction live with
  | initialized initialized succeeded unborn => exact ⟨[], _, _, rfl, by simp, initialized, succeeded, unborn⟩
  | @invoked called _ invoked enabled _ _ ih =>
    obtain ⟨invokes, first, failing, rfl, each, rest⟩ := ih
    exact ⟨called :: invokes, first, failing, rfl, List.forall_mem_cons.mpr ⟨⟨invoked, enabled⟩, each⟩, rest⟩

theorem Live.not_shutdown (live : Live calls) : ∀ called ∈ calls, ¬called.IsShutdown := by
  obtain ⟨invokes, first, failing, rfl, each, initialized, -, unborn⟩ := live.shape
  refine List.forall_mem_append.mpr ⟨fun called invoke shutdown => shutdown.not_invoke (each called invoke).1, ?_⟩
  exact List.forall_mem_cons.mpr
    ⟨fun shutdown => shutdown.not_initialize initialized, fun called old shutdown =>
      shutdown.not_initialize (unborn called old).1⟩

theorem Fits.initialized (unborn : Unborn earlier) (initialized : called.IsInitialize) :
    Fits (called :: earlier) := by
  refine ⟨⟨[], [], called :: earlier, rfl, by simp, by simp, by simp, ?_, fun called old => (unborn called old).2,
    fun some => absurd rfl some⟩, fun called old => (unborn called old).2.returned⟩
  exact List.forall_mem_cons.mpr ⟨initialized, fun called old => (unborn called old).1⟩

theorem Fits.invoked (live : Live earlier) (invoked : called.IsInvoke) (enabled : called.state = .enabled) :
    Fits (called :: earlier) := by
  refine ⟨?_, live.returned⟩
  obtain ⟨invokes, first, failing, rfl, each, initialized, succeeded, unborn⟩ := live.shape
  refine ⟨[], called :: invokes, first :: failing, rfl, by simp, by simp, ?_, ?_,
    fun called old => (unborn called old).2, fun _ => ⟨first, rfl, succeeded⟩⟩
  · exact List.forall_mem_cons.mpr ⟨⟨invoked, enabled⟩, each⟩
  · exact List.forall_mem_cons.mpr ⟨initialized, fun called old => (unborn called old).1⟩

theorem Fits.shutdown (live : Live earlier) (shutdown : called.IsShutdown) : Fits (called :: earlier) := by
  refine ⟨?_, live.returned⟩
  obtain ⟨invokes, first, failing, rfl, each, initialized, succeeded, unborn⟩ := live.shape
  refine ⟨[called], invokes, first :: failing, rfl, by simp, by simpa using shutdown, each, ?_,
    fun called old => (unborn called old).2, fun _ => ⟨first, rfl, succeeded⟩⟩
  exact List.forall_mem_cons.mpr ⟨initialized, fun called old => (unborn called old).1⟩

theorem Fits.nil : Fits ([] : List (Called Tid)) :=
  ⟨⟨[], [], [], rfl, by simp, by simp, by simp, by simp, by simp, by simp⟩, by simp [Apart]⟩

theorem Fits.not_shutdown (fits : Fits (called :: earlier)) : ∀ called ∈ earlier, ¬called.IsShutdown := by
  obtain ⟨shutdowns, invokes, initializes, shape, single, -, invoked, initialized, -⟩ := fits.order
  have behind : ∀ called ∈ invokes ++ initializes, ¬called.IsShutdown :=
    List.forall_mem_append.mpr ⟨fun called invoke shutdown => shutdown.not_invoke (invoked called invoke).1,
      fun called initial shutdown => shutdown.not_initialize (initialized called initial)⟩
  intro called old
  apply behind
  cases shutdowns with
  | nil =>
    rw [List.nil_append] at shape
    rw [← shape]
    exact List.mem_cons_of_mem _ old
  | cons shutdown rest =>
    have empty : rest = [] := List.eq_nil_of_length_eq_zero (by simpa using single)
    subst empty
    simp only [List.cons_append, List.nil_append, List.cons.injEq] at shape
    rw [← shape.2]
    exact old

theorem Settled.terminal (settled : Settled state calls) (failed : Lifecycle.ShutdownFailed calls) :
    state = .shutdownFailed ∨ state = .shutdown := by
  obtain ⟨called, present, shutdown, -⟩ := failed
  cases state with
  | loaded => exact absurd (settled called present).1 shutdown.not_initialize
  | enabled => exact absurd shutdown (Live.not_shutdown settled called present)
  | disabled => exact absurd shutdown (Live.not_shutdown settled called present)
  | shutdownFailed => exact .inl rfl
  | shutdown => exact .inr rfl

end Calls

/-- What a thread knows: what it found when it began, the payloads it looked up, the lookup that failed, and the
payload that it has locked with the state and the calls of that payload. -/
structure LifecycleLocal (Tid : Type) where
  call : Option (EngineTask × (Nat → List (Called Tid))) := none
  finished : Bool := false
  removed : Bool := false
  known : List (UInt64 × Nat) := []
  missed : Option UInt64 := none
  guard : Option Nat := none
  state : PayloadState := .loaded
  calls : List (Called Tid) := []

/-- Identifiers name one payload each until they are removed or the engine is closed. -/
structure Lifecycle.Registry (s : Lifecycle Tid) : Prop where
  listed : ∀ id p, s.engines.engine.payloads id = some p → ∃ t, .registered t id p ∈ s.history
  registered : ∀ t id p, .registered t id p ∈ s.history →
    id.toNat < s.engines.engine.nextPayloadId.toNat ∧ p < s.engines.allocated
  kept : ∀ t id p, .registered t id p ∈ s.history → s.engines.engine.payloads id = some p ∨
    (∃ t', .removed t' id ∈ s.history) ∨ ∃ t', .closed t' ∈ s.history
  unique : ∀ t t' id p p', .registered t id p ∈ s.history → .registered t' id p' ∈ s.history → p = p'
  closed : s.engines.engine.closed = true → ∃ t, .closed t ∈ s.history

/-- Whoever has the lock of a payload knows its state and its calls; otherwise the two agree. -/
structure Lifecycle.Locks (s : Lifecycle Tid) (L : Tid → LifecycleLocal Tid) : Prop where
  holder : ∀ t p, s.engines.holder p = some t ↔ (L t).guard = some p
  guard : ∀ t p, (L t).guard = some p →
    p < s.engines.allocated ∧ (s.engines.payload p).state = (L t).state ∧ s.calls p = (L t).calls
  free : ∀ p, s.engines.holder p = none → Settled (s.engines.payload p).state (s.calls p)
  fits : ∀ p, Fits (s.calls p)
  unallocated : ∀ p, s.engines.allocated ≤ p → s.calls p = []

/-- Once a shutdown call has failed, the payload is not called again. -/
structure Lifecycle.Snapshots (s : Lifecycle Tid) : Prop where
  early : ∀ t task before p, s.begun t = some (task, before) → s.engines.allocated ≤ p → before p = []
  frozen : ∀ t task before p, s.begun t = some (task, before) → Lifecycle.ShutdownFailed (before p) → s.calls p = before p

/-- Why an unload has not succeeded: its lookup failed, or it found a payload whose shutdown had not failed. -/
def LifecycleLocal.Excused (l : LifecycleLocal Tid) (id : UInt64) (before : Nat → List (Called Tid)) : Prop :=
  l.missed = some id ∨ ∃ p, (id, p) ∈ l.known ∧ ¬Lifecycle.ShutdownFailed (before p)

structure Lifecycle.Threads (s : Lifecycle Tid) (L : Tid → LifecycleLocal Tid) : Prop where
  call : ∀ t, (L t).call = s.begun t
  fresh : ∀ t, s.begun t = none → L t = {}
  known : ∀ t id p, (id, p) ∈ (L t).known → ∃ t', .registered t' id p ∈ s.history
  missed : ∀ t id task before, (L t).missed = some id → s.begun t = some (task, before) →
    (∃ t', .closed t' ∈ s.history) ∨ (∃ t', t' ≠ t ∧ .removed t' id ∈ s.history) ∨
      ∀ t' p, .registered t' id p ∈ s.history → ¬Lifecycle.ShutdownFailed (before p)
  removed : ∀ t id, .removed t id ∈ s.history → (L t).removed = true
  returned : ∀ t task result, .returned t task result ∈ s.history → (L t).finished = true ∧
    ∃ before, s.begun t = some (task, before) ∧
      ∀ id, task = .unloadPayload id → result = .unit (.ok ()) ∨ (L t).Excused id before

structure Lifecycle.Inv (s : Lifecycle Tid) (L : Tid → LifecycleLocal Tid) : Prop where
  registry : s.Registry
  locks : s.Locks L
  snapshots : s.Snapshots
  threads : s.Threads L

namespace Lifecycle

variable [DecidableEq Tid] {s : Lifecycle Tid} {L : Tid → LifecycleLocal Tid} {t : Tid} {p : Nat}

omit [DecidableEq Tid] in
theorem Locks.alone (locks : s.Locks L) (held : (L t).guard = some p) (t' : Tid) (held' : (L t').guard = some p) :
    t' = t := by
  have mine := (locks.holder t p).mpr held
  rw [(locks.holder t' p).mpr held'] at mine
  exact Option.some.inj mine

theorem Locks.lock (locks : s.Locks L) (free : s.engines.holder p = none) (bound : p < s.engines.allocated)
    (empty : (L t).guard = none) :
    Locks { s with engines := { s.engines with holder := update s.engines.holder p (some t) } }
      (update L t { L t with guard := some p, state := (s.engines.payload p).state, calls := s.calls p }) := by
  have ⟨holder, guard, settled, fits, unallocated⟩ := locks
  constructor <;> try simp only [update_apply]
  all_goals grind

theorem Locks.unlock (locks : s.Locks L) (held : (L t).guard = some p)
    (settled : Settled (L t).state (L t).calls) :
    Locks { s with engines := { s.engines with holder := update s.engines.holder p none } }
      (update L t { L t with guard := none }) := by
  have ⟨holder, guard, free, fits, unallocated⟩ := locks
  have mine := (holder t p).mpr held
  have alone := locks.alone held
  constructor <;> try simp only [update_apply]
  all_goals grind

theorem Locks.set_state {state' : PayloadState} (locks : s.Locks L) (held : (L t).guard = some p) :
    Locks { s with engines := { s.engines with
        payload := update s.engines.payload p { s.engines.payload p with state := state' } } }
      (update L t { L t with state := state' }) := by
  have ⟨holder, guard, free, fits, unallocated⟩ := locks
  have mine := (holder t p).mpr held
  have alone := locks.alone held
  constructor <;> try simp only [update_apply]
  all_goals grind

theorem Locks.set_calls {calls' : List (Called Tid)} (locks : s.Locks L)
    (held : (L t).guard = some p) (fits : Fits calls') :
    Locks { s with calls := update s.calls p calls' } (update L t { L t with calls := calls' }) := by
  have ⟨holder, guard, free, fits, unallocated⟩ := locks
  have mine := (holder t p).mpr held
  have alone := locks.alone held
  constructor <;> try simp only [update_apply]
  all_goals grind

omit [DecidableEq Tid] in
theorem Locks.register {payload : EmbeddedPayload} {engine : EngineState} {history : List (LifecycleEvent Tid)}
    (locks : s.Locks L) (loaded : payload.state = .loaded) :
    Locks { s with
      engines := { s.engines with
        engine
        allocated := s.engines.allocated + 1
        payload := update s.engines.payload s.engines.allocated payload }
      history } L := by
  have ⟨holder, guard, free, fits, unallocated⟩ := locks
  constructor <;> try simp only [update_apply]
  case free =>
    intro p unheld
    split
    · rename_i same
      rw [loaded, unallocated p same.ge]
      simp [Settled, Unborn]
    · exact free p unheld
  all_goals grind

omit [DecidableEq Tid] in
theorem Registry.register {id next : UInt64} {payload : Nat → EmbeddedPayload} {loadOrder : List UInt64}
    (registry : s.Registry) (fresh : s.engines.engine.nextPayloadId = id) (later : next.toNat = id.toNat + 1) :
    Registry { s with
      engines := { s.engines with
        engine := { s.engines.engine with
          nextPayloadId := next
          payloads := update s.engines.engine.payloads id (some s.engines.allocated)
          loadOrder }
        allocated := s.engines.allocated + 1
        payload }
      history := .registered t id s.engines.allocated :: s.history } := by
  have ⟨listed, registered, kept, unique, closed⟩ := registry
  constructor <;> try simp only [update_apply]
  all_goals grind

omit [DecidableEq Tid] in
theorem Registry.remove (registry : s.Registry) (id : UInt64) :
    Registry { s with
      engines := { s.engines with engine := s.engines.engine.remove id }
      history := .removed t id :: s.history } := by
  have ⟨listed, registered, kept, unique, closed⟩ := registry
  constructor <;> try simp only [EngineState.remove, update_apply]
  all_goals grind

omit [DecidableEq Tid] in
theorem Registry.drain (registry : s.Registry) :
    Registry { s with
      engines := { s.engines with
        engine := { s.engines.engine with closed := true, loadOrder := [], payloads := fun _ => none } }
      history := .closed t :: s.history } := by
  have ⟨listed, registered, kept, unique, closed⟩ := registry
  constructor
  all_goals grind

omit [DecidableEq Tid] in
theorem Snapshots.set_calls {calls : List (Called Tid)} (snapshots : s.Snapshots)
    (quiet : ¬ShutdownFailed (s.calls p)) : Snapshots { s with calls := update s.calls p calls } := by
  refine { snapshots with frozen := fun t task before p' begun failed => ?_ }
  have same := snapshots.frozen t task before p' begun failed
  rw [← same] at failed
  rw [← same]
  by_cases here : p' = p
  · rw [here] at failed
    exact absurd failed quiet
  · exact update_of_ne here _ _

theorem Threads.frame {s' : Lifecycle Tid} {l : LifecycleLocal Tid} (threads : s.Threads L)
    (active : (L t).call.isSome) (begun : s'.begun = s.begun) (history : s'.history = s.history)
    (same : l = { L t with guard := l.guard, state := l.state, calls := l.calls }) :
    s'.Threads (update L t l) := by
  have ⟨call, fresh, known, missed, removed, returned⟩ := threads
  rw [same]
  constructor <;> simp only [update_apply, begun, history]
  all_goals grind [LifecycleLocal.Excused]

theorem Threads.learn {learnt : List (UInt64 × Nat)} (threads : s.Threads L) (active : (L t).call.isSome)
    (running : (L t).finished = false)
    (listed : ∀ id p, (id, p) ∈ learnt → ∃ t', .registered t' id p ∈ s.history) :
    s.Threads (update L t { L t with known := learnt }) := by
  have ⟨call, fresh, known, missed, removed, returned⟩ := threads
  constructor <;> simp only [update_apply]
  all_goals grind [LifecycleLocal.Excused]

/-- A lookup fails once the engine has been closed, when another thread has removed the payload, or before there is
one. -/
theorem Threads.miss {id : UInt64} {error : HostError} (threads : s.Threads L) (registry : s.Registry)
    (active : (L t).call.isSome) (running : (L t).finished = false) (unremoved : (L t).removed = false)
    (failed : s.engines.engine.payload id = .error error) :
    s.Threads (update L t { L t with missed := some id }) := by
  have ⟨call, fresh, known, missed, removed, returned⟩ := threads
  have why : (∃ t', .closed t' ∈ s.history) ∨ (∃ t', t' ≠ t ∧ .removed t' id ∈ s.history) ∨
      ∀ t' p, .registered t' id p ∉ s.history := by
    unfold EngineState.payload at failed
    split at failed
    · rename_i closed
      exact .inl (registry.closed closed)
    · have absent : s.engines.engine.payloads id = none := by
        cases there : s.engines.engine.payloads id with
        | none => rfl
        | some p =>
          rw [there] at failed
          cases failed
      have kept := registry.kept
      grind
  constructor <;> simp only [update_apply]
  all_goals grind [LifecycleLocal.Excused]

theorem Threads.remove (threads : s.Threads L) (active : (L t).call.isSome) (id : UInt64)
    (engines : Engines Tid) :
    Threads { s with engines, history := .removed t id :: s.history } (update L t { L t with removed := true }) := by
  have ⟨call, fresh, known, missed, removed, returned⟩ := threads
  constructor <;> simp only [update_apply]
  all_goals grind [LifecycleLocal.Excused]

theorem Threads.drain {learnt : List (UInt64 × Nat)} (threads : s.Threads L) (active : (L t).call.isSome)
    (running : (L t).finished = false)
    (listed : ∀ id p, (id, p) ∈ learnt → ∃ t', .registered t' id p ∈ s.history) (engines : Engines Tid) :
    Threads { s with engines, history := .closed t :: s.history } (update L t { L t with known := learnt }) := by
  have ⟨call, fresh, known, missed, removed, returned⟩ := threads
  constructor <;> simp only [update_apply]
  all_goals grind [LifecycleLocal.Excused]

omit [DecidableEq Tid] in
theorem Threads.register {id : UInt64} (threads : s.Threads L) (snapshots : s.Snapshots) (engines : Engines Tid) :
    Threads { s with engines, history := .registered t id s.engines.allocated :: s.history } L := by
  have ⟨call, fresh, known, missed, removed, returned⟩ := threads
  have uncalled : ∀ t task before, s.begun t = some (task, before) →
      ¬ShutdownFailed (before s.engines.allocated) := by
    rintro t task before begun ⟨called, present, -⟩
    rw [snapshots.early t task before _ begun le_rfl] at present
    cases present
  constructor
  all_goals grind [LifecycleLocal.Excused]

theorem Threads.finish {task : EngineTask} {result : EngineResult} {before : Nat → List (Called Tid)}
    (threads : s.Threads L) (active : (L t).call = some (task, before))
    (outcome : ∀ id, task = .unloadPayload id → result = .unit (.ok ()) ∨ (L t).Excused id before) :
    Threads (s.log (.returned t task result)) (update L t { L t with finished := true }) := by
  have ⟨call, fresh, known, missed, removed, returned⟩ := threads
  constructor <;> simp only [log, update_apply]
  all_goals grind [LifecycleLocal.Excused]

theorem Threads.begin {task : EngineTask} (threads : s.Threads L) (idle : s.begun t = none) :
    Threads { s with begun := update s.begun t (some (task, s.calls)) }
      (update L t { call := some (task, s.calls) }) := by
  have ⟨call, fresh, known, missed, removed, returned⟩ := threads
  constructor <;> simp only [update_apply]
  all_goals grind [LifecycleLocal.Excused]

theorem Snapshots.begin {task : EngineTask} (snapshots : s.Snapshots) (locks : s.Locks L) :
    Snapshots { s with begun := update s.begun t (some (task, s.calls)) } := by
  have ⟨early, frozen⟩ := snapshots
  have unallocated := locks.unallocated
  constructor <;> simp only [update_apply]
  all_goals grind

theorem Locks.begin {task : EngineTask} (locks : s.Locks L) (idle : (L t).guard = none) :
    Locks { s with begun := update s.begun t (some (task, s.calls)) }
      (update L t { call := some (task, s.calls) }) := by
  have ⟨holder, guard, free, fits, unallocated⟩ := locks
  constructor <;> try simp only [update_apply]
  all_goals grind

theorem Locks.frame {s' : Lifecycle Tid} {l : LifecycleLocal Tid} (locks : s.Locks L)
    (holders : s'.engines.holder = s.engines.holder) (payload : s'.engines.payload = s.engines.payload)
    (allocated : s'.engines.allocated = s.engines.allocated) (calls : s'.calls = s.calls)
    (same : l.guard = (L t).guard ∧ l.state = (L t).state ∧ l.calls = (L t).calls) :
    s'.Locks (update L t l) := by
  have ⟨holder, guard, free, fits, unallocated⟩ := locks
  constructor <;> simp only [update_apply, holders, payload, allocated, calls]
  all_goals grind

end Lifecycle

end RuntimeHost.Native
