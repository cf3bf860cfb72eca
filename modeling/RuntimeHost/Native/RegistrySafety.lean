import RuntimeHost.Native.LifecycleSafety
import RuntimeHost.Native.Registry

namespace RuntimeHost.Native

open Foundation Function System Abi

variable {Tid : Type} {s s' : Engines Tid} {t : Tid}

/-- A load fails and changes nothing, or it takes the next identifier for a new payload that can be shut down. -/
theorem Engines.register_cases {pluginId session : UInt64} {answer : Except HostError UInt64}
    (done : s.Register pluginId session answer s') :
    (∃ error, answer = .error error ∧ s' = s ∧ (s.engine.closed = true → error = .engineClosed)) ∨
      ∃ payload next, s.engine.closed = false ∧ (payload.state = .loaded ∧ payload.pluginTable.hasShutdown = true) ∧
        next.toNat = s.engine.nextPayloadId.toNat + 1 ∧ answer = .ok s.engine.nextPayloadId ∧
        s' = { s with
          engine := { s.engine with
            nextPayloadId := next
            payloads := update s.engine.payloads s.engine.nextPayloadId (some s.allocated)
            loadOrder := s.engine.loadOrder ++ [s.engine.nextPayloadId] }
          allocated := s.allocated + 1
          payload := update s.payload s.allocated payload } := by
  unfold Engines.Register at done
  split at done
  · obtain ⟨rfl, rfl⟩ := done
    exact .inl ⟨_, rfl, rfl, fun _ => rfl⟩
  · rename_i open'
    have unclosed : s.engine.closed = false := by simpa using open'
    obtain ⟨outcome, done⟩ := done
    split at done
    · obtain ⟨rfl, rfl⟩ := done
      exact .inl ⟨_, rfl, rfl, fun closed => by rw [unclosed] at closed; cases closed⟩
    · rename_i payload loaded
      unfold EngineState.register at done
      cases added : checkedAdd s.engine.nextPayloadId 1 with
      | none =>
        rw [added] at done
        obtain ⟨rfl, rfl⟩ := done
        exact .inl ⟨_, rfl, rfl, fun closed => by rw [unclosed] at closed; cases closed⟩
      | some next =>
        rw [added] at done
        obtain ⟨rfl, rfl⟩ := done
        exact .inr ⟨payload, next, unclosed, EmbeddedPayload.load_eq_ok loaded, checkedAdd_eq_some added, rfl, rfl⟩

/-- The load order lists the registered payloads, each with a plugin that can be shut down. -/
structure Engines.Ordered (s : Engines Tid) : Prop where
  ascending : s.engine.loadOrder.Pairwise (· < ·)
  keys : ∀ id, id ∈ s.engine.loadOrder ↔ (s.engine.payloads id).isSome
  below : ∀ id ∈ s.engine.loadOrder, id < s.engine.nextPayloadId
  positive : 0 < s.engine.nextPayloadId
  allocated : ∀ id p, s.engine.payloads id = some p → p < s.allocated
  tables : ∀ p, p < s.allocated → (s.payload p).pluginTable.hasShutdown = true
  closed : s.engine.closed = true → s.engine.loadOrder = []

namespace Engines.Ordered

theorem initial : Engines.Ordered ({} : Engines Tid) := by
  constructor <;> simp

theorem frame (ordered : s.Ordered) (engine : s'.engine = s.engine) (allocated : s'.allocated = s.allocated)
    (tables : ∀ p, (s'.payload p).pluginTable = (s.payload p).pluginTable) : s'.Ordered := by
  obtain ⟨ascending, keys, below, positive, known, shutdown, closed⟩ := ordered
  constructor <;> simp only [engine, allocated, tables] <;> assumption

theorem drained_map (ordered : s.Ordered) :
    s.engine.drained.map some = s.engine.loadOrder.reverse.map s.engine.payloads := by
  have listed : ∀ id ∈ s.engine.loadOrder.reverse, (s.engine.payloads id).isSome := by
    intro id present
    exact (ordered.keys id).mp (List.mem_reverse.mp present)
  unfold EngineState.drained
  generalize s.engine.loadOrder.reverse = ids at listed
  induction ids with
  | nil => rfl
  | cons id ids ih =>
    obtain ⟨p, found⟩ := Option.isSome_iff_exists.mp (listed id (.head _))
    rw [List.filterMap_cons_some found, List.map_cons, List.map_cons, found,
      ih fun id present => listed id (.tail _ present)]

theorem drained_allocated (ordered : s.Ordered) : ∀ p ∈ s.engine.drained, p < s.allocated := by
  intro p present
  obtain ⟨id, -, found⟩ := List.mem_filterMap.mp present
  exact ordered.allocated id p found

theorem empty (ordered : s.Ordered) (closed : s.engine.closed = true) (id : UInt64) :
    s.engine.payloads id = none := by
  have none := ordered.keys id
  rw [ordered.closed closed] at none
  simpa using none

theorem register (ordered : s.Ordered) {payload : EmbeddedPayload} {next : UInt64}
    (unclosed : s.engine.closed = false) (shutdown : payload.pluginTable.hasShutdown = true)
    (later : next.toNat = s.engine.nextPayloadId.toNat + 1) :
    Engines.Ordered { s with
      engine := { s.engine with
        nextPayloadId := next
        payloads := update s.engine.payloads s.engine.nextPayloadId (some s.allocated)
        loadOrder := s.engine.loadOrder ++ [s.engine.nextPayloadId] }
      allocated := s.allocated + 1
      payload := update s.payload s.allocated payload } := by
  have more : s.engine.nextPayloadId < next := by
    rw [UInt64.lt_iff_toNat_lt]
    omega
  constructor
  · simp only [List.pairwise_append, List.pairwise_singleton, List.mem_singleton, forall_eq, true_and]
    exact ⟨ordered.ascending, ordered.below⟩
  · intro id
    simp only [List.mem_append, List.mem_singleton, update_apply]
    by_cases same : id = s.engine.nextPayloadId
    · simp [same]
    · simp [same, ordered.keys]
  · intro id present
    rcases List.mem_append.mp present with old | new
    · exact UInt64.lt_trans (ordered.below id old) more
    · rw [List.mem_singleton.mp new]
      exact more
  · exact UInt64.lt_trans ordered.positive more
  · intro id p found
    simp only [update_apply] at found
    split at found
    · cases found
      exact Nat.lt_succ_self _
    · exact Nat.lt_succ_of_lt (ordered.allocated id p found)
  · intro p bound
    simp only [update_apply]
    split
    · exact shutdown
    · rename_i other
      exact ordered.tables p (Nat.lt_of_le_of_ne (Nat.le_of_lt_succ bound) other)
  · intro closed
    simp only [unclosed] at closed
    cases closed

theorem remove (ordered : s.Ordered) (id : UInt64) : Engines.Ordered { s with engine := s.engine.remove id } := by
  obtain ⟨ascending, keys, below, positive, known, shutdown, closed⟩ := ordered
  constructor <;> simp only [EngineState.remove]
  · exact ascending.filter _
  · intro id'
    by_cases same : id' = id
    · simp [same]
    · simp [same, keys]
  · intro id' present
    exact below id' (List.mem_of_mem_filter present)
  · exact positive
  · intro id' p found
    by_cases same : id' = id
    · simp [same] at found
    · simp only [update_of_ne same] at found
      exact known id' p found
  · exact shutdown
  · intro shut
    simp [closed shut]

theorem drain (ordered : s.Ordered) :
    Engines.Ordered { s with
      engine := { s.engine with closed := true, loadOrder := [], payloads := fun _ => none } } := by
  constructor <;> simp
  · exact ordered.positive
  · exact ordered.tables

end Engines.Ordered

section Events

/-- What a step does to the registry, and what its event shows of it. -/
structure Engines.Moves (s : Engines Tid) (event : EngineEvent Tid) (s' : Engines Tid) : Prop where
  ordered : s'.Ordered
  next : s.engine.nextPayloadId ≤ s'.engine.nextPayloadId
  allocated : s.allocated ≤ s'.allocated
  closed : s.engine.closed = true → s'.engine.closed = true
  issued : ∀ id, EngineEvent.issued event = some id →
    s.engine.nextPayloadId = id ∧ id < s'.engine.nextPayloadId
  drained : ∀ payloads, EngineEvent.drained event = some payloads →
    s'.engine.closed = true ∧ payloads = s.engine.drained
  shut : s.engine.closed = true → EngineEvent.Shut event

theorem Engines.Ordered.stays {event : EngineEvent Tid} (ordered : s'.Ordered)
    (next : s'.engine.nextPayloadId = s.engine.nextPayloadId) (allocated : s'.allocated = s.allocated)
    (closed : s'.engine.closed = s.engine.closed) (unissued : EngineEvent.issued event = none)
    (undrained : EngineEvent.drained event = none) (shut : s.engine.closed = true → EngineEvent.Shut event) :
    s.Moves event s' := by
  refine ⟨ordered, next.symm ▸ UInt64.le_refl _, allocated.symm.le, fun was => closed.trans was, ?_, ?_, shut⟩
  · intro id issued
    rw [unissued] at issued
    cases issued
  · intro payloads drained
    rw [undrained] at drained
    cases drained

theorem Engines.Ordered.moves {op : LifecycleOp} {answer : op.Answer} (ordered : s.Ordered)
    (done : s.execApart t op answer s') : s.Moves ⟨t, op, answer, s, s'⟩ s' := by
  have emptied : s.engine.closed = true → s.engine.loadOrder = [] ∧ ∀ id, s.engine.payloads id = none :=
    fun closed => ⟨ordered.closed closed, ordered.empty closed⟩
  cases op with
  | enter payload call =>
    cases done
    exact ordered.stays rfl rfl rfl rfl rfl fun closed => ⟨trivial, emptied closed⟩
  | leave payload =>
    cases done
    exact ordered.stays rfl rfl rfl rfl rfl fun closed => ⟨trivial, emptied closed⟩
  | engine op =>
    cases op with
    | resolveEntrypoint packageRoot entrypoint =>
      obtain ⟨-, rfl⟩ := done
      exact ordered.stays rfl rfl rfl rfl rfl fun closed => ⟨trivial, emptied closed⟩
    | register libraryPath pluginId session =>
      rcases Engines.register_cases done with ⟨error, rfl, rfl, shut⟩ |
        ⟨payload, next, unclosed, ⟨-, shutdown⟩, later, rfl, rfl⟩
      · exact ordered.stays rfl rfl rfl rfl rfl fun closed => ⟨congrArg _ (shut closed), emptied closed⟩
      · have more : s.engine.nextPayloadId < next := by
          rw [UInt64.lt_iff_toNat_lt]
          omega
        refine ⟨ordered.register unclosed shutdown later, UInt64.le_of_lt more, Nat.le_succ _, id, ?_, ?_, ?_⟩
        · intro id issued
          cases issued
          exact ⟨rfl, more⟩
        · intro payloads drained
          cases drained
        · intro closed
          rw [unclosed] at closed
          cases closed
    | payload payloadId =>
      obtain ⟨rfl, rfl⟩ := done
      refine ordered.stays rfl rfl rfl rfl rfl fun closed => ⟨?_, emptied closed⟩
      show s'.engine.payload payloadId = _
      rw [EngineState.payload, if_pos closed]
    | remove payloadId =>
      cases done
      refine (ordered.remove payloadId).stays rfl rfl rfl rfl rfl fun closed => ⟨trivial, ?_⟩
      have kept := ordered.remove payloadId
      exact ⟨kept.closed closed, kept.empty closed⟩
    | drain =>
      change if s.engine.closed then answer = none ∧ s' = s else _ at done
      split at done
      · rename_i closed
        obtain ⟨rfl, rfl⟩ := done
        exact ordered.stays rfl rfl rfl rfl rfl fun closed => ⟨rfl, emptied closed⟩
      · rename_i unclosed
        obtain ⟨rfl, rfl⟩ := done
        refine ⟨ordered.drain, UInt64.le_refl _, le_refl _, fun _ => rfl, ?_, ?_, fun closed => absurd closed unclosed⟩
        · intro id issued
          cases issued
        · intro payloads drained
          exact ⟨rfl, (Option.some.inj drained).symm⟩
    | lockPayload payload =>
      obtain ⟨-, rfl, rfl⟩ := done
      refine Engines.Ordered.stays ?_ rfl rfl rfl rfl rfl fun closed => ⟨trivial, emptied closed⟩
      exact ordered.frame rfl rfl fun _ => rfl
    | setState payload state =>
      cases done
      refine Engines.Ordered.stays ?_ rfl rfl rfl rfl rfl fun closed => ⟨trivial, emptied closed⟩
      refine ordered.frame rfl rfl fun p => ?_
      simp only [update_apply]
      split
      · rename_i same
        rw [same]
      · rfl
    | unlockPayload payload =>
      cases done
      refine Engines.Ordered.stays ?_ rfl rfl rfl rfl rfl fun closed => ⟨trivial, emptied closed⟩
      exact ordered.frame rfl rfl fun _ => rfl

structure EngineEvent.After (later earlier : EngineEvent Tid) : Prop where
  issued : ∀ id id', EngineEvent.issued earlier = some id → EngineEvent.issued later = some id' → id < id'
  shut : (EngineEvent.drained earlier).isSome → EngineEvent.Shut later
  tables : ∀ payloads, EngineEvent.drained earlier = some payloads →
    ∀ p ∈ payloads, (later.before.payload p).pluginTable.hasShutdown = true

structure RegistryInv (r : EngineRecord Tid) : Prop where
  ordered : r.state.Ordered
  issued : ∀ event ∈ r.events, ∀ id, EngineEvent.issued event = some id → 0 < id ∧ id < r.state.engine.nextPayloadId
  drained : ∀ event ∈ r.events, ∀ payloads, EngineEvent.drained event = some payloads →
    r.state.engine.closed = true ∧ payloads.map some = event.before.engine.loadOrder.reverse.map event.before.engine.payloads ∧
      ∀ p ∈ payloads, p < r.state.allocated
  after : r.events.Pairwise EngineEvent.After

theorem registryInv_reached [DecidableEq Tid] {c : EngineConfig Tid} (records : Engines.system.Records (· = {}) c) :
    RegistryInv c.state := by
  refine System.invariant RegistryInv ?_ ?_ ?_ ?_ ?_ records
  · rintro _ ⟨_, rfl, rfl⟩
    exact ⟨.initial, fun _ present => absurd present List.not_mem_nil,
      fun _ present => absurd present List.not_mem_nil, .nil⟩
  · rintro t task r _ inv ⟨s, rfl, rfl⟩
    exact { inv with }
  · rintro t op r answer _ inv ⟨s, answered, rfl⟩
    have moves := inv.ordered.moves answered
    refine ⟨moves.ordered, ?_, ?_, List.pairwise_cons.mpr ⟨fun earlier known => ⟨?_, ?_, ?_⟩, inv.after⟩⟩
    · intro event present id issued
      rcases List.mem_cons.mp present with rfl | earlier
      · obtain ⟨rfl, less⟩ := moves.issued id issued
        exact ⟨inv.ordered.positive, less⟩
      · obtain ⟨positive, less⟩ := inv.issued event earlier id issued
        exact ⟨positive, UInt64.lt_of_lt_of_le less moves.next⟩
    · intro event present payloads drained
      rcases List.mem_cons.mp present with rfl | earlier
      · obtain ⟨closed, rfl⟩ := moves.drained payloads drained
        exact ⟨closed, inv.ordered.drained_map, fun p member =>
          Nat.lt_of_lt_of_le (inv.ordered.drained_allocated p member) moves.allocated⟩
      · obtain ⟨closed, order, bound⟩ := inv.drained event earlier payloads drained
        exact ⟨moves.closed closed, order, fun p member => Nat.lt_of_lt_of_le (bound p member) moves.allocated⟩
    · intro id id' issued issued'
      rw [← (moves.issued id' issued').1]
      exact (inv.issued earlier known id issued).2
    · intro drained
      obtain ⟨payloads, same⟩ := Option.isSome_iff_exists.mp drained
      exact moves.shut (inv.drained earlier known payloads same).1
    · intro payloads drained p member
      exact inv.ordered.tables p ((inv.drained earlier known payloads drained).2.2 p member)
  · rintro t task result r _ inv ⟨s, rfl, rfl⟩
    exact { inv with }
  · rintro r _ inv ⟨s, moved, rfl⟩
    cases moved

theorem takes_locked {α : Type} {p : Nat} {method : EmbeddedPayload → NativeProg α} {events : List (EngineEvent Tid)}
    {outcome : α} (taken : ((locked p method).handle EngineTask.apart).Takes events outcome) :
    ∃ (first last : EngineEvent Tid) (middle : List (EngineEvent Tid)) (self : EmbeddedPayload),
      events = first :: (middle ++ [last]) ∧
      first.step = ⟨.engine (.lockPayload p), self⟩ ∧ ((method self).handle EngineTask.apart).Takes middle outcome ∧
      last.step = ⟨.engine (.unlockPayload p), ()⟩ := by
  obtain ⟨t, self, before, after, later, rfl, taken⟩ := taken
  change Prog.Takes ((method self >>= _).handle EngineTask.apart) later outcome at taken
  rw [Prog.handle_bind, Prog.takes_bind] at taken
  obtain ⟨middle, _, result, rfl, called, _, _, _, _, _, rfl, rfl, rfl⟩ := taken
  exact ⟨_, _, middle, self, rfl, rfl, called, rfl⟩

theorem takes_shutdownOnce {p : Nat} {self : EmbeddedPayload} {events : List (EngineEvent Tid)}
    {outcome : Except HostError Unit} (shutdown : self.pluginTable.hasShutdown = true)
    (taken : ((self.shutdownOnce p).handle EngineTask.apart).Takes events outcome) :
    ∃ returned : PluginReturn, outcome = requirePluginStatus returned.status ∧
      events.map Answered.step = [⟨.enter p (.shutdown self.pluginId), ()⟩, ⟨.leave p, returned⟩,
        ⟨.engine (.setState p (if returned.status.isOk then .shutdown else .shutdownFailed)), ()⟩] := by
  unfold EmbeddedPayload.shutdownOnce at taken
  rw [if_neg (by simp [shutdown])] at taken
  obtain ⟨_, _, _, _, _, rfl, _, returned, _, _, later, rfl, taken⟩ := taken
  refine ⟨returned, ?_⟩
  change Prog.Takes ((if returned.status.isOk then _ else _ : NativeProg (Except HostError Unit)).handle _) _ _ at taken
  unfold requirePluginStatus
  split at taken
  · rename_i ok
    obtain ⟨_, _, _, _, _, rfl, rfl, rfl⟩ := taken
    refine ⟨(if_pos ok).symm, ?_⟩
    rw [if_pos ok]
    rfl
  · rename_i failed
    obtain ⟨_, _, _, _, _, rfl, rfl, rfl⟩ := taken
    refine ⟨(if_neg failed).symm, ?_⟩
    rw [if_neg failed]
    rfl

theorem takes_forceShutdown {p : Nat} {self : EmbeddedPayload} {events : List (EngineEvent Tid)}
    {outcome : Except HostError Unit} (shutdown : self.pluginTable.hasShutdown = true)
    (taken : ((self.forceShutdown p).handle EngineTask.apart).Takes events outcome) :
    if self.state = .enabled ∨ self.state = .disabled then
      ∃ returned : PluginReturn, outcome = requirePluginStatus returned.status ∧
        events.map Answered.step = [⟨.enter p (.shutdown self.pluginId), ()⟩, ⟨.leave p, returned⟩,
          ⟨.engine (.setState p (if returned.status.isOk then .shutdown else .shutdownFailed)), ()⟩]
    else outcome = .ok () ∧ events.map Answered.step = [⟨.engine (.setState p .shutdown), ()⟩] := by
  unfold EmbeddedPayload.forceShutdown at taken
  cases state : self.state <;> simp only [state] at taken
  case enabled =>
    rw [if_pos (.inl rfl)]
    exact takes_shutdownOnce shutdown taken
  case disabled =>
    rw [if_pos (.inr rfl)]
    exact takes_shutdownOnce shutdown taken
  all_goals
    rw [if_neg (by simp)]
    obtain ⟨_, _, _, _, _, rfl, rfl, rfl⟩ := taken
    exact ⟨rfl, rfl⟩

theorem visit_of_takes {p : Nat} {events : List (EngineEvent Tid)} {outcome : Except HostError Unit}
    (taken : ((locked p (·.forceShutdown p)).handle EngineTask.apart).Takes events outcome)
    (exact : ∀ event ∈ events, Engines.execApart event.thread event.op event.before event.answer event.after)
    (tables : ∀ event ∈ events, (event.before.payload p).pluginTable.hasShutdown = true) :
    EngineEvent.Visit p events outcome := by
  obtain ⟨first, last, middle, self, rfl, locks, called, unlocks⟩ := takes_locked taken
  have shown : self = first.before.payload p := by
    have answered := exact first (.head _)
    obtain ⟨t, op, answer, before, after⟩ := first
    cases locks
    exact answered.2.1
  have shutdown : self.pluginTable.hasShutdown = true := by
    rw [shown]
    exact tables first (.head _)
  refine ⟨first, middle ++ [last], self, rfl, locks, shown, ?_⟩
  have shape := takes_forceShutdown shutdown called
  rw [List.map_append, List.map_singleton, unlocks]
  split at shape
  · rename_i live
    obtain ⟨returned, same, steps⟩ := shape
    rw [if_pos live]
    exact ⟨returned, same, by rw [steps]; rfl⟩
  · rename_i dead
    obtain ⟨same, steps⟩ := shape
    rw [if_neg dead]
    exact ⟨same, by rw [steps]; rfl⟩

theorem visits_of_takes {payloads : List Nat} {events : List (EngineEvent Tid)}
    {failure result : Option HostError}
    (taken : ((Engine.forceShutdowns payloads failure).handle EngineTask.apart).Takes events result)
    (exact : ∀ event ∈ events, Engines.execApart event.thread event.op event.before event.answer event.after)
    (tables : ∀ event ∈ events, ∀ p ∈ payloads, (event.before.payload p).pluginTable.hasShutdown = true) :
    ∃ visits : List (List (EngineEvent Tid) × Except HostError Unit),
      List.Forall₂ (fun p visit => EngineEvent.Visit p visit.1 visit.2) payloads visits ∧
        events = (visits.map Prod.fst).flatten ∧
        result = failure.or (match firstFailure (visits.map Prod.snd) with | .error error => some error | .ok () => none) := by
  induction payloads generalizing events failure with
  | nil =>
    obtain ⟨rfl, rfl⟩ := taken
    exact ⟨[], .nil, rfl, by simp [firstFailure]⟩
  | cons p payloads ih =>
    change Prog.Takes ((locked p (·.forceShutdown p) >>= _).handle EngineTask.apart) events result at taken
    rw [Prog.handle_bind, Prog.takes_bind] at taken
    obtain ⟨visit, later, outcome, rfl, visited, taken⟩ := taken
    have first := visit_of_takes visited (fun event present => exact event (List.mem_append_left _ present))
      fun event present => tables event (List.mem_append_left _ present) p (.head _)
    have exact' := fun event present => exact event (List.mem_append_right visit present)
    have tables' := fun event present q member => tables event (List.mem_append_right visit present) q (.tail _ member)
    cases outcome with
    | error error =>
      obtain ⟨visits, all, rfl, same⟩ := ih taken exact' tables'
      refine ⟨(visit, .error error) :: visits, .cons first all, rfl, ?_⟩
      rw [same]
      cases failure <;> simp [firstFailure]
    | ok =>
      obtain ⟨visits, all, rfl, same⟩ := ih taken exact' tables'
      exact ⟨(visit, .ok ()) :: visits, .cons first all, rfl, same⟩

theorem closes_of_takes {events : List (EngineEvent Tid)} {result : Except HostError Unit}
    (taken : (Engine.close.handle EngineTask.apart).Takes events result)
    (exact : ∀ event ∈ events, Engines.execApart event.thread event.op event.before event.answer event.after)
    (tables : ∀ first later payloads, events = first :: later → EngineEvent.drained first = some payloads →
      ∀ event ∈ later, ∀ p ∈ payloads, (event.before.payload p).pluginTable.hasShutdown = true) :
    Closes events result := by
  obtain ⟨t, answer, before, after, later, rfl, taken⟩ := taken
  refine ⟨_, later, rfl, rfl, ?_⟩
  change Option (List Nat) at answer
  cases answer with
  | none =>
    obtain ⟨rfl, rfl⟩ := taken
    exact ⟨rfl, rfl⟩
  | some payloads =>
    change Prog.Takes ((Engine.forceShutdowns payloads none >>= _).handle EngineTask.apart) later result at taken
    rw [Prog.handle_bind, Prog.takes_bind] at taken
    obtain ⟨visited, _, failure, rfl, visiting, taken⟩ := taken
    obtain ⟨visits, all, rfl, same⟩ := visits_of_takes visiting
      (fun event present => exact event (.tail _ (List.mem_append_left _ present)))
      fun event present => tables _ _ payloads rfl rfl event (List.mem_append_left _ present)
    rw [Option.none_or] at same
    subst same
    cases outcome : firstFailure (visits.map Prod.snd) with
    | error error =>
      rw [outcome] at taken
      obtain ⟨rfl, rfl⟩ := taken
      exact ⟨visits, all, by rw [List.append_nil], outcome.symm⟩
    | ok =>
      rw [outcome] at taken
      obtain ⟨rfl, rfl⟩ := taken
      exact ⟨visits, all, by rw [List.append_nil], outcome.symm⟩

theorem loads_of_takes {packageRoot entrypoint : String} {pluginId session : UInt64}
    {events : List (EngineEvent Tid)} {result : Except HostError UInt64}
    (taken : ((Engine.loadPayload packageRoot entrypoint pluginId session).handle EngineTask.apart).Takes events result)
    (exact : ∀ event ∈ events, Engines.execApart event.thread event.op event.before event.answer event.after) :
    (∀ id, result = .ok id → ∃ event ∈ events, EngineEvent.issued event = some id) ∧
      ∀ error, result = .error error → ∀ event ∈ events, event.after = event.before := by
  unfold Engine.loadPayload at taken
  split at taken
  · obtain ⟨rfl, rfl⟩ := taken
    exact ⟨fun _ same => (by cases same), fun _ _ _ present => absurd present List.not_mem_nil⟩
  · obtain ⟨t, resolved, before, after, later, rfl, taken⟩ := taken
    have unmoved := (exact _ (.head _)).2
    change Except HostError String at resolved
    cases resolved with
    | error error =>
      obtain ⟨rfl, rfl⟩ := taken
      exact ⟨fun _ same => (by cases same), fun _ _ => List.forall_mem_singleton.mpr unmoved⟩
    | ok libraryPath =>
      obtain ⟨t', answer, before', after', later, rfl, rfl, rfl⟩ := taken
      have registered := exact _ (.tail _ (.head _))
      refine ⟨fun id same => ?_, fun error same => ?_⟩
      · cases same
        exact ⟨_, .tail _ (.head _), rfl⟩
      · cases same
        rcases Engines.register_cases registered with ⟨_, -, still, -⟩ | ⟨_, _, -, -, -, issued, -⟩
        · exact List.forall_mem_cons.mpr ⟨unmoved, List.forall_mem_singleton.mpr still⟩
        · cases issued

/-- Whatever loads, unloads and closes do at the same time, the registry stays ordered and `close` acts once. -/
theorem registry_safe [DecidableEq Tid] {c : EngineConfig Tid} (records : Engines.system.Records (· = {}) c) :
    RegistrySafe c.state := by
  have inv := registryInv_reached records
  have loads : ∀ t packageRoot entrypoint pluginId session events result,
      (t, .loadPayload packageRoot entrypoint pluginId session, events, .payloadId result) ∈ c.state.returned →
        (∀ id, result = .ok id → ∃ event ∈ events, EngineEvent.issued event = some id) ∧
          ∀ error, result = .error error → ∀ event ∈ events, event.after = event.before := by
    intro t packageRoot entrypoint pluginId session events result returned
    obtain ⟨order, taken⟩ := records.returned returned
    change Prog.Takes ((Engine.loadPayload packageRoot entrypoint pluginId session >>= _).handle EngineTask.apart) _ _
      at taken
    rw [Prog.handle_bind, Prog.takes_bind] at taken
    obtain ⟨first, _, result', rfl, taken, rfl, same⟩ := taken
    cases same
    rw [List.append_nil] at order ⊢
    exact loads_of_takes taken fun event present => records.exec event (order.subset (List.mem_reverse.mpr present))
  constructor
  · exact inv.ordered.ascending
  · exact inv.ordered.keys
  · constructor
    · rw [List.pairwise_filterMap]
      exact inv.after.imp fun after id later id' earlier => after.issued id' id earlier later
    · intro id present
      obtain ⟨event, known, issued⟩ := List.mem_filterMap.mp present
      exact (inv.issued event known id issued).1
  · intro t packageRoot entrypoint pluginId session events id returned
    exact (loads _ _ _ _ _ _ _ returned).1 id rfl
  · intro t packageRoot entrypoint pluginId session events error returned
    exact (loads _ _ _ _ _ _ _ returned).2 error rfl
  · intro event present payloads drained
    exact (inv.drained event present payloads drained).2.1
  · exact inv.after.imp fun after drained => after.shut drained
  · rintro ⟨event, present, drained⟩
    obtain ⟨payloads, same⟩ := Option.isSome_iff_exists.mp drained
    have closed := (inv.drained event present payloads same).1
    exact ⟨closed, inv.ordered.closed closed, inv.ordered.empty closed⟩
  · intro t events result returned
    obtain ⟨order, taken⟩ := records.returned returned
    change Prog.Takes ((Engine.close >>= _).handle EngineTask.apart) _ _ at taken
    rw [Prog.handle_bind, Prog.takes_bind] at taken
    obtain ⟨first, _, result', rfl, taken, rfl, same⟩ := taken
    cases same
    rw [List.append_nil] at order ⊢
    refine closes_of_takes taken
      (fun event present => records.exec event (order.subset (List.mem_reverse.mpr present))) ?_
    rintro first later payloads rfl drained event present p member
    have chain := (inv.after.sublist order)
    rw [List.pairwise_reverse] at chain
    exact ((List.pairwise_cons.mp chain).1 event present).tables payloads drained p member

/-- An enabled payload is shut down by the close of its engine, although its plugin fails. -/
theorem registry_safe_closed : ∃ c : EngineConfig Nat, RegistrySafe c.state ∧ c.state.state.engine.closed = true ∧
    (c.state.state.payload 0).state = .shutdownFailed := by
  have idle : Engines.system.Run (⟨{}, fun _ => .idle⟩ : Config Nat (Engines Nat) _ _ _ _) ⟨{}, fun _ => .idle⟩ := .refl
  have loaded := (((idle.start 0 (.loadPayload "root" "entry" 7 9) rfl rfl).act 0
    (.engine (.resolveEntrypoint "root" "entry")) (Except.ok "library" : Except HostError String) rfl
    ⟨trivial, rfl⟩).act 0 (.engine (.register "library" 7 9)) (Except.ok 1 : Except HostError UInt64) rfl
    (show Engines.Register 7 9 ({} : Engines Nat) (Except.ok 1) _ from Lifecycle.register_loaded
      (show EmbeddedPayload.load (.queried .ok Lifecycle.completeTable) 7 9 = _ from rfl) rfl rfl)).finish 0 rfl rfl
  have enabled := (((((((loaded.start 1 (.enablePayload 1) rfl rfl).act 1 (.engine (.payload 1))
    (Except.ok 0 : Except HostError Nat) rfl ⟨rfl, rfl⟩).act 1 (.engine (.lockPayload 0))
    ⟨7, 9, Lifecycle.completeTable, .loaded⟩ rfl ⟨rfl, rfl, rfl⟩).act 1 (.enter 0 (.initializePlugin 7 9)) () rfl
    rfl).act 1 (.leave 0) ⟨.ok, none⟩ rfl rfl).act 1 (.engine (.setState 0 .enabled)) () rfl rfl).act 1
    (.engine (.unlockPayload 0)) () rfl rfl).finish 1 rfl rfl
  have closed := (((((((enabled.start 2 .close rfl rfl).act 2 (.engine .drain) (some [0] : Option (List Nat)) rfl
    ⟨rfl, rfl⟩).act 2 (.engine (.lockPayload 0)) ⟨7, 9, Lifecycle.completeTable, .enabled⟩ rfl ⟨rfl, rfl, rfl⟩).act 2
    (.enter 0 (.shutdown 7)) () rfl rfl).act 2 (.leave 0) ⟨.pluginError, none⟩ rfl rfl).act 2
    (.engine (.setState 0 .shutdownFailed)) () rfl rfl).act 2 (.engine (.unlockPayload 0)) () rfl rfl).finish 2 rfl rfl
  obtain ⟨r, recorded, same⟩ := closed.recorded
  exact ⟨_, registry_safe ⟨_, ⟨_, rfl, rfl⟩, recorded⟩, by rw [same], by rw [same]; rfl⟩

end Events

end RuntimeHost.Native
