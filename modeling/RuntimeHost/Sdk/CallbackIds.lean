import RuntimeHost.Foundation.Record
import RuntimeHost.Sdk.FutureSafety

namespace RuntimeHost.Sdk

open Foundation Function

section Successor

variable {id : UInt64}

theorem successor_toNat (positive : id ≠ 0) : (successor id).toNat = id.toNat % (2 ^ 64 - 1) + 1 := by
  have bound := id.toNat_lt
  unfold successor
  split
  · rename_i last
    subst last
    decide
  · rename_i small
    rw [← UInt64.toNat_inj] at small
    rw [UInt64.toNat_add]
    simp only [UInt64.reduceToNat] at small ⊢
    omega

theorem successor_iterate_toNat (positive : id ≠ 0) (k : Nat) :
    (successor^[k] id).toNat = (id.toNat - 1 + k) % (2 ^ 64 - 1) + 1 := by
  induction k with
  | zero =>
    rw [Ne, ← UInt64.toNat_inj] at positive
    have bound := id.toNat_lt
    simp only [UInt64.reduceToNat, iterate_zero_apply] at positive ⊢
    omega
  | succ k ih =>
    have later : successor^[k] id ≠ 0 := by
      rw [Ne, ← UInt64.toNat_inj, ih]
      simp
    rw [iterate_succ_apply', successor_toNat later, ih]
    omega

theorem successor_iterate_ne_zero (positive : id ≠ 0) (k : Nat) : successor^[k] id ≠ 0 := by
  have number := successor_iterate_toNat positive k
  intro zero
  rw [zero] at number
  simp only [UInt64.reduceToNat] at number
  omega

theorem successor_iterate_inj (positive : id ≠ 0) {k k' : Nat} (few : k < 2 ^ 64 - 1) (few' : k' < 2 ^ 64 - 1)
    (same : successor^[k] id = successor^[k'] id) : k = k' := by
  have numbers := congrArg UInt64.toNat same
  rw [successor_iterate_toNat positive, successor_iterate_toNat positive] at numbers
  omega

end Successor

namespace RegistryState

variable {registry registry' : RegistryState} {id : UInt64} {entry : EntryRef}

theorem probe_eq_none_iff {rounds : Nat} {candidate : UInt64} :
    registry.probe rounds candidate = none ↔ ∀ k < rounds, successor^[k] candidate ∈ registry.entries := by
  induction rounds generalizing candidate with
  | zero => simp [probe]
  | succ rounds ih =>
    unfold probe
    split
    · rename_i taken
      rw [ih]
      constructor
      · intro later k bound
        cases k with
        | zero => exact taken
        | succ k => exact later k (by omega)
      · intro all k bound
        exact all (k + 1) (by omega)
    · rename_i free
      simp only [reduceCtorEq, false_iff]
      exact fun all => free (all 0 (by omega))

theorem probe_eq_some {rounds : Nat} {candidate : UInt64} (found : registry.probe rounds candidate = some id) :
    ∃ k < rounds, id = successor^[k] candidate := by
  induction rounds generalizing candidate with
  | zero => cases found
  | succ rounds ih =>
    unfold probe at found
    split at found
    · obtain ⟨k, bound, rfl⟩ := ih found
      exact ⟨k + 1, by omega, rfl⟩
    · cases found
      exact ⟨0, by omega, rfl⟩

theorem vacantId_isSome (few : registry.entries.entries.length < 2 ^ 64 - 2) : ∃ id, registry.vacantId = some id := by
  apply Option.ne_none_iff_exists'.mp
  intro none
  have positive : (if registry.nextId = 0 then 1 else registry.nextId) ≠ 0 := by
    split
    · decide
    · assumption
  have live := probe_eq_none_iff.mp none
  have distinct : Set.InjOn (fun k => successor^[k] (if registry.nextId = 0 then 1 else registry.nextId))
      (Finset.range (registry.entries.entries.length + 1)) := by
    intro k bound k' bound' same
    rw [Finset.coe_range, Set.mem_Iio] at bound bound'
    exact successor_iterate_inj positive (by omega) (by omega) same
  have inside : Set.MapsTo (fun k => successor^[k] (if registry.nextId = 0 then 1 else registry.nextId))
      (Finset.range (registry.entries.entries.length + 1)) registry.entries.keys.toFinset := by
    intro k bound
    rw [Finset.coe_range, Set.mem_Iio] at bound
    exact List.mem_toFinset.mpr (live k bound)
  have count := Finset.card_le_card_of_injOn _ inside distinct
  have keys := registry.entries.keys.toFinset_card_le
  have length : registry.entries.keys.length = registry.entries.entries.length := List.length_map ..
  rw [Finset.card_range] at count
  omega

theorem pair_isOk_iff : (∃ made, registry.pair entry = .ok made) ↔
    registry.closed = false ∧ registry.entries.entries.length < maxPendingCallbacks := by
  unfold pair
  split
  · rename_i refused
    simp only [reduceCtorEq, exists_false, false_iff, not_and, Nat.not_lt]
    intro unclosed
    exact refused.resolve_left (by simp [unclosed])
  · rename_i accepted
    rw [not_or, Nat.not_le] at accepted
    obtain ⟨id, found⟩ : ∃ id, registry.vacantId = some id := vacantId_isSome (accepted.2.trans (by decide))
    rw [found]
    exact ⟨fun _ => ⟨by simpa using accepted.1, accepted.2⟩, fun _ => ⟨_, rfl⟩⟩

theorem pair_allocates (made : registry.pair entry = .ok (id, registry')) :
    id ≠ 0 ∧ id ∉ registry.entries ∧ registry'.entries.lookup id = some entry ∧
      registry'.entries.entries.length = registry.entries.entries.length + 1 ∧
      ∀ id' entry', registry.entries.lookup id' = some entry' → registry'.entries.lookup id' = some entry' := by
  have probed : registry.vacantId = some id := by
    unfold pair at made
    split at made
    · cases made
    · split at made
      · cases made
      · rename_i found
        cases made
        exact found
  obtain ⟨k, -, found⟩ := probe_eq_some probed
  have positive : id ≠ 0 := by
    rw [found]
    apply successor_iterate_ne_zero
    split
    · decide
    · assumption
  obtain ⟨-, vacant, rfl⟩ := pair_eq_ok made
  refine ⟨positive, vacant, AList.lookup_insert _, ?_, fun id' entry' listed => ?_⟩
  · rw [AList.entries_insert_of_notMem vacant, List.length_cons]
  · have other : id' ≠ id := by
      intro same
      subst same
      exact vacant (AList.lookup_isSome.mp (by rw [listed]; rfl))
    exact (AList.lookup_insert_ne other).trans listed

end RegistryState

/-- What `pair` does in any state of a registry that may have any next ID. -/
structure PairAllocates {Tid : Type} (s : Futures Tid) : Prop where
  succeeds : (∃ made, s.registry.pair s.allocated = .ok made) ↔
    s.registry.closed = false ∧ s.registry.entries.entries.length < maxPendingCallbacks
  probed : s.registry.entries.entries.length < maxPendingCallbacks → ∃ id, s.registry.vacantId = some id
  fresh : ∀ id registry', s.registry.pair s.allocated = .ok (id, registry') → id ≠ 0 ∧ id ∉ s.registry.entries ∧
    registry'.entries.lookup id = some s.allocated ∧
    registry'.entries.entries.length = s.registry.entries.entries.length + 1
  kept : ∀ id registry', s.registry.pair s.allocated = .ok (id, registry') →
    ∀ id' entry, s.registry.entries.lookup id' = some entry → registry'.entries.lookup id' = some entry
  found : ∀ id registry', s.registry.pair s.allocated = .ok (id, registry') → ∀ t callback future,
    .created t callback future ∈ s.history →
      registry'.registered callback.id callback.entry = s.registry.registered callback.id callback.entry

namespace Futures

variable {Tid : Type} [DecidableEq Tid]

theorem created_exec {t : Tid} {op : FutureOp} {s s' : Futures Tid} {answer : op.Answer} (other : op ≠ .pair)
    (answered : exec t op s answer s') : s'.allocated = s.allocated ∧
      ∀ t callback future, .created t callback future ∈ s'.history → .created t callback future ∈ s.history := by
  cases op <;> simp only [exec] at answered <;> grind [log, settle]

theorem created_allocated {c : FutureConfig Tid}
    (reached : system.Reachable (fun s : Futures Tid => ∃ nextId, s = { registry := { nextId } }) c) :
    ∀ t callback future, .created t callback future ∈ c.state.history → callback.entry < c.state.allocated := by
  refine System.invariant (fun s => ∀ t callback future, .created t callback future ∈ s.history →
    callback.entry < s.allocated) ?_ ?_ ?_ ?_ ?_ reached
  · intro s initially t callback future created
    obtain ⟨nextId, rfl⟩ := initially
    cases created
  · intro t call s s' older begun
    obtain ⟨-, -, rfl⟩ := begun
    exact older
  · intro t op s answer s' older answered
    change exec t op s answer s' at answered
    by_cases making : op = .pair
    · subst making
      simp only [exec] at answered
      split at answered
      · rw [answered.2]
        exact older
      · obtain ⟨-, rfl⟩ := answered
        intro t callback future created
        rcases List.mem_cons.mp created with new | old
        · cases new
          exact Nat.lt_succ_self _
        · exact (older t callback future old).trans (Nat.lt_succ_self _)
    · obtain ⟨allocated, before⟩ := created_exec making answered
      rw [allocated]
      exact fun t callback future created => older t callback future (before t callback future created)
  · intro t call result s s' older ended
    subst ended
    intro t callback future created
    simp only [log, List.mem_cons, reduceCtorEq, false_or] at created
    exact older t callback future created
  · intro s s' older moved
    subst moved
    exact older

theorem allocates {c : FutureConfig Tid}
    (reached : system.Reachable (fun s : Futures Tid => ∃ nextId, s = { registry := { nextId } }) c) :
    PairAllocates c.state where
  succeeds := RegistryState.pair_isOk_iff
  probed few := RegistryState.vacantId_isSome (few.trans (by decide))
  fresh id registry' made :=
    have ⟨positive, vacant, listed, count, _⟩ := RegistryState.pair_allocates made
    ⟨positive, vacant, listed, count⟩
  kept id registry' made := (RegistryState.pair_allocates made).2.2.2.2
  found id registry' made t callback future created := by
    have older := created_allocated reached t callback future created
    obtain ⟨-, vacant, rfl⟩ := RegistryState.pair_eq_ok made
    unfold RegistryState.registered
    by_cases same : callback.id = id
    · rw [same, AList.lookup_insert, AList.lookup_eq_none.mpr vacant]
      simp only [Option.some.injEq, reduceCtorEq, decide_false, decide_eq_false_iff_not]
      exact older.ne'
    · simp only [AList.lookup_insert_ne same]

/-- Two pairs from the last ID on: the second one starts again at 1. -/
theorem allocates_wrapped : ∃ c : FutureConfig Bool, PairAllocates c.state ∧
    c.state.registry.entries.lookup 0xffffffffffffffff = some 0 ∧ c.state.registry.entries.lookup 1 = some 1 := by
  have idle : system.Run ⟨({ registry := { nextId := 0xffffffffffffffff } } : Futures Bool), fun _ => .idle⟩
      ⟨_, fun _ => .idle⟩ := .refl
  have first := (idle.start false .pair rfl ⟨rfl, rfl, rfl⟩).act false .pair
    (.ok (⟨0xffffffffffffffff, 0⟩, ⟨0xffffffffffffffff, 0⟩)) rfl ⟨rfl, rfl⟩
  have second := (first.start true .pair rfl ⟨rfl, rfl, rfl⟩).act true .pair (.ok (⟨1, 1⟩, ⟨1, 1⟩)) rfl ⟨rfl, rfl⟩
  exact ⟨_, allocates ⟨_, ⟨_, rfl⟩, second⟩, rfl, rfl⟩

end Futures

end RuntimeHost.Sdk
