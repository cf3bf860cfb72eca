import RuntimeHost.Foundation.Record
import RuntimeHost.Native.Embedded

namespace RuntimeHost.Native

open Foundation Function System Abi Sdk

inductive AllocationCall where
  | allocate (length : Nat) (initialized : Option (List UInt8))
  | release (buffer : HmclOwnedBuffer)
  | takeOutput (buffer : HmclOwnedBuffer)

inductive AllocationResult where
  | allocated (result : Unwinding (Except HostError HmclOwnedBuffer))
  | released (result : Except HostError Unit)
  | taken (result : Except HostError (List UInt8))

def AllocationCall.code : AllocationCall → EmbedProg AllocationResult
  | .allocate length initialized => return .allocated (← HostCallbacks.allocate length initialized)
  | .release buffer => return .released (← HostCallbacks.release buffer)
  | .takeOutput buffer => return .taken (← HostCallbacks.takeOutput buffer)

/-- The table of allocations, each entry with the place of its allocation among all that were made; the address and the
size of every allocation, and which of them have been taken out of the table again. -/
structure Allocations where
  table : UInt64 → Option (Nat × List UInt8) := fun _ => none
  made : List (UInt64 × Nat) := []
  consumed : List Nat := []

namespace Allocations

def insert (s : Allocations) (pointer : UInt64) (allocation : List UInt8) : Allocations :=
  { s with
    table := update s.table pointer (some (s.made.length, allocation))
    made := s.made ++ [(pointer, allocation.length)] }

def remove (s : Allocations) (pointer : UInt64) : Allocations :=
  { s with table := update s.table pointer none, consumed := s.consumed ++ ((s.table pointer).map Prod.fst).toList }

/-- The allocator never returns null or the address of a live allocation, and panics instead of giving out more than a
Rust slice may have. -/
def exec : (op : EmbedOp) → Allocations → op.Answer → Allocations → Prop
  | .insert allocation, s, .returned pointer, s' =>
    allocation.length ≤ isizeMax ∧ pointer ≠ 0 ∧ s.table pointer = none ∧ s' = s.insert pointer allocation
  | .insert allocation, s, .panicked, s' => isizeMax < allocation.length ∧ s' = s
  | .remove pointer, s, answer, s' => answer = (s.table pointer).map Prod.snd ∧ s' = s.remove pointer
  | _, _, _, _ => False

def Writes (s s' : Allocations) : Prop :=
  ∃ pointer place before after, s.table pointer = some (place, before) ∧ after.length = before.length ∧
    s' = { s with table := update s.table pointer (some (place, after)) }

def system (Tid : Type) [DecidableEq Tid] :
    System Tid Allocations EmbedOp EmbedOp.Answer AllocationCall AllocationResult where
  code := AllocationCall.code
  start _ _ s s' := s' = s
  exec _ := exec
  finish _ _ _ s s' := s' = s
  env := Writes

/-- The address of the descriptor is live, its capacity is the recorded size and its length is within. -/
def Matches (s : Allocations) (buffer : HmclOwnedBuffer) : Prop :=
  ∃ place bytes, s.table buffer.data = some (place, bytes) ∧ bytes.length = buffer.capacity.toNat ∧
    buffer.len ≤ buffer.capacity

/-- The table holds exactly the allocations that have not been consumed, and none is consumed twice. -/
structure Exact (s : Allocations) : Prop where
  held : ∀ place pointer size, s.made[place]? = some (pointer, size) ∧ place ∉ s.consumed ↔
    ∃ bytes, s.table pointer = some (place, bytes) ∧ bytes.length = size
  once : s.consumed.Nodup
  earlier : ∀ place ∈ s.consumed, place < s.made.length
  sized : ∀ entry ∈ s.made, entry.1 ≠ 0 ∧ 0 < entry.2 ∧ entry.2 ≤ isizeMax

abbrev Event (Tid : Type) := Answered Tid Allocations EmbedOp EmbedOp.Answer

/-- What a call does with a descriptor that it is given, and the allocation that it accepts it for. -/
structure Reclaims {Tid : Type} (buffer : HmclOwnedBuffer) (events : List (Event Tid))
    (result : Except HostError (List UInt8)) : Prop where
  looks : buffer.capacity ≠ 0 ↔ ∃ event, events = [event] ∧ event.op = .remove buffer.data
  single : buffer.capacity = 0 ↔ events = []
  others : ∀ event ∈ events, ∀ pointer, pointer ≠ buffer.data → event.after.table pointer = event.before.table pointer
  gone : ∀ event ∈ events, event.after.table buffer.data = none ∧ event.after.made = event.before.made
  ok : (∃ bytes, result = .ok bytes) ↔ buffer = .empty ∨ ∃ event ∈ events, event.before.Matches buffer
  bytes : ∀ bytes, result = .ok bytes → (buffer = .empty ∧ bytes = []) ∨
    ∃ event ∈ events, ∃ place, event.before.table buffer.data = some (place, bytes)

/-- What a call puts into the table, and the descriptor that it gives for it. -/
structure Supplies {Tid : Type} (length : Nat) (initialized : Option (List UInt8)) (events : List (Event Tid))
    (result : Unwinding (Except HostError HmclOwnedBuffer)) : Prop where
  ok : ∀ buffer, result = .returned (.ok buffer) → (length = 0 ∧ buffer = .empty ∧ events = []) ∨
    ∃ event, events = [event] ∧ event.before.table buffer.data = none ∧
      event.after = event.before.insert buffer.data (initialized.getD (List.replicate length 0)) ∧
      buffer.capacity.toNat = length ∧ buffer.len.toNat = (initialized.map List.length).getD 0 ∧
      event.after.Matches buffer
  failed : (∀ buffer, result ≠ .returned (.ok buffer)) → ∀ event ∈ events, event.after = event.before

structure TableSafe {Tid : Type}
    (r : Recorded Tid Allocations EmbedOp EmbedOp.Answer AllocationCall AllocationResult) : Prop where
  exact : r.state.Exact
  allocated : ∀ t length initialized events result,
    (t, .allocate length initialized, events, .allocated result) ∈ r.returned →
      Supplies length initialized events result
  released : ∀ t buffer events result, (t, .release buffer, events, .released result) ∈ r.returned →
    ∃ reclaimed, Reclaims buffer events reclaimed ∧ result = reclaimed.map fun _ => ()
  taken : ∀ t buffer events result, (t, .takeOutput buffer, events, .taken result) ∈ r.returned →
    ∃ reclaimed, Reclaims buffer events reclaimed ∧ result = reclaimed.map fun bytes => bytes.take buffer.len.toNat

section Exact

variable {s s' : Allocations} {pointer : UInt64}

theorem exact_empty : ({} : Allocations).Exact where
  held place pointer size := by simp
  once := .nil
  earlier _ none := absurd none List.not_mem_nil
  sized _ none := absurd none List.not_mem_nil

theorem Exact.insert (exact : s.Exact) {allocation : List UInt8} (nonempty : allocation ≠ [])
    (fits : allocation.length ≤ isizeMax) (positive : pointer ≠ 0) (fresh : s.table pointer = none) :
    (s.insert pointer allocation).Exact where
  held place pointer' size := by
    show (s.made ++ [_])[place]? = _ ∧ place ∉ s.consumed ↔ ∃ bytes, update s.table pointer _ pointer' = _ ∧ _
    by_cases same : pointer' = pointer
    · subst same
      rw [update_self]
      constructor
      · rintro ⟨listed, unconsumed⟩
        rcases Nat.lt_trichotomy place s.made.length with old | new | beyond
        · rw [List.getElem?_append_left old] at listed
          obtain ⟨bytes, live, -⟩ := (exact.held place pointer' size).mp ⟨listed, unconsumed⟩
          rw [fresh] at live
          cases live
        · subst new
          rw [List.getElem?_concat_length] at listed
          cases listed
          exact ⟨allocation, rfl, rfl⟩
        · rw [List.getElem?_eq_none (by simpa using beyond)] at listed
          cases listed
      · rintro ⟨bytes, entry, rfl⟩
        cases entry
        exact ⟨List.getElem?_concat_length, fun consumed => absurd (exact.earlier _ consumed) (lt_irrefl _)⟩
    · rw [update_of_ne same, ← exact.held]
      refine and_congr_left fun _ => ?_
      rcases Nat.lt_trichotomy place s.made.length with old | new | beyond
      · rw [List.getElem?_append_left old]
      · subst new
        rw [List.getElem?_concat_length, List.getElem?_eq_none le_rfl]
        simp [Ne.symm same]
      · rw [List.getElem?_eq_none (by simpa using beyond), List.getElem?_eq_none beyond.le]
  once := exact.once
  earlier place consumed := by
    have bound := exact.earlier place consumed
    simp only [Allocations.insert, List.length_append, List.length_singleton]
    omega
  sized entry present := by
    rcases List.mem_append.mp present with old | new
    · exact exact.sized entry old
    · obtain rfl := List.mem_singleton.mp new
      exact ⟨positive, List.length_pos_iff.mpr nonempty, fits⟩

theorem Exact.live (exact : s.Exact) {place : Nat} {bytes : List UInt8} (live : s.table pointer = some (place, bytes)) :
    s.made[place]? = some (pointer, bytes.length) ∧ place ∉ s.consumed :=
  (exact.held place pointer bytes.length).mpr ⟨bytes, live, rfl⟩

theorem Exact.size (exact : s.Exact) {place : Nat} {bytes : List UInt8} (live : s.table pointer = some (place, bytes)) :
    0 < bytes.length ∧ bytes.length ≤ isizeMax :=
  (exact.sized _ (List.mem_of_getElem? (exact.live live).1)).2

theorem Exact.remove (exact : s.Exact) : (s.remove pointer).Exact := by
  cases entry : s.table pointer with
  | none =>
    have same : s.remove pointer = s := by
      have unchanged : update s.table pointer none = s.table := by rw [← entry, update_eq_self]
      simp [Allocations.remove, entry, unchanged]
    rwa [same]
  | some entry' =>
    obtain ⟨place, bytes⟩ := entry'
    obtain ⟨listed, unconsumed⟩ := exact.live entry
    have consumed : (s.remove pointer).consumed = s.consumed ++ [place] := by
      simp [Allocations.remove, entry]
    constructor
    case held =>
      intro place' pointer' size
      rw [consumed, List.mem_append, List.mem_singleton, not_or, ← and_assoc]
      show (s.made[place']? = _ ∧ _) ∧ _ ↔ ∃ bytes, update s.table pointer none pointer' = _ ∧ _
      rw [exact.held]
      by_cases same : pointer' = pointer
      · subst same
        simp only [update_self, reduceCtorEq, false_and, exists_false, iff_false, not_and, not_not]
        rintro ⟨bytes', entry', -⟩
        rw [entry] at entry'
        cases entry'
        rfl
      · rw [update_of_ne same]
        refine and_iff_left_of_imp fun ⟨bytes', entry', _⟩ taken => ?_
        subst taken
        exact same (congrArg Prod.fst (Option.some.inj ((exact.live entry').1.symm.trans listed)))
    case once =>
      rw [consumed]
      exact List.nodup_append.mpr ⟨exact.once, List.nodup_singleton _, fun earlier present last same => by
        obtain rfl := List.mem_singleton.mp same
        intro same'
        exact unconsumed (same' ▸ present)⟩
    case earlier =>
      intro place' present
      rw [consumed] at present
      rcases List.mem_append.mp present with old | new
      · exact exact.earlier place' old
      · obtain rfl := List.mem_singleton.mp new
        exact (List.getElem?_eq_some_iff.mp listed).1
    case sized => exact exact.sized

theorem Exact.writes (exact : s.Exact) (written : s.Writes s') : s'.Exact := by
  obtain ⟨pointer, place, before, after, entry, length, rfl⟩ := written
  refine { exact with held := fun place' pointer' size => (exact.held place' pointer' size).trans ?_ }
  by_cases same : pointer' = pointer
  · subst same
    simp [entry, length]
  · simp only [update_of_ne same]

end Exact

section Calls

variable {Tid : Type} [DecidableEq Tid] {buffer : HmclOwnedBuffer} {events : List (Event Tid)}

omit [DecidableEq Tid] in
theorem exec_exact {op : EmbedOp} {answer : op.Answer} {s s' : Allocations} (exact : s.Exact)
    (nonempty : ∀ allocation, op = .insert allocation → allocation ≠ []) (answered : exec op s answer s') : s'.Exact := by
  cases op with
  | insert allocation =>
    cases (answer : Unwinding UInt64) with
    | panicked =>
      obtain ⟨-, rfl⟩ := answered
      exact exact
    | returned pointer =>
      obtain ⟨fits, positive, fresh, rfl⟩ := answered
      exact exact.insert (nonempty allocation rfl) fits positive fresh
  | remove pointer =>
    obtain ⟨-, rfl⟩ := answered
    exact exact.remove
  | _ => cases answered

omit [DecidableEq Tid] in
theorem takes_reclaim {result : Except HostError (List UInt8)}
    (taken : (HostCallbacks.reclaim buffer).Takes events result)
    (each : ∀ event ∈ events, exec event.op event.before event.answer event.after ∧ event.before.Exact) :
    Reclaims buffer events result := by
  unfold HostCallbacks.reclaim at taken
  split at taken
  · rename_i zero
    obtain ⟨rfl, rfl⟩ := taken
    have canonical : buffer.data = 0 ∧ buffer.len = 0 ↔ buffer = .empty := by
      obtain ⟨data, len, capacity⟩ := buffer
      obtain rfl : capacity = 0 := zero
      simp [HmclOwnedBuffer.empty]
    constructor
    case looks => simp [zero]
    case single => simp [zero]
    case others => exact fun event none => absurd none List.not_mem_nil
    case gone => exact fun event none => absurd none List.not_mem_nil
    case ok =>
      simp only [canonical]
      split
      · rename_i empty
        exact ⟨fun _ => .inl empty, fun _ => ⟨[], rfl⟩⟩
      · simpa
    case bytes =>
      intro bytes same
      split at same
      · rename_i canonical'
        cases same
        exact .inl ⟨canonical.mp canonical', rfl⟩
      · cases same
  · rename_i positive
    obtain ⟨t, answer, before, after, later, rfl, rest⟩ := taken
    obtain ⟨⟨found, removed⟩, exact⟩ := each _ List.mem_cons_self
    change answer = (before.table buffer.data).map Prod.snd at found
    change after = before.remove buffer.data at removed
    change before.Exact at exact
    subst removed
    have unempty : buffer ≠ .empty := by
      rintro rfl
      exact positive rfl
    have settled : later = [] ∧ ((∃ bytes, result = .ok bytes) ↔ before.Matches buffer) ∧
        ∀ bytes, result = .ok bytes → ∃ place, before.table buffer.data = some (place, bytes) := by
      unfold Matches
      cases entry : before.table buffer.data with
      | none =>
        rw [entry] at found
        subst found
        obtain ⟨rfl, rfl⟩ := rest
        simp
      | some entry' =>
        obtain ⟨place, bytes⟩ := entry'
        rw [entry] at found
        subst found
        have small := (exact.size entry).2
        have size : UInt64.ofNat bytes.length = buffer.capacity ↔ bytes.length = buffer.capacity.toNat := by
          rw [← UInt64.toNat_inj, UInt64.toNat_ofNat', Nat.mod_eq_of_lt (small.trans_lt (by decide))]
        obtain ⟨rfl, rfl⟩ := rest
        refine ⟨rfl, ?_, ?_⟩
        · have accepts : (∃ place' bytes', some (place, bytes) = some (place', bytes') ∧
              bytes'.length = buffer.capacity.toNat ∧ buffer.len ≤ buffer.capacity) ↔
              ¬(UInt64.ofNat bytes.length ≠ buffer.capacity ∨ buffer.capacity < buffer.len) := by
            rw [not_or, not_not, UInt64.not_lt, size]
            constructor
            · rintro ⟨place', bytes', same, whole, within⟩
              cases same
              exact ⟨whole, within⟩
            · rintro ⟨whole, within⟩
              exact ⟨place, bytes, rfl, whole, within⟩
          rw [accepts]
          split
          · rename_i refused
            simp [refused]
          · rename_i accepted
            exact ⟨fun _ => accepted, fun _ => ⟨bytes, rfl⟩⟩
        · intro bytes' same
          split at same
          · cases same
          · cases same
            exact ⟨place, rfl⟩
    obtain ⟨rfl, accepted, whole⟩ := settled
    constructor
    case looks => simpa using positive
    case single => simpa using positive
    case others =>
      intro event present pointer other
      obtain rfl := List.mem_singleton.mp present
      exact update_of_ne other ..
    case gone =>
      intro event present
      obtain rfl := List.mem_singleton.mp present
      exact ⟨update_self .., rfl⟩
    case ok => simpa [unempty] using accepted
    case bytes =>
      intro bytes same
      exact .inr ⟨_, List.mem_cons_self, whole bytes same⟩

theorem content_length {length : Nat} {initialized : Option (List UInt8)}
    (sized : ¬(initialized.map List.length).getD length ≠ length) :
    (initialized.getD (List.replicate length 0)).length = length ∧ (initialized.map List.length).getD 0 ≤ length := by
  cases initialized with
  | none => simp
  | some bytes =>
    simp only [Option.map_some, Option.getD_some, not_not] at sized ⊢
    exact ⟨sized, sized.le⟩

omit [DecidableEq Tid] in
theorem takes_allocate {length : Nat} {initialized : Option (List UInt8)}
    {result : Unwinding (Except HostError HmclOwnedBuffer)}
    (taken : (HostCallbacks.allocate length initialized).Takes events result)
    (each : ∀ event ∈ events, exec event.op event.before event.answer event.after) :
    Supplies length initialized events result := by
  unfold HostCallbacks.allocate at taken
  split at taken
  · rename_i zero
    obtain ⟨rfl, rfl⟩ := taken
    refine ⟨fun buffer same => .inl ⟨zero, ?_, rfl⟩, fun failed => absurd rfl (failed _)⟩
    cases same
    rfl
  · rename_i nonzero
    split at taken
    · split at taken <;> obtain ⟨rfl, rfl⟩ := taken <;>
        exact ⟨fun buffer same => (by cases same), fun _ event none => absurd none List.not_mem_nil⟩
    · rename_i sized
      obtain ⟨t, answer, before, after, later, rfl, rest⟩ := taken
      have first := each _ List.mem_cons_self
      obtain ⟨size, filled⟩ := content_length sized
      cases (answer : Unwinding UInt64) with
      | panicked =>
        obtain ⟨-, unchanged⟩ := first
        obtain ⟨rfl, rfl⟩ := rest
        refine ⟨fun buffer same => (by cases same), fun _ event present => ?_⟩
        obtain rfl := List.mem_singleton.mp present
        exact unchanged
      | returned pointer =>
        obtain ⟨fits, -, fresh, inserted⟩ := first
        obtain ⟨rfl, rfl⟩ := rest
        refine ⟨fun buffer same => .inr ⟨_, rfl, ?_⟩, fun failed => absurd rfl (failed _)⟩
        obtain rfl := Except.ok.inj (Unwinding.returned.inj same)
        change after = before.insert pointer _ at inserted
        rw [size] at fits
        have small : length < 2 ^ 64 := fits.trans_lt (by decide)
        have capacity : (UInt64.ofNat length).toNat = length := by
          rw [UInt64.toNat_ofNat', Nat.mod_eq_of_lt small]
        have len : (UInt64.ofNat ((initialized.map List.length).getD 0)).toNat = (initialized.map List.length).getD 0 := by
          rw [UInt64.toNat_ofNat', Nat.mod_eq_of_lt (filled.trans_lt small)]
        refine ⟨fresh, inserted, capacity, len, before.made.length, _, ?_, size.trans capacity.symm, ?_⟩
        · subst inserted
          exact update_self ..
        · rw [UInt64.le_iff_toNat_le]
          exact len.trans_le (filled.trans_eq capacity.symm)

def Supplying : Typestate EmbedOp EmbedOp.Answer Unit where
  allows _ op := ∀ allocation, op = .insert allocation → allocation ≠ []
  next _ _ _ := ()

theorem follows_reclaim (buffer : HmclOwnedBuffer) :
    (HostCallbacks.reclaim buffer).Follows Supplying (fun _ _ => True) () := by
  unfold HostCallbacks.reclaim
  split
  · trivial
  · refine ⟨fun allocation same => (by cases same), fun (removed : Option (List UInt8)) => ?_⟩
    cases removed <;> trivial

theorem follows_code (call : AllocationCall) : call.code.Follows Supplying (fun _ _ => True) () := by
  cases call with
  | allocate length initialized =>
    refine .bind ?_
    unfold HostCallbacks.allocate
    split
    · trivial
    · rename_i nonzero
      split
      · split <;> trivial
      · rename_i sized
        refine ⟨fun allocation same => ?_, fun (answer : Unwinding UInt64) => ?_⟩
        · cases same
          intro empty
          have size := (content_length sized).1
          rw [empty] at size
          exact nonzero size.symm
        · cases answer <;> trivial
  | release buffer =>
    refine .bind (.bind ((follows_reclaim buffer).imp fun reclaimed _ _ => ?_))
    cases reclaimed <;> trivial
  | takeOutput buffer =>
    refine .bind (.bind ((follows_reclaim buffer).imp fun reclaimed _ _ => ?_))
    cases reclaimed <;> trivial

theorem tracks : (system Tid).Tracks Supplying (fun _ _ => ()) (fun _ _ _ => True) () where
  start _ call _ _ _ := ⟨(), rfl, follows_code call⟩
  exec _ _ _ _ _ _ := rfl
  finish _ _ _ _ _ _ := rfl
  env _ _ _ := rfl

def AlwaysExact (r : Recorded Tid Allocations EmbedOp EmbedOp.Answer AllocationCall AllocationResult) : Prop :=
  r.state.Exact ∧ ∀ event ∈ r.events, event.before.Exact

theorem exact_of_records
    {c : Config Tid (Recorded Tid Allocations EmbedOp EmbedOp.Answer AllocationCall AllocationResult) EmbedOp
      EmbedOp.Answer AllocationCall AllocationResult}
    (records : (system Tid).Records (fun s => s = {}) c) :
    c.state.state.Exact ∧ ∀ event ∈ c.state.events, event.before.Exact := by
  have rest : ∀ r : Recorded Tid Allocations EmbedOp EmbedOp.Answer AllocationCall AllocationResult,
      (∃ s, s = {} ∧ r = { state := s }) → Tid → () = () := fun _ _ _ => rfl
  show AlwaysExact c.state
  refine tracks.recorded.invariant rest ?_ ?_ ?_ ?_ ?_ records
  · rintro r ⟨s, rfl, rfl⟩
    exact ⟨exact_empty, fun event none => absurd none List.not_mem_nil⟩
  · rintro t call r r' ⟨now, known⟩ _ ⟨s, rfl, rfl⟩
    exact ⟨now, known⟩
  · rintro t op r answer r' ⟨now, known⟩ allowed ⟨s, answered, rfl⟩
    exact ⟨exec_exact now allowed answered, List.forall_mem_cons.mpr ⟨now, known⟩⟩
  · rintro t call result r r' ⟨now, known⟩ _ ⟨s, rfl, rfl⟩
    exact ⟨now, known⟩
  · rintro r r' ⟨now, known⟩ ⟨s, written, rfl⟩
    exact ⟨now.writes written, known⟩

/-- The table against any descriptors. -/
theorem table_safe
    {c : Config Tid (Recorded Tid Allocations EmbedOp EmbedOp.Answer AllocationCall AllocationResult) EmbedOp
      EmbedOp.Answer AllocationCall AllocationResult}
    (records : (system Tid).Records (fun s => s = {}) c) : TableSafe c.state := by
  obtain ⟨now, known⟩ := exact_of_records records
  have each : ∀ {events : List (Event Tid)}, events.reverse.Sublist c.state.events → ∀ event ∈ events,
      exec event.op event.before event.answer event.after ∧ event.before.Exact := by
    intro events order event present
    have listed := order.subset (List.mem_reverse.mpr present)
    exact ⟨records.exec event listed, known event listed⟩
  constructor
  case exact => exact now
  case allocated =>
    intro t length initialized events result ended
    obtain ⟨order, taken⟩ := records.returned ended
    obtain ⟨first, second, made, rfl, left, rfl, same⟩ := Prog.takes_bind.mp taken
    cases same
    rw [List.append_nil] at order ⊢
    exact takes_allocate left fun event present => (each order event present).1
  case released =>
    intro t buffer events result ended
    obtain ⟨order, taken⟩ := records.returned ended
    obtain ⟨_, _, outcome, rfl, left, rfl, same⟩ := Prog.takes_bind.mp taken
    cases same
    obtain ⟨first, _, reclaimed, rfl, looked, right⟩ := Prog.takes_bind.mp left
    refine ⟨reclaimed, ?_⟩
    cases reclaimed <;> obtain ⟨rfl, rfl⟩ := right <;> simp only [List.append_nil] at order ⊢ <;>
      exact ⟨takes_reclaim looked (each order), rfl⟩
  case taken =>
    intro t buffer events result ended
    obtain ⟨order, taken⟩ := records.returned ended
    obtain ⟨_, _, outcome, rfl, left, rfl, same⟩ := Prog.takes_bind.mp taken
    cases same
    obtain ⟨first, _, reclaimed, rfl, looked, right⟩ := Prog.takes_bind.mp left
    refine ⟨reclaimed, ?_⟩
    cases reclaimed <;> obtain ⟨rfl, rfl⟩ := right <;> simp only [List.append_nil] at order ⊢ <;>
      exact ⟨takes_reclaim looked (each order), rfl⟩

/-- An allocation of the plugin, its content written, is taken once; the second time its descriptor is refused. -/
theorem taken_once : ∃ r : Recorded Unit Allocations EmbedOp EmbedOp.Answer AllocationCall AllocationResult,
    TableSafe r ∧ r.state.made = [(4096, 3)] ∧ r.state.consumed = [0] ∧
      r.returned.map (fun entry => entry.2.2.2) = [.taken (.error .invalidHostResult), .taken (.ok [7, 8]),
        .allocated (.returned (.ok ⟨4096, 0, 3⟩))] := by
  let take : AllocationCall := .takeOutput ⟨4096, 2, 3⟩
  have idle : (system Unit).recorded.Run ⟨{ state := {} }, fun _ => .idle⟩ ⟨{ state := {} }, fun _ => .idle⟩ := .refl
  have allocated := ((idle.start () (.allocate 3 none) rfl ⟨_, rfl, rfl⟩).act () (.insert [0, 0, 0]) (.returned 4096) rfl
    ⟨_, ⟨by decide, by decide, rfl, rfl⟩, rfl⟩).finish () rfl ⟨_, rfl, rfl⟩
  have written := allocated.env ⟨_, ⟨4096, 0, [0, 0, 0], [7, 8, 9], rfl, rfl, rfl⟩, rfl⟩
  have taken := ((written.start () take rfl ⟨_, rfl, rfl⟩).act () (.remove 4096) (some [7, 8, 9]) rfl
    ⟨_, ⟨rfl, rfl⟩, rfl⟩).finish () rfl ⟨_, rfl, rfl⟩
  have refused := ((taken.start () take rfl ⟨_, rfl, rfl⟩).act () (.remove 4096) none rfl
    ⟨_, ⟨rfl, rfl⟩, rfl⟩).finish () rfl ⟨_, rfl, rfl⟩
  exact ⟨_, table_safe ⟨_, ⟨{}, rfl, rfl⟩, refused⟩, rfl, rfl, rfl⟩

end Calls

end Allocations

end RuntimeHost.Native
