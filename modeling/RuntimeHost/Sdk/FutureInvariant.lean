import RuntimeHost.Foundation.History
import RuntimeHost.Sdk.Future

namespace RuntimeHost.Sdk

open Foundation Function

variable {Tid : Type}

def FutureEvent.thread : FutureEvent Tid → Tid
  | .created t _ _ => t
  | .settled t _ _ => t
  | .observed t _ _ => t
  | .returned t _ _ => t

def Justified (events : List (FutureEvent Tid)) (t : Tid) : FutureCall → FutureResult → Prop
  | .pair, .pair made => ∀ callback future, made = .ok (callback, future) ↔ .created t callback future ∈ events
  | .complete callback result, .complete outcome =>
    outcome = .ok () ↔ .settled t callback.entry (.complete result) ∈ events
  | .cancel future, .cancel won => won = true ↔ .settled t future.entry .cancelled ∈ events
  | .poll future, .report outcome => ∃ state, .observed t future.entry state ∈ events ∧ outcome = state.report
  | .wait future, .report outcome =>
    ∃ state, .observed t future.entry state ∈ events ∧ outcome = state.report ∧ outcome.isSome
  | .drop _, .unit => True
  | .close, .unit => True
  | _, _ => False

def Permitted (earlier : List (FutureEvent Tid)) : FutureEvent Tid → Prop
  | .created .. => ∀ t result, .returned t .close result ∉ earlier
  | .settled _ entry state => state ≠ .pending ∧ ∀ t state', .settled t entry state' ∉ earlier
  | .observed _ entry state =>
    (∀ t state', .settled t entry state' ∈ earlier → state = state') ∧
      (state = .pending ∨ ∃ t, .settled t entry state ∈ earlier)
  | .returned t call result => Justified earlier t call result

theorem justified_congr {events events' : List (FutureEvent Tid)} {t : Tid} {call : FutureCall}
    {result : FutureResult} (same : ∀ event, event.thread = t → (event ∈ events ↔ event ∈ events')) :
    Justified events t call result ↔ Justified events' t call result := by
  have own := fun callback future => same (.created t callback future) rfl
  have own' := fun entry state => same (.settled t entry state) rfl
  have own'' := fun entry state => same (.observed t entry state) rfl
  unfold Justified
  split <;> simp only [own, own', own'']

inductive FuturePhase where
  | resting
  | locked (entry : EntryRef)
  | decided (entry : EntryRef)
  | removing (future : PluginFuture)
  | closing (entries : List EntryRef)

def FuturePhase.Holds (entry : EntryRef) : FuturePhase → Prop
  | .locked entry' => entry' = entry
  | .decided entry' => entry' = entry
  | _ => False

theorem FuturePhase.Holds.unique {phase : FuturePhase} {r r' : EntryRef} (held : phase.Holds r)
    (held' : phase.Holds r') : r = r' := by
  cases phase <;> simp_all [FuturePhase.Holds]

structure FutureLocal (Tid : Type) where
  phase : FuturePhase := .resting
  call : Option FutureCall := none
  given : Option (UInt64 × EntryRef) := none
  own : List (FutureEvent Tid) := []

structure Futures.Inv (s : Futures Tid) (L : Tid → FutureLocal Tid) : Prop where
  holder : ∀ r t, s.holder r = some t ↔ (L t).phase.Holds r
  own : ∀ event, event ∈ s.history ↔ event ∈ (L event.thread).own
  fresh : ∀ t, s.begun t = none → L t = {}
  call : ∀ t, (L t).call = s.begun t
  given : ∀ t id r, (L t).given = some (id, r) → Issued s.history id r
  issued : ∀ id r, Issued s.history id r → r < s.allocated
  unique : ∀ id id' r, Issued s.history id r → Issued s.history id' r → id = id'
  registered : ∀ id r, s.registry.entries.lookup id = some r →
    Issued s.history id r ∧ (s.entry r = .pending ∨ ∃ t, (L t).phase = .removing ⟨id, r⟩)
  pending : ∀ id r, Issued s.history id r → s.entry r = .pending →
    s.registry.entries.lookup id = some r ∨ ∃ t entries, (L t).phase = .closing entries ∧ r ∈ entries
  alive : ∀ id r, Issued s.history id r → s.entry r = .pending → s.live r = true
  closed : s.registry.closed = true → s.registry.entries = ∅
  closing : ∀ t entries, (L t).phase = .closing entries →
    s.begun t = some .close ∧ s.registry.closed = true ∧ ∀ r ∈ entries, r < s.allocated
  returned : ∀ t result, .returned t .close result ∈ s.history →
    s.registry.closed = true ∧ ∀ entries, (L t).phase ≠ .closing entries
  removing : ∀ t future, (L t).phase = .removing future →
    future.entry < s.allocated ∧ s.entry future.entry ≠ .pending
  locked : ∀ t r, (L t).phase = .locked r → r < s.allocated ∧ s.entry r = .pending
  decided : ∀ t r, (L t).phase = .decided r → r < s.allocated ∧ s.entry r ≠ .pending
  settled : ∀ t r state, .settled t r state ∈ s.history → r < s.allocated ∧ s.entry r = state ∧ state ≠ .pending
  unsettled : ∀ r, r < s.allocated → s.entry r ≠ .pending → ∃ t, .settled t r (s.entry r) ∈ s.history
  taken : ∀ t entries, (L t).phase = .closing entries → ∀ r ∈ entries, r ∈ s.drained t
  legal : Legal Permitted s.history

namespace Futures

variable [DecidableEq Tid] {s : Futures Tid} {L : Tid → FutureLocal Tid} {t : Tid}

omit [DecidableEq Tid] in
theorem issued_created {r r' : EntryRef} {id id' : UInt64} {history : List (FutureEvent Tid)} :
    Issued (.created t ⟨id, r⟩ ⟨id, r⟩ :: history) id' r' ↔ (id' = id ∧ r' = r) ∨ Issued history id' r' := by
  simp only [Issued, List.mem_cons, FutureEvent.created.injEq, Callback.mk.injEq, PluginFuture.mk.injEq]
  grind

omit [DecidableEq Tid] in
theorem issued_settled {r r' : EntryRef} {id : UInt64} {state : EntryState} {history : List (FutureEvent Tid)} :
    Issued (.settled t r state :: history) id r' ↔ Issued history id r' := by
  simp [Issued]

omit [DecidableEq Tid] in
theorem issued_observed {r r' : EntryRef} {id : UInt64} {state : EntryState} {history : List (FutureEvent Tid)} :
    Issued (.observed t r state :: history) id r' ↔ Issued history id r' := by
  simp [Issued]

omit [DecidableEq Tid] in
theorem issued_returned {r : EntryRef} {id : UInt64} {call : FutureCall} {result : FutureResult}
    {history : List (FutureEvent Tid)} :
    Issued (.returned t call result :: history) id r ↔ Issued history id r := by
  simp [Issued]

theorem inv_lock {r : EntryRef} {phase : FuturePhase} (inv : s.Inv L) (begun : (s.begun t).isSome)
    (resting : (L t).phase = .resting) (bound : r < s.allocated) (free : s.holder r = none)
    (right : (phase = .locked r ∧ s.entry r = .pending) ∨ (phase = .decided r ∧ s.entry r ≠ .pending)) :
    Inv { s with holder := update s.holder r (some t) } (update L t { L t with phase }) := by
  have ⟨holder, own, fresh, call, given, issued, unique, registered, pending, alive, closed, closing, returned, removing,
    locked, decided, settled, unsettled, taken, legal⟩ := inv
  refine { inv with holder := ?holder, own := ?own, fresh := ?fresh, call := ?call, given := ?given, registered := ?registered,
                    pending := ?pending, closing := ?closing, returned := ?returned,
                    removing := ?removing, locked := ?locked, decided := ?decided, taken := ?taken } <;> simp only [update_apply]
  all_goals grind [FuturePhase.Holds, Issued]

theorem inv_unlock {r : EntryRef} (inv : s.Inv L) (held : (L t).phase.Holds r) :
    Inv { s with holder := update s.holder r none } (update L t { L t with phase := .resting }) := by
  have ⟨holder, own, fresh, call, given, issued, unique, registered, pending, alive, closed, closing, returned, removing,
    locked, decided, settled, unsettled, taken, legal⟩ := inv
  refine { inv with holder := ?holder, own := ?own, fresh := ?fresh, call := ?call, given := ?given, registered := ?registered,
                    pending := ?pending, closing := ?closing, returned := ?returned,
                    removing := ?removing, locked := ?locked, decided := ?decided, taken := ?taken } <;> simp only [update_apply]
  case holder =>
    intro r' t'
    have := fun held' => (FuturePhase.Holds.unique held held' : _ = r')
    grind [FuturePhase.Holds]
  all_goals grind [FuturePhase.Holds, Issued]

theorem inv_settle {r : EntryRef} {state : EntryState} {phase : FuturePhase}
    (entries : AList fun _ : UInt64 => EntryRef) (inv : s.Inv L) (begun : (s.begun t).isSome)
    (bound : r < s.allocated) (waiting : s.entry r = .pending) (terminal : state ≠ .pending)
    (access : s.holder r = none ∨ s.holder r = some t)
    (kept : ∀ id r', r' ≠ r → (entries.lookup id = some r' ↔ s.registry.entries.lookup id = some r'))
    (here : ∀ id, entries.lookup id = some r → s.registry.entries.lookup id = some r ∧ phase = .removing ⟨id, r⟩)
    (empty : s.registry.closed = true → entries = ∅)
    (step : (phase = .decided r ∧ (L t).phase = .locked r) ∨
      (∃ id, phase = .removing ⟨id, r⟩ ∧ (L t).phase = .resting) ∨
      ∃ rest, phase = .closing rest ∧ (L t).phase = .closing (r :: rest)) :
    Inv ({ s with registry := { s.registry with entries } }.settle t r state)
      (update L t { L t with phase, own := .settled t r state :: (L t).own }) := by
  obtain ⟨holder, own, fresh, call, given, issued, unique, registered, pending, alive, closed, closing, returned, removing,
    locked, decided, settled, unsettled, taken, legal⟩ := inv
  have fired : ∀ t state', .settled t r state' ∉ s.history := by grind
  constructor <;>
    try simp only [settle, log, issued_settled, update_apply, List.mem_cons, reduceCtorEq, false_or]
  case legal => exact legal_cons legal ⟨terminal, fired⟩
  case registered =>
    intro id r' found
    by_cases one : r' = r
    · subst one
      obtain ⟨old, removing⟩ := here id found
      grind
    · have := registered id r' ((kept id r' one).mp found)
      grind
  case pending =>
    intro id r' made waiting'
    split at waiting'
    · exact absurd waiting' terminal
    · rename_i other
      have := pending id r' made waiting'
      grind
  case locked =>
    intro t' r' place
    have := holder r' t'
    split at place
    · grind [FuturePhase.Holds]
    · rename_i other
      have := locked t' r' place
      grind [FuturePhase.Holds]
  case unsettled =>
    intro r' made fired
    split at fired
    · rename_i one
      exact ⟨t, .inl (by simp [one])⟩
    · rename_i other
      obtain ⟨t', old⟩ := unsettled r' made fired
      exact ⟨t', .inr (by simpa [other] using old)⟩
  all_goals grind [FuturePhase.Holds, FutureEvent.thread]

theorem inv_observe {r : EntryRef} (inv : s.Inv L) (begun : (s.begun t).isSome) (bound : r < s.allocated) :
    Inv (s.log (.observed t r (s.entry r)))
      (update L t { L t with own := .observed t r (s.entry r) :: (L t).own }) := by
  have ⟨holder, own, fresh, call, given, issued, unique, registered, pending, alive, closed, closing, returned, removing,
    locked, decided, settled, unsettled, taken, legal⟩ := inv
  have once : ∀ t' state, .settled t' r state ∈ s.history → s.entry r = state := by grind
  have fired : s.entry r = .pending ∨ ∃ t', .settled t' r (s.entry r) ∈ s.history := by grind
  constructor <;>
    try simp only [log, issued_observed, update_apply, List.mem_cons, reduceCtorEq, false_or]
  case legal => exact legal_cons legal ⟨once, fired⟩
  all_goals grind [FutureEvent.thread]

theorem inv_skip {entries : List EntryRef} {phase : FuturePhase} (inv : s.Inv L)
    (place : (L t).phase = .closing entries)
    (step : (∃ r rest, entries = r :: rest ∧ s.entry r ≠ .pending ∧ phase = .closing rest) ∨
      (entries = [] ∧ phase = .resting)) :
    Inv s (update L t { L t with phase }) := by
  have ⟨holder, own, fresh, call, given, issued, unique, registered, pending, alive, closed, closing, returned, removing,
    locked, decided, settled, unsettled, taken, legal⟩ := inv
  refine { inv with holder := ?holder, own := ?own, fresh := ?fresh, call := ?call, given := ?given, registered := ?registered,
                    pending := ?pending, closing := ?closing, returned := ?returned,
                    removing := ?removing, locked := ?locked, decided := ?decided, taken := ?taken } <;> simp only [update_apply]
  all_goals grind [FuturePhase.Holds]

theorem inv_remove {future : PluginFuture} (inv : s.Inv L)
    (place : (L t).phase = .removing future) :
    Inv { s with registry := s.registry.remove future.id future.entry }
      (update L t { L t with phase := .resting }) := by
  have ⟨holder, own, fresh, call, given, issued, unique, registered, pending, alive, closed, closing, returned, removing,
    locked, decided, settled, unsettled, taken, legal⟩ := inv
  have lookup := s.registry.remove_lookup future.id future.entry
  refine { inv with holder := ?holder, own := ?own, fresh := ?fresh, call := ?call, given := ?given, registered := ?registered,
                    pending := ?pending, closed := ?closed, closing := ?closing, returned := ?returned,
                    removing := ?removing, locked := ?locked, decided := ?decided, taken := ?taken } <;>
    try simp only [update_apply, RegistryState.remove_closed, lookup]
  case closed =>
    intro shut
    unfold RegistryState.remove
    split
    · rw [closed shut]
      rfl
    · exact closed shut
  case registered =>
    intro id r ⟨listed, other⟩
    have := registered id r listed
    grind [Issued]
  case pending =>
    intro id r made waiting
    have := pending id r made waiting
    grind
  all_goals grind [FuturePhase.Holds]

theorem inv_drain (inv : s.Inv L) (begun : s.begun t = some .close) (silent : (L t).own = [])
    (resting : (L t).phase = .resting) :
    Inv { s with registry := s.registry.drain.1, drained := update s.drained t s.registry.drain.2 }
      (update L t { L t with phase := .closing s.registry.drain.2 }) := by
  have ⟨holder, own, fresh, call, given, issued, unique, registered, pending, alive, closed, closing, returned, removing,
    locked, decided, settled, unsettled, taken, legal⟩ := inv
  have drained := fun r => (s.registry.mem_drain : r ∈ s.registry.drain.2 ↔ _)
  refine { inv with holder := ?holder, own := ?own, fresh := ?fresh, call := ?call, given := ?given, registered := ?registered,
                    pending := ?pending, closed := ?closed, closing := ?closing, returned := ?returned,
                    removing := ?removing, locked := ?locked, decided := ?decided, taken := ?taken } <;>
    try simp only [update_apply]
  case registered =>
    intro id r found
    cases found
  case pending =>
    intro id r made waiting
    right
    rcases pending id r made waiting with listed | ⟨t', entries, place, present⟩
    · exact ⟨t, s.registry.drain.2, by simp, drained r |>.mpr ⟨id, listed⟩⟩
    · exact ⟨t', entries, by grind, present⟩
  case closed => exact fun _ => rfl
  case returned =>
    intro t' result shut
    refine ⟨rfl, fun entries place => ?_⟩
    have mine := (own _).mp shut
    have := returned t' result shut
    grind [FutureEvent.thread]
  case closing =>
    intro t' entries place
    split at place
    · rename_i same
      cases place
      refine ⟨same ▸ begun, rfl, fun r present => ?_⟩
      obtain ⟨id, listed⟩ := drained r |>.mp present
      exact issued id r (registered id r listed).1
    · have := closing t' entries place
      exact ⟨this.1, rfl, this.2.2⟩
  all_goals grind [FuturePhase.Holds]

theorem inv_pair {id : UInt64} {registry : RegistryState} (inv : s.Inv L) (begun : (s.begun t).isSome)
    (resting : (L t).phase = .resting) (accepted : s.registry.pair s.allocated = .ok (id, registry)) :
    Inv ({ s with
        registry
        entry := update s.entry s.allocated .pending
        allocated := s.allocated + 1
        live := update s.live s.allocated true }.log (.created t ⟨id, s.allocated⟩ ⟨id, s.allocated⟩))
      (update L t { L t with
        own := .created t ⟨id, s.allocated⟩ ⟨id, s.allocated⟩ :: (L t).own }) := by
  have ⟨holder, own, fresh, call, given, issued, unique, registered, pending, alive, closed, closing, returned, removing,
    locked, decided, settled, unsettled, taken, legal⟩ := inv
  obtain ⟨open', vacant, rfl⟩ := RegistryState.pair_eq_ok accepted
  constructor <;>
    try simp only [log, issued_created, update_apply, List.mem_cons, reduceCtorEq, false_or]
  case legal =>
    refine legal_cons legal fun t' result shut => ?_
    rw [(returned t' result shut).1] at open'
    cases open'
  case registered =>
    intro id' r found
    by_cases here : id' = id
    · subst here
      rw [AList.lookup_insert] at found
      cases found
      exact ⟨.inl ⟨rfl, rfl⟩, .inl (if_pos rfl)⟩
    · rw [AList.lookup_insert_ne here] at found
      have := registered id' r found
      grind
  case pending =>
    intro id' r made waiting
    rcases made with ⟨rfl, rfl⟩ | old
    · exact .inl (AList.lookup_insert _)
    · have bound := issued id' r old
      rw [if_neg (Nat.ne_of_lt bound)] at waiting
      rcases pending id' r old waiting with listed | ⟨t', entries, place, present⟩
      · have other : id' ≠ id := by
          rintro rfl
          exact vacant (AList.lookup_isSome.mp (by rw [listed]; rfl))
        exact .inl (by rw [AList.lookup_insert_ne other, listed])
      · exact .inr ⟨t', entries, by grind, present⟩
  all_goals grind [FutureEvent.thread]

omit [DecidableEq Tid] in
theorem Inv.bound (inv : s.Inv L) {id : UInt64} {r : EntryRef} (given : (L t).given = some (id, r)) :
    r < s.allocated :=
  inv.issued id r (inv.given t id r given)

omit [DecidableEq Tid] in
theorem inv_forget {r : EntryRef} (inv : s.Inv L) (terminal : s.entry r ≠ .pending) :
    Inv { s with live := update s.live r false } L := by
  refine { inv with alive := ?_ }
  intro id r' made waiting
  have other : r' ≠ r := by
    rintro rfl
    exact terminal waiting
  simpa [update_of_ne other] using inv.alive id r' made waiting

theorem inv_begin {call : FutureCall} {given : Option (UInt64 × EntryRef)} (inv : s.Inv L)
    (idle : s.begun t = none) (issued : ∀ id r, given = some (id, r) → Issued s.history id r) :
    Inv { s with begun := update s.begun t (some call) } (update L t { call := some call, given }) := by
  have had := issued
  have ⟨holder, own, fresh, call, given, issued, unique, registered, pending, alive, closed, closing, returned, removing,
    locked, decided, settled, unsettled, taken, legal⟩ := inv
  refine { inv with holder := ?holder, own := ?own, fresh := ?fresh, call := ?call, given := ?given, registered := ?registered,
                    pending := ?pending, closing := ?closing, returned := ?returned,
                    removing := ?removing, locked := ?locked, decided := ?decided, taken := ?taken } <;> simp only [update_apply]
  all_goals grind [Issued]

theorem inv_return {call : FutureCall} {result : FutureResult} (inv : s.Inv L) (begun : (s.begun t).isSome)
    (resting : (L t).phase = .resting) (justified : Justified (L t).own t call result)
    (shut : call = .close → s.registry.closed = true) :
    Inv (s.log (.returned t call result))
      (update L t { L t with own := .returned t call result :: (L t).own }) := by
  have ⟨holder, own, fresh, call, given, issued, unique, registered, pending, alive, closed, closing, returned, removing,
    locked, decided, settled, unsettled, taken, legal⟩ := inv
  constructor <;>
    try simp only [log, issued_returned, update_apply, List.mem_cons, reduceCtorEq, false_or]
  case legal => 
    refine legal_cons legal ((justified_congr fun event mine => ?_).mpr justified)
    rw [own event, mine]
  all_goals grind [FutureEvent.thread]

end Futures

end RuntimeHost.Sdk
