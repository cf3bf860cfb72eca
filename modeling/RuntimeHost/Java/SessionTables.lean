import RuntimeHost.Java.Sessions

namespace RuntimeHost.Java

open Foundation Function System

section History

variable {events : List NativeEvent} {event : NativeEvent} {session : Int64}

def Quiet : NativeEvent → Prop
  | .started (.loadPayload ..) => False
  | .ended (.loadPayload ..) _ => False
  | .ended (.unloadPayload ..) (.ok ()) => False
  | .ended (.destroy _) (.ok ()) => False
  | _ => True

theorem Quiet.begins (quiet : Quiet event) : event.session = none := by
  cases event with
  | started call => cases call <;> first
      | exact quiet.elim
      | rfl
  | ended call answer => rfl

theorem Quiet.ends (quiet : Quiet event) : ¬Ends session events event := by
  cases event with
  | started call => exact id
  | ended call answer =>
    cases call
    case loadPayload => exact quiet.elim
    case unloadPayload =>
      cases answer with
      | error thrown => exact id
      | ok => exact quiet.elim
    case destroy =>
      cases answer with
      | error thrown => exact id
      | ok => exact quiet.elim
    all_goals exact id

theorem Quiet.live (quiet : Quiet event) : live (event :: events) = live events := by
  cases event with
  | started call => rfl
  | ended call answer =>
    cases call
    case loadPayload => exact quiet.elim
    case unloadPayload =>
      cases answer with
      | error thrown => rfl
      | ok => exact quiet.elim
    case destroy =>
      cases answer with
      | error thrown => rfl
      | ok => exact quiet.elim
    all_goals rfl

theorem Quiet.resolvable (quiet : Quiet event) : Resolvable session (event :: events) ↔ Resolvable session events := by
  simp [Resolvable, quiet.begins, quiet.ends]

theorem mem_of_resolvable (resolvable : Resolvable session events) : session ∈ events.filterMap NativeEvent.session := by
  induction events with
  | nil => exact resolvable.elim
  | cons event earlier ih =>
    rw [List.mem_filterMap]
    rcases resolvable with begins | ⟨before, -⟩
    · exact ⟨event, List.mem_cons_self, begins⟩
    · obtain ⟨event', present, same⟩ := List.mem_filterMap.mp (ih before)
      exact ⟨event', List.mem_cons_of_mem _ present, same⟩

end History

def Matches (engine : RustNativeEngine) (events : List NativeEvent) : Prop :=
  ∀ session, (engine.sessionContexts session).isSome ↔ Resolvable session events

structure Settled (engine : RustNativeEngine) (events : List NativeEvent) : Prop where
  consistent : Consistent engine
  resolves : Matches engine events
  mirrors : ∀ payload, 0 < payload → engine.payloadSessions (toUnsignedString payload) = live events payload
  keys : ∀ payloadId, (engine.payloadSessions payloadId).isSome → ∃ payload, 0 < payload ∧ payloadId = toUnsignedString payload
  next : 0 < engine.nextSession
  below : ∀ session ∈ events.filterMap NativeEvent.session, session < engine.nextSession
  ascending : (events.filterMap NativeEvent.session).Pairwise (· > ·)
  unopened : engine.handle = 0 → engine.closed = false → ∀ session, engine.sessionContexts session = none

namespace Settled

variable {engine : RustNativeEngine} {events : List NativeEvent} {event : NativeEvent}

theorem initial : Settled {} [] where
  consistent := ⟨by simp, by simp, by simp, by simp⟩
  resolves := by simp [Matches, Resolvable]
  mirrors _ _ := rfl
  keys := by simp
  next := by decide
  below := by simp
  ascending := .nil
  unopened _ _ _ := rfl

theorem quiet (settled : Settled engine events) (quiet : Quiet event) : Settled engine (event :: events) := by
  have same : (event :: events).filterMap NativeEvent.session = events.filterMap NativeEvent.session := by
    rw [List.filterMap_cons, quiet.begins]
  have ⟨consistent, resolves, mirrors, keys, next, below, ascending, unopened⟩ := settled
  refine ⟨consistent, fun session => ?_, ?_, keys, next, ?_, ?_, unopened⟩
  · rw [quiet.resolvable]
    exact resolves session
  · rw [quiet.live]
    exact mirrors
  · rw [same]
    exact below
  · rw [same]
    exact ascending

theorem handle (settled : Settled engine events) {handle : Int64} (opened : handle ≠ 0) :
    Settled { engine with handle } events :=
  have ⟨consistent, resolves, mirrors, keys, next, below, ascending, _⟩ := settled
  ⟨⟨consistent.1, consistent.2, consistent.3, consistent.4⟩, resolves, mirrors, keys, next, below, ascending,
    fun unopened => absurd unopened opened⟩

theorem close (settled : Settled engine events) : Settled { engine with closed := true, handle := 0 } events :=
  have ⟨consistent, resolves, mirrors, keys, next, below, ascending, _⟩ := settled
  ⟨⟨consistent.1, consistent.2, consistent.3, consistent.4⟩, resolves, mirrors, keys, next, below, ascending, nofun⟩

end Settled

theorem next_session {session : Int64} (fits : ¬(session ≤ 0 ∨ session = Int64.maxValue)) :
    session < session + 1 ∧ 0 < session + 1 := by
  rw [not_or, Int64.not_le] at fits
  obtain ⟨positive, room⟩ := fits
  have upper := Int64.toInt_lt session
  have unequal : session.toInt ≠ 2 ^ 63 - 1 := fun same => room (Int64.toInt_inj.mp same)
  rw [Int64.lt_iff_toInt_lt] at positive
  have sum : (session + 1).toInt = session.toInt + 1 := by
    rw [Int64.toInt_add]
    simp only [Int64.toInt_zero, Int64.toInt_one] at positive ⊢
    rw [Int.bmod_eq_of_le] <;> omega
  rw [Int64.lt_iff_toInt_lt, Int64.lt_iff_toInt_lt, sum]
  simp only [Int64.toInt_zero] at positive ⊢
  omega

namespace Settled

variable {engine : RustNativeEngine} {events : List NativeEvent} {session payload : Int64}
  {context : RuntimePayloadContext} {handle pluginId : Int64} {packageRoot entrypoint : String}

def taken (engine : RustNativeEngine) : RustNativeEngine := { engine with nextSession := engine.nextSession + 1 }

theorem unused (settled : Settled engine events) : ¬Resolvable engine.nextSession events := fun resolvable =>
  Int64.lt_irrefl (settled.below _ (mem_of_resolvable resolvable))

theorem take (settled : Settled engine events)
    (fits : ¬(engine.nextSession ≤ 0 ∨ engine.nextSession = Int64.maxValue)) : Settled (taken engine) events := by
  have ⟨consistent, resolves, mirrors, keys, next, below, ascending, unopened⟩ := settled
  obtain ⟨later, positive⟩ := next_session fits
  exact ⟨⟨consistent.1, consistent.2, consistent.3, consistent.4⟩, resolves, mirrors, keys, positive,
    fun session present => Int64.lt_trans (below session present) later, ascending, unopened⟩

/-- The fields while the native library loads the payload of the session that has been taken. -/
def published (engine : RustNativeEngine) (context : RuntimePayloadContext) : RustNativeEngine :=
  { taken engine with sessionContexts := update engine.sessionContexts engine.nextSession (some context) }

def withdrawn (engine : RustNativeEngine) (context : RuntimePayloadContext) : RustNativeEngine :=
  { published engine context with
    sessionContexts := update (published engine context).sessionContexts engine.nextSession none }

theorem withdrawn_eq (settled : Settled engine events) (context : RuntimePayloadContext) :
    withdrawn engine context = taken engine := by
  have absent : engine.sessionContexts engine.nextSession = none := by
    rw [← Option.not_isSome_iff_eq_none, settled.resolves]
    exact settled.unused
  unfold withdrawn published
  simp only [update_idem, ← absent, update_eq_self, taken]

theorem publish (settled : Settled engine events) :
    Matches (published engine context)
      (.started (.loadPayload handle packageRoot entrypoint pluginId engine.nextSession) :: events) := by
  intro session
  have old := settled.resolves session
  simp only [published, update_apply, Resolvable, NativeEvent.session, Ends, Option.some.injEq, not_false_eq_true,
    and_true]
  split
  · rename_i same
    simp [same]
  · rename_i other
    simp [old, Ne.symm other]

theorem load_failed (settled : Settled engine events)
    (fits : ¬(engine.nextSession ≤ 0 ∨ engine.nextSession = Int64.maxValue)) {answer : Except Throwable Int64}
    (refused : ¬∃ payload : Int64, answer = .ok payload ∧ 0 < payload ∧ live events payload = none) :
    Settled (taken engine) (.ended (.loadPayload handle packageRoot entrypoint pluginId engine.nextSession) answer ::
      .started (.loadPayload handle packageRoot entrypoint pluginId engine.nextSession) :: events) := by
  have ⟨consistent, resolves, kept, keys, next, below, ascending, unopened⟩ := settled.take fits
  obtain ⟨later, -⟩ := next_session fits
  refine ⟨consistent, fun session => ?_, fun payload positive => ?_, keys, next, ?_, ?_, unopened⟩
  · have old := settled.resolves session
    have unused := settled.unused
    change (engine.sessionContexts session).isSome ↔ _
    simp only [Resolvable, NativeEvent.session, Ends, Option.some.injEq, reduceCtorEq, false_or, not_false_eq_true,
      and_true, not_and, not_not]
    rw [old]
    constructor
    · intro resolvable
      refine ⟨.inr resolvable, fun same => ?_⟩
      rw [← same] at resolvable
      exact absurd resolvable unused
    · rintro ⟨same | resolvable, accepted⟩
      · exact absurd (accepted same) refused
      · exact resolvable
  · rw [kept payload positive]
    cases answer with
    | error thrown => rfl
    | ok payload' =>
      have held : ¬(0 < payload' ∧ live events payload' = none) := fun accepted => refused ⟨payload', rfl, accepted⟩
      exact (congrFun (if_neg held) payload).symm
  · exact List.forall_mem_cons.mpr ⟨later, fun session present => below session present⟩
  · exact List.pairwise_cons.mpr ⟨settled.below, ascending⟩

theorem absent (settled : Settled engine events) (payloadId : String) :
    engine.payloadSessions payloadId ≠ some engine.nextSession := by
  intro held
  have known := (settled.consistent.values engine.nextSession).mp ⟨payloadId, held⟩
  exact settled.unused ((settled.resolves _).mp known)

theorem load_accepted (settled : Settled engine events)
    (fits : ¬(engine.nextSession ≤ 0 ∨ engine.nextSession = Int64.maxValue)) (opened : engine.handle ≠ 0)
    (positive : 0 < payload) (fresh : live events payload = none) :
    Settled { published engine context with
        payloadContexts := update engine.payloadContexts (toUnsignedString payload) (some context)
        payloadSessions := update engine.payloadSessions (toUnsignedString payload) (some engine.nextSession) }
      (.ended (.loadPayload handle packageRoot entrypoint pluginId engine.nextSession) (.ok payload) ::
        .started (.loadPayload handle packageRoot entrypoint pluginId engine.nextSession) :: events) := by
  have ⟨consistent, resolves, mirrors, keys, next, below, ascending, unopened⟩ := settled.take fits
  obtain ⟨later, -⟩ := next_session fits
  have unheld := settled.absent
  have free : engine.payloadSessions (toUnsignedString payload) = none := by
    rw [settled.mirrors payload positive, fresh]
  refine ⟨⟨fun payloadId => ?_, fun payloadId payloadId' session => ?_, fun session => ?_, fun payloadId session => ?_⟩,
    fun session => ?_, fun payload' positive' => ?_, fun payloadId => ?_, next, ?_, ?_,
    fun unopened => absurd unopened opened⟩
  · have old := settled.consistent.keys payloadId
    simp only [update_apply]
    split
    · simp
    · exact old
  · have old := settled.consistent.injective payloadId payloadId' session
    simp only [update_apply]
    split <;> split
    · rename_i here here'
      exact fun _ _ => here.trans here'.symm
    · rintro ⟨⟩ other
      exact absurd other (unheld payloadId')
    · rintro other ⟨⟩
      exact absurd other (unheld payloadId)
    · exact old
  · have old := settled.consistent.values session
    simp only [published, update_apply]
    by_cases mine : session = engine.nextSession
    · subst mine
      simp only [if_true, Option.isSome_some, iff_true]
      exact ⟨toUnsignedString payload, if_pos rfl⟩
    · rw [if_neg mine, ← old]
      constructor
      · rintro ⟨payloadId, held⟩
        split at held
        · exact absurd (Option.some.inj held).symm mine
        · exact ⟨payloadId, held⟩
      · rintro ⟨payloadId, held⟩
        refine ⟨payloadId, ?_⟩
        rw [if_neg]
        · exact held
        · rintro rfl
          rw [free] at held
          cases held
  · have old := settled.consistent.contexts payloadId session
    simp only [published, update_apply]
    split
    · rintro ⟨⟩
      rw [if_pos rfl]
    · intro held
      rw [if_neg]
      · exact old held
      · rintro rfl
        exact absurd held (unheld payloadId)
  · have old := settled.resolves session
    simp only [published, update_apply, Resolvable, NativeEvent.session, Ends, Option.some.injEq, reduceCtorEq, false_or,
      not_false_eq_true, and_true, not_and, not_not]
    by_cases mine : session = engine.nextSession
    · subst mine
      simp only [if_true, Option.isSome_some, true_or, true_and, true_iff]
      exact fun _ => ⟨payload, rfl, positive, fresh⟩
    · rw [if_neg mine, old]
      constructor
      · exact fun resolvable => ⟨.inr resolvable, fun same => absurd same.symm mine⟩
      · rintro ⟨same | resolvable, -⟩
        · exact absurd same.symm mine
        · exact resolvable
  · have old := settled.mirrors payload' positive'
    have shape : live (.ended (.loadPayload handle packageRoot entrypoint pluginId engine.nextSession) (.ok payload) ::
        .started (.loadPayload handle packageRoot entrypoint pluginId engine.nextSession) :: events) =
        update (live events) payload (some engine.nextSession) := if_pos ⟨positive, fresh⟩
    rw [shape]
    simp only [update_apply, toUnsignedString_inj, old]
  · have old := settled.keys payloadId
    simp only [update_apply]
    split
    · rename_i same
      exact fun _ => ⟨payload, positive, same⟩
    · exact old
  · exact List.forall_mem_cons.mpr ⟨later, fun session present => below session present⟩
  · exact List.pairwise_cons.mpr ⟨settled.below, ascending⟩

def unloaded (engine : RustNativeEngine) (payloadId : String) : RustNativeEngine :=
  { engine with
    payloadContexts := update engine.payloadContexts payloadId none
    payloadSessions := update engine.payloadSessions payloadId none
    sessionContexts := match engine.payloadSessions payloadId with
      | some session => update engine.sessionContexts session none
      | none => engine.sessionContexts }

theorem unload (settled : Settled engine events) (available : engine.handle ≠ 0) (positive : 0 < payload)
    (active : (engine.payloadContexts (toUnsignedString payload)).isSome) :
    Settled (unloaded engine (toUnsignedString payload))
      (.ended (.unloadPayload handle payload) (.ok ()) :: .started (.unloadPayload handle payload) :: events) := by
  obtain ⟨session, held⟩ := Option.isSome_iff_exists.mp ((settled.consistent.keys _).mp active)
  have known : live events payload = some session := by rw [← settled.mirrors payload positive, held]
  have others : ∀ payloadId session', engine.payloadSessions payloadId = some session' →
      (payloadId = toUnsignedString payload ↔ session' = session) := by
    intro payloadId session' held'
    refine ⟨?_, ?_⟩
    · rintro rfl
      exact Option.some.inj (held'.symm.trans held)
    · rintro rfl
      exact settled.consistent.injective _ _ _ held' held
  have ⟨consistent, resolves, mirrors, keys, next, below, ascending, unopened⟩ := settled
  unfold unloaded
  simp only [held]
  refine ⟨⟨fun payloadId => ?_, fun payloadId payloadId' session' => ?_, fun session' => ?_,
    fun payloadId session' => ?_⟩, fun session' => ?_, fun payload' positive' => ?_, fun payloadId => ?_, next, below,
    ascending, fun unopened => absurd unopened available⟩
  · have old := consistent.keys payloadId
    simp only [update_apply]
    split
    · simp
    · exact old
  · have old := consistent.injective payloadId payloadId' session'
    simp only [update_apply]
    split
    · nofun
    · split
      · nofun
      · exact old
  · have old := consistent.values session'
    simp only [update_apply]
    split
    · rename_i same
      subst same
      simp only [Option.isSome_none, Bool.false_eq_true, iff_false, not_exists]
      intro payloadId held'
      split at held'
      · cases held'
      · rename_i other
        exact other ((others payloadId session' held').mpr rfl)
    · rename_i other
      rw [← old]
      constructor
      · rintro ⟨payloadId, held'⟩
        split at held'
        · cases held'
        · exact ⟨payloadId, held'⟩
      · rintro ⟨payloadId, held'⟩
        exact ⟨payloadId, by rw [if_neg (mt (others payloadId session' held').mp other)]; exact held'⟩
  · have old := consistent.contexts payloadId session'
    simp only [update_apply]
    split
    · nofun
    · rename_i other
      intro held'
      rw [if_neg (mt (others payloadId session' held').mpr other)]
      exact old held'
  · have old := resolves session'
    have ends : live (.started (.unloadPayload handle payload) :: events) payload = some session := known
    simp only [update_apply, Resolvable, NativeEvent.session, Ends, reduceCtorEq, false_or, not_false_eq_true, and_true,
      ends, Option.some.injEq]
    split
    · rename_i same
      simp [same]
    · rename_i other
      simp [old, Ne.symm other]
  · have old := mirrors payload' positive'
    have shape : live (.ended (.unloadPayload handle payload) (.ok ()) ::
        .started (.unloadPayload handle payload) :: events) = update (live events) payload none := rfl
    rw [shape]
    simp only [update_apply, toUnsignedString_inj, old]
  · have old := keys payloadId
    simp only [update_apply]
    split
    · nofun
    · exact old

def cleared (engine : RustNativeEngine) : RustNativeEngine :=
  { engine with
    closed := true
    handle := 0
    payloadContexts := fun _ => none
    payloadSessions := fun _ => none
    sessionContexts := fun _ => none }

theorem cleared_consistent : Consistent (cleared engine) := by
  refine ⟨?_, ?_, ?_, ?_⟩ <;> simp [cleared]

theorem destroy (settled : Settled engine events) :
    Settled (cleared engine) (.ended (.destroy handle) (.ok ()) :: .started (.destroy handle) :: events) where
  consistent := cleared_consistent
  resolves session := by simp [cleared, Resolvable, NativeEvent.session, Ends]
  mirrors _ _ := rfl
  keys := by simp [cleared]
  next := settled.next
  below := settled.below
  ascending := settled.ascending
  unopened _ := nofun

theorem clear (settled : Settled engine events) (unopened : engine.handle = 0) (running : engine.closed = false) :
    Settled (cleared engine) events := by
  have empty := settled.unopened unopened running
  have nothing : ∀ payloadId, engine.payloadSessions payloadId = none := by
    intro payloadId
    rw [Option.eq_none_iff_forall_ne_some]
    intro session held
    have known := (settled.consistent.values session).mp ⟨payloadId, held⟩
    rw [empty session] at known
    cases known
  exact {
    consistent := cleared_consistent
    resolves := fun session => by rw [← settled.resolves session, empty session]; rfl
    mirrors := fun payload positive => by rw [← settled.mirrors payload positive, nothing]; rfl
    keys := by simp [cleared]
    next := settled.next
    below := settled.below
    ascending := settled.ascending
    unopened := fun _ => nofun }

end Settled

end RuntimeHost.Java
