import RuntimeHost.Java.SessionTables

namespace RuntimeHost.Java

open Foundation Function System

theorem Settled.called {engine : RustNativeEngine} {events : List NativeEvent} {call : NativeCall}
    {answer : Except Throwable call.Returns} (settled : Settled engine events) (started : Quiet (.started call))
    (ended : Quiet (.ended call answer)) : Settled engine (.ended call answer :: .started call :: events) :=
  (settled.quiet started).quiet ended

structure Inside where
  engine : RustNativeEngine
  events : List NativeEvent
  calling : Bool

/-- What a thread knows: the state it is alone with, if it is in the monitor, and the fields as its last method found and
left them. -/
structure JavaLocal where
  inside : Option Inside := none
  before : RustNativeEngine := {}
  after : RustNativeEngine := {}

def Ascending (events : List NativeEvent) : Prop := (events.filterMap NativeEvent.session).Pairwise (· > ·)

namespace JavaProg

variable {α β : Type}

/-- Alone with the fields, the program has every session table right whenever it is in native code. -/
def Within (post : α → Inside → Prop) : JavaProg α → Inside → Prop
  | .done a, x => x.calling = false ∧ post a x
  | .act .self next, x => Within post (next x.engine) x
  | .act (.assign engine) next, x => x.calling = false ∧ Within post (next ()) { x with engine }
  | .act (.resolvePath _ _) next, x => ∀ answer, Within post (next answer) x
  | .act (.enter call) next, x => Matches x.engine (.started call :: x.events) ∧ Ascending (.started call :: x.events) ∧
    Within post (next ()) ⟨x.engine, .started call :: x.events, true⟩
  | .act (.leave call) next, x => ∀ answer, Within post (next answer) ⟨x.engine, .ended call answer :: x.events, false⟩
  | .act .enterMonitor _, _ => False
  | .act .exitMonitor _, _ => False

theorem Within.self {post : α → Inside → Prop} {f : RustNativeEngine → JavaProg α} {x : Inside}
    (within : Within post (f x.engine) x) : Within post (JavaProg.self >>= f) x := within

theorem Within.bind {post : β → Inside → Prop} {p : JavaProg α} {f : α → JavaProg β} {x : Inside}
    (within : Within (fun a x' => Within post (f a) x') p x) : Within post (p >>= f) x := by
  induction p generalizing x with
  | done a => exact within.2
  | act op next ih =>
    cases op with
    | self => exact ih _ within
    | assign engine => exact ⟨within.1, ih () within.2⟩
    | resolvePath packagePath entrypoint => exact fun answer => ih answer (within answer)
    | enter call => exact ⟨within.1, within.2.1, ih () within.2.2⟩
    | leave call => exact fun answer => ih answer (within answer)
    | enterMonitor => exact within
    | exitMonitor => exact within

theorem within_native {engine : RustNativeEngine} {events : List NativeEvent} {call : NativeCall}
    {post : Except Throwable call.Returns → Inside → Prop} (settled : Settled engine events) (quiet : Quiet (.started call))
    (rest : ∀ answer, post answer ⟨engine, .ended call answer :: .started call :: events, false⟩) :
    Within post (native call) ⟨engine, events, false⟩ :=
  ⟨(settled.quiet quiet).resolves, (settled.quiet quiet).ascending, fun answer => ⟨rfl, rest answer⟩⟩

end JavaProg

variable {Tid : Type} {s s' : Monitored Tid} {L : Tid → JavaLocal} {t : Tid}

def Keeping (r : Returned) : Prop :=
  Consistent r.before ∧ Consistent r.after ∧ ∀ thrown, r.result = .error thrown → SameTables r.before r.after

namespace Monitored

structure Inv (s : Monitored Tid) (L : Tid → JavaLocal) : Prop where
  owner : ∀ t, s.monitor = some t ↔ (L t).inside.isSome
  alone : ∀ t x, (L t).inside = some x → x = ⟨s.engine, s.events, s.calling⟩
  free : s.monitor = none → s.calling = false ∧ Settled s.engine s.events
  calling : s.calling = true → Matches s.engine s.events
  ascending : Ascending s.events
  spans : ∀ t, (L t).before = s.entered t ∧ (L t).after = s.left t
  returned : ∀ r ∈ s.returned, Keeping r

variable [DecidableEq Tid]

theorem Inv.inside {x : Inside} {before after : RustNativeEngine} (inv : s.Inv L)
    (here : L t = ⟨some x, before, after⟩) (x' : Inside) (calling : x'.calling = true → Matches x'.engine x'.events) (ascending : Ascending x'.events) :
    Inv { s with engine := x'.engine, events := x'.events, calling := x'.calling }
      (update L t ⟨some x', before, after⟩) := by
  have owner := (inv.owner t).mpr (by rw [here]; rfl)
  refine ⟨fun t' => ?_, fun t' y => ?_, fun free => ?_, calling, ascending, fun t' => ?_, inv.returned⟩
  · have old := inv.owner t'
    by_cases same : t' = t
    · subst same
      simpa using owner
    · simpa [same] using old
  · by_cases same : t' = t
    · subst same
      simp only [update_self, Option.some.injEq]
      exact fun same => same.symm
    · simp only [update_of_ne same]
      intro held
      have also := (inv.owner t').mpr (by rw [held]; rfl)
      rw [owner] at also
      exact absurd (Option.some.inj also).symm same
  · rw [owner] at free
    cases free
  · have old := inv.spans t'
    by_cases same : t' = t
    · subst same
      simpa [here] using old
    · simpa [same] using old

theorem safe_within {α : Type} {p : JavaProg α} {x : Inside} {post : α → Inside → Prop}
    {before after : RustNativeEngine} (ascending : Ascending x.events) (within : p.Within post x) :
    (system Tid).Safe Inv t (fun a l => ∃ x', l = ⟨some x', before, after⟩ ∧ x'.calling = false ∧ post a x') p
      ⟨some x, before, after⟩ := by
  induction p generalizing x with
  | done a => exact ⟨x, rfl, within⟩
  | act op next ih =>
    intro s L inv here answer s' answered
    have known := inv.alone t x (by rw [here])
    subst known
    cases op with
    | enterMonitor => exact within.elim
    | exitMonitor => exact within.elim
    | self =>
      obtain ⟨rfl, rfl⟩ := answered
      exact ⟨_, ih _ ascending within, by simpa [← here] using inv⟩
    | assign engine =>
      cases answered
      have idle : s.calling = false := within.1
      refine ⟨_, ih () (x := ⟨engine, s.events, s.calling⟩) ascending within.2,
        inv.inside here ⟨engine, s.events, s.calling⟩ (fun calling => ?_) ascending⟩
      rw [show _ = false from idle] at calling
      cases calling
    | resolvePath packagePath entrypoint =>
      cases answered
      exact ⟨_, ih _ ascending (within answer), by simpa [← here] using inv⟩
    | enter call =>
      cases answered
      exact ⟨_, ih () within.2.1 within.2.2,
        inv.inside here ⟨s.engine, .started call :: s.events, true⟩ (fun _ => within.1) within.2.1⟩
    | leave call =>
      cases answered
      refine ⟨_, ih answer ?_ (within answer),
        inv.inside here ⟨s.engine, .ended call answer :: s.events, false⟩ (fun calling => ?_) ascending⟩
      · exact ascending
      · cases calling

/-- What a method leaves behind: it found the tables in order, and it left them so; if it threw, it left them as they
were. -/
def Left {α : Type} (result : Except Throwable α) (l : JavaLocal) : Prop :=
  l.inside = none ∧ Consistent l.before ∧ Consistent l.after ∧ ∀ thrown, result = .error thrown → SameTables l.before l.after

theorem Inv.enter (inv : s.Inv L) (free : s.monitor = none) :
    Inv { s with monitor := some t, entered := update s.entered t s.engine }
      (update L t ⟨some ⟨s.engine, s.events, false⟩, s.engine, (L t).after⟩) := by
  obtain ⟨idle, settled⟩ := inv.free free
  have nobody : ∀ t', ¬(L t').inside.isSome := by
    intro t' inside
    rw [← inv.owner t', free] at inside
    cases inside
  refine ⟨fun t' => ?_, fun t' x => ?_, nofun, inv.calling, inv.ascending, fun t' => ?_, inv.returned⟩
  · by_cases same : t' = t
    · subst same
      simp
    · simp [same, Ne.symm same, nobody t']
  · by_cases same : t' = t
    · subst same
      simp only [update_self, Option.some.injEq, idle]
      exact fun same => same.symm
    · simp only [update_of_ne same]
      intro held
      exact absurd (by rw [held]; rfl) (nobody t')
  · have old := inv.spans t'
    by_cases same : t' = t
    · subst same
      simpa using old.2
    · simpa [same] using old

theorem Inv.exit {x : Inside} {before after : RustNativeEngine} (inv : s.Inv L) (here : L t = ⟨some x, before, after⟩)
    (idle : x.calling = false) (settled : Settled x.engine x.events) :
    Inv { s with monitor := none, left := update s.left t s.engine } (update L t ⟨none, before, x.engine⟩) := by
  have known := inv.alone t x (by rw [here])
  have owner := (inv.owner t).mpr (by rw [here]; rfl)
  subst known
  have others : ∀ t', t' ≠ t → ¬(L t').inside.isSome := by
    intro t' other inside
    rw [← inv.owner t', owner] at inside
    exact other (Option.some.inj inside).symm
  refine ⟨fun t' => ?_, fun t' x => ?_, fun _ => ⟨idle, settled⟩, inv.calling, inv.ascending, fun t' => ?_, inv.returned⟩
  · by_cases same : t' = t
    · subst same
      simp
    · simpa [same] using others t' same
  · by_cases same : t' = t
    · subst same
      simp
    · simp only [update_of_ne same]
      intro held
      exact absurd (by rw [held]; rfl) (others t' same)
  · have old := inv.spans t'
    by_cases same : t' = t
    · subst same
      rw [here] at old
      simpa using old.1
    · simpa [same] using old

theorem safe_synchronized {α : Type} {body : JavaProg (Except Throwable α)} {l : JavaLocal}
    (within : ∀ engine events, Settled engine events → JavaProg.Within (fun result x => Settled x.engine x.events ∧
      ∀ thrown, result = .error thrown → SameTables engine x.engine) body ⟨engine, events, false⟩) :
    (system Tid).Safe Inv t Left (JavaProg.synchronized body) l := by
  rintro s L inv rfl answer s' ⟨free, rfl⟩
  have settled := (inv.free free).2
  have rest : (system Tid).Safe Inv t Left (body >>= fun result => .act JavaOp.exitMonitor fun _ => .done result)
      ⟨some ⟨s.engine, s.events, false⟩, s.engine, (L t).after⟩ := by
    refine .bind (Safe.imp (safe_within settled.ascending (within _ _ settled)) ?_)
    rintro result l ⟨x, rfl, idle, left, keeps⟩
    rintro s' L' inv' here answer' s'' rfl
    exact ⟨_, ⟨rfl, settled.consistent, left.consistent, keeps⟩, inv'.exit here idle left⟩
  exact ⟨_, rest, inv.enter free⟩

section Methods

open JavaProg

variable {l : JavaLocal}

theorem safe_initializeEngine : (system Tid).Safe Inv t Left RustNativeEngine.initializeEngine l := by
  refine safe_synchronized fun engine events settled => ?_
  show Within _ (if engine.closed then _ else _) _
  split
  · exact ⟨rfl, settled, fun _ _ => ⟨rfl, rfl, rfl⟩⟩
  · split
    · exact ⟨rfl, settled, fun _ _ => ⟨rfl, rfl, rfl⟩⟩
    · refine Within.bind (within_native settled trivial fun (answer : Except Throwable Int64) => ?_)
      have quieted : Settled engine (.ended .create answer :: .started .create :: events) :=
        settled.called trivial trivial
      cases answer with
      | error thrown => exact ⟨rfl, quieted, fun _ _ => ⟨rfl, rfl, rfl⟩⟩
      | ok createdHandle =>
        show Within _ (if createdHandle = 0 then _ else _) _
        split
        · exact ⟨rfl, quieted, fun _ _ => ⟨rfl, rfl, rfl⟩⟩
        · rename_i opened
          exact ⟨rfl, rfl, quieted.handle opened, nofun⟩

theorem safe_healthCheck : (system Tid).Safe Inv t Left RustNativeEngine.healthCheck l := by
  refine safe_synchronized fun engine events settled => Within.self ?_
  dsimp only
  split
  · exact ⟨rfl, settled, fun _ _ => ⟨rfl, rfl, rfl⟩⟩
  · exact within_native settled trivial fun answer => ⟨settled.called trivial trivial, fun _ _ => ⟨rfl, rfl, rfl⟩⟩

theorem requireAvailable_eq_ok {engine : RustNativeEngine} (available : engine.requireAvailable = .ok ()) :
    engine.handle ≠ 0 := by
  unfold RustNativeEngine.requireAvailable at available
  split at available
  · cases available
  · rename_i open'
    exact fun unopened => open' (.inr unopened)

theorem requirePayload_eq_ok {engine : RustNativeEngine} {payloadId : String} {nativePayload : Int64}
    (found : engine.requirePayload payloadId = .ok nativePayload) :
    engine.handle ≠ 0 ∧ (engine.payloadContexts payloadId).isSome ∧
      parseUnsignedLong payloadId = some nativePayload ∧ 0 < nativePayload := by
  unfold RustNativeEngine.requirePayload at found
  cases available : engine.requireAvailable with
  | error thrown =>
    rw [available] at found
    cases found
  | ok =>
    rw [available] at found
    change (if (engine.payloadContexts payloadId).isNone then _ else _) = _ at found
    split at found
    · cases found
    · rename_i active
      split at found
      · cases found
      · rename_i parsed
        split at found
        · cases found
        · rename_i positive
          cases found
          exact ⟨requireAvailable_eq_ok available, by simpa [Option.isSome_iff_ne_none] using active, parsed, Int64.not_le.mp positive⟩

theorem safe_forward {α : Type} {payloadId : String} {method : Int64 → Int64 → JavaProg (Except Throwable α)}
    (within : ∀ handle nativePayload engine events, Settled engine events → Within (fun result x =>
      Settled x.engine x.events ∧ ∀ thrown, result = .error thrown → SameTables engine x.engine)
        (method handle nativePayload) ⟨engine, events, false⟩) :
    (system Tid).Safe Inv t Left (RustNativeEngine.forward payloadId method) l := by
  refine safe_synchronized fun engine events settled => Within.self ?_
  dsimp only
  split
  · exact ⟨rfl, settled, fun _ _ => ⟨rfl, rfl, rfl⟩⟩
  · exact within _ _ engine events settled

theorem safe_loadPayload (context : RuntimePayloadContext) :
    (system Tid).Safe Inv t Left (RustNativeEngine.loadPayload context) l := by
  refine safe_synchronized fun engine events settled => Within.self ?_
  dsimp only
  split
  · exact ⟨rfl, settled, fun _ _ => ⟨rfl, rfl, rfl⟩⟩
  · rename_i available
    split
    · exact ⟨rfl, settled, fun _ _ => ⟨rfl, rfl, rfl⟩⟩
    · split
      · exact ⟨rfl, settled, fun _ _ => ⟨rfl, rfl, rfl⟩⟩
      · rename_i fits
        refine ⟨rfl, fun (resolved : Except Throwable String) => ?_⟩
        cases resolved with
        | error thrown => exact ⟨rfl, settled.take fits, fun _ _ => ⟨rfl, rfl, rfl⟩⟩
        | ok entrypoint =>
          refine ⟨rfl, ?_⟩
          show Within _ (load engine.handle context.packagePath entrypoint engine.nextSession engine.nextSession >>= _)
            ⟨Settled.published engine context, events, false⟩
          refine Within.bind ⟨settled.publish, List.pairwise_cons.mpr ⟨settled.below, settled.ascending⟩,
            fun (answer : Except Throwable Int64) => ⟨rfl, ?_⟩⟩
          have withdrawn : (¬∃ payload : Int64, answer = .ok payload ∧ 0 < payload ∧ live events payload = none) →
              Settled (Settled.withdrawn engine context) (.ended (.loadPayload engine.handle context.packagePath
                entrypoint engine.nextSession engine.nextSession) answer :: .started (.loadPayload engine.handle
                  context.packagePath entrypoint engine.nextSession engine.nextSession) :: events) ∧
                SameTables engine (Settled.withdrawn engine context) := by
            intro refused
            rw [settled.withdrawn_eq]
            exact ⟨settled.load_failed fits refused, rfl, rfl, rfl⟩
          cases answer with
          | error thrown =>
            obtain ⟨left, same⟩ := withdrawn <| by
              rintro ⟨payload, answered, -⟩
              cases answered
            exact ⟨rfl, rfl, left, fun _ _ => same⟩
          | ok nativePayload =>
            show Within _ (if nativePayload ≤ 0 then _ else if (engine.payloadContexts (toUnsignedString nativePayload)).isSome
              then _ else _) _
            split
            · rename_i negative
              obtain ⟨left, same⟩ := withdrawn <| by
                rintro ⟨payload, answered, positive, -⟩
                cases answered
                exact Int64.not_le.mpr positive negative
              exact ⟨rfl, rfl, left, fun _ _ => same⟩
            · rename_i positive
              rw [Int64.not_le] at positive
              have mirror := settled.mirrors nativePayload positive
              split
              · rename_i reused
                obtain ⟨left, same⟩ := withdrawn <| by
                  rintro ⟨payload, answered, -, fresh⟩
                  cases answered
                  rw [settled.consistent.keys, mirror, fresh] at reused
                  cases reused
                exact ⟨rfl, rfl, left, fun _ _ => same⟩
              · rename_i unused
                rw [settled.consistent.keys, mirror, Option.not_isSome_iff_eq_none] at unused
                exact ⟨rfl, rfl, settled.load_accepted fits (requireAvailable_eq_ok available) positive unused, nofun⟩

theorem safe_unloadPayload (payloadId : String) :
    (system Tid).Safe Inv t Left (RustNativeEngine.unloadPayload payloadId) l := by
  refine safe_synchronized fun engine events settled => Within.self ?_
  dsimp only
  split
  · exact ⟨rfl, settled, fun _ _ => ⟨rfl, rfl, rfl⟩⟩
  · rename_i nativePayload found
    obtain ⟨opened, active, parsed, positive⟩ := requirePayload_eq_ok found
    obtain ⟨payload, -, rfl⟩ := settled.keys payloadId ((settled.consistent.keys payloadId).mp active)
    rw [parse_toUnsignedString] at parsed
    cases parsed
    refine Within.bind (within_native settled trivial fun (answer : Except Throwable Unit) => ?_)
    cases answer with
    | error thrown => exact ⟨rfl, settled.called trivial trivial, fun _ _ => ⟨rfl, rfl, rfl⟩⟩
    | ok => exact ⟨rfl, rfl, settled.unload opened positive active, nofun⟩

theorem safe_close : (system Tid).Safe Inv t Left RustNativeEngine.close l := by
  refine safe_synchronized fun engine events settled => ?_
  show Within _ (if engine.closed then _ else _) _
  split
  · exact ⟨rfl, settled, fun _ _ => ⟨rfl, rfl, rfl⟩⟩
  · rename_i running
    refine ⟨rfl, ?_⟩
    show Within _ ((if engine.handle ≠ 0 then destroy engine.handle else .done (.ok ())) >>= _)
      ⟨{ engine with closed := true, handle := 0 }, events, false⟩
    refine Within.bind ?_
    split
    · refine within_native settled.close trivial fun (answer : Except Throwable Unit) => ?_
      cases answer with
      | error thrown => exact ⟨rfl, settled.close.called trivial trivial, fun _ _ => ⟨rfl, rfl, rfl⟩⟩
      | ok => exact ⟨rfl, rfl, settled.destroy, nofun⟩
    · rename_i opened
      exact ⟨rfl, rfl, rfl, settled.clear (not_not.mp opened) (by simpa using running), nofun⟩

theorem safe_map {α : Type} {method : JavaProg (Except Throwable α)} (f : α → JavaValue)
    (safe : (system Tid).Safe Inv t Left method l) :
    (system Tid).Safe Inv t Left (method >>= fun result => .done (result.map f)) l := by
  refine .bind (Safe.imp safe ?_)
  rintro result l ⟨outside, before, after, keeps⟩
  cases result with
  | error thrown => exact ⟨outside, before, after, fun _ _ => keeps thrown rfl⟩
  | ok value => exact ⟨outside, before, after, nofun⟩

theorem safe_task (task : JavaTask) : (system Tid).Safe Inv t Left task.code l := by
  cases task with
  | initializeEngine => exact safe_map _ safe_initializeEngine
  | healthCheck => exact safe_map _ safe_healthCheck
  | loadPayload context => exact safe_map _ (safe_loadPayload context)
  | enablePayload payloadId =>
    exact safe_map _ (safe_forward fun _ _ _ _ settled => within_native settled trivial fun _ =>
      ⟨settled.called trivial trivial, fun _ _ => ⟨rfl, rfl, rfl⟩⟩)
  | disablePayload payloadId =>
    exact safe_map _ (safe_forward fun _ _ _ _ settled => within_native settled trivial fun _ =>
      ⟨settled.called trivial trivial, fun _ _ => ⟨rfl, rfl, rfl⟩⟩)
  | invokePayload payloadId operation input callbackId =>
    exact safe_map _ (safe_forward fun _ _ _ _ settled => within_native settled trivial fun _ =>
      ⟨settled.called trivial trivial, fun _ _ => ⟨rfl, rfl, rfl⟩⟩)
  | unloadPayload payloadId => exact safe_map _ (safe_unloadPayload payloadId)
  | close => exact safe_map _ safe_close

end Methods

omit [DecidableEq Tid] in
theorem Inv.returns (inv : s.Inv L) {task : JavaTask} {result : Except Throwable JavaValue} (left : Left result (L t)) :
    Inv { s with returned := ⟨task, result, s.entered t, s.left t⟩ :: s.returned } L := by
  obtain ⟨-, before, after, keeps⟩ := left
  rw [(inv.spans t).1] at before keeps
  rw [(inv.spans t).2] at after keeps
  exact ⟨inv.owner, inv.alone, inv.free, inv.calling, inv.ascending, inv.spans,
    List.forall_mem_cons.mpr ⟨⟨before, after, keeps⟩, inv.returned⟩⟩

def discipline (Tid : Type) [DecidableEq Tid] : Discipline (system Tid) (· = {}) JavaLocal where
  inv := Inv
  resting _ l := l.inside = none
  finished _ _ := Left
  init := by
    rintro _ rfl
    exact ⟨fun _ => {}, ⟨by simp, by simp, fun _ => ⟨rfl, .initial⟩, nofun, .nil, fun _ => ⟨rfl, rfl⟩, by simp⟩,
      fun _ => rfl⟩
  start t task s L s' inv _ begun := by
    cases begun
    exact ⟨L t, by rwa [update_eq_self], safe_task task⟩
  finish t task result s L s' inv left ended := by
    cases ended
    exact ⟨L t, by rw [update_eq_self]; exact inv.returns left, left.1⟩
  env s L s' inv moved := moved.elim

omit [DecidableEq Tid] in
theorem Inv.observable (inv : s.Inv L) (observable : s.Observable) : Matches s.engine s.events := by
  rcases observable with free | calling
  · exact (inv.free free).2.resolves
  · exact inv.calling calling

omit [DecidableEq Tid] in
theorem Inv.authority (inv : s.Inv L) : Authority s := by
  refine ⟨fun r present => ?_, fun r present => ?_, inv.ascending, fun observable session resolvable => ?_,
    fun observable session ended => ?_⟩
  · obtain ⟨before, after, -⟩ := inv.returned r present
    exact ⟨before, after⟩
  · exact (inv.returned r present).2.2
  · obtain ⟨context, held⟩ := Option.isSome_iff_exists.mp ((inv.observable observable session).mpr resolvable)
    have found : s.engine.requireSession session = .ok context := by
      rw [RustNativeEngine.requireSession, held]
    refine ⟨context, found, fun bridgeAdapter => ⟨fun operation input => ?_, fun objectId generation => ⟨?_, ?_⟩⟩⟩
    · rw [RustNativeEngine.invokeBridge, found]
      rfl
    · rw [RustNativeEngine.retainBridgeHandle, found]
      rfl
    · rw [RustNativeEngine.releaseBridgeHandle, found]
      rfl
  · have absent : s.engine.sessionContexts session = none :=
      Option.not_isSome_iff_eq_none.mp (mt (inv.observable observable session).mp ended)
    have unknown : s.engine.requireSession session = .error (RustNativeEngine.unknownSession session) := by
      rw [RustNativeEngine.requireSession, absent]
    refine fun bridgeAdapter => ⟨fun operation input => ?_, fun objectId generation => ⟨?_, ?_⟩⟩
    · rw [RustNativeEngine.invokeBridge, unknown]
      rfl
    · rw [RustNativeEngine.retainBridgeHandle, unknown]
      rfl
    · rw [RustNativeEngine.releaseBridgeHandle, unknown]
      rfl

/-- Whatever the native library does, the session tables give exactly the authority that they should. -/
theorem session_authority {c : MonitoredConfig Tid} (reached : (system Tid).Reachable (· = {}) c) : Authority c.state := by
  obtain ⟨L, inv, -⟩ := (discipline Tid).valid_of_reachable reached
  exact inv.authority

/-- A payload has been loaded, and its session reaches the Bridge. -/
theorem session_authority_loaded : ∃ c : MonitoredConfig Unit, Authority c.state ∧
    c.state.engine.payloadSessions "7" = some 1 ∧ c.state.monitor = none := by
  have idle : (system Unit).Run (⟨{}, fun _ => .idle⟩ : MonitoredConfig Unit) ⟨{}, fun _ => .idle⟩ := .refl
  have opened := ((((((((idle.start () .initializeEngine rfl rfl).act () .enterMonitor () rfl ⟨rfl, rfl⟩).act () .self _ rfl
    ⟨rfl, rfl⟩).act () (.enter .create) () rfl rfl).act () (.leave .create) (Except.ok 5 : Except Throwable Int64) rfl
    rfl).act () .self _ rfl ⟨rfl, rfl⟩).act () (.assign { handle := 5 }) () rfl rfl).act () .exitMonitor () rfl rfl).finish
    () rfl rfl
  have published := ((((((opened.start () (.loadPayload ⟨"plugin", .embedded, "root", "entry"⟩) rfl rfl).act ()
    .enterMonitor () rfl ⟨rfl, rfl⟩).act () .self _ rfl ⟨rfl, rfl⟩).act () (.assign { handle := 5, nextSession := 2 }) () rfl
    rfl).act () (.resolvePath "root" "entry") (Except.ok "root/entry" : Except Throwable String) rfl rfl).act () .self _ rfl
    ⟨rfl, rfl⟩)
  have loaded := ((((published.act () (.assign _) () rfl rfl).act () (.enter (.loadPayload 5 "root" "root/entry" 1 1)) () rfl
    rfl).act () (.leave (.loadPayload 5 "root" "root/entry" 1 1)) (Except.ok 7 : Except Throwable Int64) rfl rfl).act ()
    .self _ rfl ⟨rfl, rfl⟩)
  have stored := ((loaded.act () (.assign _) () rfl rfl).act () .exitMonitor () rfl rfl).finish () rfl rfl
  exact ⟨_, session_authority ⟨_, rfl, stored⟩, rfl, rfl⟩

end Monitored

end RuntimeHost.Java
