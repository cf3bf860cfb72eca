import RuntimeHost.Foundation.Monitor
import RuntimeHost.Jni.Binding
import RuntimeHost.Jni.ExportSafety

namespace RuntimeHost.Jni

open Foundation Function Java Native System

section History

variable {events : List NativeEvent} {event : NativeEvent} {payload session : Int64}

theorem live_load {handle pluginId session' : Int64} {packageRoot entrypoint : String} {answer : Except Throwable Int64}
    (known : live (.ended (.loadPayload handle packageRoot entrypoint pluginId session') answer :: events) payload =
      some session) : live events payload = some session ∨ 0 < payload ∧ answer = .ok payload := by
  cases answer with
  | error thrown => exact .inl known
  | ok payload' =>
    change (if 0 < payload' ∧ live events payload' = none then update (live events) payload' (some session') else
      live events) payload = some session at known
    split at known
    · rename_i accepted
      rw [update_apply] at known
      split at known
      · rename_i same
        exact .inr ⟨same ▸ accepted.1, congrArg Except.ok same.symm⟩
      · exact .inl known
    · exact .inl known

theorem live_unload {handle payload' : Int64} {answer : Except Throwable Unit}
    (known : live (.ended (.unloadPayload handle payload') answer :: events) payload = some session) :
    live events payload = some session := by
  cases answer with
  | error thrown => exact known
  | ok =>
    change update (live events) payload' none payload = some session at known
    rw [update_apply] at known
    split at known
    · cases known
    · exact known

theorem live_destroy {handle : Int64} {answer : Except Throwable Unit}
    (known : live (.ended (.destroy handle) answer :: events) payload = some session) :
    live events payload = some session := by
  cases answer with
  | error thrown => exact known
  | ok => cases known

theorem loaded_of_live (known : live events payload = some session) :
    0 < payload ∧ payload ∈ events.filterMap loadedHandle := by
  induction events with
  | nil => cases known
  | cons event earlier ih =>
    have older : live earlier payload = some session → 0 < payload ∧ payload ∈ (event :: earlier).filterMap loadedHandle := by
      intro known
      obtain ⟨positive, listed⟩ := ih known
      obtain ⟨event', present, loads⟩ := List.mem_filterMap.mp listed
      exact ⟨positive, List.mem_filterMap.mpr ⟨event', .tail _ present, loads⟩⟩
    cases event with
    | started call => exact older known
    | ended call answer =>
      cases call
      case loadPayload =>
        rcases live_load known with known | ⟨positive, rfl⟩
        · exact older known
        · exact ⟨positive, List.mem_filterMap.mpr ⟨_, .head _, rfl⟩⟩
      case unloadPayload => exact older (live_unload known)
      case destroy => exact older (live_destroy known)
      all_goals exact older known

theorem live_of_unloaded (unloaded : events.filterMap loadedHandle = []) : live events payload = none := by
  rw [Option.eq_none_iff_forall_ne_some]
  intro session known
  have listed := (loaded_of_live known).2
  rw [unloaded] at listed
  cases listed

def Unloading (event : NativeEvent) : Prop := loadedHandle event = none

theorem Unloading.of_quiet (quiet : Quiet event) : Unloading event := by
  cases event with
  | started call => rfl
  | ended call answer =>
    cases call
    case loadPayload => exact quiet.elim
    all_goals rfl

theorem Unloading.loaded (unloading : Unloading event) :
    (event :: events).filterMap loadedHandle = events.filterMap loadedHandle := by
  rw [List.filterMap_cons, show loadedHandle event = none from unloading]

theorem Unloading.fresh (unloading : Unloading event) (fresh : Legal Fresh events) : Legal Fresh (event :: events) := by
  refine legal_cons fresh fun payload loads => ?_
  rw [show loadedHandle event = none from unloading] at loads
  cases loads

theorem fresh_called {call : NativeCall} {answer : Except Throwable call.Returns} (fresh : Legal Fresh events)
    (ended : Unloading (.ended call answer)) : Legal Fresh (.ended call answer :: .started call :: events) := by
  have started : Unloading (.started call) := rfl
  exact ended.fresh (started.fresh fresh)

end History

section Numbers

theorem toInt_toInt64 {id : UInt64} (small : id.toNat < 2 ^ 63) : id.toInt64.toInt = id.toNat := by
  have known := BitVec.toInt_eq_toNat_of_lt (x := id.toBitVec) (by rw [UInt64.toNat_toBitVec]; omega)
  rw [UInt64.toNat_toBitVec, ← UInt64.toBitVec_toInt64, Int64.toInt_toBitVec] at known
  exact known

theorem toInt64_inj {id id' : UInt64} : id.toInt64 = id'.toInt64 ↔ id = id' := by
  refine ⟨fun same => ?_, congrArg _⟩
  rw [← UInt64.toUInt64_toInt64 id, same, UInt64.toUInt64_toInt64]

end Numbers

abbrev Joint (Tid : Type) := Inside × Boxes Tid

namespace Joint

variable {Tid : Type}

def step (t : Tid) (x : Joint Tid) : (op : BoundOp) → op.Answer → Joint Tid → Prop
  | .java .self, answer, x' => answer = x.1.engine ∧ x' = x
  | .java (.assign engine), _, x' => x' = ({ x.1 with engine }, x.2)
  | .java (.resolvePath _ _), _, x' => x' = x
  | .java (.enter call), _, x' => x' = (⟨x.1.engine, .started call :: x.1.events, true⟩, x.2)
  | .java _, _, _ => True
  | .native op, answer, x' => x.2.exec t op answer x'.2 ∧ x'.1 = x.1
  | .leave call answer, _, x' => x' = (⟨x.1.engine, .ended call answer :: x.1.events, false⟩, x.2)

def monitor (Tid : Type) [DecidableEq Tid] : (Bound.system Tid).Monitor (Joint Tid) where
  owner s := s.java.monitor
  view s := (⟨s.java.engine, s.java.events, s.java.calling⟩, s.native)
  enters op := op = .java .enterMonitor
  leaves op := op = .java .exitMonitor
  inner op := op ≠ .java .enterMonitor ∧ op ≠ .java .exitMonitor
  step := step
  enter t op s answer s' enters done := by
    subst enters
    obtain ⟨java, ⟨free, rfl⟩, rfl⟩ := done
    exact ⟨free, rfl, rfl⟩
  leave t op s answer s' leaves done := by
    subst leaves
    obtain ⟨java, rfl, rfl⟩ := done
    exact ⟨rfl, rfl⟩
  inside t op s answer s' inner done := by
    cases op with
    | java op =>
      obtain ⟨java, done, rfl⟩ := done
      cases op with
      | enterMonitor => exact absurd rfl inner.1
      | exitMonitor => exact absurd rfl inner.2
      | self =>
        obtain ⟨rfl, rfl⟩ := done
        exact ⟨rfl, rfl, rfl⟩
      | assign engine =>
        obtain rfl : java = _ := done
        exact ⟨rfl, rfl⟩
      | resolvePath packagePath entrypoint =>
        obtain rfl : java = _ := done
        exact ⟨rfl, rfl⟩
      | enter call =>
        obtain rfl : java = _ := done
        exact ⟨rfl, rfl⟩
      | leave call =>
        obtain rfl : java = _ := done
        exact ⟨rfl, trivial⟩
    | native op =>
      obtain ⟨native, done, rfl⟩ := done
      exact ⟨rfl, done, rfl⟩
    | leave call result =>
      obtain ⟨java, done, rfl⟩ := done
      obtain rfl : java = _ := done
      exact ⟨rfl, rfl⟩
  start t task s s' begun := by
    obtain rfl : s' = s := begun
    exact ⟨rfl, rfl⟩
  finish t task result s s' ended := by
    obtain ⟨java, done, rfl⟩ := ended
    obtain rfl : java = _ := done
    exact ⟨rfl, rfl⟩
  env s s' moved := moved.elim

/-- The session reaches the Bridge as the context of the payload that has it. -/
def Reaches (engine : RustNativeEngine) (session : UInt64) : Prop :=
  ∃ payloadId context, engine.payloadSessions payloadId = some session.toInt64 ∧
    engine.payloadContexts payloadId = some context ∧ engine.sessionContexts session.toInt64 = some context

structure Held (x : Joint Tid) : Prop where
  undangled : x.2.dangled = false
  running : ∀ handle solo self, x.2.boxes handle = some solo → solo.running = some self →
    x.1.calling = true ∧ Reaches x.1.engine self.session
  fresh : Legal Fresh x.1.events

/-- The native engine has the payloads that the history of the native calls tells, and its next one gets a handle that none
has got before. -/
structure Mirrors (engine : RustNativeEngine) (events : List NativeEvent) (sessions : UInt64 → Option UInt64)
    (next : UInt64) : Prop where
  tells : ∀ id, live events id.toInt64 = (sessions id).map UInt64.toInt64
  first : 0 < next.toNat
  later : (next.toNat : ℤ) ≤ engine.nextSession.toInt
  below : ∀ payload ∈ events.filterMap loadedHandle, payload.toInt < next.toNat

def Tied (engine : RustNativeEngine) (events : List NativeEvent) (b : Boxes Tid) : Prop :=
  (engine.handle = 0 ∧ b = Boxes.empty ∧ (engine.closed = false → events.filterMap loadedHandle = [])) ∨
    (engine.handle ≠ 0 ∧ engine.closed = false ∧ ∃ sessions next, Boxes.Holds engine.handle sessions next b ∧
      Mirrors engine events sessions next)

structure Rests (x : Joint Tid) : Prop where
  settled : Settled x.1.engine x.1.events
  idle : x.1.calling = false
  fresh : Legal Fresh x.1.events
  tied : Tied x.1.engine x.1.events x.2
  shut : x.1.engine.closed = true → x.1.engine.payloadSessions = fun _ => none

section States

variable {engine engine' : RustNativeEngine} {events : List NativeEvent} {event : NativeEvent} {b : Boxes Tid}
  {sessions : UInt64 → Option UInt64} {next next' : UInt64} {x : Inside} {handle : Int64} {calling : Bool}

theorem held_empty (fresh : Legal Fresh x.events) : Held (x, (Boxes.empty : Boxes Tid)) :=
  ⟨rfl, nofun, fresh⟩

theorem held_of_holds (holds : Boxes.Holds handle sessions next b) (fresh : Legal Fresh x.events) : Held (x, b) := by
  obtain ⟨solo, rfl, enlists⟩ := holds
  have sound : Boxes.Sound (fun _ => False) (Boxes.alone handle solo) := Boxes.sound_alone (.of_idle enlists.idle)
  exact ⟨sound.undangled, fun handle' solo' self held running => (sound.calls handle' solo' held self running).elim, fresh⟩

theorem Rests.held (rests : Rests (x, b)) : Held (x, b) := by
  rcases rests.tied with ⟨-, rfl, -⟩ | ⟨-, -, sessions, next, holds, -⟩
  · exact held_empty rests.fresh
  · exact held_of_holds holds rests.fresh

theorem Rests.opened (rests : Rests (x, b)) (opened : x.engine.handle ≠ 0) : x.engine.closed = false ∧
    ∃ sessions next, Boxes.Holds x.engine.handle sessions next b ∧ Mirrors x.engine x.events sessions next := by
  rcases rests.tied with ⟨unopened, -⟩ | ⟨-, running, held⟩
  · exact absurd unopened opened
  · exact ⟨running, held⟩

theorem Mirrors.quiet (mirrors : Mirrors engine events sessions next) (quiet : Quiet event) :
    Mirrors engine (event :: events) sessions next := by
  refine ⟨fun id => ?_, mirrors.first, mirrors.later, ?_⟩
  · rw [quiet.live]
    exact mirrors.tells id
  · rw [(Unloading.of_quiet quiet).loaded]
    exact mirrors.below

theorem Mirrors.called {call : NativeCall} {answer : Except Throwable call.Returns}
    (mirrors : Mirrors engine events sessions next) (started : Quiet (.started call)) (ended : Quiet (.ended call answer)) :
    Mirrors engine (.ended call answer :: .started call :: events) sessions next :=
  (mirrors.quiet started).quiet ended

theorem Mirrors.advance (mirrors : Mirrors engine events sessions next)
    (later : engine.nextSession.toInt ≤ engine'.nextSession.toInt) : Mirrors engine' events sessions next :=
  ⟨mirrors.tells, mirrors.first, mirrors.later.trans later, mirrors.below⟩

theorem Mirrors.listed (mirrors : Mirrors engine events sessions next) (settled : Settled engine events) {session : UInt64}
    (listed : Listed sessions session) : Reaches engine session := by
  obtain ⟨id, listed⟩ := listed
  have known : live events id.toInt64 = some session.toInt64 := by
    rw [mirrors.tells, listed]
    rfl
  have held := (settled.mirrors _ (loaded_of_live known).1).trans known
  have context := settled.consistent.contexts _ _ held
  have known := (settled.consistent.values _).mp ⟨_, held⟩
  obtain ⟨context', found⟩ := Option.isSome_iff_exists.mp known
  exact ⟨_, context', held, context.symm.trans found, found⟩

theorem Mirrors.accepted (mirrors : Mirrors engine events sessions next) : 0 < next.toInt64 ∧ next.toInt64.toInt = next.toNat ∧
    live events next.toInt64 = none := by
  have bounded := Int64.toInt_lt engine.nextSession
  have first := mirrors.first
  have later := mirrors.later
  have number : next.toInt64.toInt = next.toNat := toInt_toInt64 (by omega)
  refine ⟨?_, number, ?_⟩
  · rw [Int64.lt_iff_toInt_lt, number, Int64.toInt_zero]
    omega
  · rw [Option.eq_none_iff_forall_ne_some]
    intro session known
    have below := mirrors.below _ (loaded_of_live known).2
    omega

theorem Rests.initial : Rests (⟨{}, [], false⟩, (Boxes.empty : Boxes Tid)) :=
  ⟨.initial, rfl, legal_nil, .inl ⟨rfl, rfl, fun _ => rfl⟩, fun _ => rfl⟩

theorem Rests.boxes (rests : Rests (x, b)) (handle : Int64) :
    (b.boxes handle).isSome ↔ handle = x.engine.handle ∧ handle ≠ 0 := by
  have tied : Tied x.engine x.events b := rests.tied
  rcases tied with ⟨unopened, rfl, -⟩ | ⟨opened, -, sessions, next, ⟨solo, rfl, -⟩, -⟩
  · rw [unopened]
    simp [Boxes.empty]
  · simp only [Boxes.alone, update_apply]
    split
    · rename_i same
      simp [same, opened]
    · rename_i other
      simp [other]

theorem Rests.registry (rests : Rests (x, b)) (handle : Int64) (solo : Solo Tid) (boxed : b.boxes handle = some solo) :
    solo.engines.engine.closed = false ∧ solo.running = none ∧
      ∀ payloadId session, x.engine.payloadSessions payloadId = some session ↔
        ∃ id p, payloadId = toUnsignedString id.toInt64 ∧ solo.engines.engine.payloads id = some p ∧
          (solo.engines.payload p).session = session.toUInt64 := by
  have settled : Settled x.engine x.events := rests.settled
  have tied : Tied x.engine x.events b := rests.tied
  rcases tied with ⟨-, rfl, -⟩ | ⟨-, -, sessions, next, ⟨solo', rfl, enlists⟩, mirrors⟩
  · cases boxed
  · simp only [Boxes.alone, update_apply] at boxed
    split at boxed
    · cases boxed
      refine ⟨enlists.unclosed, enlists.idle, fun payloadId session => ⟨fun known => ?_, ?_⟩⟩
      · obtain ⟨payload, positive, rfl⟩ := settled.keys payloadId (by rw [known]; rfl)
        rw [settled.mirrors payload positive, ← Int64.toInt64_toUInt64 payload, mirrors.tells, ← enlists.listed,
          Option.map_map, Option.map_eq_some_iff] at known
        obtain ⟨p, listed, same⟩ := known
        refine ⟨payload.toUInt64, p, by rw [Int64.toInt64_toUInt64], listed, ?_⟩
        rw [← same]
        rfl
      · rintro ⟨id, p, rfl, listed, same⟩
        have known : live x.events id.toInt64 = some session := by
          rw [mirrors.tells, ← enlists.listed, listed]
          show some (solo.engines.payload p).session.toInt64 = some session
          rw [same, Int64.toInt64_toUInt64]
        rw [settled.mirrors _ (loaded_of_live known).1, known]
    · cases boxed

section Calls

variable {handle' payloadId pluginId session : Int64} {packageRoot entrypoint : String}

abbrev loading (handle' : Int64) (packageRoot entrypoint : String) (pluginId session : Int64)
    (answer : Except Throwable Int64) (events : List NativeEvent) : List NativeEvent :=
  .ended (.loadPayload handle' packageRoot entrypoint pluginId session) answer ::
    .started (.loadPayload handle' packageRoot entrypoint pluginId session) :: events

theorem Mirrors.refuse (mirrors : Mirrors engine events sessions next) {thrown : Throwable}
    (later : engine.nextSession.toInt ≤ engine'.nextSession.toInt) :
    Mirrors engine' (loading handle' packageRoot entrypoint pluginId session (.error thrown) events) sessions next := by
  refine ⟨mirrors.tells, mirrors.first, mirrors.later.trans later, ?_⟩
  exact mirrors.below

theorem Mirrors.fresh (mirrors : Mirrors engine events sessions next) (fresh : Legal Fresh events) :
    Legal Fresh (loading handle' packageRoot entrypoint pluginId session (.ok next.toInt64) events) := by
  have started : Unloading (.started (.loadPayload handle' packageRoot entrypoint pluginId session)) := rfl
  refine legal_cons (started.fresh fresh) fun payload loads => ?_
  obtain rfl : next.toInt64 = payload := Option.some.inj loads
  obtain ⟨positive, number, unused⟩ := mirrors.accepted
  refine ⟨positive, unused, fun payload' listed => ?_⟩
  rw [Int64.lt_iff_toInt_lt, number]
  exact mirrors.below payload' listed

theorem Mirrors.load (mirrors : Mirrors engine events sessions next) (advances : next'.toNat = next.toNat + 1)
    (later : engine.nextSession.toInt + 1 ≤ engine'.nextSession.toInt) :
    Mirrors engine' (loading handle' packageRoot entrypoint pluginId session (.ok next.toInt64) events)
      (update sessions next (some session.toUInt64)) next' := by
  obtain ⟨positive, number, unused⟩ := mirrors.accepted
  have shape : live (loading handle' packageRoot entrypoint pluginId session (.ok next.toInt64) events) =
      update (live events) next.toInt64 (some session) := if_pos ⟨positive, unused⟩
  refine ⟨fun id => ?_, ?_, ?_, ?_⟩
  · rw [shape, update_apply, update_apply, mirrors.tells]
    simp only [toInt64_inj]
    split
    · rw [Option.map_some, Int64.toInt64_toUInt64]
    · rfl
  · omega
  · have old := mirrors.later
    omega
  · show ∀ payload ∈ next.toInt64 :: events.filterMap loadedHandle, payload.toInt < next'.toNat
    rw [List.forall_mem_cons]
    refine ⟨by omega, fun payload listed => ?_⟩
    have old := mirrors.below payload listed
    omega

theorem Mirrors.unload (mirrors : Mirrors engine events sessions next)
    (later : engine.nextSession = engine'.nextSession) :
    Mirrors engine' (.ended (.unloadPayload handle' payloadId) (.ok ()) :: .started (.unloadPayload handle' payloadId) :: events)
      (update sessions payloadId.toUInt64 none) next := by
  refine ⟨fun id => ?_, mirrors.first, later ▸ mirrors.later, mirrors.below⟩
  show update (live events) payloadId none id.toInt64 = _
  have same : id.toInt64 = payloadId ↔ id = payloadId.toUInt64 := by
    rw [← Int64.toInt64_toUInt64 payloadId, toInt64_inj, Int64.toInt64_toUInt64]
  rw [update_apply, update_apply, mirrors.tells]
  simp only [same]
  split
  · rfl
  · rfl

end Calls

end States

end Joint

end RuntimeHost.Jni
