import RuntimeHost.Jni.Joint

namespace RuntimeHost.Jni

open Foundation Function Java Native System Joint

variable {Tid : Type} [DecidableEq Tid] {t : Tid}

section Rules

open JavaProg

variable {α β : Type} {engine : RustNativeEngine} {events : List NativeEvent} {b : Boxes Tid} {x : Joint Tid}

abbrev Stays (t : Tid) (post : α → Joint Tid → Prop) (p : JavaProg α) (x : Joint Tid) : Prop :=
  (monitor Tid).Inside t Held post (p.handle bound) x

theorem Stays.bind {post : β → Joint Tid → Prop} {p : JavaProg α} {f : α → JavaProg β}
    (stays : Stays t (fun a x' => Stays t post (f a) x') p x) : Stays t post (p >>= f) x := by
  unfold Stays
  rw [Prog.handle_bind]
  exact Monitor.Inside.bind stays

theorem stays_self {post : α → Joint Tid → Prop} {f : RustNativeEngine → JavaProg α} (held : Held x)
    (rest : Stays t post (f x.1.engine) x) : Stays t post (self >>= f) x := by
  refine ⟨held, ⟨nofun, nofun⟩, fun answer x' moved => ?_⟩
  obtain ⟨rfl, rfl⟩ := moved
  exact rest

theorem stays_assign {post : α → Joint Tid → Prop} {f : Unit → JavaProg α} (held : Held x)
    (rest : Stays t post (f ()) ({ x.1 with engine }, x.2)) : Stays t post (assign engine >>= f) x := by
  refine ⟨held, ⟨nofun, nofun⟩, fun answer x' moved => ?_⟩
  obtain rfl : x' = _ := moved
  exact rest

theorem stays_resolvePath {packagePath entrypoint : String} {post : α → Joint Tid → Prop}
    {f : Except Throwable String → JavaProg α} (held : Held x) (rest : ∀ answer, Stays t post (f answer) x) :
    Stays t post (resolvePath packagePath entrypoint >>= f) x := by
  refine ⟨held, ⟨nofun, nofun⟩, fun answer x' moved => ?_⟩
  obtain rfl : x' = _ := moved
  exact rest answer

theorem inside_export {allowed : UInt64 → Prop} {post : α → Boxes Tid → Prop} {p : ExportProg α}
    (ensured : Ensured t allowed post p b) (reaches : ∀ session, allowed session → Reaches engine session)
    (fresh : Legal Fresh events) :
    (monitor Tid).Inside t Held (fun a x' => ∃ b', x' = (⟨engine, events, true⟩, b') ∧ post a b')
      (p.handle exported) (⟨engine, events, true⟩, b) := by
  have held : ∀ {b : Boxes Tid}, Boxes.Sound allowed b → Held (⟨engine, events, true⟩, b) := fun sound =>
    ⟨sound.undangled, fun handle solo self held running => ⟨rfl, reaches _ (sound.calls handle solo held self running)⟩, fresh⟩
  induction p generalizing b with
  | done a => exact ⟨held ensured.1, b, rfl, ensured.2⟩
  | act op next ih =>
    refine ⟨held ensured.1, ⟨nofun, nofun⟩, fun answer x' moved => ?_⟩
    obtain ⟨x', b'⟩ := x'
    obtain ⟨done, rfl⟩ := moved
    exact ih answer (ensured.2 answer b' done)

theorem stays_native {call : NativeCall} {allowed : UInt64 → Prop} {calling : Bool}
    {post : Except Throwable call.Returns → Joint Tid → Prop} {returns : Except Throwable call.Returns → Boxes Tid → Prop}
    (held : Held (⟨engine, events, calling⟩, b)) (ensured : Ensured t allowed returns (jniBindings call) b)
    (reaches : ∀ session, allowed session → Reaches engine session)
    (rest : ∀ answer b', returns answer b' → Held (⟨engine, .ended call answer :: .started call :: events, false⟩, b') ∧
      post answer (⟨engine, .ended call answer :: .started call :: events, false⟩, b')) :
    Stays t post (native call) (⟨engine, events, calling⟩, b) := by
  have started : Unloading (.started call) := rfl
  have fresh : Legal Fresh (.started call :: events) := started.fresh held.fresh
  refine ⟨held, ⟨nofun, nofun⟩, fun answer x' moved => ?_⟩
  obtain rfl : x' = _ := moved
  show (monitor Tid).Inside t Held post (((jniBindings call).handle exported >>= fun answer =>
    Prog.act (BoundOp.leave call answer) fun _ => .done answer) >>= fun answer => .done answer) _
  rw [Prog.bind_bind]
  refine Monitor.Inside.bind ((inside_export ensured reaches fresh).imp ?_)
  rintro answer x' here ⟨b', rfl, returned⟩
  refine ⟨here, ⟨nofun, nofun⟩, fun _ x'' moved => ?_⟩
  obtain rfl : x'' = _ := moved
  exact rest answer b' returned

abbrev Effect (α : Type) := RustNativeEngine → Except Throwable α → RustNativeEngine → Prop

def Keeps : Effect α := fun before _ after => after.payloadSessions = before.payloadSessions

def Adds : Effect String
  | before, .error _, after => after.payloadSessions = before.payloadSessions
  | before, .ok payloadId, after => before.payloadSessions payloadId = none ∧
    ∃ session, after.payloadSessions = update before.payloadSessions payloadId (some session)

def Drops (payloadId : String) : Effect Unit
  | before, .error _, after => after.payloadSessions = before.payloadSessions
  | before, .ok (), after => after.payloadSessions = update before.payloadSessions payloadId none

def Shuts : Effect Unit := fun _ _ after => after.closed = true

def Method (t : Tid) (effect : Effect α) (p : JavaProg (Except Throwable α)) : Prop :=
  ∃ body, p = synchronized body ∧ ∀ engine events b, Rests (⟨engine, events, false⟩, b) →
    Stays t (fun result x => Rests x ∧ effect engine result x.1.engine) body (⟨engine, events, false⟩, b)

variable {effect : Effect α} {p : JavaProg (Except Throwable α)}

theorem Method.guarded (method : Method t effect p) :
    (monitor Tid).Guarded t Held Rests (fun _ => True) (p.handle bound) none := by
  obtain ⟨body, rfl, stays⟩ := method
  refine ⟨rfl, fun x answer rests => ?_⟩
  obtain ⟨⟨engine, events, calling⟩, b⟩ := x
  obtain rfl : calling = false := rests.idle
  show (monitor Tid).Guarded t Held Rests _ ((body >>= fun result => .act JavaOp.exitMonitor fun _ => .done result).handle
    bound) _
  rw [Prog.handle_bind]
  refine .of_inside ((stays engine events b rests).imp fun result x' held after => ?_)
  exact ⟨held, .inl ⟨rfl, after.1, fun _ => ⟨rfl, trivial⟩⟩⟩

theorem Method.ensures (method : Method t effect p) {s : Bound Tid} (free : s.java.monitor = none)
    (rests : Rests ((monitor Tid).view s)) :
    (p.handle bound).Ensures (fun s op answer s' => Bound.exec t op s answer s') (fun s' => Held ((monitor Tid).view s'))
      (fun result s' => s'.java.monitor = none ∧ Rests ((monitor Tid).view s') ∧
        effect s.java.engine result s'.java.engine) s := by
  obtain ⟨body, rfl, stays⟩ := method
  obtain ⟨⟨engine, owner, calling, events, entered, left, returned⟩, native⟩ := s
  obtain rfl : calling = false := rests.idle
  refine ⟨rests.held, fun answer s' enters => ?_⟩
  obtain ⟨java, ⟨-, rfl⟩, rfl⟩ := enters
  show Prog.Ensures _ _ _ ((body >>= fun result => .act JavaOp.exitMonitor fun _ => .done result).handle bound) _
  rw [Prog.handle_bind]
  have alone := Monitor.Inside.alone (m := monitor Tid) (t := t)
    (s := ⟨⟨engine, some t, false, events, update entered t engine, left, returned⟩, native⟩) rfl
    (stays engine events native rests)
  refine .bind (alone.imp fun result between held after => ?_)
  obtain ⟨-, rests', changed⟩ := after
  refine ⟨held, fun answer last leaves => ?_⟩
  obtain ⟨java, rfl, rfl⟩ := leaves
  exact ⟨held, rfl, rests', changed⟩

theorem stays_quiet {call : NativeCall} {sessions : UInt64 → Option UInt64} {next : UInt64}
    (rests : Rests (⟨engine, events, false⟩, b)) (opened : engine.handle ≠ 0) (running : engine.closed = false)
    (mirrors : Mirrors engine events sessions next) (quiet : Quiet (.started call))
    (quiet' : ∀ answer, Quiet (.ended call answer))
    (ensured : Ensured t (Listed sessions) (fun _ b' => Boxes.Holds engine.handle sessions next b') (jniBindings call) b) :
    Stays t (fun result x => Rests x ∧ Keeps engine result x.1.engine) (native call) (⟨engine, events, false⟩, b) := by
  refine stays_native rests.held ensured (fun session => mirrors.listed rests.settled) fun answer b' holds => ?_
  have settled := rests.settled.called quiet (quiet' answer)
  have fresh := fresh_called rests.fresh (.of_quiet (quiet' answer))
  have mirrors' := mirrors.called quiet (quiet' answer)
  have shut : engine.closed = true → _ := rests.shut
  exact ⟨held_of_holds holds fresh, ⟨settled, rfl, fresh, .inr ⟨opened, running, sessions, next, holds, mirrors'⟩, shut⟩, rfl⟩

end Rules

section Methods

open JavaProg

theorem method_healthCheck : Method t Keeps RustNativeEngine.healthCheck := by
  refine ⟨_, rfl, fun engine events b rests => stays_self rests.held ?_⟩
  dsimp only
  split
  · exact ⟨rests.held, rests, rfl⟩
  · rename_i available
    have opened := Monitored.requireAvailable_eq_ok available
    obtain ⟨running, sessions, next, ⟨solo, rfl, enlists⟩, mirrors⟩ := rests.opened opened
    exact stays_quiet rests opened running mirrors trivial (fun _ => trivial) (ensured_healthCheck enlists opened)

theorem method_forward {α : Type} {payloadId : String} {method : Int64 → Int64 → JavaProg (Except Throwable α)}
    (stays : ∀ nativePayload engine events solo sessions next, engine.handle ≠ 0 → engine.closed = false →
      Rests (⟨engine, events, false⟩, Boxes.alone engine.handle solo) → solo.Enlists sessions next →
        Mirrors engine events sessions next → Stays t (fun result x => Rests x ∧ Keeps engine result x.1.engine)
          (method engine.handle nativePayload) (⟨engine, events, false⟩, Boxes.alone engine.handle solo)) :
    Method t Keeps (RustNativeEngine.forward payloadId method) := by
  refine ⟨_, rfl, fun engine events b rests => stays_self rests.held ?_⟩
  dsimp only
  split
  · exact ⟨rests.held, rests, rfl⟩
  · rename_i nativePayload found
    have opened := (Monitored.requirePayload_eq_ok found).1
    obtain ⟨running, sessions, next, ⟨solo, rfl, enlists⟩, mirrors⟩ := rests.opened opened
    exact stays nativePayload engine events solo sessions next opened running rests enlists mirrors

theorem method_initializeEngine : Method t Keeps RustNativeEngine.initializeEngine := by
  refine ⟨_, rfl, fun engine events b rests => stays_self rests.held ?_⟩
  dsimp only
  split
  · exact ⟨rests.held, rests, rfl⟩
  · rename_i running
    rw [Bool.not_eq_true] at running
    split
    · exact ⟨rests.held, rests, rfl⟩
    · rename_i unopened
      rw [not_not] at unopened
      obtain ⟨-, rfl, unloaded⟩ : engine.handle = 0 ∧ b = Boxes.empty ∧
          (engine.closed = false → events.filterMap loadedHandle = []) := by
        rcases rests.tied with tied | ⟨opened, -⟩
        · exact tied
        · exact absurd unopened opened
      refine Stays.bind (stays_native rests.held ensured_createEngine (fun _ (calls : False) => calls.elim)
        fun (answer : Except Throwable Int64) b' returned => ?_)
      have settled : Settled engine (.ended .create answer :: .started .create :: events) :=
        rests.settled.called trivial trivial
      have fresh : Legal Fresh (.ended .create answer :: .started .create :: events) := fresh_called rests.fresh rfl
      cases answer with
      | error thrown =>
        obtain rfl : b' = Boxes.empty := returned
        exact ⟨held_empty fresh, held_empty fresh,
          ⟨settled, rfl, fresh, .inl ⟨unopened, rfl, unloaded⟩, rests.shut⟩, rfl⟩
      | ok createdHandle =>
        obtain ⟨opened, holds⟩ := returned
        refine ⟨held_of_holds holds fresh, ?_⟩
        show Stays t _ (if createdHandle = 0 then _ else _) _
        split
        · rename_i null
          exact absurd null opened
        · refine stays_self (held_of_holds holds fresh) (stays_assign (held_of_holds holds fresh) ?_)
          have first := Int64.lt_iff_toInt_lt.mp settled.next
          rw [Int64.toInt_zero] at first
          have mirrors : Mirrors { engine with handle := createdHandle } events (fun _ => none) 1 := by
            refine ⟨fun id => live_of_unloaded (unloaded running), by decide, first, ?_⟩
            rw [unloaded running]
            nofun
          have mirrors' : Mirrors { engine with handle := createdHandle }
              (.ended .create (.ok createdHandle) :: .started .create :: events) (fun _ => none) 1 :=
            mirrors.called trivial trivial
          have rests' : Rests (⟨{ engine with handle := createdHandle }, _, false⟩, b') :=
            ⟨settled.handle opened, rfl, fresh, .inr ⟨opened, running, _, _, holds, mirrors'⟩, rests.shut⟩
          exact ⟨rests'.held, rests', rfl⟩

theorem method_unloadPayload (payloadId : String) : Method t (Drops payloadId) (RustNativeEngine.unloadPayload payloadId) := by
  refine ⟨_, rfl, fun engine events b rests => stays_self rests.held ?_⟩
  dsimp only
  split
  · exact ⟨rests.held, rests, rfl⟩
  · rename_i nativePayload found
    have settled := rests.settled
    obtain ⟨opened, active, parsed, positive⟩ := Monitored.requirePayload_eq_ok found
    obtain ⟨payload, -, rfl⟩ := settled.keys payloadId ((settled.consistent.keys payloadId).mp active)
    rw [parse_toUnsignedString] at parsed
    cases parsed
    obtain ⟨running, sessions, next, ⟨solo, rfl, enlists⟩, mirrors⟩ := rests.opened opened
    refine Stays.bind (stays_native rests.held (ensured_unloadPayload enlists opened) (fun session => mirrors.listed settled)
      fun (answer : Except Throwable Unit) b' returned => ?_)
    have fresh : Legal Fresh (.ended (.unloadPayload engine.handle nativePayload) answer ::
        .started (.unloadPayload engine.handle nativePayload) :: events) := fresh_called rests.fresh rfl
    cases answer with
    | error thrown =>
      refine ⟨held_of_holds returned fresh, held_of_holds returned fresh,
        ⟨settled.called trivial trivial, rfl, fresh, ?_, rests.shut⟩, rfl⟩
      exact .inr ⟨opened, running, sessions, next, returned, mirrors.called trivial trivial⟩
    | ok =>
      have held := held_of_holds (x := ⟨engine, _, false⟩) returned fresh
      refine ⟨held, stays_self held (stays_assign held ?_)⟩
      refine ⟨held_of_holds returned fresh, ⟨settled.unload opened positive active, rfl, fresh, ?_, fun closed => ?_⟩, rfl⟩
      · exact .inr ⟨opened, running, _, next, returned, mirrors.unload rfl⟩
      · exact absurd (running.symm.trans closed) Bool.false_ne_true

theorem method_loadPayload (context : RuntimePayloadContext) : Method t Adds (RustNativeEngine.loadPayload context) := by
  refine ⟨_, rfl, fun engine events b rests => stays_self rests.held ?_⟩
  dsimp only
  split
  · exact ⟨rests.held, rests, rfl⟩
  · rename_i available
    split
    · exact ⟨rests.held, rests, rfl⟩
    · split
      · exact ⟨rests.held, rests, rfl⟩
      · rename_i fits
        have settled := rests.settled
        have opened := Monitored.requireAvailable_eq_ok available
        obtain ⟨running, sessions, next, ⟨solo, rfl, enlists⟩, mirrors⟩ := rests.opened opened
        have onward : engine.nextSession.toInt < (Settled.taken engine).nextSession.toInt :=
          Int64.lt_iff_toInt_lt.mp (next_session fits).1
        have held : ∀ {engine' : RustNativeEngine},
            Held (⟨engine', events, false⟩, Boxes.alone engine.handle solo) := held_of_holds ⟨solo, rfl, enlists⟩ rests.fresh
        refine stays_assign rests.held (stays_resolvePath held fun (resolved : Except Throwable String) => ?_)
        cases resolved with
        | error thrown =>
          have mirrors' : Mirrors (Settled.taken engine) events sessions next := mirrors.advance onward.le
          exact ⟨held, ⟨settled.take fits, rfl, rests.fresh,
            .inr ⟨opened, running, sessions, next, ⟨solo, rfl, enlists⟩, mirrors'⟩, rests.shut⟩, rfl⟩
        | ok entrypoint =>
          refine stays_self held (stays_assign held ?_)
          show Stays t _ (load engine.handle context.packagePath entrypoint engine.nextSession engine.nextSession >>= _)
            (⟨Settled.published engine context, events, false⟩, Boxes.alone engine.handle solo)
          refine Stays.bind (stays_native held (ensured_loadPayload enlists opened) (fun _ (calls : False) => calls.elim)
            fun (answer : Except Throwable Int64) b' returned => ?_)
          cases answer with
          | error thrown =>
            have fresh : Legal Fresh (loading engine.handle context.packagePath entrypoint engine.nextSession
              engine.nextSession (.error thrown) events) := fresh_called rests.fresh rfl
            have mirrors' : Mirrors (Settled.taken engine) (loading engine.handle context.packagePath entrypoint
              engine.nextSession engine.nextSession (.error thrown) events) sessions next := mirrors.refuse onward.le
            have left : Settled (Settled.withdrawn engine context) (loading engine.handle context.packagePath entrypoint
                engine.nextSession engine.nextSession (.error thrown) events) := by
              rw [settled.withdrawn_eq]
              refine settled.load_failed fits ?_
              rintro ⟨payload, answered, -⟩
              cases answered
            rw [← settled.withdrawn_eq context] at mirrors'
            refine ⟨held_of_holds returned fresh, stays_self (held_of_holds returned fresh)
              (stays_assign (held_of_holds returned fresh) ?_)⟩
            exact ⟨held_of_holds returned fresh, ⟨left, rfl, fresh,
              .inr ⟨opened, running, sessions, next, returned, mirrors'⟩, rests.shut⟩, rfl⟩
          | ok nativePayload =>
            obtain ⟨rfl, next', advances, holds⟩ := returned
            obtain ⟨positive, -, unused⟩ := mirrors.accepted
            have fresh : Legal Fresh (loading engine.handle context.packagePath entrypoint engine.nextSession
              engine.nextSession (.ok next.toInt64) events) := mirrors.fresh rests.fresh
            refine ⟨held_of_holds holds fresh, stays_self (held_of_holds holds fresh) ?_⟩
            dsimp only
            split
            · rename_i negative
              exact absurd positive (Int64.not_lt.mpr negative)
            · split
              · rename_i reused
                have known := (settled.consistent.keys _).mp reused
                rw [settled.mirrors _ positive, unused] at known
                cases known
              · refine stays_assign (held_of_holds holds fresh) ?_
                have free : engine.payloadSessions (toUnsignedString next.toInt64) = none := by
                  rw [settled.mirrors _ positive, unused]
                refine ⟨held_of_holds holds fresh, ⟨settled.load_accepted fits opened positive unused, rfl, fresh,
                  .inr ⟨opened, running, _, next', holds, mirrors.load advances onward⟩, fun closed => ?_⟩, free, _, rfl⟩
                exact absurd (running.symm.trans closed) Bool.false_ne_true

theorem method_close : Method t Shuts RustNativeEngine.close := by
  refine ⟨_, rfl, fun engine events b rests => stays_self rests.held ?_⟩
  dsimp only
  split
  · rename_i closed
    exact ⟨rests.held, rests, closed⟩
  · rename_i running
    rw [Bool.not_eq_true] at running
    have settled := rests.settled
    refine stays_assign rests.held (Stays.bind ?_)
    split
    · rename_i opened
      obtain ⟨-, sessions, next, ⟨solo, rfl, enlists⟩, mirrors⟩ := rests.opened opened
      have held : Held (⟨{ engine with closed := true, handle := 0 }, events, false⟩, Boxes.alone engine.handle solo) :=
        held_of_holds ⟨solo, rfl, enlists⟩ rests.fresh
      refine stays_native held (ensured_destroy enlists opened) (fun session => mirrors.listed settled)
        fun (answer : Except Throwable Unit) b' returned => ?_
      obtain ⟨rfl, rfl⟩ := returned
      have fresh : Legal Fresh (.ended (.destroy engine.handle) (.ok ()) :: .started (.destroy engine.handle) :: events) :=
        fresh_called rests.fresh rfl
      refine ⟨held_empty fresh, stays_self (held_empty fresh) (stays_assign (held_empty fresh) ?_)⟩
      exact ⟨held_empty fresh, ⟨settled.destroy, rfl, fresh, .inl ⟨rfl, rfl, nofun⟩, fun _ => rfl⟩, rfl⟩
    · rename_i unopened
      rw [not_not] at unopened
      rcases rests.tied with ⟨-, rfl, -⟩ | ⟨opened, -⟩
      · have held : Held (⟨{ engine with closed := true, handle := 0 }, events, false⟩, (Boxes.empty : Boxes Tid)) :=
          held_empty rests.fresh
        refine ⟨held, stays_self held (stays_assign held ?_)⟩
        exact ⟨held_empty rests.fresh,
          ⟨settled.clear unopened running, rfl, rests.fresh, .inl ⟨rfl, rfl, nofun⟩, fun _ => rfl⟩, rfl⟩
      · exact absurd unopened opened

theorem guarded_map {α : Type} {method : JavaProg (Except Throwable α)} {effect : Effect α} (f : α → JavaValue)
    (specified : Method t effect method) : (monitor Tid).Guarded t Held Rests (fun _ => True)
      ((method >>= fun result => .done (result.map f)).handle bound) none := by
  rw [Prog.handle_bind]
  exact specified.guarded.map fun _ _ => trivial

theorem method_enablePayload (payloadId : String) : Method t Keeps (RustNativeEngine.enablePayload payloadId) :=
  method_forward fun _ _ _ _ _ _ opened running rests enlists mirrors =>
    stays_quiet rests opened running mirrors trivial (fun _ => trivial) (ensured_enablePayload enlists opened)

theorem method_disablePayload (payloadId : String) : Method t Keeps (RustNativeEngine.disablePayload payloadId) :=
  method_forward fun _ _ _ _ _ _ opened running rests enlists mirrors =>
    stays_quiet rests opened running mirrors trivial (fun _ => trivial) (ensured_disablePayload enlists opened)

theorem method_invokePayload (payloadId operation : String) (input : List UInt8) (callbackId : Int64) :
    Method t Keeps (RustNativeEngine.invokePayload payloadId operation input callbackId) :=
  method_forward fun _ _ _ _ _ _ opened running rests enlists mirrors =>
    stays_quiet rests opened running mirrors trivial (fun _ => trivial) (ensured_invokePayload enlists opened)

theorem guarded_task (task : JavaTask) :
    (monitor Tid).Guarded t Held Rests (fun _ => True) ((Bound.system Tid).code task) none := by
  cases task with
  | initializeEngine => exact guarded_map _ method_initializeEngine
  | healthCheck => exact guarded_map _ method_healthCheck
  | loadPayload context => exact guarded_map _ (method_loadPayload context)
  | enablePayload payloadId => exact guarded_map _ (method_enablePayload payloadId)
  | disablePayload payloadId => exact guarded_map _ (method_disablePayload payloadId)
  | invokePayload payloadId operation input callbackId =>
    exact guarded_map _ (method_invokePayload payloadId operation input callbackId)
  | unloadPayload payloadId => exact guarded_map _ (method_unloadPayload payloadId)
  | close => exact guarded_map _ method_close

end Methods

end RuntimeHost.Jni
