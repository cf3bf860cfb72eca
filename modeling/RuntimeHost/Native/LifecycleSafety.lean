import RuntimeHost.Native.LifecycleInvariant

namespace RuntimeHost.Native

open Foundation Function System Abi NativeProg EngineTask

namespace Lifecycle

variable {Tid : Type} [DecidableEq Tid] {t : Tid} {l : LifecycleLocal Tid} {p : Nat} {α : Type}

section Steps

theorem keeps_resolveEntrypoint {packageRoot entrypoint : String} :
    system.Keeps Inv t (.engine (.resolveEntrypoint packageRoot entrypoint)) l fun _ l' => l' = l := by
  rintro s L inv rfl answer s' ⟨engines, ⟨-, rfl⟩, rfl⟩
  refine ⟨L t, rfl, ?_⟩
  rw [update_eq_self]
  exact inv

theorem keeps_register {libraryPath : String} {pluginId session : UInt64} :
    system.Keeps Inv t (.engine (.register libraryPath pluginId session)) l fun _ l' => l' = l := by
  rintro s L inv rfl answer s' ⟨engines, moved, rfl⟩
  refine ⟨L t, rfl, ?_⟩
  rw [update_eq_self]
  simp only [Engines.exec, Engines.Register] at moved
  split at moved
  · obtain ⟨rfl, rfl⟩ := moved
    exact inv
  · obtain ⟨outcome, moved⟩ := moved
    split at moved
    · obtain ⟨rfl, rfl⟩ := moved
      exact inv
    · rename_i payload loaded
      split at moved
      · obtain ⟨rfl, rfl⟩ := moved
        exact inv
      · rename_i id engine registered
        obtain ⟨rfl, rfl⟩ := moved
        unfold EngineState.register at registered
        split at registered
        · cases registered
        · rename_i next added
          cases registered
          have later : next.toNat = s.engines.engine.nextPayloadId.toNat + 1 := checkedAdd_eq_some added
          exact ⟨inv.registry.register rfl later, inv.locks.register (EmbeddedPayload.load_eq_ok loaded).1,
            { inv.snapshots with early := fun t task before p begun outside =>
                inv.snapshots.early t task before p begun (Nat.le_of_succ_le outside) },
            inv.threads.register inv.snapshots _⟩

theorem keeps_payload {id : UInt64} (active : l.call.isSome) (running : l.finished = false)
    (unremoved : l.removed = false) :
    system.Keeps Inv t (.engine (.payload id)) l fun (found : Except HostError Nat) l' =>
      match found with
      | .ok p => l' = { l with known := [(id, p)] }
      | .error _ => l' = { l with missed := some id } := by
  rintro s L inv rfl answer s' ⟨engines, ⟨rfl, rfl⟩, rfl⟩
  cases found : s.engines.engine.payload id with
  | error error =>
    exact ⟨_, rfl, inv.registry, inv.locks.frame rfl rfl rfl rfl ⟨rfl, rfl, rfl⟩, inv.snapshots,
      inv.threads.miss inv.registry active running unremoved found⟩
  | ok p =>
    refine ⟨_, rfl, inv.registry, inv.locks.frame rfl rfl rfl rfl ⟨rfl, rfl, rfl⟩, inv.snapshots,
      inv.threads.learn active running ?_⟩
    intro id' p' here
    simp only [List.mem_singleton, Prod.mk.injEq] at here
    obtain ⟨rfl, rfl⟩ := here
    apply inv.registry.listed
    unfold EngineState.payload at found
    split at found
    · cases found
    · exact (okOr_eq_ok ..).mp found

theorem keeps_remove {id : UInt64} (active : l.call.isSome) :
    system.Keeps Inv t (.engine (.remove id)) l fun _ l' => l' = { l with removed := true } := by
  rintro s L inv rfl answer s' ⟨engines, rfl, rfl⟩
  exact ⟨_, rfl, inv.registry.remove id, inv.locks.frame rfl rfl rfl rfl ⟨rfl, rfl, rfl⟩, { inv.snapshots with },
    inv.threads.remove active id _⟩

theorem keeps_drain (active : l.call.isSome) (running : l.finished = false) :
    system.Keeps Inv t (.engine .drain) l fun (drained : Option (List Nat)) l' =>
      match drained with
      | none => l' = l
      | some payloads => ∃ known, l' = { l with known } ∧ ∀ p ∈ payloads, ∃ id, (id, p) ∈ known := by
  rintro s L inv rfl answer s' ⟨engines, moved, rfl⟩
  simp only [Engines.exec] at moved
  split at moved
  · obtain ⟨rfl, rfl⟩ := moved
    refine ⟨L t, rfl, ?_⟩
    rw [update_eq_self]
    exact inv
  · obtain ⟨rfl, rfl⟩ := moved
    refine ⟨_, ⟨s.engines.engine.loadOrder.filterMap fun id => (s.engines.engine.payloads id).map (id, ·), rfl, ?_⟩,
      inv.registry.drain, inv.locks.frame rfl rfl rfl rfl ⟨rfl, rfl, rfl⟩, { inv.snapshots with },
      inv.threads.drain active running ?_ _⟩
    · intro p present
      simp only [EngineState.drained, List.mem_filterMap, List.mem_reverse] at present
      obtain ⟨id, loaded, there⟩ := present
      exact ⟨id, List.mem_filterMap.mpr ⟨id, loaded, by rw [there]; rfl⟩⟩
    · intro id p present
      simp only [List.mem_filterMap, Option.map_eq_some_iff, Prod.mk.injEq] at present
      obtain ⟨id', -, p', there, rfl, rfl⟩ := present
      exact inv.registry.listed _ _ there

theorem keeps_lockPayload (active : l.call.isSome) (unlocked : l.guard = none) (known : ∃ id, (id, p) ∈ l.known) :
    system.Keeps Inv t (.engine (.lockPayload p)) l fun (self : EmbeddedPayload) l' => ∃ calls,
      l' = { l with guard := some p, state := self.state, calls } ∧ Settled self.state calls ∧
      ∀ task before, l.call = some (task, before) → ShutdownFailed (before p) →
        self.state = .shutdownFailed ∨ self.state = .shutdown := by
  rintro s L inv rfl answer s' ⟨engines, ⟨free, rfl, rfl⟩, rfl⟩
  obtain ⟨id, known⟩ := known
  obtain ⟨t', registered⟩ := inv.threads.known t id p known
  have settled := inv.locks.free p free
  refine ⟨_, ⟨s.calls p, rfl, settled, ?_⟩, { inv.registry with }, inv.locks.lock free (inv.registry.registered _ _ _ registered).2
    unlocked, { inv.snapshots with }, inv.threads.frame active rfl rfl rfl⟩
  intro task before called failed
  rw [inv.threads.call] at called
  apply settled.terminal
  rw [inv.snapshots.frozen t task before p called failed]
  exact failed

theorem keeps_unlockPayload (active : l.call.isSome) (held : l.guard = some p) (settled : Settled l.state l.calls) :
    system.Keeps Inv t (.engine (.unlockPayload p)) l fun _ l' => l' = { l with guard := none } := by
  rintro s L inv rfl answer s' ⟨engines, rfl, rfl⟩
  exact ⟨_, rfl, { inv.registry with }, inv.locks.unlock held settled, { inv.snapshots with }, inv.threads.frame active rfl rfl rfl⟩

theorem keeps_setState {state : PayloadState} (active : l.call.isSome) (held : l.guard = some p) :
    system.Keeps Inv t (.engine (.setState p state)) l fun _ l' => l' = { l with state } := by
  rintro s L inv rfl answer s' ⟨engines, rfl, rfl⟩
  exact ⟨_, rfl, { inv.registry with }, inv.locks.set_state held, { inv.snapshots with }, inv.threads.frame active rfl rfl rfl⟩

theorem keeps_enter {call : PluginCall} (active : l.call.isSome) (held : l.guard = some p)
    (fits : Fits (⟨t, call, l.state, none⟩ :: l.calls)) :
    system.Keeps Inv t (.enter p call) l fun _ l' =>
      l' = { l with calls := ⟨t, call, l.state, none⟩ :: l.calls } := by
  rintro s L inv rfl answer s' rfl
  obtain ⟨-, state, calls⟩ := inv.locks.guard t p held
  rw [state, calls]
  have quiet : ¬ShutdownFailed (s.calls p) := by
    rintro ⟨called, present, shutdown, -⟩
    rw [calls] at present
    exact fits.not_shutdown called present shutdown
  exact ⟨_, rfl, { inv.registry with }, inv.locks.set_calls held fits, inv.snapshots.set_calls quiet,
    inv.threads.frame active rfl rfl rfl⟩

theorem keeps_leave {call : PluginCall} {state : PayloadState} {earlier : List (Called Tid)} (active : l.call.isSome)
    (held : l.guard = some p) (inside : l.calls = ⟨t, call, state, none⟩ :: earlier)
    (fits : ∀ status, Fits (⟨t, call, state, status⟩ :: earlier)) :
    system.Keeps Inv t (.leave p) l fun (returned : PluginReturn) l' =>
      l' = { l with calls := ⟨t, call, state, some returned.status⟩ :: earlier } := by
  rintro s L inv rfl returned s' rfl
  obtain ⟨-, -, calls⟩ := inv.locks.guard t p held
  have quiet : ¬ShutdownFailed (s.calls p) := by
    rintro ⟨called, present, shutdown, failed⟩
    rw [calls, inside] at present
    rcases List.mem_cons.mp present with rfl | old
    · cases failed.returned
    · exact (fits none).not_shutdown called old shutdown
  refine ⟨_, rfl, { inv.registry with }, ?_, inv.snapshots.set_calls quiet, inv.threads.frame active rfl rfl rfl⟩
  rw [calls, inside, returns, if_pos ⟨rfl, rfl⟩]
  exact inv.locks.set_calls held (fits _)

end Steps

section Methods

variable {m : LifecycleLocal Tid} {self : EmbeddedPayload}

def Back (m m' : LifecycleLocal Tid) : Prop :=
  Settled m'.state m'.calls ∧ m' = { m with state := m'.state, calls := m'.calls }

theorem safe_plugin {post : α → LifecycleLocal Tid → Prop} {call : PluginCall} {next : PluginReturn → NativeProg α}
    (active : m.call.isSome) (held : m.guard = some p)
    (fits : ∀ status, Fits (⟨t, call, m.state, status⟩ :: m.calls))
    (rest : ∀ returned : PluginReturn, system.Safe Inv t post ((next returned).handle apart)
      { m with calls := ⟨t, call, m.state, some returned.status⟩ :: m.calls }) :
    system.Safe Inv t post ((plugin p call >>= next).handle apart) m := by
  refine Keeps.imp (keeps_enter active held (fits none)) fun _ m' same => ?_
  subst same
  refine Keeps.imp (keeps_leave active held rfl fits) fun returned m' same => ?_
  subst same
  exact rest returned

theorem safe_enable (active : m.call.isSome) (held : m.guard = some p) (same : m.state = self.state)
    (settled : Settled m.state m.calls) :
    system.Safe Inv t (fun _ m' => Back m m') ((self.enable p).handle apart) m := by
  unfold EmbeddedPayload.enable
  split
  · rename_i loaded
    rw [same, loaded] at settled
    split
    · exact ⟨by rw [same, loaded]; exact settled, rfl⟩
    · refine safe_plugin active held (fun status => .initialized settled ⟨_, _, rfl⟩) fun returned => ?_
      unfold requirePluginStatus
      by_cases ok : returned.status.isOk
      · rw [if_pos ok]
        refine Keeps.imp (keeps_setState active held) fun _ m' same' => ?_
        subst same'
        exact ⟨.initialized ⟨_, _, rfl⟩ ⟨_, rfl, ok⟩ settled, rfl⟩
      · rw [if_neg ok]
        refine ⟨?_, rfl⟩
        rw [same, loaded]
        exact List.forall_mem_cons.mpr ⟨⟨⟨_, _, rfl⟩, _, rfl, by simpa using ok⟩, settled⟩
  · rename_i disabled
    rw [same, disabled] at settled
    refine Keeps.imp (keeps_setState active held) fun _ m' same' => ?_
    subst same'
    exact ⟨settled, rfl⟩
  all_goals exact ⟨settled, rfl⟩

theorem safe_disable (active : m.call.isSome) (held : m.guard = some p) (same : m.state = self.state)
    (settled : Settled m.state m.calls) :
    system.Safe Inv t (fun _ m' => Back m m') ((self.disable p).handle apart) m := by
  unfold EmbeddedPayload.disable
  split
  · rename_i enabled
    rw [same, enabled] at settled
    refine Keeps.imp (keeps_setState active held) fun _ m' same' => ?_
    subst same'
    exact ⟨settled, rfl⟩
  all_goals exact ⟨settled, rfl⟩

theorem safe_invoke {operation : String} {input : List UInt8} {callback : UInt64} (active : m.call.isSome)
    (held : m.guard = some p) (same : m.state = self.state) (settled : Settled m.state m.calls) :
    system.Safe Inv t (fun _ m' => Back m m') ((self.invoke p operation input callback).handle apart) m := by
  unfold EmbeddedPayload.invoke
  split
  · exact ⟨settled, rfl⟩
  · rename_i enabled
    have here : m.state = .enabled := same.trans (not_not.mp enabled)
    rw [here] at settled
    split
    · exact ⟨by rw [here]; exact settled, rfl⟩
    · refine safe_plugin active held (fun status => .invoked settled ⟨_, _, _, rfl⟩ here) fun returned => ?_
      have back : Back m { m with calls := ⟨t, .invoke operation input callback, m.state, some returned.status⟩ :: m.calls } := by
        refine ⟨?_, rfl⟩
        simp only [here]
        exact .invoked ⟨_, _, _, rfl⟩ rfl rfl settled
      split
      · exact back
      · exact back

theorem safe_shutdownOnce (active : m.call.isSome) (held : m.guard = some p)
    (live : m.state = .enabled ∨ m.state = .disabled) (settled : Settled m.state m.calls) :
    system.Safe Inv t (fun _ m' => Back m m') ((self.shutdownOnce p).handle apart) m := by
  have calls : Live m.calls := by
    rcases live with state | state
    · rw [state] at settled
      exact settled
    · rw [state] at settled
      exact settled
  unfold EmbeddedPayload.shutdownOnce
  split
  · exact ⟨settled, rfl⟩
  · refine safe_plugin active held (fun status => .shutdown calls ⟨_, rfl⟩) fun returned => ?_
    split
    · refine Keeps.imp (keeps_setState active held) fun _ m' same => ?_
      subst same
      exact ⟨.inr (.shutdown ⟨_, rfl⟩ rfl calls), rfl⟩
    · refine Keeps.imp (keeps_setState active held) fun _ m' same => ?_
      subst same
      exact ⟨.shutdown ⟨_, rfl⟩ rfl calls, rfl⟩

theorem safe_shutdownForUnload (active : m.call.isSome) (held : m.guard = some p) (same : m.state = self.state)
    (settled : Settled m.state m.calls) :
    system.Safe Inv t (fun result m' => Back m m' ∧
      (result = .ok () ∨ ¬(self.state = .shutdownFailed ∨ self.state = .shutdown)))
      ((self.shutdownForUnload p).handle apart) m := by
  unfold EmbeddedPayload.shutdownForUnload
  split
  · rename_i enabled
    exact ⟨⟨settled, rfl⟩, .inr (by simp [enabled])⟩
  · rename_i loaded
    rw [same, loaded] at settled
    refine Keeps.imp (keeps_setState active held) fun _ m' same' => ?_
    subst same'
    exact ⟨⟨.inl settled, rfl⟩, .inl rfl⟩
  · rename_i shutdown
    rw [same, shutdown] at settled
    refine Keeps.imp (keeps_setState active held) fun _ m' same' => ?_
    subst same'
    exact ⟨⟨settled, rfl⟩, .inl rfl⟩
  · rename_i disabled
    refine Safe.imp (safe_shutdownOnce active held (.inr (same.trans disabled)) settled) fun result m' back => ?_
    exact ⟨back, .inr (by simp [disabled])⟩
  · rename_i failed
    rw [same, failed] at settled
    refine Keeps.imp (keeps_setState active held) fun _ m' same' => ?_
    subst same'
    exact ⟨⟨.inr settled, rfl⟩, .inl rfl⟩

theorem safe_forceShutdown (active : m.call.isSome) (held : m.guard = some p) (same : m.state = self.state)
    (settled : Settled m.state m.calls) :
    system.Safe Inv t (fun _ m' => Back m m') ((self.forceShutdown p).handle apart) m := by
  unfold EmbeddedPayload.forceShutdown
  split
  · rename_i loaded
    rw [same, loaded] at settled
    refine Keeps.imp (keeps_setState active held) fun _ m' same' => ?_
    subst same'
    exact ⟨.inl settled, rfl⟩
  · rename_i shutdown
    rw [same, shutdown] at settled
    refine Keeps.imp (keeps_setState active held) fun _ m' same' => ?_
    subst same'
    exact ⟨settled, rfl⟩
  · rename_i failed
    rw [same, failed] at settled
    refine Keeps.imp (keeps_setState active held) fun _ m' same' => ?_
    subst same'
    exact ⟨.inr settled, rfl⟩
  · rename_i enabled
    exact safe_shutdownOnce active held (.inl (same.trans enabled)) settled
  · rename_i disabled
    exact safe_shutdownOnce active held (.inr (same.trans disabled)) settled

end Methods

structure Loose (call : EngineTask × (Nat → List (Called Tid))) (l : LifecycleLocal Tid) : Prop where
  call : l.call = some call
  running : l.finished = false
  unlocked : l.guard = none

section Operations

variable {task : EngineTask} {before : Nat → List (Called Tid)} {id : UInt64}

theorem safe_locked {method : EmbeddedPayload → NativeProg α} (post : α → Prop) (loose : Loose (task, before) l)
    (known : (id, p) ∈ l.known)
    (safe : ∀ self m, m.call.isSome → m.guard = some p → m.state = self.state → Settled m.state m.calls →
      (ShutdownFailed (before p) → self.state = .shutdownFailed ∨ self.state = .shutdown) →
      system.Safe Inv t (fun result m' => Back m m' ∧ post result) ((method self).handle apart) m) :
    system.Safe Inv t (fun result l' => post result ∧ Loose (task, before) l' ∧ l'.known = l.known ∧
      l'.missed = l.missed) ((locked p method).handle apart) l := by
  obtain ⟨call, running, unlocked⟩ := loose
  have active : l.call.isSome := by rw [call]; rfl
  refine Keeps.imp (keeps_lockPayload active unlocked ⟨id, known⟩) fun self m outcome => ?_
  obtain ⟨calls, rfl, settled, terminal⟩ := outcome
  show system.Safe Inv t _ ((method self >>= _).handle apart) _
  rw [Prog.handle_bind]
  refine .bind (Safe.imp (safe self _ active rfl rfl settled (terminal task before call)) fun result m' finished => ?_)
  obtain ⟨⟨settled', same⟩, good⟩ := finished
  have held : m'.guard = some p := by rw [same]
  have active' : m'.call.isSome := by rw [same]; exact active
  refine Keeps.imp (keeps_unlockPayload active' held settled') fun _ l' same' => ?_
  subst same'
  refine ⟨good, ⟨?_, ?_, rfl⟩, ?_, ?_⟩ <;> rw [same]
  · exact call
  · exact running

theorem safe_lookup {post : α → LifecycleLocal Tid → Prop} {next : Except HostError Nat → NativeProg α}
    (loose : Loose (task, before) l) (unremoved : l.removed = false)
    (missed : ∀ error l', Loose (task, before) l' → l'.missed = some id →
      system.Safe Inv t post ((next (.error error)).handle apart) l')
    (found : ∀ p l', Loose (task, before) l' → (id, p) ∈ l'.known →
      system.Safe Inv t post ((next (.ok p)).handle apart) l') :
    system.Safe Inv t post ((payload id >>= next).handle apart) l := by
  obtain ⟨call, running, unlocked⟩ := loose
  refine Keeps.imp (keeps_payload (by rw [call]; rfl) running unremoved) fun answer l' outcome => ?_
  cases answer with
  | error error =>
    subst outcome
    exact missed error _ ⟨call, running, unlocked⟩ rfl
  | ok p =>
    subst outcome
    exact found p _ ⟨call, running, unlocked⟩ (.head _)

theorem safe_method {β : Type} {method : Nat → EmbeddedPayload → NativeProg (Except HostError β)}
    (loose : Loose (task, before) l) (unremoved : l.removed = false)
    (safe : ∀ p self m, m.call.isSome → m.guard = some p → m.state = self.state → Settled m.state m.calls →
      system.Safe Inv t (fun _ m' => Back m m') ((method p self).handle apart) m) :
    system.Safe Inv t (fun _ l' => Loose (task, before) l')
      ((payload id >>= fun found => match found with
        | .error error => return .error error
        | .ok payload => locked payload (method payload)).handle apart) l := by
  refine safe_lookup loose unremoved (fun error l' loose' _ => loose') fun p l' loose' known => ?_
  refine Safe.imp (safe_locked (fun _ => True) loose' known fun self m active held same settled _ => ?_)
    fun _ _ finished => finished.2.1
  exact Safe.imp (safe p self m active held same settled) fun _ _ back => ⟨back, trivial⟩

theorem safe_unloadPayload (loose : Loose (task, before) l) (unremoved : l.removed = false) :
    system.Safe Inv t (fun result l' => Loose (task, before) l' ∧ (result = .ok () ∨ l'.Excused id before))
      ((Engine.unloadPayload id).handle apart) l := by
  refine safe_lookup loose unremoved (fun error l' loose' missed => ⟨loose', .inr (.inl missed)⟩)
    fun p l' loose' known => ?_
  show system.Safe Inv t _ ((locked p (·.shutdownForUnload p) >>= _).handle apart) l'
  rw [Prog.handle_bind]
  refine .bind (Safe.imp (safe_locked (fun result => result = .ok () ∨ ¬ShutdownFailed (before p)) loose' known
    fun self m active held same settled terminal => ?_) fun result l'' finished => ?_)
  · refine Safe.imp (safe_shutdownForUnload active held same settled) fun result m' outcome => ?_
    exact ⟨outcome.1, outcome.2.imp_right fun live failed => live (terminal failed)⟩
  · obtain ⟨outcome, loose'', known', -⟩ := finished
    rw [← known'] at known
    cases result with
    | error error =>
      have quiet := outcome.resolve_left (by simp)
      exact ⟨loose'', .inr (.inr ⟨p, known, quiet⟩)⟩
    | ok =>
      obtain ⟨call, running, unlocked⟩ := loose''
      refine Keeps.imp (keeps_remove (by rw [call]; rfl)) fun _ l' same => ?_
      subst same
      exact ⟨⟨call, running, unlocked⟩, .inl rfl⟩

theorem safe_forceShutdowns {payloads : List Nat} {firstFailure : Option HostError} (loose : Loose (task, before) l)
    (known : ∀ p ∈ payloads, ∃ id, (id, p) ∈ l.known) :
    system.Safe Inv t (fun _ l' => Loose (task, before) l')
      ((Engine.forceShutdowns payloads firstFailure).handle apart) l := by
  induction payloads generalizing l firstFailure with
  | nil => exact loose
  | cons p payloads ih =>
    obtain ⟨id, here⟩ := known p (.head _)
    show system.Safe Inv t _ ((locked p (·.forceShutdown p) >>= _).handle apart) l
    rw [Prog.handle_bind]
    refine .bind (Safe.imp (safe_locked (fun _ => True) loose here fun self m active held same settled _ => ?_)
      fun result l' finished => ?_)
    · exact Safe.imp (safe_forceShutdown active held same settled) fun _ _ back => ⟨back, trivial⟩
    · obtain ⟨-, loose', same, -⟩ := finished
      have later : ∀ p ∈ payloads, ∃ id, (id, p) ∈ l'.known := by
        intro p present
        rw [same]
        exact known p (.tail _ present)
      cases result with
      | error error => exact ih loose' later
      | ok => exact ih loose' later

theorem safe_close (loose : Loose (task, before) l) :
    system.Safe Inv t (fun _ l' => Loose (task, before) l') (Engine.close.handle apart) l := by
  obtain ⟨call, running, unlocked⟩ := loose
  refine Keeps.imp (keeps_drain (by rw [call]; rfl) running) fun drained l' outcome => ?_
  cases drained with
  | none =>
    subst outcome
    exact ⟨call, running, unlocked⟩
  | some payloads =>
    obtain ⟨known, rfl, listed⟩ := outcome
    show system.Safe Inv t _ ((Engine.forceShutdowns payloads none >>= _).handle apart) _
    rw [Prog.handle_bind]
    refine .bind (Safe.imp (safe_forceShutdowns ⟨call, running, unlocked⟩ listed) fun failure l' loose => ?_)
    cases failure with
    | none => exact loose
    | some error => exact loose

end Operations

def Finished (task : EngineTask) (result : EngineResult) (l : LifecycleLocal Tid) : Prop :=
  ∃ before, Loose (task, before) l ∧
    ∀ id, task = .unloadPayload id → result = .unit (.ok ()) ∨ l.Excused id before

theorem safe_code (task : EngineTask) (before : Nat → List (Called Tid)) :
    system.Safe Inv t (Finished task) task.code { call := some (task, before) } := by
  have loose : Loose (task, before) ({ call := some (task, before) } : LifecycleLocal Tid) := ⟨rfl, rfl, rfl⟩
  unfold EngineTask.code
  cases task with
  | loadPayload packageRoot entrypoint pluginId session =>
    have done : ∀ result, Finished (.loadPayload packageRoot entrypoint pluginId session) result
        ({ call := some (.loadPayload packageRoot entrypoint pluginId session, before) } : LifecycleLocal Tid) :=
      fun _ => ⟨before, loose, nofun⟩
    show system.Safe Inv t _ ((Engine.loadPayload packageRoot entrypoint pluginId session >>= _).handle apart) _
    unfold Engine.loadPayload
    split
    · exact done _
    · refine Keeps.imp keeps_resolveEntrypoint fun (resolved : Except HostError String) l' same => ?_
      subst same
      cases resolved with
      | error error => exact done _
      | ok libraryPath =>
        refine Keeps.imp keeps_register fun registered l' same => ?_
        subst same
        exact done _
  | enablePayload id =>
    show system.Safe Inv t _ ((Engine.enablePayload id >>= _).handle apart) _
    rw [Prog.handle_bind]
    refine .bind (Safe.imp (safe_method loose rfl fun p self m active held same settled =>
      safe_enable active held same settled) fun result l' loose' => ?_)
    exact ⟨before, loose', nofun⟩
  | disablePayload id =>
    show system.Safe Inv t _ ((Engine.disablePayload id >>= _).handle apart) _
    rw [Prog.handle_bind]
    refine .bind (Safe.imp (safe_method loose rfl fun p self m active held same settled =>
      safe_disable active held same settled) fun result l' loose' => ?_)
    exact ⟨before, loose', nofun⟩
  | invokePayload id operation input callback =>
    show system.Safe Inv t _ ((Engine.invokePayload id operation input callback >>= _).handle apart) _
    rw [Prog.handle_bind]
    refine .bind (Safe.imp (safe_method loose rfl fun p self m active held same settled =>
      safe_invoke active held same settled) fun result l' loose' => ?_)
    exact ⟨before, loose', nofun⟩
  | unloadPayload id =>
    show system.Safe Inv t _ ((Engine.unloadPayload id >>= _).handle apart) _
    rw [Prog.handle_bind]
    refine .bind (Safe.imp (safe_unloadPayload loose rfl) fun result l' ⟨loose', outcome⟩ => ?_)
    refine ⟨before, loose', fun id' same => ?_⟩
    cases same
    rcases outcome with rfl | excused
    · exact .inl rfl
    · exact .inr excused
  | close =>
    show system.Safe Inv t _ ((Engine.close >>= _).handle apart) _
    rw [Prog.handle_bind]
    refine .bind (Safe.imp (safe_close loose) fun result l' loose' => ?_)
    exact ⟨before, loose', nofun⟩

omit [DecidableEq Tid] in
theorem inv_initially (s : Lifecycle Tid) (same : s = {}) : ∃ L, Inv s L ∧ ∀ t, (L t).guard = none := by
  subst same
  refine ⟨fun _ => {}, ⟨?_, ?_, ?_, ?_⟩, fun _ => rfl⟩
  · constructor <;> simp
  · constructor <;> simp [Settled, Unborn, Fits.nil]
  · constructor <;> simp
  · constructor <;> simp

theorem inv_start {task : EngineTask} {s s' : Lifecycle Tid} {L : Tid → LifecycleLocal Tid} (inv : Inv s L)
    (idle : (L t).guard = none) (begun : system.start t task s s') : ∃ l, Inv s' (update L t l) ∧
      system.Safe Inv t (Finished task) (EngineTask.code task) l := by
  obtain ⟨fresh, rfl⟩ := begun
  exact ⟨_, ⟨{ inv.registry with }, inv.locks.begin idle, inv.snapshots.begin inv.locks, inv.threads.begin fresh⟩,
    safe_code task s.calls⟩

theorem inv_finish {task : EngineTask} {result : EngineResult} {s s' : Lifecycle Tid}
    {L : Tid → LifecycleLocal Tid} (inv : Inv s L) (done : Finished task result (L t))
    (ended : system.finish t task result s s') : ∃ l, Inv s' (update L t l) ∧ l.guard = none := by
  obtain ⟨before, loose, outcome⟩ := done
  subst ended
  refine ⟨{ L t with finished := true }, ⟨?_, inv.locks.frame rfl rfl rfl rfl ⟨rfl, rfl, rfl⟩, { inv.snapshots with },
    inv.threads.finish loose.call outcome⟩, loose.unlocked⟩
  obtain ⟨listed, registered, kept, unique, closed⟩ := inv.registry
  constructor <;> simp only [log]
  all_goals grind

def discipline : Discipline system (fun s : Lifecycle Tid => s = {}) (LifecycleLocal Tid) where
  inv := Inv
  resting _ l := l.guard = none
  finished _ task result l := Finished task result l
  init := inv_initially
  start _ _ _ _ _ inv idle begun := inv_start inv idle begun
  finish _ _ _ _ _ _ inv done ended := inv_finish inv done ended
  env _ _ _ _ moved := moved.elim

/-- The calls of each payload are in order and do not overlap, and the unload after a failed shutdown succeeds without
calling the plugin again. -/
structure LifecycleSafe (c : LifecycleConfig Tid) : Prop where
  order : ∀ payload, InOrder (c.state.calls payload)
  apart : ∀ payload, Apart (c.state.calls payload)
  retried : ∀ t t' id payload before result, .registered t' id payload ∈ c.state.history →
    c.state.begun t = some (.unloadPayload id, before) → ShutdownFailed (before payload) →
    .returned t (.unloadPayload id) result ∈ c.state.history →
    (∀ t', .closed t' ∉ c.state.history) → (∀ t', .removed t' id ∈ c.state.history → t' = t) →
    result = .unit (.ok ())
  uncalled : ∀ t task payload before, c.state.begun t = some (task, before) → ShutdownFailed (before payload) →
    c.state.calls payload = before payload
  completes : ∀ t id payload, c.threads t = .idle → c.state.begun t = none → c.state.engines.engine.closed = false →
    c.state.engines.engine.payloads id = some payload → ShutdownFailed (c.state.calls payload) →
    c.state.engines.holder payload = none →
    ∃ c', system.Run c c' ∧ .returned t (.unloadPayload id) (.unit (.ok ())) ∈ c'.state.history ∧
      c'.state.calls = c.state.calls ∧ c'.threads = c.threads

omit [DecidableEq Tid] in
theorem shutdownForUnload_terminal {self : EmbeddedPayload}
    (terminal : self.state = .shutdownFailed ∨ self.state = .shutdown) :
    self.shutdownForUnload p = setState p .shutdown >>= fun _ => pure (.ok ()) := by
  unfold EmbeddedPayload.shutdownForUnload
  rcases terminal with state | state
  · rw [state]
  · rw [state]

def settleUnload (id : UInt64) : Except HostError Unit → NativeProg (Except HostError Unit)
  | .error error => return .error error
  | .ok () => do
    remove id
    return .ok ()

theorem unload_completes {c₀ c : LifecycleConfig Tid} {payload : Nat} (start : system.Run c₀ c) (t : Tid) (id : UInt64)
    (idle : c.threads t = .idle)
    (fresh : c.state.begun t = none) (running : c.state.engines.engine.closed = false)
    (listed : c.state.engines.engine.payloads id = some payload)
    (terminal : (c.state.engines.payload payload).state = .shutdownFailed ∨
      (c.state.engines.payload payload).state = .shutdown)
    (free : c.state.engines.holder payload = none) :
    ∃ c', system.Run c₀ c' ∧ .returned t (.unloadPayload id) (.unit (.ok ())) ∈ c'.state.history ∧
      c'.state.calls = c.state.calls ∧ c'.threads = c.threads := by
  obtain ⟨s, threads⟩ := c
  have found : Except.ok payload = s.engines.engine.payload id := by
    rw [EngineState.payload, running, listed]
    rfl
  have rest : (((EmbeddedPayload.shutdownForUnload payload (s.engines.payload payload) >>= fun result =>
      unlockPayload payload >>= fun _ => pure result) >>= settleUnload id) >>= fun result =>
        pure (EngineResult.unit result)).handle apart =
      .act (.engine (.setState payload .shutdown)) fun _ => .act (.engine (.unlockPayload payload)) fun _ =>
        .act (.engine (.remove id)) fun _ => .done (EngineResult.unit (.ok ())) := by
    rw [shutdownForUnload_terminal terminal]
    rfl
  have begun := start.start t (.unloadPayload id) idle ⟨fresh, rfl⟩
  have looked := begun.act t (.engine (.payload id)) (Except.ok payload : Except HostError Nat) (update_self ..)
    ⟨s.engines, ⟨found, rfl⟩, rfl⟩
  have locked := looked.act t (.engine (.lockPayload payload)) (s.engines.payload payload) (update_self ..)
    ⟨_, ⟨free, rfl, rfl⟩, rfl⟩
  have set := locked.act t (.engine (.setState payload .shutdown)) ()
    ((update_self ..).trans (congrArg (Activity.running (EngineTask.unloadPayload id)) rest)) ⟨_, rfl, rfl⟩
  have unlocked := set.act t (.engine (.unlockPayload payload)) () (update_self ..) ⟨_, rfl, rfl⟩
  have removed := unlocked.act t (.engine (.remove id)) () (update_self ..) ⟨_, rfl, rfl⟩
  have finished := removed.finish t (update_self ..) rfl
  refine ⟨_, finished, .head _, rfl, ?_⟩
  simp only [update_idem]
  rw [← idle, update_eq_self]

theorem lifecycle_safe {c : LifecycleConfig Tid}
    (reached : system.Reachable (fun s : Lifecycle Tid => s = {}) c) : LifecycleSafe c := by
  obtain ⟨L, inv, -⟩ := discipline.valid_of_reachable reached
  refine ⟨fun payload => (inv.locks.fits payload).order, fun payload => (inv.locks.fits payload).apart, ?_,
    fun t task payload before => inv.snapshots.frozen t task before payload, ?_⟩
  · intro t t' id payload before result registered began failed finished unclosed unremoved
    obtain ⟨-, before', began', outcome⟩ := inv.threads.returned t _ _ finished
    rw [began] at began'
    cases began'
    rcases outcome id rfl with ok | missed | ⟨p, known, quiet⟩
    · exact ok
    · rcases inv.threads.missed t id _ _ missed began with ⟨t', closed⟩ | ⟨t', other, removed⟩ | unborn
      · exact absurd closed (unclosed t')
      · exact absurd (unremoved t' removed) other
      · exact absurd failed (unborn t' payload registered)
    · obtain ⟨t'', registered'⟩ := inv.threads.known t id p known
      cases inv.registry.unique _ _ _ _ _ registered registered'
      exact absurd failed quiet
  · intro t id payload idle fresh running listed failed free
    exact unload_completes .refl t id idle fresh running listed ((inv.locks.free payload free).terminal failed) free

section Runs

omit [DecidableEq Tid] in
theorem register_loaded {s : Engines Tid} {pluginId session id : UInt64} {outcome : LibraryOutcome}
    {payload : EmbeddedPayload} {engine : EngineState}
    (loaded : EmbeddedPayload.load outcome pluginId session = .ok payload)
    (registered : s.engine.register s.allocated = .ok (id, engine)) (running : s.engine.closed = false) :
    s.Register pluginId session (.ok id) { s with
      engine
      allocated := s.allocated + 1
      payload := update s.payload s.allocated payload } := by
  unfold Engines.Register
  rw [if_neg (by simp [running])]
  refine ⟨outcome, ?_⟩
  rw [loaded]
  simp only [registered]
  exact ⟨trivial, trivial⟩

def completeTable : HmclPluginApiV1 := { hasInitialize := true, hasInvoke := true, hasShutdown := true }

/-- A shutdown that fails, and the unload after it. -/
theorem lifecycle_safe_retried : ∃ c : LifecycleConfig Nat, LifecycleSafe c ∧
    (c.state.calls 0).map (·.status) = [some .pluginError, some .ok] ∧
    .returned 4 (.unloadPayload 1) (.unit (.ok ())) ∈ c.state.history := by
  have idle : system.Run (⟨{}, fun _ => .idle⟩ : LifecycleConfig Nat) ⟨{}, fun _ => .idle⟩ := .refl
  have loaded := (((idle.start 0 (.loadPayload "root" "entry" 7 9) rfl ⟨rfl, rfl⟩).act 0
    (.engine (.resolveEntrypoint "root" "entry")) (Except.ok "library" : Except HostError String) rfl
    ⟨_, ⟨trivial, rfl⟩, rfl⟩).act 0 (.engine (.register "library" 7 9)) (Except.ok 1 : Except HostError UInt64) rfl
    ⟨_, register_loaded (show EmbeddedPayload.load (.queried .ok completeTable) 7 9 = _ from rfl) rfl rfl, rfl⟩).finish 0 rfl rfl
  have initialized := ((((loaded.start 1 (.enablePayload 1) rfl ⟨rfl, rfl⟩).act 1 (.engine (.payload 1))
    (Except.ok 0 : Except HostError Nat) rfl ⟨_, ⟨rfl, rfl⟩, rfl⟩).act 1 (.engine (.lockPayload 0))
    ⟨7, 9, completeTable, .loaded⟩ rfl ⟨_, ⟨rfl, rfl, rfl⟩, rfl⟩).act 1 (.enter 0 (.initializePlugin 7 9)) () rfl
    rfl).act 1 (.leave 0) ⟨.ok, none⟩ rfl rfl
  have enabled := ((initialized.act 1 (.engine (.setState 0 .enabled)) () rfl ⟨_, rfl, rfl⟩).act 1
    (.engine (.unlockPayload 0)) () rfl ⟨_, rfl, rfl⟩).finish 1 rfl rfl
  have disabled := (((((enabled.start 2 (.disablePayload 1) rfl ⟨rfl, rfl⟩).act 2 (.engine (.payload 1))
    (Except.ok 0 : Except HostError Nat) rfl ⟨_, ⟨rfl, rfl⟩, rfl⟩).act 2 (.engine (.lockPayload 0))
    ⟨7, 9, completeTable, .enabled⟩ rfl ⟨_, ⟨rfl, rfl, rfl⟩, rfl⟩).act 2 (.engine (.setState 0 .disabled)) () rfl
    ⟨_, rfl, rfl⟩).act 2 (.engine (.unlockPayload 0)) () rfl ⟨_, rfl, rfl⟩).finish 2 rfl rfl
  have stopped := ((((disabled.start 3 (.unloadPayload 1) rfl ⟨rfl, rfl⟩).act 3 (.engine (.payload 1))
    (Except.ok 0 : Except HostError Nat) rfl ⟨_, ⟨rfl, rfl⟩, rfl⟩).act 3 (.engine (.lockPayload 0))
    ⟨7, 9, completeTable, .disabled⟩ rfl ⟨_, ⟨rfl, rfl, rfl⟩, rfl⟩).act 3 (.enter 0 (.shutdown 7)) () rfl
    rfl).act 3 (.leave 0) ⟨.pluginError, none⟩ rfl rfl
  have failed := ((stopped.act 3 (.engine (.setState 0 .shutdownFailed)) () rfl ⟨_, rfl, rfl⟩).act 3
    (.engine (.unlockPayload 0)) () rfl ⟨_, rfl, rfl⟩).finish 3 rfl rfl
  obtain ⟨c, retried, finished, calls, -⟩ := unload_completes failed 4 1 rfl rfl rfl rfl (.inl rfl) rfl
  exact ⟨c, lifecycle_safe ⟨{}, rfl, retried⟩, by rw [calls]; rfl, finished⟩

end Runs

end Lifecycle

end RuntimeHost.Native
