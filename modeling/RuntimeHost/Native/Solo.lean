import RuntimeHost.Foundation.Ownership
import RuntimeHost.Native.Methods
import RuntimeHost.Native.RegistrySafety

namespace RuntimeHost.Native

open Foundation Function System Abi

/-- An engine that one thread uses at a time, and the payload whose plugin call is running. -/
structure Solo (Tid : Type) where
  engines : Engines Tid := {}
  running : Option EmbeddedPayload := none

namespace Solo

variable {Tid α : Type}

def step (t : Tid) (x : Solo Tid) (op : LifecycleOp) (answer : op.Answer) (x' : Solo Tid) : Prop :=
  x.engines.execApart t op answer x'.engines ∧ x'.running = match op with
    | .enter payload _ => some (x.engines.payload payload)
    | .leave _ => none
    | .engine _ => x.running

def Calls (allowed : UInt64 → Prop) (x : Solo Tid) : Prop := ∀ self, x.running = some self → allowed self.session

/-- The engine is open, no plugin call is running, and these are its payloads with their sessions. -/
structure Enlists (sessions : UInt64 → Option UInt64) (next : UInt64) (x : Solo Tid) : Prop where
  ordered : x.engines.Ordered
  unclosed : x.engines.engine.closed = false
  listed : ∀ id, (x.engines.engine.payloads id).map (fun p => (x.engines.payload p).session) = sessions id
  next : x.engines.engine.nextPayloadId = next
  idle : x.running = none

/-- The registry and the sessions are the same, and so is whether the engine is closed. -/
structure Alike (x x' : Solo Tid) : Prop where
  ordered : x'.engines.Ordered
  engine : x'.engines.engine = x.engines.engine
  session : ∀ p, (x'.engines.payload p).session = (x.engines.payload p).session
  idle : x'.running = none

variable {allowed : UInt64 → Prop} {sessions : UInt64 → Option UInt64} {next id : UInt64} {p : Nat} {t : Tid}
  {x x' x'' : Solo Tid}

theorem Calls.of_idle (idle : x.running = none) : Calls allowed x := by
  intro self running
  rw [idle] at running
  cases running

theorem Alike.trans (first : Alike x x') (second : Alike x' x'') : Alike x x'' :=
  ⟨second.ordered, second.engine.trans first.engine, fun p => (second.session p).trans (first.session p), second.idle⟩

theorem Enlists.alike (enlists : Enlists sessions next x) (alike : Alike x x') : Enlists sessions next x' where
  ordered := alike.ordered
  unclosed := alike.engine ▸ enlists.unclosed
  listed id := by
    rw [alike.engine]
    simp only [alike.session]
    exact enlists.listed id
  next := alike.engine ▸ enlists.next
  idle := alike.idle

theorem Enlists.session (enlists : Enlists sessions next x) (found : x.engines.engine.payload id = .ok p) :
    sessions id = some (x.engines.payload p).session := by
  rw [EngineState.payload, enlists.unclosed] at found
  have listed := enlists.listed id
  cases registered : x.engines.engine.payloads id with
  | none =>
    rw [registered] at found
    cases found
  | some p' =>
    rw [registered] at found listed
    cases found
    exact listed.symm

theorem ensures_method {method : NativeProg α} (only : method.Only (InnerOf p)) (ordered : x.engines.Ordered)
    (idle : x.running = none) (mine : allowed (x.engines.payload p).session) :
    (method.handle EngineTask.apart).Ensures (step t) (Calls allowed) (fun _ x' => Alike x x') x := by
  have here : Calls allowed x := .of_idle idle
  induction method generalizing x with
  | done a => exact ⟨here, ordered, rfl, fun _ => rfl, idle⟩
  | act op rest ih =>
    obtain ⟨inner, later⟩ := only
    cases op with
    | engine op =>
      cases op with
      | setState p' state =>
        refine ⟨here, fun answer x' moved => ?_⟩
        obtain ⟨done, running⟩ := moved
        have kept := (ordered.moves done).ordered
        have session : ∀ q, (x'.engines.payload q).session = (x.engines.payload q).session := by
          rw [show x'.engines = _ from done]
          intro q
          simp only [update_apply]
          split
          · rename_i same
            rw [same]
          · rfl
        have alike : Alike x x' := ⟨kept, by rw [show x'.engines = _ from done], session, running.trans idle⟩
        refine (ih answer (later answer) kept alike.idle (session p ▸ mine) (.of_idle alike.idle)).imp ?_
        exact fun _ x'' _ after => alike.trans after
      | _ => exact inner.elim
    | plugin p' call =>
      obtain rfl : p' = p := inner
      refine ⟨here, fun _ x' begun => ⟨?_, fun answer x'' ended => ?_⟩⟩
      · intro self running
        rw [begun.2] at running
        cases running
        exact mine
      · have same : x''.engines = x.engines := (show x''.engines = x'.engines from ended.1).trans begun.1
        have alike : Alike x x'' := ⟨same ▸ ordered, by rw [same], fun q => by rw [same], ended.2⟩
        refine (ih answer (later answer) alike.ordered alike.idle (alike.session p' ▸ mine) (.of_idle alike.idle)).imp ?_
        exact fun _ x''' _ after => alike.trans after

theorem ensures_locked {method : EmbeddedPayload → NativeProg α} (only : ∀ self, (method self).Only (InnerOf p))
    (ordered : x.engines.Ordered) (idle : x.running = none) (mine : allowed (x.engines.payload p).session) :
    ((locked p method).handle EngineTask.apart).Ensures (step t) (Calls allowed) (fun _ x' => Alike x x') x := by
  refine ⟨.of_idle idle, fun (self : EmbeddedPayload) x' moved => ?_⟩
  obtain ⟨done, running⟩ := moved
  obtain ⟨-, -, same⟩ := show _ ∧ _ ∧ x'.engines = _ from done
  have alike : Alike x x' := ⟨(ordered.moves done).ordered, by rw [same], fun q => by rw [same], running.trans idle⟩
  show Prog.Ensures _ _ _ ((method self >>= _).handle EngineTask.apart) x'
  rw [Prog.handle_bind]
  refine .bind ((ensures_method (only self) alike.ordered alike.idle (alike.session p ▸ mine)).imp ?_)
  intro result x'' here after
  refine ⟨here, fun _ x''' moved => ?_⟩
  obtain ⟨done, running⟩ := moved
  have same : x'''.engines = _ := done
  have last : Alike x'' x''' :=
    ⟨(after.ordered.moves done).ordered, by rw [same], fun q => by rw [same], running.trans after.idle⟩
  exact ⟨.of_idle last.idle, (alike.trans after).trans last⟩

theorem ensures_lookup {β : Type} {method : Nat → EmbeddedPayload → NativeProg (Except HostError β)}
    (only : ∀ p self, (method p self).Only (InnerOf p)) (enlists : Enlists sessions next x) :
    ((NativeProg.payload id >>= fun found => match found with
      | .error error => return .error error
      | .ok payload => locked payload (method payload)).handle EngineTask.apart).Ensures (step t)
        (Calls fun session => ∃ id, sessions id = some session) (fun _ x' => Enlists sessions next x') x := by
  refine ⟨.of_idle enlists.idle, fun (found : Except HostError Nat) x' moved => ?_⟩
  obtain ⟨⟨looked, same⟩, running⟩ := show (found = _ ∧ x'.engines = x.engines) ∧ _ from moved
  have alike : Alike x x' := ⟨same ▸ enlists.ordered, by rw [same], fun q => by rw [same], running.trans enlists.idle⟩
  have enlists' := enlists.alike alike
  cases found with
  | error error => exact ⟨.of_idle enlists'.idle, enlists'⟩
  | ok p =>
    rw [← same] at looked
    refine (ensures_locked (only p) enlists'.ordered enlists'.idle ⟨id, enlists'.session looked.symm⟩).imp ?_
    exact fun _ x'' _ after => enlists'.alike after

theorem ensures_enablePayload (enlists : Enlists sessions next x) :
    ((Engine.enablePayload id).handle EngineTask.apart).Ensures (step t)
      (Calls fun session => ∃ id, sessions id = some session) (fun _ x' => Enlists sessions next x') x :=
  ensures_lookup EmbeddedPayload.enable_innerOf enlists

theorem ensures_disablePayload (enlists : Enlists sessions next x) :
    ((Engine.disablePayload id).handle EngineTask.apart).Ensures (step t)
      (Calls fun session => ∃ id, sessions id = some session) (fun _ x' => Enlists sessions next x') x :=
  ensures_lookup EmbeddedPayload.disable_innerOf enlists

theorem ensures_invokePayload {operation : String} {input : List UInt8} {callback : UInt64}
    (enlists : Enlists sessions next x) :
    ((Engine.invokePayload id operation input callback).handle EngineTask.apart).Ensures (step t)
      (Calls fun session => ∃ id, sessions id = some session) (fun _ x' => Enlists sessions next x') x :=
  ensures_lookup (fun p self => self.invoke_innerOf p operation input callback) enlists

/-- A payload that has been unloaded is gone, and so is its session; one that could not be unloaded is still there. -/
theorem ensures_unloadPayload (enlists : Enlists sessions next x) :
    ((Engine.unloadPayload id).handle EngineTask.apart).Ensures (step t)
      (Calls fun session => ∃ id, sessions id = some session) (fun result x' => match result with
        | .error _ => Enlists sessions next x'
        | .ok () => Enlists (update sessions id none) next x') x := by
  refine ⟨.of_idle enlists.idle, fun (found : Except HostError Nat) x' moved => ?_⟩
  obtain ⟨⟨looked, same⟩, running⟩ := show (found = _ ∧ x'.engines = x.engines) ∧ _ from moved
  have alike : Alike x x' := ⟨same ▸ enlists.ordered, by rw [same], fun q => by rw [same], running.trans enlists.idle⟩
  have enlists' := enlists.alike alike
  cases found with
  | error error => exact ⟨.of_idle enlists'.idle, enlists'⟩
  | ok p =>
    rw [← same] at looked
    show Prog.Ensures _ _ _ ((locked p (·.shutdownForUnload p) >>= _).handle EngineTask.apart) x'
    rw [Prog.handle_bind]
    refine .bind ((ensures_locked (EmbeddedPayload.shutdownForUnload_innerOf p) enlists'.ordered enlists'.idle
      ⟨id, enlists'.session looked.symm⟩).imp fun result x'' here after => ?_)
    have enlists'' := enlists'.alike after
    cases result with
    | error error => exact ⟨here, enlists''⟩
    | ok =>
      refine ⟨here, fun _ x''' moved => ?_⟩
      obtain ⟨done, running⟩ := moved
      have removed : x'''.engines = _ := done
      have ended : Enlists (update sessions id none) next x''' := by
        refine ⟨(enlists''.ordered.moves done).ordered, ?_, fun id' => ?_, ?_, running.trans enlists''.idle⟩
        · rw [removed]
          exact enlists''.unclosed
        · rw [removed]
          simp only [EngineState.remove, update_apply]
          split
          · rfl
          · exact enlists''.listed id'
        · rw [removed]
          exact enlists''.next
      exact ⟨.of_idle ended.idle, ended⟩

theorem session_of_register {s s' : Engines Tid} {pluginId session : UInt64}
    (done : s.Register pluginId session (.ok id) s') : (s'.payload s.allocated).session = session := by
  unfold Engines.Register at done
  split at done
  · cases done.1
  · obtain ⟨outcome, done⟩ := done
    split at done
    · cases done.1
    · rename_i payload loaded
      have mine : payload.session = session := by
        unfold EmbeddedPayload.load at loaded
        split at loaded
        · cases loaded
        · cases loaded
        · repeat' split at loaded
          all_goals cases loaded
          rfl
      split at done
      · cases done.1
      · obtain ⟨-, rfl⟩ := done
        simpa using mine

theorem ensures_loadPayload {packageRoot entrypoint : String} {pluginId session : UInt64}
    (enlists : Enlists sessions next x) :
    ((Engine.loadPayload packageRoot entrypoint pluginId session).handle EngineTask.apart).Ensures (step t)
      (Calls allowed) (fun result x' => match result with
        | .error _ => Enlists sessions next x'
        | .ok id => id = next ∧ ∃ next' : UInt64, next'.toNat = next.toNat + 1 ∧
            Enlists (update sessions next (some session)) next' x') x := by
  unfold Engine.loadPayload
  split
  · exact ⟨.of_idle enlists.idle, enlists⟩
  · refine ⟨.of_idle enlists.idle, fun (resolved : Except HostError String) x' moved => ?_⟩
    obtain ⟨⟨-, same⟩, running⟩ := show (_ ∧ x'.engines = x.engines) ∧ _ from moved
    have alike : Alike x x' := ⟨same ▸ enlists.ordered, by rw [same], fun q => by rw [same], running.trans enlists.idle⟩
    have enlists' := enlists.alike alike
    cases resolved with
    | error error => exact ⟨.of_idle enlists'.idle, enlists'⟩
    | ok libraryPath =>
      refine ⟨.of_idle enlists'.idle, fun (answer : Except HostError UInt64) x'' moved => ?_⟩
      obtain ⟨done, running⟩ := moved
      have ordered := (enlists'.ordered.moves done).ordered
      have idle : x''.running = none := running.trans enlists'.idle
      rcases Engines.register_cases done with ⟨error, rfl, same, -⟩ | ⟨payload, next', unclosed, -, later, rfl, registered⟩
      · have alike : Alike x' x'' := ⟨ordered, by rw [same], fun q => by rw [same], idle⟩
        exact ⟨.of_idle idle, enlists'.alike alike⟩
      · have mine := session_of_register done
        refine ⟨.of_idle idle, enlists'.next, next', by rw [later, enlists'.next], ordered, ?_, fun id' => ?_, ?_, idle⟩
        · rw [registered]
          exact unclosed
        · have listed := enlists'.listed id'
          rw [registered] at mine ⊢
          simp only [update_apply, enlists'.next] at mine ⊢
          split
          · simpa using mine
          · rw [← listed]
            cases found : x'.engines.engine.payloads id' with
            | none => rfl
            | some q =>
              have older := enlists'.ordered.allocated id' q found
              simp only [Option.map_some, if_neg (Nat.ne_of_lt older)]
        · rw [registered]

theorem ensures_forceShutdowns (payloads : List Nat) (firstFailure : Option HostError) (ordered : x.engines.Ordered)
    (idle : x.running = none) (mine : ∀ p ∈ payloads, allowed (x.engines.payload p).session) :
    ((Engine.forceShutdowns payloads firstFailure).handle EngineTask.apart).Ensures (step t) (Calls allowed)
      (fun _ x' => Alike x x') x := by
  induction payloads generalizing x firstFailure with
  | nil => exact ⟨.of_idle idle, ordered, rfl, fun _ => rfl, idle⟩
  | cons p payloads ih =>
    show Prog.Ensures _ _ _ ((locked p (·.forceShutdown p) >>= _).handle EngineTask.apart) x
    rw [Prog.handle_bind]
    refine .bind ((ensures_locked (EmbeddedPayload.forceShutdown_innerOf p) ordered idle (mine p (.head _))).imp ?_)
    intro result x' here after
    have rest : ∀ q ∈ payloads, allowed (x'.engines.payload q).session :=
      fun q listed => after.session q ▸ mine q (.tail _ listed)
    cases result with
    | error error => exact (ih _ after.ordered after.idle rest).imp fun _ x'' _ last => after.trans last
    | ok => exact (ih _ after.ordered after.idle rest).imp fun _ x'' _ last => after.trans last

theorem ensures_closed (ordered : x.engines.Ordered) (closed : x.engines.engine.closed = true) (idle : x.running = none) :
    (Engine.close.handle EngineTask.apart).Ensures (step t) (Calls allowed) (fun _ x' => x' = x) x := by
  refine ⟨.of_idle idle, fun (drained : Option (List Nat)) x' moved => ?_⟩
  obtain ⟨done, running⟩ := moved
  have done : if x.engines.engine.closed then drained = none ∧ x'.engines = x.engines else _ := done
  rw [if_pos closed] at done
  obtain ⟨rfl, same⟩ := done
  obtain rfl : x' = x := by
    cases x
    cases x'
    cases same
    cases running
    rfl
  exact ⟨.of_idle idle, rfl⟩

theorem ensures_close (enlists : Enlists sessions next x) : (Engine.close.handle EngineTask.apart).Ensures (step t)
    (Calls fun session => ∃ id, sessions id = some session)
    (fun _ x' => x'.engines.Ordered ∧ x'.engines.engine.closed = true ∧ x'.running = none) x := by
  refine ⟨.of_idle enlists.idle, fun (drained : Option (List Nat)) x' moved => ?_⟩
  obtain ⟨done, running⟩ := moved
  have ordered := (enlists.ordered.moves done).ordered
  have done : if x.engines.engine.closed then _ else drained = some x.engines.engine.drained ∧ x'.engines = _ := done
  rw [if_neg (by simp [enlists.unclosed])] at done
  obtain ⟨rfl, emptied⟩ := done
  have idle : x'.running = none := running.trans enlists.idle
  have closed : x'.engines.engine.closed = true := by rw [emptied]
  show Prog.Ensures _ _ _ ((Engine.forceShutdowns x.engines.engine.drained none >>= _).handle EngineTask.apart) x'
  rw [Prog.handle_bind]
  refine .bind ((ensures_forceShutdowns _ none ordered idle fun p drained => ?_).imp fun failure x'' here after => ?_)
  · obtain ⟨id, -, found⟩ := List.mem_filterMap.mp drained
    refine ⟨id, ?_⟩
    rw [← enlists.listed id, found, emptied]
    rfl
  · have ended : x''.engines.Ordered ∧ x''.engines.engine.closed = true ∧ x''.running = none :=
      ⟨after.ordered, by rw [after.engine, closed], after.idle⟩
    cases failure with
    | none => exact ⟨here, ended⟩
    | some error => exact ⟨here, ended⟩

end Solo

end RuntimeHost.Native
