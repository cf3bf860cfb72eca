import RuntimeHost.Sdk.SessionInvariant

namespace RuntimeHost.Sdk

open Foundation Function System Abi

variable {Tid : Type}

theorem PluginCall.justified_congr {events events' : List (SessionEvent Tid)} {t : Tid} {call : PluginCall}
    {status : HmclStatus} (same : ∀ event, event.thread = t → (event ∈ events ↔ event ∈ events')) :
    call.Justified events t status ↔ call.Justified events' t status := by
  have created := fun context => same (.created t context) rfl
  have installed := fun session plugin => same (.installed t session plugin) rfl
  have checked := fun session plugin => same (.checked t session plugin) rfl
  have removed := fun session => same (.removed t session) rfl
  have admitted := fun session => same (.admitted t session) rfl
  have began := fun user => same (.began t user) rfl
  have ended := fun user outcome => same (.ended t user outcome) rfl
  have deactivated := fun context => same (.deactivated t context) rfl
  unfold PluginCall.Justified
  split
  case h_4 => grind
  all_goals simp only [created, installed, checked, removed, admitted, began, ended, deactivated]

namespace Runtime

variable [DecidableEq Tid] {s : Runtime Tid} {L : Tid → SessionLocal Tid} {t : Tid} {x : SessionRef}

theorem Inv.step {s' : Runtime Tid} {l : SessionLocal Tid} (events : List (SessionEvent Tid)) (inv : s.Inv L)
    (active : (L t).call.isSome) (call : l.call = (L t).call) (begun : s'.begun = s.begun)
    (history : s'.history = events ++ s.history) (own : l.own = events ++ (L t).own)
    (mine : ∀ event ∈ events, event.thread = t) (hands : s'.Hands (update L t l))
    (record : s'.Record (update L t l)) (scopes : s'.Scopes (update L t l)) : s'.Inv (update L t l) := by
  refine ⟨fun t' idle => ?_, fun t' => ?_, fun event => ?_, hands, record, scopes⟩
  · rw [begun] at idle
    have other : t' ≠ t := by
      rintro rfl
      rw [inv.call t', idle] at active
      cases active
    rw [update_of_ne other]
    exact inv.fresh t' idle
  · rw [begun]
    simp only [view_frame, call, inv.call]
  · have old := inv.own event
    have own' := view_update L t l event.thread
    rw [history]
    grind

omit [DecidableEq Tid] in
theorem Hands.nobody_took (hands : s.Hands L) (held : (L t).sees.isSome) (untaken : ∀ y, (L t).taken ≠ some (y, .took))
    (t' : Tid) (y : SessionRef) : (L t').taken ≠ some (y, .took) := by
  intro took
  have same : t' = t := hands.alone held (by rw [(hands.took t' y took).1]; rfl)
  exact untaken y (same ▸ took)

omit [DecidableEq Tid] in
theorem Inv.may_invoke (inv : s.Inv L) (inside : (L t).counted = some x) :
    SessionEvent.Permitted s.history (.began t (.invoke x)) := by
  refine ⟨inv.record.counted t x inside, fun t' began => ?_⟩
  obtain ⟨-, outside, untaken⟩ := inv.record.stopped t' x began
  rcases (inv.hands.counted t x inside).2 with here | ⟨t'', stage, there, -⟩
  · exact outside here
  · exact untaken t'' stage there

section Steps

variable {l : SessionLocal Tid} {context : ContextRef}

theorem keeps_newContext (active : l.call.isSome) :
    system.Keeps Inv t .newContext l fun context l' =>
      l' = { l with scope := .open context, own := .created t context :: l.own } := by
  rintro s L inv rfl context s' ⟨rfl, rfl⟩
  refine ⟨_, rfl, inv.step [.created t s.contexts] active rfl rfl rfl rfl (by simp [SessionEvent.thread]) ?_ ?_ ?_⟩
  · apply inv.hands.frame <;> simp [log, view_frame]
  · apply (inv.record.log (.created t s.contexts) trivial trivial).frame <;> simp [log, view_frame]
  · exact inv.scopes.new_context

theorem keeps_setInactive (active : l.call.isSome) (scope : l.scope = .open context) :
    system.Keeps Inv t (.setInactive context) l fun _ l' => l' = { l with scope := .closing context } := by
  rintro s L inv rfl _ s' rfl
  refine ⟨_, rfl, inv.step [] active rfl rfl rfl rfl (by simp) ?_ ?_ (inv.scopes.set_inactive scope)⟩
  · apply inv.hands.frame <;> simp [view_frame]
  · apply inv.record.frame <;> simp [view_frame]

theorem keeps_awaitQuiesced (active : l.call.isSome) (scope : l.scope = .closing context) :
    system.Keeps Inv t (.awaitQuiesced context) l fun _ l' => l' = { l with scope := .quiesced context } := by
  rintro s L inv rfl _ s' ⟨unused, rfl⟩
  refine ⟨_, rfl, inv.step [] active rfl rfl rfl rfl (by simp) ?_ ?_ (inv.scopes.quiesce scope unused)⟩
  · apply inv.hands.frame <;> simp [view_frame]
  · apply inv.record.frame <;> simp [view_frame]

theorem keeps_closeCallbacks (active : l.call.isSome) (scope : l.scope = .quiesced context) :
    system.Keeps Inv t (.closeCallbacks context) l fun _ l' =>
      l' = { l with own := .deactivated t context :: l.own } := by
  rintro s L inv rfl _ s' rfl
  refine ⟨_, rfl, inv.step [.deactivated t context] active rfl rfl rfl rfl (by simp [SessionEvent.thread]) ?_ ?_
    (inv.scopes.deactivate scope)⟩
  · apply inv.hands.frame <;> simp [log, view_frame]
  · apply (inv.record.log (.deactivated t context) trivial trivial).frame <;> simp [log, view_frame]

theorem keeps_lockSlot (active : l.call.isSome) :
    system.Keeps Inv t .lockSlot l fun slot l' => l' = { l with sees := some slot } := by
  rintro s L inv rfl slot s' ⟨free, rfl, rfl⟩
  refine ⟨_, rfl, inv.step [] active rfl rfl rfl rfl (by simp) (inv.hands.lock_slot free) ?_ ?_⟩
  · apply inv.record.frame <;> simp [view_frame]
  · apply inv.scopes.frame <;> simp [view_frame]

theorem keeps_unlockSlot (active : l.call.isSome) (held : l.sees.isSome) (untaken : ∀ y, l.taken ≠ some (y, .took))
    (counts : ∀ y, l.clone = some y → l.counted = some y) :
    system.Keeps Inv t .unlockSlot l fun _ l' => l' = { l with sees := none } := by
  rintro s L inv rfl _ s' rfl
  refine ⟨_, rfl, inv.step [] active rfl rfl rfl rfl (by simp) (inv.hands.unlock_slot held untaken counts) ?_ ?_⟩
  · apply inv.record.frame <;> simp [view_frame]
  · apply inv.scopes.frame <;> simp [view_frame]

theorem keeps_install {plugin : UInt64} (active : l.call.isSome) (seen : l.sees = some none) (empty : l.taken = none)
    (scope : l.scope = .open context)
    (initialized : .created t context ∈ l.own ∧ .ended t (.initializePlugin context) .ok ∈ l.own) :
    system.Keeps Inv t (.install context plugin) l fun _ l' => ∃ session,
      l' = { l with sees := some (some session), own := .installed t session plugin :: l.own } := by
  rintro s L inv rfl _ s' rfl
  have nobody := inv.hands.nobody_took (t := t) (by rw [seen]; rfl) (by simp [empty])
  have own := fun event => inv.own event
  exact ⟨_, ⟨s.sessions, rfl⟩, inv.step [.installed t s.sessions plugin] active rfl rfl rfl rfl
    (by simp [SessionEvent.thread]) (inv.hands.install seen empty)
    (inv.record.install (inv.hands.slot t _ seen) nobody
      ⟨context, (inv.own _).mpr initialized.1, (inv.own _).mpr initialized.2⟩) (inv.scopes.install scope)⟩

theorem keeps_take (active : l.call.isSome) (seen : l.sees = some (some x)) (empty : l.taken = none)
    (bare : l.clone = none) :
    system.Keeps Inv t .take l fun _ l' => l' = { l with sees := some none, taken := some (x, .took) } := by
  rintro s L inv rfl _ s' rfl
  have nobody := inv.hands.nobody_took (t := t) (by rw [seen]; rfl) (by simp [empty])
  refine ⟨_, rfl, inv.step [] active rfl rfl rfl rfl (by simp) (inv.hands.take seen empty bare)
    (inv.record.take (inv.hands.slot t _ seen) nobody) ?_⟩
  apply inv.scopes.frame <;> simp [view_frame]

theorem keeps_putBack (active : l.call.isSome) (mine : l.taken = some (x, .took)) :
    system.Keeps Inv t (.putBack x) l fun _ l' => l' = { l with sees := some (some x), taken := none } := by
  rintro s L inv rfl _ s' rfl
  refine ⟨_, rfl, inv.step [] active rfl rfl rfl rfl (by simp) (inv.hands.put_back mine)
    (inv.record.put_back mine) ?_⟩
  apply inv.scopes.frame <;> simp [view_frame]

theorem keeps_read (active : l.call.isSome) (mine : l.taken = some (x, .took)) :
    system.Keeps Inv t (.read x) l fun found l' =>
      l' = { l with scope := .open found.2, own := .checked t x found.1 :: l.own } := by
  rintro s L inv rfl found s' ⟨rfl, rfl⟩
  have bound := (inv.hands.taken t x _ mine).1
  refine ⟨_, rfl, inv.step [.checked t x (s.session x).plugin] active rfl rfl rfl rfl (by simp [SessionEvent.thread])
    ?_ ?_ (inv.scopes.check bound)⟩
  · apply inv.hands.frame <;> simp [log, view_frame]
  · apply (inv.record.log (.checked t x (s.session x).plugin) trivial
      ⟨inv.record.took t x mine, inv.record.named x bound⟩).frame <;> simp [log, view_frame]

theorem keeps_cloneArc (active : l.call.isSome) (seen : l.sees = some (some x)) (bare : l.clone = none) :
    system.Keeps Inv t (.cloneArc x) l fun _ l' => l' = { l with clone := some x } := by
  rintro s L inv rfl _ s' rfl
  refine ⟨_, rfl, inv.step [] active rfl rfl rfl rfl (by simp) (inv.hands.clone seen bare) ?_ ?_⟩
  · apply inv.record.frame <;> simp [setSession_plugin, view_frame]
  · apply inv.scopes.frame <;> simp [setSession_context, view_frame]

theorem keeps_dropArc (active : l.call.isSome) (mine : l.clone = some x) :
    system.Keeps Inv t (.dropArc x) l fun _ l' => l' = { l with clone := none } := by
  rintro s L inv rfl _ s' rfl
  refine ⟨_, rfl, inv.step [] active rfl rfl rfl rfl (by simp) (inv.hands.drop_clone mine) ?_ ?_⟩
  · apply inv.record.frame <;> simp [setSession_plugin, view_frame]
  · apply inv.scopes.frame <;> simp [setSession_context, view_frame]

theorem keeps_admitCall (active : l.call.isSome) (seen : l.sees = some (some x)) (outside : l.counted = none)
    (empty : l.taken = none) :
    system.Keeps Inv t (.admitCall x) l fun (admitted : Bool) l' =>
      if admitted then l' = { l with counted := some x, own := .admitted t x :: l.own } else l' = l := by
  rintro s L inv rfl admitted s' answered
  have nobody := inv.hands.nobody_took (t := t) (by rw [seen]; rfl) (by simp [empty])
  have here := inv.hands.slot t _ seen
  simp only [system, exec] at answered
  split at answered
  · obtain ⟨rfl, rfl⟩ := answered
    refine ⟨_, rfl, inv.step [.admitted t x] active rfl rfl rfl rfl (by simp [SessionEvent.thread])
      (inv.hands.admit_call seen outside) (inv.record.admit_call here (inv.hands.bound x here).1 outside nobody) ?_⟩
    apply inv.scopes.frame <;> simp [log, setSession_context, view_frame]
  · obtain ⟨rfl, rfl⟩ := answered
    exact ⟨L t, rfl, by rwa [update_eq_self]⟩

theorem keeps_leave (active : l.call.isSome) (mine : l.counted = some x) (bare : l.clone = none)
    (heard : ∃ outcome, .ended t (.invoke x) outcome ∈ l.own) :
    system.Keeps Inv t (.leave x) l fun _ l' => l' = { l with counted := none } := by
  rintro s L inv rfl _ s' answered
  have counts := inv.hands.inFlight x (inv.hands.counted t x mine).1
  have heard' : ∃ outcome, .ended t (.invoke x) outcome ∈ s.history := by
    obtain ⟨outcome, ended⟩ := heard
    exact ⟨outcome, (inv.own _).mpr ended⟩
  simp only [system, exec] at answered
  split at answered
  · rename_i inFlight size
    subst answered
    refine ⟨_, rfl, inv.step [] active rfl rfl rfl rfl (by simp) (inv.hands.leave mine bare size)
      (inv.record.leave mine heard') ?_⟩
    apply inv.scopes.frame <;> simp [setSession_context, view_frame]
  · rename_i none
    rw [none] at counts
    exact absurd mine (counts.nobody t)

theorem keeps_closeGate (active : l.call.isSome) (mine : l.taken = some (x, .took)) :
    system.Keeps Inv t (.closeGate x) l fun _ l' =>
      l' = { l with taken := some (x, .closed), own := .removed t x :: l.own } := by
  rintro s L inv rfl _ s' rfl
  have seen := (inv.hands.took t x mine).1
  have alone := fun t' y took => (Hands.alone (t := t) inv.hands (by rw [seen]; rfl) : _ → t' = t)
    (by rw [(inv.hands.took t' y took).1]; rfl)
  refine ⟨_, rfl, inv.step [.removed t x] active rfl rfl rfl rfl (by simp [SessionEvent.thread])
    (inv.hands.close_gate mine) (inv.record.close_gate mine (inv.hands.slot t _ seen) alone) ?_⟩
  apply inv.scopes.frame <;> simp [log, setSession_context, view_frame]

theorem keeps_waitGate (active : l.call.isSome) (mine : l.taken = some (x, .closed)) :
    system.Keeps Inv t (.waitGate x) l fun _ l' => l' = { l with taken := some (x, .quiet) } := by
  rintro s L inv rfl _ s' ⟨quiet, rfl⟩
  refine ⟨_, rfl, inv.step [] active rfl rfl rfl rfl (by simp) (inv.hands.wait mine quiet)
    (inv.record.advance mine (by simp) (by simp)) ?_⟩
  apply inv.scopes.frame <;> simp [view_frame]

theorem keeps_tryUnwrap (active : l.call.isSome) (mine : l.taken = some (x, .quiet)) :
    system.Keeps Inv t (.tryUnwrap x) l fun (unwrapped : Bool) l' =>
      unwrapped = true ∧ l' = { l with taken := some (x, .unwrapped) } := by
  rintro s L inv rfl unwrapped s' answered
  simp only [system, exec, if_pos (inv.hands.strong_eq_one mine)] at answered
  obtain ⟨rfl, rfl⟩ := answered
  refine ⟨_, ⟨rfl, rfl⟩, inv.step [] active rfl rfl rfl rfl (by simp) (inv.hands.unwrap mine) ?_ ?_⟩
  · have advanced : Record s (update L t { L t with taken := some (x, .unwrapped) }) :=
      inv.record.advance mine (by simp) (by simp)
    apply advanced.frame <;>
      simp [setSession_plugin, view_frame]
  · apply inv.scopes.frame <;> simp [setSession_context, view_frame]

theorem keeps_beginUser {call : UserCall} (active : l.call.isSome) (plain : ∀ x, call ≠ .shutdown x)
    (inside : ∀ x, call = .invoke x → l.counted = some x) :
    system.Keeps Inv t (.beginUser call) l fun _ l' => l' = { l with own := .began t call :: l.own } := by
  rintro s L inv rfl _ s' rfl
  have allowed : SessionEvent.Permitted s.history (.began t call) := by
    cases call with
    | invoke x => exact inv.may_invoke (inside x rfl)
    | shutdown x => exact absurd rfl (plain x)
    | _ => trivial
  have ordinary : (SessionEvent.began t call).Plain := by
    cases call <;> first | trivial | exact plain _ rfl
  refine ⟨_, rfl, inv.step [.began t call] active rfl rfl rfl rfl (by simp [SessionEvent.thread]) ?_ ?_ ?_⟩
  · apply inv.hands.frame <;> simp [log, view_frame]
  · apply (inv.record.log _ ordinary allowed).frame <;> simp [log, view_frame]
  · apply inv.scopes.frame <;> simp [log, view_frame]

theorem keeps_beginShutdown (active : l.call.isSome) (mine : l.taken = some (x, .unwrapped)) :
    system.Keeps Inv t (.beginUser (.shutdown x)) l fun _ l' =>
      l' = { l with taken := none, own := .began t (.shutdown x) :: l.own } := by
  rintro s L inv rfl _ s' rfl
  refine ⟨_, rfl, inv.step [.began t (.shutdown x)] active rfl rfl rfl rfl (by simp [SessionEvent.thread])
    (inv.hands.begin_shutdown mine) (inv.record.begin_shutdown inv.hands mine) ?_⟩
  apply inv.scopes.frame <;> simp [log, view_frame]

theorem keeps_endUser {call : UserCall} (active : l.call.isSome) :
    system.Keeps Inv t (.endUser call) l fun outcome l' => l' = { l with own := .ended t call outcome :: l.own } := by
  rintro s L inv rfl outcome s' rfl
  refine ⟨_, rfl, inv.step [.ended t call outcome] active rfl rfl rfl rfl (by simp [SessionEvent.thread]) ?_ ?_ ?_⟩
  · apply inv.hands.frame <;> simp [log, view_frame]
  · apply (inv.record.log (.ended t call outcome) trivial trivial).frame <;> simp [log, view_frame]
  · apply inv.scopes.frame <;> simp [log, view_frame]

theorem keeps_deliver : system.Keeps Inv t (.deliver x) l fun _ l' => l' = l := by
  rintro s L inv rfl status s' rfl
  exact ⟨L t, rfl, by rwa [update_eq_self]⟩

end Steps

section Calls

variable {l : SessionLocal Tid} {context : ContextRef} {plugin : UInt64}

theorem safe_userCode {call : UserCall} (active : l.call.isSome) (plain : ∀ x, call ≠ .shutdown x)
    (inside : ∀ x, call = .invoke x → l.counted = some x) :
    system.Safe Inv t (fun outcome l' => l' = { l with own := .ended t call outcome :: .began t call :: l.own })
      (userCode call) l := by
  refine Keeps.imp (keeps_beginUser active plain inside) fun _ l' same => ?_
  subst same
  exact keeps_endUser active

theorem safe_shutdownCode (active : l.call.isSome) (mine : l.taken = some (x, .unwrapped)) :
    system.Safe Inv t (fun outcome l' => l' = { l with
        taken := none, own := .ended t (.shutdown x) outcome :: .began t (.shutdown x) :: l.own })
      (userCode (.shutdown x)) l := by
  refine Keeps.imp (keeps_beginShutdown active mine) fun _ l' same => ?_
  subst same
  exact keeps_endUser active

theorem safe_deactivateContext (active : l.call.isSome) (scope : l.scope = .open context) :
    system.Safe Inv t (fun _ l' => l' = { l with
        scope := .quiesced context, own := .deactivated t context :: l.own })
      (deactivateContext context) l := by
  refine Keeps.imp (keeps_setInactive active scope) fun _ l' same => ?_
  subst same
  refine Keeps.imp (keeps_awaitQuiesced active rfl) fun _ l' same => ?_
  subst same
  exact keeps_closeCallbacks active rfl

def Finished (t : Tid) (call : PluginCall) (status : HmclStatus) (l : SessionLocal Tid) : Prop :=
  l.call.isSome ∧ call.Justified l.own t status

/-- What is known at the end of `initialize_inner`, before its guard is dropped. -/
structure Guarded (t : Tid) (context : ContextRef) (plugin : UInt64) (status : HmclStatus) (armed : Bool)
    (l : SessionLocal Tid) : Prop where
  active : l.call.isSome
  scope : l.scope = .open context
  created : .created t context ∈ l.own
  disarmed : armed = false → status = .ok ∧ .ended t (.initializePlugin context) .ok ∈ l.own ∧
    ∃ session, .installed t session plugin ∈ l.own
  armed : armed = true → status ≠ .ok ∧ ∀ session plugin, .installed t session plugin ∉ l.own

theorem safe_initializeGuarded (active : l.call.isSome) (fresh : l =
      { call := l.call, scope := .open context, own := [.created t context] }) :
    system.Safe Inv t (fun outcome => Guarded t context plugin outcome.1 outcome.2)
      (initializeGuarded context plugin) l := by
  generalize l.call = call at *
  subst fresh
  refine Keeps.imp (keeps_lockSlot active) fun slot l' same => ?_
  subst same
  refine Keeps.imp (keeps_unlockSlot active rfl (by simp) (by simp)) fun _ l' same => ?_
  subst same
  cases slot with
  | some _ => exact ⟨active, rfl, by simp, by simp, by simp⟩
  | none =>
    show system.Safe Inv t _ (userCode _ >>= _) _
    refine .bind (Safe.imp (safe_userCode active (by simp) (by simp)) fun constructed l' same => ?_)
    subst same
    cases constructed with
    | ok =>
      show system.Safe Inv t _ (userCode _ >>= _) _
      refine .bind (Safe.imp (safe_userCode active (by simp) (by simp)) fun initialized l' same => ?_)
      subst same
      cases initialized with
      | ok =>
        refine Keeps.imp (keeps_lockSlot active) fun slot l' same => ?_
        subst same
        cases slot with
        | some _ =>
          refine Keeps.imp (keeps_unlockSlot active rfl (by simp) (by simp)) fun _ l' same => ?_
          subst same
          show system.Safe Inv t _ (userCode _ >>= _) _
          refine .bind (Safe.imp (safe_userCode active (by simp) (by simp)) fun _ l' same => ?_)
          subst same
          exact ⟨active, rfl, by simp, by simp, by simp⟩
        | none =>
          refine Keeps.imp (keeps_install active rfl rfl rfl (by simp)) fun _ l' ⟨session, same⟩ => ?_
          subst same
          refine Keeps.imp (keeps_unlockSlot active rfl (by simp) (by simp)) fun _ l' same => ?_
          subst same
          exact ⟨active, rfl, by simp, fun _ => ⟨rfl, by simp, session, by simp⟩, by simp⟩
      | _ =>
        show system.Safe Inv t _ (userCode _ >>= _) _
        refine .bind (Safe.imp (safe_userCode active (by simp) (by simp)) fun _ l' same => ?_)
        subst same
        exact ⟨active, rfl, by simp, by simp, by simp⟩
    | _ => exact ⟨active, rfl, by simp, by simp, by simp⟩

theorem safe_initializeInner (active : l.call.isSome) (fresh : l = { call := l.call }) :
    system.Safe Inv t (Finished t (.initializePlugin (.ok ()) plugin)) (initializeInner plugin) l := by
  refine Keeps.imp (keeps_newContext active) fun context l' same => ?_
  generalize l.call = call at *
  subst same fresh
  show system.Safe Inv t _ (initializeGuarded context plugin >>= _) _
  refine .bind (Safe.imp (safe_initializeGuarded active rfl) fun outcome l' guarded => ?_)
  obtain ⟨status, armed⟩ := outcome
  cases armed with
  | false =>
    obtain ⟨rfl, initialized, installed⟩ := guarded.disarmed rfl
    exact ⟨guarded.active, context, guarded.created, .inl ⟨rfl, initialized, installed⟩⟩
  | true =>
    obtain ⟨failed, nothing⟩ := guarded.armed rfl
    show system.Safe Inv t _ (deactivateContext _ >>= _) _
    refine .bind (Safe.imp (safe_deactivateContext guarded.active guarded.scope) fun _ l'' same => ?_)
    subst same
    exact ⟨guarded.active, context, by simp [guarded.created], .inr ⟨failed, by simpa using nothing, by simp⟩⟩

theorem safe_invokeAdmitted (active : l.call.isSome) (inside : l.counted = some x) :
    system.Safe Inv t (fun _ l' => ∃ outcome,
        l' = { l with own := .ended t (.invoke x) outcome :: .began t (.invoke x) :: l.own })
      (invokeAdmitted x) l := by
  show system.Safe Inv t _ (userCode _ >>= _) _
  refine .bind (Safe.imp (safe_userCode active (by simp) (by simp [inside])) fun outcome l' same => ?_)
  subst same
  cases outcome with
  | ok => exact Keeps.imp keeps_deliver fun _ l' same => ⟨.ok, same⟩
  | _ => exact ⟨_, rfl⟩

theorem safe_invokeInner (active : l.call.isSome) (fresh : l = { call := l.call }) :
    system.Safe Inv t (Finished t (.invoke (.ok ()))) invokeInner l := by
  refine Keeps.imp (keeps_lockSlot active) fun slot l' same => ?_
  generalize l.call = call at *
  subst same fresh
  cases slot with
  | none =>
    refine Keeps.imp (keeps_unlockSlot active rfl (by simp) (by simp)) fun _ l' same => ?_
    subst same
    exact ⟨active, by simp [PluginCall.Justified]⟩
  | some x =>
    refine Keeps.imp (keeps_cloneArc active rfl rfl) fun _ l' same => ?_
    subst same
    refine Keeps.imp (keeps_admitCall active rfl rfl rfl) fun admitted l' same => ?_
    cases admitted with
    | true =>
      subst same
      refine Keeps.imp (keeps_unlockSlot active rfl (by simp) (by simp)) fun _ l' same => ?_
      subst same
      show system.Safe Inv t _ (invokeAdmitted x >>= _) _
      refine .bind (Safe.imp (safe_invokeAdmitted active rfl) fun status l' ⟨outcome, same⟩ => ?_)
      subst same
      refine Keeps.imp (keeps_dropArc active rfl) fun _ l' same => ?_
      subst same
      refine Keeps.imp (keeps_leave active rfl rfl ⟨outcome, by simp⟩) fun _ l' same => ?_
      subst same
      refine ⟨active, fun session admitted => ⟨outcome, ?_⟩⟩
      have : session = x := by simpa using admitted
      simp [this]
    | false =>
      subst same
      refine Keeps.imp (keeps_dropArc active rfl) fun _ l' same => ?_
      subst same
      refine Keeps.imp (keeps_unlockSlot active rfl (by simp) (by simp)) fun _ l' same => ?_
      subst same
      exact ⟨active, by simp [PluginCall.Justified]⟩

theorem safe_shutdownInner (active : l.call.isSome) (fresh : l = { call := l.call }) :
    system.Safe Inv t (Finished t (.shutdown (.ok ()) plugin)) (shutdownInner plugin) l := by
  refine Keeps.imp (keeps_lockSlot active) fun slot l' same => ?_
  generalize l.call = call at *
  subst same fresh
  cases slot with
  | none =>
    refine Keeps.imp (keeps_unlockSlot active rfl (by simp) (by simp)) fun _ l' same => ?_
    subst same
    exact ⟨active, by simp [PluginCall.Justified]⟩
  | some x =>
    refine Keeps.imp (keeps_take active rfl rfl rfl) fun _ l' same => ?_
    subst same
    refine Keeps.imp (keeps_read active rfl) fun found l' same => ?_
    obtain ⟨owner, context⟩ := found
    subst same
    show system.Safe Inv t _ (if owner ≠ plugin then _ else _) _
    by_cases foreign : owner ≠ plugin
    · rw [if_pos foreign]
      refine Keeps.imp (keeps_putBack active rfl) fun _ l' same => ?_
      subst same
      refine Keeps.imp (keeps_unlockSlot active rfl (by simp) (by simp)) fun _ l' same => ?_
      subst same
      exact ⟨active, by simp [PluginCall.Justified, foreign]⟩
    · rw [if_neg foreign]
      refine Keeps.imp (keeps_closeGate active rfl) fun _ l' same => ?_
      subst same
      refine Keeps.imp (keeps_unlockSlot active rfl (by simp) (by simp)) fun _ l' same => ?_
      subst same
      refine Keeps.imp (keeps_waitGate active rfl) fun _ l' same => ?_
      subst same
      refine Keeps.imp (keeps_tryUnwrap active rfl) fun unwrapped l' ⟨alone, same⟩ => ?_
      subst alone same
      show system.Safe Inv t _ (userCode (.shutdown x) >>= _) _
      refine .bind (Safe.imp (safe_shutdownCode active rfl) fun stopped l' same => ?_)
      subst same
      show system.Safe Inv t _ (userCode (.drop x) >>= _) _
      refine .bind (Safe.imp (safe_userCode active (by simp) (by simp)) fun dropped l' same => ?_)
      subst same
      show system.Safe Inv t _ (deactivateContext context >>= _) _
      refine .bind (Safe.imp (safe_deactivateContext active rfl) fun _ l' same => ?_)
      subst same
      have justified : ∀ status, Finished t (.shutdown (.ok ()) plugin) status
          { scope := .quiesced context, call, own :=
              [.deactivated t context, .ended t (.drop x) dropped, .began t (.drop x),
                .ended t (.shutdown x) stopped, .began t (.shutdown x), .removed t x, .checked t x owner] } := by
        intro status
        refine ⟨active, fun session owner' checked => ?_⟩
        have found : session = x ∧ owner' = owner := by simpa using checked
        obtain ⟨rfl, rfl⟩ := found
        exact ⟨fun other => absurd other foreign, fun _ => by simp⟩
      show system.Safe Inv t _ (if stopped = .ok ∧ dropped ≠ .panic then _ else _) _
      split
      · exact justified .ok
      · exact justified .pluginError

theorem safe_code (call : PluginCall) : system.Safe Inv t (Finished t call) call.code { call := some call } := by
  rcases call with ⟨_ | _, plugin⟩ | ⟨_ | _⟩ | ⟨_ | _, plugin⟩
  · exact ⟨rfl, by simp [PluginCall.Justified]⟩
  · exact safe_initializeInner rfl rfl
  · exact ⟨rfl, by simp [PluginCall.Justified]⟩
  · exact safe_invokeInner rfl rfl
  · exact ⟨rfl, by simp [PluginCall.Justified]⟩
  · exact safe_shutdownInner rfl rfl

end Calls

theorem inv_start {call : PluginCall} (inv : s.Inv L) (idle : s.begun t = none) :
    Inv { s with begun := update s.begun t (some call) } (update L t { call := some call }) := by
  have empty := inv.fresh t idle
  refine ⟨fun t' idle' => ?_, fun t' => ?_, fun event => ?_, ?_, ?_, ?_⟩
  · have fresh := inv.fresh t'
    grind [update_apply]
  · have same := inv.call t'
    grind [update_apply]
  · simpa [view_frame, empty] using inv.own event
  · apply inv.hands.frame <;> simp [view_frame, empty]
  · apply inv.record.frame <;> simp [view_frame, empty]
  · apply inv.scopes.frame <;> simp [view_frame, empty]

theorem inv_return {call : PluginCall} {status : HmclStatus} (inv : s.Inv L) (active : (L t).call.isSome)
    (justified : call.Justified (L t).own t status) :
    Inv (s.log (.returned t call status))
      (update L t { L t with own := .returned t call status :: (L t).own }) := by
  have allowed : SessionEvent.Permitted s.history (.returned t call status) := by
    refine (PluginCall.justified_congr fun event mine => ?_).mp justified
    rw [inv.own event, mine]
  refine inv.step [.returned t call status] active rfl rfl rfl rfl (by simp [SessionEvent.thread]) ?_ ?_ ?_
  · apply inv.hands.frame <;> simp [log, view_frame]
  · apply (inv.record.log (.returned t call status) trivial allowed).frame <;> simp [log, view_frame]
  · apply inv.scopes.frame <;> simp [log, view_frame]

def discipline : Discipline system (fun s : Runtime Tid => s = {}) (SessionLocal Tid) where
  inv := Inv
  resting _ _ := True
  finished := Finished
  init := by
    rintro s rfl
    refine ⟨fun _ => {}, ⟨fun _ _ => rfl, fun _ => rfl, fun _ => by simp, ?_, ?_, ?_⟩, fun _ => trivial⟩
    · constructor <;> simp
    · constructor <;> simp [installedSession, legal_nil]
    · constructor <;> simp [ContextPhase.context]
  start := by
    rintro t call s L s' inv - ⟨idle, rfl⟩
    exact ⟨_, inv_start inv idle, safe_code call⟩
  finish := by
    rintro t call status s L s' inv ⟨active, justified⟩ rfl
    exact ⟨_, inv_return inv active justified, trivial⟩
  env := by
    rintro s L s' inv ⟨context, inFlight, -, allowed, rfl⟩
    refine ⟨inv.fresh, inv.call, inv.own, ?_, ?_, inv.scopes.env allowed⟩
    · apply inv.hands.frame <;> simp
    · apply inv.record.frame <;> simp

/-- What is known of a plugin runtime in any state that an interleaving of its calls reaches. -/
structure SessionSafe (s : Runtime Tid) : Prop where
  legal : Legal SessionEvent.Permitted s.history
  installed : s.slotLock = none → s.slot = installedSession s.history
  untouched : ∀ x, s.slot = some x → (s.session x).accepting = true ∧
    ∃ t, .installed t x (s.session x).plugin ∈ s.history
  deactivated : ∀ t context, .deactivated t context ∈ s.history → s.context context = ⟨false, 0⟩

theorem session_safety {c : RuntimeConfig Tid} (reached : system.Reachable (fun s : Runtime Tid => s = {}) c) :
    SessionSafe c.state := by
  obtain ⟨L, inv, -⟩ := discipline.valid_of_reachable reached
  refine ⟨inv.record.legal, fun free => ?_, fun x here => ?_, fun t context event =>
    (inv.scopes.deactivated t context event).2⟩
  · refine (inv.record.current fun t x took => ?_).symm
    have held := (inv.hands.lock t).mpr (by rw [(inv.hands.took t x took).1]; rfl)
    rw [free] at held
    cases held
  · obtain ⟨bound, accepting⟩ := inv.hands.bound x here
    exact ⟨accepting, inv.record.named x bound⟩

/-- A plugin is installed and invoked; a foreign shutdown changes nothing; its own waits for the panicking
invocation. -/
theorem session_safety_overlapping : ∃ c : RuntimeConfig Nat, SessionSafe c.state ∧
    .returned 3 (.shutdown (.ok ()) 7) .ok ∈ c.state.history ∧
    .returned 2 (.shutdown (.ok ()) 8) .invalidArgument ∈ c.state.history := by
  have idle : system.Run (⟨{}, fun _ => .idle⟩ : RuntimeConfig Nat) ⟨{}, fun _ => .idle⟩ := .refl
  have installed := ((((((((((((idle.start 0 (.initializePlugin (.ok ()) 7) rfl ⟨rfl, rfl⟩).act 0 .newContext (0 : Nat) rfl
    ⟨rfl, rfl⟩).act 0 .lockSlot none rfl ⟨rfl, rfl, rfl⟩).act 0 .unlockSlot () rfl rfl).act 0
    (.beginUser (.construct 0)) () rfl rfl).act 0 (.endUser (.construct 0)) .ok rfl rfl).act 0
    (.beginUser (.initializePlugin 0)) () rfl rfl).act 0 (.endUser (.initializePlugin 0)) .ok rfl rfl).act 0 .lockSlot none rfl
    ⟨rfl, rfl, rfl⟩).act 0 (.install 0 7) () rfl rfl).act 0 .unlockSlot () rfl rfl).finish 0 rfl rfl)
  have invoking := ((((((installed.start 1 (.invoke (.ok ())) rfl ⟨rfl, rfl⟩).act 1 .lockSlot (some 0) rfl
    ⟨rfl, rfl, rfl⟩).act 1 (.cloneArc 0) () rfl rfl).act 1 (.admitCall 0) true rfl ⟨rfl, rfl⟩).act 1 .unlockSlot () rfl
    rfl).act 1 (.beginUser (.invoke 0)) () rfl rfl)
  have refused := ((((((invoking.start 2 (.shutdown (.ok ()) 8) rfl ⟨rfl, rfl⟩).act 2 .lockSlot (some 0) rfl
    ⟨rfl, rfl, rfl⟩).act 2 .take () rfl rfl).act 2 (.read 0) (7, 0) rfl ⟨rfl, rfl⟩).act 2 (.putBack 0) () rfl
    rfl).act 2 .unlockSlot () rfl rfl).finish 2 rfl rfl
  have closing := (((((refused.start 3 (.shutdown (.ok ()) 7) rfl ⟨rfl, rfl⟩).act 3 .lockSlot (some 0) rfl
    ⟨rfl, rfl, rfl⟩).act 3 .take () rfl rfl).act 3 (.read 0) (7, 0) rfl ⟨rfl, rfl⟩).act 3 (.closeGate 0) () rfl
    rfl).act 3 .unlockSlot () rfl rfl
  have left := (((closing.act 1 (.endUser (.invoke 0)) .panic rfl rfl).act 1 (.dropArc 0) () rfl rfl).act 1
    (.leave 0) () rfl rfl).finish 1 rfl rfl
  have closed := (((((((((left.act 3 (.waitGate 0) () rfl ⟨rfl, rfl⟩).act 3 (.tryUnwrap 0) true rfl ⟨rfl, rfl⟩).act 3
    (.beginUser (.shutdown 0)) () rfl rfl).act 3 (.endUser (.shutdown 0)) .ok rfl rfl).act 3
    (.beginUser (.drop 0)) () rfl rfl).act 3 (.endUser (.drop 0)) .ok rfl rfl).act 3 (.setInactive 0) () rfl rfl).act 3
    (.awaitQuiesced 0) () rfl ⟨rfl, rfl⟩).act 3 (.closeCallbacks 0) () rfl rfl).finish 3 rfl rfl
  refine ⟨_, session_safety ⟨_, rfl, closed⟩, .head _, ?_⟩
  iterate 10 apply List.Mem.tail
  exact .head _

end Runtime

end RuntimeHost.Sdk
