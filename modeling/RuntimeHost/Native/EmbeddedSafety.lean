import RuntimeHost.Native.EmbeddedExact

namespace RuntimeHost.Native

open Foundation Function System Abi Sdk

section Outcomes

variable {operation : String} {input : List UInt8} {callback : UInt64} {result : Except HostError (List UInt8)}
  {effects : List Effect}

theorem PayloadInvocation.ok_iff (done : PayloadInvocation operation input callback result effects)
    (wire : List UInt8) : result = .ok wire ↔ ∃ value r pointer, Value.fromWire input = .ok value ∧
      .plugin operation value callback (.returned (.ok r)) ∈ effects ∧ r.toWire = .ok wire ∧
        .inserted pointer wire.length ∈ effects := by
  constructor
  · rintro rfl
    cases done with
    | @delivered value r _ pointer decoded encoded => exact ⟨value, r, pointer, decoded, by simp, encoded, by simp⟩
  · rintro ⟨value, r, pointer, -, ran, encoded, inserted⟩
    cases done with
    | undecodable decoded => simp at ran
    | failed decoded failed => simp at inserted
    | unencodable decoded encoded => simp at inserted
    | refused decoded encoded => simp at inserted
    | @delivered value' r' wire' pointer' decoded encoded' =>
      have same : r = r' := by
        simp only [List.mem_cons, Effect.plugin.injEq, Unwinding.returned.injEq, Except.ok.injEq, reduceCtorEq,
          List.not_mem_nil, or_false] at ran
        exact ran.2.2.2
      rw [same, encoded'] at encoded
      cases encoded
      rfl

theorem PayloadInvocation.error {error : HostError}
    (done : PayloadInvocation operation input callback (.error error) effects) :
    ∃ status, error = .pluginStatus status := by
  cases done with
  | undecodable => exact ⟨_, rfl⟩
  | failed => exact ⟨_, rfl⟩
  | unencodable => exact ⟨_, rfl⟩
  | refused => exact ⟨_, rfl⟩

theorem PayloadInvocation.balanced (done : PayloadInvocation operation input callback result effects) :
    Balanced effects := by
  cases done with
  | undecodable => exact .inl rfl
  | failed => exact .inl rfl
  | unencodable => exact .inl rfl
  | refused => exact .inl rfl
  | delivered => exact .inr ⟨_, _, rfl⟩

theorem HostInvocation.balanced {host : HostCallbacks} {value : Value} {result : Unwinding (Except Error Value)}
    (done : HostInvocation host operation value result effects) : Balanced effects := by
  cases done with
  | unencodable => exact .inl rfl
  | failed => exact .inl rfl
  | refused => exact .inl rfl
  | empty => exact .inl rfl
  | fetched => exact .inr ⟨_, _, rfl⟩

theorem EmbedTask.Ends.balanced {plugin : SdkPayload} {task : EmbedTask} {result : EmbedResult}
    (ends : task.Ends plugin result effects) : Balanced effects := by
  cases task with
  | invokePayload operation input callback =>
    cases result with
    | payload result => exact PayloadInvocation.balanced ends
    | host result => exact ends.elim
  | invokeHost operation input =>
    cases result with
    | payload result => exact ends.elim
    | host result => exact HostInvocation.balanced ends

end Outcomes

namespace Embedding

variable {Thread : Type} [DecidableEq Thread] {plugin : SdkPayload} {base : UInt64 → Option (List UInt8)}
  {s s' : Embedding Thread} {L : Thread × Nat → Grip} {t : Thread × Nat} {x : Grip}

section Serves

variable {engines : Engines (Thread × Nat)} {hosts : Hosts Thread} {runtime : Runtime (Thread × Nat)}

omit [DecidableEq Thread] in
theorem Lists.step (lists : Lists plugin s.engines) {op : EngineOp} {answer : op.Answer}
    (allowed : x.allows plugin (.engine op)) (done : s.engines.exec t op answer engines) :
    x.answers plugin (.engine op) answer ∧ Lists plugin engines := by
  cases op with
  | payload payloadId =>
    obtain ⟨rfl, rfl⟩ := done
    obtain rfl : payloadId = plugin.payloadId := allowed
    refine ⟨?_, lists⟩
    show s.engines.engine.payload plugin.payloadId = _
    rw [EngineState.payload, lists.unclosed, lists.listed]
    rfl
  | lockPayload payload =>
    obtain ⟨-, rfl, rfl⟩ := done
    obtain rfl : payload = plugin.payload := allowed
    exact ⟨⟨lists.enabled, lists.invokable⟩, { lists with }⟩
  | unlockPayload payload =>
    obtain rfl : engines = _ := done
    exact ⟨trivial, { lists with }⟩
  | _ => exact allowed.elim

theorem active_step {hosts next : Hosts Thread} {thread : Thread} (active : hosts.admission.active = true)
    {op : HostOp} {answer : op.Answer} (allowed : x.allows plugin (.host op))
    (fits : ∀ nested, op = .takeLease nested → hosts.admission.inFlight < usizeMax)
    (done : hosts.exec thread op answer next) :
    x.answers plugin (.host op) answer ∧ next.admission.active = true := by
  cases op with
  | takeLease nested =>
    have admitted : hosts.admission.lease nested =
        .ok { hosts.admission with inFlight := hosts.admission.inFlight + 1 } := by
      unfold HostAdmission.lease
      rw [if_neg (by simp [active]), if_neg (fits nested rfl).ne]
    simp only [Hosts.exec, admitted] at done
    obtain ⟨rfl, rfl⟩ := done
    exact ⟨rfl, active⟩
  | containsKey =>
    obtain ⟨-, rfl⟩ := done
    exact ⟨trivial, active⟩
  | surface =>
    refine ⟨trivial, ?_⟩
    simp only [Hosts.exec] at done
    split at done
    · rw [done]
      exact active
    · rw [done]
      exact active
  | release =>
    refine ⟨trivial, ?_⟩
    simp only [Hosts.exec] at done
    split at done
    · rw [done]
      exact active
    · rw [done]
      exact active
  | setInactive => exact allowed.elim
  | awaitQuiesced => exact allowed.elim
  | _ =>
    obtain rfl : next = _ := done
    exact ⟨trivial, active⟩

omit [DecidableEq Thread] in
theorem serves_step {runtime next : Runtime (Thread × Nat)} (slot : runtime.slot = some plugin.session)
    (accepting : (runtime.session plugin.session).accepting = true) {op : SessionOp} {answer : op.Answer}
    (allowed : x.allows plugin (.session op))
    (fits : ∀ session, op = .admitCall session → (runtime.session session).inFlight < usizeMax)
    (done : runtime.exec t op answer next) :
    x.answers plugin (.session op) answer ∧ next.slot = some plugin.session ∧
      (next.session plugin.session).accepting = true := by
  have kept : ∀ (session : SessionRef) (f : Session → Session), (∀ y, (f y).accepting = y.accepting) →
      ((runtime.setSession session f).session plugin.session).accepting = true := by
    intro session f same
    by_cases here : plugin.session = session
    · subst here
      simp [Runtime.setSession, same, accepting]
    · simp [Runtime.setSession, here, accepting]
  cases op with
  | lockSlot =>
    obtain ⟨-, rfl, rfl⟩ := done
    exact ⟨slot, slot, accepting⟩
  | unlockSlot =>
    obtain rfl : next = _ := done
    exact ⟨trivial, slot, accepting⟩
  | cloneArc session =>
    obtain rfl : next = _ := done
    exact ⟨trivial, slot, kept session _ fun _ => rfl⟩
  | dropArc session =>
    obtain rfl : next = _ := done
    exact ⟨trivial, slot, kept session _ fun _ => rfl⟩
  | leave session =>
    refine ⟨trivial, ?_⟩
    simp only [Runtime.exec] at done
    split at done
    · rw [done]
      exact ⟨slot, kept session _ fun _ => rfl⟩
    · rw [done]
      exact ⟨slot, accepting⟩
  | admitCall session =>
    simp only [Runtime.exec] at done
    split at done
    · obtain ⟨rfl, rfl⟩ := done
      exact ⟨fun _ => rfl, slot, kept session (fun y => { y with inFlight := y.inFlight + 1 }) fun _ => rfl⟩
    · rename_i closed
      obtain ⟨rfl, rfl⟩ := done
      refine ⟨fun same => ?_, slot, accepting⟩
      subst same
      exact absurd ⟨accepting, (fits _ rfl).ne⟩ closed
  | _ => exact allowed.elim

end Serves

def Shaped (x : Grip) : Prop := ∀ pointer box, x.hand = some (pointer, box) →
  x.journal.filter Effect.onTable = [.inserted pointer box.length]

/-- The table is what it was at first, with the allocations that calls have in their hands. -/
structure Inv (plugin : SdkPayload) (base : UInt64 → Option (List UInt8)) (s : Embedding Thread)
    (L : Thread × Nat → Grip) : Prop where
  enabled : s.Enabled plugin
  journal : ∀ t, s.journal t = (L t).journal
  shaped : ∀ t, Shaped (L t)
  held : ∀ t pointer box, (L t).hand = some (pointer, box) →
    s.allocations pointer = some box ∧ base pointer = none
  apart : ∀ t t' pointer box box', (L t).hand = some (pointer, box) → (L t').hand = some (pointer, box') → t = t'
  rest : ∀ pointer, (∀ t box, (L t).hand ≠ some (pointer, box)) → s.allocations pointer = base pointer
  sound : s.fault = false
  returned : ∀ task result effects, (task, result, effects) ∈ s.returned → task.Ends plugin result effects

namespace Inv

variable (inv : Inv plugin base s L)

include inv

theorem frame {y : Grip} (enabled : s'.Enabled plugin) (allocations : s'.allocations = s.allocations)
    (fault : s'.fault = s.fault) (returned : s'.returned = s.returned)
    (journal : s'.journal = update s.journal t y.journal) (hand : y.hand = (L t).hand) (shaped : Shaped y) :
    Inv plugin base s' (update L t y) := by
  have hands : ∀ t', (update L t y t').hand = (L t').hand := by
    intro t'
    by_cases same : t' = t
    · subst same
      rw [update_self, hand]
    · rw [update_of_ne same]
  refine ⟨enabled, fun t' => ?_, fun t' => ?_, fun t' pointer box => ?_, fun t' t'' pointer box box' => ?_,
    fun pointer free => ?_, fault.trans inv.sound, fun task result effects => ?_⟩
  · rw [journal]
    by_cases same : t' = t
    · subst same
      rw [update_self, update_self]
    · rw [update_of_ne same, update_of_ne same]
      exact inv.journal t'
  · by_cases same : t' = t
    · subst same
      rw [update_self]
      exact shaped
    · rw [update_of_ne same]
      exact inv.shaped t'
  · rw [hands, allocations]
    exact inv.held t' pointer box
  · rw [hands, hands]
    exact inv.apart t' t'' pointer box box'
  · rw [allocations]
    exact inv.rest pointer fun t' box => by rw [← hands]; exact free t' box
  · rw [returned]
    exact inv.returned task result effects

theorem quiet {effects : List Effect} (enabled : s'.Enabled plugin) (allocations : s'.allocations = s.allocations)
    (fault : s'.fault = s.fault) (returned : s'.returned = s.returned)
    (journal : s'.journal = update s.journal t (s.journal t ++ effects))
    (none : effects.filter Effect.onTable = []) :
    Inv plugin base s' (update L t ⟨(L t).journal ++ effects, (L t).hand⟩) := by
  refine inv.frame enabled allocations fault returned (by rw [journal, inv.journal]) rfl fun pointer box held => ?_
  rw [List.filter_append, none, List.append_nil]
  exact inv.shaped t pointer box held

theorem move {y : Grip} {pointer : UInt64} {box : Option (List UInt8)} (unborn : base pointer = none)
    (alone : ∀ t' box, t' ≠ t → (L t').hand ≠ some (pointer, box))
    (before : ∀ pointer' box', (L t).hand = some (pointer', box') → pointer' = pointer)
    (after : y.hand = box.map fun box => (pointer, box)) (shaped : Shaped y) (enabled : s'.Enabled plugin)
    (allocations : s'.allocations = update s.allocations pointer box) (fault : s'.fault = s.fault)
    (returned : s'.returned = s.returned) (journal : s'.journal = update s.journal t y.journal) :
    Inv plugin base s' (update L t y) := by
  have own : ∀ t' pointer' box', (update L t y t').hand = some (pointer', box') →
      (t' = t ∧ pointer' = pointer ∧ box = some box') ∨ (t' ≠ t ∧ (L t').hand = some (pointer', box')) := by
    intro t' pointer' box' held
    by_cases same : t' = t
    · subst same
      rw [update_self, after] at held
      obtain ⟨box'', here, pair⟩ := Option.map_eq_some_iff.mp held
      cases pair
      exact .inl ⟨rfl, rfl, here⟩
    · rw [update_of_ne same] at held
      exact .inr ⟨same, held⟩
  refine ⟨enabled, fun t' => ?_, fun t' => ?_, fun t' pointer' box' held => ?_,
    fun t' t'' pointer' box' box'' left right => ?_, fun pointer' others => ?_, fault.trans inv.sound,
    fun task result effects => ?_⟩
  · rw [journal]
    by_cases same : t' = t
    · subst same
      rw [update_self, update_self]
    · rw [update_of_ne same, update_of_ne same]
      exact inv.journal t'
  · by_cases same : t' = t
    · subst same
      rw [update_self]
      exact shaped
    · rw [update_of_ne same]
      exact inv.shaped t'
  · rw [allocations]
    rcases own t' pointer' box' held with ⟨-, rfl, here⟩ | ⟨other, earlier⟩
    · rw [update_self]
      exact ⟨here, unborn⟩
    · have apart : pointer' ≠ pointer := by
        rintro rfl
        exact alone t' box' other earlier
      rw [update_of_ne apart]
      exact inv.held t' pointer' box' earlier
  · rcases own t' pointer' box' left with ⟨rfl, rfl, -⟩ | ⟨other, left'⟩
    · rcases own t'' pointer' box'' right with ⟨rfl, -⟩ | ⟨other', right'⟩
      · rfl
      · exact absurd right' (alone t'' box'' other')
    · rcases own t'' pointer' box'' right with ⟨rfl, rfl, -⟩ | ⟨-, right'⟩
      · exact absurd left' (alone t' box' other)
      · exact inv.apart t' t'' pointer' box' box'' left' right'
  · by_cases here : pointer' = pointer
    · subst here
      rw [allocations, update_self, unborn]
      cases some' : box with
      | none => rfl
      | some box' =>
        refine absurd ?_ (others t box')
        rw [update_self, after, some']
        rfl
    · rw [allocations, update_of_ne here]
      refine inv.rest pointer' fun t' box' held => ?_
      by_cases same : t' = t
      · subst same
        exact here (before pointer' box' held)
      · exact others t' box' (by rw [update_of_ne same]; exact held)
  · rw [returned]
    exact inv.returned task result effects

theorem insert {pointer : UInt64} {box : List UInt8} (free : (L t).Free) (fresh : s.allocations pointer = none)
    (enabled : s'.Enabled plugin) (allocations : s'.allocations = update s.allocations pointer (some box))
    (fault : s'.fault = s.fault) (returned : s'.returned = s.returned)
    (journal : s'.journal = update s.journal t (s.journal t ++ [.inserted pointer box.length])) :
    Inv plugin base s' (update L t ((L t).insert pointer box)) := by
  have absent : ∀ t' box', (L t').hand ≠ some (pointer, box') := by
    intro t' box' held
    have present := (inv.held t' pointer box' held).1
    rw [fresh] at present
    cases present
  refine inv.move ?_ (fun t' box' _ => absent t' box') ?_ rfl ?_ enabled allocations fault returned ?_
  · rw [← inv.rest pointer absent, fresh]
  · intro pointer' box' held
    rw [free.1] at held
    cases held
  · intro pointer' box' held
    cases held
    show ((L t).journal ++ [_]).filter _ = _
    rw [List.filter_append, free.2]
    rfl
  · rw [journal, inv.journal]
    rfl

theorem remove {pointer : UInt64} {box : List UInt8} (held : (L t).hand = some (pointer, box))
    (enabled : s'.Enabled plugin) (allocations : s'.allocations = update s.allocations pointer none)
    (fault : s'.fault = s.fault) (returned : s'.returned = s.returned)
    (journal : s'.journal = update s.journal t (s.journal t ++ [.removed pointer])) :
    Inv plugin base s' (update L t ((L t).remove pointer)) := by
  refine inv.move (inv.held t pointer box held).2 ?_ ?_ rfl ?_ enabled allocations fault returned ?_
  · exact fun t' box' other held' => other (inv.apart t' t pointer box' box held' held)
  · intro pointer' box' held'
    rw [held] at held'
    cases held'
    rfl
  · intro pointer' box' held'
    cases held'
  · rw [journal, inv.journal]
    rfl

theorem write {pointer : UInt64} {box box' : List UInt8} (held : (L t).hand = some (pointer, box))
    (size : box'.length = box.length) (enabled : s'.Enabled plugin)
    (allocations : s'.allocations = update s.allocations pointer (some box')) (fault : s'.fault = s.fault)
    (returned : s'.returned = s.returned) (journal : s'.journal = s.journal) :
    Inv plugin base s' (update L t { L t with hand := some (pointer, box') }) := by
  refine inv.move (inv.held t pointer box held).2 ?_ ?_ rfl ?_ enabled allocations fault returned ?_
  · exact fun t' box' other held' => other (inv.apart t' t pointer box' box held' held)
  · intro pointer' box' held'
    rw [held] at held'
    cases held'
    rfl
  · intro pointer' box'' held'
    cases held'
    rw [size]
    exact inv.shaped t pointer box held
  · rw [journal, ← inv.journal, update_eq_self]

end Inv

omit [DecidableEq Thread] in
theorem access_eq_some {pointer : UInt64} {box : List UInt8} {length : Nat}
    (present : s.allocations pointer = some box) (size : length ≤ box.length) : s.access pointer length = some box := by
  unfold access
  rw [present]
  exact Option.filter_eq_some_iff.mpr ⟨rfl, by simpa using size⟩

theorem keeps (s : Embedding Thread) (L : Thread × Nat → Grip) (op : EmbedOp) (answer : op.Answer)
    (s' : Embedding Thread)
    (inv : Inv plugin base s L) (allowed : (L t).allows plugin op)
    (answered : (system plugin Thread).exec t op s answer s') :
    (L t).answers plugin op answer ∧ Inv plugin base s' (update L t ((L t).next op answer)) := by
  obtain ⟨fits, next, done, rfl⟩ := answered
  cases op with
  | engine op =>
    obtain ⟨engines, done, rfl⟩ := done
    obtain ⟨possible, lists⟩ := inv.enabled.lists.step allowed done
    exact ⟨possible, inv.quiet { inv.enabled with lists } rfl rfl rfl rfl rfl⟩
  | host op =>
    obtain ⟨hosts, done, rfl⟩ := done
    obtain ⟨possible, active⟩ := active_step inv.enabled.active allowed (fun nested same => by subst same; exact fits) done
    exact ⟨possible, inv.quiet { inv.enabled with active } rfl rfl rfl rfl rfl⟩
  | session op =>
    obtain ⟨runtime, done, rfl⟩ := done
    obtain ⟨possible, slot, accepting⟩ := serves_step inv.enabled.slot inv.enabled.accepting allowed
      (fun session same => by subst same; exact fits) done
    exact ⟨possible, inv.quiet { inv.enabled with slot, accepting } rfl rfl rfl rfl rfl⟩
  | plugin operation input callback =>
    obtain rfl : next = s := done
    exact ⟨trivial, inv.quiet { inv.enabled with } rfl rfl rfl rfl rfl⟩
  | bridge pluginId token operation input =>
    obtain ⟨bound, rfl⟩ := done
    exact ⟨bound, inv.quiet { inv.enabled with } rfl rfl rfl rfl rfl⟩
  | insert box =>
    cases answer with
    | panicked =>
      obtain rfl : next = s := done
      exact ⟨fun _ => by rintro ⟨⟩, inv.quiet { inv.enabled with } rfl rfl rfl rfl rfl⟩
    | returned pointer =>
      obtain ⟨real, fresh, rfl⟩ := done
      refine ⟨?_, inv.insert allowed fresh { inv.enabled with } rfl rfl rfl rfl⟩
      rintro _ ⟨⟩
      exact real
  | remove pointer =>
    obtain ⟨rfl, rfl⟩ := done
    obtain ⟨box, held⟩ := allowed
    refine ⟨fun box' held' => (inv.held t pointer box' held').1, inv.remove held { inv.enabled with } rfl rfl rfl rfl⟩
  | read buffer =>
    obtain ⟨box, held, size⟩ := allowed
    have access := access_eq_some (inv.held t _ box held).1 size
    simp only [step, access] at done
    obtain ⟨rfl, rfl⟩ := done
    refine ⟨fun box' held' => ?_, inv.quiet { inv.enabled with } rfl rfl rfl rfl rfl⟩
    rw [held] at held'
    cases held'
    rfl
  | write buffer bytes =>
    obtain ⟨box, held, size⟩ := allowed
    have access := access_eq_some (inv.held t _ box held).1 size
    simp only [step, access] at done
    subst done
    have moved : (L t).next (.write buffer bytes) answer =
        { L t with hand := some (buffer.data, bytes ++ box.drop bytes.length) } := by
      unfold Grip.next
      simp [EmbedOp.effects, Grip.handAfter, held]
    rw [moved]
    refine ⟨trivial, inv.write held (by simp [size]) { inv.enabled with } rfl rfl rfl ?_⟩
    simp [EmbedOp.effects]
  | recordCleanupFailure =>
    obtain rfl : next = _ := done
    exact ⟨trivial, inv.quiet { inv.enabled with } rfl rfl rfl rfl rfl⟩

omit [DecidableEq Thread] in
theorem inv_of_fresh (fresh : Fresh plugin base s) : Inv plugin base s fun _ => {} where
  enabled := fresh.enabled
  journal := fresh.journal
  shaped t pointer box held := by cases held
  held t pointer box held := by cases held
  apart t t' pointer box box' held := by cases held
  rest pointer _ := by rw [fresh.allocations]
  sound := fresh.fault
  returned task result effects present := by
    rw [fresh.returned] at present
    cases present

/-- The calls of any threads in any order: every one holds its own allocation only, and leaves none behind. -/
def discipline (plugin : SdkPayload) (base : UInt64 → Option (List UInt8)) :
    Discipline (system plugin Thread) (Fresh plugin base) Grip where
  inv := Inv plugin base
  resting _ l := l.hand = none
  finished _ task result l := l.hand = none ∧ task.Ends plugin result l.journal
  init s fresh := ⟨_, inv_of_fresh fresh, fun _ => rfl⟩
  start t task s L s' inv rest begun := by
    obtain ⟨sized, rfl⟩ := begun
    refine ⟨{}, inv.frame { inv.enabled with } rfl rfl rfl rfl rest.symm ?_, .of_meets keeps (meets_code sized)⟩
    intro pointer box held
    cases held
  finish t task result s L s' inv done ended := by
    obtain ⟨empty, ends⟩ := done
    subst ended
    refine ⟨L t, ?_, empty⟩
    rw [update_eq_self]
    refine { inv with enabled := { inv.enabled with }, returned := ?_ }
    intro task' result' effects present
    rcases List.mem_cons.mp present with same | earlier
    · cases same
      rw [inv.journal]
      exact ends
    · exact inv.returned task' result' effects earlier
  env s L s' inv moved := by
    obtain ⟨engines, lists, rfl⟩ := moved
    exact { inv with enabled := { inv.enabled with lists } }

/-- An enabled payload that is built with the SDK answers with what its plugin returns, asks the bridge for what the
plugin asks for, and leaves the table of allocations as it was. -/
theorem end_to_end {c : EmbeddingConfig Thread} (reached : (system plugin Thread).Reachable (Fresh plugin base) c) :
    EndToEnd plugin base c := by
  obtain ⟨L, inv, threads⟩ := (discipline plugin base).valid_of_reachable reached
  have resting : ∀ t, c.threads t = .idle → (L t).hand = none := by
    intro t idle
    have here := threads t
    rw [idle] at here
    exact here
  refine ⟨?_, ?_, ?_, ?_, ?_, ?_, ?_, ?_, inv.sound⟩
  · intro operation input callback result effects returned wire
    exact PayloadInvocation.ok_iff (inv.returned _ _ _ returned) wire
  · intro operation input callback error effects returned
    exact PayloadInvocation.error (inv.returned _ _ _ returned)
  · intro operation input callback result effects returned
    exact inv.returned _ _ _ returned
  · intro operation input result effects returned
    exact inv.returned _ _ _ returned
  · intro task result effects returned
    exact (inv.returned _ _ _ returned).balanced
  · intro pointer allocation before
    rw [inv.rest pointer ?_, before]
    intro t box held
    have unborn := (inv.held t pointer box held).2
    rw [before] at unborn
    cases unborn
  · intro pointer before present
    have taken : ∃ t box, (L t).hand = some (pointer, box) := by
      by_contra untaken
      push Not at untaken
      exact present ((inv.rest pointer untaken).trans before)
    obtain ⟨t, box, held⟩ := taken
    refine ⟨t, box.length, fun idle => ?_, ?_⟩
    · rw [resting t idle] at held
      cases held
    · rw [inv.journal]
      exact inv.shaped t pointer box held
  · intro idle
    ext1 pointer
    refine inv.rest pointer fun t box held => ?_
    rw [resting t (idle t)] at held
    cases held

/-- A plugin asks the bridge for something while it is invoked, and returns null. -/
theorem end_to_end_nested : ∃ plugin, ∃ c : EmbeddingConfig Unit, EndToEnd plugin (fun _ => none) c ∧
    ∃ asked invoked, c.state.returned =
      [(.invokePayload "draw" [0x92, 0x00, 0xc0] 5, .payload (.ok [0x92, 0x00, 0xc0]), invoked),
        (.invokeHost "ask" .null, .host (.returned (.ok .null)), asked)] := by
  let plugin : SdkPayload :=
    { payloadId := 1, payload := 0, host := ⟨7, 9, true⟩, session := 0,
      contexts := fun _ => ⟨7, 9, ⟨true, true, true⟩⟩, armed := rfl, context := rfl }
  let first : Embedding Unit :=
    { engines := { engine := { payloads := fun _ => some 0 }, payload := fun _ => ⟨7, 9, { hasInvoke := true }, .enabled⟩ }
      runtime := { slot := some 0 }, hosts := {}, allocations := fun _ => none }
  have fresh : Fresh plugin (fun _ => none) first := ⟨⟨⟨rfl, rfl, rfl, rfl⟩, rfl, rfl, rfl⟩, rfl, rfl, rfl, fun _ => rfl⟩
  have room : 0 < usizeMax := by decide
  have short : (utf8 "ask").length ≤ isizeMax := by decide
  have idle : (system plugin Unit).Run ⟨first, fun _ => .idle⟩ ⟨first, fun _ => .idle⟩ := .refl
  have locked := ((idle.start ((), 0) (.invokePayload "draw" [0x92, 0x00, 0xc0] 5) rfl ⟨⟨by decide, by decide⟩, rfl⟩).act
    ((), 0) (.engine (.payload 1)) (Except.ok 0 : Except HostError Nat) rfl
    ⟨trivial, _, ⟨_, ⟨rfl, rfl⟩, rfl⟩, rfl⟩).act ((), 0) (.engine (.lockPayload 0))
    (⟨7, 9, { hasInvoke := true }, .enabled⟩ : EmbeddedPayload) rfl ⟨trivial, _, ⟨_, ⟨rfl, rfl, rfl⟩, rfl⟩, rfl⟩
  have admitted := ((((locked.act ((), 0) (.session .lockSlot) (some 0 : Option SessionRef) rfl
    ⟨trivial, _, ⟨_, ⟨rfl, rfl, rfl⟩, rfl⟩, rfl⟩).act ((), 0) (.session (.cloneArc 0)) () rfl
    ⟨trivial, _, ⟨_, rfl, rfl⟩, rfl⟩).act ((), 0) (.session (.admitCall 0)) true rfl
    ⟨room, _, ⟨_, ⟨rfl, rfl⟩, rfl⟩, rfl⟩).act ((), 0) (.session .unlockSlot) () rfl
    ⟨trivial, _, ⟨_, rfl, rfl⟩, rfl⟩)
  have asked := (((((admitted.start ((), 1) (.invokeHost "ask" .null) rfl ⟨short, rfl⟩).act ((), 1)
    (.host .containsKey) false rfl ⟨trivial, _, ⟨_, ⟨rfl, rfl⟩, rfl⟩, rfl⟩).act ((), 1) (.host (.takeLease false))
    (Except.ok () : Except Error Unit) rfl ⟨room, _, ⟨_, ⟨rfl, rfl⟩, rfl⟩, rfl⟩).act ((), 1) (.host .deepen) () rfl
    ⟨trivial, _, ⟨_, rfl, rfl⟩, rfl⟩).act ((), 1) (.bridge 7 9 "ask" [0x92, 0x00, 0xc0])
    (.returned (.ok [0x92, 0x00, 0xc0]) : Unwinding (Except HostError (List UInt8))) rfl
    ⟨trivial, _, ⟨fun bytes same => by cases same; decide, rfl⟩, rfl⟩).act ((), 1) (.insert [0x92, 0x00, 0xc0])
    (.returned 64 : Unwinding UInt64) rfl ⟨trivial, _, ⟨by decide, rfl, rfl⟩, rfl⟩
  have answered := ((((asked.act ((), 1) (.read ⟨64, 3, 3⟩)
    (.returned [0x92, 0x00, 0xc0] : Unwinding (List UInt8)) rfl ⟨trivial, _, ⟨rfl, rfl⟩, rfl⟩).act ((), 1) (.remove 64)
    (some [0x92, 0x00, 0xc0] : Option (List UInt8)) rfl ⟨trivial, _, ⟨rfl, rfl⟩, rfl⟩).act ((), 1) (.host .surface) () rfl
    ⟨trivial, _, ⟨_, rfl, rfl⟩, rfl⟩).act ((), 1) (.host .release) () rfl ⟨trivial, _, ⟨_, rfl, rfl⟩, rfl⟩).finish
    ((), 1) rfl rfl
  have returned := (((((answered.act ((), 0) (.plugin "draw" .null 5)
    (.returned (.ok .null) : Unwinding (Except Error Value)) rfl ⟨trivial, _, rfl, rfl⟩).act ((), 0) (.host .containsKey)
    false rfl ⟨trivial, _, ⟨_, ⟨rfl, rfl⟩, rfl⟩, rfl⟩).act ((), 0) (.host (.takeLease false))
    (Except.ok () : Except Error Unit) rfl ⟨room, _, ⟨_, ⟨rfl, rfl⟩, rfl⟩, rfl⟩).act ((), 0) (.host .deepen) () rfl
    ⟨trivial, _, ⟨_, rfl, rfl⟩, rfl⟩).act ((), 0) (.insert [0, 0, 0]) (.returned 64 : Unwinding UInt64) rfl
    ⟨trivial, _, ⟨by decide, rfl, rfl⟩, rfl⟩).act ((), 0) (.write ⟨64, 0, 3⟩ [0x92, 0x00, 0xc0]) () rfl
    ⟨trivial, _, rfl, rfl⟩
  have left := ((((returned.act ((), 0) (.host .surface) () rfl ⟨trivial, _, ⟨_, rfl, rfl⟩, rfl⟩).act ((), 0)
    (.host .release) () rfl ⟨trivial, _, ⟨_, rfl, rfl⟩, rfl⟩).act ((), 0) (.session (.dropArc 0)) () rfl
    ⟨trivial, _, ⟨_, rfl, rfl⟩, rfl⟩).act ((), 0) (.session (.leave 0)) () rfl ⟨trivial, _, ⟨_, rfl, rfl⟩, rfl⟩)
  have taken := ((left.act ((), 0) (.remove 64) (some [0x92, 0x00, 0xc0] : Option (List UInt8)) rfl
    ⟨trivial, _, ⟨rfl, rfl⟩, rfl⟩).act ((), 0) (.engine (.unlockPayload 0)) () rfl
    ⟨trivial, _, ⟨_, rfl, rfl⟩, rfl⟩).finish ((), 0) rfl rfl
  exact ⟨plugin, _, end_to_end ⟨first, fresh, taken⟩, _, _, rfl⟩

end Embedding

end RuntimeHost.Native
