import RuntimeHost.Sdk.FutureInvariant

namespace RuntimeHost.Sdk

open Foundation Function System

variable {Tid : Type} [DecidableEq Tid]

namespace Futures

variable {s : Futures Tid} {L : Tid → FutureLocal Tid} {t : Tid}

section Steps

variable {l : FutureLocal Tid} {id : UInt64} {r : EntryRef}

theorem keeps_lockEntry (active : l.call.isSome) (resting : l.phase = .resting) (given : l.given = some (id, r)) :
    system.Keeps Inv t (.lockEntry r) l fun state l' =>
      (state = .pending ∧ l' = { l with phase := .locked r }) ∨
        (state ≠ .pending ∧ l' = { l with phase := .decided r }) := by
  rintro s L inv rfl state s' ⟨free, rfl, rfl⟩
  by_cases waiting : s.entry r = .pending
  · exact ⟨_, .inl ⟨waiting, rfl⟩,
      inv_lock inv (inv.call t ▸ active) resting (inv.bound given) free (.inl ⟨rfl, waiting⟩)⟩
  · exact ⟨_, .inr ⟨waiting, rfl⟩,
      inv_lock inv (inv.call t ▸ active) resting (inv.bound given) free (.inr ⟨rfl, waiting⟩)⟩

theorem keeps_unlockEntry (active : l.call.isSome) (held : l.phase.Holds r) :
    system.Keeps Inv t (.unlockEntry r) l fun _ l' => l' = { l with phase := .resting } := by
  rintro s L inv rfl _ s' rfl
  exact ⟨_, rfl, inv_unlock inv held⟩

theorem keeps_upgrade (place : l.phase = .locked r) (given : l.given = some (id, r)) :
    system.Keeps Inv t .upgrade l fun strong l' => strong = true ∧ l' = l := by
  rintro s L inv rfl strong s' (⟨rfl, -, rfl⟩ | ⟨-, weak, -⟩)
  · exact ⟨L t, ⟨rfl, rfl⟩, by rw [update_eq_self]; exact { inv with }⟩
  · have live := inv.alive id r (inv.given t id r given) (inv.locked t r place).2
    exact absurd (.inr (.inl ⟨r, live⟩)) weak

theorem keeps_release : system.Keeps Inv t .release l fun _ l' => l' = l := by
  rintro s L inv rfl _ s' rfl
  exact ⟨L t, rfl, by rw [update_eq_self]; exact { inv with }⟩

theorem keeps_settle {callback : Callback} {result : Except Error Value} (active : l.call.isSome)
    (place : l.phase = .locked callback.entry) (given : l.given = some (callback.id, callback.entry)) :
    system.Keeps Inv t (.settle callback result) l fun (won : Bool) l' =>
      l' = { l with
        phase := .decided callback.entry
        own := .settled t callback.entry (if won then .complete result else .cancelled) :: l.own } := by
  rintro s L inv rfl won s' answered
  have waiting := inv.locked t _ place
  have mine := (inv.holder callback.entry t).mpr (by rw [place]; rfl)
  have issued := inv.given t _ _ given
  have same : ∀ id, s.registry.entries.lookup id = some callback.entry → id = callback.id :=
    fun id listed => inv.unique id _ _ (inv.registered id _ listed).1 issued
  simp only [system, exec] at answered
  split at answered
  · rename_i refused
    obtain ⟨rfl, rfl⟩ := answered
    refine ⟨_, rfl, inv_settle s.registry.entries inv (inv.call t ▸ active) waiting.1 waiting.2 (by simp)
      (.inr mine) (fun _ _ _ => Iff.rfl) ?_ inv.closed (.inl ⟨rfl, place⟩)⟩
    intro id listed
    rcases refused with shut | missing
    · rw [inv.closed shut] at listed
      cases listed
    · rw [same id listed] at listed
      exact absurd (by simpa [RegistryState.registered] using listed) missing
  · rename_i accepted
    obtain ⟨rfl, rfl⟩ := answered
    simp only [not_or, Bool.not_eq_true] at accepted
    refine ⟨_, rfl, inv_settle _ inv (inv.call t ▸ active) waiting.1 waiting.2 (by simp) (.inr mine) ?_ ?_ ?_
      (.inl ⟨rfl, place⟩)⟩
    · intro id r' other
      by_cases here : id = callback.id
      · subst here
        have listed : s.registry.entries.lookup callback.id = some callback.entry := by
          simpa [RegistryState.registered] using accepted.2
        simp [AList.lookup_erase, listed, Ne.symm other]
      · rw [AList.lookup_erase_ne here]
    · intro id listed
      by_cases here : id = callback.id
      · subst here
        rw [AList.lookup_erase] at listed
        cases listed
      · rw [AList.lookup_erase_ne here] at listed
        exact absurd (same id listed) here
    · intro shut
      rw [accepted.1] at shut
      cases shut

theorem keeps_cancelEntry {future : PluginFuture} (active : l.call.isSome) (resting : l.phase = .resting)
    (given : l.given = some (future.id, future.entry)) :
    system.Keeps Inv t (.cancelEntry future.entry) l fun (won : Bool) l' =>
      (won = true ∧ l' = { l with
          phase := .removing future
          own := .settled t future.entry .cancelled :: l.own }) ∨
        ∃ state, won = false ∧ state ≠ .pending ∧ l' = { l with own := .observed t future.entry state :: l.own } := by
  rintro s L inv rfl won s' ⟨free, answered⟩
  have issued := inv.given t _ _ given
  split at answered
  · rename_i waiting
    obtain ⟨rfl, rfl⟩ := answered
    refine ⟨_, .inl ⟨rfl, rfl⟩, inv_settle s.registry.entries inv (inv.call t ▸ active)
      (inv.bound given) waiting (by simp) (.inl free) (fun _ _ _ => Iff.rfl) ?_ inv.closed
      (.inr (.inl ⟨future.id, rfl, resting⟩))⟩
    intro id listed
    have same := inv.unique id _ _ (inv.registered id _ listed).1 issued
    exact ⟨listed, by rw [same]⟩
  · rename_i decided
    obtain ⟨rfl, rfl⟩ := answered
    exact ⟨_, .inr ⟨_, rfl, decided, rfl⟩, inv_observe inv (inv.call t ▸ active) (inv.bound given)⟩

theorem keeps_cancelDrained {entries : List EntryRef} (active : l.call.isSome)
    (place : l.phase = .closing (r :: entries)) :
    system.Keeps Inv t (.cancelEntry r) l fun _ l' => l'.call.isSome ∧ l'.phase = .closing entries := by
  rintro s L inv rfl won s' ⟨free, answered⟩
  have ⟨_, shut, bound⟩ := inv.closing t _ place
  split at answered
  · rename_i waiting
    obtain ⟨-, rfl⟩ := answered
    have cancelled := inv_settle s.registry.entries inv (inv.call t ▸ active) (bound r (by simp)) waiting
      (show EntryState.cancelled ≠ .pending by simp) (.inl free) (fun _ _ _ => Iff.rfl)
      (fun id listed => by rw [inv.closed shut] at listed; cases listed) inv.closed
      (.inr (.inr ⟨entries, rfl, place⟩))
    exact ⟨_, ⟨by simpa using active, rfl⟩, cancelled⟩
  · rename_i decided
    obtain ⟨-, rfl⟩ := answered
    have observed := inv_observe inv (inv.call t ▸ active) (bound r (by simp))
    have here : (update L t { L t with own := .observed t r (s.entry r) :: (L t).own } t).phase =
        .closing (r :: entries) := by simpa using place
    have skipped := inv_skip observed here (.inl ⟨r, entries, rfl, decided, rfl⟩)
    rw [update_idem] at skipped
    exact ⟨_, ⟨by simpa using active, rfl⟩, skipped⟩

theorem keeps_remove {future : PluginFuture} (active : l.call.isSome) (place : l.phase = .removing future) :
    system.Keeps Inv t (.remove future) l fun _ l' => l' = { l with phase := .resting } := by
  rintro s L inv rfl _ s' rfl
  exact ⟨_, rfl, inv_remove inv place⟩

theorem keeps_drain (closing : l.call = some .close) (silent : l.own = []) (resting : l.phase = .resting) :
    system.Keeps Inv t .drain l fun entries l' => l' = { l with phase := .closing entries } := by
  rintro s L inv rfl entries s' ⟨rfl, rfl⟩
  exact ⟨_, rfl, inv_drain inv (inv.call t ▸ closing) silent resting⟩

theorem keeps_look (active : l.call.isSome) (given : l.given = some (id, r)) :
    system.Keeps Inv t (.look r) l fun state l' => l' = { l with own := .observed t r state :: l.own } := by
  rintro s L inv rfl state s' ⟨-, rfl, rfl⟩
  exact ⟨_, rfl, inv_observe inv (inv.call t ▸ active) (inv.bound given)⟩

theorem keeps_await (active : l.call.isSome) (given : l.given = some (id, r)) :
    system.Keeps Inv t (.await r) l fun state l' =>
      state.report.isSome ∧ l' = { l with own := .observed t r state :: l.own } := by
  rintro s L inv rfl state s' ⟨-, ready, rfl, rfl⟩
  exact ⟨_, ⟨ready, rfl⟩, inv_observe inv (inv.call t ▸ active) (inv.bound given)⟩

theorem keeps_forget (terminal : ∃ state, state ≠ .pending ∧
      (.settled t r state ∈ l.own ∨ .observed t r state ∈ l.own)) :
    system.Keeps Inv t (.forget r) l fun _ l' => l' = l := by
  rintro s L inv rfl _ s' rfl
  obtain ⟨state, decided, event⟩ := terminal
  refine ⟨L t, rfl, ?_⟩
  rw [update_eq_self]
  refine inv_forget inv fun waiting => ?_
  rcases event with settled | observed
  · exact decided ((inv.settled t r state ((inv.own _).mpr settled)).2.1.symm.trans waiting)
  · obtain ⟨earlier, ⟨-, early | ⟨t', settled⟩⟩, old⟩ := inv.legal.of_mem ((inv.own _).mpr observed)
    · exact decided early
    · exact decided ((inv.settled t' r state (old _ settled)).2.1.symm.trans waiting)

theorem keeps_pair (active : l.call.isSome) (resting : l.phase = .resting) :
    system.Keeps Inv t .pair l fun (made : Except Error (Callback × PluginFuture)) l' =>
      match made with
      | .error _ => l' = l
      | .ok (callback, future) => l' = { l with own := .created t callback future :: l.own } := by
  rintro s L inv rfl made s' answered
  simp only [system, exec] at answered
  split at answered
  · obtain ⟨rfl, rfl⟩ := answered
    exact ⟨L t, rfl, by rwa [update_eq_self]⟩
  · rename_i accepted
    obtain ⟨rfl, rfl⟩ := answered
    exact ⟨_, rfl, inv_pair inv (inv.call t ▸ active) resting accepted⟩

end Steps

def given : FutureCall → Option (UInt64 × EntryRef)
  | .complete callback _ => some (callback.id, callback.entry)
  | .poll future => some (future.id, future.entry)
  | .wait future => some (future.id, future.entry)
  | .cancel future => some (future.id, future.entry)
  | .drop future => some (future.id, future.entry)
  | _ => none

def Finished (t : Tid) (call : FutureCall) (result : FutureResult) (l : FutureLocal Tid) : Prop :=
  l.call.isSome ∧ Justified l.own t call result ∧
    match call with
    | .close => l.phase = .closing []
    | _ => l.phase = .resting

theorem safe_cancelAll {entries : List EntryRef} {l : FutureLocal Tid} (active : l.call.isSome)
    (place : l.phase = .closing entries) :
    system.Safe Inv t (fun _ l' => l'.call.isSome ∧ l'.phase = .closing []) (cancelAll entries) l := by
  induction entries generalizing l with
  | nil => exact ⟨active, place⟩
  | cons r entries ih =>
    refine Keeps.imp (keeps_cancelDrained active place) fun _ l' ⟨active', place'⟩ => ?_
    exact ih active' place'

theorem safe_complete {callback : Callback} {result : Except Error Value} {l : FutureLocal Tid}
    (active : l.call.isSome) (resting : l.phase = .resting) (fresh : l.own = [])
    (given : l.given = some (callback.id, callback.entry)) :
    system.Safe Inv t (fun outcome => Finished t (.complete callback result) (.complete outcome))
      (callback.complete result) l := by
  unfold Callback.complete
  refine Keeps.imp (keeps_lockEntry active resting given) fun state l' locked => ?_
  rcases locked with ⟨rfl, rfl⟩ | ⟨decided, rfl⟩
  · refine Keeps.imp (keeps_upgrade rfl given) fun strong l' ⟨strong', same⟩ => ?_
    subst strong' same
    refine Keeps.imp (keeps_settle active rfl given) fun won l' settled => ?_
    subst settled
    cases won with
    | false =>
      refine Keeps.imp keeps_release fun _ l' same => ?_
      subst same
      refine Keeps.imp (keeps_unlockEntry active rfl) fun _ l' same => ?_
      subst same
      exact ⟨active, by simp [Justified, fresh], rfl⟩
    | true =>
      refine Keeps.imp (keeps_unlockEntry active rfl) fun _ l' same => ?_
      subst same
      refine Keeps.imp keeps_release fun _ l' same => ?_
      subst same
      exact ⟨active, by simp [Justified], rfl⟩
  · cases state with
    | pending => exact absurd rfl decided
    | complete _ =>
      refine Keeps.imp (keeps_unlockEntry active rfl) fun _ l' same => ?_
      subst same
      exact ⟨active, by simp [Justified, fresh], rfl⟩
    | cancelled =>
      refine Keeps.imp (keeps_unlockEntry active rfl) fun _ l' same => ?_
      subst same
      exact ⟨active, by simp [Justified, fresh], rfl⟩

theorem safe_cancel {future : PluginFuture} {l : FutureLocal Tid} (active : l.call.isSome)
    (resting : l.phase = .resting) (fresh : l.own = []) (given : l.given = some (future.id, future.entry)) :
    system.Safe Inv t (fun won l' => Finished t (.cancel future) (.cancel won) l' ∧
        ∃ state, state ≠ .pending ∧
          (.settled t future.entry state ∈ l'.own ∨ .observed t future.entry state ∈ l'.own))
      future.cancel l := by
  unfold PluginFuture.cancel
  refine Keeps.imp (keeps_cancelEntry active resting given) fun won l' outcome => ?_
  rcases outcome with ⟨rfl, rfl⟩ | ⟨state, rfl, decided, rfl⟩
  · refine Keeps.imp (keeps_remove active rfl) fun _ l' same => ?_
    subst same
    exact ⟨⟨active, by simp [Justified], rfl⟩, .cancelled, by simp, by simp⟩
  · exact ⟨⟨active, by simp [Justified, fresh], resting⟩, state, decided, by simp⟩

theorem safe_code (call : FutureCall) :
    system.Safe Inv t (Finished t call) call.code { call := some call, given := given call } := by
  cases call with
  | pair =>
    refine Keeps.imp (keeps_pair rfl rfl) fun made l' outcome => ?_
    cases made with
    | error _ =>
      subst outcome
      exact ⟨rfl, by simp [Justified], rfl⟩
    | ok pair =>
      subst outcome
      exact ⟨rfl, by simp [Justified, Prod.ext_iff, eq_comm], rfl⟩
  | complete callback result =>
    refine .bind ((safe_complete rfl rfl rfl rfl).imp fun outcome l' finished => ?_)
    exact finished
  | poll future =>
    refine Keeps.imp (keeps_look rfl rfl) fun state l' same => ?_
    subst same
    exact ⟨rfl, ⟨state, by simp, rfl⟩, rfl⟩
  | wait future =>
    refine Keeps.imp (keeps_await rfl rfl) fun state l' ⟨ready, same⟩ => ?_
    subst same
    exact ⟨rfl, ⟨state, by simp, rfl, ready⟩, rfl⟩
  | cancel future =>
    refine .bind ((safe_cancel rfl rfl rfl rfl).imp fun won l' finished => ?_)
    exact finished.1
  | drop future =>
    refine .bind (.bind ((safe_cancel rfl rfl rfl rfl).imp fun won l' finished => ?_))
    refine Keeps.imp (keeps_forget finished.2) fun _ l'' same => ?_
    subst same
    exact ⟨finished.1.1, trivial, finished.1.2.2⟩
  | close =>
    refine Keeps.imp (keeps_drain rfl rfl rfl) fun entries l' same => ?_
    subst same
    refine .bind ((safe_cancelAll rfl rfl).imp fun _ l' ⟨active, place⟩ => ?_)
    exact ⟨active, trivial, place⟩

omit [DecidableEq Tid] in
theorem given_issued {s : Futures Tid} {call : FutureCall} (admitted : s.Admitted call) (id : UInt64)
    (r : EntryRef) (handle : given call = some (id, r)) : Issued s.history id r := by
  cases call <;> cases handle <;> exact admitted

def discipline : Discipline system (fun s : Futures Tid => s = {}) (FutureLocal Tid) where
  inv := Inv
  resting _ l := l.phase = .resting
  finished := Finished
  init := by
    rintro s rfl
    refine ⟨fun _ => {}, ?_, fun _ => rfl⟩
    constructor <;> simp [Issued, FuturePhase.Holds, legal_nil]
  start := by
    rintro t call s L s' inv _ ⟨idle, admitted, rfl⟩
    exact ⟨_, inv_begin inv idle (given_issued admitted), safe_code call⟩
  finish := by
    rintro t call result s L s' inv ⟨active, justified, place⟩ rfl
    have begun : (s.begun t).isSome := inv.call t ▸ active
    by_cases shut : call = .close
    · subst shut
      have closed := (inv.closing t [] place).2.1
      have rested := inv_skip inv place (.inr ⟨rfl, rfl⟩)
      have own : Justified (update L t { L t with phase := .resting } t).own t .close result := by
        simpa using justified
      have returned := inv_return rested begun (by simp) own fun _ => closed
      rw [update_idem] at returned
      exact ⟨_, returned, by simp⟩
    · have rested : (L t).phase = .resting := by
        cases call <;> first | exact place | exact absurd rfl shut
      exact ⟨_, inv_return inv begun rested justified fun close => absurd close shut, rested⟩
  env := by
    rintro s L s' inv rfl
    exact { inv with }

section Runs

variable {c c' : FutureConfig Tid}

theorem exec_history {op : FutureOp} {s s' : Futures Tid} {answer : op.Answer} (answered : exec t op s answer s') :
    s.history <:+ s'.history := by
  have same : s.history <:+ s.history := List.suffix_rfl
  have longer := fun event => List.suffix_cons event s.history
  cases op <;> simp only [exec] at answered <;> grind [log, settle]

theorem run_history (run : system.Run c c') : c.state.history <:+ c'.state.history := by
  induction run with
  | refl => exact List.suffix_rfl
  | tail _ step ih =>
    refine ih.trans ?_
    cases step with
    | start _ begun =>
      obtain ⟨-, -, rfl⟩ := begun
      exact List.suffix_rfl
    | act _ answered => exact exec_history answered
    | finish _ ended =>
      cases ended
      exact List.suffix_cons _ _
    | env moved =>
      cases moved
      exact List.suffix_rfl

theorem entry_permanent (reached : system.Reachable (fun s : Futures Tid => s = {}) c) (run : system.Run c c')
    {r : EntryRef} (made : r < c.state.allocated) (terminal : c.state.entry r ≠ .pending) :
    c'.state.entry r = c.state.entry r := by
  obtain ⟨s, initial, before⟩ := reached
  obtain ⟨L, inv, -⟩ := discipline.valid_of_reachable ⟨s, initial, before⟩
  obtain ⟨L', inv', -⟩ := discipline.valid_of_reachable ⟨s, initial, before.trans run⟩
  obtain ⟨t, settled⟩ := inv.unsettled r made terminal
  exact (inv'.settled t r _ ((run_history run).subset settled)).2.1

end Runs

/-- What is known of a registry in any state that an interleaving of its calls reaches. -/
structure ExactlyOnce (c : FutureConfig Tid) : Prop where
  /-- An entry leaves `Pending` at most once, every result agrees with it, and no pair is made after `close`. -/
  legal : Legal Permitted c.state.history
  settled : ∀ t r state, .settled t r state ∈ c.state.history → c.state.entry r = state
  unsettled : ∀ r, r < c.state.allocated → c.state.entry r ≠ .pending →
    ∃ t, .settled t r (c.state.entry r) ∈ c.state.history
  permanent : ∀ c', system.Run c c' → ∀ r, r < c.state.allocated → c.state.entry r ≠ .pending →
    c'.state.entry r = c.state.entry r
  issued : ∀ id r, c.state.registry.entries.lookup id = some r → Issued c.state.history id r
  exact : (∀ t, c.threads t = .idle) → ∀ id r, Issued c.state.history id r →
    (c.state.registry.entries.lookup id = some r ↔ c.state.entry r = .pending)
  closed : ∀ t result, .returned t .close result ∈ c.state.history →
    ∀ id r, Issued c.state.history id r → c.state.entry r = .pending →
      ∃ t', c.state.begun t' = some .close ∧ r ∈ c.state.drained t' ∧
        ∀ result', .returned t' .close result' ∉ c.state.history

theorem exactly_once {c : FutureConfig Tid}
    (reached : system.Reachable (fun s : Futures Tid => s = {}) c) : ExactlyOnce c := by
  obtain ⟨L, inv, threads⟩ := discipline.valid_of_reachable reached
  refine ⟨inv.legal, fun t r state event => (inv.settled t r state event).2.1, inv.unsettled,
    fun c' run r => entry_permanent reached run, fun id r listed => (inv.registered id r listed).1, ?_, ?_⟩
  · intro idle id r issued
    have rest : ∀ t, (L t).phase = .resting := by
      intro t
      have here := threads t
      rw [idle t] at here
      exact here
    constructor
    · intro listed
      rcases (inv.registered id r listed).2 with waiting | ⟨t, place⟩
      · exact waiting
      · rw [rest t] at place
        cases place
    · intro waiting
      rcases inv.pending id r issued waiting with listed | ⟨t, entries, place, -⟩
      · exact listed
      · rw [rest t] at place
        cases place
  · intro t result shut id r issued waiting
    have empty := inv.closed (inv.returned t result shut).1
    rcases inv.pending id r issued waiting with listed | ⟨t', entries, place, present⟩
    · rw [empty] at listed
      cases listed
    · exact ⟨t', (inv.closing t' entries place).1, inv.taken t' entries place r present, fun result' ended =>
        (inv.returned t' result' ended).2 entries place⟩

/-- Two overlapping `close` calls: the second finds nothing to drain and returns before the first has cancelled. -/
theorem overlapping_closes : ∃ c : FutureConfig Nat, system.Reachable (fun s => s = {}) c ∧
    .returned 2 .close .unit ∈ c.state.history ∧ Issued c.state.history 1 0 ∧ c.state.entry 0 = .pending := by
  have idle : system.Run (⟨{}, fun _ => .idle⟩ : FutureConfig Nat) ⟨{}, fun _ => .idle⟩ := .refl
  have paired := (idle.start 0 .pair rfl ⟨rfl, rfl, rfl⟩).act 0 .pair (Except.ok (⟨1, 0⟩, ⟨1, 0⟩)) rfl ⟨rfl, rfl⟩
  have drained := (paired.start 1 .close rfl ⟨rfl, rfl, rfl⟩).act 1 .drain [0] rfl ⟨rfl, rfl⟩
  have closed := ((drained.start 2 .close rfl ⟨rfl, rfl, rfl⟩).act 2 .drain [] rfl ⟨rfl, rfl⟩).finish 2 rfl rfl
  exact ⟨_, ⟨{}, rfl, closed⟩, by simp [log], ⟨0, by simp [log]⟩, rfl⟩

theorem exactly_once_overlapping : ∃ c : FutureConfig Nat, ExactlyOnce c ∧
    .returned 2 .close .unit ∈ c.state.history ∧ c.state.entry 0 = .pending := by
  obtain ⟨c, reached, shut, -, waiting⟩ := overlapping_closes
  exact ⟨c, exactly_once reached, shut, waiting⟩

theorem close_leaves_pending : ¬∀ c : FutureConfig Nat, system.Reachable (fun s => s = {}) c →
    ∀ t result, .returned t .close result ∈ c.state.history →
      ∀ id r, Issued c.state.history id r → c.state.entry r ≠ .pending := by
  intro claim
  obtain ⟨c, reached, shut, issued, waiting⟩ := overlapping_closes
  exact claim c reached 2 .unit shut 1 0 issued waiting

end Futures

end RuntimeHost.Sdk
