import RuntimeHost.Foundation.Census
import RuntimeHost.Foundation.History
import RuntimeHost.Sdk.Session

namespace RuntimeHost.Sdk

open Foundation Function Abi

variable {Tid : Type}

def SessionEvent.thread : SessionEvent Tid → Tid
  | .created t _ => t
  | .installed t _ _ => t
  | .checked t _ _ => t
  | .removed t _ => t
  | .admitted t _ => t
  | .began t _ => t
  | .ended t _ _ => t
  | .unwrapFailed t _ => t
  | .underflow t => t
  | .deactivated t _ => t
  | .returned t _ _ => t

def installedSession : List (SessionEvent Tid) → Option SessionRef
  | .installed _ session _ :: _ => some session
  | .removed .. :: _ => none
  | _ :: earlier => installedSession earlier
  | [] => none

namespace PluginCall

def Justified (events : List (SessionEvent Tid)) (t : Tid) (status : HmclStatus) : PluginCall → Prop
  | .initializePlugin (.ok ()) plugin => ∃ context, .created t context ∈ events ∧
    ((status = .ok ∧ .ended t (.initializePlugin context) .ok ∈ events ∧ ∃ session, .installed t session plugin ∈ events) ∨
      (status ≠ .ok ∧ (∀ session plugin, .installed t session plugin ∉ events) ∧ .deactivated t context ∈ events))
  | .invoke (.ok ()) => ∀ session, .admitted t session ∈ events →
    ∃ outcome, .ended t (.invoke session) outcome ∈ events
  | .shutdown (.ok ()) plugin => ∀ session owner, .checked t session owner ∈ events →
    (owner ≠ plugin → status = .invalidArgument ∧ (∀ session, .removed t session ∉ events) ∧
      (∀ call, .began t call ∉ events) ∧ ∀ context, .deactivated t context ∉ events) ∧
    (owner = plugin → .removed t session ∈ events ∧ .began t (.shutdown session) ∈ events)
  | _ => ∀ event ∈ events, event.thread ≠ t

end PluginCall

namespace SessionEvent

def Permitted (earlier : List (SessionEvent Tid)) : SessionEvent Tid → Prop
  | .installed t session _ => installedSession earlier = none ∧
    (∀ t' plugin, .installed t' session plugin ∉ earlier) ∧
    ∃ context, .created t context ∈ earlier ∧ .ended t (.initializePlugin context) .ok ∈ earlier
  | .checked _ session plugin => installedSession earlier = some session ∧
    ∃ t', .installed t' session plugin ∈ earlier
  | .removed _ session => installedSession earlier = some session
  | .admitted _ session => installedSession earlier = some session
  | .began t (.invoke session) => .admitted t session ∈ earlier ∧ ∀ t', .began t' (.shutdown session) ∉ earlier
  | .began _ (.shutdown session) => (∀ t', .began t' (.shutdown session) ∉ earlier) ∧
    ∀ t', .admitted t' session ∈ earlier → ∃ outcome, .ended t' (.invoke session) outcome ∈ earlier
  | .unwrapFailed .. => False
  | .underflow _ => False
  | .returned t call status => call.Justified earlier t status
  | _ => True

end SessionEvent

/-- The events that are not about which session is installed, admitted to or shut down. -/
def SessionEvent.Plain : SessionEvent Tid → Prop
  | .created .. => True
  | .checked .. => True
  | .began _ (.shutdown _) => False
  | .began .. => True
  | .ended .. => True
  | .deactivated .. => True
  | .returned .. => True
  | _ => False

theorem SessionEvent.Plain.installedSession_cons {event : SessionEvent Tid} (plain : event.Plain)
    (history : List (SessionEvent Tid)) : installedSession (event :: history) = installedSession history := by
  cases event <;> first | rfl | cases plain

inductive ShutdownStage where
  | took
  | closed
  | quiet
  | unwrapped

inductive ContextPhase where
  | unknown
  | open (context : ContextRef)
  | closing (context : ContextRef)
  | quiesced (context : ContextRef)

def ContextPhase.context : ContextPhase → Option ContextRef
  | .unknown => none
  | .open context => some context
  | .closing context => some context
  | .quiesced context => some context

/-- What a thread has in its hands: the lock and what the slot then holds, a clone of a session, a place in its
gate, the session it took, and a context. -/
structure SessionLocal (Tid : Type) where
  sees : Option (Option SessionRef) := none
  clone : Option SessionRef := none
  counted : Option SessionRef := none
  taken : Option (SessionRef × ShutdownStage) := none
  scope : ContextPhase := .unknown
  call : Option PluginCall := none
  own : List (SessionEvent Tid) := []

/-- The session's `Arc` is counted once for the slot or its taker and once for each clone. -/
def Runtime.Shared (s : Runtime Tid) (L : Tid → SessionLocal Tid) (x : SessionRef) : Prop :=
  ∃ clones, (s.session x).strong = clones + 1 ∧ Census clones fun t => (L t).clone = some x

/-- The lock, the slot and the counts agree with what the threads have in their hands. -/
structure Runtime.Hands (s : Runtime Tid) (L : Tid → SessionLocal Tid) : Prop where
  lock : ∀ t, s.slotLock = some t ↔ (L t).sees.isSome
  slot : ∀ t content, (L t).sees = some content → s.slot = content
  bound : ∀ x, s.slot = some x → x < s.sessions ∧ (s.session x).accepting = true
  taken : ∀ t x stage, (L t).taken = some (x, stage) → x < s.sessions ∧ s.slot ≠ some x
  taker : ∀ t t' x stage stage', (L t).taken = some (x, stage) → (L t').taken = some (x, stage') → t = t'
  took : ∀ t x, (L t).taken = some (x, .took) → (L t).sees = some none ∧ (s.session x).accepting = true
  cloned : ∀ t x, (L t).clone = some x → (L t).sees = some (some x) ∨ (L t).counted = some x
  counted : ∀ t x, (L t).counted = some x → x < s.sessions ∧
    (s.slot = some x ∨ ∃ t' stage, (L t').taken = some (x, stage) ∧ (stage = .took ∨ stage = .closed))
  installed : ∀ x, s.slot = some x → s.Shared L x
  arc : ∀ t x stage, (L t).taken = some (x, stage) → stage ≠ .unwrapped → s.Shared L x
  inFlight : ∀ x, x < s.sessions → Census (s.session x).inFlight fun t => (L t).counted = some x

/-- The history agrees with the slot and with what the threads have in their hands. -/
structure Runtime.Record (s : Runtime Tid) (L : Tid → SessionLocal Tid) : Prop where
  took : ∀ t x, (L t).taken = some (x, .took) → installedSession s.history = some x
  current : (∀ t x, (L t).taken ≠ some (x, .took)) → installedSession s.history = s.slot
  named : ∀ x, x < s.sessions → ∃ t, .installed t x (s.session x).plugin ∈ s.history
  installed : ∀ t x plugin, .installed t x plugin ∈ s.history → x < s.sessions
  counted : ∀ t x, (L t).counted = some x → .admitted t x ∈ s.history
  admitted : ∀ t x, .admitted t x ∈ s.history → x < s.sessions ∧
    ((L t).counted = some x ∨ ∃ outcome, .ended t (.invoke x) outcome ∈ s.history)
  stopped : ∀ t x, .began t (.shutdown x) ∈ s.history →
    x < s.sessions ∧ s.slot ≠ some x ∧ ∀ t' stage, (L t').taken ≠ some (x, stage)
  legal : Legal SessionEvent.Permitted s.history

structure Runtime.Scopes (s : Runtime Tid) (L : Tid → SessionLocal Tid) : Prop where
  created : ∀ t context, .created t context ∈ s.history → context < s.contexts
  scope : ∀ t context, (L t).scope.context = some context → context < s.contexts
  context : ∀ x, x < s.sessions → (s.session x).context < s.contexts
  closing : ∀ t context, (L t).scope = .closing context → (s.context context).active = false
  quiesced : ∀ t context, (L t).scope = .quiesced context → s.context context = ⟨false, 0⟩
  deactivated : ∀ t context, .deactivated t context ∈ s.history →
    context < s.contexts ∧ s.context context = ⟨false, 0⟩

structure Runtime.Inv (s : Runtime Tid) (L : Tid → SessionLocal Tid) : Prop where
  fresh : ∀ t, s.begun t = none → L t = {}
  call : ∀ t, (L t).call = s.begun t
  own : ∀ event, event ∈ s.history ↔ event ∈ (L event.thread).own
  hands : s.Hands L
  record : s.Record L
  scopes : s.Scopes L

namespace Runtime

variable [DecidableEq Tid] {s : Runtime Tid} {L : Tid → SessionLocal Tid} {t : Tid} {x : SessionRef}

section Views

variable (L : Tid → SessionLocal Tid) (t : Tid) (l : SessionLocal Tid) (t' : Tid)

theorem view_frame :
    (l.sees = (L t).sees → (update L t l t').sees = (L t').sees) ∧
    (l.clone = (L t).clone → (update L t l t').clone = (L t').clone) ∧
    (l.counted = (L t).counted → (update L t l t').counted = (L t').counted) ∧
    (l.taken = (L t).taken → (update L t l t').taken = (L t').taken) ∧
    (l.scope = (L t).scope → (update L t l t').scope = (L t').scope) ∧
    (l.call = (L t).call → (update L t l t').call = (L t').call) ∧
    (l.own = (L t).own → (update L t l t').own = (L t').own) := by
  grind [update_apply]

theorem view_update :
    ((update L t l t').sees = if t' = t then l.sees else (L t').sees) ∧
    ((update L t l t').clone = if t' = t then l.clone else (L t').clone) ∧
    ((update L t l t').counted = if t' = t then l.counted else (L t').counted) ∧
    ((update L t l t').taken = if t' = t then l.taken else (L t').taken) ∧
    ((update L t l t').scope = if t' = t then l.scope else (L t').scope) ∧
    ((update L t l t').own = if t' = t then l.own else (L t').own) := by
  grind [update_apply]

end Views

omit [DecidableEq Tid] in
theorem Hands.alone {t' : Tid} (hands : s.Hands L) (held : (L t).sees.isSome) (held' : (L t').sees.isSome) :
    t' = t := by
  have here := (hands.lock t).mpr held
  have there := (hands.lock t').mpr held'
  rw [here] at there
  exact (Option.some.inj there).symm

section Frames

variable {s' : Runtime Tid} {L' : Tid → SessionLocal Tid}

omit [DecidableEq Tid] in
theorem Hands.frame (hands : s.Hands L) (lock : s'.slotLock = s.slotLock) (slot : s'.slot = s.slot)
    (session : s'.session = s.session) (sessions : s'.sessions = s.sessions) (sees : ∀ t, (L' t).sees = (L t).sees)
    (clone : ∀ t, (L' t).clone = (L t).clone) (counted : ∀ t, (L' t).counted = (L t).counted)
    (taken : ∀ t, (L' t).taken = (L t).taken) : s'.Hands L' := by
  obtain ⟨lock', slot', bound, taken', taker, took, cloned, counted', fixed, arc, inFlight⟩ := hands
  constructor <;> simp only [Shared, lock, slot, session, sessions, sees, clone, counted, taken] <;> assumption

omit [DecidableEq Tid] in
theorem Record.frame (record : s.Record L) (slot : s'.slot = s.slot)
    (plugin : ∀ x, (s'.session x).plugin = (s.session x).plugin) (sessions : s'.sessions = s.sessions)
    (history : s'.history = s.history) (counted : ∀ t, (L' t).counted = (L t).counted)
    (taken : ∀ t, (L' t).taken = (L t).taken) : s'.Record L' := by
  obtain ⟨took, current, named, installed, counted', admitted, stopped, legal⟩ := record
  constructor <;> simp only [slot, plugin, sessions, history, counted, taken] <;> assumption

omit [DecidableEq Tid] in
theorem Scopes.frame (scopes : s.Scopes L) (contexts : s'.contexts = s.contexts) (context : s'.context = s.context)
    (sessions : s'.sessions = s.sessions) (owner : ∀ x, (s'.session x).context = (s.session x).context)
    (created : ∀ t c, .created t c ∈ s'.history ↔ .created t c ∈ s.history)
    (deactivated : ∀ t c, .deactivated t c ∈ s'.history ↔ .deactivated t c ∈ s.history)
    (scope : ∀ t, (L' t).scope = (L t).scope) : s'.Scopes L' := by
  obtain ⟨created', scope', context', closing, quiesced, deactivated'⟩ := scopes
  constructor <;> simp only [contexts, context, sessions, owner, created, deactivated, scope] <;> assumption

end Frames

section Parts

theorem Hands.lock_slot (hands : s.Hands L) (free : s.slotLock = none) :
    Hands { s with slotLock := some t } (update L t { L t with sees := some s.slot }) := by
  have ⟨lock, slot, bound, taken, taker, took, cloned, counted, fixed, arc, inFlight⟩ := hands
  constructor <;> try simp only [Shared, view_frame]
  all_goals try assumption
  all_goals try simp only [view_update]
  all_goals grind [Shared]

theorem Hands.unlock_slot (hands : s.Hands L) (held : (L t).sees.isSome)
    (untaken : ∀ y, (L t).taken ≠ some (y, .took)) (counts : ∀ y, (L t).clone = some y → (L t).counted = some y) :
    Hands { s with slotLock := none } (update L t { L t with sees := none }) := by
  have ⟨lock, slot, bound, taken, taker, took, cloned, counted, fixed, arc, inFlight⟩ := hands
  constructor <;> try simp only [Shared, view_frame, reduceCtorEq]
  all_goals try assumption
  all_goals try simp only [view_update]
  all_goals grind [Shared]

theorem Hands.take (hands : s.Hands L) (seen : (L t).sees = some (some x)) (empty : (L t).taken = none)
    (bare : (L t).clone = none) :
    Hands { s with slot := none } (update L t { L t with sees := some none, taken := some (x, .took) }) := by
  have ⟨lock, slot, bound, taken, taker, took, cloned, counted, fixed, arc, inFlight⟩ := hands
  constructor <;> try simp only [Shared, view_frame, reduceCtorEq, false_or]
  all_goals try assumption
  all_goals try simp only [view_update]
  all_goals grind [Shared]

theorem Hands.put_back (hands : s.Hands L) (mine : (L t).taken = some (x, .took)) :
    Hands { s with slot := some x } (update L t { L t with sees := some (some x), taken := none }) := by
  have ⟨lock, slot, bound, taken, taker, took, cloned, counted, fixed, arc, inFlight⟩ := hands
  have empty := slot t none (took t x mine).1
  constructor <;> try simp only [Shared, view_frame]
  all_goals try assumption
  all_goals try simp only [view_update]
  case installed =>
    intro y here
    cases here
    exact arc t x .took mine (by simp)
  all_goals grind [Shared]

theorem Record.take (record : s.Record L) (here : s.slot = some x)
    (nobody : ∀ t' y, (L t').taken ≠ some (y, .took)) :
    Record { s with slot := none } (update L t { L t with sees := some none, taken := some (x, .took) }) := by
  have ⟨took, current, named, installed, counted, admitted, stopped, legal⟩ := record
  constructor <;> try simp only [view_frame]
  all_goals try assumption
  all_goals try simp only [view_update]
  case current => exact fun untaken => absurd (if_pos rfl) (untaken t x)
  all_goals grind

theorem Record.put_back (record : s.Record L) (mine : (L t).taken = some (x, .took)) :
    Record { s with slot := some x } (update L t { L t with sees := some (some x), taken := none }) := by
  have ⟨took, current, named, installed, counted, admitted, stopped, legal⟩ := record
  constructor <;> try simp only [view_frame]
  all_goals try assumption
  all_goals try simp only [view_update]
  all_goals grind

theorem Hands.install {context : ContextRef} {plugin : UInt64} (hands : s.Hands L) (seen : (L t).sees = some none)
    (fresh : (L t).taken = none) :
    Hands { s with
      slot := some s.sessions
      session := update s.session s.sessions { plugin, context }
      sessions := s.sessions + 1
      history := .installed t s.sessions plugin :: s.history }
      (update L t { L t with sees := some (some s.sessions), own := .installed t s.sessions plugin :: (L t).own }) := by
  have ⟨lock, slot, bound, taken, taker, took, cloned, counted, fixed, arc, inFlight⟩ := hands
  have empty := slot t none seen
  constructor <;> try simp only [Shared, view_frame]
  all_goals try assumption
  all_goals try simp only [view_update]
  all_goals try simp only [update_apply]
  case installed =>
    intro y here
    cases here
    refine ⟨0, by simp, .of_none fun t' mine => ?_⟩
    have := cloned t' _ mine
    have := slot t'
    grind
  case inFlight =>
    intro y bound'
    by_cases new : y = s.sessions
    · subst new
      rw [if_pos rfl]
      exact .of_none fun t' mine => absurd (counted t' _ mine).1 (lt_irrefl _)
    · rw [if_neg new]
      exact inFlight y (by omega)
  all_goals grind [Shared]

theorem Record.install {context : ContextRef} {plugin : UInt64} (record : s.Record L) (empty : s.slot = none)
    (nobody : ∀ t' y, (L t').taken ≠ some (y, .took))
    (initialized : ∃ context, .created t context ∈ s.history ∧ .ended t (.initializePlugin context) .ok ∈ s.history) :
    Record { s with
      slot := some s.sessions
      session := update s.session s.sessions { plugin, context }
      sessions := s.sessions + 1
      history := .installed t s.sessions plugin :: s.history }
      (update L t { L t with sees := some (some s.sessions), own := .installed t s.sessions plugin :: (L t).own }) := by
  have ⟨took, current, named, installed, counted, admitted, stopped, legal⟩ := record
  constructor <;> try simp only [view_frame, List.mem_cons, reduceCtorEq, false_or]
  all_goals try assumption
  all_goals try simp only [update_apply]
  case named =>
    intro y bound
    by_cases new : y = s.sessions
    · exact ⟨t, .inl (by rw [if_pos new, new])⟩
    · obtain ⟨t', made⟩ := named y (by omega)
      exact ⟨t', .inr (by rwa [if_neg new])⟩
  case legal =>
    refine legal_cons legal ⟨(current nobody).trans empty, fun t' plugin made => ?_, initialized⟩
    exact absurd (installed t' _ plugin made) (lt_irrefl _)
  all_goals grind [installedSession]

theorem Shared.clone {y : SessionRef} (shared : s.Shared L y) (bare : (L t).clone = none) :
    (s.setSession x fun z => { z with strong := z.strong + 1 }).Shared
      (update L t { L t with clone := some x }) y := by
  obtain ⟨clones, size, census⟩ := shared
  simp only [Shared, setSession, view_update]
  simp only [update_apply]
  by_cases here : y = x
  · subst here
    refine ⟨clones + 1, by simp [size], census.join (by simp [bare] : ¬(L t).clone = some y) fun t' => ?_⟩
    grind
  · refine ⟨clones, by simp [here, size], census.congr fun t' => ?_⟩
    grind

theorem Shared.drop_clone {y : SessionRef} (shared : s.Shared L y) (mine : (L t).clone = some x) :
    (s.setSession x fun z => { z with strong := z.strong - 1 }).Shared
      (update L t { L t with clone := none }) y := by
  obtain ⟨clones, size, census⟩ := shared
  simp only [Shared, setSession, view_update]
  simp only [update_apply]
  by_cases here : y = x
  · subst here
    have left : ∀ t', (if t' = t then none else (L t').clone) = some y ↔ t' ≠ t ∧ (L t').clone = some y := by grind
    obtain ⟨others, rfl, rest⟩ := census.leave mine left
    exact ⟨others, by simp [size], rest⟩
  · refine ⟨clones, by simp [here, size], census.congr fun t' => ?_⟩
    grind

theorem Hands.clone (hands : s.Hands L) (seen : (L t).sees = some (some x)) (bare : (L t).clone = none) :
    Hands (s.setSession x fun y => { y with strong := y.strong + 1 }) (update L t { L t with clone := some x }) := by
  have ⟨lock, slot, bound, taken, taker, took, cloned, counted, fixed, arc, inFlight⟩ := hands
  constructor <;> try simp only [setSession, view_frame]
  all_goals try assumption
  all_goals try simp only [view_update]
  all_goals try simp only [update_apply]
  case installed => exact fun y here => (fixed y here).clone bare
  case arc => exact fun t' y stage there kept => (arc t' y stage there kept).clone bare
  all_goals grind

theorem Hands.drop_clone (hands : s.Hands L) (mine : (L t).clone = some x) :
    Hands (s.setSession x fun y => { y with strong := y.strong - 1 }) (update L t { L t with clone := none }) := by
  have ⟨lock, slot, bound, taken, taker, took, cloned, counted, fixed, arc, inFlight⟩ := hands
  constructor <;> try simp only [setSession, view_frame]
  all_goals try assumption
  all_goals try simp only [view_update]
  all_goals try simp only [update_apply]
  case installed => exact fun y here => (fixed y here).drop_clone mine
  case arc => exact fun t' y stage there kept => (arc t' y stage there kept).drop_clone mine
  all_goals grind

theorem Hands.admit_call (hands : s.Hands L) (seen : (L t).sees = some (some x)) (outside : (L t).counted = none) :
    Hands ((s.setSession x fun y => { y with inFlight := y.inFlight + 1 }).log (.admitted t x))
      (update L t { L t with counted := some x, own := .admitted t x :: (L t).own }) := by
  have ⟨lock, slot, bound, taken, taker, took, cloned, counted, fixed, arc, inFlight⟩ := hands
  constructor <;> try simp only [log, setSession, Shared, view_frame]
  all_goals try assumption
  all_goals try simp only [view_update]
  all_goals try simp only [update_apply]
  case inFlight =>
    intro y bound'
    by_cases here : y = x
    · subst here
      rw [if_pos rfl]
      exact (inFlight y bound').join (by simp [outside] : ¬(L t).counted = some y) fun t' => by grind
    · rw [if_neg here]
      exact (inFlight y bound').congr fun t' => by grind
  all_goals grind [Shared]

theorem Record.admit_call (record : s.Record L) (here : s.slot = some x) (bound : x < s.sessions) (outside : (L t).counted = none)
    (nobody : ∀ t' y, (L t').taken ≠ some (y, .took)) :
    Record ((s.setSession x fun y => { y with inFlight := y.inFlight + 1 }).log (.admitted t x))
      (update L t { L t with counted := some x, own := .admitted t x :: (L t).own }) := by
  have ⟨took, current, named, installed, counted, admitted, stopped, legal⟩ := record
  constructor <;> try simp only [log, setSession, view_frame, List.mem_cons, reduceCtorEq, false_or]
  all_goals try assumption
  all_goals try simp only [view_update]
  all_goals try simp only [update_apply]
  case legal => exact legal_cons legal ((current nobody).trans here)
  case admitted =>
    intro t' y old
    have := admitted t' y
    grind
  all_goals grind [installedSession]

theorem Hands.leave (hands : s.Hands L) (mine : (L t).counted = some x) (bare : (L t).clone = none)
    {inFlight : Nat} (size : (s.session x).inFlight = inFlight + 1) :
    Hands (s.setSession x fun y => { y with inFlight }) (update L t { L t with counted := none }) := by
  have ⟨lock, slot, bound, taken, taker, took, cloned, counted, fixed, arc, counts⟩ := hands
  constructor <;> try simp only [setSession, Shared, view_frame]
  all_goals try assumption
  all_goals try simp only [view_update]
  all_goals try simp only [update_apply]
  case inFlight =>
    intro y bound'
    by_cases here : y = x
    · subst here
      rw [if_pos rfl]
      have left : ∀ t', (if t' = t then none else (L t').counted) = some y ↔ t' ≠ t ∧ (L t').counted = some y := by
        grind
      obtain ⟨others, size', rest⟩ := (counts y bound').leave mine left
      rw [size, Nat.add_right_cancel_iff] at size'
      exact size' ▸ rest
    · rw [if_neg here]
      exact (counts y bound').congr fun t' => by grind
  all_goals grind [Shared]

theorem Record.leave (record : s.Record L) (mine : (L t).counted = some x)
    (heard : ∃ outcome, .ended t (.invoke x) outcome ∈ s.history) {inFlight : Nat} :
    Record (s.setSession x fun y => { y with inFlight }) (update L t { L t with counted := none }) := by
  have ⟨took, current, named, installed, counted, admitted, stopped, legal⟩ := record
  constructor <;> try simp only [setSession, view_frame]
  all_goals try assumption
  all_goals try simp only [view_update]
  all_goals try simp only [update_apply]
  all_goals grind

theorem Hands.close_gate (hands : s.Hands L) (mine : (L t).taken = some (x, .took)) :
    Hands ((s.setSession x fun y => { y with accepting := false }).log (.removed t x))
      (update L t { L t with taken := some (x, .closed), own := .removed t x :: (L t).own }) := by
  have ⟨lock, slot, bound, taken, taker, took, cloned, counted, fixed, arc, inFlight⟩ := hands
  constructor <;> try simp only [log, setSession, Shared, view_frame]
  all_goals try assumption
  all_goals try simp only [view_update]
  all_goals try simp only [update_apply]
  all_goals grind [Shared]

theorem Record.close_gate (record : s.Record L) (mine : (L t).taken = some (x, .took)) (empty : s.slot = none)
    (alone : ∀ t' y, (L t').taken = some (y, .took) → t' = t) :
    Record ((s.setSession x fun y => { y with accepting := false }).log (.removed t x))
      (update L t { L t with taken := some (x, .closed), own := .removed t x :: (L t).own }) := by
  have ⟨took, current, named, installed, counted, admitted, stopped, legal⟩ := record
  constructor <;> try simp only [log, setSession, view_frame, List.mem_cons, reduceCtorEq, false_or]
  all_goals try assumption
  all_goals try simp only [view_update]
  all_goals try simp only [update_apply]
  case legal => exact legal_cons legal (took t x mine)
  all_goals grind [installedSession]

theorem Hands.wait (hands : s.Hands L) (mine : (L t).taken = some (x, .closed))
    (quiet : (s.session x).inFlight = 0) :
    Hands s (update L t { L t with taken := some (x, .quiet) }) := by
  have ⟨lock, slot, bound, taken, taker, took, cloned, counted, fixed, arc, inFlight⟩ := hands
  have nobody := (quiet ▸ inFlight x (taken t x _ mine).1).nobody
  constructor <;> try simp only [Shared, view_frame]
  all_goals try assumption
  all_goals try simp only [view_update]
  all_goals grind [Shared]

theorem Record.advance (record : s.Record L) {stage stage' : ShutdownStage} (mine : (L t).taken = some (x, stage))
    (closed : stage ≠ .took) (closed' : stage' ≠ .took) :
    Record s (update L t { L t with taken := some (x, stage') }) := by
  have ⟨took, current, named, installed, counted, admitted, stopped, legal⟩ := record
  constructor <;> try simp only [view_frame]
  all_goals try assumption
  all_goals try simp only [view_update]
  all_goals grind

omit [DecidableEq Tid] in
theorem Hands.strong_eq_one (hands : s.Hands L) (mine : (L t).taken = some (x, .quiet)) :
    (s.session x).strong = 1 := by
  have ⟨lock, slot, bound, taken, taker, took, cloned, counted, fixed, arc, inFlight⟩ := hands
  obtain ⟨clones, size, census⟩ := arc t x .quiet mine (by simp)
  rw [size, census.eq_zero]
  intro t' clone
  have outside := (taken t x .quiet mine).2
  rcases cloned t' x clone with seen | inside
  · exact outside (slot t' _ seen)
  · rcases (counted t' x inside).2 with here | ⟨t'', stage, there, early⟩
    · exact outside here
    · cases taker t t'' x _ _ mine there
      grind

theorem Hands.unwrap (hands : s.Hands L) (mine : (L t).taken = some (x, .quiet)) :
    Hands (s.setSession x fun y => { y with strong := 0 })
      (update L t { L t with taken := some (x, .unwrapped) }) := by
  have ⟨lock, slot, bound, taken, taker, took, cloned, counted, fixed, arc, inFlight⟩ := hands
  constructor <;> try simp only [setSession, Shared, view_frame]
  all_goals try assumption
  all_goals try simp only [view_update]
  all_goals try simp only [update_apply]
  all_goals grind [Shared]

theorem Hands.begin_shutdown (hands : s.Hands L) (mine : (L t).taken = some (x, .unwrapped)) :
    Hands (s.log (.began t (.shutdown x)))
      (update L t { L t with taken := none, own := .began t (.shutdown x) :: (L t).own }) := by
  have ⟨lock, slot, bound, taken, taker, took, cloned, counted, fixed, arc, inFlight⟩ := hands
  constructor <;> try simp only [log, Shared, view_frame]
  all_goals try assumption
  all_goals try simp only [view_update]
  all_goals grind [Shared]

theorem Record.begin_shutdown (record : s.Record L) (hands : s.Hands L)
    (mine : (L t).taken = some (x, .unwrapped)) :
    Record (s.log (.began t (.shutdown x)))
      (update L t { L t with taken := none, own := .began t (.shutdown x) :: (L t).own }) := by
  have ⟨took, current, named, installed, counted, admitted, stopped, legal⟩ := record
  have outside := hands.taken t x _ mine
  have sole := hands.taker t
  have nobody : ∀ t', (L t').counted ≠ some x := by
    intro t' inside
    rcases (hands.counted t' x inside).2 with here | ⟨t'', stage, there, early⟩
    · exact outside.2 here
    · cases sole t'' x _ _ mine there
      grind
  constructor <;> try simp only [log, view_frame, List.mem_cons, reduceCtorEq, false_or]
  all_goals try assumption
  all_goals try simp only [view_update]
  case legal =>
    refine legal_cons legal ⟨fun t' began => (stopped t' x began).2.2 t _ mine, fun t' enrolled => ?_⟩
    exact (admitted t' x enrolled).2.resolve_left (nobody t')
  all_goals grind [installedSession]

omit [DecidableEq Tid] in
theorem Record.log (record : s.Record L) (event : SessionEvent Tid) (plain : event.Plain)
    (allowed : event.Permitted s.history) : (s.log event).Record L := by
  obtain ⟨took, current, named, installed, counted, admitted, stopped, legal⟩ := record
  have same := plain.installedSession_cons s.history
  constructor <;> simp only [Runtime.log, same, List.mem_cons]
  case legal => exact legal_cons legal allowed
  all_goals grind [SessionEvent.Plain]

theorem Scopes.new_context (scopes : s.Scopes L) :
    Scopes ({ s with contexts := s.contexts + 1, context := update s.context s.contexts {} }.log
      (.created t s.contexts))
      (update L t { L t with scope := .open s.contexts, own := .created t s.contexts :: (L t).own }) := by
  have ⟨created, scope, context, closing, quiesced, deactivated⟩ := scopes
  constructor <;> try simp only [log, List.mem_cons, reduceCtorEq, false_or]
  all_goals try simp only [view_update]
  all_goals try simp only [update_apply]
  case closing =>
    intro t' c there
    have := scope t' c
    grind [ContextPhase.context]
  case quiesced =>
    intro t' c there
    have := scope t' c
    grind [ContextPhase.context]
  all_goals grind [ContextPhase.context]

theorem Scopes.set_inactive {c : ContextRef} (scopes : s.Scopes L) (mine : (L t).scope = .open c) :
    Scopes { s with context := update s.context c { s.context c with active := false } }
      (update L t { L t with scope := .closing c }) := by
  have ⟨created, scope, context, closing, quiesced, deactivated⟩ := scopes
  constructor <;> try simp only
  all_goals try assumption
  all_goals try simp only [view_update]
  all_goals try simp only [update_apply]
  all_goals grind [ContextPhase.context]

theorem Scopes.quiesce {c : ContextRef} (scopes : s.Scopes L) (mine : (L t).scope = .closing c)
    (unused : (s.context c).inFlight = 0) : Scopes s (update L t { L t with scope := .quiesced c }) := by
  have ⟨created, scope, context, closing, quiesced, deactivated⟩ := scopes
  constructor <;> try simp only
  all_goals try assumption
  all_goals try simp only [view_update]
  case quiesced =>
    intro t' c' there
    by_cases here : t' = t
    · rw [if_pos here] at there
      cases there
      rw [← unused, ← closing t c mine]
    · rw [if_neg here] at there
      exact quiesced t' c' there
  all_goals grind [ContextPhase.context]

theorem Scopes.deactivate {c : ContextRef} (scopes : s.Scopes L) (mine : (L t).scope = .quiesced c) :
    Scopes (s.log (.deactivated t c)) (update L t { L t with own := .deactivated t c :: (L t).own }) := by
  have ⟨created, scope, context, closing, quiesced, deactivated⟩ := scopes
  constructor <;> try simp only [log, view_frame, List.mem_cons, reduceCtorEq, false_or]
  all_goals try assumption
  all_goals grind [ContextPhase.context]

theorem Scopes.install {c : ContextRef} {plugin : UInt64} (scopes : s.Scopes L) (mine : (L t).scope = .open c) :
    Scopes { s with
      slot := some s.sessions
      session := update s.session s.sessions { plugin, context := c }
      sessions := s.sessions + 1
      history := .installed t s.sessions plugin :: s.history }
      (update L t { L t with sees := some (some s.sessions), own := .installed t s.sessions plugin :: (L t).own }) := by
  have ⟨created, scope, context, closing, quiesced, deactivated⟩ := scopes
  constructor <;> try simp only [view_frame, List.mem_cons, reduceCtorEq, false_or]
  all_goals try assumption
  all_goals try simp only [update_apply]
  case context =>
    intro y bound
    by_cases new : y = s.sessions
    · rw [if_pos new]
      exact scope t c (by rw [mine]; rfl)
    · rw [if_neg new]
      exact context y (by omega)

theorem Scopes.check {plugin : UInt64} (scopes : s.Scopes L) (bound : x < s.sessions) :
    Scopes (s.log (.checked t x plugin))
      (update L t { L t with
        scope := .open (s.session x).context, own := .checked t x plugin :: (L t).own }) := by
  have ⟨created, scope, context, closing, quiesced, deactivated⟩ := scopes
  constructor <;> try simp only [log, List.mem_cons, reduceCtorEq, false_or]
  all_goals try assumption
  all_goals try simp only [view_update]
  all_goals grind [ContextPhase.context]

omit [DecidableEq Tid] in
theorem Scopes.env {c : ContextRef} {inFlight : Nat} (scopes : s.Scopes L)
    (allowed : (s.context c).active = true ∨ (s.context c).inFlight ≠ 0) :
    Scopes { s with context := update s.context c { s.context c with inFlight } } L := by
  obtain ⟨created, scope, context, closing, quiesced, deactivated⟩ := scopes
  constructor <;> try simp only [update_apply]
  all_goals try assumption
  all_goals grind

end Parts

end Runtime

end RuntimeHost.Sdk
