import RuntimeHost.Foundation.Index
import RuntimeHost.Java.Routing
import RuntimeHost.Jni.BindingSafety
import RuntimeHost.Stack.Hybrid

namespace RuntimeHost.Stack

open Foundation Function Java Native Jni System HybridProg

variable {Tid : Type} [DecidableEq Tid] {t : Tid}

abbrev Whole (Tid : Type) := RustRuntimeEngine × Bound Tid × List IsolatedRef

namespace Whole

def step (t : Tid) (x : Whole Tid) : (op : HybridOp) → op.Answer → Whole Tid → Prop
  | .self, answer, x' => answer = x.1 ∧ x' = x
  | .assign engine, _, x' => x' = (engine, x.2)
  | .embedded op, answer, x' => Bound.exec t op x.2.1 answer x'.2.1 ∧ x'.1 = x.1 ∧ x'.2.2 = x.2.2
  | .isolated call, answer, x' => x' = (x.1, x.2.1, closeThrew call answer ++ x.2.2)
  | _, _, _ => True

def monitor (Tid : Type) [DecidableEq Tid] : (Hybrid.system Tid).Monitor (Whole Tid) where
  owner s := s.monitor
  view s := (s.engine, s.bound, s.threw)
  enters op := op = .enterMonitor
  leaves op := op = .exitMonitor
  inner op := op ≠ .enterMonitor ∧ op ≠ .exitMonitor
  step := step
  enter t op s answer s' enters done := by
    subst enters
    obtain ⟨free, rfl⟩ := done
    exact ⟨free, rfl, rfl⟩
  leave t op s answer s' leaves done := by
    subst leaves
    obtain rfl : s' = _ := done
    exact ⟨rfl, rfl⟩
  inside t op s answer s' inner done := by
    cases op with
    | enterMonitor => exact absurd rfl inner.1
    | exitMonitor => exact absurd rfl inner.2
    | self =>
      obtain ⟨rfl, rfl⟩ := done
      exact ⟨rfl, rfl, rfl⟩
    | assign engine =>
      obtain rfl : s' = _ := done
      exact ⟨rfl, rfl⟩
    | embedded op =>
      obtain ⟨bound, done, rfl⟩ := done
      exact ⟨rfl, done, rfl, rfl⟩
    | isolated call =>
      obtain rfl : s' = _ := done
      exact ⟨rfl, rfl⟩
  start t task s s' begun := by
    obtain rfl : s' = s := begun
    exact ⟨rfl, rfl⟩
  finish t task result s s' ended := by
    obtain rfl : s' = s := ended
    exact ⟨rfl, rfl⟩
  env s s' moved := moved.elim

end Whole

def nativeId : PayloadBackend → Option String
  | .embedded nativePayloadId => some nativePayloadId
  | .isolated _ => none

/-- What the fields of the router say about the Java engine beneath it. -/
structure Agrees (engine : RustRuntimeEngine) (native : RustNativeEngine) (threw : List IsolatedRef) : Prop where
  keys : ∀ payloadId, (engine.payloads.get payloadId).isSome → ∃ n, payloadId = longToString n ∧ Passed engine.nextPayloadId n
  indexes : Indexes engine.payloads.get nativeId (fun nativePayloadId => (native.payloadSessions nativePayloadId).isSome)
  closed : engine.closed = true →
    (∃ payloadId payload, engine.payloads.get payloadId = some (.isolated payload) ∧ payload ∈ threw) ∨ native.closed = true

namespace Agrees

variable {engine : RustRuntimeEngine} {native native' : RustNativeEngine} {payloadId nativePayloadId : String}
  {payload : IsolatedRef} {backend : PayloadBackend} {threw threw' : List IsolatedRef}

theorem initial : Agrees {} {} [] :=
  ⟨nofun, Indexes.empty.congr fun _ => ⟨nofun, nofun⟩, nofun⟩

theorem keep (agrees : Agrees engine native threw) (opened : engine.closed = false)
    (same : native'.payloadSessions = native.payloadSessions) : Agrees engine native' threw' := by
  refine ⟨agrees.keys, ?_, fun closed => absurd (opened.symm.trans closed) Bool.false_ne_true⟩
  rw [same]
  exact agrees.indexes

theorem advance {next : Int64} (agrees : Agrees engine native threw) (passes : ∀ n, Passed engine.nextPayloadId n → Passed next n) :
    Agrees { engine with nextPayloadId := next } native threw := by
  refine ⟨fun payloadId listed => ?_, agrees.indexes, agrees.closed⟩
  obtain ⟨n, same, passed⟩ := agrees.keys payloadId listed
  exact ⟨n, same, passes n passed⟩

theorem unused (agrees : Agrees engine native threw) (positive : 0 < engine.nextPayloadId) :
    engine.payloads.get (longToString engine.nextPayloadId) = none := by
  rw [← Option.not_isSome_iff_eq_none]
  intro listed
  obtain ⟨n, same, passed⟩ := agrees.keys _ listed
  obtain rfl := longToString_inj positive passed.1 same
  exact not_passed_self positive passed

def extended (engine : RustRuntimeEngine) (backend : PayloadBackend) : RustRuntimeEngine :=
  { engine with
    nextPayloadId := successorId engine.nextPayloadId
    payloads := engine.payloads.put (longToString engine.nextPayloadId) backend }

theorem extend (agrees : Agrees engine native threw) (positive : 0 < engine.nextPayloadId) (opened : engine.closed = false)
    (fresh : ∀ nativePayloadId, nativeId backend = some nativePayloadId → native.payloadSessions nativePayloadId = none)
    (added : ∀ nativePayloadId, (native'.payloadSessions nativePayloadId).isSome ↔
      nativeId backend = some nativePayloadId ∨ (native.payloadSessions nativePayloadId).isSome) :
    Agrees (extended engine backend) native' threw' := by
  refine ⟨fun payloadId listed => ?_, ?_, fun closed => absurd (opened.symm.trans closed) Bool.false_ne_true⟩
  · simp only [extended, get_put, update_apply] at listed ⊢
    split at listed
    · rename_i same
      exact ⟨_, same, passed_successorId positive⟩
    · obtain ⟨n, same, passed⟩ := agrees.keys payloadId listed
      exact ⟨n, same, passed.mono positive⟩
  · have inserted := agrees.indexes.insert (agrees.unused positive) fun nativePayloadId same => by
      rw [fresh nativePayloadId same]
      exact Bool.false_ne_true
    rw [← get_put] at inserted
    exact inserted.congr added

def without (engine : RustRuntimeEngine) (payloadId : String) : RustRuntimeEngine :=
  { engine with payloads := engine.payloads.remove payloadId }

theorem drop (agrees : Agrees engine native threw) (opened : engine.closed = false)
    (behind : engine.payloads.get payloadId = some backend)
    (dropped : ∀ nativePayloadId, (native'.payloadSessions nativePayloadId).isSome ↔
      nativeId backend ≠ some nativePayloadId ∧ (native.payloadSessions nativePayloadId).isSome) :
    Agrees (without engine payloadId) native' threw' := by
  refine ⟨fun payloadId' listed => ?_, ?_, fun closed => absurd (opened.symm.trans closed) Bool.false_ne_true⟩
  · simp only [without, get_remove, update_apply] at listed ⊢
    split at listed
    · cases listed
    · exact agrees.keys payloadId' listed
  · have erased := agrees.indexes.erase behind
    rw [← get_remove] at erased
    exact erased.congr dropped

theorem strand (agrees : Agrees engine native threw) (stranded : engine.payloads.get payloadId = some (.isolated payload))
    (failed : payload ∈ threw') : Agrees { engine with closed := true } native threw' :=
  ⟨agrees.keys, agrees.indexes, fun _ => .inl ⟨payloadId, payload, stranded, failed⟩⟩

theorem shut (closed : native.closed = true) (emptied : native.payloadSessions = fun _ => none) :
    Agrees { engine with closed := true, payloads := .empty } native threw := by
  refine ⟨nofun, Indexes.empty.congr fun nativePayloadId => ?_, fun _ => .inr closed⟩
  rw [emptied]
  exact ⟨nofun, nofun⟩

end Agrees

section Rules

variable {α β : Type} {x : Whole Tid}

def Sound (x : Whole Tid) : Prop := Joint.Held ((Joint.monitor Tid).view x.2.1)

structure Calm (s : Bound Tid) : Prop where
  free : s.java.monitor = none
  rests : Joint.Rests ((Joint.monitor Tid).view s)

structure Rests (x : Whole Tid) : Prop where
  calm : Calm x.2.1
  agrees : Agrees x.1 x.2.1.java.engine x.2.2

abbrev Runs (t : Tid) (post : α → Whole Tid → Prop) (p : BackendProg α) (x : Whole Tid) : Prop :=
  (Whole.monitor Tid).Inside t Sound post (p.handle backends) x

theorem Calm.sound (calm : Calm x.2.1) : Sound x := calm.rests.held

theorem Runs.bind {post : β → Whole Tid → Prop} {p : BackendProg α} {f : α → BackendProg β}
    (runs : Runs t (fun a x' => Runs t post (f a) x') p x) : Runs t post (p >>= f) x := by
  unfold Runs
  rw [Prog.handle_bind]
  exact Monitor.Inside.bind runs

end Rules

section Methods

open BackendProg

variable {α : Type} {engine : RustRuntimeEngine}

def Settles (t : Tid) (engine : RustRuntimeEngine) (p : BackendProg (Except Throwable α × RustRuntimeEngine)) : Prop :=
  ∀ s, Rests (engine, s) → Runs t (fun outcome x' => x'.1 = engine ∧ Rests (outcome.2, x'.2)) p (engine, s)

end Methods

section Loaded

end Loaded

end RuntimeHost.Stack
