import RuntimeHost.Java.RuntimeEngine
import RuntimeHost.Java.SessionTables

namespace RuntimeHost.Java

open Foundation Function

def RuntimeTask.asks : RuntimeTask → Option (String × PayloadRequest)
  | .enablePayload payloadId => some (payloadId, .enable)
  | .disablePayload payloadId => some (payloadId, .disable)
  | .invokePayload payloadId operation input callbackId timeout =>
    some (payloadId, .invoke operation input callbackId (timeout.getD defaultInvocationTimeout))
  | .unloadPayload payloadId => some (payloadId, .unload)
  | _ => none

def PayloadRequest.Timely : PayloadRequest → Prop
  | .invoke _ _ _ timeout => 0 < timeout
  | _ => True

def BackendStep.created : BackendStep → Option PayloadBackend
  | ⟨.loadEmbedded _, .ok (native : Option String)⟩ => native.map .embedded
  | ⟨.startIsolated _, .ok (payload : Option IsolatedRef)⟩ => payload.map .isolated
  | _ => none

def RuntimeCall.loaded : RuntimeCall → Option String
  | ⟨.loadPayload _, _, .ok (.payloadId payloadId)⟩ => some payloadId
  | _ => none

/-- Which payloads are live after these calls, and what stands behind each: the backend that its load created, until an
embedded payload has been unloaded, an isolated one has been asked to shut down, or the engine has been closed. -/
def routes : List RuntimeCall → String → Option PayloadBackend
  | [] => fun _ => none
  | ⟨.loadPayload _, steps, .ok (.payloadId payloadId)⟩ :: earlier =>
    update (routes earlier) payloadId (steps.findSome? BackendStep.created)
  | ⟨.unloadPayload payloadId, _, result⟩ :: earlier =>
    match routes earlier payloadId, result with
    | some (.embedded _), .error _ => routes earlier
    | _, _ => update (routes earlier) payloadId none
  | ⟨.close, _, _⟩ :: _ => fun _ => none
  | _ :: earlier => routes earlier

structure Routed (calls : List RuntimeCall) (engine : RustRuntimeEngine) : Prop where
  fresh : (calls.filterMap RuntimeCall.loaded).Nodup
  live : ∀ payloadId backend, engine.requireBackend payloadId = .ok backend ↔ routes calls payloadId = some backend
  reaches : ∀ (task : RuntimeTask) payloadId (request : PayloadRequest) steps result engine',
    task.asks = some (payloadId, request) → request.Timely →
    (task.run engine).Yields steps (result, engine') →
      steps.map Sigma.fst = ((routes calls payloadId).map fun backend => .ask backend request).toList
  late : ∀ (task : RuntimeTask) payloadId (request : PayloadRequest) steps result engine',
    task.asks = some (payloadId, request) → ¬request.Timely → (task.run engine).Yields steps (result, engine') → steps = []
  unknown : ∀ (task : RuntimeTask) payloadId request steps result engine',
    task.asks = some (payloadId, request) → routes calls payloadId = none → (task.run engine).Yields steps (result, engine') →
      steps = [] ∧ engine' = engine ∧ ∃ message, result = .error (.ioException message)
  failed : ∀ context steps thrown engine', (engine.loadPayload context).Yields steps (.error thrown, engine') →
    engine'.payloads = engine.payloads

section Numbers

theorem longToString_of_pos {i : Int64} (positive : 0 < i) : longToString i = toUnsignedString i := by
  have nonneg : 0 ≤ i.toInt := (Int64.le_iff_toInt_le.mp (Int64.le_of_lt positive))
  have number : i.toInt = (i.toUInt64.toNat : Int) := by
    rw [Int64.toNat_toUInt64_of_le (Int64.le_of_lt positive)]
    exact (Int.toNat_of_nonneg nonneg).symm
  unfold longToString toUnsignedString
  rw [number]
  rfl

theorem longToString_inj {i j : Int64} (positive : 0 < i) (positive' : 0 < j) (same : longToString i = longToString j) :
    i = j := by
  rw [longToString_of_pos positive, longToString_of_pos positive'] at same
  exact toUnsignedString_inj.mp same

def Passed (next n : Int64) : Prop := 0 < n ∧ (next ≤ 0 ∨ n < next)

def successorId (n : Int64) : Int64 := if n = Int64.maxValue then 0 else n + 1

theorem passed_successorId {n : Int64} (positive : 0 < n) : Passed (successorId n) n := by
  unfold successorId
  split
  · exact ⟨positive, .inl (Int64.le_refl 0)⟩
  · rename_i inside
    exact ⟨positive, .inr (next_session (not_or.mpr ⟨Int64.not_le.mpr positive, inside⟩)).1⟩

theorem Passed.mono {n m : Int64} (passed : Passed n m) (positive : 0 < n) : Passed (successorId n) m := by
  obtain ⟨positive', earlier⟩ := passed
  have before : m < n := earlier.resolve_left (by simpa using positive)
  obtain ⟨-, reached⟩ := passed_successorId positive
  exact ⟨positive', reached.imp_right fun later => Int64.lt_trans before later⟩

end Numbers

inductive Loads (engine : RustRuntimeEngine) (steps : List BackendStep) :
    Except Throwable String → RustRuntimeEngine → Prop
  | failed {thrown next} (passes : ∀ n, Passed engine.nextPayloadId n → Passed next n) :
    Loads engine steps (.error thrown) { engine with nextPayloadId := next }
  | loaded {backend} (opened : engine.closed = false) (positive : 0 < engine.nextPayloadId)
    (created : steps.findSome? BackendStep.created = some backend) :
    Loads engine steps (.ok (longToString engine.nextPayloadId)) { engine with
      nextPayloadId := successorId engine.nextPayloadId
      payloads := engine.payloads.put (longToString engine.nextPayloadId) backend }

section Specifications

variable {engine engine' : RustRuntimeEngine} {steps : List BackendStep}

theorem openBackend_created {context : RuntimePayloadContext} {backend : PayloadBackend}
    (ran : (RustRuntimeEngine.openBackend context).Yields steps (.ok backend)) :
    steps.findSome? BackendStep.created = some backend := by
  unfold RustRuntimeEngine.openBackend at ran
  split at ran
  · obtain ⟨answer, later, rfl, rest⟩ := ran
    rcases (answer : Except Throwable (Option String)) with thrown | (_ | nativePayloadId)
    · cases rest.2
    · cases rest.2
    · obtain ⟨rfl, same⟩ := rest
      cases same
      rfl
  · obtain ⟨answer, later, rfl, rest⟩ := ran
    rcases (answer : Except Throwable (Option IsolatedRef)) with thrown | (_ | payload)
    · cases rest.2
    · cases rest.2
    · obtain ⟨rfl, same⟩ := rest
      cases same
      rfl

theorem loadPayload_loads {context : RuntimePayloadContext} {result : Except Throwable String}
    (ran : (engine.loadPayload context).Yields steps (result, engine')) : Loads engine steps result engine' := by
  unfold RustRuntimeEngine.loadPayload at ran
  cases required : engine.requireOpen with
  | error thrown =>
    rw [required] at ran
    cases ran.2
    exact .failed fun n => id
  | ok =>
    rw [required] at ran
    have opened : engine.closed = false := by
      unfold RustRuntimeEngine.requireOpen at required
      simpa using required
    by_cases positive : 0 < engine.nextPayloadId
    · have allocated : engine.allocatePayloadId = .ok (longToString engine.nextPayloadId,
          { engine with nextPayloadId := successorId engine.nextPayloadId }) :=
        if_neg (Int64.not_le.mpr positive)
      rw [allocated] at ran
      obtain ⟨first, _, outcome, rfl, left, right⟩ := Prog.yields_bind.mp ran
      cases outcome with
      | error thrown =>
        obtain ⟨rfl, same⟩ := right
        cases same
        exact .failed fun n passed => passed.mono positive
      | ok backend =>
        obtain ⟨rfl, same⟩ := right
        cases same
        rw [List.append_nil]
        exact .loaded opened positive (openBackend_created left)
    · have exhausted : engine.allocatePayloadId =
          .error (.ioException "Rust Runtime Host payload ID space is exhausted") :=
        if_pos (Int64.not_lt.mp positive)
      rw [exhausted] at ran
      cases ran.2
      exact .failed fun n => id

theorem requireBackend_eq_ok_iff {payloadId : String} {backend : PayloadBackend} :
    engine.requireBackend payloadId = .ok backend ↔
      engine.closed = false ∧ engine.payloads.get payloadId = some backend := by
  unfold RustRuntimeEngine.requireBackend RustRuntimeEngine.requireOpen
  cases engine.closed <;> cases engine.payloads.get payloadId <;> simp [bind, Except.bind]

theorem requireBackend_error {payloadId : String}
    (missing : ∀ backend, engine.requireBackend payloadId ≠ .ok backend) :
    ∃ message, engine.requireBackend payloadId = .error (.ioException message) := by
  unfold RustRuntimeEngine.requireBackend RustRuntimeEngine.requireOpen at missing ⊢
  cases closed : engine.closed <;> cases got : engine.payloads.get payloadId <;>
    simp [closed, got, bind, Except.bind] at missing ⊢

theorem forward_asks {payloadId : String} {request : PayloadRequest} {result : Except Throwable request.Returns}
    (ran : (engine.forward payloadId request).Yields steps (result, engine')) : engine' = engine ∧
      ((∃ backend answer, engine.requireBackend payloadId = .ok backend ∧ steps = [⟨.ask backend request, answer⟩]) ∨
        ∃ message, engine.requireBackend payloadId = .error (.ioException message) ∧ steps = [] ∧
          result = .error (.ioException message)) := by
  unfold RustRuntimeEngine.forward at ran
  cases required : engine.requireBackend payloadId with
  | error thrown =>
    obtain ⟨message, same⟩ : ∃ message, engine.requireBackend payloadId = .error (.ioException message) :=
      requireBackend_error (by simp [required])
    rw [required] at ran same
    cases same
    obtain ⟨rfl, same⟩ := ran
    cases same
    exact ⟨rfl, .inr ⟨message, rfl, rfl, rfl⟩⟩
  | ok backend =>
    rw [required] at ran
    obtain ⟨answer, _, rfl, rfl, same⟩ := ran
    cases same
    exact ⟨rfl, .inl ⟨backend, result, rfl, rfl⟩⟩

theorem invokePayload_late {payloadId operation : String} {input : List UInt8} {callbackId : Int64} {timeout : Duration}
    (late : timeout ≤ 0) : engine.invokePayload payloadId operation input callbackId timeout =
      .done (.error (.ioException "Rust payload invocation timeout must be positive"), engine) := if_pos late

theorem invokePayload_timely {payloadId operation : String} {input : List UInt8} {callbackId : Int64} {timeout : Duration}
    (timely : ¬timeout ≤ 0) : engine.invokePayload payloadId operation input callbackId timeout =
      engine.forward payloadId (.invoke operation input callbackId timeout) := if_neg timely

def Goes : PayloadBackend → Except Throwable Unit → Prop
  | .embedded _, result => result = .ok ()
  | .isolated _, _ => True

theorem unloadPayload_asks {payloadId : String} {result : Except Throwable Unit}
    (ran : (engine.unloadPayload payloadId).Yields steps (result, engine')) :
    (∃ backend answer, engine.requireBackend payloadId = .ok backend ∧ steps = [⟨.ask backend .unload, answer⟩] ∧
      ((Goes backend result ∧ engine' = { engine with payloads := engine.payloads.remove payloadId }) ∨
        (¬Goes backend result ∧ engine' = engine))) ∨
      ∃ message, engine.requireBackend payloadId = .error (.ioException message) ∧ steps = [] ∧
        result = .error (.ioException message) ∧ engine' = engine := by
  unfold RustRuntimeEngine.unloadPayload at ran
  cases required : engine.requireBackend payloadId with
  | error thrown =>
    obtain ⟨message, same⟩ : ∃ message, engine.requireBackend payloadId = .error (.ioException message) :=
      requireBackend_error (by simp [required])
    rw [required] at ran same
    cases same
    obtain ⟨rfl, same⟩ := ran
    cases same
    exact .inr ⟨message, rfl, rfl, rfl, rfl⟩
  | ok backend =>
    rw [required] at ran
    refine .inl ⟨backend, ?_⟩
    cases backend with
    | embedded nativePayloadId =>
      obtain ⟨answer, _, rfl, rest⟩ := ran
      refine ⟨answer, rfl, ?_⟩
      rcases (answer : Except Throwable Unit) with thrown | _
      · obtain ⟨rfl, same⟩ := rest
        cases same
        exact ⟨rfl, .inr ⟨(by simp [Goes]), rfl⟩⟩
      · obtain ⟨rfl, same⟩ := rest
        cases same
        exact ⟨rfl, .inl ⟨rfl, rfl⟩⟩
    | isolated payload =>
      obtain ⟨answer, _, rfl, rfl, same⟩ := ran
      cases same
      exact ⟨result, rfl, rfl, .inl ⟨trivial, rfl⟩⟩

theorem yields_map {α : Type} {p : BackendProg (Except Throwable α × RustRuntimeEngine)} {f : α → JavaValue}
    {result : Except Throwable JavaValue}
    (ran : (p >>= fun outcome => .done (outcome.map (Except.map f) id)).Yields steps (result, engine')) :
    ∃ outcome, p.Yields steps (outcome, engine') ∧ result = outcome.map f := by
  obtain ⟨first, _, ⟨outcome, after⟩, rfl, left, rfl, same⟩ := Prog.yields_bind.mp ran
  cases same
  rw [List.append_nil]
  exact ⟨outcome, left, rfl⟩

theorem asks_of_run {task : RuntimeTask} {payloadId : String} {request : PayloadRequest}
    {result : Except Throwable JavaValue} (asks : task.asks = some (payloadId, request))
    (ran : (task.run engine).Yields steps (result, engine')) :
    (request.Timely ∧ ∃ backend answer, engine.requireBackend payloadId = .ok backend ∧
      steps = [⟨.ask backend request, answer⟩]) ∨
      ((request.Timely → ∃ message, engine.requireBackend payloadId = .error (.ioException message)) ∧
        steps = [] ∧ engine' = engine ∧ ∃ message, result = .error (.ioException message)) := by
  cases task <;> simp only [RuntimeTask.asks, Option.some.injEq, Prod.mk.injEq, reduceCtorEq] at asks
  case enablePayload =>
    obtain ⟨rfl, rfl⟩ := asks
    obtain ⟨outcome, asked, rfl⟩ := yields_map ran
    obtain ⟨rfl, ⟨backend, answer, live, made⟩ | ⟨message, missing, none, rfl⟩⟩ := forward_asks asked
    · exact .inl ⟨trivial, backend, answer, live, made⟩
    · exact .inr ⟨fun _ => ⟨message, missing⟩, none, rfl, message, rfl⟩
  case disablePayload =>
    obtain ⟨rfl, rfl⟩ := asks
    obtain ⟨outcome, asked, rfl⟩ := yields_map ran
    obtain ⟨rfl, ⟨backend, answer, live, made⟩ | ⟨message, missing, none, rfl⟩⟩ := forward_asks asked
    · exact .inl ⟨trivial, backend, answer, live, made⟩
    · exact .inr ⟨fun _ => ⟨message, missing⟩, none, rfl, message, rfl⟩
  case invokePayload operation input callbackId timeout =>
    obtain ⟨rfl, rfl⟩ := asks
    obtain ⟨outcome, asked, rfl⟩ := yields_map ran
    by_cases late : timeout.getD defaultInvocationTimeout ≤ 0
    · rw [invokePayload_late late] at asked
      obtain ⟨rfl, same⟩ := asked
      cases same
      exact .inr ⟨fun timely => absurd timely (not_lt.mpr late), rfl, rfl, _, rfl⟩
    · rw [invokePayload_timely late] at asked
      obtain ⟨rfl, ⟨backend, answer, live, made⟩ | ⟨message, missing, none, rfl⟩⟩ := forward_asks asked
      · exact .inl ⟨not_le.mp late, backend, answer, live, made⟩
      · exact .inr ⟨fun _ => ⟨message, missing⟩, none, rfl, message, rfl⟩
  case unloadPayload =>
    obtain ⟨rfl, rfl⟩ := asks
    obtain ⟨outcome, asked, rfl⟩ := yields_map ran
    obtain ⟨backend, answer, live, made, -⟩ | ⟨message, missing, none, rfl, rfl⟩ := unloadPayload_asks asked
    · exact .inl ⟨trivial, backend, answer, live, made⟩
    · exact .inr ⟨fun _ => ⟨message, missing⟩, none, rfl, message, rfl⟩

theorem initializeEngine_keeps {result : Except Throwable Unit}
    (ran : engine.initializeEngine.Yields steps (result, engine')) : engine' = engine := by
  unfold RustRuntimeEngine.initializeEngine at ran
  split at ran
  · cases ran.2
    rfl
  · obtain ⟨answer, _, -, rfl, same⟩ := ran
    cases same
    rfl

theorem healthCheck_keeps {result : Except Throwable Bool}
    (ran : engine.healthCheck.Yields steps (result, engine')) : engine' = engine := by
  unfold RustRuntimeEngine.healthCheck at ran
  split at ran
  · cases ran.2
    rfl
  · obtain ⟨answer, _, -, rfl, same⟩ := ran
    cases same
    rfl

theorem invokePayload_keeps {payloadId operation : String} {input : List UInt8} {callbackId : Int64} {timeout : Duration}
    {result : Except Throwable (List UInt8)}
    (ran : (engine.invokePayload payloadId operation input callbackId timeout).Yields steps (result, engine')) :
    engine' = engine := by
  by_cases late : timeout ≤ 0
  · rw [invokePayload_late late] at ran
    cases ran.2
    rfl
  · rw [invokePayload_timely late] at ran
    exact (forward_asks ran).1

theorem close_closes {result : Except Throwable Unit} (ran : engine.close.Yields steps (result, engine')) :
    engine'.closed = true ∧ engine'.nextPayloadId = engine.nextPayloadId := by
  unfold RustRuntimeEngine.close at ran
  split at ran
  · rename_i closed
    cases ran.2
    exact ⟨closed, rfl⟩
  · obtain ⟨first, second, outcome, rfl, left, right⟩ := Prog.yields_bind.mp ran
    cases outcome with
    | error thrown =>
      cases right.2
      exact ⟨rfl, rfl⟩
    | ok =>
      obtain ⟨answer, _, -, rfl, same⟩ := right
      cases same
      exact ⟨rfl, rfl⟩

end Specifications

structure RouteInv (calls : List RuntimeCall) (engine : RustRuntimeEngine) : Prop where
  nodup : (calls.filterMap RuntimeCall.loaded).Nodup
  passed : ∀ payloadId ∈ calls.filterMap RuntimeCall.loaded,
    ∃ n, payloadId = longToString n ∧ Passed engine.nextPayloadId n
  table : engine.closed = false → engine.payloads.get = routes calls
  shut : engine.closed = true → routes calls = fun _ => none

section Invariant

variable {calls : List RuntimeCall} {call : RuntimeCall} {engine engine' : RustRuntimeEngine} {steps : List BackendStep}
  {payloadId : String} {backend : PayloadBackend}

theorem RouteInv.keep (inv : RouteInv calls engine) (quiet : call.loaded = none)
    (same : routes (call :: calls) = routes calls) : RouteInv (call :: calls) engine := by
  have ids : (call :: calls).filterMap RuntimeCall.loaded = calls.filterMap RuntimeCall.loaded :=
    List.filterMap_cons_none quiet
  refine ⟨?_, ?_, ?_, ?_⟩
  · rw [ids]
    exact inv.nodup
  · rw [ids]
    exact inv.passed
  · rw [same]
    exact inv.table
  · rw [same]
    exact inv.shut

theorem RouteInv.advance {next : Int64} (inv : RouteInv calls engine)
    (passes : ∀ n, Passed engine.nextPayloadId n → Passed next n) :
    RouteInv calls { engine with nextPayloadId := next } := by
  refine ⟨inv.nodup, ?_, inv.table, inv.shut⟩
  intro payloadId listed
  obtain ⟨n, same, passed⟩ := inv.passed payloadId listed
  exact ⟨n, same, passes n passed⟩

theorem not_passed_self {n : Int64} (positive : 0 < n) : ¬Passed n n := by
  rintro ⟨-, exhausted | later⟩
  · exact Int64.not_le.mpr positive exhausted
  · exact Int64.lt_irrefl later

theorem RouteInv.fresh (inv : RouteInv calls engine) (positive : 0 < engine.nextPayloadId) :
    longToString engine.nextPayloadId ∉ calls.filterMap RuntimeCall.loaded := by
  intro listed
  obtain ⟨n, same, passed⟩ := inv.passed _ listed
  obtain rfl := longToString_inj positive passed.1 same
  exact not_passed_self positive passed

theorem get_put : (engine.payloads.put payloadId backend).get = update engine.payloads.get payloadId (some backend) := by
  funext payloadId'
  by_cases here : payloadId' = payloadId
  · subst here
    rw [LinkedMap.get_put_self, update_self]
  · rw [LinkedMap.get_put_ne here, update_of_ne here]

theorem get_remove : (engine.payloads.remove payloadId).get = update engine.payloads.get payloadId none := by
  funext payloadId'
  by_cases here : payloadId' = payloadId
  · subst here
    rw [LinkedMap.get_remove_self, update_self]
  · rw [LinkedMap.get_remove_ne here, update_of_ne here]

theorem RouteInv.load {context : RuntimePayloadContext} {result : Except Throwable String} (inv : RouteInv calls engine)
    (loads : Loads engine steps result engine') :
    RouteInv (⟨.loadPayload context, steps, result.map .payloadId⟩ :: calls) engine' := by
  cases loads with
  | failed passes => exact (inv.advance passes).keep rfl rfl
  | loaded opened positive created =>
    rename_i backend
    refine ⟨List.nodup_cons.mpr ⟨inv.fresh positive, inv.nodup⟩, ?_, ?_, ?_⟩
    · intro payloadId listed
      rcases List.mem_cons.mp listed with rfl | before
      · exact ⟨_, rfl, passed_successorId positive⟩
      · obtain ⟨n, same, passed⟩ := inv.passed payloadId before
        exact ⟨n, same, passed.mono positive⟩
    · intro _
      rw [get_put, inv.table opened, ← created]
      rfl
    · intro closed
      simp [opened] at closed

theorem requireBackend_eq_ok_iff_routes (inv : RouteInv calls engine) :
    engine.requireBackend payloadId = .ok backend ↔ routes calls payloadId = some backend := by
  rw [requireBackend_eq_ok_iff]
  cases closed : engine.closed with
  | false => simp [inv.table closed]
  | true => simp [inv.shut closed]

theorem RouteInv.unrouted {message : String} (inv : RouteInv calls engine)
    (missing : engine.requireBackend payloadId = .error (.ioException message)) : routes calls payloadId = none := by
  refine Option.eq_none_iff_forall_ne_some.mpr fun backend routed => ?_
  rw [(requireBackend_eq_ok_iff_routes inv).mpr routed] at missing
  cases missing

theorem RouteInv.unload {result : Except Throwable Unit} (inv : RouteInv calls engine)
    (ran : (engine.unloadPayload payloadId).Yields steps (result, engine')) :
    RouteInv (⟨.unloadPayload payloadId, steps, result.map fun _ => .unit⟩ :: calls) engine' := by
  rcases unloadPayload_asks ran with ⟨backend, answer, live, -, after⟩ | ⟨message, missing, -, rfl, rfl⟩
  · have opened := (requireBackend_eq_ok_iff.mp live).1
    have routed := (requireBackend_eq_ok_iff_routes inv).mp live
    rcases after with ⟨goes, rfl⟩ | ⟨stays, rfl⟩
    · have gone : routes (⟨.unloadPayload payloadId, steps, result.map fun _ => .unit⟩ :: calls) =
          update (routes calls) payloadId none := by
        cases backend with
        | embedded nativePayloadId =>
          cases (goes : result = .ok ())
          simp only [routes, routed, Except.map]
        | isolated payload => simp only [routes, routed]
      refine ⟨inv.nodup, inv.passed, ?_, ?_⟩
      · intro _
        rw [gone, get_remove, inv.table opened]
      · intro closed
        simp [opened] at closed
    · refine inv.keep rfl ?_
      cases backend with
      | embedded nativePayloadId =>
        cases result with
        | error thrown => simp only [routes, routed, Except.map]
        | ok => exact absurd rfl stays
      | isolated payload => exact absurd trivial stays
  · refine inv.keep rfl ?_
    have unrouted := inv.unrouted missing
    simp only [routes, unrouted]
    exact update_eq_self_iff.mpr unrouted.symm

theorem RouteInv.step {task : RuntimeTask} {result : Except Throwable JavaValue} (inv : RouteInv calls engine)
    (ran : (task.run engine).Yields steps (result, engine')) : RouteInv (⟨task, steps, result⟩ :: calls) engine' := by
  cases task with
  | initializeEngine =>
    obtain ⟨outcome, left, rfl⟩ := yields_map ran
    obtain rfl := initializeEngine_keeps left
    exact inv.keep rfl rfl
  | healthCheck =>
    obtain ⟨outcome, left, rfl⟩ := yields_map ran
    obtain rfl := healthCheck_keeps left
    exact inv.keep rfl rfl
  | loadPayload context =>
    obtain ⟨outcome, left, rfl⟩ := yields_map ran
    exact inv.load (loadPayload_loads left)
  | enablePayload payloadId =>
    obtain ⟨outcome, left, rfl⟩ := yields_map ran
    obtain rfl := (forward_asks left).1
    exact inv.keep rfl rfl
  | disablePayload payloadId =>
    obtain ⟨outcome, left, rfl⟩ := yields_map ran
    obtain rfl := (forward_asks left).1
    exact inv.keep rfl rfl
  | invokePayload payloadId operation input callbackId timeout =>
    obtain ⟨outcome, left, rfl⟩ := yields_map ran
    obtain rfl := invokePayload_keeps left
    exact inv.keep rfl rfl
  | unloadPayload payloadId =>
    obtain ⟨outcome, left, rfl⟩ := yields_map ran
    exact inv.unload left
  | close =>
    obtain ⟨outcome, left, rfl⟩ := yields_map ran
    obtain ⟨closed, unmoved⟩ := close_closes left
    refine ⟨inv.nodup, ?_, ?_, ?_⟩
    · rw [unmoved]
      exact inv.passed
    · intro opened
      simp [closed] at opened
    · intro _
      rfl

theorem routeInv_of_uses (uses : Uses calls engine) : RouteInv calls engine := by
  induction uses with
  | new => exact ⟨.nil, fun _ listed => absurd listed List.not_mem_nil, fun _ => rfl, fun _ => rfl⟩
  | call _ ran ih => exact ih.step ran

/-- Whatever its backends answer and throw, an engine routes each ID to the backend that the load of the ID created. -/
theorem routes_payloads (uses : Uses calls engine) : Routed calls engine := by
  have inv := routeInv_of_uses uses
  refine ⟨inv.nodup, fun payloadId backend => requireBackend_eq_ok_iff_routes inv, ?_, ?_, ?_, ?_⟩
  · intro task payloadId request steps result engine' asks timely ran
    rcases asks_of_run asks ran with ⟨-, backend, answer, live, rfl⟩ | ⟨missing, rfl, -⟩
    · rw [(requireBackend_eq_ok_iff_routes inv).mp live]
      rfl
    · obtain ⟨message, missing⟩ := missing timely
      rw [inv.unrouted missing]
      rfl
  · intro task payloadId request steps result engine' asks late ran
    rcases asks_of_run asks ran with ⟨timely, -⟩ | ⟨-, none, -⟩
    · exact absurd timely late
    · exact none
  · intro task payloadId request steps result engine' asks unrouted ran
    rcases asks_of_run asks ran with ⟨-, backend, answer, live, -⟩ | ⟨-, none, same, thrown⟩
    · rw [(requireBackend_eq_ok_iff_routes inv).mp live] at unrouted
      cases unrouted
    · exact ⟨none, same, thrown⟩
  · intro context steps thrown engine' ran
    cases loadPayload_loads ran
    rfl

/-- An embedded payload whose native ID reads like the public ID of an isolated one, after an unload that failed. -/
theorem routes_payloads_sameText : Routed
    [⟨.unloadPayload "1", [⟨.ask (.embedded "2") .unload, .error (.ioException "busy")⟩], .error (.ioException "busy")⟩,
      ⟨.loadPayload ⟨"b", .isolated, "/b", "b.so"⟩, [⟨.startIsolated ⟨"b", .isolated, "/b", "b.so"⟩, .ok (some (0 : Nat))⟩],
        .ok (.payloadId "2")⟩,
      ⟨.loadPayload ⟨"a", .embedded, "/a", "a.so"⟩, [⟨.loadEmbedded ⟨"a", .embedded, "/a", "a.so"⟩, .ok (some "2")⟩],
        .ok (.payloadId "1")⟩]
    { payloads := (LinkedMap.empty.put "1" (.embedded "2")).put "2" (.isolated 0), nextPayloadId := 3 } :=
  routes_payloads (.call (.call (.call .new ⟨_, _, rfl, rfl, rfl⟩) ⟨_, _, rfl, rfl, rfl⟩) ⟨_, _, rfl, rfl, rfl⟩)

end Invariant

end RuntimeHost.Java
