import RuntimeHost.Java.RuntimeEngine

namespace RuntimeHost.Java

open Foundation

def PayloadBackend.isolatedRef : PayloadBackend → Option IsolatedRef
  | .embedded _ => none
  | .isolated payload => some payload

def RustRuntimeEngine.isolatedPayloads (self : RustRuntimeEngine) : List IsolatedRef :=
  self.payloads.values.reverse.filterMap PayloadBackend.isolatedRef

/-- What the backends answer to the first call, the second one, and so on. -/
abbrev BackendAnswers := ℕ → ∀ call : BackendCall, call.Answer

/-- The close of an engine has done all that there was to do: the calls that it made, and the engine that it left. -/
structure TornDown (engine : RustRuntimeEngine)
    (outcome : List BackendStep × Except Throwable Unit × RustRuntimeEngine) : Prop where
  calls : outcome.1.map Sigma.fst = engine.isolatedPayloads.map .closeIsolated ++ [.closeEmbedded]
  empty : outcome.2.2.payloads = .empty
  idempotent : ∀ later : BackendAnswers, outcome.2.2.close.answered later 0 = ([], .ok (), outcome.2.2)

def CloseQuietly (answers : BackendAnswers) (payloads : List IsolatedRef) (place : ℕ) : Prop :=
  ∀ i payload, payloads[i]? = some payload → answers (place + i) (.closeIsolated payload) = .ok ()

section Close

variable {answers : BackendAnswers} {payload : IsolatedRef} {payloads : List IsolatedRef} {place : ℕ}
  {engine : RustRuntimeEngine}

theorem closeQuietly_nil : CloseQuietly answers [] place := by
  intro i payload listed
  cases listed

theorem closeQuietly_cons : CloseQuietly answers (payload :: payloads) place ↔
    answers place (.closeIsolated payload) = .ok () ∧ CloseQuietly answers payloads (place + 1) := by
  constructor
  · intro quiet
    refine ⟨quiet 0 payload rfl, fun i payload' listed => ?_⟩
    rw [Nat.add_assoc, Nat.add_comm 1 i]
    exact quiet (i + 1) payload' listed
  · rintro ⟨head, tail⟩ i payload' listed
    cases i with
    | zero =>
      cases listed
      exact head
    | succ i =>
      have later := tail i payload' listed
      rwa [Nat.add_assoc, Nat.add_comm 1 i] at later

theorem closeBackends_throws {backends : List PayloadBackend} {thrown : Throwable}
    (throws : answers place (.closeIsolated payload) = .error thrown) :
    (RustRuntimeEngine.closeBackends (.isolated payload :: backends)).answered answers place =
      ([⟨.closeIsolated payload, .error thrown⟩], .error thrown) := by
  show (_, _) = _
  rw [throws]
  rfl

theorem closeBackends_returns {backends : List PayloadBackend} (returns : answers place (.closeIsolated payload) = .ok ()) :
    (RustRuntimeEngine.closeBackends (.isolated payload :: backends)).answered answers place =
      let rest := (RustRuntimeEngine.closeBackends backends).answered answers (place + 1)
      (⟨.closeIsolated payload, .ok ()⟩ :: rest.1, rest.2) := by
  show (_, _) = _
  rw [returns]
  rfl

theorem closeBackends_quiet {backends : List PayloadBackend}
    (quiet : CloseQuietly answers (backends.filterMap PayloadBackend.isolatedRef) place) :
    ∃ steps, (RustRuntimeEngine.closeBackends backends).answered answers place = (steps, .ok ()) ∧
      steps.map Sigma.fst = (backends.filterMap PayloadBackend.isolatedRef).map .closeIsolated := by
  induction backends generalizing place with
  | nil => exact ⟨[], rfl, rfl⟩
  | cons backend backends ih =>
    cases backend with
    | embedded nativePayloadId => exact ih quiet
    | isolated payload =>
      obtain ⟨head, tail⟩ := closeQuietly_cons.mp quiet
      obtain ⟨steps, ran, made⟩ := ih tail
      refine ⟨⟨.closeIsolated payload, .ok ()⟩ :: steps, ?_, ?_⟩
      · rw [closeBackends_returns head, ran]
      · exact congrArg (BackendCall.closeIsolated payload :: ·) made

theorem closeBackends_loud {backends : List PayloadBackend}
    (loud : ¬CloseQuietly answers (backends.filterMap PayloadBackend.isolatedRef) place) :
    ∃ steps thrown, (RustRuntimeEngine.closeBackends backends).answered answers place = (steps, .error thrown) ∧
      .closeEmbedded ∉ steps.map Sigma.fst := by
  induction backends generalizing place with
  | nil => exact absurd closeQuietly_nil loud
  | cons backend backends ih =>
    cases backend with
    | embedded nativePayloadId => exact ih loud
    | isolated payload =>
      cases answer : (answers place (.closeIsolated payload) : Except Throwable Unit) with
      | error thrown => exact ⟨_, thrown, closeBackends_throws answer, by simp⟩
      | ok =>
        have later : ¬CloseQuietly answers (backends.filterMap PayloadBackend.isolatedRef) (place + 1) := fun tail =>
          loud (closeQuietly_cons.mpr ⟨answer, tail⟩)
        obtain ⟨steps, thrown, same, missing⟩ := ih later
        refine ⟨⟨.closeIsolated payload, .ok ()⟩ :: steps, thrown, ?_, by simpa using missing⟩
        rw [closeBackends_returns answer, same]

theorem close_of_closed (closed : engine.closed = true) (place : ℕ) :
    engine.close.answered answers place = ([], .ok (), engine) := by
  unfold RustRuntimeEngine.close
  rw [if_pos closed]
  rfl

theorem close_eq (opened : engine.closed = false) : engine.close =
    RustRuntimeEngine.closeBackends engine.payloads.values.reverse >>= fun outcome =>
      match outcome with
      | .error thrown => .done (.error thrown, { engine with closed := true })
      | .ok () => BackendProg.closeEmbedded >>= fun result =>
        .done (result, { engine with closed := true, payloads := .empty }) := by
  unfold RustRuntimeEngine.close
  rw [if_neg (by simp [opened])]
  rfl

/-- A close does all that there is to do exactly when no isolated payload throws: after the first that does, the other
payloads and the embedded engine stay open, and the next close returns at once. -/
theorem teardown_complete_iff (opened : engine.closed = false) :
    TornDown engine (engine.close.answered answers 0) ↔ CloseQuietly answers engine.isolatedPayloads 0 := by
  rw [close_eq opened, Prog.answered_bind]
  constructor
  · intro torn
    by_contra loud
    obtain ⟨steps, thrown, ran, missing⟩ := closeBackends_loud loud
    have calls := torn.calls
    rw [ran] at calls
    refine missing ?_
    simp only [Prog.answered, List.append_nil] at calls
    rw [calls]
    exact List.mem_append_right _ (List.mem_singleton_self _)
  · intro quiet
    obtain ⟨steps, ran, made⟩ := closeBackends_quiet quiet
    rw [ran]
    refine ⟨?_, rfl, fun later => close_of_closed rfl 0⟩
    show (steps ++ [_]).map Sigma.fst = _
    rw [List.map_append, made]
    rfl

end Close

section Example

def twoIsolated : RustRuntimeEngine :=
  { payloads := (LinkedMap.empty.put "1" (.isolated 0)).put "2" (.isolated 1), nextPayloadId := 3 }

def isolatedContext : RuntimePayloadContext := ⟨"a", .isolated, "/a", "a.so"⟩

theorem uses_twoIsolated : Uses
    [⟨.loadPayload isolatedContext, [⟨.startIsolated isolatedContext, .ok (some (1 : Nat))⟩], .ok (.payloadId "2")⟩,
      ⟨.loadPayload isolatedContext, [⟨.startIsolated isolatedContext, .ok (some (0 : Nat))⟩], .ok (.payloadId "1")⟩]
    twoIsolated :=
  .call (.call .new ⟨_, _, rfl, rfl, rfl⟩) ⟨_, _, rfl, rfl, rfl⟩

def allThrow : BackendAnswers := fun _ _ => .error (.runtimeException "destroy")

/-- Every close of an isolated payload returns, that of the embedded engine throws. -/
def embeddedThrows : BackendAnswers
  | _, .closeIsolated _ => .ok ()
  | _, _ => .error (.ioException "close")

/-- The newest payload throws, and the first payload and the embedded engine are never closed. -/
theorem first_failure_strands_rest : ∃ calls engine, Uses calls engine ∧ engine.closed = false ∧
    engine.isolatedPayloads = [1, 0] ∧ (engine.close.answered allThrow 0).1.map Sigma.fst = [.closeIsolated 1] ∧
    (∀ later, (engine.close.answered allThrow 0).2.2.close.answered later 0 =
      ([], .ok (), (engine.close.answered allThrow 0).2.2)) ∧
    ¬TornDown engine (engine.close.answered allThrow 0) := by
  refine ⟨_, twoIsolated, uses_twoIsolated, rfl, rfl, rfl, fun later => rfl, fun torn => ?_⟩
  have calls : [BackendCall.closeIsolated 1] = [.closeIsolated 1, .closeIsolated 0, .closeEmbedded] := torn.calls
  cases calls

theorem teardown_complete_embeddedThrows : TornDown twoIsolated (twoIsolated.close.answered embeddedThrows 0) := by
  refine (teardown_complete_iff rfl).mpr fun i payload listed => ?_
  rfl

end Example

end RuntimeHost.Java
