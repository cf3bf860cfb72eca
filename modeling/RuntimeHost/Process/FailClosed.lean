import RuntimeHost.Foundation.History
import RuntimeHost.Process.Passes

namespace RuntimeHost.Process

open Foundation Function System Sdk Abi Protocol Native ProcessProg

/-- A frame was read that is none: its length is out of bounds, it is cut off, or its body is no message. -/
def IsolatedEvent.Malformed : IsolatedEvent → Prop
  | .read _ (.error (.invalidData _)) => True
  | _ => False

def IsolatedEvent.Taken : IsolatedEvent → Prop
  | .read .serve (.ok (some _)) => True
  | _ => False

def Stdio.Malformed {Tid : Type} (s : Stdio Tid) : Prop :=
  ∃ text rest, readFrame s.ended s.unread = .ready (.error (.invalidData text)) rest

def ProcessOp.Unlocks (op : ProcessOp) : Prop := op = .stdio .unlockReader ∨ op = .stdio .unlockWriter

def IsolatedResult.Refused : IsolatedResult → Prop
  | .pass result => ∃ error, result.outcome = .error error
  | .done => False

namespace Isolated

variable {Worker : Type}

/-- `serve` has returned an error, or it gives back the lock that it has and then returns one. -/
def Refuses (c : IsolatedConfig Worker) : Prop :=
  (∃ error, c.state.outcome = some (.error error)) ∨ ∃ state p, c.state.outcome = none ∧
    c.threads none = .running (.serve state) p ∧ p.Only ProcessOp.Unlocks ∧ p.Ends IsolatedResult.Refused

/-- Once a malformed frame has been read, the serve loop takes no other frame and refuses. -/
def FailsClosed (c : IsolatedConfig Worker) : Prop :=
  ∀ later event earlier, c.state.history = later ++ event :: earlier → event.Malformed →
    (∀ event' ∈ later, ¬event'.Taken) ∧ Refuses c

/-- A waiting callback meets no malformed frame, unless `serve` has returned an error already. -/
def WellFed (_ : Option Worker) (op : ProcessOp) (s : Isolated Worker) : Prop :=
  op = .stdio (.readFrame .callback) → ¬s.stdio.Malformed ∨ ∃ error, s.outcome = some (.error error)

section Conduct

variable {x : Conduct}

theorem refuses_of_follows {before : State} {p : ProcessProg IsolatedResult} (failed : x.phase = .failed)
    (follows : p.Follows typestate (IsolatedTask.Ends (.serve before)) x) :
    p.Only ProcessOp.Unlocks ∧ p.Ends IsolatedResult.Refused := by
  induction p generalizing x with
  | done result =>
    refine ⟨trivial, ?_⟩
    cases result with
    | pass pass =>
      obtain ⟨phase, rfl, ends⟩ := follows
      obtain rfl : phase = .failed := failed
      exact ends.1
    | done => exact follows.elim
  | act op next ih =>
    obtain ⟨allows, rest⟩ := follows
    exact ⟨⟨allows.2 failed, fun answer => (ih answer (next_failed allows failed) (rest answer)).1⟩,
      fun answer => (ih answer (next_failed allows failed) (rest answer)).2⟩

end Conduct

structure FailInv (s : Isolated Worker) : Prop where
  ordered : Legal (fun earlier event => event.Taken → ∀ event' ∈ earlier, ¬event'.Malformed) s.history
  workers : ∀ worker, (s.conduct (some worker)).phase = .outside
  stopped : s.outcome.isSome → (s.conduct none).phase = .outside
  refused : ∀ event ∈ s.history, event.Malformed →
    (∃ error, s.outcome = some (.error error)) ∨ s.outcome = none ∧ (s.conduct none).phase = .failed

section Invariant

variable [DecidableEq Worker] {s s' : Isolated Worker} {t : Option Worker} {task : IsolatedTask} {op : ProcessOp}

theorem FailInv.start (inv : FailInv s) (rest : s.conduct t = {}) (begun : Isolated.start t task s s') : FailInv s' := by
  obtain ⟨outcome, -, history⟩ := start_same begun
  have conduct := stands_start begun
  refine ⟨history ▸ inv.ordered, ?_, ?_, ?_⟩
  · intro worker
    rw [conduct]
    cases t with
    | none => exact inv.workers worker
    | some worker' =>
      by_cases here : worker = worker'
      · subst here
        rw [update_self]
        cases task with
        | host table call => rfl
        | serve state => exact begun.elim
        | drop state => exact begun.elim
      · rw [update_of_ne (by simpa using here)]
        exact inv.workers worker
  · intro stopped
    rw [outcome] at stopped
    rw [conduct]
    cases t with
    | some worker => exact inv.stopped stopped
    | none =>
      rw [update_self]
      cases task with
      | serve state =>
        rw [begun.1] at stopped
        cases stopped
      | drop state => rfl
      | host table call => rfl
  · intro event old malformed
    rw [history] at old
    rw [outcome, conduct]
    rcases inv.refused event old malformed with error | ⟨serving, failed⟩
    · exact .inl error
    · refine .inr ⟨serving, ?_⟩
      cases t with
      | some worker => exact failed
      | none =>
        rw [rest] at failed
        cases failed

theorem quiet_events {server : State} {answer : op.Answer} (other : ∀ site, op ≠ .stdio (.readFrame site)) :
    ∀ event ∈ op.events server answer, ¬event.Malformed ∧ ¬event.Taken := by
  intro event listed
  rcases ProcessOp.mem_events listed with ⟨site, read, same, -⟩ | ⟨message, rfl⟩ | rfl | ⟨payload, call, rfl⟩ |
    ⟨payload, call, result, rfl⟩
  · exact absurd same (other site)
  all_goals exact ⟨id, id⟩

theorem phase_exec {answer : op.Answer} {phase : Phase} (allows : (s.conduct t).Allows op)
    (here : (s.conduct none).phase = phase) (conduct : s'.conduct = update s.conduct t ((s.conduct t).next op answer))
    (kept : ∀ x : Conduct, x.Allows op → x.phase = phase → (x.next op answer).phase = phase) :
    (s'.conduct none).phase = phase := by
  rw [conduct]
  cases t with
  | none =>
    rw [update_self]
    exact kept _ allows here
  | some worker => exact here

theorem FailInv.exec {answer : op.Answer} (inv : FailInv s) (allows : (s.conduct t).Allows op) (fed : WellFed t op s)
    (answered : Isolated.exec t op s answer s') : FailInv s' := by
  obtain ⟨outcome, -, history⟩ := exec_same answered
  have conduct := tracks.exec t op s answer s' answered
  have workers : ∀ worker, (s'.conduct (some worker)).phase = .outside := by
    intro worker
    rw [conduct]
    by_cases here : some worker = t
    · subst here
      rw [update_self]
      exact next_outside allows (inv.workers worker)
    · rw [update_of_ne here]
      exact inv.workers worker
  have stopped : s'.outcome.isSome → (s'.conduct none).phase = .outside := by
    intro stopped
    rw [outcome] at stopped
    exact phase_exec allows (inv.stopped stopped) conduct fun x => next_outside
  have old : ∀ event ∈ s.history, event.Malformed →
      (∃ error, s'.outcome = some (.error error)) ∨ s'.outcome = none ∧ (s'.conduct none).phase = .failed := by
    intro event listed malformed
    rw [outcome]
    rcases inv.refused event listed malformed with error | ⟨serving, failed⟩
    · exact .inl error
    · exact .inr ⟨serving, phase_exec allows failed conduct fun x => next_failed⟩
  by_cases reads : ∃ site, op = .stdio (.readFrame site)
  · obtain ⟨site, rfl⟩ := reads
    have shape : s'.history = .read site answer :: s.history := history
    cases site with
    | serve =>
      have resting : (s.conduct t).phase = .resting := allows.1.2.2
      have main : t = none := by
        cases t with
        | none => rfl
        | some worker =>
          rw [inv.workers worker] at resting
          cases resting
      subst main
      have serving : s.outcome = none := by
        cases returned : s.outcome with
        | none => rfl
        | some result =>
          rw [inv.stopped (by rw [returned]; rfl)] at resting
          cases resting
      have clean : ∀ event ∈ s.history, ¬event.Malformed := by
        intro event listed malformed
        rcases inv.refused event listed malformed with ⟨error, returned⟩ | ⟨-, failed⟩
        · rw [serving] at returned
          cases returned
        · rw [failed] at resting
          cases resting
      refine ⟨?_, workers, stopped, ?_⟩
      · rw [shape]
        exact legal_cons inv.ordered fun _ => clean
      · intro event listed malformed
        rw [shape] at listed
        rcases List.mem_cons.mp listed with rfl | before
        · refine .inr ⟨outcome.trans serving, ?_⟩
          rw [conduct, update_self]
          rcases (answer : Except ProtocolError (Option Message)) with error | message
          · rfl
          · exact malformed.elim
        · exact absurd malformed (clean event before)
    | callback =>
      refine ⟨?_, workers, stopped, ?_⟩
      · rw [shape]
        exact legal_cons inv.ordered fun taken => taken.elim
      · intro event listed malformed
        rw [shape] at listed
        rcases List.mem_cons.mp listed with rfl | before
        · rcases fed rfl with clean | error
          · obtain ⟨next, ⟨stdio, ⟨rest, read, -⟩, -⟩, -⟩ := answered
            rcases (answer : Except ProtocolError (Option Message)) with (error | text) | message
            · exact malformed.elim
            · exact absurd ⟨_, _, read⟩ clean
            · exact malformed.elim
          · rw [outcome]
            exact .inl error
        · exact old event before malformed
  · have quiet : ∀ event ∈ op.events s.server answer, ¬event.Malformed ∧ ¬event.Taken :=
      quiet_events fun site same => reads ⟨site, same⟩
    refine ⟨?_, workers, stopped, ?_⟩
    · rw [history]
      exact legal_append inv.ordered fun event new earlier taken => absurd taken (quiet event new).2
    · intro event listed malformed
      rw [history] at listed
      rcases List.mem_append.mp listed with new | before
      · exact absurd malformed (quiet event new).1
      · exact old event before malformed

theorem FailInv.finish {result : IsolatedResult} (inv : FailInv s) (relied : Relies t task s)
    (ends : task.Ends result (s.conduct t)) (ended : Isolated.finish t task result s s') : FailInv s' := by
  have conduct := stands_finish ended
  have workers : ∀ worker, (s'.conduct (some worker)).phase = .outside := by
    intro worker
    rw [conduct]
    by_cases here : some worker = t
    · subst here
      rw [update_self]
    · rw [update_of_ne here]
      exact inv.workers worker
  rcases finish_same relied ended with ⟨pass, rfl, rfl, rfl, serving, -, outcome, history⟩ | ⟨other, outcome, -, history⟩
  · obtain ⟨phase, here, ends⟩ := ends
    have quiet : ∀ event ∈ (s.conduct none).events s.server pass.state, ¬event.Malformed ∧ ¬event.Taken := by
      intro event listed
      unfold Conduct.events at listed
      split at listed
      · obtain rfl := List.mem_singleton.mp listed
        exact ⟨id, id⟩
      · cases listed
    refine ⟨?_, workers, ?_, ?_⟩
    · rw [history]
      exact legal_append inv.ordered fun event new earlier taken => absurd taken (quiet event new).2
    · intro _
      rw [conduct, update_self]
    · intro event listed malformed
      rw [history] at listed
      rcases List.mem_append.mp listed with new | before
      · exact absurd malformed (quiet event new).1
      · rcases inv.refused event before malformed with ⟨error, returned⟩ | ⟨-, failed⟩
        · rw [serving] at returned
          cases returned
        · rw [here] at failed
          obtain rfl : phase = .failed := failed
          obtain ⟨⟨error, refused⟩, -⟩ := ends
          refine .inl ⟨error, ?_⟩
          rw [outcome, refused]
          rfl
  · refine ⟨history ▸ inv.ordered, workers, ?_, ?_⟩
    · intro stopped
      rw [outcome] at stopped
      rw [conduct]
      by_cases here : none = t
      · subst here
        rw [update_self]
      · rw [update_of_ne here]
        exact inv.stopped stopped
    · intro event listed malformed
      rw [history] at listed
      rw [outcome]
      rcases inv.refused event listed malformed with error | ⟨serving, failed⟩
      · exact .inl error
      · refine .inr ⟨serving, ?_⟩
        rw [conduct]
        cases t with
        | some worker => exact failed
        | none =>
          cases task with
          | serve before =>
            cases result with
            | pass pass => exact absurd rfl (other before pass rfl)
            | done => exact ends.elim
          | drop state =>
            have returned : s.outcome.isSome := relied
            rw [serving] at returned
            cases returned
          | host table call => exact relied.elim

theorem failInv_of_reachable {c : IsolatedConfig Worker}
    (reached : ((system Worker).restrict WellFed).Reachable Fresh c) : FailInv c.state := by
  refine tracks.restrict.invariant_of_employs ?_ employs.restrict ?_ ?_ ?_ ?_ ?_ reached
  · exact fun s fresh => fresh.conduct
  · rintro s ⟨fallible, rfl⟩
    exact ⟨legal_nil, fun _ => rfl, fun _ => rfl, fun event listed => absurd listed List.not_mem_nil⟩
  · exact fun t task s s' inv rest begun => inv.start rest begun
  · exact fun t op s answer s' inv allows answered => inv.exec allows answered.1 answered.2
  · exact fun t task result s s' inv relied ends ended => inv.finish relied ends ended
  · rintro s s' inv ⟨stdio, rfl, -⟩
    exact ⟨inv.ordered, inv.workers, inv.stopped, inv.refused⟩

/-- Where no callback meets a malformed frame, the process fails closed. -/
theorem fails_closed_of_wellFed {c : IsolatedConfig Worker}
    (reached : ((system Worker).restrict WellFed).Reachable Fresh c) : FailsClosed c := by
  have inv := failInv_of_reachable reached
  intro later event earlier shape malformed
  refine ⟨?_, ?_⟩
  · intro event' listed taken
    obtain ⟨newer, older, rfl⟩ := List.append_of_mem listed
    rw [List.append_assoc, List.cons_append] at shape
    exact inv.ordered newer event' _ shape taken event (List.mem_append_right _ (.head _)) malformed
  · have present : event ∈ c.state.history := shape ▸ List.mem_append_right _ (.head _)
    rcases inv.refused event present malformed with error | ⟨serving, failed⟩
    · exact .inl error
    · refine .inr ?_
      have standing := tracks.restrict.standing (fun s fresh => fresh.conduct) reached none
      cases active : c.threads none with
      | idle =>
        rw [active] at standing
        rw [standing] at failed
        cases failed
      | running task p =>
        rw [active] at standing
        have relied := employs.restrict.holds reached active
        cases task with
        | serve state => exact ⟨state, p, serving, rfl, refuses_of_follows failed standing⟩
        | drop state =>
          have returned : c.state.outcome.isSome := relied
          rw [serving] at returned
          cases returned
        | host table call => exact relied.elim

end Invariant

section Counterexample

theorem firstCallback_accepted : checkMessage 2 (.retainHandle 1 1) = .ok () := by
  decide

def firstCallback : Message := ⟨2, .retainHandle 1 1, firstCallback_accepted⟩

/-- A plugin whose initialize callback retains a handle and does not mind the answer. -/
def retaining : Behaviour := .act (.retainHandle 1 1) fun _ => .done ⟨.ok, none⟩

theorem readFrame_zero (ended : Bool) (rest : List Input) :
    readFrame ended (.byte 0 :: .byte 0 :: .byte 0 :: .byte 0 :: rest) =
      .ready (.error (invalid "frame length is outside bounds")) rest := by
  simp [readFrame, readExact, Read.andThen, ofBigEndian]

theorem onStdio_retainHandle : onStdio (sessionHost.code (.retainHandle 1 1)) =
    onStdio (ProcessBridge.call firstCallback.body) >>= fun answer =>
      (.done (orError .hostError (ProcessBridge.handleResult answer)) : ProcessProg (Except HmclStatus Unit)) := by
  have code : sessionHost.code (.retainHandle 1 1) = ProcessBridge.call firstCallback.body >>= fun answer =>
      (.done (orError .hostError (ProcessBridge.handleResult answer)) : StdioProg (Except HmclStatus Unit)) := by
    show (ProcessBridge.call (.retainHandle 1 1) >>= _) >>= _ = _
    simp only [Prog.bind_bind]
    rfl
  exact (congrArg onStdio code).trans (onStdio_bind _ _)

variable [DecidableEq Worker] {stdio : Stdio (Option Worker)} {rest : List Input} {request : List UInt8}

/-- The streams after a callback whose answer ended before `rest`. -/
def asked (stdio : Stdio (Option Worker)) (request : List UInt8) (rest : List Input) : Stdio (Option Worker) :=
  { stdio with
    unread := rest
    buffered := []
    output := stdio.output ++ (stdio.buffered ++ request)
    nextCallbackId := 4 }

theorem does_retaining {server : State} {engines : Engines (Option Worker)} (free : stdio.reader = none)
    (free' : stdio.writer = none) (counter : stdio.nextCallbackId = 2)
    (unread : stdio.unread = .byte 0 :: .byte 0 :: .byte 0 :: .byte 0 :: rest) (framed : frame firstCallback = .ok request) :
    Does server (retaining.handle fun call => onStdio (sessionHost.code call)) stdio engines ⟨.ok, none⟩
      (asked stdio request rest) engines
      [.wrote firstCallback, .read .callback (.error (invalid "frame length is outside bounds"))] := by
  have reads : readFrame stdio.ended stdio.unread =
      .ready (.error (invalid "frame length is outside bounds")) rest := by
    rw [unread, readFrame_zero]
  have calls : Does server (onStdio (sessionHost.code (.retainHandle 1 1))) stdio engines
      (.error .hostError : Except HmclStatus Unit) (asked stdio request rest) engines
      [.wrote firstCallback, .read .callback (.error (invalid "frame length is outside bounds"))] := by
    rw [onStdio_retainHandle]
    exact .of_eq (.bind (does_call free free' counter framed reads) .done) rfl rfl
  exact .of_eq (.bind calls .done) rfl rfl

def enabled : Server.Handled := ⟨.loaded sessionHost 1, .ok .ok, false⟩

theorem does_deafEnable (free : stdio.reader = none) (free' : stdio.writer = none) (counter : stdio.nextCallbackId = 2)
    (unread : stdio.unread = .byte 0 :: .byte 0 :: .byte 0 :: .byte 0 :: rest) (framed : frame firstCallback = .ok request) :
    ∃ engines new, Does (.loaded sessionHost 1) (Server.handle (.loaded sessionHost 1) enableCommand.body) stdio
      (sessionEngines .loaded) (.ok enabled) (asked stdio request rest) engines
      (.began 0 (.initializePlugin 1 1) :: .wrote firstCallback ::
        .read .callback (.error (invalid "frame length is outside bounds")) :: new) := by
  have enables : ∃ engines new, Does (.loaded sessionHost 1) (sessionHost.onEngine (Engine.enablePayload 1)) stdio
      (sessionEngines .loaded) (.ok () : Except HostError Unit) (asked stdio request rest) engines
      (.began 0 (.initializePlugin 1 1) :: .wrote firstCallback ::
        .read .callback (.error (invalid "frame length is outside bounds")) :: new) :=
    ⟨_, _, .native (.payload 1) (.ok 0 : Except HostError Nat) ⟨rfl, rfl⟩
      (does_locked rfl (does_plugin (does_retaining free free' counter unread framed)
        (.native (.setState 0 .enabled) () rfl .done)))⟩
  obtain ⟨engines, new, enables⟩ := enables
  exact ⟨engines, new, .of_eq (.bind (.bind enables .done) .done) rfl (by simp)⟩

def rejected : Server.Handled := ⟨.loaded sessionHost 1, .error (.invalidState "hello already completed"), false⟩

def helloAgain : Message := ⟨7, .hello, by decide⟩

theorem frame_helloAgain_isOk : ∃ bytes, frame helloAgain = .ok bytes := by
  have encoded : helloAgain.body.encoded = .ok ("hello", .map []) := rfl
  exact frame_empty_isOk encoded (by decide)

/-- After the malformed frame that a callback was answered with, the bytes behind it are read as a command and answered. -/
theorem malformed_reply_survived : ∃ (c : IsolatedConfig Empty) (text : String) (later earlier : List IsolatedEvent),
    (system Empty).Reachable Fresh c ∧ c.state.outcome = none ∧
      c.state.history = later ++ .read .callback (.error (.invalidData text)) :: earlier ∧
      .read .serve (.ok (some helloAgain)) ∈ later ∧ ¬FailsClosed c := by
  obtain ⟨enable, framed⟩ := frame_enableCommand_isOk
  obtain ⟨again, framed'⟩ := frame_helloAgain_isOk
  obtain ⟨request, asks⟩ := frame_retainHandle_isOk (m := firstCallback) rfl
  obtain ⟨s, reached, waits⟩ : ∃ s : Isolated Empty, (system Empty).Reachable Fresh ⟨s, fun _ => .idle⟩ ∧
      Waits s (.loaded sessionHost 1) (sessionEngines .loaded) (enable.map .byte ++
        .byte 0 :: .byte 0 :: .byte 0 :: .byte 0 :: (again.map .byte ++ [])) := run_loaded _
  obtain ⟨server, engine, serving, unread, ended, reader, writer, fallible, counter⟩ := waits
  let rest : List Input := .byte 0 :: .byte 0 :: .byte 0 :: .byte 0 :: (again.map .byte ++ [])
  obtain ⟨engines, new, enables⟩ := does_deafEnable (show ({ s.stdio with unread := rest } : Stdio (Option Empty)).reader = none
    from reader) writer counter rfl asks
  obtain ⟨response, made⟩ := respond_message (show Answerable enabled.result from trivial) enableCommand (by decide)
  obtain ⟨out, framed₁⟩ := frame_ok_isOk (Message.new_eq_ok_iff.mp made).2
  have passes := does_serve reader unread framed (by decide) enables made framed₁ writer
  rw [← server, ← engine] at passes
  obtain ⟨s₁, answered, reached₁, streams, -, served, outcome, history⟩ := run_pass reached serving passes
  obtain ⟨response', made'⟩ := respond_message (show Answerable rejected.result from trivial) helloAgain (by decide)
  obtain ⟨out', framed₂⟩ := frame_error_isOk (Message.new_eq_ok_iff.mp made').2
  have rejects : Does (.loaded sessionHost 1) (Server.handle (.loaded sessionHost 1) helloAgain.body)
      { s₁.stdio with unread := [] } s₁.engines (.ok rejected) { s₁.stdio with unread := [] } s₁.engines [] := .done
  have passes' := does_serve (by rw [streams]; exact reader) (by rw [streams]; rfl) framed' (by decide) rejects made' framed₂
    (by rw [streams]; exact writer)
  have served' : s₁.server = .loaded sessionHost 1 := served
  rw [← served'] at passes'
  obtain ⟨s₂, answered', reached₂, -, -, -, outcome', history'⟩ := run_pass reached₁ outcome passes'
  have record : s₂.history = (answered' ++ .wrote response' :: .read .serve (.ok (some helloAgain)) :: (answered ++
      .wrote response :: new.reverse)) ++ .read .callback (.error (.invalidData "frame length is outside bounds")) ::
        .wrote firstCallback :: .began 0 (.initializePlugin 1 1) :: .read .serve (.ok (some enableCommand)) :: s.history := by
    rw [history', history]
    simp [invalid]
  have taken : .read .serve (.ok (some helloAgain)) ∈ answered' ++ .wrote response' ::
      .read .serve (.ok (some helloAgain)) :: (answered ++ .wrote response :: new.reverse) := by
    simp
  exact ⟨_, _, _, _, reached₂, outcome', record, taken, fun closed => (closed _ _ _ record trivial).1 _ taken trivial⟩

theorem readFrame_cut : readFrame true [.byte 0] = .ready (.error (invalid "truncated frame header")) [] := by
  simp [readFrame, readExact, Read.andThen]

/-- The input ends inside a header. -/
theorem cut_header_refused : ∃ c : IsolatedConfig Empty, ((system Empty).restrict WellFed).Reachable Fresh c ∧
    c.state.history = [.read .serve (.error (.invalidData "truncated frame header"))] ∧ FailsClosed c := by
  have idle : ((system Empty).restrict WellFed).Run ⟨{}, fun _ => .idle⟩ ⟨{}, fun _ => .idle⟩ := .refl
  have cut := (idle.env ⟨_, rfl, .inl ⟨.byte 0, rfl, rfl⟩⟩).env ⟨_, rfl, .inr (.inl rfl)⟩
  have locked := (cut.start none (.serve .awaitHello) rfl ⟨rfl, rfl, rfl⟩).act none (.stdio .lockReader) () rfl
    ⟨(by intro reads; cases reads), _, ⟨_, ⟨rfl, rfl⟩, rfl⟩, rfl⟩
  have read := locked.act none (.stdio (.readFrame .serve))
    (.error (invalid "truncated frame header") : Except ProtocolError (Option Message)) rfl
    ⟨(by intro reads; cases reads), _, ⟨_, ⟨[], readFrame_cut, rfl⟩, rfl⟩, rfl⟩
  exact ⟨_, ⟨_, ⟨false, rfl⟩, read⟩, rfl, fails_closed_of_wellFed ⟨_, ⟨false, rfl⟩, read⟩⟩

end Counterexample

end Isolated

end RuntimeHost.Process
