import RuntimeHost.Foundation.Progress
import RuntimeHost.Native.RegistrySafety
import RuntimeHost.Process.DialogueAgreement
import RuntimeHost.Process.FailClosed
import RuntimeHost.Process.InvokeAnswer

namespace RuntimeHost.Process

open Foundation Function Protocol Native ProcessProg System

def ProcessOp.Locking : ProcessOp → Prop
  | .stdio .lockReader => True
  | .stdio .unlockReader => True
  | .stdio .lockWriter => True
  | .stdio .unlockWriter => True
  | .engine (.lockPayload _) => True
  | .engine (.unlockPayload _) => True
  | _ => False

theorem next_of_not_locking {x : Conduct} {op : ProcessOp} {answer : op.Answer} (other : ¬op.Locking) :
    (x.next op answer).reading = x.reading ∧ (x.next op answer).writing = x.writing ∧
      (x.next op answer).guard = x.guard := by
  cases op with
  | stdio op =>
    cases op with
    | readFrame site =>
      cases site with
      | serve => rcases (answer : Except ProtocolError (Option Message)) with error | _ | message <;> exact ⟨rfl, rfl, rfl⟩
      | callback => exact ⟨rfl, rfl, rfl⟩
    | writeFrame message =>
      rcases (answer : Except ProtocolError Unit) with error | _
      · simp only [Conduct.next]
        split <;> exact ⟨rfl, rfl, rfl⟩
      · simp only [Conduct.next]
        split
        · exact ⟨rfl, rfl, rfl⟩
        · split <;> exact ⟨rfl, rfl, rfl⟩
    | flush =>
      rcases (answer : Except IoError Unit) with error | _
      · simp only [Conduct.next]
        split <;> exact ⟨rfl, rfl, rfl⟩
      · exact ⟨rfl, rfl, rfl⟩
    | nextCallbackId => exact ⟨rfl, rfl, rfl⟩
    | _ => exact absurd trivial other
  | engine op =>
    cases op with
    | lockPayload payload => exact absurd trivial other
    | unlockPayload payload => exact absurd trivial other
    | _ => exact ⟨rfl, rfl, rfl⟩
  | _ => exact ⟨rfl, rfl, rfl⟩

namespace Isolated

variable {s s' : Isolated Empty} {op : ProcessOp}

structure Locks (s : Isolated Empty) : Prop where
  reader : s.stdio.reader = if (s.conduct none).reading then some none else none
  writer : s.stdio.writer = if (s.conduct none).writing then some none else none
  holder : ∀ payload, s.engines.holder payload = if (s.conduct none).guard = some payload then some none else none

theorem locks_kept {answer : op.Answer} {next : Isolated Empty} (other : ¬op.Locking) (done : s.step none op answer next) :
    next.stdio.reader = s.stdio.reader ∧ next.stdio.writer = s.stdio.writer ∧ next.engines.holder = s.engines.holder := by
  cases op with
  | stdio op =>
    obtain ⟨stdio, done, rfl⟩ := done
    cases op with
    | readFrame site =>
      obtain ⟨rest, -, rfl⟩ := done
      exact ⟨rfl, rfl, rfl⟩
    | writeFrame message =>
      simp only [Stdio.exec] at done
      split at done
      · obtain ⟨-, rfl⟩ := done
        exact ⟨rfl, rfl, rfl⟩
      · rcases done with ⟨-, rfl⟩ | ⟨error, written, -, -, -, rfl⟩ <;> exact ⟨rfl, rfl, rfl⟩
    | flush => rcases done with ⟨-, rfl⟩ | ⟨error, -, -, rfl⟩ <;> exact ⟨rfl, rfl, rfl⟩
    | nextCallbackId =>
      obtain ⟨-, rfl⟩ := done
      exact ⟨rfl, rfl, rfl⟩
    | _ => exact absurd trivial other
  | engine op =>
    obtain ⟨engines, done, rfl⟩ := done
    cases op with
    | resolveEntrypoint packageRoot entrypoint =>
      obtain ⟨-, rfl⟩ := done
      exact ⟨rfl, rfl, rfl⟩
    | register libraryPath pluginId session =>
      rcases Engines.register_cases done with ⟨error, rfl, rfl, -⟩ | ⟨self, engine, -, -, -, -, rfl⟩ <;> exact ⟨rfl, rfl, rfl⟩
    | payload payloadId =>
      obtain ⟨-, rfl⟩ := done
      exact ⟨rfl, rfl, rfl⟩
    | remove payloadId =>
      obtain rfl : engines = _ := done
      exact ⟨rfl, rfl, rfl⟩
    | drain =>
      simp only [Engines.exec] at done
      split at done
      · obtain ⟨-, rfl⟩ := done
        exact ⟨rfl, rfl, rfl⟩
      · obtain ⟨-, rfl⟩ := done
        exact ⟨rfl, rfl, rfl⟩
    | setState payload state =>
      obtain rfl : engines = _ := done
      exact ⟨rfl, rfl, rfl⟩
    | _ => exact absurd trivial other
  | newEngine =>
    obtain rfl : next = _ := done
    exact ⟨rfl, rfl, rfl⟩
  | behave payload call =>
    obtain rfl : next = s := done
    exact ⟨rfl, rfl, rfl⟩
  | returned payload call result =>
    obtain rfl : next = s := done
    exact ⟨rfl, rfl, rfl⟩

theorem Locks.exec {answer : op.Answer} (locks : Locks s) (allows : (s.conduct none).Allows op)
    (answered : Isolated.exec none op s answer s') : Locks s' := by
  obtain ⟨reader, writer, holder⟩ := locks
  obtain ⟨next, done, rfl⟩ := answered
  obtain ⟨permits, -⟩ := allows
  by_cases locking : op.Locking
  · cases op with
    | stdio op =>
      obtain ⟨stdio, done, rfl⟩ := done
      cases op with
      | lockReader =>
        obtain ⟨-, rfl⟩ := done
        exact ⟨by simp [put, Conduct.next], by simpa [put, Conduct.next] using writer,
          by simpa [put, Conduct.next] using holder⟩
      | unlockReader =>
        obtain rfl : stdio = _ := done
        exact ⟨by simp [put, Conduct.next], by simpa [put, Conduct.next] using writer,
          by simpa [put, Conduct.next] using holder⟩
      | lockWriter =>
        obtain ⟨-, rfl⟩ := done
        exact ⟨by simpa [put, Conduct.next] using reader, by simp [put, Conduct.next],
          by simpa [put, Conduct.next] using holder⟩
      | unlockWriter =>
        obtain rfl : stdio = _ := done
        exact ⟨by simpa [put, Conduct.next] using reader, by simp [put, Conduct.next],
          by simpa [put, Conduct.next] using holder⟩
      | _ => exact locking.elim
    | engine op =>
      obtain ⟨engines, done, rfl⟩ := done
      cases op with
      | lockPayload payload =>
        obtain ⟨-, -, rfl⟩ := done
        obtain ⟨open_, -⟩ := permits
        refine ⟨by simpa [put, Conduct.next] using reader, by simpa [put, Conduct.next] using writer, fun payload' => ?_⟩
        have old := holder payload'
        rw [open_] at old
        simp only [put, Conduct.next, update_self, update_apply, Option.some.injEq]
        by_cases same : payload' = payload
        · simp [same]
        · simpa [same, Ne.symm same] using old
      | unlockPayload payload =>
        obtain rfl : engines = _ := done
        obtain ⟨held, -⟩ := permits
        refine ⟨by simpa [put, Conduct.next] using reader, by simpa [put, Conduct.next] using writer, fun payload' => ?_⟩
        have old := holder payload'
        rw [held] at old
        simp only [put, Conduct.next, update_self, update_apply, reduceCtorEq, if_false]
        by_cases same : payload' = payload
        · simp [same]
        · simpa [same, Ne.symm same] using old
      | _ => exact locking.elim
    | _ => exact locking.elim
  · obtain ⟨reading, writing, guard⟩ : ((s.conduct none).next op answer).reading = _ ∧
      ((s.conduct none).next op answer).writing = _ ∧ ((s.conduct none).next op answer).guard = _ :=
        next_of_not_locking locking
    obtain ⟨reader', writer', holder'⟩ := locks_kept locking done
    refine ⟨?_, ?_, fun payload => ?_⟩
    · simp only [put, update_self, reader', reading, reader]
    · simp only [put, update_self, writer', writing, writer]
    · simp only [put, update_self, holder', guard, holder payload]

theorem locks_of_reachable {c : IsolatedConfig Empty} {ok : Option Empty → ProcessOp → Isolated Empty → Prop}
    (reached : ((system Empty).restrict ok).Reachable Fresh c) : Locks c.state := by
  refine tracks.restrict.invariant (fun _ fresh => fresh.conduct) ?_ ?_ ?_ ?_ ?_ reached
  · rintro s ⟨fallible, rfl⟩
    exact ⟨rfl, rfl, fun _ => rfl⟩
  · rintro t task s s' locks rest begun
    cases t with
    | some worker => exact worker.elim
    | none =>
      obtain ⟨reader, writer, holder⟩ := locks
      rw [rest] at reader writer holder
      cases task with
      | serve state =>
        obtain ⟨-, -, rfl⟩ := begun
        exact ⟨by simpa [put, IsolatedTask.stands, free] using reader,
          by simpa [put, IsolatedTask.stands, free] using writer, by simpa [put, IsolatedTask.stands, free] using holder⟩
      | drop state =>
        obtain ⟨-, -, -, rfl⟩ := begun
        exact ⟨by simpa [put, IsolatedTask.stands] using reader, by simpa [put, IsolatedTask.stands] using writer,
          by simpa [put, IsolatedTask.stands] using holder⟩
      | host table call => exact begun.elim
  · rintro t op s answer s' locks allows ⟨-, answered⟩
    cases t with
    | some worker => exact worker.elim
    | none => exact locks.exec allows answered
  · rintro t task result s s' locks ends ended
    cases t with
    | some worker => exact worker.elim
    | none =>
      obtain ⟨reader, writer, holder⟩ := locks
      obtain ⟨phase, here⟩ : ∃ phase, s.conduct none = free phase none := by
        cases task with
        | serve before =>
          cases result with
          | pass pass =>
            obtain ⟨phase, here, -⟩ := ends
            exact ⟨phase, here⟩
          | done => exact ends.elim
        | drop state =>
          cases result with
          | pass pass => exact ends.elim
          | done => exact ⟨.outside, ends⟩
        | host table call =>
          cases result with
          | pass pass => exact ends.elim
          | done => exact ⟨.outside, ends⟩
      rw [here] at reader writer holder
      have conduct := stands_finish ended
      obtain ⟨stdio, engines⟩ : s'.stdio = s.stdio ∧ s'.engines = s.engines := by
        cases task <;> cases result <;> cases ended <;> exact ⟨rfl, rfl⟩
      refine ⟨?_, ?_, fun payload => ?_⟩
      · rw [stdio, conduct, update_self]
        exact reader
      · rw [stdio, conduct, update_self]
        exact writer
      · rw [engines, conduct, update_self]
        exact holder payload
  · rintro s s' locks ⟨stdio, rfl, moved⟩
    obtain ⟨reader, writer⟩ : stdio.reader = s.stdio.reader ∧ stdio.writer = s.stdio.writer := by
      rcases moved with ⟨input, -, rfl⟩ | rfl | ⟨count, rfl⟩ | ⟨count, -, -, rfl⟩ <;> exact ⟨rfl, rfl⟩
    exact ⟨reader.trans locks.reader, writer.trans locks.writer, locks.holder⟩

theorem Locks.enabled (locks : Locks s) (allows : (s.conduct none).Allows op) (free : ∀ site, op ≠ .stdio (.readFrame site))
    (fits : Dialogue.Fits none op s) : ∃ answer s', Isolated.exec none op s answer s' := by
  suffices moves : ∃ answer next, s.step none op answer next by
    obtain ⟨answer, next, done⟩ := moves
    exact ⟨answer, _, next, done, rfl⟩
  obtain ⟨permits, -⟩ := allows
  cases op with
  | stdio op =>
    cases op with
    | lockReader =>
      have reader := locks.reader
      rw [permits.1] at reader
      exact ⟨(), _, _, ⟨reader, rfl⟩, rfl⟩
    | unlockReader => exact ⟨(), _, _, rfl, rfl⟩
    | readFrame site => exact absurd rfl (free site)
    | lockWriter =>
      have writer := locks.writer
      rw [permits.2.1] at writer
      exact ⟨(), _, _, ⟨writer, rfl⟩, rfl⟩
    | unlockWriter => exact ⟨(), _, _, rfl, rfl⟩
    | writeFrame message =>
      obtain ⟨bytes, framed⟩ := fits message rfl
      refine ⟨(.ok () : Except ProtocolError Unit), _, { s.stdio with buffered := s.stdio.buffered ++ bytes }, ?_, rfl⟩
      simp only [Stdio.exec, framed]
      exact .inl ⟨rfl, trivial⟩
    | flush => exact ⟨(.ok () : Except IoError Unit), _, _, .inl ⟨rfl, rfl⟩, rfl⟩
    | nextCallbackId => exact ⟨s.stdio.nextCallbackId, _, _, ⟨rfl, rfl⟩, rfl⟩
  | engine op =>
    cases op with
    | resolveEntrypoint packageRoot entrypoint =>
      exact ⟨(.error .entrypointEscape : Except HostError String), _, _, ⟨trivial, rfl⟩, rfl⟩
    | register libraryPath pluginId session =>
      by_cases closed : s.engines.engine.closed
      · refine ⟨(.error .engineClosed : Except HostError UInt64), _, s.engines, ?_, rfl⟩
        show Engines.Register ..
        unfold Engines.Register
        rw [if_pos closed]
        exact ⟨rfl, rfl⟩
      · refine ⟨(.error .missingQuerySymbol : Except HostError UInt64), _, s.engines, ?_, rfl⟩
        show Engines.Register ..
        unfold Engines.Register
        rw [if_neg closed]
        exact ⟨.withoutQuery, rfl, rfl⟩
    | payload payloadId => exact ⟨s.engines.engine.payload payloadId, _, _, ⟨rfl, rfl⟩, rfl⟩
    | remove payloadId => exact ⟨(), _, _, rfl, rfl⟩
    | drain =>
      by_cases closed : s.engines.engine.closed
      · refine ⟨(none : Option (List Nat)), _, s.engines, ?_, rfl⟩
        simp only [Engines.exec, if_pos closed]
        exact ⟨rfl, trivial⟩
      · refine ⟨(some s.engines.engine.drained : Option (List Nat)), _, { s.engines with engine := { s.engines.engine with
          closed := true, loadOrder := [], payloads := fun _ => none } }, ?_, rfl⟩
        simp only [Engines.exec, if_neg closed]
        exact ⟨rfl, trivial⟩
    | lockPayload payload =>
      have holder := locks.holder payload
      rw [permits.1] at holder
      exact ⟨s.engines.payload payload, _, _, ⟨holder, rfl, rfl⟩, rfl⟩
    | setState payload state => exact ⟨(), _, _, rfl, rfl⟩
    | unlockPayload payload => exact ⟨(), _, _, rfl, rfl⟩
  | newEngine => exact ⟨(), _, rfl⟩
  | behave payload call => exact ⟨(.done ⟨.ok, none⟩ : Behaviour), _, rfl⟩
  | returned payload call result => exact ⟨(), _, rfl⟩

theorem finish_possible (task : IsolatedTask) (result : IsolatedResult) : ∃ s', finish none task result s s' := by
  cases task <;> cases result <;> exact ⟨_, rfl⟩

end Isolated

theorem frame_of_carries {bytes : List UInt8} {message : Message} (carries : Carries bytes [message]) :
    frame message = .ok bytes := by
  cases carries with
  | cons framed rest =>
    cases rest
    rwa [List.append_nil]

theorem callbackReply_isOk {message : Message} (even : message.requestId % 2 = 0) :
    ∃ reply : Message, reply.requestId = message.requestId ∧ IsReply reply.body ∧ ∃ bytes, frame reply = .ok bytes := by
  obtain ⟨positive, bounded, -, -⟩ := checkMessage_eq_ok_iff.mp message.accepted
  have accepted : checkMessage message.requestId (.callbackResult []) = .ok () :=
    checkMessage_eq_ok_iff.mpr ⟨positive, bounded, by simp [even, MessageBody.usesEvenRequestId], rfl⟩
  exact ⟨⟨message.requestId, .callbackResult [], accepted⟩, rfl, trivial, frame_callbackResult_nil_isOk rfl⟩

namespace Dialogue

variable {c c' : DialogueConfig} {d : Dialogue} {turn : Turn} {message : Message}

theorem moves_up (accord : Accord d.1.dealings d.2 turn) (up : turn.up = [message]) : ∃ d', d.Moves d' := by
  by_cases flushed : d.1.stdio.buffered = []
  · have carries := accord.up
    have asked : d.2.asked = none := by
      rw [accord.asked]
      cases turn <;> first
        | rfl
        | cases up
    have framed : frame message = .ok d.1.stdio.output := by
      rw [up, show d.1.dealings.buffered = [] from flushed, List.append_nil] at carries
      exact frame_of_carries carries
    have ready : readFrame false (d.1.stdio.output.map .byte ++ []) = .ready (.ok (some message)) [] :=
      readFrame_frame framed
    rw [List.append_nil] at ready
    refine ⟨_, .inr (.inl ⟨message, d.1.stdio.output.length, asked, ?_, rfl⟩)⟩
    rw [List.drop_length]
    exact ready
  · exact ⟨_, .inr (.inr (.inr (.inr ⟨_, ⟨_, List.length_pos_of_ne_nil flushed, le_rfl, rfl⟩, rfl⟩)))⟩

theorem moves_down (accord : Accord d.1.dealings d.2 turn) (down : turn.down = [message]) :
    (∃ d', d.Moves d') ∨ ∃ rest, readFrame d.1.stdio.ended d.1.stdio.unread = .ready (arrived message) rest := by
  obtain ⟨bytes, unread, carries⟩ := accord.down
  have unread : d.1.stdio.unread = bytes.map .byte := unread
  cases shape : d.2.transit with
  | cons b transit => exact .inl ⟨_, .inr (.inr (.inr (.inl ⟨b, transit, accord.ended, shape, rfl⟩)))⟩
  | nil =>
    rw [shape, List.append_nil, down] at carries
    have ready : readFrame d.1.stdio.ended (bytes.map .byte ++ []) = .ready (arrived message) [] :=
      readFrame_frame (frame_of_carries carries)
    rw [List.append_nil, ← unread] at ready
    exact .inr ⟨[], ready⟩

/-- Where the process waits for a frame, the frame is on its way, or the parent or the stream has a move to make. -/
theorem readable {site : ReadSite} (accord : Accord d.1.dealings d.2 turn) (outstanding : d.2.outstanding.isSome)
    (allows : (d.1.conduct none).Allows (.stdio (.readFrame site))) :
    (∃ d', d.Moves d') ∨ ∃ answer rest, readFrame d.1.stdio.ended d.1.stdio.unread = .ready answer rest := by
  obtain ⟨permits, -⟩ := allows
  have expected := accord.outstanding
  have calling := accord.calling
  have stands := accord.stands
  cases turn with
  | parent =>
    rw [expected] at outstanding
    cases outstanding
  | commanded command =>
    rcases moves_down accord rfl with moved | ⟨rest, ready⟩
    · exact .inl moved
    · exact .inr ⟨_, rest, ready⟩
  | child command =>
    have handling : (d.1.conduct none).phase = .handling command := stands
    have silent : (d.1.conduct none).calling = none := calling
    cases site with
    | serve =>
      rw [permits.2.2] at handling
      cases handling
    | callback =>
      have waits := permits.2.1
      rw [silent] at waits
      cases waits
  | called command message => exact .inl (moves_up accord rfl)
  | asked command message =>
    obtain ⟨reply, same, isReply, bytes, framed⟩ := callbackReply_isOk (accord.even message rfl)
    exact .inl ⟨_, .inr (.inr (.inl ⟨message, reply, bytes, accord.asked, same, isReply, framed, rfl⟩))⟩
  | replied command message reply =>
    rcases moves_down accord rfl with moved | ⟨rest, ready⟩
    · exact .inl moved
    · exact .inr ⟨_, rest, ready⟩
  | responded command response => exact .inl (moves_up accord rfl)

def Unfit (c : DialogueConfig) : Prop := ∃ task message next,
  c.threads none = .running task (.act (.stdio (.writeFrame message)) next) ∧ ∀ bytes, frame message ≠ .ok bytes

/-- The command that is outstanding has been answered, unless the limits are in the way. -/
def Served (c : DialogueConfig) : Prop := c.state.2.outstanding = none ∨ Unfit c

/-- A command is outstanding, and no shutdown has been answered with `Ok`. -/
structure Pending (c : DialogueConfig) : Prop where
  reached : system.Reachable Fresh c
  outstanding : c.state.2.outstanding.isSome
  open_ : ∀ exchange ∈ c.state.2.exchanges, ¬Closing exchange

theorem runs_of_reachable (reached : system.Reachable Fresh c) : Runs c :=
  Reachable.of_beside possible (fun d fresh => by cases fresh; exact ⟨false, rfl⟩) reached

theorem Pending.moves (pending : Pending c) (unserved : ¬Served c) : ∃ c', system.Step c c' := by
  obtain ⟨reached, outstanding, open_⟩ := pending
  have runs := runs_of_reachable reached
  have locks := Isolated.locks_of_reachable runs
  obtain ⟨⟨turn, accord⟩, busy⟩ := agrees_of_reachable reached
  have env : (∃ d', c.state.Moves d') → ∃ c', system.Step c c' := fun ⟨d', moved⟩ => ⟨_, .env moved⟩
  cases active : c.threads none with
  | idle =>
    cases returned : c.state.1.outcome with
    | none =>
      exact ⟨_, @Step.start _ _ _ _ _ _ _ system c none (.serve c.state.1.server) (_, c.state.2) active
        ⟨⟨returned, rfl, rfl⟩, rfl⟩⟩
    | some outcome =>
      obtain ⟨-, -, exchange, listed, closing⟩ := accord.stopped outcome returned
      rcases List.mem_append.mp listed with old | new
      · exact absurd closing (open_ exchange old)
      · cases turn with
        | responded command response => exact env (moves_up accord rfl)
        | _ => cases new
  | running task p =>
    cases p with
    | done result =>
      obtain ⟨s', ended⟩ := Isolated.finish_possible (s := c.state.1) task result
      exact ⟨_, @Step.finish _ _ _ _ _ _ _ system c none task result (s', c.state.2) active ⟨ended, rfl⟩⟩
    | act op next =>
      have standing := runs.standing
      rw [active] at standing busy
      have acts : (∃ answer s', Isolated.exec none op c.state.1 answer s') → Fits none op c.state.1 →
          ∃ c', system.Step c c' := by
        rintro ⟨answer, s', answered⟩ fits
        exact ⟨_, @Step.act _ _ _ _ _ _ _ system c none task op next answer (s', c.state.2) active
          ⟨⟨fits, answered⟩, rfl⟩⟩
      have reads : ∀ {site : ReadSite}, op = .stdio (.readFrame site) →
          ((∃ d', c.state.Moves d') ∨ ∃ answer rest, readFrame c.state.1.stdio.ended c.state.1.stdio.unread =
            .ready answer rest) → ∃ c', system.Step c c' := by
        rintro site rfl (moved | ⟨answer, rest, ready⟩)
        · exact env moved
        · exact acts ⟨answer, _, _, ⟨_, ⟨rest, ready, rfl⟩, rfl⟩, rfl⟩ fun message same => by cases same
      cases task with
      | host table call => exact (runs.relies active).elim
      | drop state => cases busy
      | serve state =>
        obtain ⟨allows, -⟩ := standing
        by_cases waits : ∃ site, op = .stdio (.readFrame site)
        · obtain ⟨site, rfl⟩ := waits
          exact reads rfl (readable accord outstanding allows)
        · have fits : Fits none op c.state.1 := by
            rintro message rfl
            by_contra unfit
            exact unserved (.inr ⟨_, message, next, active, fun bytes framed => unfit ⟨bytes, framed⟩⟩)
          exact acts (locks.enabled allows (fun site same => waits ⟨site, same⟩) fits) fits

end Dialogue

/-- What the command that is outstanding still takes: its read, and its response. -/
def Dealings.stage (x : Dealings) (parent : Parent) : ℕ :=
  2 + 2 * parent.exchanges.length - x.served.length - x.responded.length

theorem Accord.stage_deals {x x' : Dealings} {parent : Parent} (accord : Accord x parent turn) (deals : Deals x x') :
    x'.stage parent < x.stage parent ∨ x'.stage parent = x.stage parent ∧ x'.phase = x.phase := by
  have served := congrArg List.length accord.served
  have responded := congrArg List.length accord.responded
  cases deals with
  | serve resting ready =>
    obtain ⟨command, bytes, rfl, -, -, -⟩ := accord.reads_command resting ready
    left
    simp [Turn.taken, Turn.pending] at served responded
    simp only [Dealings.stage, List.length_append, List.length_singleton]
    omega
  | @respond command message bytes handling free same response framed serving =>
    obtain rfl := accord.turn_child handling free
    left
    simp [Turn.taken, Turn.pending, Turn.outstanding] at served responded
    simp only [Dealings.stage, List.length_append, List.length_singleton]
    omega
  | _ => exact .inr ⟨rfl, rfl⟩

namespace Dialogue

def pause (c : DialogueConfig) : ℕ :=
  match c.threads none with
  | .idle => if c.state.1.outcome.isSome ∧ c.state.1.dropped = false then 3 else 1
  | .running (.serve _) _ =>
    match c.state.1.dealings.phase with
    | .answered .. => 4
    | _ => 0
  | .running _ _ => 2

def rest (c : DialogueConfig) : ProcessProg IsolatedResult :=
  match c.threads none with
  | .idle => .done .done
  | .running _ p => p

def owed (d : Dialogue) : ℕ := if d.2.asked.isSome then 1 else 2 * (d.1.callbacks.length - d.2.answered.length)

def delayed (d : Dialogue) : ℕ := d.2.transit.length + d.1.stdio.buffered.length

def rank (c : DialogueConfig) : ℕ × ℕ × ProcessProg IsolatedResult × ℕ × ℕ :=
  (c.state.1.dealings.stage c.state.2, pause c, rest c, owed c.state, delayed c.state)

abbrev Below : ℕ × ℕ × ProcessProg IsolatedResult × ℕ × ℕ → ℕ × ℕ × ProcessProg IsolatedResult × ℕ × ℕ → Prop :=
  Prod.Lex (· < ·) (Prod.Lex (· < ·) (Prod.Lex Prog.After (Prod.Lex (· < ·) (· < ·))))

theorem wellFounded_below : WellFounded Below :=
  wellFounded_lt.prod_lex (wellFounded_lt.prod_lex (Prog.wellFounded_after.prod_lex (wellFounded_lt.prod_lex wellFounded_lt)))

variable {c c' : DialogueConfig} {d : Dialogue} {turn : Turn}

theorem dropped_of_running (runs : Runs c) {state : State} {p : ProcessProg IsolatedResult}
    (running : c.threads none = .running (.drop state) p) : c.state.1.dropped = true := by
  have once : (Isolated.system Empty).Employs fun _ task s => task = .drop state → s.dropped = true := by
    refine ⟨?_, ?_, ?_, ?_, ?_⟩
    · rintro t task s s' begun rfl
      cases t with
      | some worker => exact worker.elim
      | none =>
        obtain ⟨-, -, -, rfl⟩ := begun
        rfl
    · intro t task t' task' s s' other dropped begun same
      cases t with
      | some worker => exact worker.elim
      | none =>
        cases t' with
        | some worker => exact worker.elim
        | none => exact absurd rfl other
    · rintro t task t' op s answer s' dropped ⟨next, done, rfl⟩ same
      obtain ⟨stdio, engines, rfl⟩ := Isolated.step_frame done
      exact dropped same
    · intro t task t' task' result s s' other dropped _ _ same
      cases t with
      | some worker => exact worker.elim
      | none =>
        cases t' with
        | some worker => exact worker.elim
        | none => exact absurd rfl other
    · rintro t task s s' dropped ⟨stdio, rfl, -⟩ same
      exact dropped same
  exact once.restrict.holds runs running rfl

theorem pause_idle (idle : c.threads none = .idle) : pause c = 1 ∨ pause c = 3 := by
  simp only [pause, idle]
  split
  · exact .inr rfl
  · exact .inl rfl

theorem rank_start {task : IsolatedTask} (runs : Runs c) (agrees : Agrees c) (idle : c.threads none = .idle)
    (begun : system.start none task c.state d) : Below (rank ⟨d, update c.threads none (.running task task.code)⟩) (rank c) := by
  obtain ⟨-, same, -, ⟨state, rfl, dealings⟩ | ⟨rfl, returned, kept, -, dealings⟩⟩ := deals_of_start runs agrees idle begun
  · have stage : d.1.dealings.stage d.2 = c.state.1.dealings.stage c.state.2 := by rw [same, dealings]; rfl
    simp only [rank, stage]
    refine .right _ (.left _ _ ?_)
    have served : pause ⟨d, update c.threads none (.running (.serve state) (IsolatedTask.serve state).code)⟩ = 0 := by
      simp only [pause, update_self, dealings]
    rw [served]
    rcases pause_idle idle with one | three
    · omega
    · omega
  · have stage : d.1.dealings.stage d.2 = c.state.1.dealings.stage c.state.2 := by rw [same, dealings]
    simp only [rank, stage]
    refine .right _ (.left _ _ ?_)
    simp [pause, idle, returned, kept]

theorem rank_act {task : IsolatedTask} {op : ProcessOp} {next : op.Answer → ProcessProg IsolatedResult} {answer : op.Answer}
    (runs : Runs c) (agrees : Agrees c) (running : c.threads none = .running task (.act op next))
    (answered : system.exec none op c.state answer d) :
    Below (rank ⟨d, update c.threads none (.running task (next answer))⟩) (rank c) := by
  obtain ⟨-, ⟨state, rfl⟩, -, deals, same⟩ := deals_of_act runs agrees running answered
  obtain ⟨turn, accord⟩ := agrees.accord
  simp only [rank, same]
  rcases accord.stage_deals deals with lower | ⟨stage, phase⟩
  · exact .left _ _ lower
  · have paused : pause ⟨d, update c.threads none (.running (.serve state) (next answer))⟩ = pause c := by
      simp only [pause, update_self, running, phase]
    rw [stage, paused]
    have left : rest ⟨d, update c.threads none (.running (.serve state) (next answer))⟩ = next answer := by
      simp only [rest, update_self]
    have before : rest c = .act op next := by simp only [rest, running]
    rw [left, before]
    exact .right _ (.right _ (.left _ _ (.answered op next answer)))

theorem rank_finish {task : IsolatedTask} {result : IsolatedResult} (runs : Runs c) (agrees : Agrees c)
    (running : c.threads none = .running task (.done result)) (ended : system.finish none task result c.state d) :
    Below (rank ⟨d, update c.threads none .idle⟩) (rank c) := by
  obtain ⟨-, same, dropped, cases⟩ := deals_of_finish runs agrees running ended
  have stage : d.1.dealings.stage d.2 = c.state.1.dealings.stage c.state.2 := by
    rcases cases with ⟨state, command, response, goesOn, -, -, -, -, dealings⟩ | ⟨-, dealings⟩
    · rw [same, dealings]
      rfl
    · rw [same, dealings]
  simp only [rank, stage]
  refine .right _ (.left _ _ ?_)
  have idle : (⟨d, update c.threads none .idle⟩ : DialogueConfig).threads none = .idle := by
    show update c.threads none .idle none = .idle
    rw [update_self]
  rcases cases with ⟨state, command, response, goesOn, rfl, responded, -, -, -⟩ | ⟨⟨state, rfl⟩, -⟩
  · have four : pause c = 4 := by simp only [pause, running, responded]
    rw [four]
    rcases pause_idle idle with one | three
    · omega
    · omega
  · have kept := dropped.trans (dropped_of_running runs running)
    simp [pause, running, kept]

/-- A move of the parent or of the streams brings the command further, if it is not its response that the parent reads. -/
theorem rank_env (accord : Accord c.state.1.dealings c.state.2 turn) (outstanding : c.state.2.outstanding.isSome)
    (moved : c.state.Moves d) : d.2.outstanding = none ∨
      d.2.outstanding = c.state.2.outstanding ∧ d.2.exchanges = c.state.2.exchanges ∧ Below (rank ⟨d, c.threads⟩) (rank c) := by
  have called : c.state.1.callbacks.length = c.state.2.answered.length + turn.unanswered.length := by
    have called := congrArg List.length accord.called
    rwa [List.length_append, List.length_map] at called
  rcases moved with ⟨command, bytes, free, -, isCommand, framed, rfl⟩ | ⟨message, count, silent, ready, rfl⟩ |
    ⟨message, reply, bytes, asked, same, isReply, framed, rfl⟩ | ⟨b, transit, -, shape, rfl⟩ |
    ⟨stdio, ⟨count, positive, bounded, rfl⟩, rfl⟩
  · rw [free] at outstanding
    cases outstanding
  · obtain ⟨-, command, ⟨rfl, received⟩ | ⟨rfl, received⟩⟩ := accord.received count ready
    · right
      refine ⟨by rw [received], by rw [received], ?_⟩
      simp only [rank, received]
      refine .right _ (.right _ (.right _ (.left _ _ ?_)))
      have before : owed c.state = 2 := by simp [owed, silent, called, Turn.unanswered]
      rw [before]
      simp [owed]
    · exact .inl (by rw [received])
  · right
    refine ⟨rfl, rfl, .right _ (.right _ (.right _ (.left _ _ ?_)))⟩
    have asking := accord.asked
    rw [asked] at asking
    have one : turn.unanswered.length = 1 := by
      cases turn with
      | asked command message => rfl
      | _ => cases asking
    have before : owed c.state = 1 := by simp [owed, asked]
    rw [before]
    simp [owed, called, one]
  · right
    refine ⟨rfl, rfl, .right _ (.right _ (.right _ (.right _ ?_)))⟩
    simp [delayed, shape]
  · right
    refine ⟨rfl, rfl, .right _ (.right _ (.right _ (.right _ ?_)))⟩
    simp only [delayed, List.length_drop]
    omega

theorem Pending.lowers (pending : Pending c) (step : system.Step c c') :
    Served c' ∨ Pending c' ∧ Below (rank c') (rank c) := by
  obtain ⟨reached, outstanding, open_⟩ := pending
  have runs := runs_of_reachable reached
  have agrees := agrees_of_reachable reached
  have reached' : system.Reachable Fresh c' := by
    obtain ⟨d, fresh, run⟩ := reached
    exact ⟨d, fresh, .tail run step⟩
  have goesOn : c'.state.2 = c.state.2 → Below (rank c') (rank c) → Served c' ∨ Pending c' ∧ Below (rank c') (rank c) :=
    fun same below => .inr ⟨⟨reached', same ▸ outstanding, same ▸ open_⟩, below⟩
  cases step with
  | start idle begun =>
    obtain ⟨rfl, same, -⟩ := deals_of_start runs agrees idle begun
    exact goesOn same (rank_start runs agrees idle begun)
  | act running answered =>
    obtain ⟨rfl, -, -, -, same⟩ := deals_of_act runs agrees running answered
    exact goesOn same (rank_act runs agrees running answered)
  | finish running ended =>
    obtain ⟨rfl, same, -⟩ := deals_of_finish runs agrees running ended
    exact goesOn same (rank_finish runs agrees running ended)
  | env moved =>
    obtain ⟨turn, accord⟩ := agrees.accord
    rcases rank_env accord outstanding moved with served | ⟨kept, exchanges, below⟩
    · exact .inl (.inl served)
    · refine .inr ⟨⟨reached', ?_, ?_⟩, below⟩
      · rw [kept]
        exact outstanding
      · rw [exchanges]
        exact open_

/-- A command that was sent before any shutdown was answered is itself answered, whatever the process, its parent and the
streams do in the meantime, unless a frame does not fit the limits. -/
theorem answered_of_pending (pending : Pending c) : Leads system.Step Served c :=
  .of_rank wellFounded_below rank (fun _ => Pending.moves) (fun _ _ pending _ step => pending.lowers step) pending

theorem hello_answered : ∃ c : DialogueConfig, c.state.2.outstanding = some Isolated.helloCommand ∧
    Leads system.Step Served c := by
  obtain ⟨bytes, framed⟩ := Isolated.frame_helloCommand_isOk
  have sent : system.Run ⟨({}, {}), fun _ => .idle⟩
      ⟨({}, { outstanding := some Isolated.helloCommand, transit := [] ++ bytes }), fun _ => .idle⟩ :=
    .tail .refl (.env (.inl ⟨Isolated.helloCommand, bytes, rfl, rfl, trivial, framed, rfl⟩))
  exact ⟨_, rfl, answered_of_pending ⟨⟨_, rfl, sent⟩, rfl, nofun⟩⟩

section Run

/-- The streams are empty and unlocked, and the parent has heard what it asked for but the response that is outstanding. -/
structure Level (d : Dialogue) (server : State) (engines : Engines (Option Empty)) (outstanding : Option Message)
    (exchanges answered : List (Message × Message)) (counter : UInt64) : Prop where
  stdio : d.1.stdio = { nextCallbackId := counter }
  engines : d.1.engines = engines
  server : d.1.server = server
  outcome : d.1.outcome = none
  parent : d.2 = { exchanges, outstanding, answered }

variable {c : DialogueConfig} {server : State} {engines : Engines (Option Empty)} {exchanges answered : List (Message × Message)}
  {counter : UInt64} {command response : Message} {bytes out : List UInt8}

theorem run_takes (reached : system.Reachable Fresh c) (idle : c.threads none = .idle)
    (level : Level c.state server engines none exchanges answered counter) (isCommand : IsCommand command.body)
    (framed : frame command = .ok bytes) : ∃ c', system.Reachable Fresh c' ∧
      c'.threads none = .running (.serve server) (Server.afterRead server (.ok (some command)) >>= fun pass =>
        .done (.pass pass)) ∧ Level c'.state server engines (some command) exchanges answered counter := by
  obtain ⟨_, rfl, run⟩ := reached
  obtain ⟨⟨⟨stdio, engines', server', outcome, dropped, conduct, history⟩, parent⟩, threads⟩ := c
  obtain ⟨streams, engine, served, serving, listens⟩ := level
  obtain rfl : stdio = _ := streams
  obtain rfl : engines' = engines := engine
  obtain rfl : server' = server := served
  obtain rfl : outcome = none := serving
  obtain rfl : parent = _ := listens
  have sent := run.env (s := (_, _)) (.inl ⟨command, bytes, rfl, rfl, isCommand, framed, rfl⟩)
  have begun := (run_arrivals sent rfl rfl).start none (s := (_, _)) (.serve server') idle ⟨⟨rfl, rfl, rfl⟩, rfl⟩
  have locked := begun.act none (s := (_, _)) (.stdio .lockReader) () rfl
    ⟨⟨nofun, _, ⟨_, ⟨rfl, rfl⟩, rfl⟩, rfl⟩, rfl⟩
  have read := locked.act none (s := (_, _)) (.stdio (.readFrame .serve)) (arrived command) rfl
    ⟨⟨nofun, _, ⟨_, Stdio.exec_readFrame _ _ framed (List.append_nil _).symm, rfl⟩, rfl⟩, rfl⟩
  have unlocked := read.act none (s := (_, _)) (.stdio .unlockReader) () rfl ⟨⟨nofun, _, ⟨_, rfl, rfl⟩, rfl⟩, rfl⟩
  exact ⟨_, ⟨_, rfl, unlocked⟩, rfl, rfl, rfl, rfl, rfl, rfl⟩

theorem fits_of_framed {s : Isolated Empty} (framed : frame command = .ok bytes) : Fits none (.stdio (.writeFrame command)) s := by
  rintro _ ⟨⟩
  exact ⟨bytes, framed⟩

theorem readFrame_output (framed : frame command = .ok bytes) : readFrame false (bytes.map .byte) =
    .ready (.ok (some command)) ((bytes.drop bytes.length).map .byte) := by
  have ready : readFrame false (bytes.map .byte ++ []) = .ready (.ok (some command)) [] := readFrame_frame framed
  rwa [List.append_nil, ← List.map_nil, ← List.drop_length (l := bytes)] at ready

theorem run_responds (handled : Server.Handled) (reached : system.Reachable Fresh c)
    (running : c.threads none = .running (.serve server) (Server.reply command.requestId handled >>= fun pass =>
      .done (.pass pass))) (level : Level c.state server engines (some command) exchanges answered counter)
    (made : Message.new command.requestId (respond handled.result) = .ok response) (framed : frame response = .ok out)
    (goesOn : handled.close = false) : ∃ c', system.Reachable Fresh c' ∧ c'.threads none = .idle ∧
      Level c'.state handled.state engines none (exchanges ++ [(command, response)]) answered counter := by
  obtain ⟨_, rfl, run⟩ := reached
  obtain ⟨⟨⟨stdio, engines', server', outcome, dropped, conduct, history⟩, parent⟩, threads⟩ := c
  obtain ⟨streams, engine, served, serving, listens⟩ := level
  obtain rfl : stdio = _ := streams
  obtain rfl : engines' = engines := engine
  obtain rfl : server' = server := served
  obtain rfl : outcome = none := serving
  obtain rfl : parent = _ := listens
  have same : response.requestId = command.requestId := (Message.new_eq_ok_iff.mp made).1
  rw [Isolated.reply_eq made] at running
  have locked := run.act none (s := (_, _)) (.stdio .lockWriter) () running
    ⟨⟨nofun, _, ⟨_, ⟨rfl, rfl⟩, rfl⟩, rfl⟩, rfl⟩
  have wrote := locked.act none (s := (_, _)) (.stdio (.writeFrame response)) (.ok () : Except ProtocolError Unit) rfl
    ⟨⟨fits_of_framed framed, _, ⟨_, Stdio.exec_writeFrame _ _ framed, rfl⟩, rfl⟩, rfl⟩
  have flushed := wrote.act none (s := (_, _)) (.stdio .flush) (.ok () : Except IoError Unit) rfl
    ⟨⟨nofun, _, ⟨_, .inl ⟨rfl, rfl⟩, rfl⟩, rfl⟩, rfl⟩
  have unlocked := flushed.act none (s := (_, _)) (.stdio .unlockWriter) () rfl ⟨⟨nofun, _, ⟨_, rfl, rfl⟩, rfl⟩, rfl⟩
  have finished := unlocked.finish none (s := (_, _)) rfl ⟨rfl, rfl⟩
  have received := finished.env (.inr (.inl ⟨response, out.length, rfl, readFrame_output framed, rfl⟩))
  refine ⟨_, ⟨_, rfl, received⟩, rfl, ?_, rfl, rfl, ?_, ?_⟩
  · show ({ output := out.drop out.length, nextCallbackId := counter } : Stdio (Option Empty)) = { nextCallbackId := counter }
    rw [List.drop_length]
  · show outcomeOf (.ok !handled.close) = none
    rw [goesOn]
    rfl
  · exact if_pos same

theorem run_loaded : ∃ c response response', system.Reachable Fresh c ∧ c.threads none = .idle ∧
    Level c.state (.loaded Isolated.sessionHost 1) (Isolated.sessionEngines .loaded) none
      [(Isolated.helloCommand, response), (Isolated.loadCommand, response')] [] 2 := by
  obtain ⟨hello, framed⟩ := Isolated.frame_helloCommand_isOk
  obtain ⟨load, framed'⟩ := Isolated.frame_loadCommand_isOk
  obtain ⟨response, made⟩ := respond_message (show Answerable (.ok .ok) from trivial) Isolated.helloCommand (by decide)
  obtain ⟨response', made'⟩ := respond_message (show Answerable (.ok .ok) from trivial) Isolated.loadCommand (by decide)
  obtain ⟨out, sends⟩ := frame_ok_isOk (Message.new_eq_ok_iff.mp made).2
  obtain ⟨out', sends'⟩ := frame_ok_isOk (Message.new_eq_ok_iff.mp made').2
  obtain ⟨c, reached, running, level⟩ := run_takes (c := ⟨({}, {}), fun _ => .idle⟩) ⟨_, rfl, .refl⟩ rfl
    ⟨rfl, rfl, rfl, rfl, rfl⟩ (show IsCommand Isolated.helloCommand.body from trivial) framed
  obtain ⟨c, reached, idle, level⟩ := run_responds ⟨.awaitLoad, .ok .ok, false⟩ reached running level made sends rfl
  obtain ⟨c, ⟨_, rfl, run⟩, running, level⟩ := run_takes reached idle level
    (show IsCommand Isolated.loadCommand.body from trivial) framed'
  obtain ⟨⟨⟨stdio, engines, server, outcome, dropped, conduct, history⟩, parent⟩, threads⟩ := c
  obtain ⟨streams, engine, served, serving, listens⟩ := level
  obtain rfl : stdio = _ := streams
  obtain rfl : engines = {} := engine
  obtain rfl : server = .awaitLoad := served
  have created := run.act none (s := (_, _)) .newEngine () running ⟨⟨nofun, _, rfl, rfl⟩, rfl⟩
  have resolved := created.act none (s := (_, _)) (.engine (.resolveEntrypoint "/a" "a.so"))
    (.ok "/a/a.so" : Except HostError String) rfl ⟨⟨nofun, _, ⟨_, ⟨trivial, rfl⟩, rfl⟩, rfl⟩, rfl⟩
  have registered := resolved.act none (s := (_, _)) (.engine (.register "/a/a.so" 1 1)) (.ok 1 : Except HostError UInt64) rfl
    ⟨⟨nofun, _, ⟨_, ⟨.queried .ok ⟨40, 1, true, true, true⟩, rfl, rfl⟩, rfl⟩, rfl⟩, rfl⟩
  obtain ⟨c, reached, idle, level⟩ := run_responds ⟨.loaded Isolated.sessionHost 1, .ok .ok, false⟩
    ⟨_, rfl, registered⟩ rfl ⟨rfl, rfl, rfl, serving, listens⟩ made' sends' rfl
  exact ⟨c, response, response', reached, idle, level⟩

theorem run_write {task : IsolatedTask} {d : Dialogue} {next : Except ProtocolError Unit → ProcessProg IsolatedResult}
    (run : system.Run ⟨d, fun _ => .idle⟩ c)
    (running : c.threads none = .running task (.act (.stdio (.writeFrame command)) next)) (framed : frame command = .ok bytes) :
    system.Run ⟨d, fun _ => .idle⟩ ⟨(({ c.state.1 with
      stdio := { c.state.1.stdio with buffered := c.state.1.stdio.buffered ++ bytes }
      history := .wrote command :: c.state.1.history } : Isolated Empty).put none
        ((c.state.1.conduct none).next (.stdio (.writeFrame command)) (.ok () : Except ProtocolError Unit)), c.state.2),
      update c.threads none (.running task (next (.ok ())))⟩ :=
  run.act none (s := (_, _)) (.stdio (.writeFrame command)) (.ok () : Except ProtocolError Unit) running
    ⟨⟨fits_of_framed framed, _, ⟨_, Stdio.exec_writeFrame _ _ framed, rfl⟩, rfl⟩, rfl⟩

end Run

end Dialogue

end RuntimeHost.Process
