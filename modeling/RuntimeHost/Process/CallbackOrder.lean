import RuntimeHost.Process.Callbacks
import RuntimeHost.Protocol.FrameSize

namespace RuntimeHost.Process

open Foundation Function System Protocol Native StdioProg

variable {Tid : Type}

/-- What a thread has in its hands: the locks, its frame and its place among the frames, and the reply it read. -/
structure CallLocal where
  call : Option BridgeCall := none
  finished : Bool := false
  writing : Bool := false
  reading : Bool := false
  frame : Option (Nat × Message) := none
  reply : Option Message := none

structure Callbacks.Inv (s : Callbacks Tid) (L : Tid → CallLocal) : Prop where
  fresh : ∀ t, s.begun t = none → L t = {}
  call : ∀ t, (L t).call = s.begun t
  sound : s.stdio.ended = false ∧ s.stdio.fallible = false
  writer : ∀ t, s.stdio.writer = some t ↔ (L t).writing = true
  reader : ∀ t, s.stdio.reader = some t ↔ (L t).reading = true
  framed : ∀ (k : Nat) t m, s.frames[k]? = some (t, m) ↔ (L t).frame = some (k, m)
  outgoing : Carries (s.stdio.output ++ s.stdio.buffered) ((s.frames.map Prod.snd).drop s.received)
  received : s.received ≤ s.frames.length
  asked : s.asked = ((s.frames.map Prod.snd).take s.received).drop s.replies.length
  answered : s.replies.length ≤ s.received
  incoming : ∃ bytes, s.stdio.unread = bytes.map .byte ∧ Carries bytes (s.replies.drop s.reads)
  reads : s.reads ≤ s.replies.length
  ids : ∀ (k : Nat) reply, s.replies[k]? = some reply →
    ∃ m, (s.frames.map Prod.snd)[k]? = some m ∧ reply.requestId = m.requestId
  turn : ∀ t, (L t).reading = true → (L t).reply = none → ∃ m, (L t).frame = some (s.reads, m)
  reply : ∀ t r, (L t).reply = some r → ∃ (k : Nat) (m : Message), (L t).frame = some (k, m) ∧ s.replies[k]? = some r
  returned : ∀ t call result, (t, call, result) ∈ s.returned → (L t).finished = true ∧
    ∀ k m, (L t).frame = some (k, m) → ∃ r, (L t).reply = some r ∧ result = call.interpret (.ok r.body)

namespace Callbacks

variable [DecidableEq Tid] {bridge : ProcessBridge} {s : Callbacks Tid} {L : Tid → CallLocal} {t : Tid}
  {l : CallLocal} {message : Message}

def orderly (Tid : Type) [DecidableEq Tid] (bridge : ProcessBridge) :
    System Tid (Callbacks Tid) StdioOp StdioOp.Answer BridgeCall BridgeResult :=
  (system Tid bridge).restrict InTurn

theorem keeps_nextCallbackId (active : l.call.isSome) :
    (orderly Tid bridge).Keeps Inv t .nextCallbackId l fun _ l' => l' = l := by
  rintro s L inv rfl id s' ⟨-, stdio, ⟨rfl, rfl⟩, rfl⟩
  exact ⟨L t, rfl, by rw [update_eq_self]; exact { inv with }⟩

theorem keeps_lockWriter (active : l.call.isSome) :
    (orderly Tid bridge).Keeps Inv t .lockWriter l fun _ l' => l' = { l with writing := true } := by
  rintro s L inv rfl _ s' ⟨-, stdio, ⟨free, rfl⟩, rfl⟩
  have ⟨fresh, call, sound, writer, reader, framed, outgoing, received, asked, answered, incoming, reads, ids, turn,
    reply, returned⟩ := inv
  refine ⟨_, rfl, ?_⟩
  constructor <;> try simp only [record, update_apply]
  all_goals grind

theorem keeps_unlockWriter (active : l.call.isSome) (held : l.writing = true) :
    (orderly Tid bridge).Keeps Inv t .unlockWriter l fun _ l' => l' = { l with writing := false } := by
  rintro s L inv rfl _ s' ⟨-, stdio, rfl, rfl⟩
  have ⟨fresh, call, sound, writer, reader, framed, outgoing, received, asked, answered, incoming, reads, ids, turn,
    reply, returned⟩ := inv
  refine ⟨_, rfl, ?_⟩
  constructor <;> try simp only [record, update_apply]
  all_goals grind

theorem keeps_lockReader (active : l.call.isSome) (unread : l.reply = none) :
    (orderly Tid bridge).Keeps Inv t .lockReader l fun _ l' => l' = { l with reading := true } := by
  rintro s L inv rfl _ s' ⟨own, stdio, ⟨free, rfl⟩, rfl⟩
  have ⟨fresh, call, sound, writer, reader, framed, outgoing, received, asked, answered, incoming, reads, ids, turn,
    reply, returned⟩ := inv
  obtain ⟨m, own⟩ := own rfl
  refine ⟨_, rfl, ?_⟩
  constructor <;> try simp only [record, update_apply]
  all_goals grind

theorem keeps_unlockReader (active : l.call.isSome) (held : l.reading = true) :
    (orderly Tid bridge).Keeps Inv t .unlockReader l fun _ l' => l' = { l with reading := false } := by
  rintro s L inv rfl _ s' ⟨-, stdio, rfl, rfl⟩
  have ⟨fresh, call, sound, writer, reader, framed, outgoing, received, asked, answered, incoming, reads, ids, turn,
    reply, returned⟩ := inv
  refine ⟨_, rfl, ?_⟩
  constructor <;> try simp only [record, update_apply]
  all_goals grind

theorem keeps_writeFrame (active : l.call.isSome) (running : l.finished = false) (silent : l.frame = none)
    (unread : l.reading = false) :
    (orderly Tid bridge).Keeps Inv t (.writeFrame message) l fun (written : Except ProtocolError Unit) l' =>
      match written with
      | .error _ => l' = l
      | .ok () => ∃ k, l' = { l with frame := some (k, message) } := by
  rintro s L inv rfl written s' ⟨-, stdio, written', rfl⟩
  have sound := inv.sound
  simp only [Stdio.exec] at written'
  split at written'
  · obtain ⟨rfl, rfl⟩ := written'
    exact ⟨L t, rfl, by rw [update_eq_self]; exact inv⟩
  · rename_i bytes encoded
    rcases written' with ⟨rfl, rfl⟩ | ⟨error, part, broken, -⟩
    · have ⟨fresh, call, sound, writer, reader, framed, outgoing, received, asked, answered, incoming, reads, ids, turn,
    reply, returned⟩ := inv
      refine ⟨_, ⟨s.frames.length, rfl⟩, ?_⟩
      constructor <;> try simp only [record, update_apply]
      case framed =>
        intro k t' m
        have old := framed k t' m
        rw [List.getElem?_append]
        split
        · grind
        · rcases Nat.eq_zero_or_pos (k - s.frames.length) with zero | later
          · rw [zero]
            grind
          · rw [List.getElem?_eq_none (by rw [List.length_singleton]; exact later)]
            grind
      case outgoing =>
        rw [List.map_append, List.drop_append_of_le_length (by simpa using received), ← List.append_assoc]
        exact outgoing.concat encoded
      case asked =>
        rw [List.map_append, List.take_append_of_le_length (by simpa using received)]
        exact asked
      case ids =>
        intro k r there
        obtain ⟨m, here, same⟩ := ids k r there
        exact ⟨m, by rw [List.map_append, List.getElem?_append_left (by grind)]; exact here, same⟩
      all_goals grind
    · rw [sound.2] at broken
      cases broken

theorem keeps_flush (active : l.call.isSome) :
    (orderly Tid bridge).Keeps Inv t .flush l fun (flushed : Except IoError Unit) l' =>
      flushed = .ok () ∧ l' = l := by
  rintro s L inv rfl flushed s' ⟨-, stdio, ⟨rfl, rfl⟩ | ⟨error, broken, -⟩, rfl⟩
  · refine ⟨L t, ⟨rfl, rfl⟩, ?_⟩
    rw [update_eq_self]
    exact { inv with outgoing := by simpa [record] using inv.outgoing }
  · rw [inv.sound.2] at broken
    cases broken

theorem keeps_readFrame (active : l.call.isSome) (held : l.reading = true) (unread : l.reply = none) :
    (orderly Tid bridge).Keeps Inv t (.readFrame .callback) l
      fun (response : Except ProtocolError (Option Message)) l' => ∃ k m r,
        l.frame = some (k, m) ∧ r.requestId = m.requestId ∧ response = .ok (some r) ∧
          l' = { l with reply := some r } := by
  rintro s L inv rfl response s' ⟨-, stdio, ⟨rest, ready, rfl⟩, rfl⟩
  have ⟨fresh, call, sound, writer, reader, framed, outgoing, received, asked, answered, incoming, reads, ids, turn,
    reply, returned⟩ := inv
  obtain ⟨bytes, unread', carries⟩ := incoming
  obtain ⟨m, own⟩ := turn t held unread
  rw [sound.1, unread'] at ready
  rw [← List.append_nil bytes] at carries
  obtain ⟨r, later, front, replies, rfl, rfl, carries'⟩ := carries.read ready
  have here : s.replies[s.reads]? = some r := by
    rw [← List.head?_drop, replies]
    rfl
  have later' : s.replies.drop (s.reads + 1) = later := by
    rw [← List.tail_drop, replies]
    rfl
  obtain ⟨m', there, same⟩ := ids _ r here
  have mine := (framed _ _ _).mpr own
  rw [List.getElem?_map, mine] at there
  cases there
  refine ⟨_, ⟨s.reads, m, r, own, same, rfl, rfl⟩, ?_⟩
  constructor <;> try simp only [record, update_apply]
  case incoming => exact ⟨front, rfl, by rw [later']; simpa using carries'⟩
  all_goals grind

omit [DecidableEq Tid] in
theorem inv_receive {message : Message} {output : List UInt8} (inv : s.Inv L)
    (ready : readFrame false (s.stdio.output.map .byte) = .ready (.ok (some message)) (output.map .byte)) :
    Inv { s with
      stdio := { s.stdio with output }
      asked := s.asked ++ [message]
      received := s.received + 1 } L := by
  have ⟨fresh, call, sound, writer, reader, framed, outgoing, received, asked, answered, incoming, reads, ids, turn,
    reply, returned⟩ := inv
  obtain ⟨m, later, front, frames, first, rest, carries⟩ := outgoing.read ready
  have same : output = front := by
    have injective : Function.Injective Input.byte := fun a b eq => by cases eq; rfl
    exact List.map_injective_iff.mpr injective rest
  cases first
  subst same
  have here : (s.frames.map Prod.snd)[s.received]? = some message := by
    rw [← List.head?_drop, frames]
    rfl
  have later' : (s.frames.map Prod.snd).drop (s.received + 1) = later := by
    rw [← List.tail_drop, frames]
    rfl
  refine { inv with outgoing := by rw [later']; exact carries, received := ?_, asked := ?_, answered := by grind }
  · have bound := (List.getElem?_eq_some_iff.mp here).1
    rw [List.length_map] at bound
    exact bound
  · rw [List.take_add_one, here, List.drop_append_of_le_length (by grind)]
    simp [asked]

omit [DecidableEq Tid] in
theorem inv_answer {message reply : Message} {asked : List Message} {bytes : List UInt8} (inv : s.Inv L)
    (first : s.asked = message :: asked) (same : reply.requestId = message.requestId)
    (encoded : frame reply = .ok bytes) :
    Inv { s with
      stdio := { s.stdio with unread := s.stdio.unread ++ bytes.map .byte }
      asked
      replies := s.replies ++ [reply] } L := by
  have ⟨fresh, call, sound, writer, reader, framed, outgoing, received, waiting, answered, incoming, reads, ids, turn,
    replied, returned⟩ := inv
  obtain ⟨old, unread, carries⟩ := incoming
  have next : ((s.frames.map Prod.snd).take s.received).drop s.replies.length = message :: asked :=
    waiting.symm.trans first
  have here : ((s.frames.map Prod.snd).take s.received)[s.replies.length]? = some message := by
    rw [← List.head?_drop, next]
    rfl
  have room := (List.getElem?_eq_some_iff.mp here).1
  refine { inv with asked := ?_, answered := by grind, incoming := ⟨old ++ bytes, ?_, ?_⟩,
                    reads := by grind, ids := ?_, reply := by grind }
  · rw [List.length_append, List.length_singleton, ← List.tail_drop, next]
    rfl
  · simp [unread]
  · rw [List.drop_append_of_le_length reads]
    exact carries.concat encoded
  · intro k r there
    rw [List.getElem?_append] at there
    split at there
    · exact ids k r there
    · have last : k = s.replies.length := by grind
      subst last
      cases (by simpa using there : reply = r)
      refine ⟨message, ?_, same⟩
      rw [List.getElem?_take] at here
      grind

omit [DecidableEq Tid] in
theorem inv_spill {stdio : Stdio Tid} (inv : s.Inv L) (spilled : s.stdio.Spill stdio) : Inv { s with stdio } L := by
  obtain ⟨count, -, -, rfl⟩ := spilled
  refine { inv with outgoing := ?_ }
  rw [List.append_assoc, List.take_append_drop]
  exact inv.outgoing

/-- What a thread knows when its `call` has returned: it wrote no frame, or it read the reply to its frame. -/
def Replied (answer : Except HostError MessageBody) (l : CallLocal) : Prop :=
  l.call.isSome ∧ l.finished = false ∧
    ∀ k m, l.frame = some (k, m) → ∃ r, l.reply = some r ∧ answer = .ok r.body

section Calls

variable {body : MessageBody}

theorem safe_send (active : l.call.isSome) (running : l.finished = false) (silent : l.frame = none)
    (unread : l.reading = false) (held : l.writing = true) :
    (orderly Tid bridge).Safe Inv t (fun sent l' =>
      match sent with
      | .error _ => l' = { l with writing := false }
      | .ok () => ∃ k, l' = { l with writing := false, frame := some (k, message) })
      (send message) l := by
  refine Keeps.imp (keeps_writeFrame active running silent unread) fun written l' outcome => ?_
  cases written with
  | error _ =>
    subst outcome
    exact Keeps.imp (keeps_unlockWriter active held) fun _ l' same => same
  | ok =>
    obtain ⟨k, rfl⟩ := outcome
    refine Keeps.imp (keeps_flush active) fun flushed l' ⟨done, same⟩ => ?_
    subst done same
    exact Keeps.imp (keeps_unlockWriter active held) fun _ l' same => ⟨k, same⟩

theorem safe_call (active : l.call.isSome) (fresh : l = { call := l.call }) :
    (orderly Tid bridge).Safe Inv t Replied (ProcessBridge.call body) l := by
  generalize l.call = call at *
  subst fresh
  have nothing : ∀ answer, Replied answer { call } := fun _ => ⟨active, rfl, by simp⟩
  refine Keeps.imp (keeps_nextCallbackId active) fun (id : UInt64) l' same => ?_
  subst same
  show (orderly Tid bridge).Safe Inv t _ (if id = 0 ∨ id > Sdk.i64Max then _ else _) _
  split
  · exact nothing _
  · cases made : Message.new id body with
    | error _ => exact nothing _
    | ok message =>
      obtain ⟨rfl, -⟩ := Message.new_eq_ok_iff.mp made
      refine Keeps.imp (keeps_lockWriter active) fun _ l' same => ?_
      subst same
      show (orderly Tid bridge).Safe Inv t _ (send message >>= _) _
      refine .bind (Safe.imp (safe_send active rfl rfl rfl rfl) fun sent l' outcome => ?_)
      cases sent with
      | error _ =>
        subst outcome
        exact nothing _
      | ok =>
        obtain ⟨k, rfl⟩ := outcome
        refine Keeps.imp (keeps_lockReader active rfl) fun _ l' same => ?_
        subst same
        refine Keeps.imp (keeps_readFrame active rfl rfl) fun response l' outcome => ?_
        obtain ⟨k', m, r, mine, same, rfl, rfl⟩ := outcome
        refine Keeps.imp (keeps_unlockReader active rfl) fun _ l' same' => ?_
        subst same'
        cases mine
        refine ⟨active, rfl, fun k' m' _ => ⟨r, rfl, ?_⟩⟩
        simp [accept, same]

theorem safe_handleCall {session : UInt64} (active : l.call.isSome) (fresh : l = { call := l.call }) :
    (orderly Tid bridge).Safe Inv t (fun result l' => ∃ answer, result = ProcessBridge.handleResult answer ∧
      Replied answer l') (bridge.handleCall session body) l := by
  unfold ProcessBridge.handleCall
  split
  · have idle : l.finished = false ∧ l.frame = none := by
      rw [fresh]
      exact ⟨rfl, rfl⟩
    exact ⟨.error .invalidHostResult, rfl, active, idle.1, by simp [idle.2]⟩
  · refine .bind (Safe.imp (safe_call active fresh) fun answer l' replied => ?_)
    exact ⟨answer, rfl, replied⟩

theorem safe_code (call : BridgeCall) :
    (orderly Tid bridge).Safe Inv t (fun result l' => ∃ answer, result = call.interpret answer ∧ Replied answer l')
      (call.code bridge) { call := some call } := by
  cases call with
  | invoke plugin session operation input =>
    refine .bind ?_
    unfold ProcessBridge.invoke
    split
    · exact ⟨.error .invalidHostResult, rfl, rfl, rfl, by simp⟩
    · refine .bind (Safe.imp (safe_call rfl rfl) fun answer l' replied => ?_)
      exact ⟨answer, rfl, replied⟩
  | retainHandle session objectId generation =>
    refine .bind (Safe.imp (safe_handleCall rfl rfl) fun result l' ⟨answer, same, replied⟩ => ?_)
    exact ⟨answer, by rw [same]; rfl, replied⟩
  | releaseHandle session objectId generation =>
    refine .bind (Safe.imp (safe_handleCall rfl rfl) fun result l' ⟨answer, same, replied⟩ => ?_)
    exact ⟨answer, by rw [same]; rfl, replied⟩

end Calls

def discipline (bridge : ProcessBridge) :
    Discipline (orderly Tid bridge) (fun s : Callbacks Tid => s = {}) CallLocal where
  inv := Inv
  resting _ _ := True
  finished _ call result l := ∃ answer, result = call.interpret answer ∧ Replied answer l
  init := by
    rintro s rfl
    refine ⟨fun _ => {}, ?_, fun _ => trivial⟩
    constructor <;> simp [Carries.nil]
  start := by
    rintro t call s L s' inv - ⟨idle, rfl⟩
    refine ⟨_, ?_, safe_code call⟩
    have ⟨fresh, called, sound, writer, reader, framed, outgoing, received, asked, answered, incoming, reads, ids,
      turn, reply, returned⟩ := inv
    constructor <;> try simp only [update_apply]
    all_goals grind
  finish := by
    rintro t call result s L s' inv ⟨answer, rfl, active, running, replied⟩ rfl
    refine ⟨{ L t with finished := true }, ?_, trivial⟩
    have ⟨fresh, called, sound, writer, reader, framed, outgoing, received, asked, answered, incoming, reads, ids,
      turn, reply, returned⟩ := inv
    constructor <;> try simp only [update_apply]
    all_goals grind
  env := by
    rintro s L s' inv (⟨message, output, ready, rfl⟩ | ⟨message, asked, reply, bytes, first, same, -, encoded, rfl⟩ |
      ⟨stdio, spilled, rfl⟩)
    · exact inv_receive inv ready
    · exact inv_answer inv first same encoded
    · exact inv_spill inv spilled

/-- In every run whose calls read in the order in which they wrote, each gets the reply to its own frame. -/
theorem own_replies_of_in_turn {c : CallbacksConfig Tid}
    (reached : (orderly Tid bridge).Reachable (fun s : Callbacks Tid => s = {}) c) : OwnReplies c.state := by
  obtain ⟨L, inv, -⟩ := (discipline bridge).valid_of_reachable reached
  intro t call result finished k m framed
  have mine := (inv.framed k t m).mp framed
  obtain ⟨r, read, same⟩ := (inv.returned t call result finished).2 k m mine
  obtain ⟨k', m', mine', there⟩ := inv.reply t r read
  rw [mine] at mine'
  cases mine'
  exact ⟨r, there, same⟩

section Runs

variable {bytes : List UInt8}

omit [DecidableEq Tid] in
theorem exec_writeFrame (t : Tid) (s : Callbacks Tid) (framed : frame message = .ok bytes) :
    exec t (.writeFrame message) s (.ok ()) { s with
      stdio := { s.stdio with buffered := s.stdio.buffered ++ bytes }
      frames := s.frames ++ [(t, message)] } := by
  refine ⟨{ s.stdio with buffered := s.stdio.buffered ++ bytes }, ?_, rfl⟩
  simp only [Stdio.exec, framed]
  exact .inl ⟨rfl, trivial⟩

omit [DecidableEq Tid] in
theorem exec_readFrame (t : Tid) (s : Callbacks Tid) {site : ReadSite} {rest : List Input}
    (framed : frame message = .ok bytes) (unread : s.stdio.unread = bytes.map .byte ++ rest) :
    exec t (.readFrame site) s (.ok (some message)) { s with
      stdio := { s.stdio with unread := rest }
      reads := s.reads + 1 } := by
  refine ⟨{ s.stdio with unread := rest }, ⟨rest, ?_, rfl⟩, rfl⟩
  rw [unread]
  exact readFrame_frame framed

omit [DecidableEq Tid] in
theorem receives (s : Callbacks Tid) {rest : List UInt8} (framed : frame message = .ok bytes)
    (output : s.stdio.output = bytes ++ rest) :
    s.Receives { s with
      stdio := { s.stdio with output := rest }
      asked := s.asked ++ [message]
      received := s.received + 1 } := by
  refine ⟨message, rest, ?_, rfl⟩
  rw [output, List.map_append]
  exact readFrame_frame framed

def retainCall : BridgeCall := .retainHandle 1 1 1

def firstRequest : Message := ⟨2, .retainHandle 1 1, by decide⟩

def secondRequest : Message := ⟨4, .retainHandle 1 1, by decide⟩

def firstReply : Message := ⟨2, .callbackResult [], by decide⟩

def secondReply : Message := ⟨4, .callbackResult [], by decide⟩

def waiting (id : UInt64) : StdioProg BridgeResult := do
  lockReader
  let response ← readFrame .callback
  unlockReader
  return .unit (ProcessBridge.handleResult (accept id response))

theorem both_answered : ∃ (c : CallbacksConfig Bool) (first second : List UInt8),
    (orderly Bool ⟨1, 1⟩).Reachable (fun s => s = {}) c ∧ frame firstReply = .ok first ∧
      frame secondReply = .ok second ∧ c.state.stdio.unread = first.map .byte ++ second.map .byte ∧
      c.state.stdio.reader = none ∧ c.state.reads = 0 ∧ c.state.returned = [] ∧
      c.state.frames = [(false, firstRequest), (true, secondRequest)] ∧ c.state.replies = [firstReply, secondReply] ∧
      c.threads false = .running retainCall (waiting 2) ∧ c.threads true = .running retainCall (waiting 4) := by
  obtain ⟨a, asked⟩ := frame_retainHandle_isOk (m := firstRequest) rfl
  obtain ⟨b, asked'⟩ := frame_retainHandle_isOk (m := secondRequest) rfl
  obtain ⟨r, replied⟩ := frame_callbackResult_nil_isOk (m := firstReply) rfl
  obtain ⟨q, replied'⟩ := frame_callbackResult_nil_isOk (m := secondReply) rfl
  have idle : (orderly Bool ⟨1, 1⟩).Run ⟨{}, fun _ => .idle⟩ ⟨{}, fun _ => .idle⟩ := .refl
  have numbered := (idle.start false retainCall rfl ⟨rfl, rfl⟩).act false .nextCallbackId (2 : UInt64) rfl
    ⟨nofun, _, ⟨rfl, rfl⟩, rfl⟩
  have written := (numbered.act false .lockWriter () rfl ⟨nofun, _, ⟨rfl, rfl⟩, rfl⟩).act false
    (.writeFrame firstRequest) (.ok ()) rfl ⟨nofun, exec_writeFrame _ _ asked⟩
  have sent := (written.act false .flush (.ok ()) rfl ⟨nofun, _, .inl ⟨rfl, rfl⟩, rfl⟩).act false .unlockWriter () rfl
    ⟨nofun, _, rfl, rfl⟩
  have numbered' := (sent.start true retainCall rfl ⟨rfl, rfl⟩).act true .nextCallbackId (4 : UInt64) rfl
    ⟨nofun, _, ⟨rfl, rfl⟩, rfl⟩
  have written' := (numbered'.act true .lockWriter () rfl ⟨nofun, _, ⟨rfl, rfl⟩, rfl⟩).act true
    (.writeFrame secondRequest) (.ok ()) rfl ⟨nofun, exec_writeFrame _ _ asked'⟩
  have sent' := (written'.act true .flush (.ok ()) rfl ⟨nofun, _, .inl ⟨rfl, rfl⟩, rfl⟩).act true .unlockWriter () rfl
    ⟨nofun, _, rfl, rfl⟩
  have received := (sent'.env (.inl (receives _ asked rfl))).env (.inl (receives _ asked' (List.append_nil b).symm))
  have answered := (received.env (.inr (.inl ⟨_, _, firstReply, r, rfl, rfl, trivial, replied, rfl⟩))).env
    (.inr (.inl ⟨_, _, secondReply, q, rfl, rfl, trivial, replied', rfl⟩))
  exact ⟨_, r, q, ⟨{}, rfl, answered⟩, replied, replied', rfl, rfl, rfl, rfl, rfl, rfl, rfl, rfl⟩

/-- The call that wrote last takes the reader first and finds the reply to the other one. -/
theorem replies_crossed : ∃ c : CallbacksConfig Bool, (system Bool ⟨1, 1⟩).Reachable (fun s => s = {}) c ∧
    ¬OwnReplies c.state := by
  obtain ⟨⟨s, threads⟩, first, second, ⟨_, rfl, run⟩, replied, replied', unread, free, zero, nothing, frames, replies,
    here, there⟩ := both_answered
  have locked := run.of_restrict.act true .lockReader () there ⟨_, ⟨free, rfl⟩, rfl⟩
  have read := (locked.act true (.readFrame .callback) (.ok (some firstReply)) rfl
    (exec_readFrame _ _ replied unread)).act true .unlockReader () rfl ⟨_, rfl, rfl⟩
  have finished := read.finish true rfl rfl
  refine ⟨_, ⟨{}, rfl, finished⟩, fun own => ?_⟩
  obtain ⟨r, there, result⟩ := own true retainCall _ (.head _) 1 secondRequest (congrArg (·[1]?) frames)
  have last : some secondReply = some r := (congrArg (·[1]?) replies).symm.trans there
  cases last
  cases result

/-- In the order in which they wrote, both calls find their own replies. -/
theorem own_replies_in_turn : ∃ c : CallbacksConfig Bool, OwnReplies c.state ∧
    c.state.returned = [(true, retainCall, .unit (.ok ())), (false, retainCall, .unit (.ok ()))] := by
  obtain ⟨⟨s, threads⟩, first, second, ⟨_, rfl, run⟩, replied, replied', unread, free, zero, nothing, frames, replies,
    here, there⟩ := both_answered
  have turn : s.frames[s.reads]? = some (false, firstRequest) := by rw [zero, frames]; rfl
  have turn' : s.frames[s.reads + 1]? = some (true, secondRequest) := by rw [zero, frames]; rfl
  have locked := run.act false .lockReader () here ⟨fun _ => ⟨_, turn⟩, _, ⟨free, rfl⟩, rfl⟩
  have read := (locked.act false (.readFrame .callback) (.ok (some firstReply)) rfl
    ⟨nofun, exec_readFrame _ _ replied unread⟩).act false .unlockReader () rfl ⟨nofun, _, rfl, rfl⟩
  have locked' := (read.finish false rfl rfl).act true .lockReader () there
    ⟨fun _ => ⟨_, turn'⟩, _, ⟨rfl, rfl⟩, rfl⟩
  have read' := (locked'.act true (.readFrame .callback) (.ok (some secondReply)) rfl
    ⟨nofun, exec_readFrame _ _ replied' (List.append_nil _).symm⟩).act true .unlockReader () rfl ⟨nofun, _, rfl, rfl⟩
  have finished := read'.finish true rfl rfl
  exact ⟨_, own_replies_of_in_turn ⟨{}, rfl, finished⟩, congrArg (fun returned =>
    (true, retainCall, .unit (.ok ())) :: (false, retainCall, .unit (.ok ())) :: returned) nothing⟩

end Runs

end Callbacks

end RuntimeHost.Process
