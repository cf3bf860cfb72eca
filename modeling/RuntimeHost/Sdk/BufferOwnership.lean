import RuntimeHost.Sdk.Buffer

namespace RuntimeHost.Sdk

open Foundation Function System Abi BufferProg

namespace Custody

variable {x : Custody}

@[simp] theorem next_host (op : HostOp) (answer : op.Answer) : x.next (.host op) answer = x := by
  simp [next, BufferOp.transfer]

@[simp] theorem next_session (op : SessionOp) (answer : op.Answer) : x.next (.session op) answer = x := by
  simp [next, BufferOp.transfer]

@[simp] theorem next_read (buffer : HmclOwnedBuffer) (answer : Unwinding (List UInt8)) :
    x.next (.read buffer) answer = x := by
  simp [next, BufferOp.transfer]

@[simp] theorem next_write (buffer : HmclOwnedBuffer) (bytes : List UInt8) : x.next (.write buffer bytes) () = x := by
  simp [next, BufferOp.transfer]

@[simp] theorem next_recordCleanupFailure : x.next .recordCleanupFailure () = x := by
  simp [next, BufferOp.transfer]

def took (x : Custody) (requested : Option UInt64) (buffer : HmclOwnedBuffer) : Custody :=
  { x with transfers := [.delivered requested buffer] }

theorem next_invoke (clear : x.transfers = []) (plugin token : UInt64) (operation input : HmclSlice)
    (status : HmclStatus) (output : HmclOwnedBuffer) :
    x.next (.invoke plugin token operation input) (status, output) = if status.isOk then x.took none output else x := by
  show { x with transfers := x.transfers ++ if status.isOk then _ else _ } = _
  split
  · rw [clear]
    rfl
  · rw [List.append_nil]

theorem next_allocate (clear : x.transfers = []) (length : UInt64) (status : HmclStatus) (output : HmclOwnedBuffer) :
    x.next (.allocate length) (status, output) = if status.isOk then x.took (some length) output else x := by
  show { x with transfers := x.transfers ++ if status.isOk then _ else _ } = _
  split
  · rw [clear]
    rfl
  · rw [List.append_nil]

def gaveBack (x : Custody) (requested : Option UInt64) (buffer : HmclOwnedBuffer) : Custody :=
  { x with transfers := [.delivered requested buffer, .released buffer] }

theorem settled_gaveBack (requested : Option UInt64) (buffer : HmclOwnedBuffer) :
    Settled (x.gaveBack requested buffer).transfers :=
  .inr ⟨requested, buffer, rfl⟩

theorem next_transfers (op : BufferOp) (answer : op.Answer) :
    (x.next op answer).transfers = x.transfers ++ op.transfer answer := by
  cases op with
  | plugin session operation input callback =>
    cases answer with
    | panicked => rfl
    | returned result => cases result <;> simp [next, BufferOp.transfer]
  | _ => rfl

theorem next_value {op : BufferOp} {answer : op.Answer} {value : Value} (yielded : (x.next op answer).value = some value) :
    x.value = some value ∨ ∃ session operation input callback, (⟨op, answer⟩ : (op : BufferOp) × op.Answer) =
      ⟨.plugin session operation input callback, .returned (.ok value)⟩ := by
  cases op with
  | plugin session operation input callback =>
    cases answer with
    | panicked => exact .inl yielded
    | returned result =>
      cases result with
      | error error => exact .inl yielded
      | ok value' =>
        cases yielded
        exact .inr ⟨session, operation, input, callback, rfl⟩
  | _ => exact .inl yielded

theorem next_releaseBuffer {requested : Option UInt64} {buffer : HmclOwnedBuffer} (held : x.holds requested buffer)
    (status : HmclStatus) : x.next (.releaseBuffer buffer) status = x.gaveBack requested buffer := by
  show { x with transfers := x.transfers ++ [Transfer.released buffer] } = _
  rw [held]
  rfl

theorem next_orderly {op : BufferOp} {answer : op.Answer} (orderly : Orderly x.transfers) (allowed : x.allows op) :
    Orderly (x.next op answer).transfers := by
  have idle : op.transfer answer = [] → Orderly (x.next op answer).transfers := by
    intro quiet
    rw [next_transfers, quiet, List.append_nil]
    exact orderly
  have receives : ∀ (requested : Option UInt64) (status : HmclStatus) (output : HmclOwnedBuffer), x.transfers = [] →
      op.transfer answer = (if status.isOk then [.delivered requested output] else []) →
        Orderly (x.next op answer).transfers := by
    intro requested status output clear taken
    rw [next_transfers, clear, taken]
    split
    · exact .inr ⟨requested, output, rfl⟩
    · exact .inl (.inl rfl)
  cases op with
  | invoke plugin token operation input => exact receives none answer.1 answer.2 allowed rfl
  | allocate length => exact receives (some length) answer.1 answer.2 allowed rfl
  | releaseBuffer buffer =>
    obtain ⟨requested, held⟩ := allowed
    rw [show x.next (.releaseBuffer buffer) answer = _ from next_releaseBuffer held answer]
    exact .inl (settled_gaveBack requested buffer)
  | _ => exact idle rfl

end Custody

section Follows

variable {x : Custody}

theorem follows_onHost {α : Type} (p : HostProg α) :
    (onHost p).Follows Custody.typestate (fun _ x' => x' = x) x := by
  induction p with
  | done a => rfl
  | act op next ih =>
    refine ⟨trivial, fun (answer : op.Answer) => ?_⟩
    show Prog.Follows _ _ (onHost (next answer)) (x.next (.host op) answer)
    rw [Custody.next_host]
    exact ih answer

theorem follows_onSession {α : Type} (p : SessionProg α) :
    (onSession p).Follows Custody.typestate (fun _ x' => x' = x) x := by
  induction p with
  | done a => rfl
  | act op next ih =>
    refine ⟨trivial, fun (answer : op.Answer) => ?_⟩
    show Prog.Follows _ _ (onSession (next answer)) (x.next (.session op) answer)
    rw [Custody.next_session]
    exact ih answer

variable {requested : Option UInt64} {buffer : HmclOwnedBuffer}

theorem follows_release (held : x.holds requested buffer) : (HostBuffer.release buffer).Follows Custody.typestate
    (fun _ x' => x' = x.gaveBack requested buffer) x :=
  ⟨⟨requested, held⟩, Custody.next_releaseBuffer held⟩

theorem follows_bufferDrop (held : x.holds requested buffer) : (HostBuffer.drop buffer).Follows Custody.typestate
    (fun _ x' => x' = x.gaveBack requested buffer) x := by
  refine ⟨⟨requested, held⟩, fun (status : HmclStatus) => ?_⟩
  show Prog.Follows Custody.typestate _ (if status.isOk then _ else _) (x.next (.releaseBuffer buffer) status)
  rw [Custody.next_releaseBuffer held]
  split
  · rfl
  · exact ⟨trivial, fun _ => Custody.next_recordCleanupFailure⟩

theorem follows_copyBytes (held : x.holds none buffer) (valid : buffer.hasValidLayout = true) :
    (HostBuffer.copyBytes buffer).Follows Custody.typestate (fun _ x' => x' = x) x := by
  unfold HostBuffer.copyBytes
  split
  · rfl
  · split
    · rfl
    · refine ⟨⟨held, valid⟩, fun (copied : Unwinding (List UInt8)) => ?_⟩
      cases copied with
      | panicked => exact Custody.next_read _ _
      | returned bytes => exact Custody.next_read _ _

theorem follows_fill {bytes : List UInt8} {length : UInt64} (held : x.holds (some length) buffer)
    (valid : buffer.satisfiesAllocationRequest length = true) (size : length.toNat = bytes.length) :
    (HostBuffer.fill buffer bytes).Follows Custody.typestate (fun _ x' => x' = x) x := by
  unfold HostBuffer.fill
  split
  · rfl
  · exact ⟨⟨length, held, valid, size⟩, fun _ => Custody.next_write _ _⟩

theorem follows_hostLease {α : Type} {body : BufferProg α} {refused : Error → α} {post : α → Custody → Prop}
    (unleased : ∀ error, post (refused error) x) (leased : body.Follows Custody.typestate post x) :
    (onHost HostState.lease >>= fun lease => match lease with
      | .error error => .done (refused error)
      | .ok () => body >>= fun result => onHost HostLease.drop >>= fun _ => .done result).Follows
        Custody.typestate post x := by
  refine .bind (Prog.Follows.imp (follows_onHost _) fun lease x' same => ?_)
  subst same
  cases lease with
  | error error => exact unleased error
  | ok =>
    refine .bind (Prog.Follows.imp leased fun result x' reached => ?_)
    refine .bind (Prog.Follows.imp (follows_onHost _) fun _ x'' same => ?_)
    subst same
    exact reached

theorem follows_invokeLeased (context : ContextInner) (operation : String) (input : Value) (clear : x.transfers = []) :
    (context.invokeLeased operation input).Follows Custody.typestate (fun _ x' => Custody.Settled x'.transfers) x := by
  unfold ContextInner.invokeLeased
  split
  · exact .inl clear
  · split
    · exact .inl clear
    · split
      · exact .inl clear
      · refine ⟨clear, fun (answer : HmclStatus × HmclOwnedBuffer) => ?_⟩
        obtain ⟨status, output⟩ := answer
        show Prog.Follows Custody.typestate _ (if !status.isOk then _ else if !output.hasValidLayout then _ else _)
          (x.next (.invoke ..) (status, output))
        rw [Custody.next_invoke clear]
        cases status.isOk with
        | false => exact .inl clear
        | true =>
          cases valid : output.hasValidLayout with
          | false =>
            refine .bind (Prog.Follows.imp (follows_bufferDrop rfl) fun _ x' same => ?_)
            subst same
            exact Custody.settled_gaveBack ..
          | true =>
            refine .bind (Prog.Follows.imp (follows_copyBytes rfl valid) fun copied x' same => ?_)
            subst same
            cases copied with
            | panicked =>
              refine .bind (Prog.Follows.imp (follows_bufferDrop rfl) fun _ x' same => ?_)
              subst same
              exact Custody.settled_gaveBack ..
            | returned copied =>
              cases copied with
              | error error =>
                refine .bind (Prog.Follows.imp (follows_bufferDrop rfl) fun _ x' same => ?_)
                subst same
                exact Custody.settled_gaveBack ..
              | ok bytes =>
                refine .bind (Prog.Follows.imp (follows_release rfl) fun released x' same => ?_)
                subst same
                cases released with
                | error error => exact Custody.settled_gaveBack ..
                | ok => exact Custody.settled_gaveBack ..

theorem follows_invoke (context : ContextInner) (operation : String) (input : Value) (clear : x.transfers = []) :
    (context.invoke operation input).Follows Custody.typestate (fun _ x' => Custody.Settled x'.transfers) x :=
  follows_hostLease (fun _ => .inl clear) (follows_invokeLeased context operation input clear)

/-- What `allocate_wire` comes to: the descriptor of a suitable allocation with its length set, or nothing. -/
def Allocates (x : Custody) (bytes : List UInt8) : Except Error HmclOwnedBuffer → Custody → Prop
  | .error _, x' => x'.value = x.value ∧ Custody.Settled x'.transfers
  | .ok output, x' => x'.value = x.value ∧ ∃ allocated, x'.holds (some output.len) allocated ∧
    allocated.satisfiesAllocationRequest output.len = true ∧ output = { allocated with len := output.len } ∧
    output.len.toNat = bytes.length

theorem follows_allocateLeased (context : ContextInner) (bytes : List UInt8) (clear : x.transfers = []) :
    (context.allocateLeased bytes).Follows Custody.typestate (Allocates x bytes) x := by
  unfold ContextInner.allocateLeased
  split
  · exact ⟨rfl, .inl clear⟩
  · split
    · exact ⟨rfl, .inl clear⟩
    · split
      · exact ⟨rfl, .inl clear⟩
      · rename_i fits
        have size : (UInt64.ofNat bytes.length).toNat = bytes.length := UInt64.toNat_ofNat_of_lt' (not_le.mp fits)
        refine ⟨clear, fun (answer : HmclStatus × HmclOwnedBuffer) => ?_⟩
        obtain ⟨status, output⟩ := answer
        show Prog.Follows Custody.typestate _ (if !status.isOk then _ else
          if !output.satisfiesAllocationRequest (UInt64.ofNat bytes.length) then _ else _)
          (x.next (.allocate _) (status, output))
        rw [Custody.next_allocate clear]
        cases status.isOk with
        | false => exact ⟨rfl, .inl clear⟩
        | true =>
          cases valid : output.satisfiesAllocationRequest (UInt64.ofNat bytes.length) with
          | false =>
            refine .bind (Prog.Follows.imp (follows_bufferDrop rfl) fun _ x' same => ?_)
            subst same
            exact ⟨rfl, Custody.settled_gaveBack ..⟩
          | true =>
            refine .bind (Prog.Follows.imp (follows_fill rfl valid size) fun _ x' same => ?_)
            subst same
            exact ⟨rfl, output, rfl, valid, rfl, size⟩

theorem follows_allocateWire (context : ContextInner) (bytes : List UInt8) (clear : x.transfers = []) :
    (context.allocateWire bytes).Follows Custody.typestate (Allocates x bytes) x :=
  follows_hostLease (fun _ => ⟨rfl, .inl clear⟩) (follows_allocateLeased context bytes clear)

/-- What has happened to the descriptors when a call of the plugin's `invoke` callback comes back. -/
def Delivers (returned : InvokeReturn) (x : Custody) : Prop :=
  match returned.written with
  | none => returned.status ≠ .ok ∧ Custody.Settled x.transfers
  | some written => returned.status = .ok ∧ ∃ value wire allocated, x.value = some value ∧ value.toWire = .ok wire ∧
    x.holds (some written.len) allocated ∧ allocated.satisfiesAllocationRequest written.len = true ∧
    written = { allocated with len := written.len } ∧ written.len.toNat = wire.length

def DeliversOrUnwinds : Unwinding InvokeReturn → Custody → Prop
  | .returned returned, x => Delivers returned x
  | .panicked, x => Custody.Settled x.transfers

variable {contexts : SessionRef → ContextInner}

theorem follows_invokeAdmitted (session : SessionRef) (operation : String) (input : Value) (callback : UInt64)
    (clear : x.transfers = []) : (Private.invokeAdmitted contexts session operation input callback).Follows
      Custody.typestate DeliversOrUnwinds x := by
  have refused : ∀ answer, (x.next (.plugin session operation input callback) answer).transfers = [] := by
    intro answer
    cases answer with
    | panicked => simpa [Custody.next, BufferOp.transfer] using clear
    | returned result => cases result <;> simpa [Custody.next, BufferOp.transfer] using clear
  refine ⟨trivial, fun (answer : Unwinding (Except Error Value)) => ?_⟩
  cases answer with
  | panicked => exact .inl (refused _)
  | returned result =>
    cases result with
    | error error => exact ⟨by decide, .inl (refused _)⟩
    | ok value =>
      dsimp only [Prog.bind]
      split
      · exact ⟨by decide, .inl (refused _)⟩
      · rename_i wire encoded
        refine .bind (Prog.Follows.imp (follows_allocateWire _ wire (refused _)) fun result x' reached => ?_)
        cases result with
        | error error => exact ⟨by decide, reached.2⟩
        | ok output =>
          obtain ⟨kept, allocated, held, suits, same, size⟩ := reached
          exact ⟨rfl, value, wire, allocated, kept, encoded, held, suits, same, size⟩

theorem follows_invokeSession (operation : String) (input : Value) (callback : UInt64) (clear : x.transfers = []) :
    (Private.invokeSession contexts operation input callback).Follows Custody.typestate DeliversOrUnwinds x := by
  have refused : DeliversOrUnwinds (.returned ⟨.pluginError, none⟩) x := ⟨by decide, .inl clear⟩
  refine .bind (Prog.Follows.imp (follows_onSession _) fun slot x' same => ?_)
  subst same
  cases slot with
  | none =>
    refine .bind (Prog.Follows.imp (follows_onSession _) fun _ x' same => ?_)
    subst same
    exact refused
  | some session =>
    refine .bind (Prog.Follows.imp (follows_onSession _) fun _ x' same => ?_)
    subst same
    refine .bind (Prog.Follows.imp (follows_onSession _) fun (admitted : Bool) x' same => ?_)
    subst same
    cases admitted with
    | false =>
      refine .bind (Prog.Follows.imp (follows_onSession _) fun _ x' same => ?_)
      subst same
      refine .bind (Prog.Follows.imp (follows_onSession _) fun _ x' same => ?_)
      subst same
      exact refused
    | true =>
      refine .bind (Prog.Follows.imp (follows_onSession _) fun _ x' same => ?_)
      subst same
      refine .bind (Prog.Follows.imp (follows_invokeAdmitted session operation input callback clear)
        fun returned x' reached => ?_)
      refine .bind (Prog.Follows.imp (follows_onSession _) fun _ x' same => ?_)
      subst same
      refine .bind (Prog.Follows.imp (follows_onSession _) fun _ x' same => ?_)
      subst same
      exact reached

theorem decodeArguments_error {call : InvokeCall} {status : HmclStatus}
    (refused : Private.decodeArguments call = .error status) : status = .invalidArgument := by
  have slices : ∀ slice, readSlice slice = .error status → status = .invalidArgument := by
    intro slice failed
    unfold readSlice at failed
    split at failed
    · exact (Except.error.inj failed).symm
    · split at failed
      · split at failed
        · cases failed
        · exact (Except.error.inj failed).symm
      · split at failed
        · exact (Except.error.inj failed).symm
        · cases failed
  unfold Private.decodeArguments at refused
  split at refused
  · exact (Except.error.inj refused).symm
  · rcases bind_eq_error.mp refused with failed | ⟨operation, -, refused⟩
    · exact slices _ failed
    · rcases bind_eq_error.mp refused with failed | ⟨input, -, refused⟩
      · exact slices _ failed
      · rcases bind_eq_error.mp refused with failed | ⟨text, -, refused⟩
        · unfold okOr at failed
          split at failed
          · cases failed
          · exact (Except.error.inj failed).symm
        · rcases bind_eq_error.mp refused with failed | ⟨value, -, refused⟩
          · unfold orError at failed
            split at failed
            · cases failed
            · exact (Except.error.inj failed).symm
          · cases refused

theorem follows_invokePlugin (call : InvokeCall) (clear : x.transfers = []) :
    (Private.invokePlugin contexts call).Follows Custody.typestate Delivers x := by
  have inner : (Private.invokeInner contexts call).Follows Custody.typestate DeliversOrUnwinds x := by
    unfold Private.invokeInner
    split
    · rename_i refused
      rw [decodeArguments_error refused]
      exact ⟨by decide, .inl clear⟩
    · exact follows_invokeSession _ _ _ clear
  refine .bind (Prog.Follows.imp inner fun result x' reached => ?_)
  cases result with
  | panicked => exact ⟨by decide, reached⟩
  | returned returned => exact reached

def BufferTask.Ends : BufferTask → BufferResult → Custody → Prop
  | .invoke .., .invoked _, x => Custody.Settled x.transfers
  | .invokePlugin _, .plugin returned, x => Delivers returned x
  | _, _, _ => False

theorem follows_bufferTask (task : BufferTask) : (task.code contexts).Follows Custody.typestate task.Ends {} := by
  cases task with
  | invoke context operation input => exact .bind (follows_invoke context operation input rfl)
  | invokePlugin call => exact .bind (follows_invokePlugin call rfl)

end Follows

namespace Buffers

variable {Thread : Type} [DecidableEq Thread] {contexts : SessionRef → ContextInner}

theorem tracks : (system Thread contexts).Tracks Custody.typestate Buffers.custody BufferTask.Ends {} where
  start t task s s' begun := ⟨{}, by rw [begun, put], follows_bufferTask task⟩
  exec t op s answer s' answered := by
    rw [answered]
    rfl
  finish t task result s s' ended := by
    rw [ended]
    rfl
  env s s' moved := moved.elim

omit [DecidableEq Thread] in
theorem after_transfers (x : Custody) (events : List (BufferEvent Thread)) :
    (Custody.typestate.after x events).transfers = x.transfers ++ transfers events := by
  induction events generalizing x with
  | nil => exact (List.append_nil _).symm
  | cons event events ih =>
    show (Custody.typestate.after (x.next event.op event.answer) events).transfers = _
    rw [ih, Custody.next_transfers, List.append_assoc]
    rfl

omit [DecidableEq Thread] in
theorem after_value {x : Custody} {events : List (BufferEvent Thread)} {value : Value}
    (yielded : (Custody.typestate.after x events).value = some value) : x.value = some value ∨ Yields events value := by
  induction events generalizing x with
  | nil => exact .inl yielded
  | cons event events ih =>
    obtain ⟨t, op, answer, before, after⟩ := event
    rcases ih (x := x.next op answer) yielded with here | ⟨session, operation, input, callback, t', s, s', present⟩
    · rcases Custody.next_value here with earlier | ⟨session, operation, input, callback, same⟩
      · exact .inl earlier
      · cases same
        exact .inr ⟨session, operation, input, callback, t, before, after, List.mem_cons_self⟩
    · exact .inr ⟨session, operation, input, callback, t', s, s', List.mem_cons_of_mem _ present⟩

def AllOrderly (s : Buffers Thread) : Prop := ∀ t, Orderly (s.custody t).transfers

theorem AllOrderly.put {s : Buffers Thread} (orderly : s.AllOrderly) {t : Thread × Nat} {x : Custody}
    (here : Orderly x.transfers) : (s.put t x).AllOrderly := by
  intro t'
  by_cases same : t' = t
  · subst same
    simpa [Buffers.put] using here
  · simpa [Buffers.put, same] using orderly t'

theorem allOrderly_reached {c : Config (Thread × Nat) (Buffers Thread) BufferOp BufferOp.Answer BufferTask BufferResult}
    (reached : (system Thread contexts).Reachable (fun s => s = {}) c) : c.state.AllOrderly := by
  have clear : Orderly ({} : Custody).transfers := .inl (.inl rfl)
  refine tracks.invariant (fun s same t => same ▸ rfl) ?_ ?_ ?_ ?_ ?_ reached
  · rintro s rfl t
    exact clear
  · rintro t task s _ orderly - rfl
    exact orderly.put clear
  · rintro t op s answer _ orderly allowed rfl
    exact orderly.put (Custody.next_orderly (orderly t) allowed)
  · rintro t task result s _ orderly - rfl
    exact orderly.put clear
  · exact fun s s' _ moved => moved.elim

/-- The SDK gives back every descriptor that a Host delivers, once and as it was, or hands it over with the status
`Ok`; and it dereferences none that is not valid. -/
theorem ownership_safe {c : BuffersRecordConfig Thread}
    (records : (system Thread contexts).Records (fun s => s = {}) c) : OwnershipSafe c := by
  have allowed := tracks.allowed (fun s same t => same ▸ rfl) records
  have ends : ∀ {t task events result}, (t, task, events, result) ∈ c.state.returned →
      task.Ends result (Custody.typestate.after {} events) :=
    fun returned => (follows_bufferTask _).takes (records.returned returned).2
  have settled : ∀ {events : List (BufferEvent Thread)},
      Custody.Settled (Custody.typestate.after {} events).transfers → Custody.Settled (transfers events) := by
    intro events settled
    rwa [after_transfers] at settled
  refine ⟨?_, ?_, ?_, allOrderly_reached records.reachable, ?_, ?_, ?_⟩
  · intro t context operation input events result returned
    exact settled (ends returned)
  · intro t call events status returned
    obtain ⟨refused, nothing⟩ := ends returned
    exact ⟨refused, settled nothing⟩
  · intro t call events status written returned
    obtain ⟨ok, value, wire, allocated, yielded, encoded, held, suits, same, size⟩ := ends returned
    refine ⟨ok, allocated, value, wire, ?_, encoded, ?_, suits, same, size⟩
    · rcases after_value yielded with none | yields
      · cases none
      · exact yields
    · rwa [Custody.holds, after_transfers] at held
  · intro event present buffer same
    have here := allowed event present
    rw [same] at here
    exact here
  · intro event present buffer same
    have here := allowed event present
    rw [same] at here
    exact here
  · intro event present buffer bytes same
    have here := allowed event present
    rw [same] at here
    exact here

/-- A Host delivers a descriptor without a pointer; it gets it back, and the operation fails. -/
theorem ownership_safe_malformed : ∃ c : BuffersRecordConfig Unit, OwnershipSafe c ∧ ∃ t task events,
    c.state.returned = [(t, task, events, .invoked (.returned (.error invalidResult)))] ∧
      transfers events = [.delivered none ⟨0, 0, 8⟩, .released ⟨0, 0, 8⟩] := by
  let context : ContextInner := ⟨7, 9, ⟨true, true, true⟩⟩
  have idle : (system Unit fun _ => context).recorded.Run (⟨{ state := {} }, fun _ => .idle⟩ : BuffersRecordConfig Unit)
    ⟨{ state := {} }, fun _ => .idle⟩ := .refl
  have leased := (((idle.start ((), 0) (.invoke context "" .null) rfl ⟨_, rfl, rfl⟩).act ((), 0) (.host .containsKey)
    false rfl ⟨_, rfl, rfl⟩).act ((), 0) (.host (.takeLease false)) (Except.ok () : Except Error Unit) rfl
    ⟨_, rfl, rfl⟩).act ((), 0) (.host .deepen) () rfl ⟨_, rfl, rfl⟩
  have delivered := leased.act ((), 0) (.invoke 7 9 (borrowedSlice []) (borrowedSlice [0x92, 0x00, 0xc0]))
    ((HmclStatus.ok, ⟨0, 0, 8⟩) : HmclStatus × HmclOwnedBuffer) rfl ⟨_, rfl, rfl⟩
  have released := (((delivered.act ((), 0) (.releaseBuffer ⟨0, 0, 8⟩) HmclStatus.hostError rfl ⟨_, rfl, rfl⟩).act ((), 0)
    .recordCleanupFailure () rfl ⟨_, rfl, rfl⟩).act ((), 0) (.host .surface) () rfl ⟨_, rfl, rfl⟩).act ((), 0)
    (.host .release) () rfl ⟨_, rfl, rfl⟩
  have finished := released.finish ((), 0) rfl ⟨_, rfl, rfl⟩
  exact ⟨_, ownership_safe ⟨_, ⟨_, rfl, rfl⟩, finished⟩, _, _, _, rfl, rfl⟩

end Buffers

end RuntimeHost.Sdk
