import RuntimeHost.Foundation.Contract
import RuntimeHost.Native.Embedded
import RuntimeHost.Sdk.WireSize

namespace RuntimeHost.Native

open Foundation Function System Abi Sdk

/-- The effects of a call so far, and the allocation that it has in its hands. -/
structure Grip where
  journal : List Effect := []
  hand : Option (UInt64 × List UInt8) := none

namespace Grip

variable (plugin : SdkPayload)

def allows (x : Grip) : EmbedOp → Prop
  | .engine (.payload payloadId) => payloadId = plugin.payloadId
  | .engine (.lockPayload payload) => payload = plugin.payload
  | .engine (.unlockPayload _) => True
  | .engine _ => False
  | .host .setInactive => False
  | .host .awaitQuiesced => False
  | .session (.cloneArc _) => True
  | .session (.dropArc _) => True
  | .session (.leave _) => True
  | .session (.admitCall _) => True
  | .session .lockSlot => True
  | .session .unlockSlot => True
  | .session _ => False
  | .insert _ => x.hand = none ∧ x.journal.filter Effect.onTable = []
  | .remove pointer => ∃ box, x.hand = some (pointer, box)
  | .read buffer => ∃ box, x.hand = some (buffer.data, box) ∧ buffer.len.toNat ≤ box.length
  | .write buffer bytes => ∃ box, x.hand = some (buffer.data, box) ∧ bytes.length ≤ box.length
  | _ => True

def answers (x : Grip) : (op : EmbedOp) → op.Answer → Prop
  | .engine (.payload _), answer => answer = .ok plugin.payload
  | .engine (.lockPayload _), answer => answer.state = .enabled ∧ answer.pluginTable.hasInvoke = true
  | .host (.takeLease _), answer => answer = .ok ()
  | .session .lockSlot, answer => answer = some plugin.session
  | .session (.admitCall session), answer => session = plugin.session → answer = true
  | .bridge .., answer => ∀ bytes, answer = .returned (.ok bytes) → bytes.length ≤ isizeMax
  | .insert _, answer => ∀ pointer, answer = .returned pointer → pointer ≠ 0
  | .remove pointer, answer => ∀ box, x.hand = some (pointer, box) → answer = some box
  | .read buffer, answer => ∀ box, x.hand = some (buffer.data, box) → answer = .returned (box.take buffer.len.toNat)
  | _, _ => True

def handAfter (x : Grip) : (op : EmbedOp) → op.Answer → Option (UInt64 × List UInt8)
  | .insert allocation, .returned pointer => some (pointer, allocation)
  | .remove _, _ => none
  | .write _ bytes, _ => x.hand.map fun held => (held.1, bytes ++ held.2.drop bytes.length)
  | _, _ => x.hand

def next (x : Grip) (op : EmbedOp) (answer : op.Answer) : Grip where
  journal := x.journal ++ op.effects answer
  hand := x.handAfter op answer

def contract : Contract EmbedOp EmbedOp.Answer Grip where
  allows := allows plugin
  answers := answers plugin
  next := next

section Next

variable {x : Grip}

theorem next_quiet {op : EmbedOp} {answer : op.Answer} (quiet : op.effects answer = [])
    (same : x.handAfter op answer = x.hand) : x.next op answer = x := by
  rw [next, quiet, same, List.append_nil]

theorem next_host (op : HostOp) (answer : (EmbedOp.host op).Answer) : x.next (.host op) answer = x := next_quiet rfl rfl

theorem next_session (op : SessionOp) (answer : (EmbedOp.session op).Answer) : x.next (.session op) answer = x :=
  next_quiet rfl rfl

theorem next_engine (op : EngineOp) (answer : (EmbedOp.engine op).Answer) : x.next (.engine op) answer = x :=
  next_quiet rfl rfl

theorem next_read (buffer : HmclOwnedBuffer) (answer : (EmbedOp.read buffer).Answer) :
    x.next (.read buffer) answer = x := next_quiet rfl rfl

end Next

end Grip

section Slices

variable {bytes : List UInt8}

theorem readSlice_borrowedSlice (size : bytes.length ≤ isizeMax) : readSlice (borrowedSlice bytes) = .ok bytes := by
  have bound : bytes.length < 2 ^ 64 := lt_of_le_of_lt size (by decide)
  have length : (UInt64.ofNat bytes.length).toNat = bytes.length := UInt64.toNat_ofNat_of_lt' bound
  have fits : ¬usizeMax < (UInt64.ofNat bytes.length).toNat := by
    rw [length]
    exact not_lt.mpr (Nat.le_of_lt_succ bound)
  unfold readSlice borrowedSlice
  rw [if_neg fits]
  cases bytes with
  | nil => rfl
  | cons byte bytes =>
    have positive : UInt64.ofNat (byte :: bytes).length ≠ 0 := by
      intro zero
      rw [zero] at length
      cases length
    rw [if_neg positive]
    show Except.ok ((byte :: bytes).take _) = _
    rw [length, List.take_length]

theorem slice_eq_ok (size : bytes.length ≤ isizeMax) : slice bytes = .ok (borrowedSlice bytes) := by
  have bound : bytes.length < 2 ^ 64 := lt_of_le_of_lt size (by decide)
  exact if_neg (not_le.mpr bound)

theorem readSlice_eq (s : HmclSlice) : Sdk.readSlice s = readSlice s := rfl

theorem decodeArguments_slices {operation : String} {input : List UInt8} (callback : UInt64)
    (short : (utf8 operation).length ≤ isizeMax) (size : input.length ≤ isizeMax) :
    Private.decodeArguments ⟨true, borrowedSlice (utf8 operation), borrowedSlice input, callback, true⟩ =
      (orError .invalidArgument (Value.fromWire input)).map fun value => (operation, value) := by
  have text : okOr HmclStatus.invalidArgument (ofUtf8 (utf8 operation)) = .ok operation := by
    rw [ofUtf8_utf8]
    rfl
  unfold Private.decodeArguments
  rw [if_neg (by simp), readSlice_eq, readSlice_eq, readSlice_borrowedSlice short, readSlice_borrowedSlice size,
    ok_bind, ok_bind, text, ok_bind]
  cases Value.fromWire input <;> rfl

theorem hostContext_eq_ok {host : HostCallbacks} (armed : host.armed = true) : host.hostContext = .ok () := by
  rw [HostCallbacks.hostContext, armed]
  rfl

theorem invokeArguments_slices {host : HostCallbacks} {operation : String} {input : List UInt8}
    (armed : host.armed = true) (short : (utf8 operation).length ≤ isizeMax) (size : input.length ≤ isizeMax) :
    host.invokeArguments host.pluginId host.session (borrowedSlice (utf8 operation)) (borrowedSlice input) =
      .ok (operation, input) := by
  have text : okOr HmclStatus.invalidArgument (ofUtf8 (utf8 operation)) = .ok operation := by
    rw [ofUtf8_utf8]
    rfl
  unfold HostCallbacks.invokeArguments
  rw [hostContext_eq_ok armed, ok_bind, if_neg (by simp), readSlice_borrowedSlice short,
    readSlice_borrowedSlice size, ok_bind, text, ok_bind, ok_bind]
  rfl

end Slices

namespace SdkPayload

variable (plugin : SdkPayload)

def answer (operation input : HmclSlice) (callback : UInt64) : EmbedProg PluginReturn := do
  let returned ← plugin.call operation input callback
  if !returned.status.isOk then return ⟨returned.status, none⟩
  else
    match ← HostCallbacks.takeOutput (returned.written.getD .empty) with
    | .error _ => return ⟨returned.status, none⟩
    | .ok output => return ⟨returned.status, some output⟩

end SdkPayload

section Refines

variable {plugin : SdkPayload} {operation : String} {input : List UInt8} {callback : UInt64}
  {impl : (op : NativeOp) → EmbedProg op.Answer}

theorem reclaim_ends (buffer : HmclOwnedBuffer) : (HostCallbacks.reclaim buffer).Ends fun reclaimed =>
    ∀ error, reclaimed = .error error → error = .invalidHostResult := by
  unfold HostCallbacks.reclaim
  split
  · intro error refused
    split at refused
    · cases refused
    · cases refused
      rfl
  · intro (removed : Option (List UInt8))
    cases removed with
    | none =>
      intro error refused
      cases refused
      rfl
    | some allocation =>
      intro error refused
      split at refused
      · cases refused
        rfl
      · cases refused

theorem takeOutput_ends (buffer : HmclOwnedBuffer) : (HostCallbacks.takeOutput buffer).Ends fun taken =>
    ∀ error, taken = .error error → error = .invalidHostResult := by
  refine .bind ((reclaim_ends buffer).imp fun reclaimed only => ?_)
  cases reclaimed with
  | error error =>
    intro error' same
    cases same
    exact only _ rfl
  | ok allocation =>
    intro error' same
    cases same

theorem handle_invoke {payload : Nat} {guard : EmbeddedPayload}
    (invokes : impl (.plugin payload (.invoke operation input callback)) =
      plugin.answer (borrowedSlice (utf8 operation)) (borrowedSlice input) callback)
    (short : (utf8 operation).length ≤ isizeMax) (size : input.length ≤ isizeMax) :
    (guard.invoke payload operation input callback).handle impl = plugin.invoke guard operation input callback := by
  unfold EmbeddedPayload.invoke SdkPayload.invoke
  split
  · rfl
  split
  · rfl
  rw [slice_eq_ok short]
  dsimp only
  rw [slice_eq_ok size]
  show (impl (.plugin payload (.invoke operation input callback)) >>= _) = _
  rw [invokes, SdkPayload.answer]
  refine (Prog.bind_bind _ _ _).trans (congrArg (Prog.bind _) ?_)
  funext returned
  by_cases refused : (!returned.status.isOk) = true
  · rw [if_pos refused, if_pos refused]
    exact congrArg (Prog.handle impl) (if_pos refused)
  · rw [if_neg refused, if_neg refused]
    refine (Prog.bind_bind _ _ _).trans (Prog.Ends.bind_done (takeOutput_ends _) fun taken only => ?_)
    cases taken with
    | error error =>
      rw [only error rfl]
      exact congrArg (Prog.handle impl) (if_neg refused)
    | ok output => exact congrArg (Prog.handle impl) (if_neg refused)

theorem handle_invokePayload (engine : ∀ op, impl (.engine op) = EmbedProg.engine op)
    (invokes : ∀ payload, impl (.plugin payload (.invoke operation input callback)) =
      plugin.answer (borrowedSlice (utf8 operation)) (borrowedSlice input) callback)
    (short : (utf8 operation).length ≤ isizeMax) (size : input.length ≤ isizeMax) :
    (Engine.invokePayload plugin.payloadId operation input callback).handle impl =
      plugin.invokePayload operation input callback := by
  unfold Engine.invokePayload SdkPayload.invokePayload
  show (impl (.engine (.payload plugin.payloadId)) >>= _) = _
  rw [engine]
  refine congrArg (Prog.act _) ?_
  funext (found : Except HostError Nat)
  cases found with
  | error error => rfl
  | ok payload =>
    show (impl (.engine (.lockPayload payload)) >>= _) = _
    rw [engine]
    refine congrArg (Prog.act _) ?_
    funext (guard : EmbeddedPayload)
    show Prog.handle impl (guard.invoke payload operation input callback >>= _) = _
    rw [Prog.handle_bind, handle_invoke (invokes payload) short size]
    refine congrArg (Prog.bind _) ?_
    funext result
    show (impl (.engine (.unlockPayload payload)) >>= _) = _
    rw [engine]
    rfl

end Refines

section Meets

variable {plugin : SdkPayload} {x : Grip} {α : Type} {post : α → Grip → Prop}

theorem meets_quiet {op : EmbedOp} {next : op.Answer → EmbedProg α} (allowed : x.allows plugin op)
    (same : ∀ answer, x.next op answer = x)
    (rest : ∀ answer, x.answers plugin op answer → (next answer).Meets (Grip.contract plugin) post x) :
    (Prog.act op next).Meets (Grip.contract plugin) post x := by
  refine ⟨allowed, fun answer possible => ?_⟩
  show (next answer).Meets _ _ (x.next op answer)
  rw [same]
  exact rest answer possible

theorem meets_lease : ((BufferProg.onHost HostState.lease).handle plugin.host.table).Meets (Grip.contract plugin)
    (fun leased x' => leased = .ok () ∧ x' = x) x := by
  refine meets_quiet trivial (Grip.next_host _) fun (nested : Bool) _ => ?_
  refine meets_quiet trivial (Grip.next_host _) fun (leased : Except Error Unit) admitted => ?_
  subst admitted
  exact meets_quiet trivial (Grip.next_host _) fun _ _ => ⟨rfl, rfl⟩

theorem meets_leaseDrop : ((BufferProg.onHost HostLease.drop).handle plugin.host.table).Meets (Grip.contract plugin)
    (fun _ x' => x' = x) x :=
  meets_quiet trivial (Grip.next_host _) fun _ _ => meets_quiet trivial (Grip.next_host _) fun _ _ => rfl

theorem meets_onSession {op : SessionOp} (allowed : x.allows plugin (.session op)) :
    ((BufferProg.onSession (.perform op)).handle plugin.host.table).Meets (Grip.contract plugin)
      (fun answer x' => x.answers plugin (.session op) answer ∧ x' = x) x :=
  meets_quiet allowed (Grip.next_session _) fun _ possible => ⟨possible, rfl⟩

theorem meets_leased {refused : Error → α} {body : BufferProg α}
    (leased : (body.handle plugin.host.table).Meets (Grip.contract plugin) post x) :
    ((BufferProg.onHost HostState.lease >>= fun lease => match lease with
      | .error error => .done (refused error)
      | .ok () => body >>= fun result => BufferProg.onHost HostLease.drop >>= fun _ => .done result).handle
        plugin.host.table).Meets (Grip.contract plugin) post x := by
  refine .handle_bind (Prog.Meets.imp meets_lease fun lease x' admitted => ?_)
  obtain ⟨rfl, rfl⟩ := admitted
  refine .handle_bind (Prog.Meets.imp leased fun result x' reached => ?_)
  refine .handle_bind (Prog.Meets.imp meets_leaseDrop fun _ x'' same => ?_)
  subst same
  exact reached

def Grip.insert (x : Grip) (pointer : UInt64) (box : List UInt8) : Grip where
  journal := x.journal ++ [.inserted pointer box.length]
  hand := some (pointer, box)

def Grip.remove (x : Grip) (pointer : UInt64) : Grip where
  journal := x.journal ++ [.removed pointer]

def Grip.Free (x : Grip) : Prop := x.hand = none ∧ x.journal.filter Effect.onTable = []

theorem meets_deliver {length : Nat} {initialized : Option (List UInt8)} (free : x.Free) (positive : length ≠ 0)
    (same : (initialized.map List.length).getD length = length) :
    (HostCallbacks.deliver length initialized).Meets (Grip.contract plugin) (fun delivered x' =>
      (delivered = .panicked ∧ x' = { x with journal := x.journal ++ [.refused length] }) ∨
        ∃ pointer, pointer ≠ 0 ∧ delivered = .returned (.ok ⟨pointer,
          UInt64.ofNat ((initialized.map List.length).getD 0), UInt64.ofNat length⟩) ∧
            x' = x.insert pointer (initialized.getD (List.replicate length 0))) x := by
  have size : (initialized.getD (List.replicate length 0)).length = length := by
    cases initialized with
    | none => exact List.length_replicate
    | some bytes => exact same
  unfold HostCallbacks.deliver HostCallbacks.allocate
  rw [if_neg positive, if_neg (not_not.mpr same)]
  refine ⟨free, fun (answer : Unwinding UInt64) possible => ?_⟩
  cases answer with
  | panicked =>
    refine .inl ⟨rfl, ?_⟩
    show Grip.mk (x.journal ++ [.refused _]) x.hand = _
    rw [size]
  | returned pointer => exact .inr ⟨pointer, possible pointer rfl, rfl, rfl⟩

theorem meets_hostAllocate {length : UInt64} (free : x.Free) (positive : length ≠ 0) :
    (plugin.host.hostAllocate length).Meets (Grip.contract plugin) (fun answer x' =>
      (answer = (.hostError, .empty) ∧ x' = { x with journal := x.journal ++ [.refused length.toNat] }) ∨
        ∃ pointer, pointer ≠ 0 ∧ answer = (.ok, ⟨pointer, 0, length⟩) ∧
          x' = x.insert pointer (List.replicate length.toNat 0)) x := by
  have fits : ¬usizeMax < length.toNat := not_lt.mpr (Nat.le_of_lt_succ length.toNat_lt)
  have some' : length.toNat ≠ 0 := fun zero => positive (UInt64.toNat_inj.mp zero)
  unfold HostCallbacks.hostAllocate HostCallbacks.boundary
  rw [hostContext_eq_ok plugin.armed]
  dsimp only
  rw [if_neg fits]
  refine .bind (Prog.Meets.imp (meets_deliver free some' rfl) fun delivered x' outcome => ?_)
  rcases outcome with ⟨rfl, rfl⟩ | ⟨pointer, real, rfl, rfl⟩
  · exact .inl ⟨rfl, rfl⟩
  · refine .inr ⟨pointer, real, ?_, rfl⟩
    show (HmclStatus.ok, (⟨pointer, 0, UInt64.ofNat length.toNat⟩ : HmclOwnedBuffer)) = _
    rw [UInt64.ofNat_toNat]

structure Grip.Holds (x : Grip) (buffer : HmclOwnedBuffer) (box : List UInt8) : Prop where
  hand : x.hand = some (buffer.data, box)
  capacity : buffer.capacity.toNat = box.length
  some : box ≠ []
  len : buffer.len.toNat ≤ box.length

variable {buffer : HmclOwnedBuffer} {box : List UInt8}

theorem Grip.Holds.capacity_ne_zero (holds : x.Holds buffer box) : buffer.capacity ≠ 0 := by
  intro zero
  have size := holds.capacity
  rw [zero] at size
  exact holds.some (List.length_eq_zero_iff.mp size.symm)

theorem meets_reclaim (holds : x.Holds buffer box) : (HostCallbacks.reclaim buffer).Meets (Grip.contract plugin)
    (fun reclaimed x' => reclaimed = .ok box ∧ x' = x.remove buffer.data) x := by
  have sized : ¬(UInt64.ofNat box.length ≠ buffer.capacity ∨ buffer.capacity < buffer.len) := by
    rw [← holds.capacity, UInt64.ofNat_toNat, UInt64.lt_iff_toNat_lt, holds.capacity]
    exact not_or.mpr ⟨not_not.mpr rfl, not_lt.mpr holds.len⟩
  unfold HostCallbacks.reclaim
  rw [if_neg holds.capacity_ne_zero]
  refine ⟨⟨box, holds.hand⟩, fun (answer : Option (List UInt8)) removed => ?_⟩
  obtain rfl : answer = .some box := removed box holds.hand
  exact ⟨if_neg sized, rfl⟩

theorem meets_hostReleaseBuffer (holds : x.Holds buffer box) :
    (plugin.host.hostReleaseBuffer buffer).Meets (Grip.contract plugin)
      (fun status x' => status = .ok ∧ x' = x.remove buffer.data) x := by
  unfold HostCallbacks.hostReleaseBuffer
  rw [hostContext_eq_ok plugin.armed]
  refine .bind (.bind (Prog.Meets.imp (meets_reclaim holds) fun reclaimed x' outcome => ?_))
  obtain ⟨rfl, rfl⟩ := outcome
  exact ⟨rfl, rfl⟩

theorem hostReleaseBuffer_empty : plugin.host.hostReleaseBuffer .empty = .done .ok := by
  unfold HostCallbacks.hostReleaseBuffer
  rw [hostContext_eq_ok plugin.armed]
  rfl

theorem meets_takeOutput (holds : x.Holds buffer box) : (HostCallbacks.takeOutput buffer).Meets (Grip.contract plugin)
    (fun taken x' => taken = .ok (box.take buffer.len.toNat) ∧ x' = x.remove buffer.data) x := by
  refine .bind (Prog.Meets.imp (meets_reclaim holds) fun reclaimed x' outcome => ?_)
  obtain ⟨rfl, rfl⟩ := outcome
  exact ⟨rfl, rfl⟩

inductive Fetched (host : HostCallbacks) (operation : String) (wire : List UInt8) (x : Grip) :
    HmclStatus × HmclOwnedBuffer → Grip → Prop
  | failed {answer} (failed : ∀ bytes, answer ≠ .returned (.ok bytes)) : Fetched host operation wire x
    (.hostError, .empty) { x with journal := x.journal ++ [.bridge host.pluginId host.session operation wire answer] }
  | refused {bytes} : Fetched host operation wire x (.hostError, .empty) { x with journal := x.journal ++
    [.bridge host.pluginId host.session operation wire (.returned (.ok bytes))] ++ [.refused bytes.length] }
  | empty : Fetched host operation wire x (.ok, .empty) { x with journal := x.journal ++
    [.bridge host.pluginId host.session operation wire (.returned (.ok []))] }
  | fetched {bytes pointer} (size : bytes.length < 2 ^ 64) (some : bytes ≠ []) (real : pointer ≠ 0) :
    Fetched host operation wire x (.ok, ⟨pointer, UInt64.ofNat bytes.length, UInt64.ofNat bytes.length⟩)
      (Grip.insert { x with journal := x.journal ++
        [.bridge host.pluginId host.session operation wire (.returned (.ok bytes))] } pointer bytes)

theorem meets_hostInvoke {operation : String} {wire : List UInt8} (free : x.Free)
    (short : (utf8 operation).length ≤ isizeMax) (size : wire.length ≤ isizeMax) :
    (plugin.host.hostInvoke plugin.host.pluginId plugin.host.session (borrowedSlice (utf8 operation))
      (borrowedSlice wire)).Meets (Grip.contract plugin) (Fetched plugin.host operation wire x) x := by
  unfold HostCallbacks.hostInvoke HostCallbacks.boundary
  rw [invokeArguments_slices plugin.armed short size]
  refine .bind ⟨trivial, fun (answer : Unwinding (Except HostError (List UInt8))) bound => ?_⟩
  cases answer with
  | panicked => exact .failed fun _ => by rintro ⟨⟩
  | returned result =>
    cases result with
    | error error => exact .failed fun _ => by rintro ⟨⟩
    | ok bytes =>
      by_cases nothing : bytes = []
      · subst nothing
        exact .empty
      · have free' : Grip.Free { x with journal := x.journal ++
            [.bridge plugin.host.pluginId plugin.host.session operation wire (.returned (.ok bytes))] } := by
          refine ⟨free.1, ?_⟩
          rw [List.filter_append, free.2]
          rfl
        have positive : bytes.length ≠ 0 := fun zero => nothing (List.length_eq_zero_iff.mp zero)
        refine Prog.Meets.imp (meets_deliver free' positive rfl) fun delivered x' outcome => ?_
        rcases outcome with ⟨rfl, rfl⟩ | ⟨pointer, real, rfl, rfl⟩
        · exact .refused
        · exact .fetched (lt_of_le_of_lt (bound bytes rfl) (by decide)) nothing real

theorem meets_copyBytes (holds : x.Holds buffer box) :
    ((HostBuffer.copyBytes buffer).handle plugin.host.table).Meets (Grip.contract plugin)
      (fun copied x' => copied = .returned (.ok (box.take buffer.len.toNat)) ∧ x' = x) x := by
  have fits : ¬usizeMax < buffer.len.toNat := not_lt.mpr (Nat.le_of_lt_succ buffer.len.toNat_lt)
  unfold HostBuffer.copyBytes
  rw [if_neg fits]
  split
  · rename_i nothing
    rw [nothing]
    exact ⟨rfl, rfl⟩
  · refine meets_quiet ⟨box, holds.hand, holds.len⟩ (Grip.next_read _) fun (copied : Unwinding (List UInt8)) same => ?_
    obtain rfl : copied = _ := same box holds.hand
    exact ⟨rfl, rfl⟩

theorem meets_release (holds : x.Holds buffer box) :
    ((HostBuffer.release buffer).handle plugin.host.table).Meets (Grip.contract plugin)
      (fun released x' => released = .ok () ∧ x' = x.remove buffer.data) x := by
  refine .handle_bind (.bind (Prog.Meets.imp (meets_hostReleaseBuffer holds) fun status x' outcome => ?_))
  obtain ⟨rfl, rfl⟩ := outcome
  exact ⟨rfl, rfl⟩

theorem Grip.holds_insert {pointer length : UInt64} (size : box.length < 2 ^ 64) (some : box ≠ [])
    (len : length.toNat ≤ box.length) : (x.insert pointer box).Holds ⟨pointer, length, UInt64.ofNat box.length⟩ box :=
  ⟨rfl, UInt64.toNat_ofNat_of_lt' size, some, len⟩

theorem Grip.Holds.hasValidLayout (holds : x.Holds buffer box) (real : buffer.data ≠ 0) :
    buffer.hasValidLayout = true := by
  have bound : buffer.len ≤ buffer.capacity := by
    rw [UInt64.le_iff_toNat_le, holds.capacity]
    exact holds.len
  unfold HmclOwnedBuffer.hasValidLayout
  rw [if_neg holds.capacity_ne_zero]
  simp [real, bound]

theorem meets_invokeLeased {operation : String} {input : Value} (short : (utf8 operation).length ≤ isizeMax) :
    (((plugin.contexts plugin.session).invokeLeased operation input).handle plugin.host.table).Meets
      (Grip.contract plugin) (fun result x' => x'.hand = none ∧
        HostInvocation plugin.host operation input result x'.journal) {} := by
  rw [plugin.context]
  unfold ContextInner.invokeLeased
  rw [if_neg (by simp), if_neg (by simp)]
  cases encoded : input.toWire with
  | error error => exact ⟨rfl, .unencodable encoded⟩
  | ok wire =>
    have size : wire.length ≤ isizeMax := (toWire_size encoded).2.le.trans (by decide)
    refine .handle_bind (.bind (Prog.Meets.imp (meets_hostInvoke ⟨rfl, rfl⟩ short size) fun answer x' outcome => ?_))
    cases outcome with
    | failed failed => exact ⟨rfl, .failed encoded failed⟩
    | refused => exact ⟨rfl, .refused encoded⟩
    | empty =>
      show Prog.Meets _ _ ((plugin.host.hostReleaseBuffer .empty).bind _) _
      rw [hostReleaseBuffer_empty]
      exact ⟨rfl, .empty encoded⟩
    | @fetched bytes pointer size some real =>
      have length : (UInt64.ofNat bytes.length).toNat = bytes.length := UInt64.toNat_ofNat_of_lt' size
      have holds : (Grip.insert ⟨[.bridge plugin.host.pluginId plugin.host.session operation wire
          (.returned (.ok bytes))], none⟩ pointer bytes).Holds
          ⟨pointer, UInt64.ofNat bytes.length, UInt64.ofNat bytes.length⟩ bytes :=
        Grip.holds_insert size some length.le
      have valid := holds.hasValidLayout real
      show Prog.Meets _ _ (Prog.handle _ (if !HmclStatus.ok.isOk then _ else if !HmclOwnedBuffer.hasValidLayout _ then _
        else HostBuffer.copyBytes _ >>= _)) _
      rw [if_neg (by decide), valid, if_neg (by decide)]
      refine .handle_bind (Prog.Meets.imp (meets_copyBytes holds) fun copied x' outcome => ?_)
      obtain ⟨rfl, rfl⟩ := outcome
      refine .handle_bind (Prog.Meets.imp (meets_release holds) fun released x' outcome => ?_)
      obtain ⟨rfl, rfl⟩ := outcome
      refine ⟨rfl, ?_⟩
      show HostInvocation _ _ _ (.returned (Value.fromWire (bytes.take (UInt64.ofNat bytes.length).toNat))) _
      rw [length, List.take_length]
      exact .fetched encoded

theorem meets_invokeHost {operation : String} {input : Value} (short : (utf8 operation).length ≤ isizeMax) :
    (plugin.invokeHost operation input).Meets (Grip.contract plugin) (fun result x' => x'.hand = none ∧
      HostInvocation plugin.host operation input result x'.journal) {} :=
  meets_leased (meets_invokeLeased short)

def Allocated (x : Grip) (wire : List UInt8) (allocated : Except Error HmclOwnedBuffer) (x' : Grip) : Prop :=
  ((∃ error, allocated = .error error) ∧ x' = { x with journal := x.journal ++ [.refused wire.length] }) ∨
    ∃ pointer, allocated = .ok ⟨pointer, UInt64.ofNat wire.length, UInt64.ofNat wire.length⟩ ∧
      x' = x.insert pointer wire

theorem meets_allocateLeased {wire : List UInt8} (free : x.Free) (size : 0 < wire.length ∧ wire.length < 2 ^ 32) :
    (((plugin.contexts plugin.session).allocateLeased wire).handle plugin.host.table).Meets
      (Grip.contract plugin) (Allocated x wire) x := by
  have bound : wire.length < 2 ^ 64 := size.2.trans (by decide)
  have length : (UInt64.ofNat wire.length).toNat = wire.length := UInt64.toNat_ofNat_of_lt' bound
  have positive : UInt64.ofNat wire.length ≠ 0 := by
    intro zero
    rw [zero] at length
    exact absurd length size.1.ne
  have some : wire ≠ [] := List.ne_nil_of_length_pos size.1
  rw [plugin.context]
  unfold ContextInner.allocateLeased
  rw [if_neg (by simp), if_neg (by simp), if_neg (not_le.mpr bound)]
  refine .handle_bind (.bind (Prog.Meets.imp (meets_hostAllocate free positive) fun answer x' outcome => ?_))
  rcases outcome with ⟨rfl, rfl⟩ | ⟨pointer, real, rfl, rfl⟩
  · refine .inl ⟨⟨_, rfl⟩, ?_⟩
    rw [length]
  · have suits : (⟨pointer, 0, UInt64.ofNat wire.length⟩ : HmclOwnedBuffer).satisfiesAllocationRequest
        (UInt64.ofNat wire.length) = true := by
      simp [HmclOwnedBuffer.satisfiesAllocationRequest, HmclOwnedBuffer.hasValidLayout, positive, real]
    show Prog.Meets _ _ (Prog.handle _ (if !HmclStatus.ok.isOk then _ else
      if !HmclOwnedBuffer.satisfiesAllocationRequest _ _ then _ else HostBuffer.fill _ _ >>= _)) _
    rw [if_neg (by decide), suits, if_neg (by decide)]
    unfold HostBuffer.fill
    rw [if_neg (by simp [some])]
    refine ⟨⟨_, rfl, ?_⟩, fun _ _ => .inr ⟨pointer, rfl, ?_⟩⟩
    · rw [List.length_replicate, length]
    · simp [Grip.contract, Grip.next, Grip.insert, Grip.handAfter, EmbedOp.effects, length]

theorem meets_allocateWire {wire : List UInt8} (free : x.Free) (size : 0 < wire.length ∧ wire.length < 2 ^ 32) :
    (((plugin.contexts plugin.session).allocateWire wire).handle plugin.host.table).Meets (Grip.contract plugin)
      (Allocated x wire) x :=
  meets_leased (meets_allocateLeased free size)

variable {operation : String} {callback : UInt64}

/-- What a call of the plugin with decoded arguments comes to, and where it takes the caller. -/
inductive PluginOutcome (operation : String) (value : Value) (callback : UInt64) : Unwinding InvokeReturn → Grip → Prop
  | panicked : PluginOutcome operation value callback .panicked ⟨[.plugin operation value callback .panicked], none⟩
  | failed {error} : PluginOutcome operation value callback (.returned ⟨.pluginError, none⟩)
    ⟨[.plugin operation value callback (.returned (.error error))], none⟩
  | unencodable {r error} (encoded : r.toWire = .error error) : PluginOutcome operation value callback
    (.returned ⟨.pluginError, none⟩) ⟨[.plugin operation value callback (.returned (.ok r))], none⟩
  | refused {r wire} (encoded : r.toWire = .ok wire) : PluginOutcome operation value callback (.returned ⟨.hostError, none⟩)
    ⟨[.plugin operation value callback (.returned (.ok r)), .refused wire.length], none⟩
  | delivered {r wire pointer} (encoded : r.toWire = .ok wire) : PluginOutcome operation value callback
    (.returned ⟨.ok, some ⟨pointer, UInt64.ofNat wire.length, UInt64.ofNat wire.length⟩⟩)
    (Grip.insert ⟨[.plugin operation value callback (.returned (.ok r))], none⟩ pointer wire)

theorem meets_invokeAdmitted {value : Value} :
    ((Private.invokeAdmitted plugin.contexts plugin.session operation value callback).handle plugin.host.table).Meets
      (Grip.contract plugin) (PluginOutcome operation value callback) {} := by
  refine ⟨trivial, fun (answer : Unwinding (Except Error Value)) _ => ?_⟩
  cases answer with
  | panicked => exact .panicked
  | returned result =>
    cases result with
    | error error => exact .failed
    | ok r =>
      dsimp only [Prog.bind]
      cases encoded : r.toWire with
      | error error => exact .unencodable encoded
      | ok wire =>
        have size := toWire_size encoded
        refine .handle_bind (Prog.Meets.imp (meets_allocateWire ⟨rfl, rfl⟩ size) fun allocated x' outcome => ?_)
        rcases outcome with ⟨⟨error, rfl⟩, rfl⟩ | ⟨pointer, rfl, rfl⟩
        · exact .refused encoded
        · exact .delivered encoded

theorem meets_invokeSession {value : Value} :
    ((Private.invokeSession plugin.contexts operation value callback).handle plugin.host.table).Meets
      (Grip.contract plugin) (PluginOutcome operation value callback) {} := by
  refine .handle_bind (Prog.Meets.imp (meets_onSession trivial) fun (slot : Option SessionRef) x' found => ?_)
  obtain ⟨rfl, rfl⟩ : slot = some plugin.session ∧ _ := found
  refine .handle_bind (Prog.Meets.imp (meets_onSession trivial) fun _ x' same => ?_)
  obtain ⟨-, rfl⟩ := same
  refine .handle_bind (Prog.Meets.imp (meets_onSession trivial) fun (admitted : Bool) x' accepted => ?_)
  obtain ⟨accepted, rfl⟩ := accepted
  obtain rfl : admitted = true := accepted rfl
  refine .handle_bind (Prog.Meets.imp (meets_onSession trivial) fun _ x' same => ?_)
  obtain ⟨-, rfl⟩ := same
  refine .handle_bind (Prog.Meets.imp meets_invokeAdmitted fun returned x' outcome => ?_)
  refine .handle_bind (Prog.Meets.imp (meets_onSession trivial) fun _ x' same => ?_)
  obtain ⟨-, rfl⟩ := same
  refine .handle_bind (Prog.Meets.imp (meets_onSession trivial) fun _ x' same => ?_)
  obtain ⟨-, rfl⟩ := same
  exact outcome

def contained : Unwinding InvokeReturn → InvokeReturn
  | .panicked => ⟨.pluginError, none⟩
  | .returned returned => returned

variable {input : List UInt8}

theorem meets_call (short : (utf8 operation).length ≤ isizeMax) (size : input.length ≤ isizeMax) :
    (plugin.call (borrowedSlice (utf8 operation)) (borrowedSlice input) callback).Meets (Grip.contract plugin)
      (fun returned x' => (∃ error, Value.fromWire input = .error error ∧ returned = ⟨.invalidArgument, none⟩ ∧ x' = {}) ∨
        ∃ value ending, Value.fromWire input = .ok value ∧ PluginOutcome operation value callback ending x' ∧
          returned = contained ending) {} := by
  unfold SdkPayload.call Private.invokePlugin Private.invokeInner
  rw [decodeArguments_slices callback short size]
  cases decoded : Value.fromWire input with
  | error error => exact .inl ⟨error, rfl, rfl, rfl⟩
  | ok value =>
    refine .handle_bind (Prog.Meets.imp meets_invokeSession fun ending x' outcome => ?_)
    cases ending with
    | panicked => exact .inr ⟨value, _, rfl, outcome, rfl⟩
    | returned returned => exact .inr ⟨value, _, rfl, outcome, rfl⟩

theorem meets_invoke {guard : EmbeddedPayload} (enabled : guard.state = .enabled)
    (invokable : guard.pluginTable.hasInvoke = true) (short : (utf8 operation).length ≤ isizeMax)
    (size : input.length ≤ isizeMax) :
    (plugin.invoke guard operation input callback).Meets (Grip.contract plugin) (fun result x' => x'.hand = none ∧
      PayloadInvocation operation input callback result x'.journal) {} := by
  unfold SdkPayload.invoke
  rw [if_neg (not_not.mpr enabled), if_neg (by simp [invokable]), slice_eq_ok short]
  dsimp only
  rw [slice_eq_ok size]
  refine .bind (Prog.Meets.imp (meets_call short size) fun returned x' outcome => ?_)
  rcases outcome with ⟨error, decoded, rfl, rfl⟩ | ⟨value, ending, decoded, called, rfl⟩
  · exact ⟨rfl, .undecodable decoded⟩
  · cases called with
    | panicked => exact ⟨rfl, .failed decoded fun _ => by rintro ⟨⟩⟩
    | failed => exact ⟨rfl, .failed decoded fun _ => by rintro ⟨⟩⟩
    | unencodable encoded => exact ⟨rfl, .unencodable decoded encoded⟩
    | refused encoded => exact ⟨rfl, .refused decoded encoded⟩
    | @delivered r wire pointer encoded =>
      have positive := (toWire_size encoded).1
      have bound : wire.length < 2 ^ 64 := (toWire_size encoded).2.trans (by decide)
      have length : (UInt64.ofNat wire.length).toNat = wire.length := UInt64.toNat_ofNat_of_lt' bound
      have holds : (Grip.insert ⟨[.plugin operation value callback (.returned (.ok r))], none⟩ pointer wire).Holds
          ⟨pointer, UInt64.ofNat wire.length, UInt64.ofNat wire.length⟩ wire :=
        Grip.holds_insert bound (List.ne_nil_of_length_pos positive) length.le
      show Prog.Meets _ _ (if !HmclStatus.ok.isOk then _ else HostCallbacks.takeOutput _) _
      rw [if_neg (by decide)]
      refine Prog.Meets.imp (meets_takeOutput holds) fun taken x' outcome => ?_
      obtain ⟨rfl, rfl⟩ := outcome
      refine ⟨rfl, ?_⟩
      show PayloadInvocation _ _ _ (.ok (wire.take (UInt64.ofNat wire.length).toNat)) _
      rw [length, List.take_length]
      exact .delivered decoded encoded

theorem meets_invokePayload (short : (utf8 operation).length ≤ isizeMax) (size : input.length ≤ isizeMax) :
    (plugin.invokePayload operation input callback).Meets (Grip.contract plugin) (fun result x' => x'.hand = none ∧
      PayloadInvocation operation input callback result x'.journal) {} := by
  refine meets_quiet rfl (Grip.next_engine _) fun (found : Except HostError Nat) listed => ?_
  obtain rfl : found = .ok plugin.payload := listed
  refine meets_quiet rfl (Grip.next_engine _) fun (guard : EmbeddedPayload) locked => ?_
  obtain ⟨enabled, invokable⟩ := locked
  show Prog.Meets _ _ (plugin.invoke guard operation input callback >>= _) _
  refine .bind (Prog.Meets.imp (meets_invoke enabled invokable short size) fun result x' outcome => ?_)
  exact meets_quiet trivial (Grip.next_engine _) fun _ _ => outcome

def EmbedTask.Ends (plugin : SdkPayload) : EmbedTask → EmbedResult → List Effect → Prop
  | .invokePayload operation input callback, .payload result, effects =>
    PayloadInvocation operation input callback result effects
  | .invokeHost operation input, .host result, effects => HostInvocation plugin.host operation input result effects
  | _, _, _ => False

theorem meets_code {task : EmbedTask} (sized : task.Sized) : (task.code plugin).Meets (Grip.contract plugin)
    (fun result x' => x'.hand = none ∧ task.Ends plugin result x'.journal) {} := by
  cases task with
  | invokePayload operation input callback =>
    exact .bind (Prog.Meets.imp (meets_invokePayload sized.1 sized.2) fun result x' outcome => outcome)
  | invokeHost operation input => exact .bind (Prog.Meets.imp (meets_invokeHost sized) fun result x' outcome => outcome)

end Meets

end RuntimeHost.Native
