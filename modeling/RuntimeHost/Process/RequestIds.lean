import RuntimeHost.Foundation.Typestate
import RuntimeHost.Process.Callbacks
import RuntimeHost.Protocol.FrameSize

namespace RuntimeHost.Process

open Foundation Function System Protocol Native ProcessBridge

def LegalId (id : UInt64) : Prop := id ≠ 0 ∧ id ≤ Sdk.i64Max ∧ id % 2 = 0

def BridgeResult.Fails : BridgeResult → Prop
  | .output result => ∃ error, result = .error error
  | .unit result => ∃ error, result = .error error

/-- The streams with the counter, the request IDs taken from it in their order, which of them each running operation has
taken and whether it has written its frame, and the frames and the results, each with the place of its ID. -/
structure Requests (Tid : Type) where
  stdio : Stdio Tid := {}
  ids : List UInt64 := []
  taken : Tid → Option (Nat × UInt64) := fun _ => none
  wrote : Tid → Bool := fun _ => false
  frames : List (Option Nat × UInt64) := []
  returned : List (Option Nat × BridgeResult) := []

abbrev RequestsConfig (Tid : Type) :=
  Config Tid (Requests Tid) StdioOp StdioOp.Answer BridgeCall BridgeResult

namespace Requests

variable {Tid : Type} [DecidableEq Tid]

def place (s : Requests Tid) (t : Tid) : Option Nat := (s.taken t).map Prod.fst

def record (t : Tid) : (op : StdioOp) → op.Answer → Requests Tid → Requests Tid
  | .nextCallbackId, (id : UInt64), s =>
    { s with ids := s.ids ++ [id], taken := update s.taken t (some (s.ids.length, id)) }
  | .writeFrame message, _, s =>
    { s with frames := (s.place t, message.requestId) :: s.frames, wrote := update s.wrote t true }
  | _, _, s => s

def exec (t : Tid) (op : StdioOp) (s : Requests Tid) (answer : op.Answer) (s' : Requests Tid) : Prop :=
  ∃ stdio, s.stdio.exec t op answer stdio ∧ s' = record t op answer { s with stdio }

def fresh (s : Requests Tid) (t : Tid) : Requests Tid :=
  { s with taken := update s.taken t none, wrote := update s.wrote t false }

/-- Bridge operations on any threads, one after another on each, while the streams change in any way. -/
def system (Tid : Type) [DecidableEq Tid] (bridge : ProcessBridge) :
    System Tid (Requests Tid) StdioOp StdioOp.Answer BridgeCall BridgeResult where
  code := BridgeCall.code bridge
  start t _ s s' := s' = s.fresh t
  exec := exec
  finish t _ result s s' := s' = { s.fresh t with returned := (s.place t, result) :: s.returned }
  env s s' := ∃ stdio, stdio.nextCallbackId = s.stdio.nextCallbackId ∧ s' = { s with stdio }

/-- The frames carry legal IDs, grow with the order in which these were taken and never repeat one, and from the first ID
that is not legal on there are no frames any more and every operation fails. -/
structure NeverReused (s : Requests Tid) : Prop where
  framed : ∀ place id, (place, id) ∈ s.frames → LegalId id ∧ ∃ k, place = some k ∧ s.ids[k]? = some id
  once : (s.frames.map Prod.snd).Nodup
  increasing : ∀ k k' id id', (some k, id) ∈ s.frames → (some k', id') ∈ s.frames → k < k' → id < id'
  exhausted : ∀ k k' id, s.ids[k]? = some id → ¬LegalId id → k ≤ k' → (∀ id', (some k', id') ∉ s.frames) ∧
    ∀ result, (some k', result) ∈ s.returned → result.Fails

def Unwrapped (_ : Tid) (op : StdioOp) (s : Requests Tid) : Prop := op = .nextCallbackId → s.ids.length < 2 ^ 63

end Requests

section Follows

/-- An operation writes one frame only, with the ID that it has taken, if that is legal. -/
def Numbered : Typestate StdioOp StdioOp.Answer (Option UInt64 × Bool) where
  allows x
    | .nextCallbackId => x = (none, false)
    | .writeFrame message => x = (some message.requestId, false) ∧ LegalId message.requestId
    | _ => True
  next x
    | .nextCallbackId, (id : UInt64) => (some id, x.2)
    | .writeFrame _, _ => (x.1, true)
    | _, _ => x

variable {bridge : ProcessBridge} {body : MessageBody}

theorem numbered_send {message : Message} (legal : LegalId message.requestId) :
    (send message).Follows Numbered (fun _ x => x.1 = some message.requestId) (some message.requestId, false) := by
  refine ⟨⟨rfl, legal⟩, fun (written : Except ProtocolError Unit) => ?_⟩
  cases written with
  | error error => exact ⟨trivial, fun _ => rfl⟩
  | ok =>
    refine ⟨trivial, fun (flushed : Except IoError Unit) => ?_⟩
    cases flushed with
    | error error => exact ⟨trivial, fun _ => rfl⟩
    | ok => exact ⟨trivial, fun _ => rfl⟩

def Settles (failed : Prop) (x : Option UInt64 × Bool) : Prop := ∀ id, x.1 = some id → ¬LegalId id → failed

theorem settles_of_legal {failed : Prop} {id : UInt64} {x : Option UInt64 × Bool} (taken : x.1 = some id)
    (legal : LegalId id) : Settles failed x := by
  intro id' same illegal
  obtain rfl : id = id' := Option.some.inj (taken.symm.trans same)
  exact absurd legal illegal

theorem numbered_call (even : body.usesEvenRequestId = true) :
    (ProcessBridge.call body).Follows Numbered (fun answer x => Settles (∃ error, answer = .error error) x)
      (none, false) := by
  refine ⟨rfl, fun (id : UInt64) => ?_⟩
  show Prog.Follows _ _ (if id = 0 ∨ id > Sdk.i64Max then _ else _) (some id, false)
  split
  · exact fun _ _ _ => ⟨_, rfl⟩
  · cases made : Message.new id body with
    | error error => exact fun _ _ _ => ⟨_, rfl⟩
    | ok message =>
      obtain ⟨rfl, rfl⟩ := Message.new_eq_ok_iff.mp made
      obtain ⟨positive, bounded, parity, -⟩ := checkMessage_eq_ok_iff.mp message.accepted
      have legal : LegalId message.requestId := ⟨positive, bounded, parity.mpr even⟩
      refine ⟨trivial, fun _ => ?_⟩
      show Prog.Follows _ _ (send message >>= _) (some message.requestId, false)
      refine .bind (Prog.Follows.imp (numbered_send legal) fun sent x taken => ?_)
      cases sent with
      | error error => exact settles_of_legal taken legal
      | ok => exact ⟨trivial, fun _ => ⟨trivial, fun _ => ⟨trivial, fun _ => settles_of_legal taken legal⟩⟩⟩

theorem numbered_handleCall {session : UInt64} (even : body.usesEvenRequestId = true) :
    (bridge.handleCall session body).Follows Numbered (fun result x => Settles (∃ error, result = .error error) x)
      (none, false) := by
  unfold ProcessBridge.handleCall
  split
  · exact fun _ _ _ => ⟨_, rfl⟩
  · refine .bind (Prog.Follows.imp (numbered_call even) fun answer x settles id same illegal => ?_)
    obtain ⟨error, rfl⟩ := settles id same illegal
    exact ⟨error, rfl⟩

theorem numbered_code (call : BridgeCall) :
    (call.code bridge).Follows Numbered (fun result x => Settles result.Fails x) (none, false) := by
  cases call with
  | invoke plugin session operation input =>
    refine .bind ?_
    unfold ProcessBridge.invoke
    split
    · exact fun _ _ _ => ⟨_, rfl⟩
    · refine .bind (Prog.Follows.imp (numbered_call rfl) fun answer x settles id same illegal => ?_)
      obtain ⟨error, rfl⟩ := settles id same illegal
      exact ⟨error, rfl⟩
  | retainHandle session objectId generation => exact .bind (numbered_handleCall rfl)
  | releaseHandle session objectId generation => exact .bind (numbered_handleCall rfl)

end Follows

namespace Requests

section Counter

def idAt (k : Nat) : UInt64 := 2 + 2 * UInt64.ofNat k

theorem idAt_toNat {k : Nat} (few : k < 2 ^ 63 - 1) : (idAt k).toNat = 2 + 2 * k := by
  unfold idAt
  rw [UInt64.toNat_add, UInt64.toNat_mul, UInt64.toNat_ofNat']
  simp only [UInt64.reduceToNat]
  omega

theorem idAt_succ (k : Nat) : idAt (k + 1) = idAt k + 2 := by
  apply UInt64.toNat_inj.mp
  unfold idAt
  simp only [UInt64.toNat_add, UInt64.toNat_mul, UInt64.toNat_ofNat', UInt64.reduceToNat]
  omega

theorem legalId_idAt_iff {k : Nat} (few : k < 2 ^ 63) : LegalId (idAt k) ↔ k < 2 ^ 62 - 1 := by
  unfold LegalId
  by_cases last : k = 2 ^ 63 - 1
  · subst last
    decide
  · have number := idAt_toNat (k := k) (by omega)
    rw [Ne, ← UInt64.toNat_inj, ← UInt64.toNat_inj, UInt64.le_iff_toNat_le, UInt64.toNat_mod, number]
    have bound : Sdk.i64Max.toNat = 2 ^ 63 - 1 := rfl
    rw [bound]
    simp only [UInt64.reduceToNat]
    omega

theorem idAt_inj {k k' : Nat} (few : k < 2 ^ 63) (few' : k' < 2 ^ 63) (legal : LegalId (idAt k))
    (same : idAt k = idAt k') : k = k' := by
  have early := (legalId_idAt_iff few).mp legal
  have early' := (legalId_idAt_iff few').mp (same ▸ legal)
  have numbers := congrArg UInt64.toNat same
  rw [idAt_toNat (by omega), idAt_toNat (by omega)] at numbers
  omega

end Counter

section Safety

variable {Tid : Type} {bridge : ProcessBridge} {s : Requests Tid} {t : Tid}

/-- The IDs are those of a counter that nobody takes back, and each frame belongs to the operation that took its ID. -/
structure Recorded (s : Requests Tid) : Prop where
  counter : s.stdio.nextCallbackId = idAt s.ids.length
  ids : ∀ k id, s.ids[k]? = some id → id = idAt k
  few : s.ids.length ≤ 2 ^ 63
  taken : ∀ t k id, s.taken t = some (k, id) → s.ids[k]? = some id
  own : ∀ t t' k id id', s.taken t = some (k, id) → s.taken t' = some (k, id') → t = t'
  silent : ∀ t k id, s.taken t = some (k, id) → s.wrote t = false → ∀ id', (some k, id') ∉ s.frames
  framed : ∀ place id, (place, id) ∈ s.frames → LegalId id ∧ ∃ k, place = some k ∧ s.ids[k]? = some id
  once : (s.frames.map Prod.snd).Nodup
  returned : ∀ k result, (some k, result) ∈ s.returned → ∃ id, s.ids[k]? = some id ∧ (¬LegalId id → result.Fails)

namespace Recorded

theorem lt_of_id (recorded : s.Recorded) {k : Nat} {id : UInt64} (numbered : s.ids[k]? = some id) :
    k < s.ids.length ∧ k < 2 ^ 63 := by
  have bound := (List.getElem?_eq_some_iff.mp numbered).1
  have few := recorded.few
  exact ⟨bound, by omega⟩

theorem place_inj (recorded : s.Recorded) {k k' : Nat} {id : UInt64} (legal : LegalId id)
    (numbered : s.ids[k]? = some id) (numbered' : s.ids[k']? = some id) : k = k' := by
  have same := recorded.ids k id numbered
  exact idAt_inj (recorded.lt_of_id numbered).2 (recorded.lt_of_id numbered').2 (same ▸ legal)
    (same.symm.trans (recorded.ids k' id numbered'))

theorem initially : (({} : Requests Tid)).Recorded where
  counter := rfl
  ids _ _ numbered := by simp at numbered
  few := Nat.zero_le _
  taken _ _ _ taken := by cases taken
  own _ _ _ _ _ taken := by cases taken
  silent _ _ _ taken := by cases taken
  framed _ _ framed := by cases framed
  once := .nil
  returned _ _ returned := by cases returned

theorem stdio (recorded : s.Recorded) {stdio : Stdio Tid} (same : stdio.nextCallbackId = s.stdio.nextCallbackId) :
    Recorded { s with stdio } :=
  { recorded with counter := same.trans recorded.counter }

end Recorded

variable [DecidableEq Tid]

/-- Where an operation stands: the ID that it has taken, and whether it has written its frame. -/
def stands (s : Requests Tid) (t : Tid) : Option UInt64 × Bool := ((s.taken t).map Prod.snd, s.wrote t)

theorem stands_fresh : stands (s.fresh t) = update (stands s) t (none, false) := by
  funext t'
  by_cases same : t' = t
  · subst same
    simp [stands, fresh]
  · simp [stands, fresh, same]

theorem stands_record {op : StdioOp} {answer : op.Answer} :
    stands (record t op answer s) = update (stands s) t (Numbered.next (stands s t) op answer) := by
  funext t'
  by_cases same : t' = t
  · subst same
    cases op <;> simp [stands, record, Numbered]
  · cases op <;> simp [stands, record, same]

theorem tracks : (system Tid bridge).Tracks Numbered stands (fun _ result x => Settles result.Fails x) (none, false) where
  start t call s s' begun := ⟨(none, false), begun ▸ stands_fresh, numbered_code call⟩
  exec t op s answer s' answered := by
    obtain ⟨stdio, -, rfl⟩ := answered
    exact stands_record
  finish t call result s s' ended := by
    subst ended
    exact stands_fresh
  env s s' moved := by
    obtain ⟨stdio, -, rfl⟩ := moved
    rfl

namespace Recorded

theorem fresh (recorded : s.Recorded) (t : Tid) : (s.fresh t).Recorded := by
  have earlier : ∀ t' place, update s.taken t none t' = some place → t' ≠ t ∧ s.taken t' = some place := by
    intro t' place taken
    by_cases same : t' = t
    · subst same
      simp at taken
    · exact ⟨same, by rwa [update_of_ne same] at taken⟩
  exact {
    recorded with
    taken := fun t' k id taken => recorded.taken t' k id (earlier t' _ taken).2
    own := fun t' t'' k id id' taken taken' => recorded.own t' t'' k id id' (earlier t' _ taken).2 (earlier t'' _ taken').2
    silent := fun t' k id taken quiet => recorded.silent t' k id (earlier t' _ taken).2
      (by simpa [Requests.fresh, (earlier t' _ taken).1] using quiet) }

theorem nextCallbackId (recorded : s.Recorded) (silent : stands s t = (none, false)) (few : s.ids.length < 2 ^ 63)
    {id : UInt64} {stdio : Stdio Tid} (answered : s.stdio.exec t .nextCallbackId id stdio) :
    (record t .nextCallbackId id { s with stdio }).Recorded := by
  obtain ⟨rfl, rfl⟩ := answered
  obtain ⟨-, quiet⟩ := Prod.mk.inj silent
  have number := recorded.counter
  have before : ∀ {k id}, s.ids[k]? = some id → (s.ids ++ [s.stdio.nextCallbackId])[k]? = some id := fun numbered => by
    rwa [List.getElem?_append_left (recorded.lt_of_id numbered).1]
  have last : (s.ids ++ [s.stdio.nextCallbackId])[s.ids.length]? = some s.stdio.nextCallbackId := by simp
  have unframed : ∀ id, (some s.ids.length, id) ∉ s.frames := by
    intro id framed
    obtain ⟨-, k, same, numbered⟩ := recorded.framed _ _ framed
    obtain rfl := Option.some.inj same
    exact absurd (recorded.lt_of_id numbered).1 (lt_irrefl _)
  have unplaced : ∀ t' id, s.taken t' ≠ some (s.ids.length, id) := fun t' id taken =>
    absurd (recorded.lt_of_id (recorded.taken t' _ _ taken)).1 (lt_irrefl _)
  constructor
  case counter =>
    simp only [record, List.length_append, List.length_singleton, idAt_succ, number]
  case ids =>
    intro k id numbered
    rcases Nat.lt_or_ge k s.ids.length with early | late
    · exact recorded.ids k id (by rwa [record, List.getElem?_append_left early] at numbered)
    · obtain ⟨bound, -⟩ := List.getElem?_eq_some_iff.mp numbered
      obtain rfl : k = s.ids.length := by
        simp only [record, List.length_append, List.length_singleton] at bound
        omega
      exact (Option.some.inj (last.symm.trans numbered)).symm.trans number
  case few =>
    simp only [record, List.length_append, List.length_singleton]
    omega
  case taken =>
    intro t' k id taken
    by_cases same : t' = t
    · subst same
      simp only [record, update_self] at taken
      cases taken
      exact last
    · simp only [record, update_of_ne same] at taken
      exact before (recorded.taken t' k id taken)
  case own =>
    intro t' t'' k id id' taken taken'
    by_cases same : t' = t <;> by_cases same' : t'' = t
    · rw [same, same']
    · subst same
      simp only [record, update_self, update_of_ne same'] at taken taken'
      cases taken
      exact absurd taken' (unplaced _ _)
    · subst same'
      simp only [record, update_self, update_of_ne same] at taken taken'
      cases taken'
      exact absurd taken (unplaced _ _)
    · simp only [record, update_of_ne same, update_of_ne same'] at taken taken'
      exact recorded.own t' t'' k id id' taken taken'
  case silent =>
    intro t' k id taken quiet'
    by_cases same : t' = t
    · subst same
      simp only [record, update_self] at taken
      cases taken
      exact unframed
    · simp only [record, update_of_ne same] at taken
      exact recorded.silent t' k id taken quiet'
  case framed =>
    intro place id framed
    obtain ⟨legal, k, same, numbered⟩ := recorded.framed place id framed
    exact ⟨legal, k, same, before numbered⟩
  case once => exact recorded.once
  case returned =>
    intro k result returned
    obtain ⟨id, numbered, fails⟩ := recorded.returned k result returned
    exact ⟨id, before numbered, fails⟩

theorem writeFrame (recorded : s.Recorded) {message : Message} (taken : stands s t = (some message.requestId, false))
    (legal : LegalId message.requestId) {answer : Except ProtocolError Unit} :
    (record t (.writeFrame message) answer s).Recorded := by
  obtain ⟨mine, quiet⟩ := Prod.mk.inj taken
  obtain ⟨⟨k, id⟩, held, rfl⟩ := Option.map_eq_some_iff.mp mine
  have placed : s.place t = some k := by rw [place, held]; rfl
  have numbered := recorded.taken t k _ held
  exact {
    recorded with
    silent := fun t' k' id taken' quiet' id' framed => by
      by_cases same : t' = t
      · subst same
        simp [record] at quiet'
      · simp only [record, update_of_ne same] at taken' quiet'
        rcases List.mem_cons.mp framed with new | old
        · obtain ⟨here, -⟩ := Prod.mk.inj new
          obtain rfl := Option.some.inj (here.trans placed)
          exact same (recorded.own t' t _ _ _ taken' held)
        · exact recorded.silent t' k' id taken' quiet' id' old
    framed := fun place id framed => by
      rcases List.mem_cons.mp framed with new | old
      · cases new
        exact ⟨legal, k, placed, numbered⟩
      · exact recorded.framed place id old
    once := by
      refine List.nodup_cons.mpr ⟨fun again => ?_, recorded.once⟩
      obtain ⟨⟨place, id⟩, framed, same⟩ := List.mem_map.mp again
      obtain ⟨-, k', rfl, numbered'⟩ := recorded.framed place id framed
      simp only at same
      subst same
      obtain rfl := recorded.place_inj legal numbered numbered'
      exact recorded.silent t k _ held quiet _ framed }

theorem finish (recorded : s.Recorded) {result : BridgeResult} (settles : Settles result.Fails (stands s t)) :
    Recorded { s.fresh t with returned := (s.place t, result) :: s.returned } :=
  { recorded.fresh t with
    returned := fun k result' returned => by
      rcases List.mem_cons.mp returned with new | old
      · obtain ⟨placed, rfl⟩ := Prod.mk.inj new
        obtain ⟨⟨k', id⟩, held, rfl⟩ := Option.map_eq_some_iff.mp placed.symm
        exact ⟨id, recorded.taken t _ id held, settles id (congrArg (Option.map Prod.snd) held)⟩
      · exact recorded.returned k result' old }

omit [DecidableEq Tid] in
theorem neverReused (recorded : s.Recorded) : s.NeverReused := by
  have legal_of_early : ∀ {k k' : Nat} {id id'}, s.ids[k]? = some id → s.ids[k']? = some id' → k ≤ k' → ¬LegalId id →
      ¬LegalId id' := by
    intro k k' id id' numbered numbered' early illegal
    have bound' := (recorded.lt_of_id numbered').2
    rw [recorded.ids k id numbered, legalId_idAt_iff (by omega)] at illegal
    rw [recorded.ids k' id' numbered', legalId_idAt_iff bound']
    omega
  constructor
  case framed => exact recorded.framed
  case once => exact recorded.once
  case increasing =>
    intro k k' id id' framed framed' early
    obtain ⟨legal, _, same, numbered⟩ := recorded.framed _ _ framed
    obtain ⟨legal', _, same', numbered'⟩ := recorded.framed _ _ framed'
    obtain rfl := Option.some.inj same
    obtain rfl := Option.some.inj same'
    obtain rfl := recorded.ids _ _ numbered
    obtain rfl := recorded.ids _ _ numbered'
    have bound := (legalId_idAt_iff (recorded.lt_of_id numbered).2).mp legal
    have bound' := (legalId_idAt_iff (recorded.lt_of_id numbered').2).mp legal'
    rw [UInt64.lt_iff_toNat_lt, idAt_toNat (by omega), idAt_toNat (by omega)]
    omega
  case exhausted =>
    intro k k' id numbered illegal early
    constructor
    · intro id' framed
      obtain ⟨legal, _, same, numbered'⟩ := recorded.framed _ _ framed
      obtain rfl := Option.some.inj same
      exact legal_of_early numbered numbered' early illegal legal
    · intro result returned
      obtain ⟨id', numbered', fails⟩ := recorded.returned k' result returned
      exact fails (legal_of_early numbered numbered' early illegal)

end Recorded

omit [DecidableEq Tid] in
theorem counter_kept {op : StdioOp} {answer : op.Answer} {stdio stdio' : Stdio Tid} (other : op ≠ .nextCallbackId)
    (ran : stdio.exec t op answer stdio') : stdio'.nextCallbackId = stdio.nextCallbackId := by
  cases op with
  | lockReader => rw [ran.2]
  | unlockReader => rw [ran]
  | readFrame site =>
    obtain ⟨rest, -, rfl⟩ := ran
    rfl
  | lockWriter => rw [ran.2]
  | unlockWriter => rw [ran]
  | writeFrame message =>
    simp only [Stdio.exec] at ran
    split at ran
    · rw [ran.2]
    · obtain ⟨-, rfl⟩ | ⟨error, written, -, -, -, rfl⟩ := ran <;> rfl
  | flush => obtain ⟨-, rfl⟩ | ⟨error, -, -, rfl⟩ := ran <;> rfl
  | nextCallbackId => exact absurd rfl other

theorem recorded_exec {op : StdioOp} {answer : op.Answer} {s' : Requests Tid} (recorded : s.Recorded)
    (allowed : Numbered.allows (stands s t) op) (few : Unwrapped t op s) (answered : exec t op s answer s') :
    s'.Recorded := by
  obtain ⟨stdio, ran, rfl⟩ := answered
  have same : op ≠ .nextCallbackId → stdio.nextCallbackId = s.stdio.nextCallbackId := fun other =>
    counter_kept other ran
  cases op with
  | nextCallbackId => exact recorded.nextCallbackId allowed (few rfl) ran
  | writeFrame message => exact (recorded.stdio (same nofun)).writeFrame allowed.1 allowed.2
  | _ => exact recorded.stdio (same nofun)

/-- While the counter has not come round, no request ID is used a second time and none after the last legal one. -/
theorem never_reused_of_unwrapped {c : RequestsConfig Tid}
    (reached : ((system Tid bridge).restrict Unwrapped).Reachable (fun s => s = {}) c) : NeverReused c.state := by
  have base : ∀ s : Requests Tid, s = {} → s.Recorded := by
    intro s initially
    subst initially
    exact .initially
  have recorded : c.state.Recorded := by
    refine tracks.restrict.invariant ?_ base ?_ ?_ ?_ ?_ reached
    · intro s initially t
      subst initially
      rfl
    · intro t call s s' recorded _ begun
      subst begun
      exact recorded.fresh t
    · intro t op s answer s' recorded allowed answered
      exact recorded_exec recorded allowed answered.1 answered.2
    · intro t call result s s' recorded settles ended
      subst ended
      exact recorded.finish settles
    · intro s s' recorded moved
      obtain ⟨stdio, same, rfl⟩ := moved
      exact recorded.stdio same
  exact recorded.neverReused

end Safety

section Runs

theorem afterId_illegal {requestId : UInt64} (body : MessageBody) (even : body.usesEvenRequestId = true)
    (illegal : ¬LegalId requestId) : ∃ error, afterId body requestId = .done (.error error) := by
  unfold afterId
  split
  · exact ⟨_, rfl⟩
  · cases made : Message.new requestId body with
    | error error => exact ⟨_, rfl⟩
    | ok message =>
      obtain ⟨rfl, rfl⟩ := Message.new_eq_ok_iff.mp made
      obtain ⟨positive, bounded, parity, -⟩ := checkMessage_eq_ok_iff.mp message.accepted
      exact absurd ⟨positive, bounded, parity.mpr even⟩ illegal

def retainCall : BridgeCall := .retainHandle 1 1 1

theorem code_retainCall : retainCall.code ⟨1, 1⟩ = .act .nextCallbackId fun (id : UInt64) =>
    afterId (.retainHandle 1 1) id >>= fun answer => .done (.unit (ProcessBridge.handleResult answer)) := by
  show (ProcessBridge.call (.retainHandle 1 1) >>= _) >>= _ = _
  rw [call_eq]
  simp only [Prog.bind_bind]
  rfl

/-- The parent has closed its end, and everybody has given the streams back. -/
structure AtEnd (s : Requests Unit) : Prop where
  unread : s.stdio.unread = []
  ended : s.stdio.ended = true
  reader : s.stdio.reader = none
  writer : s.stdio.writer = none

variable {s : Requests Unit}

theorem exec_writeFrame {Tid : Type} [DecidableEq Tid] {r : Requests Tid} {t : Tid} {m : Message} {bytes : List UInt8}
    (framed : frame m = .ok bytes) : exec t (.writeFrame m) r (.ok ()) { r with
      stdio := { r.stdio with buffered := r.stdio.buffered ++ bytes }
      frames := (r.place t, m.requestId) :: r.frames
      wrote := update r.wrote t true } := by
  refine ⟨{ r.stdio with buffered := r.stdio.buffered ++ bytes }, ?_, rfl⟩
  simp only [Stdio.exec, framed]
  exact .inl ⟨rfl, trivial⟩

theorem performs_send {m : Message} {bytes : List UInt8} (framed : frame m = .ok bytes) :
    (system Unit ⟨1, 1⟩).Performs () (send m) s (.ok ()) { s with
      stdio := { s.stdio with output := s.stdio.output ++ (s.stdio.buffered ++ bytes), buffered := [], writer := none }
      frames := (s.place (), m.requestId) :: s.frames
      wrote := update s.wrote () true } :=
  ⟨_, _, exec_writeFrame framed, _, _, ⟨_, .inl ⟨rfl, rfl⟩, rfl⟩, (), _, ⟨_, rfl, rfl⟩, rfl, rfl⟩

theorem performs_afterId {m : Message} {bytes : List UInt8} (framed : frame m = .ok bytes) (atEnd : s.AtEnd) :
    (system Unit ⟨1, 1⟩).Performs () (afterId m.body m.requestId) s (.error .invalidHostResult) { s with
      stdio := { s.stdio with output := s.stdio.output ++ (s.stdio.buffered ++ bytes), buffered := [] }
      frames := (s.place (), m.requestId) :: s.frames
      wrote := update s.wrote () true } := by
  obtain ⟨unread, ended, reader, writer⟩ := atEnd
  rw [afterId_legal]
  refine ⟨(), _, ⟨_, ⟨writer, rfl⟩, rfl⟩, (performs_send framed).bind ?_⟩
  refine ⟨(), _, ⟨_, ⟨reader, rfl⟩, rfl⟩, .ok none, _, ⟨_, ⟨[], ?_, rfl⟩, rfl⟩, (), _, ⟨_, rfl, rfl⟩, rfl, ?_⟩
  · show Protocol.readFrame s.stdio.ended s.stdio.unread = .ready (.ok none) []
    rw [ended, unread]
    rfl
  · simp only [record, place, unread, reader, writer]

def took (s : Requests Unit) : Requests Unit :=
  record () .nextCallbackId s.stdio.nextCallbackId
    { s.fresh () with stdio := { s.stdio with nextCallbackId := s.stdio.nextCallbackId + 2 } }

theorem run_retainCall {answer : Except HostError MessageBody} {s' : Requests Unit}
    (performs : (system Unit ⟨1, 1⟩).Performs () (afterId (.retainHandle 1 1) s.stdio.nextCallbackId) s.took answer s') :
    (system Unit ⟨1, 1⟩).Run ⟨s, fun _ => .idle⟩ ⟨{ s'.fresh () with
      returned := (s'.place (), .unit (ProcessBridge.handleResult answer)) :: s'.returned }, fun _ => .idle⟩ := by
  have whole : (system Unit ⟨1, 1⟩).Performs () (retainCall.code ⟨1, 1⟩) (s.fresh ())
      (.unit (ProcessBridge.handleResult answer)) s' := by
    rw [code_retainCall]
    exact ⟨s.stdio.nextCallbackId, s.took, ⟨_, ⟨rfl, rfl⟩, rfl⟩, performs.bind ⟨rfl, rfl⟩⟩
  exact Run.complete .refl () retainCall rfl rfl whole rfl

/-- A call at the end of the input takes the next ID and, if it is legal, writes its frame and finds no reply. -/
theorem run_call (atEnd : s.AtEnd) : ∃ s', (system Unit ⟨1, 1⟩).Run ⟨s, fun _ => .idle⟩ ⟨s', fun _ => .idle⟩ ∧
    s'.AtEnd ∧ s'.stdio.nextCallbackId = s.stdio.nextCallbackId + 2 ∧ s'.ids = s.ids ++ [s.stdio.nextCallbackId] ∧
    s.frames ⊆ s'.frames ∧
    (LegalId s.stdio.nextCallbackId → (some s.ids.length, s.stdio.nextCallbackId) ∈ s'.frames) := by
  have still : s.took.AtEnd := ⟨atEnd.unread, atEnd.ended, atEnd.reader, atEnd.writer⟩
  by_cases legal : LegalId s.stdio.nextCallbackId
  · let m : Message := ⟨s.stdio.nextCallbackId, .retainHandle 1 1, checkMessage_eq_ok_iff.mpr
      ⟨legal.1, legal.2.1, ⟨fun _ => rfl, fun _ => legal.2.2⟩, rfl⟩⟩
    obtain ⟨bytes, framed⟩ := frame_retainHandle_isOk (m := m) rfl
    refine ⟨_, run_retainCall (performs_afterId framed still), ⟨still.unread, still.ended, still.reader, still.writer⟩,
      rfl, rfl, fun _ => .tail _, fun _ => ?_⟩
    have place : s.took.place () = some s.ids.length := rfl
    rw [← place]
    exact .head _
  · obtain ⟨error, ends⟩ := afterId_illegal (.retainHandle 1 1) rfl legal
    have refused : (system Unit ⟨1, 1⟩).Performs () (afterId (.retainHandle 1 1) s.stdio.nextCallbackId) s.took
        (.error error) s.took := by
      rw [ends]
      exact ⟨rfl, rfl⟩
    exact ⟨_, run_retainCall refused, ⟨still.unread, still.ended, still.reader, still.writer⟩,
      rfl, rfl, fun _ => id, fun legal' => absurd legal' legal⟩

theorem run_calls (n : Nat) : ∃ s, (system Unit ⟨1, 1⟩).Reachable (fun s => s = {}) ⟨s, fun _ => .idle⟩ ∧ s.AtEnd ∧
    s.ids.length = n ∧ s.stdio.nextCallbackId = idAt n ∧ ∀ k < n, LegalId (idAt k) → (some k, idAt k) ∈ s.frames := by
  induction n with
  | zero =>
    have moved : (system Unit ⟨1, 1⟩).env {} { stdio := { ended := true } } := ⟨{ ended := true }, rfl, rfl⟩
    exact ⟨_, ⟨{}, rfl, Run.env .refl moved⟩, ⟨rfl, rfl, rfl, rfl⟩, rfl, rfl, fun k none => absurd none (Nat.not_lt_zero k)⟩
  | succ n ih =>
    obtain ⟨s, ⟨_, rfl, run⟩, atEnd, length, counter, framed⟩ := ih
    obtain ⟨s', later, atEnd', counter', ids, kept, added⟩ := run_call atEnd
    refine ⟨s', ⟨{}, rfl, run.trans later⟩, atEnd', ?_, ?_, fun k early legal => ?_⟩
    · rw [ids, List.length_append, length, List.length_singleton]
    · rw [counter', counter, idAt_succ]
    · rcases Nat.lt_succ_iff_lt_or_eq.mp early with before | rfl
      · exact kept (framed k before legal)
      · rw [← counter, ← length]
        exact added (counter ▸ legal)

/-- Once the counter has come round, the ID of the first callback is used again. -/
theorem request_id_reused : ∃ c : RequestsConfig Unit, (system Unit ⟨1, 1⟩).Reachable (fun s => s = {}) c ∧
    (some 0, 2) ∈ c.state.frames ∧ (some (2 ^ 63), 2) ∈ c.state.frames ∧ ¬NeverReused c.state := by
  obtain ⟨s, reached, -, -, -, framed⟩ := run_calls (2 ^ 63 + 1)
  have first : idAt 0 = 2 := by decide
  have again : idAt (2 ^ 63) = 2 := by decide
  have legal : LegalId 2 := by unfold LegalId; decide
  have early := first ▸ framed 0 (by omega) (first ▸ legal)
  have late := again ▸ framed (2 ^ 63) (by omega) (again ▸ legal)
  refine ⟨_, reached, early, late, fun never => ?_⟩
  exact absurd (never.increasing 0 (2 ^ 63) 2 2 early late (by omega)) (by decide)

/-- The operation that takes the second ID is the first to write its frame. -/
theorem first_id_used_once : ∃ c : RequestsConfig Bool,
    ((system Bool ⟨1, 1⟩).restrict Unwrapped).Reachable (fun s => s = {}) c ∧
      c.state.frames = [(some 0, 2), (some 1, 4)] ∧ NeverReused c.state := by
  let m : Message := ⟨2, .retainHandle 1 1, by decide⟩
  let m' : Message := ⟨4, .retainHandle 1 1, by decide⟩
  obtain ⟨bytes, framed⟩ := frame_retainHandle_isOk (m := m) rfl
  obtain ⟨bytes', framed'⟩ := frame_retainHandle_isOk (m := m') rfl
  have idle : ((system Bool ⟨1, 1⟩).restrict Unwrapped).Run ⟨{}, fun _ => .idle⟩ ⟨{}, fun _ => .idle⟩ := .refl
  have first := (idle.start false retainCall rfl rfl).act false .nextCallbackId (2 : UInt64) rfl
    ⟨fun _ => Nat.two_pow_pos 63, _, ⟨rfl, rfl⟩, rfl⟩
  have second := (first.start true retainCall rfl rfl).act true .nextCallbackId (4 : UInt64) rfl
    ⟨fun _ => (by decide : 1 < 2 ^ 63), _, ⟨rfl, rfl⟩, rfl⟩
  have wrote := (second.act true .lockWriter () rfl ⟨nofun, _, ⟨rfl, rfl⟩, rfl⟩).act true (.writeFrame m') (.ok ()) rfl
    ⟨nofun, exec_writeFrame framed'⟩
  have unlocked := (wrote.act true .flush (.ok () : Except IoError Unit) rfl ⟨nofun, _, .inl ⟨rfl, rfl⟩, rfl⟩).act true
    .unlockWriter () rfl ⟨nofun, _, rfl, rfl⟩
  have framed := (unlocked.act false .lockWriter () rfl ⟨nofun, _, ⟨rfl, rfl⟩, rfl⟩).act false (.writeFrame m) (.ok ()) rfl
    ⟨nofun, exec_writeFrame framed⟩
  exact ⟨_, ⟨{}, rfl, framed⟩, rfl, never_reused_of_unwrapped ⟨{}, rfl, framed⟩⟩

end Runs

end Requests

end RuntimeHost.Process
