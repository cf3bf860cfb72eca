import RuntimeHost.Protocol.Frame

namespace RuntimeHost.Protocol

open Foundation Sdk

/-- What one call of `read` does: it is interrupted, or it returns at most `further + 1` bytes. -/
inductive ReadCall where
  | interrupted (text : String)
  | short (further : Nat)

/-- A stream and how its reader splits it; once the calls are used up, `read` returns all that fits. -/
structure Reader where
  bytes : List UInt8
  calls : List ReadCall := []

namespace Reader

def read (size : Nat) (r : Reader) : Except IoError (List UInt8) × Reader :=
  match r.calls with
  | .interrupted text :: calls => (.error ⟨.interrupted, text⟩, { r with calls })
  | .short further :: calls =>
    let count := min size (further + 1)
    (.ok (r.bytes.take count), { bytes := r.bytes.drop count, calls })
  | [] => (.ok (r.bytes.take size), { bytes := r.bytes.drop size })

theorem read_error {size : Nat} {r r' : Reader} {error : IoError} (failed : r.read size = (.error error, r')) :
    error.kind = .interrupted ∧ r'.bytes = r.bytes ∧ r'.calls.length < r.calls.length := by
  unfold read at failed
  split at failed
  · rename_i text calls same
    cases failed
    exact ⟨rfl, rfl, by simp [same]⟩
  · cases failed
  · cases failed

theorem read_ok {size : Nat} {r r' : Reader} {bytes : List UInt8} (done : r.read size = (.ok bytes, r')) :
    r.bytes = bytes ++ r'.bytes ∧ bytes.length ≤ size ∧ (bytes = [] → size = 0 ∨ r.bytes = []) := by
  unfold read at done
  split at done
  · cases done
  · rename_i further calls same
    cases done
    refine ⟨(List.take_append_drop _ _).symm, by simp, fun empty => ?_⟩
    rcases List.take_eq_nil_iff.mp empty with none | ended
    · exact .inl (by omega)
    · exact .inr ended
  · cases done
    refine ⟨(List.take_append_drop _ _).symm, by simp, fun empty => ?_⟩
    exact List.take_eq_nil_iff.mp empty

def readFirst (r : Reader) : Except ProtocolError (Option UInt8) × Reader :=
  match _h : r.read 1 with
  | (.ok [], r') => (.ok none, r')
  | (.ok (b :: _), r') => (.ok (some b), r')
  | (.error error, r') => if error.kind = .interrupted then r'.readFirst else (.error (.io error), r')
termination_by r.calls.length
decreasing_by exact (read_error ‹_›).2.2

def fill (size : Nat) (r : Reader) : Except IoError (List UInt8) × Reader :=
  if size = 0 then (.ok [], r)
  else
    match _h : r.read size with
    | (.ok [], r') => (.error ⟨.unexpectedEof, "failed to fill whole buffer"⟩, r')
    | (.ok (b :: bytes), r') =>
      let rest := r'.fill (size - (bytes.length + 1))
      (rest.1.map (b :: bytes ++ ·), rest.2)
    | (.error error, r') => if error.kind = .interrupted then r'.fill size else (.error error, r')
termination_by (size, r.calls.length)
decreasing_by
  · exact Prod.Lex.left _ _ (by omega)
  · exact Prod.Lex.right _ (read_error ‹_›).2.2

def readExact (truncated : String) (size : Nat) (r : Reader) : Except ProtocolError (List UInt8) × Reader :=
  match r.fill size with
  | (.ok bytes, r') => (.ok bytes, r')
  | (.error error, r') => (.error (if error.kind = .unexpectedEof then invalid truncated else .io error), r')

def readFrame (r : Reader) : Except ProtocolError (Option Message) × Reader :=
  match r.readFirst with
  | (.error error, r') => (.error error, r')
  | (.ok none, r') => (.ok none, r')
  | (.ok (some b), r') =>
    match r'.readExact "truncated frame header" 3 with
    | (.error error, r') => (.error error, r')
    | (.ok header, r') =>
      let length := ofBigEndian (b :: header)
      if length = 0 ∨ maxFrameBytes < length then (.error (invalid "frame length is outside bounds"), r')
      else
        match r'.readExact "truncated frame body" length with
        | (.error error, r') => (.error error, r')
        | (.ok body, r') => ((Message.fromWire body).map some, r')

theorem readFirst_eq (r : Reader) : r.readFirst.1 = .ok r.bytes.head? ∧ r.readFirst.2.bytes = r.bytes.tail := by
  induction r using readFirst.induct with
  | case1 r r' done =>
    obtain ⟨whole, -, empty⟩ := read_ok done
    rw [readFirst, done]
    have ended : r.bytes = [] := (empty rfl).resolve_left (by decide)
    simp_all
  | case2 r b bytes r' done =>
    obtain ⟨whole, short, -⟩ := read_ok done
    rw [readFirst, done]
    have none : bytes = [] := by
      simp at short
      exact short
    simp_all
  | case3 r error r' failed interrupted ih =>
    rw [readFirst, failed]
    simp only [interrupted, if_true]
    rw [← (read_error failed).2.1]
    exact ih
  | case4 r error r' failed other => exact absurd (read_error failed).1 other

theorem fill_eq (size : Nat) (r : Reader) :
    (r.fill size).2.bytes = r.bytes.drop size ∧
      (r.fill size).1 = if size ≤ r.bytes.length then .ok (r.bytes.take size)
        else .error ⟨.unexpectedEof, "failed to fill whole buffer"⟩ := by
  induction size, r using fill.induct with
  | case1 r =>
    rw [fill, if_pos rfl]
    simp
  | case2 size r some r' done =>
    obtain ⟨whole, -, empty⟩ := read_ok done
    have ended : r.bytes = [] := (empty rfl).resolve_left some
    rw [fill, if_neg some, done]
    simp_all
  | case3 size r some b bytes r' done ih =>
    obtain ⟨whole, short, -⟩ := read_ok done
    rw [fill, if_neg some, done]
    obtain ⟨left, result⟩ := ih
    have length : size = bytes.length + 1 + (size - (bytes.length + 1)) := by
      simp at short
      omega
    have front : (b :: bytes).length = bytes.length + 1 := rfl
    refine ⟨?_, ?_⟩
    · rw [left, whole, length, ← front, List.drop_length_add_append, front, Nat.add_sub_cancel_left]
    · simp only [result, whole]
      rw [length, ← front, List.take_length_add_append, front, Nat.add_sub_cancel_left]
      have enough : bytes.length + 1 + (size - (bytes.length + 1)) ≤ (b :: bytes ++ r'.bytes).length ↔
          size - (bytes.length + 1) ≤ r'.bytes.length := by
        simp
        omega
      rw [apply_ite (Except.map _)]
      simp only [enough, Except.map]
  | case4 size r some error r' failed interrupted ih =>
    rw [fill, if_neg some, failed]
    simp only [interrupted, if_true]
    rw [← (read_error failed).2.1]
    exact ih
  | case5 size r some error r' failed other => exact absurd (read_error failed).1 other

theorem readExact_eq (truncated : String) (size : Nat) (r : Reader) :
    (r.readExact truncated size).2.bytes = r.bytes.drop size ∧
      (r.readExact truncated size).1 = if size ≤ r.bytes.length then .ok (r.bytes.take size)
        else .error (invalid truncated) := by
  obtain ⟨left, result⟩ := r.fill_eq size
  unfold readExact
  split
  · rename_i bytes r' filled
    rw [filled] at left result
    refine ⟨left, ?_⟩
    split at result
    · rw [if_pos ‹_›]
      exact congrArg _ (Except.ok.inj result)
    · cases result
  · rename_i error r' filled
    rw [filled] at left result
    refine ⟨left, ?_⟩
    split at result
    · cases result
    · rename_i short
      rw [if_neg short, Except.error.inj result, if_pos rfl]

end Reader

theorem readExact_ended (truncated : String) (size : Nat) (bytes : List UInt8) :
    readExact true truncated size (bytes.map .byte) =
      .ready (if size ≤ bytes.length then .ok (bytes.take size) else .error (invalid truncated))
        ((bytes.drop size).map .byte) := by
  induction size generalizing bytes with
  | zero => simp [readExact.eq_def]
  | succ size ih =>
    cases bytes with
    | nil => simp [readExact]
    | cons b bytes =>
      rw [List.map_cons, readExact, ih]
      by_cases enough : size ≤ bytes.length
      · simp [Read.andThen, enough]
      · simp [Read.andThen, enough]

theorem Reader.readFrame_eq (r : Reader) :
    Protocol.readFrame true (r.bytes.map .byte) = .ready r.readFrame.1 (r.readFrame.2.bytes.map .byte) := by
  obtain ⟨first, left⟩ := r.readFirst_eq
  unfold Reader.readFrame
  rcases read : r.readFirst with ⟨result, r'⟩
  rw [read] at first left
  simp only at first left
  subst first
  cases bytes : r.bytes with
  | nil =>
    rw [bytes] at left
    simp [Protocol.readFrame, left]
  | cons b rest =>
    rw [bytes] at left
    simp only [List.head?_cons, List.map_cons, Protocol.readFrame, readExact_ended]
    obtain ⟨behind, header⟩ := r'.readExact_eq "truncated frame header" 3
    rcases filled : r'.readExact "truncated frame header" 3 with ⟨result, s⟩
    simp only [filled, left, List.tail_cons] at behind header
    by_cases three : 3 ≤ rest.length
    · rw [if_pos three] at header ⊢
      subst header
      simp only [Read.andThen]
      by_cases outside : ofBigEndian (b :: rest.take 3) = 0 ∨ maxFrameBytes < ofBigEndian (b :: rest.take 3)
      · rw [if_pos outside, if_pos outside, behind]
      · rw [if_neg outside, if_neg outside]
        obtain ⟨last, body⟩ := s.readExact_eq "truncated frame body" (ofBigEndian (b :: rest.take 3))
        rcases filled : s.readExact "truncated frame body" (ofBigEndian (b :: rest.take 3)) with ⟨result, s'⟩
        simp only [filled, behind] at last body
        simp only [readExact_ended]
        by_cases enough : ofBigEndian (b :: rest.take 3) ≤ (rest.drop 3).length
        · rw [if_pos enough] at body ⊢
          subst body
          simp only [last]
        · rw [if_neg enough] at body ⊢
          subst body
          simp only [last]
    · rw [if_neg three] at header ⊢
      subst header
      simp only [Read.andThen, behind]

/-- The stream starts with a length within the bounds and that many bytes that decode to the message. -/
def StartsWith (bytes : List UInt8) (m : Message) (rest : List UInt8) : Prop :=
  ∃ header body, bytes = header ++ body ++ rest ∧ header.length = 4 ∧ ofBigEndian header = body.length ∧
    1 ≤ body.length ∧ body.length ≤ maxFrameBytes ∧ Message.fromWire body = .ok m

theorem byte_map_injective : Function.Injective (List.map Input.byte) := by
  apply List.map_injective_iff.mpr
  intro a b same
  cases same
  rfl

theorem readFrame_eq_some_iff {bytes rest : List UInt8} {m : Message} :
    readFrame true (bytes.map .byte) = .ready (.ok (some m)) (rest.map .byte) ↔ StartsWith bytes m rest := by
  constructor
  · intro read
    cases bytes with
    | nil => cases read
    | cons b tail =>
      simp only [List.map_cons, readFrame, readExact_ended] at read
      by_cases three : 3 ≤ tail.length
      · rw [if_pos three, Read.andThen] at read
        by_cases outside : ofBigEndian (b :: tail.take 3) = 0 ∨ maxFrameBytes < ofBigEndian (b :: tail.take 3)
        · rw [if_pos outside] at read
          cases read
        · rw [if_neg outside] at read
          simp only [readExact_ended] at read
          by_cases enough : ofBigEndian (b :: tail.take 3) ≤ (tail.drop 3).length
          · rw [if_pos enough, Read.andThen] at read
            simp only [Read.ready.injEq] at read
            obtain ⟨decoded, left⟩ := read
            have length : ((tail.drop 3).take (ofBigEndian (b :: tail.take 3))).length = ofBigEndian (b :: tail.take 3) := by
              rw [List.length_take, Nat.min_eq_left enough]
            refine ⟨b :: tail.take 3, (tail.drop 3).take (ofBigEndian (b :: tail.take 3)), ?_, ?_, length.symm, ?_, ?_, ?_⟩
            · rw [← byte_map_injective left, List.append_assoc, List.take_append_drop, List.cons_append,
                List.take_append_drop]
            · simp [three]
            · omega
            · omega
            · cases wire : Message.fromWire ((tail.drop 3).take (ofBigEndian (b :: tail.take 3))) with
              | error error => simp [wire, Except.map] at decoded
              | ok m' =>
                rw [wire] at decoded
                cases decoded
                rfl
          · rw [if_neg enough, Read.andThen] at read
            cases read
      · rw [if_neg three, Read.andThen] at read
        cases read
  · rintro ⟨header, body, rfl, four, length, positive, bounded, decoded⟩
    obtain ⟨b, tail, rfl⟩ : ∃ b tail, header = b :: tail :=
      List.exists_cons_of_length_pos (by omega)
    have three : tail.length = 3 := by simpa using four
    rw [List.append_assoc, List.map_append, List.map_append, List.map_cons, List.cons_append, readFrame, ← three,
      readExact_bytes]
    simp only [Read.andThen, length]
    rw [if_neg (by omega), readExact_bytes]
    simp only [decoded, Except.map]

namespace Reader

theorem readFrame_eq_some {r : Reader} {m : Message} {rest : List UInt8} :
    (r.readFrame.1 = .ok (some m) ∧ r.readFrame.2.bytes = rest) ↔ StartsWith r.bytes m rest := by
  rw [← readFrame_eq_some_iff, r.readFrame_eq, Read.ready.injEq, byte_map_injective.eq_iff]

theorem readFrame_eq_none {r : Reader} : r.readFrame.1 = .ok none ↔ r.bytes = [] := by
  have read := r.readFrame_eq
  cases bytes : r.bytes with
  | nil =>
    rw [bytes] at read
    simp only [List.map_nil, Protocol.readFrame, if_true, Read.ready.injEq] at read
    simp [read.1.symm]
  | cons b tail =>
    simp only [reduceCtorEq, iff_false]
    intro none
    rw [bytes, none, List.map_cons, Protocol.readFrame, andThen_eq_ready] at read
    rcases read with ⟨header, middle, -, read⟩ | ⟨error, -, same⟩
    · simp only at read
      split at read
      · cases read
      · rcases andThen_eq_ready.mp read with ⟨body, last, -, decoded⟩ | ⟨error, -, same⟩
        · simp only [Read.ready.injEq] at decoded
          cases wire : Message.fromWire body <;> simp [wire, Except.map] at decoded
        · cases same
    · cases same

end Reader

def writeFrame {W : Type} (writeAll : List UInt8 → W → Except IoError Unit × W) (m : Message) (w : W) :
    Except ProtocolError Unit × W :=
  match m.toWire with
  | .error error => (.error error, w)
  | .ok body =>
    if 2 ^ 32 ≤ body.length then (.error (invalid "frame length overflow"), w)
    else if body.length = 0 ∨ maxFrameBytes < body.length then
      (.error (invalid "frame length is outside bounds"), w)
    else
      match writeAll (be32 body.length) w with
      | (.error error, w) => (.error (.io error), w)
      | (.ok (), w) =>
        match writeAll body w with
        | (.error error, w) => (.error (.io error), w)
        | (.ok (), w) => (.ok (), w)

def appendAll (bytes output : List UInt8) : Except IoError Unit × List UInt8 := (.ok (), output ++ bytes)

def writeFrames {W : Type} (writeAll : List UInt8 → W → Except IoError Unit × W) :
    List Message → W → Except ProtocolError Unit × W
  | [], w => (.ok (), w)
  | m :: messages, w =>
    match writeFrame writeAll m w with
    | (.error error, w) => (.error error, w)
    | (.ok (), w) => writeFrames writeAll messages w

theorem writeFrame_appendAll (m : Message) (output : List UInt8) :
    writeFrame appendAll m output =
      match frame m with
      | .error error => (.error error, output)
      | .ok bytes => (.ok (), output ++ bytes) := by
  unfold writeFrame frame
  cases m.toWire with
  | error error => rfl
  | ok body =>
    simp only [appendAll, ok_bind]
    split
    · rfl
    · split
      · rfl
      · simp

theorem writeFrame_rejected {W : Type} (writeAll : List UInt8 → W → Except IoError Unit × W) {m : Message} {w : W}
    {error : ProtocolError} (rejected : (writeFrame appendAll m []).1 = .error error) :
    writeFrame writeAll m w = (.error error, w) := by
  rw [writeFrame] at rejected ⊢
  cases wire : m.toWire with
  | error error => simp_all
  | ok body =>
    simp only [wire, appendAll] at rejected ⊢
    by_cases overflow : 2 ^ 32 ≤ body.length
    · rw [if_pos overflow] at rejected ⊢
      cases rejected
      rfl
    · by_cases outside : body.length = 0 ∨ maxFrameBytes < body.length
      · rw [if_neg overflow, if_pos outside] at rejected ⊢
        cases rejected
        rfl
      · rw [if_neg overflow, if_neg outside] at rejected
        cases rejected

theorem carries_of_writeFrames {messages : List Message} {output bytes : List UInt8}
    (written : writeFrames appendAll messages output = (.ok (), bytes)) :
    ∃ added, bytes = output ++ added ∧ Carries added messages := by
  induction messages generalizing output with
  | nil =>
    cases written
    exact ⟨[], (List.append_nil _).symm, .nil⟩
  | cons m messages ih =>
    rw [writeFrames, writeFrame_appendAll] at written
    cases framed : frame m with
    | error error =>
      rw [framed] at written
      cases written
    | ok first =>
      rw [framed] at written
      obtain ⟨added, rfl, carries⟩ := ih written
      exact ⟨first ++ added, List.append_assoc .., .cons framed carries⟩

inductive ReadsBack : Reader → List Message → Prop
  | ended {r : Reader} (none : r.readFrame.1 = .ok none) : ReadsBack r []
  | next {r : Reader} {m : Message} {messages : List Message} (some : r.readFrame.1 = .ok (some m))
      (later : ReadsBack r.readFrame.2 messages) : ReadsBack r (m :: messages)

theorem readsBack_of_carries {bytes : List UInt8} {messages : List Message} (carries : Carries bytes messages)
    {r : Reader} (same : r.bytes = bytes) : ReadsBack r messages := by
  induction carries generalizing r with
  | nil => exact .ended (Reader.readFrame_eq_none.mpr same)
  | @cons m first rest messages framed _ ih =>
    have read := r.readFrame_eq
    rw [same, List.map_append, readFrame_frame framed, Read.ready.injEq] at read
    exact .next read.1.symm (ih (byte_map_injective read.2).symm)

/-- Framing is exact, whichever way the reader splits the stream, and what is written reads back. -/
theorem exact_framing :
    (∀ r : Reader, r.readFrame.1 = .ok none ↔ r.bytes = []) ∧
    (∀ (r : Reader) (m : Message) (rest : List UInt8),
      (r.readFrame.1 = .ok (some m) ∧ r.readFrame.2.bytes = rest) ↔ StartsWith r.bytes m rest) ∧
    (∀ r : Reader, (∃ error, r.readFrame.1 = .error error) ↔
      r.bytes ≠ [] ∧ ∀ m rest, ¬StartsWith r.bytes m rest) ∧
    (∀ (messages : List Message) (bytes : List UInt8) (calls : List ReadCall),
      writeFrames appendAll messages [] = (.ok (), bytes) → ReadsBack ⟨bytes, calls⟩ messages) ∧
    ∀ (W : Type) (writeAll : List UInt8 → W → Except IoError Unit × W) (m : Message) (w : W) (error : ProtocolError),
      (writeFrame appendAll m []).1 = .error error → writeFrame writeAll m w = (.error error, w) := by
  refine ⟨fun r => Reader.readFrame_eq_none, fun r m rest => Reader.readFrame_eq_some, fun r => ?_,
    fun messages bytes calls written => ?_, fun W writeAll m w error rejected => writeFrame_rejected writeAll rejected⟩
  · constructor
    · rintro ⟨error, failed⟩
      refine ⟨fun ended => ?_, fun m rest starts => ?_⟩
      · rw [Reader.readFrame_eq_none.mpr ended] at failed
        cases failed
      · rw [(Reader.readFrame_eq_some.mpr starts).1] at failed
        cases failed
    · rintro ⟨nonempty, other⟩
      rcases read : r.readFrame.1 with error | _ | m
      · exact ⟨error, rfl⟩
      · exact absurd (Reader.readFrame_eq_none.mp read) nonempty
      · exact absurd (Reader.readFrame_eq_some.mp ⟨read, rfl⟩) (other m _)
  · obtain ⟨added, rfl, carries⟩ := carries_of_writeFrames written
    exact readsBack_of_carries carries rfl

end RuntimeHost.Protocol
