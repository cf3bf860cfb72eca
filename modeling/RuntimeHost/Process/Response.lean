import RuntimeHost.Process.Server
import RuntimeHost.Protocol.FrameSize

namespace RuntimeHost.Process

open Foundation Sdk Protocol Native

def IsCommand : MessageBody → Prop
  | .hello => True
  | .load .. => True
  | .enable => True
  | .invoke .. => True
  | .disable => True
  | .shutdown => True
  | _ => False

def IsResponse : MessageBody → Prop
  | .ok => True
  | .result _ => True
  | .error .. => True
  | _ => False

def Answerable : Except HostError MessageBody → Prop
  | .ok .ok => True
  | .ok (.result _) => True
  | .ok _ => False
  | .error _ => True

section Text

theorem utf8_ofList_cons (c : Char) (rest : List Char) :
    (utf8 (String.ofList (c :: rest))).length = c.utf8Size + (utf8 (String.ofList rest)).length := by
  rw [utf8_cons, List.length_append, String.length_utf8EncodeChar]

theorem truncate_length (room : Nat) (text : List Char) :
    (utf8 (String.ofList (truncate room text))).length ≤ room := by
  induction text generalizing room with
  | nil => exact Nat.zero_le room
  | cons c rest ih =>
    rw [truncate]
    split
    · rename_i fits
      rw [utf8_ofList_cons]
      have := ih (room - c.utf8Size)
      omega
    · exact Nat.zero_le room

def size (chars : List Char) : Nat := (utf8 (String.ofList chars)).length

@[simp] theorem size_nil : size [] = 0 := rfl

@[simp] theorem size_cons (c : Char) (rest : List Char) : size (c :: rest) = c.utf8Size + size rest := utf8_ofList_cons c rest

@[simp] theorem size_append (front back : List Char) : size (front ++ back) = size front + size back := by
  induction front with
  | nil => simp
  | cons c front ih => simp [ih, Nat.add_assoc]

theorem truncate_split (room : Nat) (chars : List Char) : truncate room chars = chars ∨
    ∃ c rest, chars = truncate room chars ++ c :: rest ∧ room < size (truncate room chars) + c.utf8Size := by
  induction chars generalizing room with
  | nil => exact .inl rfl
  | cons c rest ih =>
    rw [truncate]
    split
    · rename_i fits
      rcases ih (room - c.utf8Size) with same | ⟨d, later, split, wide⟩
      · rw [same]
        exact .inl rfl
      · refine .inr ⟨d, later, congrArg (c :: ·) split, ?_⟩
        rw [size_cons]
        omega
    · rename_i wide
      exact .inr ⟨c, rest, rfl, by rw [size_nil]; omega⟩

theorem truncate_size (room : Nat) (chars : List Char) : truncate (size (truncate room chars)) chars = truncate room chars := by
  induction chars generalizing room with
  | nil => rfl
  | cons c rest ih =>
    by_cases fits : c.utf8Size ≤ room
    · simp only [truncate, if_pos fits, size_cons]
      rw [if_pos (by omega), Nat.add_sub_cancel_left, ih]
    · have positive := c.utf8Size_pos
      simp only [truncate, if_neg fits, size_nil]
      rw [if_neg (by omega)]

theorem utf8EncodeChar_shape (c : Char) : ∃ first more, String.utf8EncodeChar c = first :: more ∧
    (first.toNat < 0x80 ∨ 0xc0 ≤ first.toNat) ∧ ∀ byte ∈ more, 0x80 ≤ byte.toNat ∧ byte.toNat < 0xc0 := by
  unfold String.utf8EncodeChar
  dsimp only
  split
  · rename_i small
    have narrow : c.toNat ≤ 0x7f := small
    refine ⟨_, _, rfl, .inl ?_, by simp⟩
    simp
    omega
  split
  · refine ⟨_, _, rfl, .inr ?_, ?_⟩
    · simp
      omega
    · simp
      omega
  split
  · refine ⟨_, _, rfl, .inr ?_, ?_⟩
    · simp
      omega
    · simp
      omega
  · refine ⟨_, _, rfl, .inr ?_, ?_⟩
    · simp
      omega
    · simp
      omega

theorem utf8_ofList_append (front back : List Char) :
    utf8 (String.ofList (front ++ back)) = utf8 (String.ofList front) ++ utf8 (String.ofList back) := by
  rw [String.ofList_append, utf8_append]

theorem isCharBoundary_start (front back : List Char) :
    isCharBoundary (String.ofList (front ++ back)) (size front) = true := by
  unfold isCharBoundary
  split
  · rfl
  · have here : (utf8 (String.ofList (front ++ back)))[size front]? = (utf8 (String.ofList back))[0]? := by
      rw [utf8_ofList_append, size, List.getElem?_append_right (Nat.le_refl _), Nat.sub_self]
    rw [here]
    cases back with
    | nil => simp [size]
    | cons c rest =>
      obtain ⟨first, more, encoded, start, -⟩ := utf8EncodeChar_shape c
      rw [utf8_cons, encoded]
      simpa [UInt8.lt_iff_toNat_lt, UInt8.le_iff_toNat_le] using start

theorem isCharBoundary_inside {front rest : List Char} {c : Char} {offset : Nat} (positive : 0 < offset)
    (inside : offset < c.utf8Size) :
    isCharBoundary (String.ofList (front ++ c :: rest)) (size front + offset) = false := by
  obtain ⟨first, more, encoded, -, continuation⟩ := utf8EncodeChar_shape c
  have length : (first :: more).length = c.utf8Size := by rw [← encoded, String.length_utf8EncodeChar]
  obtain ⟨place, rfl⟩ : ∃ place, offset = place + 1 := ⟨offset - 1, by omega⟩
  have room : place < more.length := by
    rw [List.length_cons] at length
    omega
  have here : (utf8 (String.ofList (front ++ c :: rest)))[size front + (place + 1)]? = some more[place] := by
    rw [utf8_ofList_append, size, List.getElem?_append_right (Nat.le_add_right _ _), Nat.add_sub_cancel_left, utf8_cons,
      encoded, List.cons_append, List.getElem?_cons_succ, List.getElem?_append_left room, List.getElem?_eq_getElem room]
  obtain ⟨low, high⟩ := continuation _ (List.getElem_mem room)
  unfold isCharBoundary
  rw [if_neg (by omega), here]
  simp only [Bool.or_eq_false_iff, decide_eq_false_iff_not, UInt8.lt_iff_toNat_lt, UInt8.le_iff_toNat_le]
  exact ⟨not_lt.mpr low, not_le.mpr high⟩

theorem charBoundary_eq {text : String} {start index : Nat} (below : start ≤ index)
    (boundary : isCharBoundary text start = true)
    (between : ∀ k, start < k → k ≤ index → isCharBoundary text k = false) : charBoundary text index = start := by
  induction index with
  | zero => exact (Nat.le_zero.mp below).symm
  | succ index ih =>
    rw [charBoundary]
    rcases Nat.lt_or_ge start (index + 1) with later | here
    · rw [between (index + 1) later (Nat.le_refl _), if_neg (by decide)]
      exact ih (Nat.le_of_lt_succ later) fun k above under => between k above (Nat.le_succ_of_le under)
    · obtain rfl := Nat.le_antisymm below here
      rw [boundary, if_pos rfl]

theorem charBoundary_size {room : Nat} {chars : List Char} (long : room < size chars) :
    charBoundary (String.ofList chars) room = size (truncate room chars) := by
  have short : size (truncate room chars) ≤ room := truncate_length room chars
  rcases truncate_split room chars with whole | ⟨c, rest, split, wide⟩
  · rw [whole] at short
    exact absurd short (not_le.mpr long)
  · generalize truncate room chars = front at *
    subst split
    apply charBoundary_eq short (isCharBoundary_start front _)
    intro k above below
    obtain ⟨offset, rfl⟩ := Nat.exists_eq_add_of_lt above
    rw [Nat.add_assoc]
    exact isCharBoundary_inside (Nat.succ_pos offset) (by omega)

theorem truncate_front (room : Nat) (chars : List Char) : ∃ rest, chars = truncate room chars ++ rest := by
  rcases truncate_split room chars with whole | ⟨c, rest, split, -⟩
  · exact ⟨[], by rw [whole, List.append_nil]⟩
  · exact ⟨c :: rest, split⟩

theorem truncate_longest {room : Nat} {front rest : List Char} (short : size front ≤ room) :
    ∃ more, truncate room (front ++ rest) = front ++ more := by
  induction front generalizing room with
  | nil => exact ⟨_, rfl⟩
  | cons c front ih =>
    rw [size_cons] at short
    obtain ⟨more, same⟩ : ∃ more, truncate (room - c.utf8Size) (front ++ rest) = front ++ more := ih (by omega)
    refine ⟨more, ?_⟩
    rw [List.cons_append, truncate, if_pos (by omega), same]
    rfl

theorem charBoundary_stops {room : Nat} {chars : List Char} (long : room < size chars) :
    ∃ rounds ≤ 3, charBoundary (String.ofList chars) room + rounds = room ∧
      isCharBoundary (String.ofList chars) (charBoundary (String.ofList chars) room) = true ∧
        ∀ k < rounds, isCharBoundary (String.ofList chars) (room - k) = false := by
  rw [charBoundary_size long]
  have short : size (truncate room chars) ≤ room := truncate_length room chars
  rcases truncate_split room chars with whole | ⟨c, rest, split, wide⟩
  · rw [whole] at short
    exact absurd short (not_le.mpr long)
  · generalize truncate room chars = front at *
    subst split
    have four := c.utf8Size_le_four
    refine ⟨room - size front, by omega, by omega, isCharBoundary_start front _, fun k below => ?_⟩
    have place : room - k = size front + (room - k - size front) := by omega
    rw [place]
    exact isCharBoundary_inside (by omega) (by omega)

theorem text_letter (error : HostError) :
    ∃ c rest, error.text.toList = c :: rest ∧ c.utf8Size ≤ 4096 ∧ isWhiteSpace c = false := by
  have letters : ∀ c ∈ ['p', 'd', 'u', 'i', 'n', 'J'], c.utf8Size ≤ 4096 ∧ isWhiteSpace c = false := by
    simp only [List.forall_mem_cons, List.not_mem_nil, false_implies, implies_true]
    decide
  obtain ⟨c, letter, starts⟩ : ∃ c ∈ ['p', 'd', 'u', 'i', 'n', 'J'], error.text.toList.head? = some c := by
    delta HostError.text
    cases error <;> simp
  obtain ⟨rest, same⟩ := List.head?_eq_some_iff.mp starts
  exact ⟨c, rest, same, letters c letter⟩

end Text

theorem requireCode_errorCode (error : HostError) : requireCode (errorCode error) = .ok () := by
  have codes : ∀ code ∈ ["payload-io", "library-load", "entrypoint-escape", "missing-query", "query-status",
      "unsupported-abi", "invalid-plugin-table", "plugin-status", "unknown-payload", "invalid-state",
      "engine-closed", "invalid-host-result", "bridge-callback", "native-panic"], requireCode code = .ok () := by
    decide
  apply codes
  cases error <;> simp [errorCode]

theorem truncate_whole {room : Nat} {chars : List Char} (short : size chars ≤ room) : truncate room chars = chars := by
  rcases truncate_split room chars with whole | ⟨c, rest, split, wide⟩
  · exact whole
  · have length := congrArg size split
    rw [size_append, size_cons] at length
    omega

theorem errorMessage_eq (error : HostError) : errorMessage error = String.ofList (truncate 4096 error.text.toList) := by
  have whole : error.text = String.ofList error.text.toList := String.ofList_toList.symm
  have length : (utf8 error.text).length = size error.text.toList := by rw [size, ← whole]
  simp only [errorMessage, length]
  split
  · rename_i long
    rw [whole, String.toList_ofList, charBoundary_size long, truncate_size]
  · rename_i short
    rw [truncate_whole (not_lt.mp short)]
    exact whole

theorem errorBody_valid (error : HostError) : (errorBody error).validate = .ok () := by
  obtain ⟨c, rest, text, fits, letter⟩ := text_letter error
  have named : trim (errorMessage error) ≠ [] := by
    rw [errorMessage_eq, ne_eq, trim_eq_nil_iff, String.toList_ofList, text, truncate, if_pos fits]
    intro blank
    have white := blank c (.head _)
    rw [letter] at white
    cases white
  have short := truncate_length 4096 error.text.toList
  rw [← errorMessage_eq] at short
  simp only [errorBody, MessageBody.validate, requireCode_errorCode, ok_bind, requireText, List.isEmpty_iff]
  rw [if_neg named, ok_bind, if_neg (by omega)]

theorem respond_valid {result : Except HostError MessageBody} (answerable : Answerable result) :
    IsResponse (respond result) ∧ (respond result).usesEvenRequestId = false ∧ (respond result).validate = .ok () := by
  cases result with
  | error error => exact ⟨trivial, rfl, errorBody_valid error⟩
  | ok body =>
    cases body with
    | ok => exact ⟨trivial, rfl, rfl⟩
    | result output => exact ⟨trivial, rfl, rfl⟩
    | _ => exact answerable.elim

theorem respond_message {result : Except HostError MessageBody} (answerable : Answerable result) (command : Message)
    (odd : ¬command.requestId % 2 = 0) : ∃ response, Message.new command.requestId (respond result) = .ok response := by
  obtain ⟨-, parity, valid⟩ := respond_valid answerable
  obtain ⟨positive, bounded, -⟩ := checkMessage_eq_ok_iff.mp command.accepted
  have accepted : checkMessage command.requestId (respond result) = .ok () :=
    checkMessage_eq_ok_iff.mpr ⟨positive, bounded, by simp [odd, parity], valid⟩
  exact ⟨⟨_, _, accepted⟩, Message.new_eq_ok_iff.mpr ⟨rfl, rfl⟩⟩

/-- Every error can be sent as the response to any command, with its whole text or the longest part of it that fits. -/
structure ErrorSendable (error : HostError) : Prop where
  sendable : ∀ requestId, requestId ≠ 0 → requestId ≤ Sdk.i64Max → ¬requestId % 2 = 0 →
    ∃ message bytes, Message.new requestId (errorBody error) = .ok message ∧ frame message = .ok bytes
  message : errorBody error = .error (errorCode error) (errorMessage error)
  whole : (utf8 error.text).length ≤ 4096 → errorMessage error = error.text
  short : (utf8 (errorMessage error)).length ≤ 4096
  front : ∃ rest, error.text = errorMessage error ++ rest
  longest : ∀ front rest, error.text = front ++ rest → (utf8 front).length ≤ 4096 →
    ∃ more, errorMessage error = front ++ more
  stops : 4096 < (utf8 error.text).length → ∃ rounds ≤ 3, charBoundary error.text 4096 + rounds = 4096 ∧
    isCharBoundary error.text (charBoundary error.text 4096) = true ∧
      ∀ k < rounds, isCharBoundary error.text (4096 - k) = false

theorem error_sendable (error : HostError) : ErrorSendable error := by
  have whole : error.text = String.ofList error.text.toList := String.ofList_toList.symm
  refine ⟨?_, rfl, ?_, ?_, ?_, ?_, ?_⟩
  · intro requestId positive bounded odd
    have accepted : checkMessage requestId (errorBody error) = .ok () :=
      checkMessage_eq_ok_iff.mpr ⟨positive, bounded, by simp [odd, errorBody, MessageBody.usesEvenRequestId],
        errorBody_valid error⟩
    obtain ⟨bytes, framed⟩ := frame_error_isOk (m := ⟨requestId, errorBody error, accepted⟩) rfl
    exact ⟨_, bytes, Message.new_eq_ok_iff.mpr ⟨rfl, rfl⟩, framed⟩
  · intro short
    exact if_neg (not_lt.mpr short)
  · rw [errorMessage_eq]
    exact truncate_length 4096 _
  · obtain ⟨rest, split⟩ := truncate_front 4096 error.text.toList
    refine ⟨String.ofList rest, ?_⟩
    rw [errorMessage_eq, ← String.ofList_append, ← split]
    exact whole
  · intro front rest split short
    have chars : error.text.toList = front.toList ++ rest.toList := by rw [split, String.toList_append]
    have fits : size front.toList ≤ 4096 := by rwa [size, String.ofList_toList]
    obtain ⟨more, same⟩ : ∃ more, truncate 4096 (front.toList ++ rest.toList) = front.toList ++ more :=
      truncate_longest fits
    refine ⟨String.ofList more, ?_⟩
    rw [errorMessage_eq, chars, same, String.ofList_append, String.ofList_toList]
  · intro long
    rw [whole] at long ⊢
    exact charBoundary_stops long

end RuntimeHost.Process
