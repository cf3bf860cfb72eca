import RuntimeHost.Protocol.Grammar

namespace RuntimeHost.Protocol

open Foundation Sdk

def maxFrameBytes : Nat := 16 * 1024 * 1024

/-- What a stream has for its reader: a byte, or an error of one `read` call. -/
inductive Input where
  | byte (b : UInt8)
  | fail (error : IoError)

/-- A read that waits for more input, or its result and the input after it. -/
inductive Read (α : Type) where
  | waiting
  | ready (result : Except ProtocolError α) (rest : List Input)

def Read.andThen {α β : Type} : Read α → (α → List Input → Read β) → Read β
  | .waiting, _ => .waiting
  | .ready (.error error) rest, _ => .ready (.error error) rest
  | .ready (.ok a) rest, next => next a rest

/-- Reads a required remainder while classifying partial EOF as protocol truncation. -/
def readExact (ended : Bool) (truncated : String) : (length : Nat) → List Input → Read (List UInt8)
  | 0, rest => .ready (.ok []) rest
  | _ + 1, [] => if ended then .ready (.error (invalid truncated)) [] else .waiting
  | length + 1, .byte b :: rest =>
    (readExact ended truncated length rest).andThen fun bytes rest => .ready (.ok (b :: bytes)) rest
  | length + 1, .fail error :: rest =>
    match error.kind with
    | .interrupted => readExact ended truncated (length + 1) rest
    | .unexpectedEof => .ready (.error (invalid truncated)) rest
    | .other => .ready (.error (.io error)) rest

/-- Reads one length-prefixed message, with `none` only for clean EOF before a header. -/
def readFrame (ended : Bool) : List Input → Read (Option Message)
  | [] => if ended then .ready (.ok none) [] else .waiting
  | .fail error :: rest =>
    if error.kind = .interrupted then readFrame ended rest else .ready (.error (.io error)) rest
  | .byte b :: rest =>
    (readExact ended "truncated frame header" 3 rest).andThen fun header rest =>
      let length := ofBigEndian (b :: header)
      if length = 0 ∨ maxFrameBytes < length then .ready (.error (invalid "frame length is outside bounds")) rest
      else (readExact ended "truncated frame body" length rest).andThen fun body rest =>
        .ready ((Message.fromWire body).map some) rest

def frame (m : Message) : Except ProtocolError (List UInt8) := do
  let body ← m.toWire
  if 2 ^ 32 ≤ body.length then .error (invalid "frame length overflow")
  else if body.length = 0 ∨ maxFrameBytes < body.length then .error (invalid "frame length is outside bounds")
  else return be32 body.length ++ body

theorem frame_eq_ok_iff {m : Message} {bytes : List UInt8} :
    frame m = .ok bytes ↔ ∃ body, m.toWire = .ok body ∧ 0 < body.length ∧ body.length ≤ maxFrameBytes ∧
      bytes = be32 body.length ++ body := by
  simp only [frame, bind_eq_ok, ite_error_eq_ok, not_or, not_le, not_lt, pure_eq_ok, Except.ok.injEq]
  constructor
  · rintro ⟨body, wire, -, ⟨nonempty, bound⟩, same⟩
    exact ⟨body, wire, Nat.pos_of_ne_zero nonempty, bound, same.symm⟩
  · rintro ⟨body, wire, nonempty, bound, same⟩
    have small : body.length < 2 ^ 32 := bound.trans_lt (by decide)
    exact ⟨body, wire, small, ⟨nonempty.ne', bound⟩, same.symm⟩

section Reading

variable {ended : Bool} {truncated : String} {rest : List Input}

theorem readExact_bytes (bytes : List UInt8) :
    readExact ended truncated bytes.length (bytes.map .byte ++ rest) = .ready (.ok bytes) rest := by
  induction bytes with
  | nil => rw [List.length_nil, readExact.eq_def]; rfl
  | cons b bytes ih =>
    rw [List.length_cons, List.map_cons, List.cons_append, readExact, ih]
    rfl

theorem readFrame_frame {m : Message} {bytes : List UInt8} (framed : frame m = .ok bytes) :
    readFrame ended (bytes.map .byte ++ rest) = .ready (.ok (some m)) rest := by
  obtain ⟨body, wire, nonempty, bound, rfl⟩ := frame_eq_ok_iff.mp framed
  have small : body.length < 256 ^ 4 := by
    rw [maxFrameBytes] at bound
    omega
  obtain ⟨b, header, shape⟩ : ∃ b header, be32 body.length = b :: header :=
    List.exists_cons_of_length_pos (by simp)
  have three : header.length = 3 := by
    have four := bigEndian_length 4 body.length
    rw [show bigEndian 4 body.length = b :: header from shape] at four
    simpa using four
  have number : ofBigEndian (b :: header) = body.length := by
    rw [← shape]
    exact ofBigEndian_of_lt small
  rw [shape, List.map_append, List.append_assoc, List.map_cons, List.cons_append, readFrame, ← three,
    readExact_bytes]
  simp only [Read.andThen, number]
  rw [if_neg (by omega), readExact_bytes]
  simp only [Message.fromWire_toWire wire, Except.map]

theorem andThen_eq_ready {α β : Type} {read : Read α} {next : α → List Input → Read β}
    {result : Except ProtocolError β} :
    read.andThen next = .ready result rest ↔
      (∃ a middle, read = .ready (.ok a) middle ∧ next a middle = .ready result rest) ∨
        ∃ error, read = .ready (.error error) rest ∧ result = .error error := by
  rcases read with _ | ⟨error | a, middle⟩
  · simp [Read.andThen]
  · simp only [Read.andThen, Read.ready.injEq, reduceCtorEq, false_and, exists_const, Except.error.injEq]
    grind
  · simp [Read.andThen]

theorem readExact_append {length : Nat} {arrived : List Input} {result : Except ProtocolError (List UInt8)}
    (later : List Input) (ready : readExact false truncated length arrived = .ready result rest) :
    readExact ended truncated length (arrived ++ later) = .ready result (rest ++ later) := by
  induction arrived generalizing length result rest with
  | nil =>
    cases length with
    | zero =>
      rw [readExact.eq_def] at ready ⊢
      cases ready
      rfl
    | succ length =>
      rw [readExact] at ready
      cases ready
  | cons input arrived ih =>
    cases length with
    | zero =>
      rw [readExact.eq_def] at ready ⊢
      cases ready
      rfl
    | succ length =>
      cases input with
      | byte b =>
        rw [readExact, andThen_eq_ready] at ready
        rw [List.cons_append, readExact, andThen_eq_ready]
        rcases ready with ⟨bytes, middle, first, same⟩ | ⟨error, first, same⟩
        · cases same
          exact .inl ⟨bytes, _, ih first, rfl⟩
        · exact .inr ⟨error, ih first, same⟩
      | fail error =>
        rw [readExact] at ready
        rw [List.cons_append, readExact]
        split at ready
        · exact ih ready
        · cases ready
          rfl
        · cases ready
          rfl

theorem readFrame_append {arrived : List Input} {result : Except ProtocolError (Option Message)}
    (later : List Input) (ready : readFrame false arrived = .ready result rest) :
    readFrame ended (arrived ++ later) = .ready result (rest ++ later) := by
  induction arrived with
  | nil => cases ready
  | cons input arrived ih =>
    cases input with
    | fail error =>
      rw [readFrame] at ready
      rw [List.cons_append, readFrame]
      by_cases interrupted : error.kind = .interrupted
      · rw [if_pos interrupted] at ready ⊢
        exact ih ready
      · rw [if_neg interrupted] at ready ⊢
        cases ready
        rfl
    | byte b =>
      rw [readFrame, andThen_eq_ready] at ready
      rw [List.cons_append, readFrame, andThen_eq_ready]
      rcases ready with ⟨header, middle, first, second⟩ | ⟨error, first, same⟩
      · refine .inl ⟨header, _, readExact_append later first, ?_⟩
        simp only at second ⊢
        by_cases outside : ofBigEndian (b :: header) = 0 ∨ maxFrameBytes < ofBigEndian (b :: header)
        · rw [if_pos outside] at second ⊢
          cases second
          rfl
        · rw [if_neg outside, andThen_eq_ready] at second ⊢
          rcases second with ⟨body, last, read, same⟩ | ⟨error, read, same⟩
          · cases same
            exact .inl ⟨body, _, readExact_append later read, rfl⟩
          · exact .inr ⟨error, readExact_append later read, same⟩
      · exact .inr ⟨error, readExact_append later first, same⟩

end Reading

inductive Carries : List UInt8 → List Message → Prop
  | nil : Carries [] []
  | cons {m : Message} {bytes rest : List UInt8} {messages : List Message} (framed : frame m = .ok bytes)
      (carries : Carries rest messages) : Carries (bytes ++ rest) (m :: messages)

namespace Carries

variable {bytes : List UInt8} {messages : List Message} {m : Message}

theorem concat {added : List UInt8} (carries : Carries bytes messages) (framed : frame m = .ok added) :
    Carries (bytes ++ added) (messages ++ [m]) := by
  induction carries with
  | nil => simpa using Carries.cons framed .nil
  | cons first _ ih =>
    rw [List.append_assoc]
    exact .cons first ih

theorem read {front back : List UInt8} {result : Except ProtocolError (Option Message)} {rest : List Input}
    (carries : Carries (front ++ back) messages)
    (ready : readFrame false (front.map .byte) = .ready result rest) :
    ∃ m later front', messages = m :: later ∧ result = .ok (some m) ∧ rest = front'.map .byte ∧
      Carries (front' ++ back) later := by
  generalize whole : front ++ back = bytes at carries
  cases carries with
  | nil =>
    obtain ⟨rfl, rfl⟩ := List.append_eq_nil_iff.mp whole
    cases ready
  | @cons m frameBytes restBytes later framed carries =>
    have all : readFrame false _ = _ := readFrame_append (back.map .byte) ready
    rw [← List.map_append, whole, List.map_append, readFrame_frame framed] at all
    simp only [Read.ready.injEq] at all
    obtain ⟨rfl, tail⟩ := all
    obtain ⟨front', back', split, here, there⟩ := List.map_eq_append_iff.mp tail
    have same : back' = back := by
      have injective : Function.Injective Input.byte := fun a b eq => by cases eq; rfl
      exact List.map_injective_iff.mpr injective there
    exact ⟨m, later, front', rfl, rfl, here.symm, by rw [← same, ← split]; exact carries⟩

end Carries

end RuntimeHost.Protocol
