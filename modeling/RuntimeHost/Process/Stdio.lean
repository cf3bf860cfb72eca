import RuntimeHost.Foundation.Program
import RuntimeHost.Protocol.Frame

namespace RuntimeHost.Process

open Foundation Protocol

/-- Who reads a frame: the serve loop, or a bridge call that waits for its reply. -/
inductive ReadSite where
  | serve
  | callback
  deriving DecidableEq

/-- The steps on the two locked streams of the process, and the callback counter. -/
inductive StdioOp where
  | lockReader
  | unlockReader
  | readFrame (site : ReadSite)
  | lockWriter
  | unlockWriter
  | writeFrame (message : Message)
  | flush
  | nextCallbackId

def StdioOp.Answer : StdioOp → Type
  | .readFrame _ => Except ProtocolError (Option Message)
  | .writeFrame _ => Except ProtocolError Unit
  | .flush => Except IoError Unit
  | .nextCallbackId => UInt64
  | _ => Unit

/-- The streams of the process: what stdin has for it, what it has yet to flush, and what stdout has for the
parent. -/
structure Stdio (Tid : Type) where
  unread : List Input := []
  ended : Bool := false
  buffered : List UInt8 := []
  output : List UInt8 := []
  fallible : Bool := false
  reader : Option Tid := none
  writer : Option Tid := none
  nextCallbackId : UInt64 := 2

namespace Stdio

variable {Tid : Type}

def exec (t : Tid) : (op : StdioOp) → Stdio Tid → op.Answer → Stdio Tid → Prop
  | .lockReader, s, _, s' => s.reader = none ∧ s' = { s with reader := some t }
  | .unlockReader, s, _, s' => s' = { s with reader := none }
  | .readFrame _, s, answer, s' =>
    ∃ rest, Protocol.readFrame s.ended s.unread = .ready answer rest ∧ s' = { s with unread := rest }
  | .lockWriter, s, _, s' => s.writer = none ∧ s' = { s with writer := some t }
  | .unlockWriter, s, _, s' => s' = { s with writer := none }
  | .writeFrame message, s, answer, s' =>
    match frame message with
    | .error error => answer = .error error ∧ s' = s
    | .ok bytes =>
      (answer = .ok () ∧ s' = { s with buffered := s.buffered ++ bytes }) ∨
        ∃ error written, s.fallible = true ∧ written <+: bytes ∧ answer = .error (.io error) ∧
          s' = { s with buffered := s.buffered ++ written }
  | .flush, s, answer, s' =>
    (answer = .ok () ∧ s' = { s with output := s.output ++ s.buffered, buffered := [] }) ∨
      ∃ error, s.fallible = true ∧ answer = .error error ∧ s' = s
  | .nextCallbackId, s, answer, s' =>
    answer = s.nextCallbackId ∧ s' = { s with nextCallbackId := s.nextCallbackId + 2 }

def Spill (s s' : Stdio Tid) : Prop :=
  ∃ count, 0 < count ∧ count ≤ s.buffered.length ∧
    s' = { s with output := s.output ++ s.buffered.take count, buffered := s.buffered.drop count }

end Stdio

end RuntimeHost.Process
