import RuntimeHost.Foundation.Interleaving
import RuntimeHost.Process.Bridge

namespace RuntimeHost.Process

open Foundation Function Protocol Native

inductive BridgeCall where
  | invoke (plugin session : UInt64) (operation : String) (input : List UInt8)
  | retainHandle (session objectId generation : UInt64)
  | releaseHandle (session objectId generation : UInt64)

inductive BridgeResult where
  | output (result : Except HostError (List UInt8))
  | unit (result : Except HostError Unit)

namespace BridgeCall

def code (bridge : ProcessBridge) : BridgeCall → StdioProg BridgeResult
  | .invoke plugin session operation input => return .output (← bridge.invoke plugin session operation input)
  | .retainHandle session objectId generation => return .unit (← bridge.retainHandle session objectId generation)
  | .releaseHandle session objectId generation => return .unit (← bridge.releaseHandle session objectId generation)

def interpret (answer : Except HostError MessageBody) : BridgeCall → BridgeResult
  | .invoke .. => .output (ProcessBridge.invokeResult answer)
  | .retainHandle .. => .unit (ProcessBridge.handleResult answer)
  | .releaseHandle .. => .unit (ProcessBridge.handleResult answer)

end BridgeCall

def IsReply : MessageBody → Prop
  | .callbackResult _ => True
  | .callbackError _ => True
  | _ => False

/-- The streams, what the parent has read of them and not answered yet, and a record of the frames written, the
replies sent and the replies read, each in its order. -/
structure Callbacks (Tid : Type) where
  stdio : Stdio Tid := {}
  asked : List Message := []
  received : Nat := 0
  frames : List (Tid × Message) := []
  replies : List Message := []
  reads : Nat := 0
  begun : Tid → Option BridgeCall := fun _ => none
  returned : List (Tid × BridgeCall × BridgeResult) := []

abbrev CallbacksConfig (Tid : Type) :=
  Config Tid (Callbacks Tid) StdioOp StdioOp.Answer BridgeCall BridgeResult

namespace Callbacks

variable {Tid : Type}

def record (t : Tid) : (op : StdioOp) → op.Answer → Callbacks Tid → Callbacks Tid
  | .writeFrame message, .ok (), s => { s with frames := s.frames ++ [(t, message)] }
  | .readFrame _, _, s => { s with reads := s.reads + 1 }
  | _, _, s => s

def exec (t : Tid) (op : StdioOp) (s : Callbacks Tid) (answer : op.Answer) (s' : Callbacks Tid) : Prop :=
  ∃ stdio, s.stdio.exec t op answer stdio ∧ s' = record t op answer { s with stdio }

def Receives (s s' : Callbacks Tid) : Prop :=
  ∃ message output, readFrame false (s.stdio.output.map .byte) = .ready (.ok (some message)) (output.map .byte) ∧
    s' = { s with
      stdio := { s.stdio with output }
      asked := s.asked ++ [message]
      received := s.received + 1 }

def Answers (s s' : Callbacks Tid) : Prop :=
  ∃ message asked reply bytes, s.asked = message :: asked ∧ reply.requestId = message.requestId ∧
    IsReply reply.body ∧ frame reply = .ok bytes ∧
    s' = { s with
      stdio := { s.stdio with unread := s.stdio.unread ++ bytes.map .byte }
      asked
      replies := s.replies ++ [reply] }

/-- Bridge operations on threads of their own, while the serve loop handles a command and leaves the streams alone. -/
def system (Tid : Type) [DecidableEq Tid] (bridge : ProcessBridge) :
    System Tid (Callbacks Tid) StdioOp StdioOp.Answer BridgeCall BridgeResult where
  code := BridgeCall.code bridge
  start t call s s' := s.begun t = none ∧ s' = { s with begun := update s.begun t (some call) }
  exec := exec
  finish t call result s s' := s' = { s with returned := (t, call, result) :: s.returned }
  env s s' := s.Receives s' ∨ s.Answers s' ∨ ∃ stdio, s.stdio.Spill stdio ∧ s' = { s with stdio }

/-- Every operation that wrote a frame returns what the parent replied to that frame. -/
def OwnReplies (s : Callbacks Tid) : Prop :=
  ∀ t call result, (t, call, result) ∈ s.returned → ∀ (k : Nat) message, s.frames[k]? = some (t, message) →
    ∃ reply : Message, s.replies[k]? = some reply ∧ result = call.interpret (.ok reply.body)

/-- The reader goes to the call whose frame is the oldest one with its reply still unread. -/
def InTurn (t : Tid) (op : StdioOp) (s : Callbacks Tid) : Prop :=
  op = .lockReader → ∃ message, s.frames[s.reads]? = some (t, message)

end Callbacks

end RuntimeHost.Process
