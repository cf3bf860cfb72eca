import RuntimeHost.Foundation.Partner
import RuntimeHost.Process.Callbacks
import RuntimeHost.Process.Isolated

namespace RuntimeHost.Process

open Foundation Function Protocol Native ProcessProg

/-- A parent that sends one command at a time: the commands that have been answered, each with its response, and the one
that has not; the callback frame that it has read and not answered yet, and those that it has answered, each with its
reply; and the bytes that it has written and the process cannot see yet. -/
structure Parent where
  exchanges : List (Message × Message) := []
  outstanding : Option Message := none
  asked : Option Message := none
  answered : List (Message × Message) := []
  transit : List UInt8 := []

/-- What the parent makes of a frame: the response to the command that is outstanding, or else a callback frame. -/
def Parent.receive (parent : Parent) (message : Message) : Parent :=
  match parent.outstanding with
  | some command =>
    if message.requestId = command.requestId then
      { parent with exchanges := parent.exchanges ++ [(command, message)], outstanding := none }
    else { parent with asked := some message }
  | none => { parent with asked := some message }

/-- An isolated Host, whose payload has no threads of its own, and its parent. -/
abbrev Dialogue := Isolated Empty × Parent

abbrev DialogueConfig := Config (Option Empty) Dialogue ProcessOp ProcessOp.Answer IsolatedTask IsolatedResult

namespace Dialogue

def Commands (d d' : Dialogue) : Prop :=
  ∃ command bytes, d.2.outstanding = none ∧ d.2.asked = none ∧ IsCommand command.body ∧ frame command = .ok bytes ∧
    d' = (d.1, { d.2 with outstanding := some command, transit := d.2.transit ++ bytes })

def Receives (d d' : Dialogue) : Prop :=
  ∃ message count, d.2.asked = none ∧ readFrame false (d.1.stdio.output.map .byte) =
      .ready (.ok (some message)) ((d.1.stdio.output.drop count).map .byte) ∧
    d' = ({ d.1 with stdio := { d.1.stdio with output := d.1.stdio.output.drop count } }, d.2.receive message)

def Replies (d d' : Dialogue) : Prop :=
  ∃ message reply bytes, d.2.asked = some message ∧ reply.requestId = message.requestId ∧ IsReply reply.body ∧
    frame reply = .ok bytes ∧
    d' = (d.1, { d.2 with asked := none, answered := d.2.answered ++ [(message, reply)], transit := d.2.transit ++ bytes })

def Arrives (d d' : Dialogue) : Prop :=
  ∃ b transit, d.1.stdio.ended = false ∧ d.2.transit = b :: transit ∧
    d' = ({ d.1 with stdio := { d.1.stdio with unread := d.1.stdio.unread ++ [.byte b] } }, { d.2 with transit })

def Spills (d d' : Dialogue) : Prop := ∃ stdio, d.1.stdio.Spill stdio ∧ d' = ({ d.1 with stdio }, d.2)

def Moves (d d' : Dialogue) : Prop :=
  d.Commands d' ∨ d.Receives d' ∨ d.Replies d' ∨ d.Arrives d' ∨ d.Spills d'

def Fits (_ : Option Empty) (op : ProcessOp) (_ : Isolated Empty) : Prop :=
  ∀ message, op = .stdio (.writeFrame message) → ∃ bytes, frame message = .ok bytes

/-- The process and its parent, over streams that do not fail; the parent never ends the input. -/
def system : System (Option Empty) Dialogue ProcessOp ProcessOp.Answer IsolatedTask IsolatedResult :=
  ((Isolated.system Empty).restrict Fits).beside Moves

def Fresh (d : Dialogue) : Prop := d = ({}, {})

end Dialogue

namespace IsolatedEvent

def readBy (site : ReadSite) : IsolatedEvent → Option (Except ProtocolError (Option Message))
  | .read site' answer => if site' = site then some answer else none
  | _ => none

def callback : IsolatedEvent → Option Message
  | .wrote message => if message.requestId % 2 = 0 then some message else none
  | _ => none

def response : IsolatedEvent → Option Message
  | .wrote message => if message.requestId % 2 = 0 then none else some message
  | _ => none

end IsolatedEvent

namespace Isolated

variable {Worker : Type} (s : Isolated Worker)

def reads (site : ReadSite) : List (Except ProtocolError (Option Message)) :=
  (s.history.filterMap (IsolatedEvent.readBy site)).reverse

def callbacks : List Message := (s.history.filterMap IsolatedEvent.callback).reverse

def responses : List Message := (s.history.filterMap IsolatedEvent.response).reverse

end Isolated

def Closing (exchange : Message × Message) : Prop := exchange.1.body = .shutdown ∧ exchange.2.body = .ok

end RuntimeHost.Process
