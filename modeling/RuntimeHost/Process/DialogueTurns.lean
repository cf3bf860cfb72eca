import RuntimeHost.Process.Dialogue

namespace RuntimeHost.Process

open Foundation Function Protocol Native ProcessProg System

/-- How far the command that is outstanding has come, and the frame that is on its way. -/
inductive Turn where
  | parent
  | commanded (command : Message)
  | child (command : Message)
  | called (command message : Message)
  | asked (command message : Message)
  | replied (command message reply : Message)
  | responded (command response : Message)

namespace Turn

def outstanding : Turn → Option Message
  | .parent => none
  | .commanded command => some command
  | .child command => some command
  | .called command _ => some command
  | .asked command _ => some command
  | .replied command _ _ => some command
  | .responded command _ => some command

def handling : Turn → Option Message
  | .child command => some command
  | .called command _ => some command
  | .asked command _ => some command
  | .replied command _ _ => some command
  | _ => none

def calling : Turn → Option Message
  | .called _ message => some message
  | .asked _ message => some message
  | .replied _ message _ => some message
  | _ => none

def asking : Turn → Option Message
  | .asked _ message => some message
  | _ => none

def up : Turn → List Message
  | .called _ message => [message]
  | .responded _ response => [response]
  | _ => []

def down : Turn → List Message
  | .commanded command => [command]
  | .replied _ _ reply => [reply]
  | _ => []

def taken : Turn → List Message
  | .parent => []
  | .commanded _ => []
  | turn => turn.outstanding.toList

def unanswered : Turn → List Message
  | .called _ message => [message]
  | .asked _ message => [message]
  | _ => []

def replying : Turn → List Message
  | .replied _ _ reply => [reply]
  | _ => []

def pending : Turn → List (Message × Message)
  | .responded command response => [(command, response)]
  | _ => []

def Stands (turn : Turn) (exchanges : List (Message × Message)) (phase : Phase) : Prop :=
  match turn.handling with
  | some command => phase = .handling command
  | none => phase = .outside ∨ phase = .resting ∨
    ∃ exchange ∈ exchanges ++ turn.pending, phase = .answered exchange.1 exchange.2

end Turn

structure Dealings where
  unread : List Input
  ended : Bool
  buffered : List UInt8
  output : List UInt8
  fallible : Bool
  calling : Option Message
  phase : Phase
  outcome : Option (Except ProtocolError Unit)
  server : State
  served : List (Except ProtocolError (Option Message))
  replied : List (Except ProtocolError (Option Message))
  called : List Message
  responded : List Message

def arrived (message : Message) : Except ProtocolError (Option Message) := .ok (some message)

inductive Deals (x : Dealings) : Dealings → Prop
  | quiet : Deals x x
  | serve {command rest} (resting : x.phase = .resting)
    (ready : readFrame x.ended x.unread = .ready (arrived command) rest) :
    Deals x { x with unread := rest, phase := .handling command, served := x.served ++ [arrived command] }
  | hear {answer rest} (waits : x.calling.isSome) (ready : readFrame x.ended x.unread = .ready answer rest) :
    Deals x { x with unread := rest, calling := none, replied := x.replied ++ [answer] }
  | call {command message bytes} (handling : x.phase = .handling command) (free : x.calling = none)
    (even : message.requestId % 2 = 0) (framed : frame message = .ok bytes) :
    Deals x { x with buffered := x.buffered ++ bytes, calling := some message, called := x.called ++ [message] }
  | respond {command message bytes} (handling : x.phase = .handling command) (free : x.calling = none)
    (same : message.requestId = command.requestId) (response : IsResponse message.body)
    (framed : frame message = .ok bytes) (serving : x.outcome = none) :
    Deals x { x with
      buffered := x.buffered ++ bytes
      phase := .answered command message
      responded := x.responded ++ [message] }
  | flush : Deals x { x with output := x.output ++ x.buffered, buffered := [] }

theorem Deals.inside {x x' : Dealings} (deals : Deals x x') (inside : x.phase ≠ .outside) : x'.phase ≠ .outside := by
  cases deals with
  | serve resting ready => nofun
  | respond handling free same response framed serving => nofun
  | _ => exact inside

/-- The process and its parent agree on whose turn it is, and on everything before it. -/
structure Accord (x : Dealings) (parent : Parent) (turn : Turn) : Prop where
  ended : x.ended = false
  fallible : x.fallible = false
  up : Carries (x.output ++ x.buffered) turn.up
  down : ∃ bytes, x.unread = bytes.map .byte ∧ Carries (bytes ++ parent.transit) turn.down
  calling : x.calling = turn.calling
  stands : turn.Stands parent.exchanges x.phase
  outstanding : parent.outstanding = turn.outstanding
  asked : parent.asked = turn.asking
  served : x.served = (parent.exchanges.map Prod.fst ++ turn.taken).map arrived
  responded : x.responded = (parent.exchanges ++ turn.pending).map Prod.snd
  called : x.called = parent.answered.map Prod.fst ++ turn.unanswered
  replied : x.replied ++ turn.replying.map arrived = parent.answered.map fun pair => arrived pair.2
  command : ∀ command, turn.outstanding = some command → IsCommand command.body
  even : ∀ message, turn.calling = some message → message.requestId % 2 = 0
  exchanged : ∀ exchange ∈ parent.exchanges ++ turn.pending,
    exchange.2.requestId = exchange.1.requestId ∧ IsResponse exchange.2.body
  answered : ∀ pair ∈ parent.answered, pair.2.requestId = pair.1.requestId ∧ IsReply pair.2.body
  stopped : ∀ outcome, x.outcome = some outcome →
    outcome = .ok () ∧ x.server = .closed ∧ ∃ exchange ∈ parent.exchanges ++ turn.pending, Closing exchange

theorem odd_of_command {command : Message} (isCommand : IsCommand command.body) : ¬command.requestId % 2 = 0 := by
  have parity := (checkMessage_eq_ok_iff.mp command.accepted).2.2.1
  intro even
  have uses := parity.mp even
  cases body : command.body <;> rw [body] at isCommand uses <;> first
    | exact isCommand.elim
    | cases uses

namespace Accord

variable {x : Dealings} {parent : Parent} {turn : Turn} {answer : Except ProtocolError (Option Message)} {rest : List Input}
  {command message : Message} {bytes : List UInt8}

theorem initial : Accord ⟨[], false, [], [], false, none, .outside, none, .awaitHello, [], [], [], []⟩ {} .parent where
  ended := rfl
  fallible := rfl
  up := .nil
  down := ⟨[], rfl, .nil⟩
  calling := rfl
  stands := .inl rfl
  outstanding := rfl
  asked := rfl
  served := rfl
  responded := rfl
  called := rfl
  replied := rfl
  command _ := nofun
  even _ := nofun
  exchanged _ := nofun
  answered _ := nofun
  stopped _ := nofun

theorem reads (accord : Accord x parent turn) (ready : readFrame x.ended x.unread = .ready answer rest) :
    ∃ message later bytes, turn.down = message :: later ∧ answer = arrived message ∧ rest = bytes.map .byte ∧
      Carries (bytes ++ parent.transit) later := by
  obtain ⟨bytes, unread, carries⟩ := accord.down
  rw [accord.ended, unread] at ready
  obtain ⟨message, later, bytes', shape, rfl, rfl, carries'⟩ := carries.read ready
  exact ⟨message, later, bytes', shape, rfl, rfl, carries'⟩

theorem reads_command (accord : Accord x parent turn) (resting : x.phase = .resting)
    (ready : readFrame x.ended x.unread = .ready answer rest) :
    ∃ command bytes, turn = .commanded command ∧ answer = arrived command ∧ rest = bytes.map .byte ∧
      Carries (bytes ++ parent.transit) [] := by
  obtain ⟨command, later, bytes, shape, rfl, rfl, carries⟩ := accord.reads ready
  have stands := accord.stands
  cases turn with
  | commanded sent =>
    cases shape
    exact ⟨command, bytes, rfl, rfl, rfl, carries⟩
  | replied command message reply =>
    rw [resting] at stands
    cases stands
  | _ => cases shape

theorem reads_reply (accord : Accord x parent turn) (waits : x.calling.isSome)
    (ready : readFrame x.ended x.unread = .ready answer rest) :
    ∃ command message reply bytes, turn = .replied command message reply ∧ answer = arrived reply ∧
      rest = bytes.map .byte ∧ Carries (bytes ++ parent.transit) [] := by
  obtain ⟨reply, later, bytes, shape, rfl, rfl, carries⟩ := accord.reads ready
  have calling := accord.calling
  cases turn with
  | commanded command =>
    rw [calling] at waits
    cases waits
  | replied command message sent =>
    cases shape
    exact ⟨command, message, reply, bytes, rfl, rfl, rfl, carries⟩
  | _ => cases shape

theorem turn_child (accord : Accord x parent turn) (handling : x.phase = .handling command) (free : x.calling = none) :
    turn = .child command := by
  have stands := accord.stands
  have calling := accord.calling
  rw [handling] at stands
  rw [free] at calling
  cases turn with
  | child command' =>
    cases stands
    rfl
  | called command' message => cases calling
  | asked command' message => cases calling
  | replied command' message reply => cases calling
  | _ => simp [Turn.Stands, Turn.handling] at stands

theorem deals {x' : Dealings} (accord : Accord x parent turn) (deals : Deals x x') : ∃ turn', Accord x' parent turn' := by
  cases deals with
  | quiet => exact ⟨turn, accord⟩
  | @serve command rest resting ready =>
    obtain ⟨command', bytes, rfl, same, rfl, carries⟩ := accord.reads_command resting ready
    cases same
    refine ⟨.child command, ?_⟩
    exact { accord with
      down := ⟨bytes, rfl, carries⟩
      stands := rfl
      served := by
        rw [accord.served]
        simp [Turn.taken, Turn.outstanding] }
  | hear waits ready =>
    obtain ⟨command, message, reply, bytes, rfl, rfl, rfl, carries⟩ := accord.reads_reply waits ready
    refine ⟨.child command, ?_⟩
    exact { accord with
      down := ⟨bytes, rfl, carries⟩
      calling := rfl
      called := accord.called
      replied := by
        rw [← accord.replied]
        simp [Turn.replying]
      even := fun _ => nofun }
  | @call command message bytes handling free even framed =>
    obtain rfl := accord.turn_child handling free
    refine ⟨.called command message, ?_⟩
    exact { accord with
      up := by
        rw [← List.append_assoc]
        exact accord.up.concat framed
      calling := rfl
      asked := accord.asked
      called := by
        rw [accord.called]
        simp [Turn.unanswered]
      even := fun _ same => Option.some.inj same ▸ even }
  | @respond command message bytes handling free same response framed serving =>
    obtain rfl := accord.turn_child handling free
    refine ⟨.responded command message, ?_⟩
    exact { accord with
      up := by
        rw [← List.append_assoc]
        exact accord.up.concat framed
      stands := .inr (.inr ⟨(command, message), by simp [Turn.pending], rfl⟩)
      responded := by
        rw [accord.responded]
        simp [Turn.pending]
      exchanged := by
        intro exchange listed
        rcases List.mem_append.mp listed with old | new
        · exact accord.exchanged exchange (List.mem_append_left _ old)
        · obtain rfl := List.mem_singleton.mp new
          exact ⟨same, response⟩
      stopped := by
        intro outcome returned
        rw [show x.outcome = some outcome from returned] at serving
        cases serving }
  | flush =>
    refine ⟨turn, ?_⟩
    exact { accord with
      up := by
        rw [List.append_nil]
        exact accord.up }

theorem spill (accord : Accord x parent turn) (count : ℕ) :
    Accord { x with output := x.output ++ x.buffered.take count, buffered := x.buffered.drop count } parent turn :=
  { accord with
    up := by
      rw [List.append_assoc, List.take_append_drop]
      exact accord.up }

theorem begins (accord : Accord x parent turn) (outside : x.phase = .outside) :
    Accord { x with phase := .resting } parent turn :=
  { accord with
    stands := by
      have stands := accord.stands
      unfold Turn.Stands at stands ⊢
      split at stands
      · rw [outside] at stands
        cases stands
      · exact .inr (.inl rfl) }

theorem ends {response : Message} {goesOn : Bool} {server : State} (accord : Accord x parent turn)
    (responded : x.phase = .answered command response)
    (closes : goesOn = false ↔ command.body = .shutdown ∧ response.body = .ok)
    (closed : goesOn = false → server = .closed) :
    Accord { x with phase := .outside, outcome := outcomeOf (.ok goesOn), server } parent turn := by
  have stands := accord.stands
  unfold Turn.Stands at stands
  split at stands
  · rw [responded] at stands
    cases stands
  · rename_i idle
    have exchange : (command, response) ∈ parent.exchanges ++ turn.pending := by
      rcases stands with outside | resting | ⟨exchange, listed, same⟩
      · rw [responded] at outside
        cases outside
      · rw [responded] at resting
        cases resting
      · rw [responded] at same
        cases same
        exact listed
    exact { accord with
      stands := by
        unfold Turn.Stands
        rw [idle]
        exact .inl rfl
      stopped := by
        intro outcome returned
        cases goesOn with
        | true => cases returned
        | false =>
          cases returned
          exact ⟨rfl, closed rfl, (command, response), exchange, closes.mp rfl⟩ }

theorem send (accord : Accord x parent turn) (free : parent.outstanding = none) (isCommand : IsCommand command.body)
    (framed : frame command = .ok bytes) :
    Accord x { parent with outstanding := some command, transit := parent.transit ++ bytes } (.commanded command) := by
  have outstanding := accord.outstanding
  rw [free] at outstanding
  cases turn with
  | parent =>
    obtain ⟨bytes', unread, carries⟩ := accord.down
    exact { accord with
      down := by
        refine ⟨bytes', unread, ?_⟩
        rw [← List.append_assoc]
        exact carries.concat framed
      outstanding := rfl
      command := fun _ same => Option.some.inj same ▸ isCommand }
  | _ => cases outstanding

theorem received (accord : Accord x parent turn) (count : ℕ)
    (ready : readFrame false (x.output.map .byte) = .ready (.ok (some message)) ((x.output.drop count).map .byte)) :
    Carries (x.output.drop count ++ x.buffered) [] ∧ ∃ command,
      (turn = .called command message ∧ parent.receive message = { parent with asked := some message } ∨
        turn = .responded command message ∧ parent.receive message =
          { parent with exchanges := parent.exchanges ++ [(command, message)], outstanding := none }) := by
  obtain ⟨message', later, bytes, shape, same, tail, carries⟩ := accord.up.read ready
  cases same
  have injective : Function.Injective Input.byte := fun a b eq => by cases eq; rfl
  obtain rfl : x.output.drop count = bytes := List.map_injective_iff.mpr injective tail
  have outstanding := accord.outstanding
  cases turn with
  | called command message =>
    cases shape
    have odd := odd_of_command (accord.command command rfl)
    have even := accord.even message rfl
    have other : message.requestId ≠ command.requestId := fun same => odd (same ▸ even)
    refine ⟨carries, command, .inl ⟨rfl, ?_⟩⟩
    simp only [Parent.receive, outstanding, Turn.outstanding, if_neg other]
  | responded command response =>
    cases shape
    have exchanged := accord.exchanged (command, message) (by simp [Turn.pending])
    refine ⟨carries, command, .inr ⟨rfl, ?_⟩⟩
    simp only [Parent.receive, outstanding, Turn.outstanding, if_pos exchanged.1]
  | _ => cases shape

theorem receive (accord : Accord x parent turn) (count : ℕ)
    (ready : readFrame false (x.output.map .byte) = .ready (.ok (some message)) ((x.output.drop count).map .byte)) :
    ∃ turn', Accord { x with output := x.output.drop count } (parent.receive message) turn' := by
  obtain ⟨carries, command, ⟨rfl, received⟩ | ⟨rfl, received⟩⟩ := accord.received count ready
  · rw [received]
    refine ⟨.asked command message, ?_⟩
    exact { accord with
      up := carries
      asked := rfl }
  · rw [received]
    refine ⟨.parent, ?_⟩
    exact { accord with
      up := carries
      stands := by simpa [Turn.Stands, Turn.handling, Turn.pending] using accord.stands
      outstanding := rfl
      asked := accord.asked
      served := by
        rw [accord.served]
        simp [Turn.taken, Turn.outstanding]
      responded := by
        rw [accord.responded]
        simp [Turn.pending]
      command := fun _ => nofun
      exchanged := by simpa [Turn.pending] using accord.exchanged
      stopped := by simpa [Turn.pending] using accord.stopped }

theorem reply (accord : Accord x parent turn) {response : Message} (asked : parent.asked = some message)
    (same : response.requestId = message.requestId) (isReply : IsReply response.body)
    (framed : frame response = .ok bytes) : ∃ turn', Accord x { parent with
      asked := none
      answered := parent.answered ++ [(message, response)]
      transit := parent.transit ++ bytes } turn' := by
  have asking := accord.asked
  rw [asked] at asking
  cases turn with
  | asked command message' =>
    cases asking
    obtain ⟨bytes', unread, carries⟩ := accord.down
    refine ⟨.replied command message response, ?_⟩
    exact { accord with
      down := by
        refine ⟨bytes', unread, ?_⟩
        rw [← List.append_assoc]
        exact carries.concat framed
      asked := rfl
      called := by
        rw [accord.called]
        simp [Turn.unanswered]
      replied := by
        have replied := accord.replied
        simp only [Turn.replying, List.map_nil, List.append_nil] at replied
        simp [Turn.replying, replied]
      answered := by
        intro pair listed
        rcases List.mem_append.mp listed with old | new
        · exact accord.answered pair old
        · obtain rfl := List.mem_singleton.mp new
          exact ⟨same, isReply⟩ }
  | _ => cases asking

theorem arrive (accord : Accord x parent turn) {b : UInt8} {transit : List UInt8} (shape : parent.transit = b :: transit) :
    Accord { x with unread := x.unread ++ [.byte b] } { parent with transit } turn := by
  obtain ⟨bytes, unread, carries⟩ := accord.down
  exact { accord with
    down := by
      refine ⟨bytes ++ [b], ?_, ?_⟩
      · rw [unread, List.map_append]
        rfl
      · rw [List.append_assoc, List.singleton_append, ← shape]
        exact carries }

end Accord

end RuntimeHost.Process
