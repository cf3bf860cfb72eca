import RuntimeHost.Foundation.Record
import RuntimeHost.Native.Lifecycle

namespace RuntimeHost.Native

open Foundation Function System Abi

variable {Tid : Type} [DecidableEq Tid]

namespace Engines

def execApart (t : Tid) : (op : LifecycleOp) → Engines Tid → op.Answer → Engines Tid → Prop
  | .engine op, s, answer, s' => Engines.exec t op s answer s'
  | .enter .., s, _, s' => s' = s
  | .leave _, s, _, s' => s' = s

def system : System Tid (Engines Tid) LifecycleOp LifecycleOp.Answer EngineTask EngineResult where
  code := EngineTask.code
  start _ _ s s' := s' = s
  exec := execApart
  finish _ _ _ s s' := s' = s
  env _ _ := False

end Engines

abbrev EngineEvent (Tid : Type) := Answered Tid (Engines Tid) LifecycleOp LifecycleOp.Answer

abbrev EngineRecord (Tid : Type) :=
  Recorded Tid (Engines Tid) LifecycleOp LifecycleOp.Answer EngineTask EngineResult

abbrev EngineConfig (Tid : Type) :=
  Config Tid (EngineRecord Tid) LifecycleOp LifecycleOp.Answer EngineTask EngineResult

namespace EngineEvent

def issued : EngineEvent Tid → Option UInt64
  | ⟨_, .engine (.register ..), .ok id, _, _⟩ => some id
  | _ => none

def drained : EngineEvent Tid → Option (List Nat)
  | ⟨_, .engine .drain, answer, _, _⟩ => answer
  | _ => none

def Shut (event : EngineEvent Tid) : Prop :=
  (match event with
    | ⟨_, .engine (.payload _), answer, _, _⟩ => answer = .error .engineClosed
    | ⟨_, .engine (.register ..), answer, _, _⟩ => answer = .error .engineClosed
    | ⟨_, .engine .drain, answer, _, _⟩ => answer = none
    | _ => True) ∧ event.after.engine.loadOrder = [] ∧ ∀ id, event.after.engine.payloads id = none

/-- A visit of `close` to a payload: its plugin is shut down if the payload is still enabled or disabled. -/
def Visit (p : Nat) (events : List (EngineEvent Tid)) (outcome : Except HostError Unit) : Prop :=
  ∃ (first : EngineEvent Tid) (later : List (EngineEvent Tid)) (self : EmbeddedPayload),
    events = first :: later ∧ first.step = ⟨.engine (.lockPayload p), self⟩ ∧
    self = first.before.payload p ∧
    if self.state = .enabled ∨ self.state = .disabled then
      ∃ returned : PluginReturn, outcome = requirePluginStatus returned.status ∧
        later.map Answered.step = [⟨.enter p (.shutdown self.pluginId), ()⟩, ⟨.leave p, returned⟩,
          ⟨.engine (.setState p (if returned.status.isOk then .shutdown else .shutdownFailed)), ()⟩,
          ⟨.engine (.unlockPayload p), ()⟩]
    else outcome = .ok () ∧
      later.map Answered.step = [⟨.engine (.setState p .shutdown), ()⟩, ⟨.engine (.unlockPayload p), ()⟩]

end EngineEvent

def firstFailure : List (Except HostError Unit) → Except HostError Unit
  | [] => .ok ()
  | .error error :: _ => .error error
  | .ok () :: outcomes => firstFailure outcomes

/-- What a `close` does: nothing once the engine is closed, otherwise one visit after another to all that it drained. -/
def Closes (events : List (EngineEvent Tid)) (result : Except HostError Unit) : Prop :=
  ∃ (first : EngineEvent Tid) (later : List (EngineEvent Tid)), events = first :: later ∧ first.op = .engine .drain ∧
    match EngineEvent.drained first with
    | none => later = [] ∧ result = .ok ()
    | some payloads => ∃ visits : List (List (EngineEvent Tid) × Except HostError Unit),
      List.Forall₂ (fun p visit => EngineEvent.Visit p visit.1 visit.2) payloads visits ∧
        later = (visits.map Prod.fst).flatten ∧ result = firstFailure (visits.map Prod.snd)

structure RegistrySafe (r : EngineRecord Tid) : Prop where
  ascending : r.state.engine.loadOrder.Pairwise (· < ·)
  keys : ∀ id, id ∈ r.state.engine.loadOrder ↔ (r.state.engine.payloads id).isSome
  issued : (r.events.filterMap EngineEvent.issued).Pairwise (· > ·) ∧
    ∀ id ∈ r.events.filterMap EngineEvent.issued, 0 < id
  loads : ∀ t packageRoot entrypoint pluginId session events id,
    (t, .loadPayload packageRoot entrypoint pluginId session, events, .payloadId (.ok id)) ∈ r.returned →
      ∃ event ∈ events, EngineEvent.issued event = some id
  failed : ∀ t packageRoot entrypoint pluginId session events error,
    (t, .loadPayload packageRoot entrypoint pluginId session, events, .payloadId (.error error)) ∈ r.returned →
      ∀ event ∈ events, event.after = event.before
  drained : ∀ event ∈ r.events, ∀ payloads, EngineEvent.drained event = some payloads →
    payloads.map some = event.before.engine.loadOrder.reverse.map event.before.engine.payloads
  closed : r.events.Pairwise fun later earlier => (EngineEvent.drained earlier).isSome → EngineEvent.Shut later
  empty : (∃ event ∈ r.events, (EngineEvent.drained event).isSome) →
    r.state.engine.closed = true ∧ r.state.engine.loadOrder = [] ∧ ∀ id, r.state.engine.payloads id = none
  closes : ∀ t events result, (t, .close, events, .unit result) ∈ r.returned → Closes events result

end RuntimeHost.Native
