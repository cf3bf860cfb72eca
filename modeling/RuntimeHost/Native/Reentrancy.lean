import RuntimeHost.Foundation.Typestate
import RuntimeHost.Native.Methods
import RuntimeHost.Native.RegistrySafety

namespace RuntimeHost.Native

open Foundation Function System Abi

/-- The steps of the engine with the lock of its state, and with the code of a library that no payload owns: what it runs
while it is loaded and queried, or when it is turned down, and what it runs once the last reference to its payload goes. -/
inductive FrameOp where
  | lifecycle (op : LifecycleOp)
  | lockState
  | closed
  | enterLibrary
  | unlockState
  | dropPayload

def FrameOp.Answer : FrameOp → Type
  | .lifecycle op => op.Answer
  | .closed => Bool
  | _ => Unit

abbrev FrameProg := Prog FrameOp FrameOp.Answer

section Code

variable {α : Type}

def stateLocked (body : FrameProg α) : FrameProg α := do
  let _ : Unit ← .perform FrameOp.lockState
  let result ← body
  let _ : Unit ← .perform FrameOp.unlockState
  return result

/-- `load_payload` keeps the state locked until the library has been loaded and queried. An operation that keeps its reference
to a payload does not drop it with the guard. -/
def stateful (keeps : Bool) : (op : LifecycleOp) → FrameProg op.Answer
  | .engine (.register libraryPath pluginId session) => stateLocked do
    let closed : Bool ← .perform FrameOp.closed
    if closed then return (.error .engineClosed : Except HostError UInt64)
    else
      let _ : Unit ← .perform FrameOp.enterLibrary
      .perform (FrameOp.lifecycle (.engine (.register libraryPath pluginId session)))
  | .engine (.payload payloadId) => stateLocked (.perform (FrameOp.lifecycle (.engine (.payload payloadId))))
  | .engine (.remove payloadId) => stateLocked (.perform (FrameOp.lifecycle (.engine (.remove payloadId))))
  | .engine .drain => stateLocked (.perform (FrameOp.lifecycle (.engine .drain)))
  | .engine (.unlockPayload payload) => do
    let _ : Unit ← .perform (FrameOp.lifecycle (.engine (.unlockPayload payload)))
    if keeps then return () else .perform FrameOp.dropPayload
  | op => .perform (FrameOp.lifecycle op)

def framed (keeps : Bool) (p : NativeProg α) : FrameProg α := (p.handle EngineTask.apart).handle (stateful keeps)

def EngineTask.framed : EngineTask → FrameProg EngineResult
  | .unloadPayload payloadId => do
    let result ← Native.framed true (EngineTask.unloadPayload payloadId).native
    let _ : Unit ← .perform FrameOp.dropPayload
    return result
  | task => Native.framed false task.native

end Code

/-- An operation on the call stack of a thread: the ones below it wait in the code of a library for the ones above. -/
abbrev Frame (Tid : Type) := Tid × Nat

inductive Place where
  | host
  | plugin
  | library
  deriving DecidableEq

def FrameOp.place : FrameOp → Place
  | .lifecycle (.enter ..) => .plugin
  | .dropPayload => .plugin
  | .enterLibrary => .library
  | _ => .host

/-- What an operation holds: the guard of a payload, and the lock of the engine state; the payloads that it has found in the
registry; and whether it may go on to the registry. -/
structure Hold where
  guard : Option Nat := none
  registry : Bool := false
  known : List Nat := []
  admitted : Bool := false

namespace Hold

def allows (x : Hold) : FrameOp → Prop
  | .lockState => x.guard = none ∧ x.registry = false ∧ x.admitted = true
  | .unlockState => x.registry = true
  | .dropPayload => x.registry = false
  | .lifecycle (.enter ..) => x.registry = false
  | .lifecycle (.engine (.lockPayload payload)) => x.guard = none ∧ payload ∈ x.known
  | .lifecycle (.engine (.unlockPayload payload)) => x.guard = some payload
  | _ => True

def next (x : Hold) : (op : FrameOp) → op.Answer → Hold
  | .lockState, _ => { x with registry := true }
  | .unlockState, _ => { x with registry := false }
  | .lifecycle (.engine (.resolveEntrypoint ..)), .ok _ => { x with admitted := true }
  | .lifecycle (.engine (.payload _)), .ok payload => { x with known := [payload] }
  | .lifecycle (.engine .drain), some payloads => { x with known := payloads }
  | .lifecycle (.engine (.lockPayload payload)), _ => { x with guard := some payload }
  | .lifecycle (.engine (.unlockPayload _)), _ => { x with guard := none }
  | _, _ => x

/-- An operation locks only what it has found, one payload at a time, and runs no plugin under the lock of the engine state. -/
def typestate : Typestate FrameOp FrameOp.Answer Hold where
  allows := allows
  next := next

def begun : EngineTask → Hold
  | .loadPayload .. => {}
  | _ => { admitted := true }

end Hold

/-- An engine with the open operations of each thread: how many there are, where each of them is and what it holds, and which
one has the lock of the engine state. -/
structure Frames (Tid : Type) where
  engines : Engines (Frame Tid) := {}
  stateHolder : Option (Frame Tid) := none
  depth : Tid → Nat := fun _ => 0
  place : Frame Tid → Place := fun _ => .host
  holds : Frame Tid → Hold := fun _ => {}

abbrev FramesConfig (Tid : Type) := Config (Frame Tid) (Frames Tid) FrameOp FrameOp.Answer EngineTask EngineResult

namespace Frames

variable {Tid : Type} [DecidableEq Tid]

def step (frame : Frame Tid) : (op : FrameOp) → Frames Tid → op.Answer → Frames Tid → Prop
  | .lifecycle op, s, answer, s' => ∃ engines, Engines.execApart frame op s.engines answer engines ∧ s' = { s with engines }
  | .lockState, s, _, s' => s.stateHolder = none ∧ s' = { s with stateHolder := some frame }
  | .unlockState, s, _, s' => s' = { s with stateHolder := none }
  | .closed, s, answer, s' => answer = s.engines.engine.closed ∧ s' = s
  | .enterLibrary, s, _, s' => s' = s
  | .dropPayload, s, _, s' => s' = s

/-- Operations of one engine on threads, where the code of a library may issue further operations, to any depth; only the
topmost operation of a thread goes on. -/
def system (Tid : Type) [DecidableEq Tid] : System (Frame Tid) (Frames Tid) FrameOp FrameOp.Answer EngineTask EngineResult where
  code := EngineTask.framed
  start frame task s s' := s.depth frame.1 = frame.2 ∧
    (∀ outer, frame.2 = outer + 1 → s.place (frame.1, outer) ≠ .host) ∧
    s' = { s with
      depth := update s.depth frame.1 (frame.2 + 1)
      place := update s.place frame .host
      holds := update s.holds frame (Hold.begun task) }
  exec frame op s answer s' := s.depth frame.1 = frame.2 + 1 ∧ ∃ next, step frame op s answer next ∧
    s' = { next with
      place := update s.place frame op.place
      holds := update s.holds frame ((s.holds frame).next op answer) }
  finish frame _ _ s s' := s.depth frame.1 = frame.2 + 1 ∧
    s' = { s with depth := update s.depth frame.1 frame.2, holds := update s.holds frame {} }
  env _ _ := False

def holder (s : Frames Tid) : FrameOp → Option (Frame Tid)
  | .lockState => s.stateHolder
  | .lifecycle (.engine (.lockPayload payload)) => s.engines.holder payload
  | _ => none

/-- An operation is about to take a lock that an outer operation of its own thread has. -/
def Blocked (c : FramesConfig Tid) (frame : Frame Tid) : Prop :=
  ∃ task op next, c.threads frame = .running task (.act op next) ∧
    ∃ outer < frame.2, c.state.holder op = some (frame.1, outer)

def Clear (frame : Frame Tid) (s : Frames Tid) : Prop := ∀ outer < frame.2, s.place (frame.1, outer) ≠ .library

def Untouched (frame : Frame Tid) (s : Frames Tid) (payload : Nat) : Prop :=
  ∀ outer < frame.2, s.engines.holder payload ≠ some (frame.1, outer)

/-- While a thread is loading a library, no operation but a load starts on it. -/
def Opens (frame : Frame Tid) : EngineTask → Frames Tid → Prop
  | .loadPayload .., _ => True
  | _, s => s.Clear frame

/-- And no load gets past its own checks; no operation finds a payload, and no close of an open engine one to shut down, that
an outer operation of its own thread is working on. -/
def Distinct (frame : Frame Tid) : (op : FrameOp) → Frames Tid → op.Answer → Prop
  | .lifecycle (.engine (.resolveEntrypoint ..)), s, .ok _ => s.Clear frame
  | .lifecycle (.engine (.payload _)), s, .ok payload => s.Untouched frame payload
  | .lifecycle (.engine .drain), s, some payloads => ∀ payload ∈ payloads, s.Untouched frame payload
  | _, _, _ => True

section Follows

open Hold

variable {α : Type} {known : List Nat} {guard : Option Nat} {keeps : Bool}

theorem framed_bind {β : Type} (p : NativeProg α) (f : α → NativeProg β) :
    framed keeps (p >>= f) = framed keeps p >>= fun a => framed keeps (f a) := by
  unfold framed
  rw [Prog.handle_bind, Prog.handle_bind]

theorem follows_inner {p : NativeProg α} (only : p.Only Inner) :
    (framed keeps p).Follows typestate (fun _ x => x = ⟨guard, false, known, true⟩) ⟨guard, false, known, true⟩ := by
  unfold framed
  rw [Prog.handle_handle]
  refine Prog.Follows.handle only fun op inner => ?_
  cases op with
  | engine op =>
    cases op with
    | setState payload state => exact ⟨trivial, fun _ => rfl⟩
    | _ => exact inner.elim
  | plugin payload call => exact ⟨rfl, fun _ => ⟨trivial, fun _ => rfl⟩⟩

theorem follows_locked {payload : Nat} {method : EmbeddedPayload → NativeProg α} (found : payload ∈ known)
    (only : ∀ self, (method self).Only Inner) :
    (framed keeps (locked payload method)).Follows typestate (fun _ x => x = ⟨none, false, known, true⟩)
      ⟨none, false, known, true⟩ := by
  refine ⟨⟨rfl, found⟩, fun (self : EmbeddedPayload) => ?_⟩
  show Prog.Follows typestate _ (framed keeps (method self >>= _)) ⟨some payload, false, known, true⟩
  rw [framed_bind]
  refine .bind (Prog.Follows.imp (follows_inner (only self)) fun _ x same => ?_)
  subst same
  cases keeps with
  | true => exact ⟨rfl, fun _ => rfl⟩
  | false => exact ⟨rfl, fun _ => ⟨rfl, fun _ => rfl⟩⟩

def Released (x : Hold) : Prop := x.guard = none ∧ x.registry = false

theorem follows_method {β : Type} {payloadId : UInt64} {method : Nat → EmbeddedPayload → NativeProg (Except HostError β)}
    (only : ∀ payload self, (method payload self).Only Inner) :
    (framed keeps (NativeProg.payload payloadId >>= fun found => match found with
      | .error error => return .error error
      | .ok payload => locked payload (method payload))).Follows typestate (fun _ x => Released x) { admitted := true } := by
  refine ⟨⟨rfl, rfl, rfl⟩, fun _ => ⟨trivial, fun (found : Except HostError Nat) => ⟨?_, fun _ => ?_⟩⟩⟩
  · cases found <;> rfl
  · cases found with
    | error error => exact ⟨rfl, rfl⟩
    | ok payload =>
      refine Prog.Follows.imp (follows_locked (List.mem_singleton_self payload) (only payload)) fun _ x same => ?_
      rw [same]
      exact ⟨rfl, rfl⟩

theorem follows_unloadPayload (payloadId : UInt64) :
    (framed keeps (Engine.unloadPayload payloadId)).Follows typestate (fun _ x => Released x) { admitted := true } := by
  refine ⟨⟨rfl, rfl, rfl⟩, fun _ => ⟨trivial, fun (found : Except HostError Nat) => ⟨?_, fun _ => ?_⟩⟩⟩
  · cases found <;> rfl
  · cases found with
    | error error => exact ⟨rfl, rfl⟩
    | ok payload =>
      show Prog.Follows typestate _ (framed keeps (locked payload (·.shutdownForUnload payload) >>= _))
        ⟨none, false, [payload], true⟩
      rw [framed_bind]
      refine .bind (Prog.Follows.imp (follows_locked (List.mem_singleton_self payload)
        (EmbeddedPayload.shutdownForUnload_inner payload)) fun shutdown x same => ?_)
      subst same
      cases shutdown with
      | error error => exact ⟨rfl, rfl⟩
      | ok => exact ⟨⟨rfl, rfl, rfl⟩, fun _ => ⟨trivial, fun _ => ⟨rfl, fun _ => ⟨rfl, rfl⟩⟩⟩⟩

theorem follows_forceShutdowns (payloads : List Nat) (firstFailure : Option HostError)
    (found : ∀ payload ∈ payloads, payload ∈ known) :
    (framed keeps (Engine.forceShutdowns payloads firstFailure)).Follows typestate
      (fun _ x => x = ⟨none, false, known, true⟩) ⟨none, false, known, true⟩ := by
  induction payloads generalizing firstFailure with
  | nil => rfl
  | cons payload payloads ih =>
    obtain ⟨first, others⟩ := List.forall_mem_cons.mp found
    show Prog.Follows typestate _ (framed keeps (locked payload (·.forceShutdown payload) >>= _)) _
    rw [framed_bind]
    refine .bind (Prog.Follows.imp (follows_locked first (EmbeddedPayload.forceShutdown_inner payload))
      fun shutdown x same => ?_)
    subst same
    cases shutdown with
    | error error => exact ih _ others
    | ok => exact ih _ others

theorem follows_close : (framed keeps Engine.close).Follows typestate (fun _ x => Released x) { admitted := true } := by
  refine ⟨⟨rfl, rfl, rfl⟩, fun _ => ⟨trivial, fun (drained : Option (List Nat)) => ⟨?_, fun _ => ?_⟩⟩⟩
  · cases drained <;> rfl
  · cases drained with
    | none => exact ⟨rfl, rfl⟩
    | some payloads =>
      show Prog.Follows typestate _ (framed keeps (Engine.forceShutdowns payloads none >>= _)) ⟨none, false, payloads, true⟩
      rw [framed_bind]
      refine .bind (Prog.Follows.imp (follows_forceShutdowns payloads none fun _ present => present) fun failure x same => ?_)
      subst same
      cases failure <;> exact ⟨rfl, rfl⟩

theorem follows_loadPayload (packageRoot entrypoint : String) (pluginId session : UInt64) :
    (framed keeps (Engine.loadPayload packageRoot entrypoint pluginId session)).Follows typestate (fun _ x => Released x) {} := by
  unfold Engine.loadPayload
  split
  · exact ⟨rfl, rfl⟩
  · refine ⟨trivial, fun (resolved : Except HostError String) => ?_⟩
    cases resolved with
    | error error => exact ⟨rfl, rfl⟩
    | ok libraryPath =>
      refine ⟨⟨rfl, rfl, rfl⟩, fun _ => ⟨trivial, fun (closed : Bool) => ?_⟩⟩
      cases closed with
      | true => exact ⟨rfl, fun _ => ⟨rfl, rfl⟩⟩
      | false => exact ⟨trivial, fun _ => ⟨trivial, fun _ => ⟨rfl, fun _ => ⟨rfl, rfl⟩⟩⟩⟩

theorem follows_task (task : EngineTask) : task.framed.Follows typestate (fun _ x => Released x) (begun task) := by
  have returns : ∀ {β : Type} {p : NativeProg β} {x : Hold} {keeps : Bool} (f : β → EngineResult),
      (framed keeps p).Follows typestate (fun _ x => Released x) x →
      (framed keeps (p >>= fun a => return f a)).Follows typestate (fun _ x => Released x) x := by
    intro β p x keeps f follows
    rw [framed_bind]
    exact .bind (Prog.Follows.imp follows fun _ _ released => released)
  cases task with
  | loadPayload packageRoot entrypoint pluginId session => exact returns _ (follows_loadPayload ..)
  | enablePayload payloadId => exact returns _ (follows_method EmbeddedPayload.enable_inner)
  | disablePayload payloadId => exact returns _ (follows_method EmbeddedPayload.disable_inner)
  | invokePayload payloadId operation input callback =>
    exact returns _ (follows_method fun payload self => self.invoke_inner payload ..)
  | unloadPayload payloadId =>
    refine .bind (Prog.Follows.imp (returns _ (follows_unloadPayload payloadId)) fun _ x released => ?_)
    exact ⟨released.2, fun _ => released⟩
  | close => exact returns _ follows_close

end Follows

/-- What each operation holds is what the locks say, and an operation holds nothing once it has returned; the outer ones are
in the code of a library, the one with the lock of the engine state in that of one that it loads; and no operation knows of a
payload that an outer one is working on, nor goes on to the registry while an outer one is loading a library. -/
structure Safe (s : Frames Tid) : Prop where
  held : ∀ payload frame, s.engines.holder payload = some frame ↔ (s.holds frame).guard = some payload
  locked : ∀ frame, s.stateHolder = some frame → (s.holds frame).registry = true
  loading : ∀ frame, (s.holds frame).registry = true → s.place frame ≠ .plugin
  waiting : ∀ t n, n + 1 < s.depth t → s.place (t, n) ≠ .host
  returned : ∀ t n, s.depth t ≤ n → s.holds (t, n) = {}
  distinct : ∀ t n, ∀ payload ∈ (s.holds (t, n)).known, s.Untouched (t, n) payload
  clear : ∀ t n, (s.holds (t, n)).admitted = true → ∀ outer < n, s.place (t, outer) = .plugin

theorem tracks : ((system Tid).confine Opens Distinct).Tracks Hold.typestate Frames.holds (fun _ _ x => Released x) {} where
  start frame task s s' begun := by
    obtain ⟨-, -, -, rfl⟩ := begun
    exact ⟨Hold.begun task, rfl, follows_task task⟩
  exec frame op s answer s' answered := by
    obtain ⟨-, -, next, -, rfl⟩ := answered
    rfl
  finish frame task result s s' ended := by
    obtain ⟨-, rfl⟩ := ended
    rfl
  env s s' moved := moved.elim

section Steps

variable {s s' : Frames Tid} {frame : Frame Tid} {payload : Nat} {op : FrameOp}

omit [DecidableEq Tid] in
theorem above {t : Tid} {n : Nat} (top : s.depth frame.1 = frame.2 + 1) (closed : s.depth t ≤ n) : (t, n) ≠ frame := by
  intro same
  rw [← same] at top
  exact absurd top (by dsimp only; omega)

omit [DecidableEq Tid] in
theorem below {t : Tid} {n outer : Nat} (top : s.depth frame.1 = frame.2 + 1) (inner : outer < n) (opened : n < s.depth t) :
    (t, outer) ≠ frame := by
  intro same
  rw [← same] at top
  exact absurd top (by dsimp only; omega)

omit [DecidableEq Tid] in
theorem Safe.opened {t : Tid} {n : Nat} (safe : s.Safe) (active : s.holds (t, n) ≠ {}) : n < s.depth t :=
  Nat.lt_of_not_le fun closed => active (safe.returned t n closed)

omit [DecidableEq Tid] in
theorem plugin_of_clear {outer : Nat} (clear : s.Clear frame) (waits : s.place (frame.1, outer) ≠ .host)
    (inner : outer < frame.2) : s.place (frame.1, outer) = .plugin := by
  cases place : s.place (frame.1, outer) with
  | host => exact absurd place waits
  | plugin => rfl
  | library => exact absurd place (clear outer inner)

theorem Safe.act {place : Place} {hold : Hold} (safe : s.Safe) (top : s.depth frame.1 = frame.2 + 1) (depth : s'.depth = s.depth)
    (places : s'.place = update s.place frame place) (holds : s'.holds = update s.holds frame hold)
    (guards : ∀ payload frame', s'.engines.holder payload = some frame' ↔
      if frame' = frame then hold.guard = some payload else s.engines.holder payload = some frame')
    (registry : ∀ frame', s'.stateHolder = some frame' →
      if frame' = frame then hold.registry = true else s.stateHolder = some frame')
    (loading : hold.registry = true → place ≠ .plugin) (distinct : ∀ payload ∈ hold.known, s.Untouched frame payload)
    (clear : hold.admitted = true → ∀ outer < frame.2, s.place (frame.1, outer) = .plugin) : s'.Safe := by
  have placed : ∀ {t : Tid} {n outer : Nat}, outer < n → n < s.depth t → s'.place (t, outer) = s.place (t, outer) := by
    intro t n outer inner opened
    rw [places, update_of_ne (below top inner opened)]
  have touched : ∀ {t : Tid} {n outer payload : Nat}, outer < n → n < s.depth t →
      (s'.engines.holder payload = some (t, outer) ↔ s.engines.holder payload = some (t, outer)) := by
    intro t n outer payload inner opened
    rw [guards, if_neg (below top inner opened)]
  have mine : frame.2 < s.depth frame.1 := by omega
  refine ⟨fun payload frame' => ?_, fun frame' here => ?_, fun frame' here => ?_, fun t n inner => ?_, fun t n closed => ?_,
    fun t n payload present outer inner => ?_, fun t n admitted outer inner => ?_⟩
  · rw [guards, holds, update_apply, safe.held]
    split <;> rfl
  · have old := registry frame' here
    rw [holds, update_apply]
    split at old
    · rename_i same
      rw [if_pos same]
      exact old
    · rename_i other
      rw [if_neg other]
      exact safe.locked frame' old
  · rw [holds, update_apply] at here
    rw [places, update_apply]
    split at here
    · rename_i same
      rw [if_pos same]
      exact loading here
    · rename_i other
      rw [if_neg other]
      exact safe.loading frame' here
  · rw [depth] at inner
    rw [placed (Nat.lt_succ_self n) inner]
    exact safe.waiting t n inner
  · rw [depth] at closed
    rw [holds, update_of_ne (above top closed)]
    exact safe.returned t n closed
  · rw [holds] at present
    by_cases same : (t, n) = frame
    · subst same
      rw [update_self] at present
      rw [Ne, touched inner mine]
      exact distinct payload present outer inner
    · rw [update_of_ne same] at present
      have active : s.holds (t, n) ≠ {} := fun nothing => by
        rw [nothing] at present
        cases present
      rw [Ne, touched inner (safe.opened active)]
      exact safe.distinct t n payload present outer inner
  · rw [holds] at admitted
    by_cases same : (t, n) = frame
    · subst same
      rw [update_self] at admitted
      rw [placed inner mine]
      exact clear admitted outer inner
    · rw [update_of_ne same] at admitted
      have active : s.holds (t, n) ≠ {} := fun nothing => by
        rw [nothing] at admitted
        cases admitted
      rw [placed inner (safe.opened active)]
      exact safe.clear t n admitted outer inner

theorem Safe.held_kept {hold : Hold} (safe : s.Safe) (guard : hold.guard = (s.holds frame).guard) (payload : Nat)
    (frame' : Frame Tid) : s.engines.holder payload = some frame' ↔
      if frame' = frame then hold.guard = some payload else s.engines.holder payload = some frame' := by
  rw [guard]
  split
  · rename_i same
    rw [same]
    exact safe.held payload frame
  · rfl

theorem Safe.locked_kept {hold : Hold} (safe : s.Safe) (registry : hold.registry = (s.holds frame).registry)
    (frame' : Frame Tid) (here : s.stateHolder = some frame') :
    if frame' = frame then hold.registry = true else s.stateHolder = some frame' := by
  split
  · rename_i same
    rw [registry]
    exact safe.locked frame (same ▸ here)
  · exact here

theorem Safe.keep {place : Place} {hold : Hold} (safe : s.Safe) (top : s.depth frame.1 = frame.2 + 1)
    (depth : s'.depth = s.depth) (places : s'.place = update s.place frame place) (holds : s'.holds = update s.holds frame hold)
    (holder : s'.engines.holder = s.engines.holder) (stateHolder : s'.stateHolder = s.stateHolder)
    (guard : hold.guard = (s.holds frame).guard) (registry : hold.registry = (s.holds frame).registry)
    (loading : hold.registry = true → place ≠ .plugin) (distinct : ∀ payload ∈ hold.known, s.Untouched frame payload)
    (clear : hold.admitted = true → ∀ outer < frame.2, s.place (frame.1, outer) = .plugin) : s'.Safe := by
  refine safe.act top depth places holds (fun payload frame' => ?_) (fun frame' here => ?_) loading distinct clear
  · rw [holder]
    exact safe.held_kept guard payload frame'
  · exact safe.locked_kept registry frame' (stateHolder ▸ here)

theorem Safe.exec (safe : s.Safe) {answer : op.Answer} (allowed : (s.holds frame).allows op)
    (distinct : Distinct frame op s answer) (answered : (system Tid).exec frame op s answer s') : s'.Safe := by
  obtain ⟨top, next, done, rfl⟩ := answered
  have known : ∀ payload ∈ (s.holds frame).known, s.Untouched frame payload := safe.distinct frame.1 frame.2
  have clear : (s.holds frame).admitted = true → ∀ outer < frame.2, s.place (frame.1, outer) = .plugin :=
    safe.clear frame.1 frame.2
  cases op with
  | lockState =>
    obtain ⟨free, rfl⟩ := done
    refine safe.act top rfl rfl rfl (safe.held_kept rfl) (fun frame' here => ?_) (fun _ => nofun) known clear
    cases here
    rw [if_pos rfl]
    rfl
  | unlockState =>
    obtain rfl : next = _ := done
    exact safe.act top rfl rfl rfl (safe.held_kept rfl) (fun frame' here => nomatch here) (fun _ => nofun) known clear
  | closed =>
    obtain ⟨-, rfl⟩ := done
    exact safe.keep top rfl rfl rfl rfl rfl rfl rfl (fun _ => nofun) known clear
  | enterLibrary =>
    obtain rfl : next = s := done
    exact safe.keep top rfl rfl rfl rfl rfl rfl rfl (fun _ => nofun) known clear
  | dropPayload =>
    obtain rfl : next = s := done
    have unlocked : (next.holds frame).registry = false := allowed
    exact safe.keep top rfl rfl rfl rfl rfl rfl rfl (fun locked => absurd (unlocked.symm.trans locked) Bool.false_ne_true)
      known clear
  | lifecycle op =>
    obtain ⟨engines, moved, rfl⟩ := done
    cases op with
    | enter payload call =>
      obtain rfl : engines = s.engines := moved
      have unlocked : (s.holds frame).registry = false := allowed
      exact safe.keep top rfl rfl rfl rfl rfl rfl rfl (fun locked => absurd (unlocked.symm.trans locked) Bool.false_ne_true)
        known clear
    | leave payload =>
      obtain rfl : engines = s.engines := moved
      exact safe.keep top rfl rfl rfl rfl rfl rfl rfl (fun _ => nofun) known clear
    | engine op =>
      cases op with
      | resolveEntrypoint packageRoot entrypoint =>
        obtain ⟨-, rfl⟩ := moved
        cases answer with
        | error error => exact safe.keep top rfl rfl rfl rfl rfl rfl rfl (fun _ => nofun) known clear
        | ok libraryPath =>
          refine safe.keep top rfl rfl rfl rfl rfl rfl rfl (fun _ => nofun) known fun _ outer inner => ?_
          exact plugin_of_clear distinct (safe.waiting frame.1 outer (by omega)) inner
      | register libraryPath pluginId session =>
        rcases Engines.register_cases moved with ⟨error, rfl, rfl, -⟩ | ⟨payload, next, -, -, -, rfl, rfl⟩
        · exact safe.keep top rfl rfl rfl rfl rfl rfl rfl (fun _ => nofun) known clear
        · exact safe.keep top rfl rfl rfl rfl rfl rfl rfl (fun _ => nofun) known clear
      | payload payloadId =>
        obtain ⟨-, rfl⟩ := moved
        cases answer with
        | error error => exact safe.keep top rfl rfl rfl rfl rfl rfl rfl (fun _ => nofun) known clear
        | ok payload =>
          refine safe.keep top rfl rfl rfl rfl rfl rfl rfl (fun _ => nofun) (fun payload' present => ?_) clear
          rw [List.mem_singleton.mp present]
          exact distinct
      | remove payloadId =>
        obtain rfl : engines = _ := moved
        exact safe.keep top rfl rfl rfl rfl rfl rfl rfl (fun _ => nofun) known clear
      | drain =>
        change if s.engines.engine.closed then answer = none ∧ engines = s.engines else _ at moved
        split at moved
        · obtain ⟨rfl, rfl⟩ := moved
          exact safe.keep top rfl rfl rfl rfl rfl rfl rfl (fun _ => nofun) known clear
        · obtain ⟨rfl, rfl⟩ := moved
          exact safe.keep top rfl rfl rfl rfl rfl rfl rfl (fun _ => nofun) distinct clear
      | lockPayload payload =>
        obtain ⟨free, -, rfl⟩ := moved
        refine safe.act top rfl rfl rfl (fun payload' frame' => ?_) (safe.locked_kept rfl) (fun _ => nofun) known clear
        have old := safe.held payload' frame'
        simp only [Hold.next, update_apply]
        by_cases here : payload' = payload <;> by_cases same : frame' = frame
        · simp [here, same]
        · simp [here, same, Ne.symm same, free]
        · rw [same, allowed.1] at old
          simpa [here, same, Ne.symm here] using old
        · simp [here, same]
      | setState payload state =>
        obtain rfl : engines = _ := moved
        exact safe.keep top rfl rfl rfl rfl rfl rfl rfl (fun _ => nofun) known clear
      | unlockPayload payload =>
        obtain rfl : engines = _ := moved
        refine safe.act top rfl rfl rfl (fun payload' frame' => ?_) (safe.locked_kept rfl) (fun _ => nofun) known clear
        have old := safe.held payload' frame'
        have own := (safe.held payload frame).mpr allowed
        simp only [Hold.next, update_apply]
        by_cases here : payload' = payload <;> by_cases same : frame' = frame
        · simp [here, same]
        · simp [here, same, Ne.symm same, own]
        · rw [same, show (s.holds frame).guard = some payload from allowed] at old
          simpa [here, same, Ne.symm here] using old
        · simp [here, same]

theorem Safe.start {task : EngineTask} (safe : s.Safe) (opens : Opens frame task s)
    (begun : (system Tid).start frame task s s') : s'.Safe := by
  obtain ⟨top, inside, rfl⟩ := begun
  have nothing : s.holds frame = {} := safe.returned frame.1 frame.2 top.le
  have waits : ∀ outer < frame.2, s.place (frame.1, outer) ≠ .host := by
    intro outer inner
    rcases Nat.lt_or_eq_of_le (Nat.succ_le_of_lt inner) with further | next
    · exact safe.waiting frame.1 outer (by omega)
    · exact inside outer next.symm
  have others : ∀ {outer : Nat}, outer < frame.2 → (frame.1, outer) ≠ frame := fun inner same =>
    absurd (congrArg Prod.snd same) (Nat.ne_of_lt inner)
  refine ⟨fun payload frame' => ?_, fun frame' here => ?_, fun frame' here => ?_, fun t n inner => ?_, fun t n closed => ?_,
    fun t n payload present => ?_, fun t n admitted outer inner => ?_⟩
  · rw [safe.held]
    simp only [update_apply]
    split
    · rename_i same
      rw [same, nothing]
      cases task <;> rfl
    · rfl
  · have old := safe.locked frame' here
    have other : frame' ≠ frame := by
      rintro rfl
      rw [nothing] at old
      cases old
    simpa only [update_of_ne other] using old
  · simp only [update_apply] at here ⊢
    split at here
    · cases task <;> cases here
    · rename_i other
      rw [if_neg other]
      exact safe.loading frame' here
  · simp only [update_apply] at inner ⊢
    split at inner
    · rename_i here
      subst here
      have lower : n < frame.2 := Nat.lt_of_succ_lt_succ inner
      rw [if_neg (others lower)]
      exact waits n lower
    · rename_i other
      rw [if_neg fun same => other (congrArg Prod.fst same)]
      exact safe.waiting t n inner
  · simp only [update_apply] at closed ⊢
    split at closed
    · rename_i here
      subst here
      rw [if_neg fun same => absurd (congrArg Prod.snd same) (by dsimp only; omega)]
      exact safe.returned frame.1 n (by omega)
    · rename_i other
      rw [if_neg fun same => other (congrArg Prod.fst same)]
      exact safe.returned t n closed
  · simp only [update_apply] at present
    split at present
    · cases task <;> cases present
    · exact safe.distinct t n payload present
  · simp only [update_apply] at admitted ⊢
    split at admitted
    · rename_i same
      subst same
      rw [if_neg (others inner)]
      cases task with
      | loadPayload packageRoot entrypoint pluginId session => cases admitted
      | _ => exact plugin_of_clear opens (waits outer inner) inner
    · have active : s.holds (t, n) ≠ {} := fun nothing => by
        rw [nothing] at admitted
        cases admitted
      have lower := safe.opened active
      rw [if_neg fun same => ?_]
      · exact safe.clear t n admitted outer inner
      · subst same
        dsimp only at top
        omega

theorem Safe.finish (task : EngineTask) (result : EngineResult) (safe : s.Safe) (released : Released (s.holds frame))
    (ended : (system Tid).finish frame task result s s') : s'.Safe := by
  obtain ⟨top, rfl⟩ := ended
  refine ⟨fun payload frame' => ?_, fun frame' here => ?_, fun frame' here => ?_, fun t n inner => ?_, fun t n closed => ?_,
    fun t n payload present => ?_, fun t n admitted => ?_⟩
  · rw [safe.held]
    simp only [update_apply]
    split
    · rename_i same
      rw [same, released.1]
    · rfl
  · have old := safe.locked frame' here
    have other : frame' ≠ frame := by
      rintro rfl
      exact absurd (released.2.symm.trans old) Bool.false_ne_true
    simpa only [update_of_ne other] using old
  · simp only [update_apply] at here
    split at here
    · cases here
    · exact safe.loading frame' here
  · simp only [update_apply] at inner
    split at inner
    · rename_i here
      subst here
      exact safe.waiting frame.1 n (by omega)
    · exact safe.waiting t n inner
  · simp only [update_apply] at closed ⊢
    split
    · rfl
    · rename_i other
      refine safe.returned t n ?_
      split at closed
      · rename_i here
        have : n ≠ frame.2 := fun same => other (Prod.ext here same)
        rw [here, top]
        omega
      · exact closed
  · simp only [update_apply] at present
    split at present
    · cases present
    · exact safe.distinct t n payload present
  · simp only [update_apply] at admitted
    split at admitted
    · cases admitted
    · exact safe.clear t n admitted

end Steps

/-- In every run in which nothing goes on to the registry on a thread that is loading a library, and whose operations stay
apart from the payloads that outer operations of their own thread are working on, no operation comes to wait for a lock of its
own thread. -/
theorem never_blocked {c : FramesConfig Tid} (reached : ((system Tid).confine Opens Distinct).Reachable (· = {}) c)
    (frame : Frame Tid) : ¬Blocked c frame := by
  have initially : ∀ s : Frames Tid, s = {} → ∀ frame, s.holds frame = {} := by
    rintro _ rfl frame
    rfl
  have safe : c.state.Safe := by
    refine tracks.invariant initially ?_ ?_ ?_ ?_ ?_ reached
    · rintro _ rfl
      exact ⟨by simp, nofun, nofun, nofun, fun _ _ _ => rfl, nofun, nofun⟩
    · exact fun frame task s s' safe _ begun => safe.start begun.1 begun.2
    · exact fun frame op s answer s' safe allowed answered => safe.exec allowed answered.1 answered.2
    · exact fun frame task result s s' safe released ended => safe.finish task result released ended
    · exact fun s s' _ moved => moved.elim
  rintro ⟨task, op, next, running, outer, inner, waits⟩
  have standing := tracks.standing initially reached frame
  rw [running] at standing
  obtain ⟨allowed, -⟩ := standing
  cases op with
  | lockState =>
    -- The outer operation has the state locked, so that it is in no plugin call; this one was admitted, so that it is in one.
    have working := safe.loading _ (safe.locked _ waits)
    exact working (safe.clear frame.1 frame.2 allowed.2.2 outer inner)
  | lifecycle op =>
    cases op with
    | engine op =>
      cases op with
      | lockPayload payload => exact safe.distinct frame.1 frame.2 payload allowed.2 outer inner waits
      | _ => cases waits
    | _ => cases waits
  | _ => cases waits

section Runs

theorem run_load {c : FramesConfig Unit} (pluginId session : UInt64) {id : UInt64} {payload : EmbeddedPayload} {engine : EngineState}
    (run : ((system Unit).confine Opens Distinct).Run ⟨{}, fun _ => .idle⟩ c) (idle : c.threads ((), 0) = .idle)
    (depth : c.state.depth () = 0) (free : c.state.stateHolder = none) (valid : ¬(pluginId = 0 ∨ session = 0))
    (running : c.state.engines.engine.closed = false)
    (loaded : EmbeddedPayload.load (.queried .ok Lifecycle.completeTable) pluginId session = .ok payload)
    (registered : c.state.engines.engine.register c.state.engines.allocated = .ok (id, engine)) :
    ∃ s, ((system Unit).confine Opens Distinct).Run ⟨{}, fun _ => .idle⟩ ⟨s, c.threads⟩ ∧
      s.depth () = 0 ∧ s.stateHolder = none ∧ s.engines = { c.state.engines with
        engine
        allocated := c.state.engines.allocated + 1
        payload := update c.state.engines.payload c.state.engines.allocated payload } := by
  have bottom : ∀ {s : Frames Unit}, s.Clear ((), 0) := fun outer inner => absurd inner (Nat.not_lt_zero outer)
  obtain ⟨s, performs, depth', free', engines⟩ : ∃ s, ((system Unit).confine Opens Distinct).Performs ((), 0)
      (EngineTask.loadPayload "root" "entry" pluginId session).framed { c.state with
        depth := update c.state.depth () 1
        place := update c.state.place ((), 0) .host
        holds := update c.state.holds ((), 0) {} } (.payloadId (.ok id)) s ∧ s.depth () = 1 ∧ s.stateHolder = none ∧
      s.engines = { c.state.engines with
        engine
        allocated := c.state.engines.allocated + 1
        payload := update c.state.engines.payload c.state.engines.allocated payload } := by
    show ∃ s, Performs _ _ (framed false (Engine.loadPayload "root" "entry" pluginId session >>= _)) _ _ _ ∧ _
    unfold Engine.loadPayload
    rw [if_neg valid]
    exact ⟨_, ⟨(Except.ok "library" : Except HostError String), _, ⟨bottom, rfl, _, ⟨_, ⟨trivial, rfl⟩, rfl⟩, rfl⟩,
      (), _, ⟨trivial, rfl, _, ⟨free, rfl⟩, rfl⟩, false, _, ⟨trivial, rfl, _, ⟨running.symm, rfl⟩, rfl⟩,
      (), _, ⟨trivial, rfl, _, rfl, rfl⟩, (Except.ok id : Except HostError UInt64), _,
      ⟨trivial, rfl, _, ⟨_, Lifecycle.register_loaded loaded registered running, rfl⟩, rfl⟩,
      (), _, ⟨trivial, rfl, _, rfl, rfl⟩, rfl, rfl⟩, rfl, rfl, rfl⟩
  refine ⟨_, run.complete ((), 0) (.loadPayload "root" "entry" pluginId session) idle ⟨trivial, depth, nofun, rfl⟩ performs
    ⟨depth', rfl⟩, ?_, free', engines⟩
  show update s.depth () 0 () = 0
  rw [update_self]

theorem invoking : ∃ c : FramesConfig Unit, ((system Unit).confine Opens Distinct).Run ⟨{}, fun _ => .idle⟩ c ∧
    c.threads ((), 1) = .idle ∧ c.state.depth () = 1 ∧ c.state.place ((), 0) = .plugin ∧ c.state.stateHolder = none ∧
    c.state.engines.engine.payload 1 = .ok 0 ∧ c.state.engines.holder 0 = some ((), 0) ∧
    c.state.engines.engine.payload 2 = .ok 1 ∧ c.state.engines.holder 1 = none := by
  have bottom : ∀ {s : Frames Unit} {payload : Nat}, s.Untouched ((), 0) payload :=
    fun outer inner => absurd inner (Nat.not_lt_zero outer)
  have fresh : ((system Unit).confine Opens Distinct).Run (⟨{}, fun _ => .idle⟩ : FramesConfig Unit) ⟨{}, fun _ => .idle⟩ :=
    .refl
  obtain ⟨⟨_, _, _, _, _⟩, first, depth, rfl, rfl⟩ := run_load 7 9 fresh rfl rfl rfl (by decide)
    rfl rfl rfl
  obtain ⟨⟨_, _, _, _, _⟩, second, depth, rfl, rfl⟩ := run_load 8 10 first rfl depth rfl (by decide)
    rfl rfl rfl
  have enabled := second.complete ((), 0) (.enablePayload 1) (r := .unit (.ok ())) rfl
    ⟨fun outer inner => absurd inner (Nat.not_lt_zero outer), depth, nofun, rfl⟩
    ⟨(), _, ⟨trivial, rfl, _, ⟨rfl, rfl⟩, rfl⟩, (Except.ok 0 : Except HostError Nat), _,
      ⟨bottom, rfl, _, ⟨_, ⟨rfl, rfl⟩, rfl⟩, rfl⟩, (), _, ⟨trivial, rfl, _, rfl, rfl⟩,
      (⟨7, 9, Lifecycle.completeTable, .loaded⟩ : EmbeddedPayload), _, ⟨trivial, rfl, _, ⟨_, ⟨rfl, rfl, rfl⟩, rfl⟩, rfl⟩,
      (), _, ⟨trivial, rfl, _, ⟨_, rfl, rfl⟩, rfl⟩, (⟨.ok, none⟩ : PluginReturn), _, ⟨trivial, rfl, _, ⟨_, rfl, rfl⟩, rfl⟩,
      (), _, ⟨trivial, rfl, _, ⟨_, rfl, rfl⟩, rfl⟩, (), _, ⟨trivial, rfl, _, ⟨_, rfl, rfl⟩, rfl⟩,
      (), _, ⟨trivial, rfl, _, rfl, rfl⟩, rfl, rfl⟩ ⟨rfl, rfl⟩
  have invoked := (((((enabled.start ((), 0) (.invokePayload 1 "echo" [] 3) rfl
    ⟨fun outer inner => absurd inner (Nat.not_lt_zero outer), rfl, nofun, rfl⟩).act ((), 0) .lockState () rfl
    ⟨trivial, rfl, _, ⟨rfl, rfl⟩, rfl⟩).act ((), 0) (.lifecycle (.engine (.payload 1))) (Except.ok 0 : Except HostError Nat) rfl
    ⟨bottom, rfl, _, ⟨_, ⟨rfl, rfl⟩, rfl⟩, rfl⟩).act ((), 0) .unlockState () rfl ⟨trivial, rfl, _, rfl, rfl⟩).act ((), 0)
    (.lifecycle (.engine (.lockPayload 0))) (⟨7, 9, Lifecycle.completeTable, .enabled⟩ : EmbeddedPayload) rfl
    ⟨trivial, rfl, _, ⟨_, ⟨rfl, rfl, rfl⟩, rfl⟩, rfl⟩).act ((), 0) (.lifecycle (.enter 0 (.invoke "echo" [] 3))) () rfl
    ⟨trivial, rfl, _, ⟨_, rfl, rfl⟩, rfl⟩
  exact ⟨_, invoked, rfl, rfl, rfl, rfl, rfl, rfl, rfl, rfl⟩

/-- The plugin disables the second payload from inside of the call, and its operation gets the lock. -/
theorem never_blocked_nested : ∃ c : FramesConfig Unit, ¬Blocked c ((), 1) ∧
    c.state.engines.holder 0 = some ((), 0) ∧ c.state.engines.holder 1 = some ((), 1) := by
  obtain ⟨c, run, idle, depth, inside, unlocked, -, holder, found, free⟩ := invoking
  have clear : c.state.Clear ((), 1) := by
    intro outer inner
    obtain rfl : outer = 0 := by omega
    rw [inside]
    nofun
  have nested := ((((run.start ((), 1) (.disablePayload 2) idle ⟨clear, depth, ?_, rfl⟩).act ((), 1) .lockState () rfl
    ⟨trivial, rfl, _, ⟨unlocked, rfl⟩, rfl⟩).act ((), 1) (.lifecycle (.engine (.payload 2)))
    (Except.ok 1 : Except HostError Nat) rfl ⟨?_, rfl, _, ⟨_, ⟨found.symm, rfl⟩, rfl⟩, rfl⟩).act ((), 1) .unlockState () rfl
    ⟨trivial, rfl, _, rfl, rfl⟩).act ((), 1) (.lifecycle (.engine (.lockPayload 1))) _ rfl
    ⟨trivial, rfl, _, ⟨_, ⟨free, rfl, rfl⟩, rfl⟩, rfl⟩
  · refine ⟨_, never_blocked ⟨_, rfl, nested⟩ ((), 1), ?_, ?_⟩
    · exact holder
    · rfl
  · rintro outer ⟨⟩
    rw [inside]
    nofun
  · intro outer inner
    rw [show _ = none from free]
    nofun

/-- The plugin disables its own payload from inside of the call, and its operation waits for a lock that its own thread
never gives back before the operation has returned. -/
theorem blocked_on_itself : ∃ c : FramesConfig Unit, (system Unit).Reachable (· = {}) c ∧ Blocked c ((), 1) := by
  obtain ⟨c, run, idle, depth, inside, unlocked, found, holder, -⟩ := invoking
  have nested := (((run.of_confine.start ((), 1) (.disablePayload 1) idle ⟨depth, ?_, rfl⟩).act ((), 1) .lockState () rfl
    ⟨rfl, _, ⟨unlocked, rfl⟩, rfl⟩).act ((), 1) (.lifecycle (.engine (.payload 1)))
    (Except.ok 0 : Except HostError Nat) rfl ⟨rfl, _, ⟨_, ⟨found.symm, rfl⟩, rfl⟩, rfl⟩).act ((), 1) .unlockState () rfl
    ⟨rfl, _, rfl, rfl⟩
  · exact ⟨_, ⟨_, rfl, nested⟩, _, .lifecycle (.engine (.lockPayload 0)), _, rfl, 0, Nat.one_pos, holder⟩
  · rintro outer ⟨⟩
    rw [inside]
    nofun

/-- A library that is queried has the payload of an earlier load enabled, and that waits for the lock under which the library
is queried. -/
theorem blocked_while_loading : ∃ c : FramesConfig Unit, (system Unit).Reachable (· = {}) c ∧ Blocked c ((), 1) := by
  have fresh : ((system Unit).confine Opens Distinct).Run (⟨{}, fun _ => .idle⟩ : FramesConfig Unit) ⟨{}, fun _ => .idle⟩ :=
    .refl
  obtain ⟨⟨_, _, _, _, _⟩, first, depth, rfl, rfl⟩ := run_load 7 9 fresh rfl rfl rfl (by decide) rfl rfl rfl
  have queried := ((((first.of_confine.start ((), 0) (.loadPayload "root" "entry" 8 10) rfl ⟨depth, nofun, rfl⟩).act ((), 0)
    (.lifecycle (.engine (.resolveEntrypoint "root" "entry"))) (Except.ok "library" : Except HostError String) rfl
    ⟨rfl, _, ⟨_, ⟨trivial, rfl⟩, rfl⟩, rfl⟩).act ((), 0) .lockState () rfl ⟨rfl, _, ⟨rfl, rfl⟩, rfl⟩).act ((), 0) .closed false rfl
    ⟨rfl, _, ⟨rfl, rfl⟩, rfl⟩).act ((), 0) .enterLibrary () rfl ⟨rfl, _, rfl, rfl⟩
  have nested := queried.start ((), 1) (.enablePayload 1) rfl ⟨rfl, by rintro outer ⟨⟩; nofun, rfl⟩
  exact ⟨_, ⟨_, rfl, nested⟩, _, .lockState, _, rfl, 0, Nat.one_pos, rfl⟩

end Runs

end Frames

end RuntimeHost.Native
