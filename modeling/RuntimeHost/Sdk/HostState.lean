import RuntimeHost.Foundation.Interleaving
import RuntimeHost.Sdk.Error

namespace RuntimeHost.Sdk

open Foundation Function

def usizeMax : Nat := 0xffffffffffffffff

structure HostAdmission where
  active : Bool := true
  inFlight : Nat := 0
  deriving DecidableEq

def hostUnavailable : Error := ⟨.unavailable⟩

def HostAdmission.lease (admission : HostAdmission) (nested : Bool) : Except Error HostAdmission :=
  if !admission.active && !nested then .error hostUnavailable
  else if admission.inFlight = usizeMax then .error hostUnavailable
  else .ok { admission with inFlight := admission.inFlight + 1 }

theorem HostAdmission.lease_eq_ok {admission admission' : HostAdmission} {nested : Bool}
    (admitted : admission.lease nested = .ok admission') :
    (admission.active = true ∨ nested = true) ∧
      admission' = { admission with inFlight := admission.inFlight + 1 } := by
  unfold HostAdmission.lease at admitted
  split at admitted
  · cases admitted
  · rename_i open'
    split at admitted
    · cases admitted
    · cases admitted
      refine ⟨?_, rfl⟩
      cases active : admission.active <;> cases nested <;> simp_all

/-- The steps on the shared admission and on the thread's own depth table. -/
inductive HostOp where
  | containsKey
  | takeLease (nested : Bool)
  | deepen
  | surface
  | release
  | setInactive
  | awaitQuiesced
  | enterCallback
  | leaveCallback

def HostOp.Answer : HostOp → Type
  | .containsKey => Bool
  | .takeLease _ => Except Error Unit
  | .setInactive => Bool
  | _ => Unit

abbrev HostProg := Prog HostOp HostOp.Answer

namespace HostProg

def containsKey : HostProg Bool := .perform HostOp.containsKey
def takeLease (nested : Bool) : HostProg (Except Error Unit) := .perform (HostOp.takeLease nested)
def deepen : HostProg Unit := .perform HostOp.deepen
def surface : HostProg Unit := .perform HostOp.surface
def release : HostProg Unit := .perform HostOp.release
def setInactive : HostProg Bool := .perform HostOp.setInactive
def awaitQuiesced : HostProg Unit := .perform HostOp.awaitQuiesced
def enterCallback : HostProg Unit := .perform HostOp.enterCallback
def leaveCallback : HostProg Unit := .perform HostOp.leaveCallback

end HostProg

open HostProg

def HostState.lease : HostProg (Except Error Unit) := do
  let nested ← containsKey
  match ← takeLease nested with
  | .error error => return .error error
  | .ok () =>
    deepen
    return .ok ()

def HostLease.drop : HostProg Unit := do
  surface
  release

def HostState.deactivate : HostProg Unit := do
  if ← setInactive then return ()
  else awaitQuiesced

mutual

/-- What code holding a context does: operations under a lease, and deactivation. -/
inductive HostActivity where
  | done
  | operation (body : LeaseBody) (rest : HostActivity)
  | deactivate (rest : HostActivity)

/-- The host callbacks made under one lease, each with what the host does on the same thread meanwhile. -/
inductive LeaseBody where
  | done
  | callback (reentry : HostActivity) (rest : LeaseBody)

end

mutual

def HostActivity.code : HostActivity → HostProg Unit
  | .done => return ()
  | .operation body rest => do
    match ← HostState.lease with
    | .error _ => rest.code
    | .ok () =>
      body.code
      HostLease.drop
      rest.code
  | .deactivate rest => do
    HostState.deactivate
    rest.code

def LeaseBody.code : LeaseBody → HostProg Unit
  | .done => return ()
  | .callback reentry rest => do
    enterCallback
    reentry.code
    leaveCallback
    rest.code

end

inductive HostEvent (Tid : Type) where
  | admitted (t : Tid)
  | refused (t : Tid)
  | exhausted (t : Tid)
  | released (t : Tid)
  | underflow (t : Tid)
  | entered (t : Tid)
  | left (t : Tid)
  | deactivated (t : Tid)
  deriving DecidableEq

/-- One host state with the depth that each thread's table records for it. -/
structure Hosts (Tid : Type) where
  admission : HostAdmission := {}
  depth : Tid → Option Nat := fun _ => none
  history : List (HostEvent Tid) := []

namespace Hosts

variable {Tid : Type} [DecidableEq Tid]

def log (s : Hosts Tid) (event : HostEvent Tid) : Hosts Tid := { s with history := event :: s.history }

def exec (t : Tid) : (op : HostOp) → Hosts Tid → op.Answer → Hosts Tid → Prop
  | .containsKey, s, answer, s' => answer = (s.depth t).isSome ∧ s' = s
  | .takeLease nested, s, answer, s' =>
    match s.admission.lease nested with
    | .ok admission => answer = .ok () ∧ s' = { s with admission }.log (.admitted t)
    | .error error =>
      answer = .error error ∧
        s' = s.log (if !s.admission.active && !nested then .refused t else .exhausted t)
  | .deepen, s, _, s' => s' = { s with depth := update s.depth t (some ((s.depth t).getD 0 + 1)) }
  | .surface, s, _, s' =>
    match s.depth t with
    | some (depth + 1) => s' = { s with depth := update s.depth t (if depth = 0 then none else some depth) }
    | _ => s' = s.log (.underflow t)
  | .release, s, _, s' =>
    match s.admission.inFlight with
    | inFlight + 1 => s' = { s with admission := { s.admission with inFlight } }.log (.released t)
    | 0 => s' = s.log (.underflow t)
  | .setInactive, s, answer, s' =>
    answer = decide (s.admission.inFlight = 0) ∧
      s' = if s.admission.inFlight = 0 then
          { s with admission := { s.admission with active := false } }.log (.deactivated t)
        else { s with admission := { s.admission with active := false } }
  | .awaitQuiesced, s, _, s' => s.admission.inFlight = 0 ∧ s' = s.log (.deactivated t)
  | .enterCallback, s, _, s' => s' = s.log (.entered t)
  | .leaveCallback, s, _, s' => s' = s.log (.left t)

def system : System Tid (Hosts Tid) HostOp HostOp.Answer HostActivity Unit where
  code := HostActivity.code
  start _ _ s s' := s' = s
  exec := exec
  finish _ _ _ s s' := s' = s
  env _ _ := False

end Hosts

end RuntimeHost.Sdk
