import RuntimeHost.Foundation.History
import RuntimeHost.Sdk.HostState

namespace RuntimeHost.Sdk

open Foundation Function System

variable {Tid : Type} [DecidableEq Tid]

def leasesOf (t : Tid) (history : List (HostEvent Tid)) : Int :=
  history.count (.admitted t) - history.count (.released t)

def callbacksOf (t : Tid) (history : List (HostEvent Tid)) : Int :=
  history.count (.entered t) - history.count (.left t)

def isAdmitted : HostEvent Tid → Bool
  | .admitted _ => true
  | _ => false

def isReleased : HostEvent Tid → Bool
  | .released _ => true
  | _ => false

def leases (history : List (HostEvent Tid)) : Int := history.countP isAdmitted - history.countP isReleased

def HostEvent.Permitted (earlier : List (HostEvent Tid)) : HostEvent Tid → Prop
  | .admitted _ => ∀ t, .deactivated t ∉ earlier
  | .refused t => leasesOf t earlier = 0
  | .exhausted _ => leases earlier = usizeMax
  | .entered _ => ∀ t, .deactivated t ∉ earlier
  | .underflow _ => False
  | _ => True

structure HostLocal where
  leases : Nat := 0
  depth : Nat := 0
  callbacks : Nat := 0
  closing : Bool := false

structure Hosts.Inv (s : Hosts Tid) (L : Tid → HostLocal) : Prop where
  held : ∃ held : List Tid, s.admission.inFlight = held.length ∧ ∀ t, held.count t = (L t).leases
  depth : ∀ t, s.depth t = if (L t).depth = 0 then none else some (L t).depth
  nested : ∀ t, (L t).depth ≤ (L t).leases
  callbacks : ∀ t, (L t).callbacks ≤ (L t).depth
  leases : leases s.history = s.admission.inFlight
  leasesOf : ∀ t, leasesOf t s.history = (L t).leases
  callbacksOf : ∀ t, callbacksOf t s.history = (L t).callbacks
  deactivated : ∀ t, .deactivated t ∈ s.history → s.admission.active = false ∧ s.admission.inFlight = 0
  closing : ∀ t, (L t).closing = true → s.admission.active = false
  legal : Legal HostEvent.Permitted s.history

namespace Hosts

variable {s : Hosts Tid} {L : Tid → HostLocal} {t : Tid} {l : HostLocal}

theorem Inv.inFlight_pos (inv : s.Inv L) (leased : 0 < (L t).leases) : 0 < s.admission.inFlight := by
  obtain ⟨held, total, each⟩ := inv.held
  rw [total, List.length_pos_iff_exists_mem]
  exact ⟨t, List.count_pos_iff.mp (by rw [each]; exact leased)⟩

def Neutral : HostEvent Tid → Prop
  | .refused _ => True
  | .exhausted _ => True
  | _ => False

theorem inv_log {event : HostEvent Tid} (inv : s.Inv L) (permitted : event.Permitted s.history)
    (neutral : Neutral event) : Inv (s.log event) L := by
  have ⟨held, depth, nested, callbacks, total, leased, running, deactivated, closing, legal⟩ := inv
  refine { inv with leases := ?_, leasesOf := ?_, callbacksOf := ?_, deactivated := ?_,
                    legal := legal_cons legal permitted }
  all_goals simp only [log, RuntimeHost.Sdk.leases, RuntimeHost.Sdk.leasesOf, RuntimeHost.Sdk.callbacksOf,
    List.count_cons, List.countP_cons] at *
  all_goals cases event <;> simp only [Neutral] at neutral <;> grind [isAdmitted, isReleased]

theorem keeps_containsKey : system.Keeps Inv t .containsKey l fun (nested : Bool) l' =>
    nested = decide (0 < l.depth) ∧ l' = l := by
  rintro s L inv rfl nested s' ⟨rfl, rfl⟩
  refine ⟨L t, ⟨?_, rfl⟩, by rwa [update_eq_self]⟩
  rw [inv.depth t]
  split <;> simp <;> omega

theorem keeps_takeLease {nested : Bool} (known : nested = decide (0 < l.depth)) (balanced : l.depth = l.leases) :
    system.Keeps Inv t (.takeLease nested) l fun (admitted : Except Error Unit) l' =>
      match admitted with
      | .error _ => l' = l
      | .ok () => l' = { l with leases := l.leases + 1 } := by
  rintro s L inv rfl admitted s' answered
  simp only [system, exec] at answered
  split at answered
  · rename_i admission accepted
    obtain ⟨rfl, rfl⟩ := answered
    obtain ⟨way, rfl⟩ := HostAdmission.lease_eq_ok accepted
    refine ⟨_, rfl, ?_⟩
    -- a nested lease is counted already, so nothing has been deactivated
    have open' : ∀ t', .deactivated t' ∉ s.history := by
      intro t' closed
      have ⟨inactive, quiet⟩ := inv.deactivated t' closed
      rcases way with active | inside
      · rw [active] at inactive
        cases inactive
      · have := inv.inFlight_pos (t := t) (by rw [known] at inside; simp at inside; omega)
        omega
    have ⟨held, depth, nested, callbacks, total, leased, running, deactivated, closing, legal⟩ := inv
    refine { inv with held := ?held, nested := ?nested, callbacks := ?callbacks, depth := ?depth, leases := ?leases,
                      leasesOf := ?leasesOf, callbacksOf := ?callbacksOf, deactivated := ?deactivated, closing := ?closing,
                      legal := ?legal }
    case held =>
      obtain ⟨threads, length, each⟩ := held
      exact ⟨t :: threads, by simp [log, length], by grind⟩
    case legal => exact legal_cons legal open'
    all_goals simp only [log, RuntimeHost.Sdk.leases, RuntimeHost.Sdk.leasesOf, RuntimeHost.Sdk.callbacksOf,
      List.count_cons, List.countP_cons, isAdmitted, isReleased] at *
    all_goals grind
  · rename_i error rejected
    obtain ⟨rfl, rfl⟩ := answered
    refine ⟨L t, rfl, ?_⟩
    rw [update_eq_self]
    split
    · rename_i closed
      -- only a thread without a lease is turned away
      have outside : (L t).leases = 0 := by
        simp only [Bool.and_eq_true, Bool.not_eq_true', known, decide_eq_false_iff_not] at closed
        omega
      have permitted : HostEvent.Permitted s.history (.refused t) := by
        simp [HostEvent.Permitted, inv.leasesOf t, outside]
      exact inv_log inv permitted trivial
    · rename_i open'
      have full : s.admission.inFlight = usizeMax := by
        unfold HostAdmission.lease at rejected
        simp only [open', Bool.false_eq_true, if_false] at rejected
        split at rejected
        · assumption
        · cases rejected
      exact inv_log inv (inv.leases.trans (by rw [full])) trivial

theorem keeps_deepen (behind : l.depth < l.leases) :
    system.Keeps Inv t .deepen l fun _ l' => l' = { l with depth := l.depth + 1 } := by
  rintro s L inv rfl _ s' rfl
  have ⟨held, depth, nested, callbacks, total, leased, running, deactivated, closing, legal⟩ := inv
  refine ⟨_, rfl, { inv with held := ?_, depth := ?_, nested := ?_, callbacks := ?_, leasesOf := ?_,
                             callbacksOf := ?_, closing := ?_ }⟩
  all_goals grind

theorem keeps_surface (idle : l.callbacks < l.depth) :
    system.Keeps Inv t .surface l fun _ l' => l' = { l with depth := l.depth - 1 } := by
  rintro s L inv rfl _ s' surfaced
  obtain ⟨d, shape⟩ : ∃ d, (L t).depth = d + 1 := ⟨(L t).depth - 1, by omega⟩
  simp [system, exec, inv.depth t, shape] at surfaced
  subst surfaced
  have ⟨held, depth, nested, callbacks, total, leased, running, deactivated, closing, legal⟩ := inv
  refine ⟨_, rfl, { inv with held := ?_, depth := ?_, nested := ?_, callbacks := ?_, leasesOf := ?_,
                             callbacksOf := ?_, closing := ?_ }⟩
  all_goals grind

theorem keeps_release (surfaced : l.depth < l.leases) :
    system.Keeps Inv t .release l fun _ l' => l' = { l with leases := l.leases - 1 } := by
  rintro s L inv rfl _ s' released
  have counted := inv.inFlight_pos (t := t) (Nat.zero_lt_of_lt surfaced)
  have ⟨held, depth, nested, callbacks, total, leased, running, deactivated, closing, legal⟩ := inv
  refine ⟨_, rfl, ?_⟩
  simp only [system, exec] at released
  split at released
  · rename_i inFlight shape
    subst released
    refine { inv with held := ?held, nested := ?nested, callbacks := ?callbacks, depth := ?depth, leases := ?leases,
                      leasesOf := ?leasesOf, callbacksOf := ?callbacksOf, deactivated := ?deactivated, closing := ?closing,
                      legal := legal_cons legal trivial }
    case held =>
      obtain ⟨threads, length, each⟩ := held
      have present : t ∈ threads := List.count_pos_iff.mp (by rw [each]; omega)
      refine ⟨threads.erase t, ?_, ?_⟩
      · simp only [log, List.length_erase_of_mem present]
        omega
      · intro t'
        rw [List.count_erase]
        grind
    all_goals simp only [log, RuntimeHost.Sdk.leases, RuntimeHost.Sdk.leasesOf, RuntimeHost.Sdk.callbacksOf,
      List.count_cons, List.countP_cons, isAdmitted, isReleased] at *
    all_goals grind
  · omega

theorem keeps_setInactive (open' : l.closing = false) : system.Keeps Inv t .setInactive l fun (quiet : Bool) l' =>
    l' = { l with closing := !quiet } := by
  rintro s L inv rfl quiet s' ⟨rfl, rfl⟩
  have ⟨held, depth, nested, callbacks, total, leased, running, deactivated, closing, legal⟩ := inv
  refine ⟨_, rfl, ?_⟩
  split
  · refine { inv with held := ?_, depth := ?_, nested := ?_, callbacks := ?_, leases := ?_, leasesOf := ?_,
                      callbacksOf := ?_, deactivated := ?_, closing := ?_, legal := legal_cons legal trivial }
    all_goals simp only [log, RuntimeHost.Sdk.leases, RuntimeHost.Sdk.leasesOf, RuntimeHost.Sdk.callbacksOf,
      List.count_cons, List.countP_cons, isAdmitted, isReleased] at *
    all_goals grind
  · refine { inv with held := ?_, depth := ?_, nested := ?_, callbacks := ?_, leasesOf := ?_, callbacksOf := ?_,
                      deactivated := ?_, closing := ?_ }
    all_goals grind

theorem keeps_awaitQuiesced (began : l.closing = true) :
    system.Keeps Inv t .awaitQuiesced l fun _ l' => l' = { l with closing := false } := by
  rintro s L inv rfl _ s' ⟨quiet, rfl⟩
  have ⟨held, depth, nested, callbacks, total, leased, running, deactivated, closing, legal⟩ := inv
  refine ⟨_, rfl, { inv with held := ?_, depth := ?_, nested := ?_, callbacks := ?_, leases := ?_, leasesOf := ?_,
                             callbacksOf := ?_, deactivated := ?_, closing := ?_, legal := legal_cons legal trivial }⟩
  all_goals simp only [log, RuntimeHost.Sdk.leases, RuntimeHost.Sdk.leasesOf, RuntimeHost.Sdk.callbacksOf,
      List.count_cons, List.countP_cons, isAdmitted, isReleased] at *
  all_goals grind

theorem keeps_enterCallback (idle : l.callbacks < l.depth) :
    system.Keeps Inv t .enterCallback l fun _ l' => l' = { l with callbacks := l.callbacks + 1 } := by
  rintro s L inv rfl _ s' rfl
  have counted := inv.inFlight_pos (t := t) (Nat.lt_of_lt_of_le (Nat.zero_lt_of_lt idle) (inv.nested t))
  have ⟨held, depth, nested, callbacks, total, leased, running, deactivated, closing, legal⟩ := inv
  have open' : ∀ t', .deactivated t' ∉ s.history := by
    intro t' closed
    have := (deactivated t' closed).2
    omega
  refine ⟨_, rfl, { inv with held := ?_, depth := ?_, nested := ?_, callbacks := ?_, leases := ?_, leasesOf := ?_,
                             callbacksOf := ?_, deactivated := ?_, closing := ?_, legal := legal_cons legal open' }⟩
  all_goals simp only [log, RuntimeHost.Sdk.leases, RuntimeHost.Sdk.leasesOf, RuntimeHost.Sdk.callbacksOf,
      List.count_cons, List.countP_cons, isAdmitted, isReleased] at *
  all_goals grind

theorem keeps_leaveCallback (running : 0 < l.callbacks) :
    system.Keeps Inv t .leaveCallback l fun _ l' => l' = { l with callbacks := l.callbacks - 1 } := by
  rintro s L inv rfl _ s' rfl
  have ⟨held, depth, nested, callbacks, total, leased, running, deactivated, closing, legal⟩ := inv
  refine ⟨_, rfl, { inv with held := ?_, depth := ?_, nested := ?_, callbacks := ?_, leases := ?_, leasesOf := ?_,
                             callbacksOf := ?_, deactivated := ?_, closing := ?_, legal := legal_cons legal trivial }⟩
  all_goals simp only [log, RuntimeHost.Sdk.leases, RuntimeHost.Sdk.leasesOf, RuntimeHost.Sdk.callbacksOf,
      List.count_cons, List.countP_cons, isAdmitted, isReleased] at *
  all_goals grind

mutual

theorem safe_activity (activity : HostActivity) {l : HostLocal} (balanced : l.depth = l.leases)
    (nested : l.callbacks ≤ l.depth) (open' : l.closing = false) :
    system.Safe Inv t (fun _ l' => l' = l) activity.code l := by
  cases activity with
  | done => rfl
  | operation body rest =>
    have inside := nested
    refine Keeps.imp keeps_containsKey fun nested l' ⟨known, same⟩ => ?_
    subst same
    refine Keeps.imp (keeps_takeLease known balanced) fun admitted l'' outcome => ?_
    cases admitted with
    | error _ =>
      subst outcome
      exact safe_activity rest balanced inside open'
    | ok _ =>
      subst outcome
      refine Keeps.imp (keeps_deepen (by simp; omega)) fun _ l'' same => ?_
      subst same
      show system.Safe Inv t _ (body.code >>= _) _
      refine .bind (Safe.imp (safe_body body (by simp; omega) (by simp; omega) open') fun _ l'' same => ?_)
      subst same
      refine Keeps.imp (keeps_surface (by simp; omega)) fun _ l'' same => ?_
      subst same
      refine Keeps.imp (keeps_release (by simp; omega)) fun _ l'' same => ?_
      subst same
      exact safe_activity rest balanced inside open'
  | deactivate rest =>
    refine Keeps.imp (keeps_setInactive open') fun quiet l' same => ?_
    subst same
    have back : ({ l with closing := false } : HostLocal) = l := by rw [← open']
    cases quiet with
    | true =>
      show system.Safe Inv t _ rest.code { l with closing := false }
      rw [back]
      exact safe_activity rest balanced nested open'
    | false =>
      refine Keeps.imp (keeps_awaitQuiesced rfl) fun _ l' same => ?_
      subst same
      show system.Safe Inv t _ rest.code { l with closing := false }
      rw [back]
      exact safe_activity rest balanced nested open'

theorem safe_body (body : LeaseBody) {l : HostLocal} (balanced : l.depth = l.leases)
    (nested : l.callbacks < l.depth) (open' : l.closing = false) :
    system.Safe Inv t (fun _ l' => l' = l) body.code l := by
  cases body with
  | done => rfl
  | callback reentry rest =>
    refine Keeps.imp (keeps_enterCallback nested) fun _ l' same => ?_
    subst same
    show system.Safe Inv t _ (reentry.code >>= _) _
    refine .bind (Safe.imp (safe_activity reentry balanced (by simp; omega) open') fun _ l' same => ?_)
    subst same
    refine Keeps.imp (keeps_leaveCallback (by simp)) fun _ l' same => ?_
    subst same
    exact safe_body rest balanced nested open'

end

def discipline : Discipline system (fun s : Hosts Tid => s = {}) HostLocal where
  inv := Inv
  resting _ l := l = {}
  finished _ _ _ l := l = {}
  init := by
    rintro s rfl
    refine ⟨fun _ => {}, ?_, fun _ => rfl⟩
    constructor
    case held => exact ⟨[], rfl, fun _ => rfl⟩
    case legal => exact legal_nil
    all_goals simp [leases, leasesOf, callbacksOf]
  start := by
    rintro t activity s L s' inv rested rfl
    refine ⟨L t, by rwa [update_eq_self], ?_⟩
    rw [rested]
    exact safe_activity activity rfl (Nat.le_refl _) rfl
  finish := by
    rintro t _ _ s L s' inv rested rfl
    exact ⟨L t, by rwa [update_eq_self], rested⟩
  env := by
    rintro s L s' _ moved
    cases moved

end Hosts

end RuntimeHost.Sdk
