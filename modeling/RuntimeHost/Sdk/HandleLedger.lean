import RuntimeHost.Sdk.Handle

namespace RuntimeHost.Sdk

open Foundation Function System Abi HandleProg

section Follows

variable {table : HandleCallbacks} {x : Stand}

def Stand.refuse : Stand → Stand
  | .dropping .. => .clear
  | x => x

theorem follows_lease : (onHost HostState.lease).Follows (Stand.typestate table) (fun leased x' => match leased with
    | .ok () => x' = x
    | .error _ => x' = x.refuse) x := by
  refine ⟨trivial, fun (nested : Bool) => ⟨trivial, fun (taken : Except Error Unit) => ?_⟩⟩
  cases taken with
  | error error => cases x <;> rfl
  | ok => exact ⟨trivial, fun _ => rfl⟩

theorem follows_leaseDrop : (onHost HostLease.drop).Follows (Stand.typestate table) (fun _ x' => x' = x) x :=
  ⟨trivial, fun _ => ⟨trivial, fun _ => rfl⟩⟩

theorem follows_ensureReleaseHandle : (PluginContext.ensureReleaseHandle table).Follows (Stand.typestate table)
    (fun ensured x => x = .clear ∧ (ensured = .ok () → table.releaseHandle = true)) .clear := by
  refine .bind (Prog.Follows.imp follows_lease fun leased x same => ?_)
  cases leased with
  | error error => exact ⟨same, nofun⟩
  | ok =>
    subst same
    refine .bind (Prog.Follows.imp follows_leaseDrop fun _ x same => ⟨same, fun ensured => ?_⟩)
    by_cases present : table.releaseHandle = true
    · exact present
    · rw [if_neg present] at ensured
      cases ensured

theorem follows_ensureHandleCallbacks : (PluginContext.ensureHandleCallbacks table).Follows (Stand.typestate table)
    (fun ensured x => x = .clear ∧ (ensured = .ok () → table.releaseHandle = true)) .clear := by
  refine .bind (Prog.Follows.imp follows_lease fun leased x same => ?_)
  cases leased with
  | error error => exact ⟨same, nofun⟩
  | ok =>
    subst same
    refine .bind (Prog.Follows.imp follows_leaseDrop fun _ x same => ⟨same, fun ensured => ?_⟩)
    by_cases missing : (!table.retainHandle || !table.releaseHandle) = true
    · rw [if_pos missing] at ensured
      cases ensured
    · simp only [Bool.or_eq_true, Bool.not_eq_true', not_or, Bool.not_eq_false] at missing
      exact missing.2

theorem follows_retainHandle (handle : HmclHandleId) : (PluginContext.retainHandle table handle).Follows
    (Stand.typestate table) (fun retained x => match retained with
      | .ok () => x = .retained handle
      | .error _ => x = .clear) .clear := by
  refine .bind (Prog.Follows.imp follows_lease fun leased x same => ?_)
  cases leased with
  | error error => exact same
  | ok =>
    subst same
    dsimp only
    split
    · exact .bind (Prog.Follows.imp follows_leaseDrop fun _ x same => same)
    · refine ⟨rfl, fun _ => ⟨rfl, fun (status : HmclStatus) => ?_⟩⟩
      show Prog.Follows _ _ (onHost HostLease.drop >>= _) _
      refine .bind (Prog.Follows.imp follows_leaseDrop fun _ x same => ?_)
      unfold retainStatus
      simp only [Stand.typestate, Stand.next] at same
      split
      · rename_i ok
        rw [if_pos ok] at same
        exact same
      · rename_i failed
        rw [if_neg failed] at same
        exact same

theorem follows_releaseHandleForDrop (key : Nat) (handle : HmclHandleId) :
    (PluginContext.releaseHandleForDrop table key handle).Follows (Stand.typestate table)
      (fun failed x => if failed then (Stand.typestate table).allows x .recordCleanupFailure else x = .clear)
      (.dropping key handle) := by
  refine .bind (Prog.Follows.imp follows_lease fun leased x same => ?_)
  cases leased with
  | error error => exact same
  | ok =>
    subst same
    dsimp only
    split
    · rename_i missing
      refine .bind (Prog.Follows.imp follows_leaseDrop fun _ x same => ?_)
      exact .inr ⟨by simpa using missing, key, handle, same⟩
    · refine ⟨rfl, fun _ => ⟨rfl, fun (status : HmclStatus) => ?_⟩⟩
      show Prog.Follows _ _ (onHost HostLease.drop >>= _) _
      refine .bind (Prog.Follows.imp follows_leaseDrop fun _ x same => ?_)
      simp only [Stand.typestate, Stand.next] at same
      show if !status.isOk then _ else _
      cases ok : status.isOk with
      | true =>
        rw [ok] at same
        exact same
      | false =>
        rw [ok] at same
        exact .inl same

theorem follows_fromOwned (typeName : String) (value : HandleValue) :
    (ObjectHandle.fromOwned table typeName value).Follows (Stand.typestate table) (fun _ x => x = .clear) .clear := by
  refine .bind (Prog.Follows.imp follows_ensureReleaseHandle fun ensured x ⟨same, present⟩ => ?_)
  subst same
  cases ensured with
  | error error => rfl
  | ok =>
    dsimp only
    split
    · rfl
    · exact ⟨⟨rfl, present rfl⟩, fun _ => rfl⟩

theorem follows_fromBorrowed (typeName : String) (value : HandleValue) :
    (ObjectHandle.fromBorrowed table typeName value).Follows (Stand.typestate table) (fun _ x => x = .clear) .clear := by
  refine .bind (Prog.Follows.imp follows_ensureHandleCallbacks fun ensured x ⟨same, present⟩ => ?_)
  subst same
  cases ensured with
  | error error => rfl
  | ok =>
    dsimp only
    split
    · rfl
    · refine .bind (Prog.Follows.imp (follows_retainHandle value.id) fun retained x same => ?_)
      cases retained with
      | error error => exact same
      | ok =>
        subst same
        exact ⟨⟨rfl, present rfl⟩, fun _ => rfl⟩

theorem follows_drop (handle : ObjectHandle) : (handle.drop table).Follows (Stand.typestate table)
    (fun _ x => x = .clear) (.dropping handle.key handle.value.id) := by
  refine .bind (Prog.Follows.imp (follows_releaseHandleForDrop ..) fun failed x outcome => ?_)
  cases failed with
  | false => exact outcome
  | true => exact ⟨outcome, fun _ => rfl⟩

def HandleTask.stand : HandleTask → Stand
  | .drop handle => .dropping handle.key handle.value.id
  | _ => .clear

theorem follows_task (task : HandleTask) :
    (task.code table).Follows (Stand.typestate table) (fun _ x => x = .clear) task.stand := by
  cases task with
  | fromOwned typeName value => exact .bind (follows_fromOwned typeName value)
  | fromBorrowed typeName value => exact .bind (follows_fromBorrowed typeName value)
  | tryClone handle => exact .bind (follows_fromBorrowed handle.typeName handle.value)
  | drop handle => exact .bind (follows_drop handle)
  | deactivate =>
    refine ⟨trivial, fun (idle : Bool) => ?_⟩
    cases idle with
    | true => rfl
    | false => exact ⟨trivial, fun _ => rfl⟩

end Follows

theorem Stand.host_cases (x : Stand) (op : HostOp) (answer : op.Answer) :
    (Handles.refusal x (.host op) answer = [] ∧ x.next (.host op) answer = x) ∨
      ∃ key handle nested error, x = .dropping key handle ∧ (⟨op, answer⟩ : (op : HostOp) × op.Answer) =
        ⟨.takeLease nested, .error error⟩ ∧ Handles.refusal x (.host op) answer = [.refused key handle] ∧
          x.next (.host op) answer = .clear := by
  cases op with
  | takeLease nested =>
    cases answer with
    | error error =>
      cases x with
      | dropping key handle => exact .inr ⟨key, handle, nested, error, rfl, rfl, rfl, rfl⟩
      | _ => exact .inl ⟨rfl, rfl⟩
    | ok => cases x <;> exact .inl ⟨rfl, rfl⟩
  | _ => cases x <;> exact .inl ⟨rfl, rfl⟩

theorem Ledger.settles {Thread : Type} {s : Handles Thread} (ledger : Ledger s) (clear : ∀ t, s.stands t = .clear) :
    Settles s := by
  refine ⟨fun handle => ?_, ?_⟩
  · obtain ⟨n, census, balance⟩ := ledger.balance handle
    have none := census.eq_zero fun t => by simp [clear t, Stand.carries]
    subst none
    exact balance
  · obtain ⟨recorded, n, census, counter, failures⟩ := ledger.failures
    have none := census.eq_zero fun t => by simp [clear t]
    subst none
    rw [counter, failures, Nat.add_zero]

section Steps

variable {Thread : Type} [DecidableEq Thread] {table : HandleCallbacks} {s s' : Handles Thread} {t : Thread × Nat}

theorem Ledger.move (ledger : Ledger s) {y : Stand} (stands : s'.stands = update s.stands t y)
    (balance : ∀ handle, s'.events.countP (HandleEvent.adopts handle) + s'.events.countP (HandleEvent.retains handle) +
        (s.live.countP (ObjectHandle.refersTo handle) + (if (s.stands t).carries = some handle then 1 else 0) +
          s.events.countP (HandleEvent.releases handle) + s.events.countP (HandleEvent.refuses handle)) =
      s.events.countP (HandleEvent.adopts handle) + s.events.countP (HandleEvent.retains handle) +
        (s'.live.countP (ObjectHandle.refersTo handle) + (if y.carries = some handle then 1 else 0) +
          s'.events.countP (HandleEvent.releases handle) + s'.events.countP (HandleEvent.refuses handle)))
    (failures : ∃ more, s'.cleanupFailures = s.cleanupFailures + UInt64.ofNat more ∧
      s'.events.countP HandleEvent.fails + (if s.stands t = .owing then 1 else 0) =
        s.events.countP HandleEvent.fails + more + if y = .owing then 1 else 0) : Ledger s' := by
  refine ⟨fun handle => ?_, ?_⟩
  · obtain ⟨n, census, balanced⟩ := ledger.balance handle
    obtain ⟨m, moved, difference⟩ := census.move (P := fun x => Stand.carries x = some handle) t y
    refine ⟨m, by rw [stands]; exact moved, ?_⟩
    have := balance handle
    omega
  · obtain ⟨recorded, n, census, counter, failed⟩ := ledger.failures
    obtain ⟨m, moved, difference⟩ := census.move (P := fun x => x = Stand.owing) t y
    obtain ⟨more, counted, kept⟩ := failures
    refine ⟨recorded + more, m, by rw [stands]; exact moved, ?_, by omega⟩
    rw [counted, counter, UInt64.ofNat_add]

omit [DecidableEq Thread] in
theorem Ledger.initial : Ledger ({} : Handles Thread) :=
  ⟨fun _ => ⟨0, .of_none fun _ => by simp [Stand.carries], rfl⟩, 0, 0, .of_none fun _ => by simp, rfl, rfl⟩

theorem Ledger.exec (ledger : Ledger s) {op : HandleOp} {answer : op.Answer} (allowed : (s.stands t).allows table op)
    (impossible : table.releaseHandle = false → ∀ key handle, s.stands t ≠ .dropping key handle)
    (answered : (Handles.system Thread table).exec t op s answer s') : Ledger s' := by
  obtain ⟨-, core, stepped, rfl⟩ := answered
  cases op with
  | host op =>
    obtain ⟨hosts, -, rfl⟩ := stepped
    rcases Stand.host_cases (s.stands t) op answer with ⟨nothing, same⟩ | ⟨key, handle, _, _, dropping, -, refused, clear⟩
    · refine ledger.move rfl (fun handle => ?_) ⟨0, by simp, ?_⟩
      · simp [nothing, same]
      · simp [nothing, same]
    · rw [dropping] at refused clear
      refine ledger.move rfl (fun handle' => ?_) ⟨0, by simp, ?_⟩
      · simp [HandleEvent.adopts, HandleEvent.retains, HandleEvent.releases, HandleEvent.refuses, Stand.carries,
          List.countP_cons, refused, clear, dropping]
        omega
      · simp [HandleEvent.fails, refused, clear, dropping]
  | enterRetain handle =>
    cases stepped
    exact ledger.move rfl (fun _ => rfl) ⟨0, by simp, rfl⟩
  | leaveRetain handle =>
    cases stepped
    have clear : s.stands t = .clear := allowed
    cases ok : HmclStatus.isOk answer with
    | true =>
      refine ledger.move rfl (fun handle' => ?_) ⟨0, by simp, ?_⟩
      · simp [HandleEvent.adopts, HandleEvent.retains, HandleEvent.releases, HandleEvent.refuses, Stand.carries, Stand.next,
          List.countP_cons, clear, ok]
        omega
      · simp [HandleEvent.fails, Stand.next, clear, ok]
    | false =>
      refine ledger.move rfl (fun handle' => ?_) ⟨0, by simp, ?_⟩
      · simp [HandleEvent.adopts, HandleEvent.retains, HandleEvent.releases, HandleEvent.refuses, Stand.carries, Stand.next,
          clear, ok]
      · simp [HandleEvent.fails, Stand.next, clear, ok]
  | enterRelease key handle =>
    cases stepped
    have dropping : s.stands t = .dropping key handle := allowed
    refine ledger.move rfl (fun handle' => ?_) ⟨0, by simp, ?_⟩
    · simp [HandleEvent.adopts, HandleEvent.retains, HandleEvent.releases, HandleEvent.refuses, Stand.carries, Stand.next,
        List.countP_cons, dropping]
      omega
    · simp [HandleEvent.fails, Stand.next, dropping]
  | leaveRelease key handle =>
    cases stepped
    have releasing : s.stands t = .releasing key handle := allowed
    cases ok : HmclStatus.isOk answer with
    | true =>
      refine ledger.move rfl (fun handle' => ?_) ⟨0, by simp, ?_⟩
      · simp [HandleEvent.adopts, HandleEvent.retains, HandleEvent.releases, HandleEvent.refuses, Stand.carries, Stand.next,
          releasing, ok]
      · simp [HandleEvent.fails, Stand.next, releasing, ok]
    | false =>
      refine ledger.move rfl (fun handle' => ?_) ⟨0, by simp, ?_⟩
      · simp [HandleEvent.adopts, HandleEvent.retains, HandleEvent.releases, HandleEvent.refuses, Stand.carries, Stand.next,
          releasing, ok]
      · simp [HandleEvent.fails, Stand.next, releasing, ok]
  | adopt typeName value =>
    obtain ⟨rfl, rfl⟩ := stepped
    have clear : s.stands t = .clear := allowed.1
    refine ledger.move rfl (fun handle' => ?_) ⟨0, by simp, ?_⟩
    · simp [HandleEvent.adopts, HandleEvent.retains, HandleEvent.releases, HandleEvent.refuses, Stand.carries, Stand.next,
        List.countP_cons, ObjectHandle.refersTo, clear]
      omega
    · simp [HandleEvent.fails, Stand.next, clear]
  | wrap typeName value =>
    obtain ⟨rfl, rfl⟩ := stepped
    have retained : s.stands t = .retained value.id := allowed.1
    refine ledger.move rfl (fun handle' => ?_) ⟨0, by simp, ?_⟩
    · simp [HandleEvent.adopts, HandleEvent.retains, HandleEvent.releases, HandleEvent.refuses, Stand.carries, Stand.next,
        List.countP_cons, ObjectHandle.refersTo, retained]
    · simp [HandleEvent.fails, Stand.next, retained]
  | recordCleanupFailure =>
    cases stepped
    have owing : s.stands t = .owing := by
      rcases allowed with owing | ⟨missing, key, handle, dropping⟩
      · exact owing
      · exact absurd dropping (impossible missing key handle)
    refine ledger.move rfl (fun handle' => ?_) ⟨1, rfl, ?_⟩
    · simp [Stand.carries, Stand.next, owing]
    · simp [Stand.next, owing]

theorem Ledger.start (ledger : Ledger s) {task : HandleTask} (clear : s.stands t = .clear)
    (begun : (Handles.system Thread table).start t task s s') : Ledger s' := by
  cases task with
  | drop handle =>
    obtain ⟨present, rfl⟩ := begun
    refine ledger.move rfl (fun handle' => ?_) ⟨0, by simp, ?_⟩
    · have size := (List.perm_cons_erase present).countP_eq (ObjectHandle.refersTo handle')
      simp [size, List.countP_cons, ObjectHandle.refersTo, Stand.carries, clear]
    · simp [clear]
  | tryClone handle =>
    obtain ⟨-, rfl⟩ := begun
    exact ledger.move rfl (fun handle' => by simp [clear]) ⟨0, by simp, by simp [clear]⟩
  | _ =>
    cases begun
    exact ledger.move rfl (fun handle' => by simp [clear]) ⟨0, by simp, by simp [clear]⟩

end Steps

/-- Every wrapper is made once; then it is live, or its drop is under way, or its reference has been released. -/
structure Keys {Thread : Type} (table : HandleCallbacks) (s : Handles Thread) : Prop where
  made : ((s.events.filterMap HandleEvent.made).map Prod.fst).Nodup
  below : ∀ made ∈ s.events.filterMap HandleEvent.made, made.1 < s.wrappers
  live : (s.live.map ObjectHandle.key).Nodup
  known : ∀ wrapper ∈ s.live, (wrapper.key, wrapper.value.id) ∈ s.events.filterMap HandleEvent.made
  dropping : ∀ t key handle, s.stands t = .dropping key handle → (key, handle) ∈ s.events.filterMap HandleEvent.made ∧
    (∀ wrapper ∈ s.live, wrapper.key ≠ key) ∧ key ∉ (s.events.filterMap HandleEvent.dropped).map Prod.fst
  alone : ∀ t t' key handle handle', s.stands t = .dropping key handle → s.stands t' = .dropping key handle' → t = t'
  released : ∀ dropped ∈ s.events.filterMap HandleEvent.dropped, dropped ∈ s.events.filterMap HandleEvent.made ∧
    ∀ wrapper ∈ s.live, wrapper.key ≠ dropped.1
  once : ((s.events.filterMap HandleEvent.dropped).map Prod.fst).Nodup
  present : table.releaseHandle = false → s.live = [] ∧ ∀ t key handle, s.stands t ≠ .dropping key handle

section Keys

variable {Thread : Type} [DecidableEq Thread] {table : HandleCallbacks} {s s' : Handles Thread} {t : Thread × Nat}

omit [DecidableEq Thread] in
theorem Keys.initial : Keys table ({} : Handles Thread) := by
  constructor <;> simp

theorem Keys.frame (keys : Keys table s) {y : Stand} (live : s'.live = s.live) (wrappers : s'.wrappers = s.wrappers)
    (made : s'.events.filterMap HandleEvent.made = s.events.filterMap HandleEvent.made)
    (dropped : s'.events.filterMap HandleEvent.dropped = s.events.filterMap HandleEvent.dropped)
    (stands : s'.stands = update s.stands t y) (kept : ∀ key handle, y = .dropping key handle → s.stands t = y) :
    Keys table s' := by
  have old : ∀ t' key handle, s'.stands t' = .dropping key handle → s.stands t' = .dropping key handle := by
    intro t' key handle
    rw [stands, update_apply]
    split
    · rename_i same
      rintro rfl
      rw [same, kept key handle rfl]
    · exact id
  have ⟨_, below, _, known, dropping, alone, released, _, present⟩ := keys
  refine ⟨?_, ?_, ?_, ?_, fun t' key handle here => ?_, fun t' t'' key handle handle' here there =>
    alone t' t'' key handle handle' (old _ _ _ here) (old _ _ _ there), ?_, ?_, fun missing => ?_⟩
  · rw [made]
    exact keys.made
  · rw [made, wrappers]
    exact below
  · rw [live]
    exact keys.live
  · rw [live, made]
    exact known
  · rw [made, live, dropped]
    exact dropping t' key handle (old _ _ _ here)
  · rw [made, live, dropped]
    exact released
  · rw [dropped]
    exact keys.once
  · rw [live]
    exact ⟨(present missing).1, fun t' key handle here => (present missing).2 t' key handle (old _ _ _ here)⟩

theorem Keys.others {y : Stand} (stands : s'.stands = update s.stands t y) (clear : ∀ key handle, y ≠ .dropping key handle)
    {t' : Thread × Nat} {key : Nat} {handle : HmclHandleId} (dropping : s'.stands t' = .dropping key handle) :
    t' ≠ t ∧ s.stands t' = .dropping key handle := by
  rw [stands, update_apply] at dropping
  split at dropping
  · exact absurd dropping (clear key handle)
  · rename_i other
    exact ⟨other, dropping⟩

theorem Keys.make (keys : Keys table s) {typeName : String} {value : HandleValue} {event : HandleEvent} {y : Stand}
    (able : table.releaseHandle = true) (live : s'.live = ⟨s.wrappers, typeName, value⟩ :: s.live)
    (wrappers : s'.wrappers = s.wrappers + 1) (events : s'.events = event :: s.events)
    (made : event.made = some (s.wrappers, value.id)) (dropped : event.dropped = none)
    (stands : s'.stands = update s.stands t y) (clear : ∀ key handle, y ≠ .dropping key handle) : Keys table s' := by
  have makes : s'.events.filterMap HandleEvent.made = (s.wrappers, value.id) :: s.events.filterMap HandleEvent.made := by
    rw [events, List.filterMap_cons, made]
  have drops : s'.events.filterMap HandleEvent.dropped = s.events.filterMap HandleEvent.dropped := by
    rw [events, List.filterMap_cons, dropped]
  have fresh : ∀ made ∈ s.events.filterMap HandleEvent.made, s.wrappers ≠ made.1 := fun made present =>
    (keys.below made present).ne'
  refine ⟨?_, ?_, ?_, ?_, fun t' key handle dropping => ?_, fun t' t'' key handle handle' here there => ?_,
    fun released present => ?_, ?_, fun missing => ?_⟩
  · rw [makes, List.map_cons, List.nodup_cons]
    refine ⟨fun present => ?_, keys.made⟩
    obtain ⟨made, old, same⟩ := List.mem_map.mp present
    exact fresh made old same.symm
  · rw [makes, wrappers]
    exact List.forall_mem_cons.mpr ⟨Nat.lt_succ_self _, fun made old => (keys.below made old).trans (Nat.lt_succ_self _)⟩
  · rw [live, List.map_cons, List.nodup_cons]
    refine ⟨fun present => ?_, keys.live⟩
    obtain ⟨wrapper, old, same⟩ := List.mem_map.mp present
    exact fresh _ (keys.known wrapper old) same.symm
  · rw [live, makes]
    exact List.forall_mem_cons.mpr ⟨List.mem_cons_self, fun wrapper old => List.mem_cons_of_mem _ (keys.known wrapper old)⟩
  · obtain ⟨known, apart, unreleased⟩ := keys.dropping t' key handle (Keys.others stands clear dropping).2
    rw [makes, live, drops]
    exact ⟨List.mem_cons_of_mem _ known, List.forall_mem_cons.mpr ⟨fresh _ known, apart⟩, unreleased⟩
  · exact keys.alone t' t'' key handle handle' (Keys.others stands clear here).2 (Keys.others stands clear there).2
  · rw [drops] at present
    obtain ⟨known, apart⟩ := keys.released released present
    rw [makes, live]
    exact ⟨List.mem_cons_of_mem _ known, List.forall_mem_cons.mpr ⟨fresh _ known, apart⟩⟩
  · rw [drops]
    exact keys.once
  · rw [able] at missing
    cases missing

theorem Keys.release (keys : Keys table s) {key : Nat} {handle : HmclHandleId} {y : Stand}
    (dropping : s.stands t = .dropping key handle) (live : s'.live = s.live) (wrappers : s'.wrappers = s.wrappers)
    (events : s'.events = .released key handle :: s.events) (stands : s'.stands = update s.stands t y)
    (clear : ∀ key handle, y ≠ .dropping key handle) : Keys table s' := by
  have makes : s'.events.filterMap HandleEvent.made = s.events.filterMap HandleEvent.made := by
    rw [events]
    rfl
  have drops : s'.events.filterMap HandleEvent.dropped = (key, handle) :: s.events.filterMap HandleEvent.dropped := by
    rw [events]
    rfl
  obtain ⟨known, apart, unreleased⟩ := keys.dropping t key handle dropping
  refine ⟨?_, ?_, ?_, ?_, fun t' key' handle' dropping' => ?_, fun t' t'' key handle handle' here there => ?_, ?_, ?_,
    fun missing => ?_⟩
  · rw [makes]
    exact keys.made
  · rw [makes, wrappers]
    exact keys.below
  · rw [live]
    exact keys.live
  · rw [live, makes]
    exact keys.known
  · obtain ⟨other, before⟩ := Keys.others stands clear dropping'
    obtain ⟨known', apart', unreleased'⟩ := keys.dropping t' key' handle' before
    rw [makes, live, drops, List.map_cons, List.mem_cons, not_or]
    refine ⟨known', apart', ?_, unreleased'⟩
    rintro rfl
    exact other (keys.alone t' t key' handle' handle before dropping)
  · exact keys.alone t' t'' key handle handle' (Keys.others stands clear here).2 (Keys.others stands clear there).2
  · rw [drops, makes, live]
    exact List.forall_mem_cons.mpr ⟨⟨known, apart⟩, keys.released⟩
  · rw [drops, List.map_cons, List.nodup_cons]
    exact ⟨unreleased, keys.once⟩
  · rw [live]
    exact ⟨(keys.present missing).1, fun t' key' handle' here =>
      (keys.present missing).2 t' key' handle' (Keys.others stands clear here).2⟩

theorem Keys.drop (keys : Keys table s) {wrapper : ObjectHandle} (present : wrapper ∈ s.live) :
    Keys table { s with
      live := s.live.erase wrapper
      stands := update s.stands t (.dropping wrapper.key wrapper.value.id) } := by
  have unique := ((List.perm_cons_erase present).map ObjectHandle.key).nodup_iff.mp keys.live
  rw [List.map_cons, List.nodup_cons] at unique
  have apart : ∀ other ∈ s.live.erase wrapper, other.key ≠ wrapper.key := fun other left same =>
    unique.1 (List.mem_map.mpr ⟨other, left, same⟩)
  have kept : ∀ {other}, other ∈ s.live.erase wrapper → other ∈ s.live := List.mem_of_mem_erase
  have here : ∀ t' key handle, update s.stands t (.dropping wrapper.key wrapper.value.id) t' = .dropping key handle →
      (t' = t ∧ key = wrapper.key ∧ handle = wrapper.value.id) ∨ (t' ≠ t ∧ s.stands t' = .dropping key handle) := by
    intro t' key handle dropping
    rw [update_apply] at dropping
    split at dropping
    · rename_i same
      cases dropping
      exact .inl ⟨same, rfl, rfl⟩
    · rename_i other
      exact .inr ⟨other, dropping⟩
  refine ⟨keys.made, keys.below, unique.2, fun other left => keys.known other (kept left),
    fun t' key handle dropping => ?_, fun t' t'' key handle handle' dropping dropping' => ?_, fun released old => ?_,
    keys.once, fun missing => ?_⟩
  · rcases here t' key handle dropping with ⟨-, rfl, rfl⟩ | ⟨-, before⟩
    · refine ⟨keys.known wrapper present, apart, fun released => ?_⟩
      obtain ⟨released, old, same⟩ := List.mem_map.mp released
      exact (keys.released released old).2 wrapper present same.symm
    · obtain ⟨known, others, unreleased⟩ := keys.dropping t' key handle before
      exact ⟨known, fun other left => others other (kept left), unreleased⟩
  · rcases here t' key handle dropping with ⟨rfl, rfl, -⟩ | ⟨-, before⟩ <;>
      rcases here t'' _ handle' dropping' with ⟨rfl, same, -⟩ | ⟨-, before'⟩
    · rfl
    · exact absurd rfl ((keys.dropping t'' _ handle' before').2.1 wrapper present)
    · exact absurd same.symm ((keys.dropping t' _ handle before).2.1 wrapper present)
    · exact keys.alone t' t'' key handle handle' before before'
  · obtain ⟨known, others⟩ := keys.released released old
    exact ⟨known, fun other left => others other (kept left)⟩
  · have nothing := (keys.present missing).1
    rw [nothing] at present
    cases present

theorem Keys.exec (keys : Keys table s) {op : HandleOp} {answer : op.Answer} (allowed : (s.stands t).allows table op)
    (answered : (Handles.system Thread table).exec t op s answer s') : Keys table s' := by
  obtain ⟨-, core, stepped, rfl⟩ := answered
  cases op with
  | host op =>
    obtain ⟨hosts, -, rfl⟩ := stepped
    rcases Stand.host_cases (s.stands t) op answer with ⟨nothing, same⟩ | ⟨key, handle, _, _, dropping, -, refused, clear⟩
    · exact keys.frame rfl rfl (by simp [nothing]) (by simp [nothing]) rfl fun _ _ _ => same.symm
    · refine keys.frame rfl rfl (by simp only [refused]; rfl) (by simp only [refused]; rfl) rfl ?_
      intro key handle here
      rw [clear] at here
      cases here
  | enterRetain handle =>
    cases stepped
    exact keys.frame rfl rfl rfl rfl rfl fun _ _ _ => rfl
  | leaveRetain handle =>
    cases stepped
    have clear : s.stands t = .clear := allowed
    refine keys.frame rfl rfl rfl rfl rfl fun key handle here => ?_
    simp only [Stand.next, clear] at here
    split at here <;> cases here
  | enterRelease key handle =>
    cases stepped
    exact keys.release allowed rfl rfl rfl rfl nofun
  | leaveRelease key handle =>
    cases stepped
    refine keys.frame rfl rfl rfl rfl rfl fun key handle here => ?_
    simp only [Stand.next] at here
    split at here <;> cases here
  | adopt typeName value =>
    obtain ⟨rfl, rfl⟩ := stepped
    exact keys.make allowed.2 rfl rfl rfl rfl rfl rfl nofun
  | wrap typeName value =>
    obtain ⟨rfl, rfl⟩ := stepped
    exact keys.make allowed.2 rfl rfl rfl rfl rfl rfl nofun
  | recordCleanupFailure =>
    cases stepped
    exact keys.frame rfl rfl rfl rfl rfl nofun

theorem Keys.start (keys : Keys table s) {task : HandleTask} (begun : (Handles.system Thread table).start t task s s') :
    Keys table s' := by
  cases task with
  | drop handle =>
    obtain ⟨present, rfl⟩ := begun
    exact keys.drop present
  | tryClone handle =>
    obtain ⟨-, rfl⟩ := begun
    exact keys.frame rfl rfl rfl rfl rfl nofun
  | _ =>
    cases begun
    exact keys.frame rfl rfl rfl rfl rfl nofun

end Keys

section Acquisitions

variable {Tid State : Type} {table : HandleCallbacks} {events : List (Answered Tid State HandleOp HandleOp.Answer)}

end Acquisitions

namespace Handles

variable {Thread : Type} [DecidableEq Thread] {table : HandleCallbacks}

theorem tracks : (system Thread table).Tracks (Stand.typestate table) Handles.stands (fun _ _ x => x = .clear) .clear where
  start t task s s' begun := by
    refine ⟨task.stand, ?_, follows_task task⟩
    cases task with
    | tryClone handle =>
      obtain ⟨-, rfl⟩ := begun
      rfl
    | drop handle =>
      obtain ⟨-, rfl⟩ := begun
      rfl
    | _ =>
      cases begun
      rfl
  exec t op s answer s' answered := by
    obtain ⟨-, next, -, rfl⟩ := answered
    rfl
  finish t task result s s' ended := by
    cases ended
    rfl
  env s s' moved := moved.elim

structure Sound (table : HandleCallbacks) (s : Handles Thread) : Prop where
  keys : Keys table s
  ledger : Ledger s

end Handles

end RuntimeHost.Sdk
