import RuntimeHost.Foundation.Monitor
import RuntimeHost.Java.HostPlugin

namespace RuntimeHost.Java

open Foundation System RustRuntimeHostPlugin

variable {Tid : Type} {t : Tid} {events : List PluginEvent} {engine : EngineRef} {registration : RegistrationRef}
  {provided : ProvidedRuntime} {result : Except Throwable Unit}

section Events

theorem mem_unregisters (listed : .unregistered registration result ∈ events) :
    registration ∈ events.filterMap PluginEvent.unregisters :=
  List.mem_filterMap.mpr ⟨_, listed, rfl⟩

theorem stranded_nil : ¬Stranded [] engine := by
  rintro ⟨_, _, _, listed, -⟩
  cases listed

theorem stranded_opened {opened : EngineRef} : Stranded (.opened opened :: events) engine ↔ Stranded events engine := by
  simp [Stranded]

theorem stranded_closed {closed : EngineRef} : Stranded (.closed closed result :: events) engine ↔ Stranded events engine := by
  simp [Stranded]

theorem stranded_registered (unused : registration ∉ events.filterMap PluginEvent.unregisters) :
    Stranded (.registered registration provided :: events) engine ↔ Stranded events engine := by
  constructor
  · rintro ⟨other, provider, thrown, listed, behind, closed, unchecked⟩
    have closed := List.mem_of_ne_of_mem PluginEvent.noConfusion closed
    rcases List.mem_cons.mp listed with same | listed
    · cases same
      exact absurd (mem_unregisters closed) unused
    · exact ⟨other, provider, thrown, listed, behind, closed, unchecked⟩
  · rintro ⟨other, provider, thrown, listed, behind, closed, unchecked⟩
    exact ⟨other, provider, thrown, .tail _ listed, behind, .tail _ closed, unchecked⟩

theorem stranded_unregistered (quiet : ∀ thrown, result = .error thrown → ¬thrown.unchecked) :
    Stranded (.unregistered registration result :: events) engine ↔ Stranded events engine := by
  constructor
  · rintro ⟨other, provider, thrown, listed, behind, closed, unchecked⟩
    have listed := List.mem_of_ne_of_mem PluginEvent.noConfusion listed
    rcases List.mem_cons.mp closed with same | closed
    · cases same
      exact absurd unchecked (quiet thrown rfl)
    · exact ⟨other, provider, thrown, listed, behind, closed, unchecked⟩
  · rintro ⟨other, provider, thrown, listed, behind, closed, unchecked⟩
    exact ⟨other, provider, thrown, .tail _ listed, behind, .tail _ closed, unchecked⟩

theorem stranded_thrown {thrown : Throwable} (listed : .registered registration provided ∈ events)
    (sole : ∀ other, .registered registration other ∈ events → other = provided) (unchecked : thrown.unchecked) :
    Stranded (.unregistered registration (.error thrown) :: events) engine ↔
      engine = provided.engine ∨ Stranded events engine := by
  constructor
  · rintro ⟨other, provider, thrown', registered, behind, closed, unchecked'⟩
    have registered := List.mem_of_ne_of_mem PluginEvent.noConfusion registered
    rcases List.mem_cons.mp closed with same | closed
    · cases same
      rw [← behind, sole provider registered]
      exact .inl rfl
    · exact .inr ⟨other, provider, thrown', registered, behind, closed, unchecked'⟩
  · rintro (rfl | ⟨other, provider, thrown', registered, behind, closed, unchecked'⟩)
    · exact ⟨registration, provided, thrown, .tail _ listed, rfl, .head _, unchecked⟩
    · exact ⟨other, provider, thrown', .tail _ registered, behind, .tail _ closed, unchecked'⟩

theorem registered_sole (fresh : (events.filterMap PluginEvent.registers).Nodup) {other : ProvidedRuntime}
    (listed : .registered registration provided ∈ events) (listed' : .registered registration other ∈ events) :
    other = provided := by
  have same := eq_of_nodup_filterMap fresh listed' listed rfl rfl
  exact (PluginEvent.registered.inj same).2

end Events

structure Books (engine : Option EngineRef) (registration : Option RegistrationRef) (events : List PluginEvent) : Prop where
  engines : Accounts PluginEvent.opens PluginEvent.closes Stranded engine events
  registrations : Accounts PluginEvent.registers PluginEvent.unregisters (fun _ _ => False) registration events
  known : ∀ registration provided, .registered registration provided ∈ events → provided.engine ∈ events.filterMap PluginEvent.opens
  legal : Legal ClosedLast events

/-- The launcher can reach the engine only through registrations that have been closed. -/
def Unreached (engine : EngineRef) (events : List PluginEvent) : Prop :=
  ∀ registration provided, .registered registration provided ∈ events → provided.engine = engine →
    registration ∈ events.filterMap PluginEvent.unregisters

namespace Books

theorem nil : Books none none [] where
  engines := .empty fun _ => stranded_nil
  registrations := .empty fun _ => id
  known _ _ listed := by cases listed
  legal := legal_nil

theorem opens (books : Books none none events) (unused : engine ∉ events.filterMap PluginEvent.opens) :
    Books (some engine) none (.opened engine :: events) where
  engines := books.engines.acquire rfl rfl unused fun _ => stranded_opened
  registrations := books.registrations.pass rfl rfl fun _ => .rfl
  known other provided listed := by
    have listed := List.mem_of_ne_of_mem PluginEvent.noConfusion listed
    exact List.mem_cons_of_mem engine (books.known other provided listed)
  legal := legal_cons books.legal trivial

theorem register (books : Books (some engine) none events) (behind : provided.engine = engine)
    (unused : registration ∉ events.filterMap PluginEvent.registers) :
    Books (some engine) (some registration) (.registered registration provided :: events) where
  engines := books.engines.pass rfl rfl fun _ =>
    stranded_registered fun closed => unused (books.registrations.acquired registration closed)
  registrations := books.registrations.acquire rfl rfl unused fun _ => .rfl
  known other provider listed := by
    rcases List.mem_cons.mp listed with same | listed
    · cases same
      exact behind ▸ (books.engines.hand engine rfl).1
    · exact books.known other provider listed
  legal := legal_cons books.legal trivial

theorem close {registration : Option RegistrationRef} (books : Books (some engine) registration events)
    (unreached : Unreached engine events) (result : Except Throwable Unit) :
    Books none registration (.closed engine result :: events) where
  engines := books.engines.release rfl rfl fun _ => stranded_closed
  registrations := books.registrations.pass rfl rfl fun _ => .rfl
  known other provided listed := by
    have listed := List.mem_of_ne_of_mem PluginEvent.noConfusion listed
    exact books.known other provided listed
  legal := legal_cons books.legal unreached

theorem unregister {engine : Option EngineRef} (books : Books engine (some registration) events)
    (quiet : ∀ thrown, result = .error thrown → ¬thrown.unchecked) :
    Books engine none (.unregistered registration result :: events) where
  engines := books.engines.pass rfl rfl fun _ => stranded_unregistered quiet
  registrations := books.registrations.release rfl rfl fun _ => .rfl
  known other provided listed := by
    have listed := List.mem_of_ne_of_mem PluginEvent.noConfusion listed
    exact books.known other provided listed
  legal := legal_cons books.legal trivial

theorem strand {thrown : Throwable} (books : Books (some provided.engine) (some registration) events)
    (listed : .registered registration provided ∈ events) (unchecked : thrown.unchecked) :
    Books none none (.unregistered registration (.error thrown) :: events) where
  engines := books.engines.lose rfl rfl fun _ => stranded_thrown listed
    (fun _ listed' => registered_sole books.registrations.fresh listed listed') unchecked
  registrations := books.registrations.release rfl rfl fun _ => .rfl
  known other provider listed := by
    have listed := List.mem_of_ne_of_mem PluginEvent.noConfusion listed
    exact books.known other provider listed
  legal := legal_cons books.legal trivial

end Books

def Balanced (x : Bootstrap Tid) : Prop := ∃ engine registration, Books engine registration x.events

structure Rests (x : Bootstrap Tid) : Prop where
  books : Books x.plugin.engine x.plugin.registration x.events
  published : Published x.events x.plugin
  named : x.events.filterMap PluginEvent.registers ≠ [] → ∃ manifest, x.plugin.getManifest = .ok manifest

theorem Rests.balanced {x : Bootstrap Tid} (rests : Rests x) : Balanced x := ⟨_, _, rests.books⟩

theorem Rests.nil : Rests ({} : Bootstrap Tid) where
  books := .nil
  published := .unloaded none
  named listed := absurd rfl listed

namespace Bootstrap

def unlocked (s : Bootstrap Tid) : Bootstrap Tid := { s with monitor := none }

def protects (Tid : Type) [DecidableEq Tid] : (system Tid).Monitor (Bootstrap Tid) where
  owner := monitor
  view := unlocked
  enters op := op = .enterMonitor
  leaves op := op = .exitMonitor
  inner op := op ≠ .enterMonitor ∧ op ≠ .exitMonitor
  step t x op answer x' := exec t op x answer x'
  enter t op s answer s' enters done := by
    subst enters
    obtain ⟨free, rfl⟩ := done
    exact ⟨free, rfl, rfl⟩
  leave t op s answer s' leaves done := by
    subst leaves
    obtain rfl : s' = _ := done
    exact ⟨rfl, rfl⟩
  inside t op s answer s' inner done := by
    cases op with
    | enterMonitor => exact absurd rfl inner.1
    | exitMonitor => exact absurd rfl inner.2
    | self =>
      obtain ⟨rfl, rfl⟩ := done
      exact ⟨rfl, rfl, rfl⟩
    | manifest | packageDirectory | platform =>
      obtain ⟨unchecked, rfl⟩ := done
      exact ⟨rfl, unchecked, rfl⟩
    | newProvider provided =>
      obtain ⟨unchecked, kept, rfl⟩ := done
      exact ⟨rfl, unchecked, kept, rfl⟩
    | openEngine packageDirectory platform =>
      cases answer with
      | error thrown =>
        obtain rfl : s' = s := done
        exact ⟨rfl, rfl⟩
      | ok engine =>
        obtain ⟨unused, rfl⟩ := done
        exact ⟨rfl, unused, rfl⟩
    | register provided =>
      cases answer with
      | error thrown =>
        obtain ⟨unchecked, rfl⟩ := done
        exact ⟨rfl, unchecked, rfl⟩
      | ok registration =>
        obtain ⟨unused, rfl⟩ := done
        exact ⟨rfl, unused, rfl⟩
    | assign plugin | closeRegistration registration | closeEngine engine =>
      obtain rfl : s' = _ := done
      exact ⟨rfl, rfl⟩
  start t task s s' begun := by
    obtain rfl : s' = s := begun
    exact ⟨rfl, rfl⟩
  finish t task result s s' ended := by
    obtain rfl : s' = s := ended
    exact ⟨rfl, rfl⟩
  env s s' moved := moved.elim

end Bootstrap

section Methods

open Bootstrap PluginProg

variable [DecidableEq Tid] {α : Type} {x : Bootstrap Tid}

abbrev Keeps (t : Tid) (post : α → Bootstrap Tid → Prop) (p : PluginProg α) (x : Bootstrap Tid) : Prop :=
  (protects Tid).Inside t Balanced post p x

def PluginMethod (t : Tid) (p : PluginProg (Except Throwable Unit)) : Prop :=
  ∃ body, p = synchronized body ∧ ∀ x : Bootstrap Tid, Rests x → Keeps t (fun _ x' => Rests x') body x

theorem PluginMethod.guarded {p : PluginProg (Except Throwable Unit)} (method : PluginMethod t p) :
    (protects Tid).Guarded t Balanced Rests (fun _ => True) p none := by
  obtain ⟨body, rfl, keeps⟩ := method
  refine ⟨rfl, fun x answer rests => ?_⟩
  show (protects Tid).Guarded t Balanced Rests _ (body >>= fun result => .act PluginOp.exitMonitor fun _ => .done result) _
  refine Monitor.Guarded.of_inside ((keeps x rests).imp fun result x' balanced rests' => ?_)
  exact ⟨balanced, .inl ⟨rfl, rests', fun _ => ⟨rfl, trivial⟩⟩⟩

theorem keeps_self {post : α → Bootstrap Tid → Prop} {f : RustRuntimeHostPlugin → PluginProg α} (balanced : Balanced x)
    (rest : Keeps t post (f x.plugin) x) : Keeps t post (self >>= f) x := by
  refine ⟨balanced, ⟨nofun, nofun⟩, fun answer x' moved => ?_⟩
  obtain ⟨rfl, rfl⟩ := moved
  exact rest

theorem keeps_assign {plugin : RustRuntimeHostPlugin} {post : α → Bootstrap Tid → Prop} {f : Unit → PluginProg α}
    (balanced : Balanced x) (rest : Keeps t post (f ()) { x with plugin }) : Keeps t post (assign plugin >>= f) x := by
  refine ⟨balanced, ⟨nofun, nofun⟩, fun answer x' moved => ?_⟩
  obtain rfl : x' = _ := moved
  exact rest

theorem keeps_still {op : PluginOp} {post : α → Bootstrap Tid → Prop} {f : op.Answer → PluginProg α} (balanced : Balanced x)
    (inner : op ≠ .enterMonitor ∧ op ≠ .exitMonitor) (still : ∀ answer x', exec t op x answer x' → x' = x)
    (rest : ∀ answer, Keeps t post (f answer) x) : Keeps t post (.perform op >>= f) x := by
  refine ⟨balanced, inner, fun answer x' moved => ?_⟩
  obtain rfl := still answer x' moved
  exact rest answer

theorem keeps_closeEngine {registration : Option RegistrationRef} {post : α → Bootstrap Tid → Prop}
    {f : Except Throwable Unit → PluginProg α} (books : Books (some engine) registration x.events)
    (unreached : Unreached engine x.events)
    (rest : ∀ result, Books none registration (.closed engine result :: x.events) →
      Keeps t post (f result) { x with events := .closed engine result :: x.events }) :
    Keeps t post (closeEngine engine >>= f) x := by
  refine ⟨⟨_, _, books⟩, ⟨nofun, nofun⟩, fun result x' moved => ?_⟩
  obtain rfl : x' = _ := moved
  exact rest result (books.close unreached result)

theorem keeps_rollBack {exception : Throwable} (unloaded : x.plugin.engine = none ∧ x.plugin.registration = none)
    (books : Books (some engine) none x.events) (unreached : Unreached engine x.events)
    (named : x.events.filterMap PluginEvent.registers ≠ [] → ∃ manifest, x.plugin.getManifest = .ok manifest) :
    Keeps t (fun _ x' => Rests x') (rollBack engine exception) x := by
  obtain ⟨⟨manifest, _, _⟩, monitor, events⟩ := x
  obtain ⟨rfl, rfl⟩ := unloaded
  refine keeps_closeEngine books unreached fun result closed => ?_
  have rests : Rests ⟨⟨manifest, none, none⟩, monitor, .closed engine result :: events⟩ := ⟨closed, .unloaded manifest, named⟩
  split <;> exact ⟨rests.balanced, rests⟩

theorem keeps_publish {loadedManifest : PluginManifest} (unloaded : x.plugin.engine = none ∧ x.plugin.registration = none)
    (books : Books (some engine) none x.events)
    (unpublished : ∀ registration provided, .registered registration provided ∈ x.events → provided.engine ≠ engine)
    (named : x.events.filterMap PluginEvent.registers ≠ [] → ∃ manifest, x.plugin.getManifest = .ok manifest) :
    Keeps t (fun _ x' => Rests x') (publish loadedManifest engine) x := by
  have balanced : Balanced x := ⟨_, _, books⟩
  have unreached : Unreached engine x.events := fun other provided listed behind =>
    absurd behind (unpublished other provided listed)
  refine ⟨balanced, ⟨nofun, nofun⟩, fun answer x' moved => ?_⟩
  obtain ⟨-, kept, rfl⟩ := moved
  cases answer with
  | error exception => exact keeps_rollBack unloaded books unreached named
  | ok provider =>
    obtain rfl := kept provider rfl
    refine ⟨balanced, ⟨nofun, nofun⟩, fun answer x' moved => ?_⟩
    cases answer with
    | error exception =>
      obtain ⟨-, rfl⟩ := moved
      exact keeps_rollBack unloaded books unreached named
    | ok registration =>
      obtain ⟨unused, rfl⟩ := moved
      have registered : Books (some engine) (some registration)
          (.registered registration ⟨loadedManifest.id, loadedManifest.version, loadedManifest.providesRuntimes, engine⟩ ::
            x'.events) := books.register rfl unused
      refine ⟨⟨_, _, registered⟩, ⟨nofun, nofun⟩, fun answer x' moved => ?_⟩
      obtain rfl : x' = _ := moved
      refine ⟨⟨_, _, registered⟩, registered, .loaded loadedManifest registration engine (.head _) ?_, fun _ => ⟨_, rfl⟩⟩
      intro other provided listed behind
      rcases List.mem_cons.mp listed with same | listed
      · exact (PluginEvent.registered.inj same).1
      · exact absurd behind (unpublished other provided listed)

theorem method_load : PluginMethod t load := by
  refine ⟨_, rfl, fun x rests => keeps_self rests.balanced ?_⟩
  have stays : ∀ result, Keeps t (fun (_ : Except Throwable Unit) x' => Rests x') (.done result) x := fun _ =>
    ⟨rests.balanced, rests⟩
  have asks : ∀ {op : PluginOp} {f : op.Answer → PluginProg (Except Throwable Unit)},
      op = .manifest ∨ op = .packageDirectory ∨ op = .platform → (∀ answer, Keeps t (fun _ x' => Rests x') (f answer) x) →
        Keeps t (fun _ x' => Rests x') (.perform op >>= f) x := by
    rintro op f (rfl | rfl | rfl) rest
    all_goals exact keeps_still rests.balanced ⟨nofun, nofun⟩ (fun answer x' moved => moved.2) rest
  split
  · exact stays _
  · rename_i empty
    obtain ⟨unregistered, unopened⟩ := not_or.mp empty
    have unregistered := Option.not_isSome_iff_eq_none.mp unregistered
    have unopened := Option.not_isSome_iff_eq_none.mp unopened
    have books := rests.books
    rw [unregistered, unopened] at books
    refine asks (.inl rfl) fun loadedManifest => ?_
    cases loadedManifest with
    | error thrown => exact stays _
    | ok loadedManifest =>
      refine asks (.inr (.inl rfl)) fun packageRoot => ?_
      cases packageRoot with
      | error thrown => exact stays _
      | ok packageRoot =>
        refine asks (.inr (.inr rfl)) fun currentPlatform => ?_
        cases currentPlatform with
        | error thrown => exact stays _
        | ok currentPlatform =>
          refine ⟨rests.balanced, ⟨nofun, nofun⟩, fun openedEngine x' moved => ?_⟩
          cases openedEngine with
          | error thrown =>
            obtain rfl : x' = _ := moved
            exact stays _
          | ok openedEngine =>
            obtain ⟨unused, rfl⟩ := moved
            refine keeps_publish ⟨unopened, unregistered⟩ (books.opens unused) ?_ rests.named
            rintro other provided listed rfl
            exact unused (books.known other provided (List.mem_of_ne_of_mem PluginEvent.noConfusion listed))

theorem keeps_unregister (books : Books (some engine) (some registration) x.events)
    (behind : ∃ provided, .registered registration provided ∈ x.events ∧ provided.engine = engine)
    (alone : ∀ other provided, .registered other provided ∈ x.events → provided.engine = engine → other = registration) :
    Keeps t (fun answer x' => x'.plugin = x.plugin ∧
        x'.events.filterMap PluginEvent.registers = x.events.filterMap PluginEvent.registers ∧
        match answer with
        | .ok _ => Books (some engine) none x'.events ∧ Unreached engine x'.events
        | .error _ => Books none none x'.events)
      (unregister (some registration)) x := by
  refine ⟨⟨_, _, books⟩, ⟨nofun, nofun⟩, fun result x' moved => ?_⟩
  obtain rfl : x' = _ := moved
  have unreached : Unreached engine (.unregistered registration result :: x.events) := by
    intro other provided listed same
    have listed := List.mem_of_ne_of_mem PluginEvent.noConfusion listed
    rw [alone other provided listed same]
    exact .head _
  have quietly : (∀ thrown, result = .error thrown → ¬thrown.unchecked) →
      Books (some engine) none (.unregistered registration result :: x.events) := books.unregister
  have loudly : ∀ thrown, result = .error thrown → thrown.unchecked →
      Books none none (.unregistered registration result :: x.events) := by
    rintro thrown rfl unchecked
    obtain ⟨provided, listed, rfl⟩ := behind
    exact books.strand listed unchecked
  cases result with
  | ok =>
    have quiet := quietly fun thrown same => nomatch same
    exact ⟨⟨_, _, quiet⟩, rfl, rfl, quiet, unreached⟩
  | error thrown =>
    cases thrown with
    | ioException message =>
      have quiet := quietly fun thrown same => by
        cases same
        exact id
      exact ⟨⟨_, _, quiet⟩, rfl, rfl, quiet, unreached⟩
    | _ =>
      have loud := loudly _ rfl trivial
      exact ⟨⟨_, _, loud⟩, rfl, rfl, loud⟩

theorem method_onUnload : PluginMethod t onUnload := by
  refine ⟨_, rfl, fun x rests => keeps_self rests.balanced (keeps_assign rests.balanced ?_)⟩
  obtain ⟨⟨manifest, registration, engine⟩, monitor, events⟩ := x
  have named := rests.named
  have rest : ∀ monitor' events', events'.filterMap PluginEvent.registers = events.filterMap PluginEvent.registers →
      Books none none events' → Rests (⟨⟨manifest, none, none⟩, monitor', events'⟩ : Bootstrap Tid) :=
    fun monitor' events' same books => ⟨books, .unloaded manifest, same ▸ named⟩
  cases rests.published with
  | unloaded manifest =>
    have rests' := rest monitor events rfl rests.books
    exact ⟨rests'.balanced, rests'⟩
  | loaded manifest registration engine listed alone =>
    have unregistered := keeps_unregister (t := t) (x := ⟨⟨some manifest, none, none⟩, monitor, events⟩) rests.books
      ⟨_, listed, rfl⟩ alone
    refine Monitor.Inside.bind (unregistered.imp ?_)
    rintro answer ⟨plugin, monitor', events'⟩ balanced ⟨rfl, same, left⟩
    cases answer with
    | error thrown => exact ⟨balanced, rest monitor' events' same left⟩
    | ok failure =>
      obtain ⟨books, unreached⟩ := left
      refine keeps_closeEngine books unreached fun result closed => ?_
      have rests' := rest monitor' (.closed engine result :: events') same closed
      cases result with
      | ok => cases failure <;> exact ⟨rests'.balanced, rests'⟩
      | error thrown => cases thrown <;> cases failure <;> exact ⟨rests'.balanced, rests'⟩

theorem guarded_task (task : PluginTask) : (protects Tid).Guarded t Balanced Rests (fun _ => True) task.code none := by
  cases task with
  | onLoad => exact method_load.guarded.map fun _ => id
  | onUnload => exact method_onUnload.guarded

end Methods

/-- In every run, each engine and each registration is closed at most once, a registration before its engine. Whenever nobody
is inside, each of them that is not closed is in its field, but for the engines that an unchecked exception has stranded. -/
theorem pluginLedger_of_reachable [DecidableEq Tid] {c : BootstrapConfig Tid}
    (reached : (Bootstrap.system Tid).Reachable (· = {}) c) : PluginLedger c.state := by
  have fresh : ∀ s : Bootstrap Tid, s = {} → (Bootstrap.protects Tid).owner s = none ∧ Rests ((Bootstrap.protects Tid).view s) := by
    rintro s rfl
    exact ⟨rfl, .nil⟩
  have valid := (Bootstrap.protects Tid).valid fresh (fun _ => guarded_task) reached
  obtain ⟨engine, registration, books⟩ := valid.within fun _ rests => rests.balanced
  exact {
    closedOnce := books.engines.once
    unregisteredOnce := books.registrations.once
    inOrder := books.legal
    engines := fun free => (valid.free free).books.engines
    registrations := fun free => (valid.free free).books.registrations
    published := fun free => (valid.free free).published
    named := fun free => (valid.free free).named }

section Closed

theorem throwsUnchecked_ok {α : Type} {answer : α} : Bootstrap.ThrowsUnchecked (.ok answer) := by
  intro thrown same
  cases same

theorem performs_onLoad : ∃ s', (Bootstrap.system Unit).Performs () onLoad {} (.ok ()) s' ∧ s' =
    { plugin := ⟨some ⟨"host", "1.0", ["rust"]⟩, some 2, some 1⟩, monitor := none,
      events := [.registered 2 ⟨"host", "1.0", ["rust"], 1⟩, .opened 1] } :=
  ⟨_, ⟨(), _, ⟨rfl, rfl⟩, _, _, ⟨rfl, rfl⟩, (Except.ok ⟨"host", "1.0", ["rust"]⟩ : Except Throwable PluginManifest), _,
    ⟨throwsUnchecked_ok, rfl⟩, (Except.ok "root" : Except Throwable String), _, ⟨throwsUnchecked_ok, rfl⟩,
    (Except.ok "linux-x64" : Except Throwable String), _, ⟨throwsUnchecked_ok, rfl⟩, (Except.ok 1 : Except Throwable EngineRef), _,
    ⟨List.not_mem_nil, rfl⟩, _, _, ⟨throwsUnchecked_ok, fun _ same => (Except.ok.inj same).symm, rfl⟩,
    (Except.ok 2 : Except Throwable RegistrationRef), _, ⟨List.not_mem_nil, rfl⟩, (), _, rfl, (), _, rfl, rfl, rfl⟩, rfl⟩

/-- A bootstrap is loaded and then unloaded. -/
theorem pluginLedger_unloaded : ∃ c : BootstrapConfig Unit, PluginLedger c.state ∧ c.state.events =
    [.closed 1 (.ok ()), .unregistered 2 (.ok ()), .registered 2 ⟨"host", "1.0", ["rust"], 1⟩, .opened 1] := by
  have idle : (Bootstrap.system Unit).Run (⟨{}, fun _ => .idle⟩ : BootstrapConfig Unit) ⟨{}, fun _ => .idle⟩ := .refl
  obtain ⟨s, loads, rfl⟩ := performs_onLoad
  have loaded := idle.complete () .onLoad rfl rfl loads rfl
  have unloaded := loaded.complete () .onUnload (r := .ok ()) rfl rfl
    ⟨(), _, ⟨rfl, rfl⟩, _, _, ⟨rfl, rfl⟩, (), _, rfl, (Except.ok () : Except Throwable Unit), _, rfl,
      (Except.ok () : Except Throwable Unit), _, rfl, (), _, rfl, rfl, rfl⟩ rfl
  exact ⟨_, pluginLedger_of_reachable ⟨_, rfl, unloaded⟩, rfl⟩

end Closed

end RuntimeHost.Java
