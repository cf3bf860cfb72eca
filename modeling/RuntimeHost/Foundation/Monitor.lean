import RuntimeHost.Foundation.Ownership

namespace RuntimeHost.Foundation

open Function

namespace System

variable {Tid State Op Task Result S α β : Type} {Answer : Op → Type}

/-- A part of the state that threads change only between entering and leaving a monitor. -/
structure Monitor (sys : System Tid State Op Answer Task Result) (S : Type) where
  owner : State → Option Tid
  view : State → S
  enters : Op → Prop
  leaves : Op → Prop
  inner : Op → Prop
  step : Tid → S → (op : Op) → Answer op → S → Prop
  enter : ∀ t op s answer s', enters op → sys.exec t op s answer s' → owner s = none ∧ owner s' = some t ∧ view s' = view s
  leave : ∀ t op s answer s', leaves op → sys.exec t op s answer s' → owner s' = none ∧ view s' = view s
  inside : ∀ t op s answer s', inner op → sys.exec t op s answer s' →
    owner s' = owner s ∧ step t (view s) op answer (view s')
  start : ∀ t task s s', sys.start t task s s' → owner s' = owner s ∧ view s' = view s
  finish : ∀ t task result s s', sys.finish t task result s s' → owner s' = owner s ∧ view s' = view s
  env : ∀ s s', sys.env s s' → owner s' = owner s ∧ view s' = view s

namespace Monitor

variable {sys : System Tid State Op Answer Task Result} (m : sys.Monitor S) (t : Tid) {inv calm : S → Prop}

/-- Alone in the monitor, the program stays in `inv` and ends in `post`. -/
def Inside (inv : S → Prop) (post : α → S → Prop) : Prog Op Answer α → S → Prop
  | .done a, x => inv x ∧ post a x
  | .act op next, x => inv x ∧ m.inner op ∧ ∀ answer x', m.step t x op answer x' → Inside inv post (next answer) x'

def Guarded (inv calm : S → Prop) (post : α → Prop) : Prog Op Answer α → Option S → Prop
  | .done a, x => x = none ∧ post a
  | .act op next, none => m.enters op ∧ ∀ x answer, calm x → Guarded inv calm post (next answer) (some x)
  | .act op next, some x => inv x ∧
    ((m.leaves op ∧ calm x ∧ ∀ answer, Guarded inv calm post (next answer) none) ∨
      (m.inner op ∧ ∀ answer x', m.step t x op answer x' → Guarded inv calm post (next answer) (some x')))

variable {m t}

theorem Inside.imp {post post' : α → S → Prop} {p : Prog Op Answer α} {x : S} (inside : m.Inside t inv post p x)
    (weaker : ∀ a x', inv x' → post a x' → post' a x') : m.Inside t inv post' p x := by
  induction p generalizing x with
  | done a => exact ⟨inside.1, weaker a x inside.1 inside.2⟩
  | act op next ih =>
    exact ⟨inside.1, inside.2.1, fun answer x' moved => ih answer (inside.2.2 answer x' moved)⟩

theorem Inside.bind {post : β → S → Prop} {p : Prog Op Answer α} {f : α → Prog Op Answer β} {x : S}
    (inside : m.Inside t inv (fun a x' => m.Inside t inv post (f a) x') p x) : m.Inside t inv post (p >>= f) x := by
  induction p generalizing x with
  | done a => exact inside.2
  | act op next ih =>
    exact ⟨inside.1, inside.2.1, fun answer x' moved => ih answer (inside.2.2 answer x' moved)⟩

theorem Inside.alone {post : α → S → Prop} {p : Prog Op Answer α} {s : State} (owner : m.owner s = some t)
    (inside : m.Inside t inv post p (m.view s)) :
    p.Ensures (fun s op answer s' => sys.exec t op s answer s') (fun s' => inv (m.view s'))
      (fun a s' => m.owner s' = some t ∧ post a (m.view s')) s := by
  induction p generalizing s with
  | done a => exact ⟨inside.1, owner, inside.2⟩
  | act op next ih =>
    refine ⟨inside.1, fun answer s' done => ?_⟩
    obtain ⟨same, moved⟩ := m.inside t op s answer s' inside.2.1 done
    exact ih answer (same.trans owner) (inside.2.2 answer _ moved)

theorem Guarded.of_inside {post : β → Prop} {p : Prog Op Answer α} {f : α → Prog Op Answer β} {x : S}
    (inside : m.Inside t inv (fun a x' => m.Guarded t inv calm post (f a) (some x')) p x) :
    m.Guarded t inv calm post (p >>= f) (some x) := by
  induction p generalizing x with
  | done a => exact inside.2
  | act op next ih =>
    exact ⟨inside.1, .inr ⟨inside.2.1, fun answer x' moved => ih answer (inside.2.2 answer x' moved)⟩⟩

theorem Guarded.map {post : α → Prop} {post' : β → Prop} {p : Prog Op Answer α} {f : α → β} {x : Option S}
    (guarded : m.Guarded t inv calm post p x) (weaker : ∀ a, post a → post' (f a)) :
    m.Guarded t inv calm post' (p >>= fun a => .done (f a)) x := by
  induction p generalizing x with
  | done a => exact ⟨guarded.1, weaker a guarded.2⟩
  | act op next ih =>
    cases x with
    | none => exact ⟨guarded.1, fun x answer rest => ih answer (guarded.2 x answer rest)⟩
    | some x =>
      rcases guarded with ⟨here, ⟨leaves, rest, later⟩ | ⟨inner, later⟩⟩
      · exact ⟨here, .inl ⟨leaves, rest, fun answer => ih answer (later answer)⟩⟩
      · exact ⟨here, .inr ⟨inner, fun answer x' moved => ih answer (later answer x' moved)⟩⟩

theorem Guarded.within {post : α → Prop} {p : Prog Op Answer α} {x : S} (guarded : m.Guarded t inv calm post p (some x)) :
    inv x := by
  cases p with
  | done a => cases guarded.1
  | act op next => exact guarded.1

variable {initial : State → Prop} {post : Task → Result → Prop} {c : Config Tid State Op Answer Task Result}

section Runs

variable [DecidableEq Tid]

structure Valid (m : sys.Monitor S) (inv calm : S → Prop) (post : Task → Result → Prop)
    (c : Config Tid State Op Answer Task Result) : Prop where
  free : m.owner c.state = none → calm (m.view c.state)
  idle : ∀ t, c.threads t = .idle → m.owner c.state ≠ some t
  running : ∀ t task p, c.threads t = .running task p →
    m.Guarded t inv calm (post task) p (if m.owner c.state = some t then some (m.view c.state) else none)

theorem Valid.others {s : State} {t : Tid} {activity : Activity Op Answer Task Result} (valid : Valid m inv calm post c)
    (free : m.owner s = none → calm (m.view s))
    (here : match activity with
      | .idle => m.owner s ≠ some t
      | .running task p => m.Guarded t inv calm (post task) p (if m.owner s = some t then some (m.view s) else none))
    (apart : ∀ t', t' ≠ t → m.owner s = m.owner c.state ∧ m.view s = m.view c.state ∨
      m.owner s ≠ some t' ∧ m.owner c.state ≠ some t') : Valid m inv calm post ⟨s, update c.threads t activity⟩ := by
  refine ⟨free, fun t' => ?_, fun t' task p => ?_⟩
  · by_cases same : t' = t
    · subst same
      simp only [update_self]
      rintro rfl
      exact here
    · simp only [update_of_ne same]
      intro idle
      rcases apart t' same with ⟨owner, -⟩ | ⟨away, -⟩
      · rw [owner]
        exact valid.idle t' idle
      · exact away
  · by_cases same : t' = t
    · subst same
      simp only [update_self]
      rintro rfl
      exact here
    · simp only [update_of_ne same]
      intro running
      have guarded := valid.running t' task p running
      rcases apart t' same with ⟨owner, view⟩ | ⟨away, away'⟩
      · rw [owner, view]
        exact guarded
      · rw [if_neg away'] at guarded
        rw [if_neg away]
        exact guarded

theorem Valid.step {c' : Config Tid State Op Answer Task Result} (valid : Valid m inv calm post c)
    (code : ∀ t task, m.Guarded t inv calm (post task) (sys.code task) none) (moved : sys.Step c c') :
    Valid m inv calm post c' := by
  cases moved with
  | @start t task s idle begun =>
    obtain ⟨owner, view⟩ := m.start t task c.state s begun
    refine valid.others ?_ ?_ fun _ _ => .inl ⟨owner, view⟩
    · rw [owner, view]
      exact valid.free
    · show m.Guarded t inv calm (post task) (sys.code task) (if m.owner s = some t then _ else none)
      rw [owner, if_neg (valid.idle t idle)]
      exact code t task
  | @act t task op next answer s running answered =>
    have guarded := valid.running t task _ running
    by_cases mine : m.owner c.state = some t
    · rw [if_pos mine] at guarded
      rcases guarded with ⟨-, ⟨leaves, rest, later⟩ | ⟨inner, later⟩⟩
      · obtain ⟨owner, view⟩ := m.leave t op c.state answer s leaves answered
        refine valid.others (fun _ => view ▸ rest) ?_ fun t' other => .inr ⟨?_, ?_⟩
        · show m.Guarded t inv calm (post task) (next answer) (if m.owner s = some t then _ else none)
          rw [owner, if_neg nofun]
          exact later answer
        · rw [owner]
          nofun
        · rw [mine]
          exact fun same => other (Option.some.inj same).symm
      · obtain ⟨owner, moved⟩ := m.inside t op c.state answer s inner answered
        refine valid.others (fun free => ?_) ?_ fun t' other => .inr ⟨?_, ?_⟩
        · rw [owner, mine] at free
          cases free
        · show m.Guarded t inv calm (post task) (next answer) (if m.owner s = some t then some (m.view s) else none)
          rw [owner, if_pos mine]
          exact later answer _ moved
        · rw [owner, mine]
          exact fun same => other (Option.some.inj same).symm
        · rw [mine]
          exact fun same => other (Option.some.inj same).symm
    · rw [if_neg mine] at guarded
      obtain ⟨enters, later⟩ := guarded
      obtain ⟨free, owner, view⟩ := m.enter t op c.state answer s enters answered
      refine valid.others (fun free => ?_) ?_ fun t' other => .inr ⟨?_, ?_⟩
      · rw [owner] at free
        cases free
      · show m.Guarded t inv calm (post task) (next answer) (if m.owner s = some t then some (m.view s) else none)
        rw [owner, if_pos rfl, view]
        exact later _ answer (valid.free free)
      · rw [owner]
        exact fun same => other (Option.some.inj same).symm
      · rw [free]
        nofun
  | @finish t task r s running ended =>
    obtain ⟨owner, view⟩ := m.finish t task r c.state s ended
    obtain ⟨outside, -⟩ := valid.running t task _ running
    refine valid.others ?_ ?_ fun _ _ => .inl ⟨owner, view⟩
    · rw [owner, view]
      exact valid.free
    · show m.owner s ≠ some t
      intro mine
      rw [if_pos (owner ▸ mine)] at outside
      cases outside
  | @env s moved =>
    obtain ⟨owner, view⟩ := m.env c.state s moved
    exact ⟨by rw [owner, view]; exact valid.free, by rw [owner]; exact valid.idle, by rw [owner, view]; exact valid.running⟩

theorem valid (m : sys.Monitor S) (fresh : ∀ s, initial s → m.owner s = none ∧ calm (m.view s))
    (code : ∀ t task, m.Guarded t inv calm (post task) (sys.code task) none) (reached : sys.Reachable initial c) :
    Valid m inv calm post c := by
  obtain ⟨s, initially, run⟩ := reached
  induction run with
  | refl =>
    obtain ⟨owner, rest⟩ := fresh s initially
    refine ⟨fun _ => rest, fun t _ mine => ?_, nofun⟩
    rw [owner] at mine
    cases mine
  | tail _ moved ih => exact ih.step code moved

theorem Valid.within (valid : Valid m inv calm post c) (weaker : ∀ x, calm x → inv x) : inv (m.view c.state) := by
  cases owner : m.owner c.state with
  | none => exact weaker _ (valid.free owner)
  | some t =>
    cases active : c.threads t with
    | idle => exact absurd owner (valid.idle t active)
    | running task p =>
      have guarded := valid.running t task p active
      rw [if_pos owner] at guarded
      exact guarded.within

end Runs

end Monitor

end System

end RuntimeHost.Foundation
