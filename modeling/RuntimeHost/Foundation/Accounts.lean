import RuntimeHost.Foundation.History

namespace RuntimeHost.Foundation

variable {Event Resource : Type} {acquires releases : Event → Option Resource} {lost : List Event → Resource → Prop}
  {held : Option Resource} {history : List Event} {event : Event} {resource : Resource}

/-- The resources that a history acquires and releases, which has the newest event first, with at most one of them in hand:
each is in hand, or was released once, or is lost. -/
structure Accounts (acquires releases : Event → Option Resource) (lost : List Event → Resource → Prop)
    (held : Option Resource) (history : List Event) : Prop where
  fresh : (history.filterMap acquires).Nodup
  once : (history.filterMap releases).Nodup
  acquired : ∀ resource ∈ history.filterMap releases, resource ∈ history.filterMap acquires
  hand : ∀ resource, held = some resource → resource ∈ history.filterMap acquires ∧
    resource ∉ history.filterMap releases ∧ ¬lost history resource
  gone : ∀ resource, lost history resource → resource ∈ history.filterMap acquires ∧
    resource ∉ history.filterMap releases
  accounted : ∀ resource ∈ history.filterMap acquires,
    held = some resource ∨ resource ∈ history.filterMap releases ∨ lost history resource

theorem eq_of_nodup_filterMap {event' : Event} (fresh : (history.filterMap acquires).Nodup) (listed : event ∈ history)
    (listed' : event' ∈ history) (acquire : acquires event = some resource) (acquire' : acquires event' = some resource) :
    event = event' := by
  by_contra differ
  have symmetric : Std.Symm fun event event' => ∀ r, acquires event = some r → ∀ r', acquires event' = some r' → r ≠ r' :=
    ⟨fun _ _ apart r here r' there same => apart r' there r here same.symm⟩
  exact (List.pairwise_filterMap.mp fresh).forall listed listed' differ resource acquire resource acquire' rfl

namespace Accounts

theorem empty (none_lost : ∀ resource, ¬lost [] resource) : Accounts acquires releases lost none [] where
  fresh := .nil
  once := .nil
  acquired _ listed := by cases listed
  hand _ same := by cases same
  gone resource missing := absurd missing (none_lost resource)
  accounted _ listed := by cases listed

theorem pass (accounts : Accounts acquires releases lost held history) (acquire : acquires event = none)
    (release : releases event = none) (same : ∀ resource, lost (event :: history) resource ↔ lost history resource) :
    Accounts acquires releases lost held (event :: history) := by
  have acquired := List.filterMap_cons_none (l := history) acquire
  have released := List.filterMap_cons_none (l := history) release
  constructor <;> simp only [acquired, released, same]
  · exact accounts.fresh
  · exact accounts.once
  · exact accounts.acquired
  · exact accounts.hand
  · exact accounts.gone
  · exact accounts.accounted

theorem acquire (accounts : Accounts acquires releases lost none history) (acquire : acquires event = some resource)
    (release : releases event = none) (unused : resource ∉ history.filterMap acquires)
    (same : ∀ resource, lost (event :: history) resource ↔ lost history resource) :
    Accounts acquires releases lost (some resource) (event :: history) := by
  have acquired := List.filterMap_cons_some (l := history) acquire
  have released := List.filterMap_cons_none (l := history) release
  constructor <;> simp only [acquired, released, same, List.mem_cons, List.nodup_cons]
  · exact ⟨unused, accounts.fresh⟩
  · exact accounts.once
  · exact fun other listed => .inr (accounts.acquired other listed)
  · intro other held
    obtain rfl := Option.some.inj held
    exact ⟨.inl rfl, fun listed => unused (accounts.acquired _ listed), fun missing => unused (accounts.gone _ missing).1⟩
  · exact fun other missing => ⟨.inr (accounts.gone other missing).1, (accounts.gone other missing).2⟩
  · intro other listed
    rcases listed with rfl | listed
    · exact .inl rfl
    · exact .inr ((accounts.accounted other listed).resolve_left (Option.some_ne_none other).symm)

theorem release (accounts : Accounts acquires releases lost (some resource) history) (acquire : acquires event = none)
    (release : releases event = some resource)
    (same : ∀ resource, lost (event :: history) resource ↔ lost history resource) :
    Accounts acquires releases lost none (event :: history) := by
  have acquired := List.filterMap_cons_none (l := history) acquire
  have released := List.filterMap_cons_some (l := history) release
  obtain ⟨known, unreleased, kept⟩ := accounts.hand resource rfl
  constructor <;> simp only [acquired, released, same, List.mem_cons, List.nodup_cons]
  · exact accounts.fresh
  · exact ⟨unreleased, accounts.once⟩
  · intro other listed
    rcases listed with rfl | listed
    · exact known
    · exact accounts.acquired other listed
  · exact fun other held => absurd held (Option.some_ne_none other).symm
  · intro other missing
    refine ⟨(accounts.gone other missing).1, fun listed => ?_⟩
    rcases listed with rfl | listed
    · exact kept missing
    · exact (accounts.gone other missing).2 listed
  · intro other listed
    rcases accounts.accounted other listed with held | released | missing
    · exact .inr (.inl (.inl (Option.some.inj held).symm))
    · exact .inr (.inl (.inr released))
    · exact .inr (.inr missing)

theorem lose (accounts : Accounts acquires releases lost (some resource) history) (acquire : acquires event = none)
    (release : releases event = none)
    (more : ∀ other, lost (event :: history) other ↔ other = resource ∨ lost history other) :
    Accounts acquires releases lost none (event :: history) := by
  have acquired := List.filterMap_cons_none (l := history) acquire
  have released := List.filterMap_cons_none (l := history) release
  obtain ⟨known, unreleased, kept⟩ := accounts.hand resource rfl
  constructor <;> simp only [acquired, released, more]
  · exact accounts.fresh
  · exact accounts.once
  · exact accounts.acquired
  · exact fun other held => absurd held (Option.some_ne_none other).symm
  · intro other missing
    rcases missing with rfl | missing
    · exact ⟨known, unreleased⟩
    · exact accounts.gone other missing
  · intro other listed
    rcases accounts.accounted other listed with held | released | missing
    · exact .inr (.inr (.inl (Option.some.inj held).symm))
    · exact .inr (.inl released)
    · exact .inr (.inr (.inr missing))

end Accounts

end RuntimeHost.Foundation
