import Mathlib

namespace RuntimeHost.Foundation

variable {Event : Type} {permitted permitted' : List Event → Event → Prop} {history : List Event} {event : Event}

/-- Every event of a history, which has the newest first, is permitted by the events before it. -/
def Legal (permitted : List Event → Event → Prop) (history : List Event) : Prop :=
  ∀ later event earlier, history = later ++ event :: earlier → permitted earlier event

theorem legal_nil : Legal permitted [] := by
  intro later event earlier shape
  cases later <;> cases shape

theorem legal_cons (legal : Legal permitted history) (allowed : permitted history event) :
    Legal permitted (event :: history) := by
  intro later event' earlier shape
  rcases List.cons_eq_append_iff.mp shape with ⟨rfl, whole⟩ | ⟨later', rfl, rest⟩
  · cases whole
    exact allowed
  · exact legal later' event' earlier rest

theorem legal_append {events : List Event} (legal : Legal permitted history)
    (always : ∀ event ∈ events, ∀ earlier, permitted earlier event) : Legal permitted (events ++ history) := by
  induction events with
  | nil => exact legal
  | cons event events ih =>
    exact legal_cons (ih fun event' listed => always event' (.tail _ listed)) (always event (.head _) _)

theorem Legal.of_mem (legal : Legal permitted history) (present : event ∈ history) :
    ∃ earlier, permitted earlier event ∧ ∀ event' ∈ earlier, event' ∈ history := by
  obtain ⟨later, earlier, shape⟩ := List.append_of_mem present
  exact ⟨earlier, legal later event earlier shape, fun event' old => by simp [shape, old]⟩

end RuntimeHost.Foundation
