import Mathlib

namespace RuntimeHost.Foundation

open Function

variable {κ β ν : Type}

/-- A map whose entries have keys of their own, some of them: each listed key is that of exactly one entry. -/
structure Indexes (f : κ → Option β) (key : β → Option ν) (listed : ν → Prop) : Prop where
  covers : ∀ v, (∃ k b, f k = some b ∧ key b = some v) ↔ listed v
  single : ∀ k k' b b' v, f k = some b → f k' = some b' → key b = some v → key b' = some v → k = k'

namespace Indexes

variable {f : κ → Option β} {key : β → Option ν} {listed listed' : ν → Prop} {k : κ} {b : β}

theorem empty : Indexes (fun _ : κ => none) key (fun _ => False) :=
  ⟨fun _ => ⟨nofun, nofun⟩, nofun⟩

theorem congr (indexes : Indexes f key listed) (same : ∀ v, listed' v ↔ listed v) : Indexes f key listed' :=
  ⟨fun v => (indexes.covers v).trans (same v).symm, indexes.single⟩

variable [DecidableEq κ]

theorem insert (indexes : Indexes f key listed) (unused : f k = none) (fresh : ∀ v, key b = some v → ¬listed v) :
    Indexes (update f k (some b)) key (fun v => key b = some v ∨ listed v) := by
  have unkeyed : ∀ k' b' v, f k' = some b' → key b' = some v → key b ≠ some v := by
    intro k' b' v held keyed same
    exact fresh v same ((indexes.covers v).mp ⟨k', b', held, keyed⟩)
  refine ⟨fun v => ⟨?_, ?_⟩, fun k' k'' b' b'' v => ?_⟩
  · rintro ⟨k', b', held, keyed⟩
    rw [update_apply] at held
    split at held
    · cases held
      exact .inl keyed
    · exact .inr ((indexes.covers v).mp ⟨k', b', held, keyed⟩)
  · rintro (keyed | old)
    · exact ⟨k, b, update_self .., keyed⟩
    · obtain ⟨k', b', held, keyed⟩ := (indexes.covers v).mpr old
      refine ⟨k', b', ?_, keyed⟩
      rw [update_of_ne]
      · exact held
      · rintro rfl
        rw [unused] at held
        cases held
  · simp only [update_apply]
    split <;> split
    · rename_i here here'
      exact fun _ _ _ _ => here.trans here'.symm
    · rintro ⟨⟩ held keyed keyed'
      exact absurd keyed (unkeyed k'' b'' v held keyed')
    · rintro held ⟨⟩ keyed keyed'
      exact absurd keyed' (unkeyed k' b' v held keyed)
    · exact indexes.single k' k'' b' b'' v

theorem erase (indexes : Indexes f key listed) (held : f k = some b) :
    Indexes (update f k none) key (fun v => key b ≠ some v ∧ listed v) := by
  refine ⟨fun v => ⟨?_, ?_⟩, fun k' k'' b' b'' v => ?_⟩
  · rintro ⟨k', b', held', keyed⟩
    rw [update_apply] at held'
    split at held'
    · cases held'
    · rename_i other
      refine ⟨fun same => ?_, (indexes.covers v).mp ⟨k', b', held', keyed⟩⟩
      exact other (indexes.single k' k b' b v held' held keyed same)
  · rintro ⟨gone, old⟩
    obtain ⟨k', b', held', keyed⟩ := (indexes.covers v).mpr old
    refine ⟨k', b', ?_, keyed⟩
    rw [update_of_ne]
    · exact held'
    · rintro rfl
      rw [held] at held'
      cases held'
      exact gone keyed
  · simp only [update_apply]
    split
    · nofun
    · split
      · nofun
      · exact indexes.single k' k'' b' b'' v

end Indexes

end RuntimeHost.Foundation
