import Mathlib

namespace RuntimeHost.Foundation

variable {Tid : Type} {n : Nat} {holds holds' : Tid → Prop} {t : Tid}

def Census (n : Nat) (holds : Tid → Prop) : Prop :=
  ∃ held : Finset Tid, held.card = n ∧ ∀ t, t ∈ held ↔ holds t

namespace Census

theorem congr (census : Census n holds) (same : ∀ t, holds' t ↔ holds t) : Census n holds' := by
  obtain ⟨held, size, members⟩ := census
  exact ⟨held, size, fun t => (members t).trans (same t).symm⟩

theorem of_none (nobody : ∀ t, ¬holds t) : Census 0 holds :=
  ⟨∅, rfl, fun t => by simpa using nobody t⟩

theorem eq_zero (census : Census n holds) (nobody : ∀ t, ¬holds t) : n = 0 := by
  obtain ⟨held, rfl, members⟩ := census
  rw [Finset.card_eq_zero, Finset.eq_empty_iff_forall_notMem]
  exact fun t member => nobody t ((members t).mp member)

theorem nobody (census : Census 0 holds) (t : Tid) : ¬holds t := by
  obtain ⟨held, size, members⟩ := census
  rw [Finset.card_eq_zero] at size
  subst size
  exact fun here => by simpa using (members t).mpr here

theorem join [DecidableEq Tid] (census : Census n holds) (outside : ¬holds t)
    (joined : ∀ t', holds' t' ↔ t' = t ∨ holds t') : Census (n + 1) holds' := by
  obtain ⟨held, rfl, members⟩ := census
  refine ⟨insert t held, Finset.card_insert_of_notMem (mt (members t).mp outside), fun t' => ?_⟩
  rw [Finset.mem_insert, members, joined]

theorem leave [DecidableEq Tid] (census : Census n holds) (inside : holds t)
    (left : ∀ t', holds' t' ↔ t' ≠ t ∧ holds t') : ∃ m, n = m + 1 ∧ Census m holds' := by
  obtain ⟨held, rfl, members⟩ := census
  have here := (members t).mpr inside
  refine ⟨(held.erase t).card, (Finset.card_erase_add_one here).symm, held.erase t, rfl, fun t' => ?_⟩
  rw [Finset.mem_erase, members, left]

theorem move [DecidableEq Tid] {S : Type} {L : Tid → S} {P : S → Prop} [DecidablePred P]
    (census : Census n fun t' => P (L t')) (t : Tid) (y : S) :
    ∃ m, (Census m fun t' => P (Function.update L t y t')) ∧
      m + (if P (L t) then 1 else 0) = n + if P y then 1 else 0 := by
  have moved : ∀ t', P (Function.update L t y t') ↔ (if t' = t then P y else P (L t')) := fun t' => by
    rw [Function.update_apply]
    split <;> rfl
  by_cases before : P (L t) <;> by_cases after : P y
  · refine ⟨n, census.congr fun t' => ?_, by simp [before, after]⟩
    rw [moved]
    split
    · rename_i same
      simp [same, before, after]
    · rfl
  · obtain ⟨m, rfl, left⟩ : ∃ m, n = m + 1 ∧ Census m fun t' => P (Function.update L t y t') :=
      census.leave before fun t' => by
        rw [moved]
        split
        · simp_all
        · simp_all
    exact ⟨m, left, by simp [before, after]⟩
  · refine ⟨n + 1, census.join before fun t' => ?_, by simp [before, after]⟩
    rw [moved]
    split
    · simp_all
    · simp_all
  · refine ⟨n, census.congr fun t' => ?_, by simp [before, after]⟩
    rw [moved]
    split
    · rename_i same
      simp [same, before, after]
    · rfl

end Census

end RuntimeHost.Foundation
