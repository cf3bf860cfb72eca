import RuntimeHost.Sdk.Codec

namespace RuntimeHost.Sdk

open Foundation

namespace Footprint

structure SameSize (f g : Footprint) : Prop where
  wire : f.wire.length = g.wire.length
  content : f.content = g.content
  values : f.values = g.values

namespace SameSize

variable {f g h k : Footprint}

theorem refl (f : Footprint) : SameSize f f := ⟨rfl, rfl, rfl⟩

theorem trans (first : SameSize f g) (second : SameSize g h) : SameSize f h where
  wire := first.wire.trans second.wire
  content := first.content.trans second.content
  values := first.values.trans second.values

theorem append (first : SameSize f g) (second : SameSize h k) : SameSize (f ++ h) (g ++ k) where
  wire := by simp [first.wire, second.wire]
  content := by simp [first.content, second.content]
  values := by simp [first.values, second.values]

theorem left_comm (f g h : Footprint) : SameSize (f ++ (g ++ h)) (g ++ (f ++ h)) where
  wire := by simp [Nat.add_left_comm]
  content := by simp [Nat.add_left_comm]
  values := by simp [Nat.add_left_comm]

theorem within (same : SameSize f g) {content values : Nat} (fits : f.Within content values) :
    g.Within content values := by
  unfold Within at fits ⊢
  rw [← same.content, ← same.values]
  exact fits

end SameSize

end Footprint

open Footprint

variable {es es' : List (String × Value)}

theorem entriesFootprint_perm (reordered : es.Perm es') :
    SameSize (entriesFootprint es) (entriesFootprint es') := by
  induction reordered with
  | nil => exact .refl _
  | cons e _ ih =>
    rw [entriesFootprint_cons, entriesFootprint_cons]
    exact .append (.refl _) ih
  | swap e e' es =>
    obtain ⟨key, v⟩ := e
    obtain ⟨key', v'⟩ := e'
    rw [entriesFootprint_cons, entriesFootprint_cons, entriesFootprint_cons, entriesFootprint_cons]
    exact .left_comm _ _ _
  | trans _ _ first second => exact first.trans second

theorem map_footprint_perm (reordered : es.Perm es') :
    SameSize (Value.map es).footprint (Value.map es').footprint := by
  unfold Value.footprint
  rw [Value.payload, Value.payload, reordered.length_eq]
  exact .append (.refl _) (.append (.refl _) (entriesFootprint_perm reordered))

theorem map_fits_perm (reordered : es.Perm es') {levels : Nat} (fits : (Value.map es).Fits levels) :
    (Value.map es').Fits levels := by
  unfold Value.Fits at fits ⊢
  obtain ⟨deep, size, distinct, each⟩ := fits
  refine ⟨deep, reordered.length_eq ▸ size, (reordered.map Prod.fst).nodup_iff.mp distinct, ?_⟩
  rw [entriesFit_iff] at each ⊢
  intro e present
  exact each e (reordered.mem_iff.mpr present)

theorem map_encodable_perm (reordered : es.Perm es') (encodable : (Value.map es).Encodable) :
    (Value.map es').Encodable :=
  ⟨map_fits_perm reordered encodable.1, (map_footprint_perm reordered).within encodable.2⟩

section Replace

variable {before after : List (String × Value)} {key : String} {v v' : Value}

theorem entriesFootprint_append (es es' : List (String × Value)) :
    entriesFootprint (es ++ es') = entriesFootprint es ++ entriesFootprint es' := by
  induction es with
  | nil => simp
  | cons e es ih =>
    rw [List.cons_append, entriesFootprint_cons, entriesFootprint_cons, ih, ← append_assoc]

theorem map_footprint_replace (same : SameSize v.footprint v'.footprint) :
    SameSize (Value.map (before ++ (key, v) :: after)).footprint
      (Value.map (before ++ (key, v') :: after)).footprint := by
  unfold Value.footprint
  rw [Value.payload, Value.payload, entriesFootprint_append, entriesFootprint_append,
    entriesFootprint_cons, entriesFootprint_cons]
  have length : (before ++ (key, v) :: after).length = (before ++ (key, v') :: after).length := by simp
  rw [length]
  apply SameSize.append (.refl _)
  apply SameSize.append (.refl _)
  apply SameSize.append (.refl _)
  exact .append (.append (.refl _) same) (.refl _)

theorem map_encodable_replace (same : SameSize v.footprint v'.footprint)
    (fit : ∀ levels, v.Fits levels → v'.Fits levels)
    (encodable : (Value.map (before ++ (key, v) :: after)).Encodable) :
    (Value.map (before ++ (key, v') :: after)).Encodable := by
  refine ⟨?_, (map_footprint_replace same).within encodable.2⟩
  have fits := encodable.1
  unfold Value.Fits at fits ⊢
  obtain ⟨deep, size, distinct, each⟩ := fits
  refine ⟨deep, by simpa using size, by simpa using distinct, ?_⟩
  rw [entriesFit_iff] at each ⊢
  intro e present
  rcases List.mem_append.mp present with early | late
  · exact each e (List.mem_append_left _ early)
  · rcases List.mem_cons.mp late with here | later
    · have old := each (key, v) (by simp)
      rw [here]
      exact ⟨old.1, fit _ old.2⟩
    · exact each e (by simp [later])

end Replace

end RuntimeHost.Sdk
