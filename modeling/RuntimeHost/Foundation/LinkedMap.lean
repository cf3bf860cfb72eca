import Mathlib

namespace RuntimeHost.Foundation

/-- A map that keeps its keys in the order in which they were first put. -/
structure LinkedMap (κ ν : Type) where
  entries : List (κ × ν)
  nodup : (entries.map Prod.fst).Nodup

namespace LinkedMap

variable {κ ν : Type}

def empty : LinkedMap κ ν := ⟨[], .nil⟩

def keys (m : LinkedMap κ ν) : List κ := m.entries.map Prod.fst

def values (m : LinkedMap κ ν) : List ν := m.entries.map Prod.snd

variable [DecidableEq κ]

def get (m : LinkedMap κ ν) (k : κ) : Option ν := (m.entries.find? fun entry => entry.1 = k).map Prod.snd

theorem replace_nodup {entries : List (κ × ν)} (nodup : (entries.map Prod.fst).Nodup) (k : κ) (v : ν) :
    ((entries.map fun entry => if entry.1 = k then (k, v) else entry).map Prod.fst).Nodup := by
  have same : (entries.map fun entry => if entry.1 = k then (k, v) else entry).map Prod.fst = entries.map Prod.fst := by
    rw [List.map_map]
    refine List.map_congr_left fun entry _ => ?_
    by_cases here : entry.1 = k <;> simp [here]
  rwa [same]

omit [DecidableEq κ] in
theorem append_nodup {entries : List (κ × ν)} (nodup : (entries.map Prod.fst).Nodup) {k : κ}
    (fresh : k ∉ entries.map Prod.fst) (v : ν) : ((entries ++ [(k, v)]).map Prod.fst).Nodup := by
  rw [List.map_append]
  refine List.nodup_append.mpr ⟨nodup, List.nodup_singleton _, fun k' present k'' last same => ?_⟩
  obtain rfl := List.mem_singleton.mp last
  exact fresh (same ▸ present)

def put (m : LinkedMap κ ν) (k : κ) (v : ν) : LinkedMap κ ν :=
  if fresh : k ∉ m.entries.map Prod.fst then ⟨m.entries ++ [(k, v)], append_nodup m.nodup fresh v⟩
  else ⟨m.entries.map fun entry => if entry.1 = k then (k, v) else entry, replace_nodup m.nodup k v⟩

def remove (m : LinkedMap κ ν) (k : κ) : LinkedMap κ ν :=
  ⟨m.entries.filter fun entry => entry.1 ≠ k, m.nodup.sublist (List.filter_sublist.map _)⟩

variable {m : LinkedMap κ ν} {k k' : κ} {v v' : ν}

theorem get_eq_some_iff : m.get k = some v ↔ (k, v) ∈ m.entries := by
  unfold get
  constructor
  · intro got
    obtain ⟨⟨k', v'⟩, found, rfl⟩ := Option.map_eq_some_iff.mp got
    have same : k' = k := by simpa using List.find?_some found
    subst same
    exact List.mem_of_find?_eq_some found
  · intro present
    cases found : m.entries.find? fun entry => entry.1 = k with
    | none =>
      have missing := List.find?_eq_none.mp found (k, v) present
      simp at missing
    | some entry =>
      have same : entry.1 = k := by simpa using List.find?_some found
      have unique := List.inj_on_of_nodup_map m.nodup (List.mem_of_find?_eq_some found) present same
      rw [unique]
      rfl

theorem get_eq_none_iff : m.get k = none ↔ k ∉ m.keys := by
  simp only [get, keys, Option.map_eq_none_iff, List.find?_eq_none, decide_eq_true_eq, List.mem_map, not_exists, not_and]

@[simp] theorem get_put_self : (m.put k v).get k = some v := by
  rw [get_eq_some_iff]
  unfold put
  split
  · exact List.mem_append_right _ List.mem_cons_self
  · rename_i present
    rw [not_not] at present
    obtain ⟨entry, listed, rfl⟩ := List.mem_map.mp present
    exact List.mem_map.mpr ⟨entry, listed, if_pos rfl⟩

theorem get_put_ne (other : k' ≠ k) : (m.put k v).get k' = m.get k' := by
  refine Option.ext fun v' => ?_
  rw [get_eq_some_iff, get_eq_some_iff]
  unfold put
  split
  · simp [other]
  · simp only [List.mem_map]
    constructor
    · rintro ⟨entry, listed, same⟩
      split at same
      · cases same
        exact absurd rfl other
      · exact same ▸ listed
    · intro listed
      exact ⟨_, listed, if_neg other⟩

@[simp] theorem get_remove_self : (m.remove k).get k = none := by
  rw [get_eq_none_iff]
  simp [keys, remove]

theorem get_remove_ne (other : k' ≠ k) : (m.remove k).get k' = m.get k' := by
  refine Option.ext fun v' => ?_
  rw [get_eq_some_iff, get_eq_some_iff]
  simp [remove, other]

end LinkedMap

end RuntimeHost.Foundation
