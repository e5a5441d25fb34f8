import Scoreboard.Table

/-!
# Tables with distinct keys

What is done to a table leaves its keys distinct (`nodup_keys_insert`, `nodup_keys_erase`). Where they are, the value
found under a key is the one that stands under it, in whatever order the entries are (`find?_eq_some_iff`).
-/

namespace Scoreboard.Table

variable {ν : Type} {key other : String} {value : ν} {e : String × ν} {entries : List (String × ν)} {t : Table ν}

/-! ### Entries -/

/-- Putting an entry adds its key at most. -/
theorem mem_keys_put (h : other ∈ (put key value entries).map (·.1)) :
    other = key ∨ other ∈ entries.map (·.1) := by
  rw [← find?_isSome_iff, find?_put] at h
  split at h
  · rename_i hkey
    exact .inl hkey.symm
  · exact .inr ((find?_isSome_iff other entries).mp h)

/-- Putting an entry keeps keys distinct. -/
theorem nodup_put (nodup : (entries.map (·.1)).Nodup) (key : String) (value : ν) :
    ((put key value entries).map (·.1)).Nodup := by
  induction entries with
  | nil => simp [put]
  | cons e rest ih =>
    rw [List.map_cons, List.nodup_cons] at nodup
    unfold put
    split
    · rename_i hkey
      rw [← hkey, List.map_cons, List.nodup_cons]
      exact nodup
    · rename_i hkey
      rw [List.map_cons, List.nodup_cons]
      refine ⟨fun hmem => ?_, ih nodup.2⟩
      obtain rfl | hrest := mem_keys_put hmem
      · exact hkey rfl
      · exact nodup.1 hrest

/-- After an entry has been put there is no other new one. -/
theorem mem_put (h : e ∈ put key value entries) : e = (key, value) ∨ e ∈ entries := by
  induction entries with
  | nil => exact .inl (List.mem_singleton.mp h)
  | cons first rest ih =>
    unfold put at h
    split at h
    · obtain rfl | hrest := List.mem_cons.mp h
      · exact .inl rfl
      · exact .inr (List.mem_cons_of_mem first hrest)
    · obtain rfl | hrest := List.mem_cons.mp h
      · exact .inr List.mem_cons_self
      · exact (ih hrest).imp_right (List.mem_cons_of_mem first)

/-- What is found is an entry. -/
theorem mem_of_find? (h : find? key entries = some value) : (key, value) ∈ entries := by
  induction entries with
  | nil => cases h
  | cons first rest ih =>
    unfold find? at h
    split at h
    · rename_i hkey
      cases h
      subst hkey
      exact List.mem_cons_self
    · exact List.mem_cons_of_mem _ (ih h)

/-- Where keys are distinct, what is found under a key is what stands under it. -/
theorem find?_eq_some_iff (nodup : (entries.map (·.1)).Nodup) :
    find? key entries = some value ↔ (key, value) ∈ entries := by
  refine ⟨mem_of_find?, fun h => ?_⟩
  induction entries with
  | nil => cases h
  | cons first rest ih =>
    rw [List.map_cons, List.nodup_cons] at nodup
    obtain rfl | hrest := List.mem_cons.mp h
    · exact if_pos rfl
    · have hkey : first.1 ≠ key := fun heq => nodup.1 (heq ▸ List.mem_map_of_mem hrest)
      exact (if_neg hkey).trans (ih nodup.2 hrest)

/-! ### Tables -/

theorem nodup_keys_insert (nodup : t.keys.Nodup) (key : String) (value : ν) :
    (t.insert key value).keys.Nodup :=
  nodup_put nodup key value

theorem nodup_keys_erase (nodup : t.keys.Nodup) (key : String) : (t.erase key).keys.Nodup :=
  nodup.sublist (List.filter_sublist.map _)

/-- Where keys are distinct, every entry is found. -/
theorem get?_of_mem (nodup : t.keys.Nodup) (h : (key, value) ∈ t.entries) : t.get? key = some value :=
  (find?_eq_some_iff nodup).mpr h

theorem mem_of_get? (h : t.get? key = some value) : (key, value) ∈ t.entries :=
  mem_of_find? h

end Scoreboard.Table
