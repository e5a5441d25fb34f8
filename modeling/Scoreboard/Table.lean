/-!
# Tables keyed by text

A table keeps its entries in the order in which their keys first came. Putting a value under a key
that is there replaces the value in place. The view of a table is `get?`.
-/

namespace Scoreboard

/-- Values under text keys, in the order in which the keys came. -/
structure Table (ν : Type) where
  entries : List (String × ν) := []
  deriving DecidableEq, Repr

namespace Table

variable {ν : Type}

/-- The value in a list of entries under a key. -/
def find? (key : String) : List (String × ν) → Option ν
  | [] => none
  | (k, v) :: rest => if k = key then some v else find? key rest

/-- Puts a value under a key: in place of the one that is there, else at the end. -/
def put (key : String) (value : ν) : List (String × ν) → List (String × ν)
  | [] => [(key, value)]
  | (k, v) :: rest => if k = key then (key, value) :: rest else (k, v) :: put key value rest

/-- What is put under a key is found there, and what was under another one stays. -/
theorem find?_put (key other : String) (value : ν) (entries : List (String × ν)) :
    find? other (put key value entries) = if key = other then some value else find? other entries := by
  induction entries with
  | nil => simp [find?, put]
  | cons e rest ih =>
    obtain ⟨k, v⟩ := e
    by_cases hk : k = key
    · subst hk; by_cases ho : k = other <;> simp [find?, put, ho]
    · by_cases ho : k = other
      · subst ho; simp [find?, put, hk, Ne.symm hk]
      · simp [find?, put, hk, ho, ih]

/-- A key that is filtered out is not found, and the others are. -/
theorem find?_filter (key other : String) (entries : List (String × ν)) :
    find? other (entries.filter (·.1 ≠ key)) = if key = other then none else find? other entries := by
  induction entries with
  | nil => simp [find?]
  | cons e rest ih =>
    obtain ⟨k, v⟩ := e
    by_cases hk : k = key
    · subst hk; by_cases ho : k = other <;> simp_all [find?]
    · by_cases ho : k = other
      · subst ho; simp [find?, hk, Ne.symm hk]
      · simp_all [find?]

/-- A key is found if some entry has it. -/
theorem find?_isSome_iff (key : String) (entries : List (String × ν)) :
    (find? key entries).isSome ↔ key ∈ entries.map (·.1) := by
  induction entries with
  | nil => simp [find?]
  | cons e rest ih =>
    obtain ⟨k, v⟩ := e
    by_cases hk : k = key
    · simp [find?, hk]
    · simp [find?, hk, Ne.symm hk, ih]

/-- The value under a key. -/
def get? (t : Table ν) (key : String) : Option ν := find? key t.entries

/-- Whether there is a value under a key. -/
def contains (t : Table ν) (key : String) : Bool := (t.get? key).isSome

/-- The keys, in the order in which they came. -/
def keys (t : Table ν) : List String := t.entries.map (·.1)

/-- The values, in the order of their keys. -/
def values (t : Table ν) : List ν := t.entries.map (·.2)

/-- The number of keys. -/
def size (t : Table ν) : Nat := t.entries.length

/-- Puts a value under a key. -/
def insert (t : Table ν) (key : String) (value : ν) : Table ν := ⟨put key value t.entries⟩

/-- Puts a value under a key that has none, and leaves one that is there. -/
def insertNew (t : Table ν) (key : String) (value : ν) : Table ν :=
  if t.contains key then t else t.insert key value

/-- Takes a key out. -/
def erase (t : Table ν) (key : String) : Table ν := ⟨t.entries.filter (·.1 ≠ key)⟩

/-- What is inserted is read back, and other keys are as before. -/
@[simp] theorem get?_insert (t : Table ν) (key other : String) (value : ν) :
    (t.insert key value).get? other = if key = other then some value else t.get? other :=
  find?_put key other value t.entries

/-- A key that is taken out is gone, and other keys are as before. -/
@[simp] theorem get?_erase (t : Table ν) (key other : String) :
    (t.erase key).get? other = if key = other then none else t.get? other :=
  find?_filter key other t.entries

/-- A key that has a value keeps it when another one is to be inserted as new. -/
theorem get?_insertNew (t : Table ν) (key other : String) (value : ν) :
    (t.insertNew key value).get? other =
      if key = other then some ((t.get? key).getD value) else t.get? other := by
  unfold insertNew contains
  cases h : t.get? key with
  | none => simp
  | some v =>
    by_cases ho : key = other
    · subst ho; simpa using h
    · simp [ho]

theorem mem_keys_iff {t : Table ν} {key : String} : key ∈ t.keys ↔ (t.get? key).isSome :=
  (find?_isSome_iff key t.entries).symm

theorem notMem_keys_iff {t : Table ν} {key : String} : key ∉ t.keys ↔ t.get? key = none := by
  rw [mem_keys_iff, Option.not_isSome_iff_eq_none]

/-! ### Several insertions -/

/-- Insertions leave the keys that they are not about. -/
theorem get?_foldl_insert_of_notMem {bindings : List (String × ν)} {key : String}
    (h : key ∉ bindings.map (·.1)) (t : Table ν) :
    (bindings.foldl (fun t b => t.insert b.1 b.2) t).get? key = t.get? key := by
  induction bindings generalizing t with
  | nil => rfl
  | cons b bindings ih =>
    rw [List.map_cons, List.mem_cons, not_or] at h
    rw [List.foldl_cons, ih h.2, get?_insert, if_neg (Ne.symm h.1)]

/-- A key stays whatever is inserted. -/
theorem isSome_get?_foldl_insert {t : Table ν} {key : String} (h : (t.get? key).isSome)
    (bindings : List (String × ν)) :
    ((bindings.foldl (fun t b => t.insert b.1 b.2) t).get? key).isSome := by
  induction bindings generalizing t with
  | nil => exact h
  | cons b bindings ih =>
    apply ih
    rw [get?_insert]
    split
    · rfl
    · exact h

/-- Among insertions of distinct keys each takes effect. -/
theorem get?_foldl_insert_of_mem {bindings : List (String × ν)} {key : String} {value : ν}
    (nodup : (bindings.map (·.1)).Nodup) (h : (key, value) ∈ bindings) (t : Table ν) :
    (bindings.foldl (fun t b => t.insert b.1 b.2) t).get? key = some value := by
  induction bindings generalizing t with
  | nil => cases h
  | cons b bindings ih =>
    rw [List.map_cons, List.nodup_cons] at nodup
    rw [List.foldl_cons]
    rcases List.mem_cons.mp h with rfl | h
    · rw [get?_foldl_insert_of_notMem nodup.1, get?_insert, if_pos rfl]
    · exact ih nodup.2 h _

/-- A new key comes after the others. -/
theorem keys_insert_of_notMem {t : Table ν} {key : String} (h : key ∉ t.keys) (value : ν) :
    (t.insert key value).keys = t.keys ++ [key] := by
  have hput : ∀ entries : List (String × ν), key ∉ entries.map (·.1) →
      (put key value entries).map (·.1) = entries.map (·.1) ++ [key] := by
    intro entries
    induction entries with
    | nil => exact fun _ => rfl
    | cons e rest ih =>
      intro hmem
      rw [List.map_cons, List.mem_cons, not_or] at hmem
      rw [put, if_neg (Ne.symm hmem.1), List.map_cons, ih hmem.2, List.map_cons, List.cons_append]
  exact hput t.entries h

/-- Distinct new keys come after the others in the order in which they are inserted. -/
theorem keys_foldl_insert {bindings : List (String × ν)} (nodup : (bindings.map (·.1)).Nodup) {t : Table ν}
    (h : ∀ b ∈ bindings, b.1 ∉ t.keys) :
    (bindings.foldl (fun t b => t.insert b.1 b.2) t).keys = t.keys ++ bindings.map (·.1) := by
  induction bindings generalizing t with
  | nil => exact (List.append_nil _).symm
  | cons b bindings ih =>
    rw [List.map_cons, List.nodup_cons] at nodup
    have hb : b.1 ∉ t.keys := h b List.mem_cons_self
    have hothers : ∀ b' ∈ bindings, b'.1 ∉ (t.insert b.1 b.2).keys := by
      intro b' hb'
      rw [keys_insert_of_notMem hb, List.mem_append, List.mem_singleton, not_or]
      refine ⟨h b' (List.mem_cons_of_mem b hb'), fun heq => nodup.1 ?_⟩
      rw [← heq]
      exact List.mem_map_of_mem hb'
    rw [List.foldl_cons, ih nodup.2 hothers, keys_insert_of_notMem hb, List.append_assoc]
    rfl

end Table

end Scoreboard
