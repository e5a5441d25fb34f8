import Scoreboard.Proofs.Namespaces
import Scoreboard.Trigger

/-!
# Names chosen for triggers are free

A search finds the first word that has a free name (`search_eq_some_iff`). So whatever the draws are, the names
that `Trigger.allocateMany` chooses are as many as asked for, were not taken before and are no two the same. Each is
made of the alphabet's symbols only (`isSymbol_of_mem_allocateMany`). A word can be read back from its symbols, so
different words give different names (`name_inj`).
-/

namespace Scoreboard

namespace Draws

/-- The draws after a number of words. -/
def skip (draws : Draws) : Nat → Draws
  | 0 => draws
  | n + 1 => draws.next.2.skip n

/-- The word that comes after a number of others. -/
def word (draws : Draws) (n : Nat) : UInt32 := (draws.skip n).next.1

end Draws

namespace Trigger

variable {token : String} {taken names : List String} {draws draws' : Draws} {n : Nat}

/-! ### One name -/

/-- The search finds the name of the first of its words that is free, and uses up the words so far. -/
theorem search_eq_some_iff {chosen : String} : search token taken n draws = some (chosen, draws') ↔
    ∃ k < n, (∀ j < k, name token (draws.word j) ∈ taken) ∧ name token (draws.word k) ∉ taken ∧
      chosen = name token (draws.word k) ∧ draws' = draws.skip (k + 1) := by
  -- the first word is tried now, the others are those of the search that goes on with the draws left
  induction n generalizing draws with
  | zero => simp [search]
  | succ n ih =>
    have hfirst : name token (draws.word 0) = name token draws.next.1 := rfl
    simp only [search]
    split
    · rename_i htaken
      rw [ih]
      constructor
      · rintro ⟨k, hk, passed, free, rfl, rfl⟩
        refine ⟨k + 1, Nat.succ_lt_succ hk, fun j hj => ?_, free, rfl, rfl⟩
        cases j with
        | zero => exact htaken
        | succ j => exact passed j (Nat.lt_of_succ_lt_succ hj)
      · rintro ⟨k, hk, passed, free, rfl, rfl⟩
        cases k with
        | zero => exact absurd htaken free
        | succ k =>
          exact ⟨k, Nat.lt_of_succ_lt_succ hk, fun j hj => passed (j + 1) (Nat.succ_lt_succ hj), free, rfl, rfl⟩
    · rename_i hfree
      constructor
      · intro h
        cases h
        exact ⟨0, Nat.succ_pos n, fun j hj => absurd hj (Nat.not_lt_zero j), hfree, rfl, rfl⟩
      · rintro ⟨k, -, passed, -, rfl, rfl⟩
        cases k with
        | zero => rfl
        | succ k => exact absurd (passed 0 (Nat.succ_pos k)) hfree

/-- The search fails just if the names of all its words are taken. -/
theorem search_eq_none_iff :
    search token taken n draws = none ↔ ∀ k < n, name token (draws.word k) ∈ taken := by
  induction n generalizing draws with
  | zero => simp [search]
  | succ n ih =>
    simp only [search]
    split
    · rename_i htaken
      rw [ih]
      constructor
      · intro h k hk
        cases k with
        | zero => exact htaken
        | succ k => exact h k (Nat.lt_of_succ_lt_succ hk)
      · intro h k hk
        exact h (k + 1) (Nat.succ_lt_succ hk)
    · rename_i hfree
      constructor
      · intro h
        cases h
      · intro h
        exact absurd (h 0 (Nat.succ_pos n)) hfree

/-- A name that is chosen is that of a word, and was not taken. -/
theorem allocate_spec {chosen : String} (h : allocate token taken draws = some (chosen, draws')) :
    (∃ word, chosen = name token word) ∧ chosen ∉ taken := by
  obtain ⟨k, -, -, free, rfl, -⟩ := search_eq_some_iff.mp h
  exact ⟨⟨_, rfl⟩, free⟩

/-! ### Several names -/

/-- Several names are chosen one after another, each free of those before it as well. -/
theorem allocateMany_succ_eq_some_iff :
    allocateMany token (n + 1) taken draws = some (names, draws') ↔
      ∃ name after rest, allocate token taken draws = some (name, after) ∧
        allocateMany token n (name :: taken) after = some (rest, draws') ∧ names = name :: rest := by
  rw [allocateMany]
  constructor
  · intro h
    obtain ⟨⟨name, after⟩, hname, h⟩ := Option.bind_eq_some_iff.mp h
    obtain ⟨⟨rest, last⟩, hrest, h⟩ := Option.bind_eq_some_iff.mp h
    cases h
    exact ⟨name, after, rest, hname, hrest, rfl⟩
  · rintro ⟨name, after, rest, hname, hrest, rfl⟩
    simp [hname, hrest]

/-- As many names are chosen as asked for. -/
theorem length_allocateMany (h : allocateMany token n taken draws = some (names, draws')) :
    names.length = n := by
  induction n generalizing taken draws names with
  | zero =>
    cases h
    rfl
  | succ n ih =>
    obtain ⟨name, after, rest, _, hrest, rfl⟩ := allocateMany_succ_eq_some_iff.mp h
    rw [List.length_cons, ih hrest]

/-- None of the names chosen was taken. -/
theorem allocateMany_fresh (h : allocateMany token n taken draws = some (names, draws')) :
    ∀ name ∈ names, name ∉ taken := by
  induction n generalizing taken draws names with
  | zero =>
    cases h
    exact fun _ hname => absurd hname List.not_mem_nil
  | succ n ih =>
    obtain ⟨first, after, rest, hfirst, hrest, rfl⟩ := allocateMany_succ_eq_some_iff.mp h
    intro name hname
    rcases List.mem_cons.mp hname with rfl | hname
    · exact (allocate_spec hfirst).2
    · intro htaken
      exact ih hrest name hname (List.mem_cons_of_mem first htaken)

/-- A name is taken as soon as it is chosen, so it is not chosen again. -/
theorem nodup_allocateMany (h : allocateMany token n taken draws = some (names, draws')) :
    names.Nodup := by
  induction n generalizing taken draws names with
  | zero =>
    cases h
    exact List.nodup_nil
  | succ n ih =>
    obtain ⟨first, after, rest, _, hrest, rfl⟩ := allocateMany_succ_eq_some_iff.mp h
    refine List.nodup_cons.mpr ⟨fun hmem => ?_, ih hrest⟩
    exact allocateMany_fresh hrest first hmem List.mem_cons_self

/-! ### What names are made of -/

/-- A token has names of its own for different words. -/
theorem name_inj {v w : UInt32} (h : Trigger.name token v = Trigger.name token w) : v = w := by
  have hsymbols := (String.append_right_inj _).mp h
  exact Base64.encodeWord_inj (String.ofList_injective hsymbols)

/-- All characters of a trigger's name are Base64 symbols. -/
theorem isSymbol_of_mem_name (plugin : Plugin) (word : UInt32) :
    ∀ c ∈ (Trigger.name plugin.namespaceToken word).toList, Base64.isSymbol c := by
  intro c hc
  have parts : (Trigger.name plugin.namespaceToken word).toList =
      family.toList ++ plugin.namespaceToken.toList ++ "_".toList ++ Base64.encodeWord word := by
    simp only [Trigger.name, String.toList_append, String.toList_ofList]
  have hfamily : family.toList.all Base64.isSymbol := by decide
  have hbetween : "_".toList.all Base64.isSymbol := by decide
  rw [parts, List.mem_append, List.mem_append, List.mem_append] at hc
  rcases hc with ((hc | hc) | hc) | hc
  · exact List.all_eq_true.mp hfamily c hc
  · exact Plugin.isSymbol_of_mem_token hc
  · exact List.all_eq_true.mp hbetween c hc
  · exact Base64.isSymbol_of_mem_encode hc

/-- All characters of the names chosen are Base64 symbols. -/
theorem isSymbol_of_mem_allocateMany {plugin : Plugin}
    (h : allocateMany plugin.namespaceToken n taken draws = some (names, draws')) :
    ∀ name ∈ names, ∀ c ∈ name.toList, Base64.isSymbol c := by
  induction n generalizing taken draws names with
  | zero =>
    cases h
    exact fun _ hname => absurd hname List.not_mem_nil
  | succ n ih =>
    obtain ⟨first, after, rest, hfirst, hrest, rfl⟩ := allocateMany_succ_eq_some_iff.mp h
    intro name hname
    rcases List.mem_cons.mp hname with rfl | hname
    · obtain ⟨⟨word, rfl⟩, -⟩ := allocate_spec hfirst
      exact isSymbol_of_mem_name plugin word
    · exact ih hrest name hname

/-- A name chosen has neither a space nor a line break, so it stands in a command like one word. -/
theorem plain_of_mem_allocateMany {plugin : Plugin} {name : String}
    (h : allocateMany plugin.namespaceToken n taken draws = some (names, draws')) (hname : name ∈ names) :
    ' ' ∉ name.toList ∧ '\n' ∉ name.toList := by
  have symbols := isSymbol_of_mem_allocateMany h name hname
  exact ⟨fun hspace => absurd (symbols _ hspace) (by decide), fun hbreak => absurd (symbols _ hbreak) (by decide)⟩

end Trigger

end Scoreboard
