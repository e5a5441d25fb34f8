import Mathlib.Data.Nat.ModEq
import Mathlib.Data.Set.Card
import Mathlib.Data.Fintype.Card
import Scoreboard.Proofs.Trigger

/-!
# Looking for free names

Words are drawn until one of them has a free name, so what is chosen is said by the places of the words
(`Trigger.Chosen`): those passed over have names that are taken. `Trigger.allocateMany` chooses just these names
whenever there are any (`allocateMany_eq_some_iff`), and where it chooses none, all the words still to come have
names that are taken (`allocateMany_eq_none_iff`); so that it looks at a limited number of words leaves nothing
out.

The multiplier of the fixed sequence is odd, so it has an inverse, and as many words in a row as there are words
visit each of them once (`Draws.fallback_eq_iff`). Names of different words differ, so a name is free among these
unless all of them are taken (`lt_of_passed`), and a namespace with a name left is never full
(`exists_allocateMany`).
-/

namespace Scoreboard

namespace Draws

variable {draws : Draws} {m n : Nat} {w : UInt32}

/-- After the words that are given come those of the fixed sequence, from where it has been used up to. -/
theorem word_of_length_le (h : draws.given.length ≤ n) :
    draws.word n = fallback (draws.used + (n - draws.given.length)) := by
  obtain ⟨given, used⟩ := draws
  -- the induction drops a given word with each step, and then goes along the sequence
  induction n generalizing given used with
  | zero =>
    obtain rfl := List.length_eq_zero_iff.mp (Nat.le_zero.mp h)
    rfl
  | succ n ih =>
    cases given with
    | nil =>
      have hrest := ih [] (used + 1) (Nat.zero_le n)
      simp only [List.length_nil, Nat.sub_zero] at hrest ⊢
      rw [show used + (n + 1) = used + 1 + n by omega]
      exact hrest
    | cons w given =>
      have hrest := ih given used (Nat.le_of_succ_le_succ h)
      rw [List.length_cons, Nat.add_sub_add_right]
      exact hrest

/-! ### The fixed sequence -/

/-- The inverse of the sequence's multiplier says where in the sequence a word is. -/
theorem fallback_eq_iff : fallback n = w ↔ n ≡ w.toNat * 244002641 [MOD 2 ^ 32] := by
  -- the multiplier is odd, so it has an inverse
  have inverse : 2654435761 * 244002641 ≡ 1 [MOD 2 ^ 32] := by decide
  have back (k : Nat) : k * (2654435761 * 244002641) ≡ k [MOD 2 ^ 32] := by
    simpa using inverse.mul_left k
  have hw : w.toNat % 2 ^ 32 = w.toNat := Nat.mod_eq_of_lt w.toNat_lt
  have hmod : fallback n = w ↔ n * 2654435761 ≡ w.toNat [MOD 2 ^ 32] := by
    rw [fallback, UInt32.ofNat_eq_iff_mod_eq_toNat, Nat.ModEq, hw]
  rw [hmod]
  constructor
  · intro h
    calc n ≡ n * (2654435761 * 244002641) [MOD 2 ^ 32] := (back n).symm
      _ = n * 2654435761 * 244002641 := (Nat.mul_assoc n _ _).symm
      _ ≡ w.toNat * 244002641 [MOD 2 ^ 32] := h.mul_right 244002641
  · intro h
    calc n * 2654435761 ≡ w.toNat * 244002641 * 2654435761 [MOD 2 ^ 32] := h.mul_right 2654435761
      _ = w.toNat * (2654435761 * 244002641) := by rw [Nat.mul_assoc, Nat.mul_comm 244002641]
      _ ≡ w.toNat [MOD 2 ^ 32] := back w.toNat

/-- No word comes twice in a window of the sequence. -/
theorem fallback_inj {i j : Nat} (hi : i < 2 ^ 32) (hj : j < 2 ^ 32)
    (h : fallback (m + i) = fallback (m + j)) : i = j := by
  have hmod : i ≡ j [MOD 2 ^ 32] :=
    ((fallback_eq_iff.mp h).trans (fallback_eq_iff.mp rfl).symm).add_left_cancel'
  exact hmod.eq_of_lt_of_lt hi hj

/-- Every word comes in a window of the sequence. -/
theorem exists_fallback (m : Nat) (w : UInt32) : ∃ j < 2 ^ 32, fallback (m + j) = w := by
  let place := w.toNat * 244002641 % 2 ^ 32
  refine ⟨(place + 2 ^ 32 - m % 2 ^ 32) % 2 ^ 32, Nat.mod_lt _ (by decide), fallback_eq_iff.mpr ?_⟩
  have hplace : place < 2 ^ 32 := Nat.mod_lt _ (by decide)
  show (m + (place + 2 ^ 32 - m % 2 ^ 32) % 2 ^ 32) % 2 ^ 32 = place
  omega

end Draws

namespace Trigger

variable {token : String} {taken names : List String} {draws after : Draws} {n : Nat}

/-- Whether names are those chosen with a token, one after the other: each is the name of the first word to come
that is free, and every word looked at is used up. -/
inductive Chosen (token : String) : List String → Draws → List String → Draws → Prop where
  | none {taken : List String} {draws : Draws} : Chosen token taken draws [] draws
  | next {taken names : List String} {draws after : Draws} {n : Nat}
      (passed : ∀ k < n, name token (draws.word k) ∈ taken) (free : name token (draws.word n) ∉ taken)
      (others : Chosen token (name token (draws.word n) :: taken) (draws.skip (n + 1)) names after) :
      Chosen token taken draws (name token (draws.word n) :: names) after

/-- The names of a token among others. -/
def namesOf (token : String) (taken : List String) : Set String :=
  {name | name ∈ taken ∧ ∃ word, name = Trigger.name token word}

/-! ### One name -/

/-- If a name is free, the words passed over are no more than those given and the names taken, nor than those
given and all there are. -/
theorem lt_of_passed {w : UInt32} (free : name token w ∉ taken)
    (passed : ∀ k < n, name token (draws.word k) ∈ taken) :
    n ≤ draws.given.length + taken.length ∧ n < draws.given.length + 2 ^ 32 := by
  have hfallback : ∀ j, draws.given.length + j < n → name token (Draws.fallback (draws.used + j)) ∈ taken := by
    intro j hj
    have hword := passed _ hj
    rwa [Draws.word_of_length_le (Nat.le_add_right _ j), Nat.add_sub_cancel_left] at hword
  -- a whole window would have the free name in it
  have hwindow : n < draws.given.length + 2 ^ 32 := by
    obtain ⟨j, hj, rfl⟩ := Draws.exists_fallback draws.used w
    by_contra hn
    exact free (hfallback j (by omega))
  -- the names passed over are distinct and all taken, so there are no more of them than are taken
  refine ⟨?_, hwindow⟩
  have hmaps : Set.MapsTo (fun j => name token (Draws.fallback (draws.used + j)))
      (Finset.range (n - draws.given.length)) taken.toFinset := by
    intro j hj
    have hj := Finset.mem_range.mp hj
    exact List.mem_toFinset.mpr (hfallback j (by omega))
  have hinj : Set.InjOn (fun j => name token (Draws.fallback (draws.used + j)))
      (Finset.range (n - draws.given.length)) := by
    intro i hi j hj h
    have hi := Finset.mem_range.mp hi
    have hj := Finset.mem_range.mp hj
    exact Draws.fallback_inj (by omega) (by omega) (name_inj h)
  have hcard := (Finset.card_le_card_of_injOn _ hmaps hinj).trans taken.toFinset_card_le
  rw [Finset.card_range] at hcard
  omega

/-- What is found is the name of the first free word, and the words up to it are used up. -/
theorem allocate_eq_some_iff {chosen : String} : allocate token taken draws = some (chosen, after) ↔
    ∃ k, (∀ j < k, name token (draws.word j) ∈ taken) ∧ name token (draws.word k) ∉ taken ∧
      chosen = name token (draws.word k) ∧ after = draws.skip (k + 1) := by
  rw [allocate, search_eq_some_iff]
  constructor
  · rintro ⟨k, -, h⟩
    exact ⟨k, h⟩
  · rintro ⟨k, passed, free, h⟩
    exact ⟨k, Nat.lt_succ_of_le (lt_of_passed free passed).1, passed, free, h⟩

/-- Where no name is found, none is free. -/
theorem allocate_eq_none_iff :
    allocate token taken draws = none ↔ ∀ k, name token (draws.word k) ∈ taken := by
  constructor
  · intro h k
    by_contra free
    -- the first free one would have been chosen
    have hexists : ∃ n, name token (draws.word n) ∉ taken := ⟨k, free⟩
    have passed : ∀ j < Nat.find hexists, name token (draws.word j) ∈ taken :=
      fun j hj => not_not.mp (Nat.find_min hexists hj)
    rw [allocate_eq_some_iff.mpr ⟨_, passed, Nat.find_spec hexists, rfl, rfl⟩] at h
    cases h
  · intro h
    rw [allocate, search_eq_none_iff]
    exact fun k _ => h k

/-! ### Several names -/

/-- The names that are chosen are those of the first free words. -/
theorem allocateMany_eq_some_iff : allocateMany token n taken draws = some (names, after) ↔
    names.length = n ∧ Chosen token taken draws names after := by
  -- the induction is on how many are to be found: the first is taken when the others are looked for
  induction n generalizing taken draws names with
  | zero =>
    constructor
    · intro h
      cases h
      exact ⟨rfl, .none⟩
    · rintro ⟨hlength, chosen⟩
      obtain rfl := List.length_eq_zero_iff.mp hlength
      cases chosen
      rfl
  | succ n ih =>
    rw [allocateMany_succ_eq_some_iff]
    constructor
    · rintro ⟨first, between, others, hfirst, hothers, rfl⟩
      obtain ⟨k, passed, free, rfl, rfl⟩ := allocate_eq_some_iff.mp hfirst
      obtain ⟨hlength, chosen⟩ := ih.mp hothers
      exact ⟨by rw [List.length_cons, hlength], .next passed free chosen⟩
    · rintro ⟨hlength, chosen⟩
      cases chosen with
      | none => cases hlength
      | @next _ others _ _ k passed free chosen =>
        have hothers := ih.mpr ⟨Nat.succ.inj hlength, chosen⟩
        exact ⟨_, _, others, allocate_eq_some_iff.mpr ⟨k, passed, free, rfl, rfl⟩, hothers, rfl⟩

/-- Where not enough names are chosen, no word to come has a free one. -/
theorem allocateMany_eq_none_iff : allocateMany token n taken draws = none ↔
    ∃ names after, names.length < n ∧ Chosen token taken draws names after ∧
      ∀ k, name token (after.word k) ∈ names ++ taken := by
  induction n generalizing taken draws with
  | zero => simp [allocateMany]
  | succ n ih =>
    rcases hfirst : allocate token taken draws with _ | ⟨first, between⟩
    · have hnone : allocateMany token (n + 1) taken draws = none := by simp [allocateMany, hfirst]
      -- not even a first name is free
      have full := allocate_eq_none_iff.mp hfirst
      exact iff_of_true hnone ⟨[], draws, Nat.succ_pos n, .none, full⟩
    -- there is a first name, and the search for the others goes on for ever
    · have hothers : allocateMany token (n + 1) taken draws = none ↔
          allocateMany token n (first :: taken) between = none := by
        cases hrest : allocateMany token n (first :: taken) between with
        | none => simp [allocateMany, hfirst, hrest]
        | some rest => simp [allocateMany, hfirst, hrest]
      obtain ⟨k, passed, free, rfl, rfl⟩ := allocate_eq_some_iff.mp hfirst
      rw [hothers, ih]
      constructor
      · rintro ⟨names, after, hlength, chosen, full⟩
        refine ⟨_ :: names, after, Nat.succ_lt_succ hlength, .next passed free chosen, fun j => ?_⟩
        have hmem := full j
        simp only [List.mem_append, List.mem_cons] at hmem ⊢
        tauto
      · rintro ⟨names, after, hlength, chosen, full⟩
        cases chosen with
        | none => exact absurd (full k) free
        | @next _ names _ _ k' passed' free' chosen =>
          -- the first free word is the same
          obtain rfl : k = k' := by
            obtain hlt | heq | hgt := Nat.lt_trichotomy k k'
            · exact absurd (passed' k hlt) free
            · exact heq
            · exact absurd (passed k' hgt) free'
          refine ⟨names, after, Nat.lt_of_succ_lt_succ hlength, chosen, fun j => ?_⟩
          have hmem := full j
          simp only [List.cons_append, List.mem_append, List.mem_cons] at hmem ⊢
          tauto

/-! ### How many names there are -/

/-- The names taken of a namespace are finitely many. -/
theorem finite_namesOf (token : String) (taken : List String) : (namesOf token taken).Finite :=
  taken.finite_toSet.subset fun _ h => h.1

/-- A token with fewer names taken than there are words has a free one. -/
theorem exists_free (room : (namesOf token taken).ncard < 2 ^ 32) : ∃ w, name token w ∉ taken := by
  by_contra full
  simp only [not_exists, not_not] at full
  have hinj : Function.Injective fun i : Fin (2 ^ 32) => name token (UInt32.ofFin i) := by
    intro i j h
    exact congrArg UInt32.toFin (name_inj h)
  have hrange : Set.range (fun i : Fin (2 ^ 32) => name token (UInt32.ofFin i)) ⊆ namesOf token taken := by
    rintro _ ⟨i, rfl⟩
    exact ⟨full _, _, rfl⟩
  have hcard := Set.ncard_le_ncard hrange (finite_namesOf token taken)
  rw [Set.ncard_range_of_injective hinj, Nat.card_fin] at hcard
  omega

/-- As long as a name is left one is found, within the words given and once round the fixed sequence. -/
theorem exists_allocate (room : (namesOf token taken).ncard < 2 ^ 32) (draws : Draws) :
    ∃ k < draws.given.length + 2 ^ 32, (∀ j < k, name token (draws.word j) ∈ taken) ∧
      name token (draws.word k) ∉ taken ∧
        allocate token taken draws = some (name token (draws.word k), draws.skip (k + 1)) := by
  obtain ⟨w, free⟩ := exists_free room
  rcases h : allocate token taken draws with _ | ⟨chosen, after⟩
  · -- a window of the fixed sequence has the free word in it
    obtain ⟨j, -, rfl⟩ := Draws.exists_fallback draws.used w
    have hword := Draws.word_of_length_le (Nat.le_add_right draws.given.length j)
    rw [Nat.add_sub_cancel_left] at hword
    rw [← hword] at free
    exact absurd (allocate_eq_none_iff.mp h _) free
  · obtain ⟨k, passed, free', rfl, rfl⟩ := allocate_eq_some_iff.mp h
    exact ⟨k, (lt_of_passed free passed).2, passed, free', rfl⟩

/-- No more names of a namespace are taken than names are taken. -/
theorem ncard_namesOf_le (token : String) (taken : List String) : (namesOf token taken).ncard ≤ taken.length := by
  have hsubset : namesOf token taken ⊆ (taken.toFinset : Set String) :=
    fun _ h => Finset.mem_coe.mpr (List.mem_toFinset.mpr h.1)
  have hcard := Set.ncard_le_ncard hsubset
  rw [Set.ncard_coe_finset] at hcard
  exact hcard.trans taken.toFinset_card_le

/-- To take a name more takes one of the namespace at most. -/
theorem ncard_namesOf_cons_le (token first : String) (taken : List String) :
    (namesOf token (first :: taken)).ncard ≤ (namesOf token taken).ncard + 1 := by
  have hsubset : namesOf token (first :: taken) ⊆ insert first (namesOf token taken) := by
    rintro name ⟨hmem, word⟩
    obtain rfl | hmem := List.mem_cons.mp hmem
    · exact Set.mem_insert _ _
    · exact Set.mem_insert_of_mem _ ⟨hmem, word⟩
  have hfinite := (finite_namesOf token taken).insert first
  exact (Set.ncard_le_ncard hsubset hfinite).trans (Set.ncard_insert_le first _)

/-- As many names are chosen as are asked for, if the token has as many left. -/
theorem exists_allocateMany (room : (namesOf token taken).ncard + n ≤ 2 ^ 32) (draws : Draws) :
    ∃ names after, allocateMany token n taken draws = some (names, after) := by
  induction n generalizing taken draws with
  | zero => exact ⟨[], draws, rfl⟩
  | succ n ih =>
    have hfirst : (namesOf token taken).ncard < 2 ^ 32 := by omega
    obtain ⟨k, -, -, -, hfirst⟩ := exists_allocate hfirst draws
    have hcard := ncard_namesOf_cons_le token (name token (draws.word k)) taken
    have hothers : (namesOf token (name token (draws.word k) :: taken)).ncard + n ≤ 2 ^ 32 := by omega
    obtain ⟨names, after, hothers⟩ := ih hothers (draws.skip (k + 1))
    exact ⟨_, _, allocateMany_succ_eq_some_iff.mpr ⟨_, _, names, hfirst, hothers, rfl⟩⟩

end Trigger

end Scoreboard
