import Scoreboard.Encoding.Base64

/-!
# Words read back from their symbols

The symbols of a word are those of its bits, six at a time (`encodeWord_eq`), and different bits have different
symbols (`symbol_inj`). So all six symbols tell the word (`encodeWord_inj`), and the first five tell all of it but its
two lowest bits (`take_five_encodeWord_eq_iff`).
-/

namespace Scoreboard.Base64

variable {v w : UInt32}

/-- Six bits can be read back from their symbol. -/
theorem symbol_inj {m n : Nat} (hm : m < 64) (hn : n < 64) (h : symbol m = symbol n) : m = n := by
  have inj : ∀ m < 64, ∀ n < 64, symbol m = symbol n → m = n := by decide +kernel
  exact inj m hm n hn h

/-- The highest bits come first, and two are left for the last symbol. -/
theorem encodeWord_eq (w : UInt32) : encodeWord w =
    [symbol (w.toNat / 67108864), symbol (w.toNat / 1048576 % 64), symbol (w.toNat / 16384 % 64),
      symbol (w.toNat / 256 % 64), symbol (w.toNat / 4 % 64), symbol (w.toNat % 4 * 16)] := by
  have hw := w.toNat_lt
  simp only [encodeWord, bytesOfWord, encode, UInt32.toNat_toUInt8, UInt32.toNat_shiftRight,
    Nat.shiftRight_eq_div_pow, UInt32.reduceToNat, Nat.reduceMod, Nat.reducePow, List.cons.injEq, and_true]
  refine ⟨congrArg symbol ?_, congrArg symbol ?_, congrArg symbol ?_, congrArg symbol ?_, congrArg symbol ?_,
    congrArg symbol ?_⟩ <;> omega

/-- The first five symbols of a word are its first thirty bits. -/
theorem take_five_encodeWord_eq_iff :
    (encodeWord v).take 5 = (encodeWord w).take 5 ↔ v.toNat / 4 = w.toNat / 4 := by
  have hv := v.toNat_lt
  have hw := w.toNat_lt
  simp only [encodeWord_eq, List.take_succ_cons, List.take_zero, List.cons.injEq, and_true]
  constructor
  · rintro ⟨h₁, h₂, h₃, h₄, h₅⟩
    -- each symbol gives its six bits
    have h₁ := symbol_inj (by omega) (by omega) h₁
    have h₂ := symbol_inj (by omega) (by omega) h₂
    have h₃ := symbol_inj (by omega) (by omega) h₃
    have h₄ := symbol_inj (by omega) (by omega) h₄
    have h₅ := symbol_inj (by omega) (by omega) h₅
    omega
  · intro h
    refine ⟨congrArg symbol ?_, congrArg symbol ?_, congrArg symbol ?_, congrArg symbol ?_,
      congrArg symbol ?_⟩ <;> omega

/-- A word can be read back from its symbols. -/
theorem encodeWord_inj (h : encodeWord v = encodeWord w) : v = w := by
  have hhigh := take_five_encodeWord_eq_iff.mp (congrArg (List.take 5) h)
  have hlast := congrArg List.getLast? h
  simp only [encodeWord_eq, List.getLast?_cons_cons, List.getLast?_singleton, Option.some.injEq] at hlast
  have hlow := symbol_inj (by omega) (by omega) hlast
  apply UInt32.toNat_inj.mp
  omega

end Scoreboard.Base64
