/-!
# URL-safe base64 without padding

Three bytes are four symbols of six bits each; one byte left over is two symbols and two bytes left
over are three, filled with zero bits. The alphabet is letters, digits, `-` and `_`, so every encoded
text can stand in an objective name.
-/

namespace Scoreboard.Base64

/-- The symbol for six bits. -/
def symbol (n : Nat) : Char :=
  if n < 26 then Char.ofNat ('A'.toNat + n)
  else if n < 52 then Char.ofNat ('a'.toNat + (n - 26))
  else if n < 62 then Char.ofNat ('0'.toNat + (n - 52))
  else if n = 62 then '-'
  else '_'

/-- The symbols of a sequence of bytes. -/
def encode : List UInt8 → List Char
  | a :: b :: c :: rest =>
    symbol (a.toNat / 4) :: symbol (a.toNat % 4 * 16 + b.toNat / 16) ::
      symbol (b.toNat % 16 * 4 + c.toNat / 64) :: symbol (c.toNat % 64) :: encode rest
  | [a, b] =>
    [symbol (a.toNat / 4), symbol (a.toNat % 4 * 16 + b.toNat / 16), symbol (b.toNat % 16 * 4)]
  | [a] => [symbol (a.toNat / 4), symbol (a.toNat % 4 * 16)]
  | [] => []

/-- The four bytes of a word, the highest first. -/
def bytesOfWord (w : UInt32) : List UInt8 :=
  [(w >>> 24).toUInt8, (w >>> 16).toUInt8, (w >>> 8).toUInt8, w.toUInt8]

/-- A word is six symbols. -/
def encodeWord (w : UInt32) : List Char := encode (bytesOfWord w)

@[simp] theorem length_encodeWord (w : UInt32) : (encodeWord w).length = 6 := rfl

/-- Whether a character is one of the alphabet. -/
def isSymbol (c : Char) : Bool := c.isAlphanum || c = '-' || c = '_'

/-- Every digit is written as a symbol of the alphabet, the last one for all that are too large. -/
theorem isSymbol_symbol (n : Nat) : isSymbol (symbol n) := by
  have small : ∀ n < 63, isSymbol (symbol n) := by decide
  by_cases hn : n < 63
  · exact small n hn
  · have last : symbol n = '_' := by
      unfold symbol
      rw [if_neg (by omega), if_neg (by omega), if_neg (by omega), if_neg (by omega)]
    rw [last]
    decide

/-- An encoding consists of symbols of the alphabet. -/
theorem isSymbol_of_mem_encode {bytes : List UInt8} {c : Char} (h : c ∈ encode bytes) : isSymbol c := by
  fun_induction encode bytes with
  | case1 a b d rest ih =>
    simp only [List.mem_cons] at h
    rcases h with rfl | rfl | rfl | rfl | h
    · exact isSymbol_symbol _
    · exact isSymbol_symbol _
    · exact isSymbol_symbol _
    · exact isSymbol_symbol _
    · exact ih h
  | case2 a b =>
    simp only [List.mem_cons, List.not_mem_nil, or_false] at h
    rcases h with rfl | rfl | rfl <;> exact isSymbol_symbol _
  | case3 a =>
    simp only [List.mem_cons, List.not_mem_nil, or_false] at h
    rcases h with rfl | rfl <;> exact isSymbol_symbol _
  | case4 => cases h

end Scoreboard.Base64
