/-!
# White space and trimming

`isBlank` is the Unicode property White_Space. `strip` removes a class of characters at both ends of
a text and nothing in between; `trim` is `strip` for white space.
-/

namespace Scoreboard.Text

/-- The Unicode property White_Space. -/
def isBlank (c : Char) : Bool :=
  let n := c.toNat
  (0x9 ≤ n && n ≤ 0xD) || n = 0x20 || n = 0x85 || n = 0xA0 || n = 0x1680 ||
    (0x2000 ≤ n && n ≤ 0x200A) || n = 0x2028 || n = 0x2029 || n = 0x202F || n = 0x205F ||
    n = 0x3000

/-- Removes the characters of a class at the end of a text. -/
def stripEnd (p : Char → Bool) (cs : List Char) : List Char :=
  (cs.reverse.dropWhile p).reverse

/-- Removes the characters of a class at both ends of a text. -/
def strip (p : Char → Bool) (cs : List Char) : List Char :=
  stripEnd p (cs.dropWhile p)

/-- Removes white space at both ends. -/
def trim (cs : List Char) : List Char := strip isBlank cs

@[simp] theorem strip_nil (p : Char → Bool) : strip p [] = [] := rfl

end Scoreboard.Text
