/-!
# Ranges of code points

A character class that is too wide for a formula is a list of closed ranges of code points.
Characters of the ASCII half are never looked up here: each class decides them by a formula of its
own, so that statements about plain text need no table.
-/

namespace Scoreboard.Text

/-- Closed ranges of code points, lowest first. -/
abbrev CodeRanges := List (Nat × Nat)

/-- Whether some range holds the character's code point. -/
def CodeRanges.contains (ranges : CodeRanges) (c : Char) : Bool :=
  ranges.any fun range => range.1 ≤ c.toNat && c.toNat ≤ range.2

/-- The ASCII half of the code points. -/
def isAscii (c : Char) : Bool := c.toNat < 128

end Scoreboard.Text
