/-!
# Texts measured in bytes

An offset into a text counts the bytes of its UTF-8 form. `splitAtByte?` cuts a text at an offset where a
character begins or the text ends, and nowhere else.
-/

namespace Scoreboard.Text

/-- The number of bytes that characters fill. -/
def byteCount : List Char → Nat
  | [] => 0
  | c :: cs => c.utf8Size + byteCount cs

/-- The parts of a text before and after an offset. There are none if the offset is inside a character
or beyond the end. -/
def splitAtByte? : Nat → List Char → Option (List Char × List Char)
  | 0, cs => some ([], cs)
  | _ + 1, [] => none
  | n + 1, c :: cs =>
    if c.utf8Size ≤ n + 1 then
      (splitAtByte? (n + 1 - c.utf8Size) cs).map fun (before, after) => (c :: before, after)
    else
      none

/-- The part of a text between two offsets. -/
def between? (start stop : Nat) (cs : List Char) : Option (List Char) := do
  let (before, _) ← splitAtByte? stop cs
  let (_, part) ← splitAtByte? start before
  return part

end Scoreboard.Text
