import Scoreboard.Text.Reader

/-!
# Blanks of TOML

Between the parts of a document stand spaces and tabs, line ends and comments.
-/

namespace Scoreboard.Toml.Grammar

open Text (Reader)
open Text.Reader

/-- A space or a tab. -/
def isSpace (c : Char) : Bool := c = ' ' || c = '\t'

/-- Spaces and tabs. -/
def spaces : Reader Unit := do
  let _ ← span isSpace

/-- A line feed, or a carriage return and a line feed. -/
def newline : Reader Unit := literal "\n" <|> literal "\r\n"

/-- A character that may stand in a comment: no control character but the tab. -/
def isPlain (c : Char) : Bool := c = '\t' || (0x20 ≤ c.toNat && c.toNat ≠ 0x7F)

/-- A comment, up to the end of its line. -/
def comment : Reader Unit := do
  literal "#"
  let _ ← span isPlain

/-- Blanks, line ends and comments that end with their line. -/
def gap : Reader Unit := do
  spaces
  let _ ← many (do
    let _ ← optional comment
    newline
    spaces)

end Scoreboard.Toml.Grammar
