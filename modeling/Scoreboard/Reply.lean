import Scoreboard.Text.Blank
import Scoreboard.Text.Numeral
import Scoreboard.Text.Scan

/-!
# Replies

What the console answers. A reply that has not the expected form is no data, never an error.
-/

namespace Scoreboard.Reply

open Text

/-- The items of a list between commas, each made clean, without the empty ones. -/
def items (clean : List Char → List Char) (cs : List Char) : List String :=
  (((cs.splitOn ',').map clean).filter (· ≠ [])).map String.ofList

/-! ### Players -/

/-- What follows `There are <number> tracked ` at the front. -/
def afterCount? (cs : List Char) : Option (List Char) := do
  let rest ← dropLead? "There are ".toList cs
  if (rest.takeWhile isDigit) = [] then none
  dropLead? " tracked ".toList (rest.dropWhile isDigit)

/-- What follows the first colon of the first line. -/
def afterKind? (cs : List Char) : Option (List Char) :=
  match cutAt? ':' cs with
  | some (kind, rest) => if '\n' ∈ kind then none else some rest
  | none => none

/-- One white space character is left out, which may be a line feed. -/
def dropBlank : List Char → List Char
  | c :: cs => if isBlank c then cs else c :: cs
  | [] => []

/-- The list of players, if the announcement stands at the front. -/
def announced? (cs : List Char) : Option (List Char) :=
  (afterCount? cs).bind fun rest => (afterKind? rest).map fun list => firstLine (dropBlank list)

/-- The list of players after the first announcement. -/
def playerList? : List Char → Option (List Char)
  | [] => announced? []
  | c :: cs => announced? (c :: cs) <|> playerList? cs

/-- The players named in the reply to `Command.listPlayers`. -/
def players? (reply : String) : Option (List String) :=
  (playerList? reply.toList).map (items trim)

/-! ### Scores -/

/-- The numeral after ` has ` at the front. -/
def scoreAt? (cs : List Char) : Option Numeral :=
  (dropLead? " has ".toList cs).bind fun rest => (Numeral.read? rest).map (·.1)

/-- The numeral after the first ` has ` on the first line that has one. -/
def scoreNumeral? : List Char → Option Numeral
  | [] => none
  | c :: cs => scoreAt? (c :: cs) <|> if c = '\n' then none else scoreNumeral? cs

/-- The score in the reply to `Command.getScore`. The first numeral counts, and it has to be a 64-bit
integer in ASCII digits. -/
def score? (reply : String) : Option Int64 :=
  (scoreNumeral? reply.toList).bind Numeral.toInt64?

/-! ### Objectives -/

/-- The brackets around an objective's name. -/
def isBracket (c : Char) : Bool := c = '[' || c = ']'

/-- The objectives named in the reply to `Command.listObjectives`: the items after the first colon,
without white space and then without brackets around them. -/
def objectives? (reply : String) : Option (List String) :=
  (cutAt? ':' reply.toList).map fun (_, list) => items (strip isBracket ∘ trim) list

end Scoreboard.Reply
