import Scoreboard.Text.Blank
import Scoreboard.Text.Numeral
import Scoreboard.Text.Scan
import Scoreboard.Text.Word

/-!
# Fires

A player who uses a trigger makes the server write a line such as
`[12:00:00] [Server thread/INFO]: [Alice: Triggered [tri_x] (added 3 to value)]`. A log header (one or
two bracket groups and a colon) and a bracketed tag may stand before it, and anything after it.

`FireLine.read?` recognises such a line. Bracket groups hold no closing bracket, so a header cannot
reach into what a player said, and the line has to start with it. Where a bracket group could be part
of the header, the tag or neither, the readings are tried in that order.
-/

namespace Scoreboard

open Text

/-- A trigger used by a player, with the value set or added, or zero. -/
structure Fire where
  player : String
  trigger : String
  value : Int32
  deriving DecidableEq, Repr

/-- A fire line as it was written: the player, what stands in the inner brackets, the numeral. -/
structure FireLine where
  player : List Char
  trigger : List Char
  amount : Option Numeral
  deriving DecidableEq, Repr

namespace FireLine

/-- Takes a bracket group: what stands in it, and what follows it. -/
def group? : List Char → Option (List Char × List Char)
  | '[' :: cs => cutAt? ']' cs
  | _ => none

/-- What follows a bracket group and an optional space. -/
def afterGroup? (cs : List Char) : Option (List Char) :=
  (group? cs).map fun g => dropSpace g.2

/-- What follows a colon and an optional space. -/
def afterColon? : List Char → Option (List Char)
  | ':' :: cs => some (dropSpace cs)
  | _ => none

/-- What can be left after the log header, the longest header first. -/
def afterHeader (cs : List Char) : List (List Char) :=
  let one := afterGroup? cs
  let two := one.bind afterGroup?
  [two, one].filterMap (·.bind afterColon?) ++ [cs]

/-- What can be left after the tag, which is not empty, with a tag first. -/
def afterTag (cs : List Char) : List (List Char) :=
  match group? cs with
  | some (_ :: _, rest) => [dropSpace rest, cs]
  | _ => [cs]

/-- Takes a numeral between two texts. -/
def between? (before after cs : List Char) : Option (Numeral × List Char) := do
  let rest ← dropLead? before cs
  let (n, rest) ← Numeral.read? rest
  let rest ← dropLead? after rest
  return (n, rest)

/-- Takes the note on the value, if there is one. -/
def amount? (cs : List Char) : Option (Numeral × List Char) :=
  between? "(set value to ".toList ")".toList cs <|> between? "(added ".toList " to value)".toList cs

/-- Takes the end of the fire: the note on the value, if any, and the closing bracket. -/
def close? (cs : List Char) : Option (Option Numeral) :=
  match amount? cs with
  | some (n, ']' :: _) => some (some n)
  | _ => if cs.head? = some ']' then some none else none

/-- Reads the fire itself, at the front of what is left of the line. -/
def body? : List Char → Option FireLine
  | '[' :: cs => do
    let player := cs.takeWhile isWord
    if player = [] then none
    let rest ← afterColon? (cs.dropWhile isWord)
    let rest ← dropLead? "Triggered".toList rest
    let (trigger, rest) ← group? (dropSpace rest)
    let amount ← close? (dropSpace rest)
    return ⟨player, trigger, amount⟩
  | _ => none

/-- Reads a line, if it is a fire line. -/
def read? (line : List Char) : Option FireLine :=
  ((afterHeader line).flatMap afterTag).findSome? body?

/-- The fire that a line tells of: the name without white space around it, and the value held to the
32-bit integers. -/
def fire (l : FireLine) : Fire where
  player := String.ofList l.player
  trigger := String.ofList (trim l.trigger)
  value := match l.amount with
    | some n => n.clampToInt32
    | none => 0

end FireLine

/-- The fire that a console line tells of. -/
def Fire.ofLine? (line : String) : Option Fire :=
  (FireLine.read? line.toList).map FireLine.fire

end Scoreboard
