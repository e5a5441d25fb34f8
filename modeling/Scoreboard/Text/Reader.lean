import Scoreboard.Text.Scan

/-!
# Readers

A reader takes a value from the front of a text or refuses it. What grammars share is here: single
characters, repetition, separators and code points in hexadecimal.
-/

namespace Scoreboard.Text

/-- Takes a value from the front of a text. -/
abbrev Reader := StateT (List Char) Option

namespace Reader

variable {α : Type}

/-- Refuses. -/
def refuse : Reader α := fun _ => none

/-- What comes next, without taking it. -/
def peek : Reader (Option Char) := fun cs => some (cs.head?, cs)

/-- Takes a character of a class. -/
def char (p : Char → Bool) : Reader Char
  | c :: cs => if p c then some (c, cs) else none
  | [] => none

/-- Takes the given text. -/
def literal (lead : String) : Reader Unit := fun cs =>
  (Text.dropLead? lead.toList cs).map fun rest => ((), rest)

/-- Whether the given text comes next, without taking it. -/
def ahead (lead : String) : Reader Bool := fun cs =>
  some ((Text.dropLead? lead.toList cs).isSome, cs)

/-- Takes the characters of a class, as many as there are. -/
def span (p : Char → Bool) : Reader (List Char) := fun cs =>
  some (cs.takeWhile p, cs.dropWhile p)

/-- Takes characters of a class, at least one. -/
def span1 (p : Char → Bool) : Reader (List Char) := do
  let taken ← span p
  if taken = [] then refuse else return taken

/-- Repeats a reader at most `n` times. -/
def atMost (r : Reader α) : Nat → Reader (List α)
  | 0 => pure []
  | n + 1 => (do
      let a ← r
      let rest ← atMost r n
      return a :: rest) <|> pure []

/-- Repeats a reader as long as it takes something. -/
def many (r : Reader α) : Reader (List α) := fun cs => atMost r cs.length cs

/-- Repeats a reader exactly `n` times. -/
def exactly (r : Reader α) : Nat → Reader (List α)
  | 0 => pure []
  | n + 1 => do
    let a ← r
    let rest ← exactly r n
    return a :: rest

/-- One or more values with separators between. -/
def separated (r : Reader α) (separator : Reader Unit) : Reader (List α) := do
  let a ← r
  let rest ← many (do separator; r)
  return a :: rest

/-- Succeeds at the end of the text only. -/
def finished : Reader Unit
  | [] => some ((), [])
  | _ => none

/-! ### Digits -/

/-- The value of a hexadecimal digit. -/
def hexValue? (c : Char) : Option Nat :=
  if '0' ≤ c && c ≤ '9' then some (c.toNat - '0'.toNat)
  else if 'a' ≤ c && c ≤ 'f' then some (c.toNat - 'a'.toNat + 10)
  else if 'A' ≤ c && c ≤ 'F' then some (c.toNat - 'A'.toNat + 10)
  else none

/-- The number that digits spell in a base. -/
def spell (base : Nat) (digits : List Char) : Nat :=
  digits.foldl (fun n c => base * n + (hexValue? c).getD 0) 0

/-- The character of a code point in hexadecimal digits. -/
def scalar (digits : List Char) : Reader Char :=
  let code := spell 16 digits
  if code.isValidChar then return Char.ofNat code else refuse

/-- The character of a code point in `n` hexadecimal digits. -/
def codePoint (n : Nat) : Reader Char := do
  scalar (← exactly (char fun c => (hexValue? c).isSome) n)

end Reader

end Scoreboard.Text
