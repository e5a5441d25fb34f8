/-!
# Levels

How much a diagnostic matters. A filter lets through everything at or above its level.
-/

namespace Scoreboard

/-- The level of a diagnostic, from the least to the most important. -/
inductive Level where
  | trace
  | debug
  | info
  | warn
  | error
  deriving DecidableEq, Repr

namespace Level

/-- The levels in order. -/
def all : List Level := [trace, debug, info, warn, error]

/-- The place in the order. -/
def rank : Level → Nat
  | trace => 0
  | debug => 1
  | info => 2
  | warn => 3
  | error => 4

/-- The name in settings. -/
def name : Level → String
  | trace => "trace"
  | debug => "debug"
  | info => "info"
  | warn => "warn"
  | error => "error"

/-- The name in log output. -/
def label : Level → String
  | trace => "TRACE"
  | debug => "DEBUG"
  | info => "INFO"
  | warn => "WARN"
  | error => "ERROR"

/-- The number that decimal digits spell, after a plus sign or none. -/
def number? (word : List Char) : Option Nat :=
  let digits := match word with
    | '+' :: digits => digits
    | digits => digits
  if digits ≠ [] ∧ digits.all Char.isDigit then some (Nat.ofDigitChars 10 digits 0) else none

/-- The least level that a word or a number asks for; a word may be in any case. -/
def least? (word : List Char) : Option (Option Level) :=
  match number? word with
  | some 0 => some none
  | some n => (all.find? fun l => l.rank + n = 5).map some
  | none =>
    let name := String.ofList (word.map Char.toLower)
    if name = "off" then some none else (all.find? fun l => l.name = name).map some

end Level

end Scoreboard
