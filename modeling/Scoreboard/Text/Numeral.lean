import Scoreboard.Text.Digit

/-!
# Decimal numerals

A numeral is an optional minus sign and one or more digits. Digits of every script are read, but only
a numeral in ASCII digits has a value. `Numeral.read?` takes the longest numeral at the front.
-/

namespace Scoreboard.Text

/-- An optional minus sign and the digits after it. -/
structure Numeral where
  negative : Bool
  digits : List Char
  deriving DecidableEq, Repr

namespace Numeral

/-- The numeral as it was written. -/
def text (n : Numeral) : List Char :=
  if n.negative then '-' :: n.digits else n.digits

/-- Takes the digits at the front; there has to be one. -/
def readDigits? (negative : Bool) (cs : List Char) : Option (Numeral × List Char) :=
  match cs.takeWhile isDigit with
  | [] => none
  | digits => some (⟨negative, digits⟩, cs.dropWhile isDigit)

/-- Takes the longest numeral at the front. -/
def read? : List Char → Option (Numeral × List Char)
  | '-' :: cs => readDigits? true cs
  | cs => readDigits? false cs

/-- The value of a numeral in ASCII digits. -/
def value? (n : Numeral) : Option Int :=
  if n.digits.all Char.isDigit then
    let magnitude : Int := Nat.ofDigitChars 10 n.digits 0
    some (if n.negative then -magnitude else magnitude)
  else
    none

/-- The value as a 64-bit integer, if it is one. -/
def toInt64? (n : Numeral) : Option Int64 :=
  n.value?.bind fun v => if (Int64.ofInt v).toInt = v then some (Int64.ofInt v) else none

/-- The nearest 32-bit integer. A numeral without a value counts as beyond the bound on its side
of zero. -/
def clampToInt32 (n : Numeral) : Int32 :=
  match n.value? with
  | some v =>
    if v < Int32.minValue.toInt then Int32.minValue
    else if Int32.maxValue.toInt < v then Int32.maxValue
    else Int32.ofInt v
  | none => if n.negative then Int32.minValue else Int32.maxValue

/-- Whether `clampToInt32` changes the value. -/
def exceedsInt32 (n : Numeral) : Bool :=
  n.value? ≠ some n.clampToInt32.toInt

end Numeral

end Scoreboard.Text
