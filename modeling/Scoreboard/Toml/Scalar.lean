import Scoreboard.Toml.Blank
import Scoreboard.Toml.Value

/-!
# Texts, numbers and moments of TOML

Texts come in four kinds: between one or three quotation marks, with escapes, or between one or three
apostrophes, without. Numbers are 64-bit integers in four bases, and fractions. Moments are dates,
times of day and both, on the calendar.
-/

namespace Scoreboard.Toml.Grammar

open Text (Reader)
open Text.Reader

/-! ### Texts -/

/-- An escape, after its backslash. -/
def escape : Reader Char := do
  match ← char fun _ => true with
  | 'b' => return '\x08'
  | 't' => return '\t'
  | 'n' => return '\n'
  | 'f' => return '\x0c'
  | 'r' => return '\r'
  | '"' => return '"'
  | '\\' => return '\\'
  | 'u' => codePoint 4
  | 'U' => codePoint 8
  | _ => refuse

/-- A character that stands for itself between quotation marks. -/
def isBasic (c : Char) : Bool := isPlain c && c ≠ '"' && c ≠ '\\'

/-- A character that stands for itself between apostrophes. -/
def isLiteral (c : Char) : Bool := isPlain c && c ≠ '\''

/-- A text between quotation marks. -/
def basicText : Reader (List Char) := do
  literal "\""
  let cs ← many (char isBasic <|> do literal "\\"; escape)
  literal "\""
  return cs

/-- A text between apostrophes. -/
def literalText : Reader (List Char) := do
  literal "'"
  let cs ← span isLiteral
  literal "'"
  return cs

/-- A mark that is no part of a closing triple. -/
def loneMark (mark : Char) : Reader (List Char) := fun cs =>
  match cs with
  | c :: rest => if c = mark ∧ (cs.takeWhile (· = mark)).length < 3 then some ([c], rest) else none
  | [] => none

/-- The closing triple, with up to two marks of the text before it. -/
def closingMarks (mark : Char) : Reader (List Char) := fun cs =>
  let run := (cs.takeWhile (· = mark)).length
  if run < 3 then none
  else
    let own := min (run - 3) 2
    some (List.replicate own mark, cs.drop (own + 3))

/-- A backslash at the end of a line, with the line end and all blanks after it. -/
def continuation : Reader (List Char) := do
  literal "\\"
  spaces
  newline
  let _ ← many ((do let _ ← char isSpace) <|> newline)
  return []

/-- A line end within a text counts as a line feed. -/
def innerNewline : Reader (List Char) := do
  newline
  return ['\n']

/-- A text between triple marks, made of pieces. -/
def longText (marks : String) (mark : Char) (piece : Reader (List Char)) : Reader (List Char) := do
  literal marks
  let _ ← optional newline
  let pieces ← many (piece <|> innerNewline <|> loneMark mark)
  let own ← closingMarks mark
  return pieces.flatten ++ own

/-- A text between triple quotation marks. -/
def longBasicText : Reader (List Char) :=
  longText "\"\"\"" '"' (span1 isBasic <|> continuation <|> do
    literal "\\"
    let c ← escape
    return [c])

/-- A text between triple apostrophes. -/
def longLiteralText : Reader (List Char) := longText "'''" '\'' (span1 isLiteral)

/-! ### Numbers -/

/-- Digits of a class, with single low lines between them. -/
def digits (p : Char → Bool) : Reader (List Char) := do
  let first ← char p
  let rest ← many ((char p) <|> do literal "_"; char p)
  return first :: rest

/-- Whether a sign, if there is one, is a minus. -/
def sign : Reader Bool :=
  (do literal "-"; return true) <|> (do literal "+"; return false) <|> pure false

/-- Decimal digits without leading zeros. -/
def decimalDigits : Reader (List Char) := do
  match ← peek with
  | some '0' => do literal "0"; return ['0']
  | _ => digits Char.isDigit

/-- An integer of a base other than ten, which has no sign. -/
def basedInteger : Reader Nat :=
  (do literal "0x"; spell 16 <$> digits fun c => (hexValue? c).isSome) <|>
  (do literal "0o"; spell 8 <$> digits fun c => '0' ≤ c && c ≤ '7') <|>
  (do literal "0b"; spell 2 <$> digits fun c => c = '0' || c = '1')

/-- Whether an integer fits in 64 bits with a sign. -/
def isWord64 (n : Int) : Bool := (Int64.ofInt n).toInt = n

/-- An integer that fits in 64 bits. -/
def integer : Reader Value := do
  let based := (← ahead "0x") || (← ahead "0o") || (← ahead "0b")
  if based then
    let n ← basedInteger
    if isWord64 n then return .integer n else refuse
  else
    let negative ← sign
    let magnitude := spell 10 (← decimalDigits)
    let n : Int := if negative then -magnitude else magnitude
    if isWord64 n then return .integer n else refuse

/-- An exponent. -/
def exponent : Reader Int := do
  let _ ← char fun c => c = 'e' || c = 'E'
  let negative ← sign
  let magnitude := spell 10 (← digits Char.isDigit)
  return if negative then -magnitude else magnitude

/-- Whether `m · 10 ^ e` is nearer to infinity than to the greatest number of double precision. -/
def overflows (m : Nat) (e : Int) : Bool :=
  let size : Int := (Nat.toDigits 10 m).length + e
  if m = 0 then false
  else if size < 308 then false
  else if 311 < size then true
  else (Nat.pow 2 1024 - Nat.pow 2 970) * Nat.pow 10 (-e).toNat ≤ m * Nat.pow 10 e.toNat

/-- A number with a fraction, an exponent or both. One that is positive and too great is refused. -/
def fraction : Reader Value := do
  let negative ← sign
  let whole ← decimalDigits
  let part ← optional (do literal "."; digits Char.isDigit)
  let power ← match part with
    | some _ => optional exponent
    | none => some <$> exponent
  let part := part.getD []
  if !negative && overflows (spell 10 (whole ++ part)) (power.getD 0 - part.length) then refuse
  else return .float

/-- A number that is none. -/
def specialFloat : Reader Value := do
  let _ ← sign
  literal "inf" <|> literal "nan"
  return .float

/-! ### Moments -/

/-- A number of exactly `n` decimal digits. -/
def fixed (n : Nat) : Reader Nat := spell 10 <$> exactly (char Char.isDigit) n

/-- A number of two decimal digits within bounds. -/
def twoDigits (low high : Nat) : Reader Nat := do
  let n ← fixed 2
  if low ≤ n && n ≤ high then return n else refuse

/-- The number of days of a month. -/
def daysOf (year month : Nat) : Nat :=
  if month = 2 then
    if year % 4 = 0 && (year % 100 ≠ 0 || year % 400 = 0) then 29 else 28
  else if month = 4 || month = 6 || month = 9 || month = 11 then 30
  else 31

/-- A day of the calendar. -/
def date : Reader Unit := do
  let year ← fixed 4
  literal "-"
  let month ← twoDigits 1 12
  literal "-"
  let _ ← twoDigits 1 (daysOf year month)

/-- A time of day. -/
def time : Reader Unit := do
  let _ ← twoDigits 0 23
  literal ":"
  let _ ← twoDigits 0 59
  literal ":"
  let _ ← twoDigits 0 60
  let _ ← optional (do literal "."; span1 Char.isDigit)

/-- A distance from universal time. -/
def offset : Reader Unit :=
  (do let _ ← char fun c => c = 'Z' || c = 'z') <|> do
    let _ ← char fun c => c = '+' || c = '-'
    let _ ← twoDigits 0 23
    literal ":"
    let _ ← twoDigits 0 59

/-- A date, a time, or a date and a time. -/
def moment : Reader Value := do
  (do
    date
    let _ ← optional (do
      let _ ← char fun c => c = 'T' || c = 't' || c = ' '
      time
      optional offset)) <|> time
  return .moment

end Scoreboard.Toml.Grammar
