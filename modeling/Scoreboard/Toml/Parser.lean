import Scoreboard.Toml.Scalar

/-!
# Reading TOML

`parse?` reads a whole document. Arrays and tables between braces may be nested up to `nesting` levels,
and a dotted key may have as many parts.
-/

namespace Scoreboard.Toml

open Text (Reader)
open Text.Reader

namespace Grammar

/-- How deep arrays and tables may be nested, and how many parts a dotted key may have. -/
def nesting : Nat := 79

/-! ### Keys -/

/-- A character of a key without quotation marks. -/
def isKeyChar (c : Char) : Bool := c.isAlphanum || c = '_' || c = '-'

/-- One part of a dotted key. -/
def simpleKey : Reader String := do
  spaces
  let key ← span1 isKeyChar <|> basicText <|> literalText
  spaces
  return String.ofList key

/-- A dotted key. -/
def keyPath : Reader (List String) := do
  let path ← separated simpleKey (literal ".")
  if path.length ≤ nesting then return path else refuse

/-! ### Values -/

/-- The items of an array, given how an item is read. -/
def arrayOf (item : Reader Value) : Reader Value := do
  literal "["
  gap
  if ← ahead "]" then
    literal "]"
    return .array []
  let items ← separated (do
    gap
    let v ← item
    gap
    return v) (literal ",")
  let _ ← optional (literal ",")
  gap
  literal "]"
  return .array items

/-- A dotted key and its value. -/
def pairOf (item : Reader Value) : Reader (List String × String × Value) := do
  let path ← keyPath
  literal "="
  spaces
  let v ← item
  spaces
  match path.getLast? with
  | some key => return (path.dropLast, key, v)
  | none => refuse

/-- A table between braces, given how a value is read. -/
def bracesOf (item : Reader Value) : Reader Value := do
  literal "\x7b"
  spaces
  if ← ahead "\x7d" then
    literal "\x7d"
    return .table .braces []
  let pairs ← separated (pairOf item) (literal ",")
  literal "\x7d"
  match Entries.ofPairs? pairs with
  | some es => return .table .braces es
  | none => refuse

/-- A text. -/
def textValue : Reader Value := do
  let long := (← ahead "\"\"\"") || (← ahead "'''")
  let cs ← if long then longBasicText <|> longLiteralText else basicText <|> literalText
  return .text (String.ofList cs)

/-- A truth value. -/
def boolean : Reader Value :=
  (do literal "true"; return .boolean true) <|> (do literal "false"; return .boolean false)

/-- A value that holds no others. -/
def scalar : Reader Value :=
  textValue <|> boolean <|> moment <|> fraction <|> specialFloat <|> integer

/-- A value with at most `depth` levels of arrays and tables. -/
def value : Nat → Reader Value
  | 0 => scalar
  | depth + 1 => do
    match ← peek with
    | some '[' => arrayOf (value depth)
    | some '\x7b' => bracesOf (value depth)
    | _ => scalar

/-! ### Lines -/

/-- A header in double brackets. -/
def elementLine : Reader Line := do
  literal "[["
  let path ← keyPath
  literal "]]"
  return .element path

/-- A header in single brackets. -/
def headerLine : Reader Line := do
  literal "["
  let path ← keyPath
  literal "]"
  return .header path

/-- A key and its value. -/
def pairLine : Reader Line := do
  let (path, key, v) ← pairOf (value nesting)
  return .pair path key v

/-- What stands on a line before its comment. -/
def content : Reader Line := do
  spaces
  match ← peek with
  | none => return .blank
  | some '#' => return .blank
  | some '\n' => return .blank
  | some '\r' => return .blank
  | some '[' => if ← ahead "[[" then elementLine else headerLine
  | some _ => pairLine

/-- A line with its comment, up to the end of the line or of the document. -/
def line : Reader Line := do
  let l ← content
  spaces
  let _ ← optional comment
  newline <|> finished
  return l

/-- The lines of a document. A byte order mark in front is left out. -/
def document : Reader (List Line) := do
  let _ ← optional (literal "\ufeff")
  let lines ← many (do
    if (← peek).isNone then refuse
    line)
  finished
  return lines

end Grammar

/-- The entries of a document, if it is one. -/
def parse? (text : String) : Option Entries :=
  (Grammar.document text.toList).bind fun (lines, _) => Document.ofLines? lines

end Scoreboard.Toml
