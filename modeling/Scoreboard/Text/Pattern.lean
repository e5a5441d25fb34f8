import Scoreboard.Text.Alphanumeric
import Scoreboard.Text.Blank
import Scoreboard.Text.Reader

/-!
# Patterns

A pattern describes texts: characters, sets of characters, anchors and groups, one after the other,
repeated, or as alternatives. Nothing is searched for here: `isPattern` says whether a text is a pattern
at all.

Two flags decide what is a pattern. Where `spaced` is on, white space and comments may stand between the
parts. Where `unicode` is off, a pattern speaks of bytes; since it has to match whole characters
nevertheless, whatever could match a byte outside ASCII is refused.
-/

namespace Scoreboard.Text.Pattern

open Reader

/-! ### Flags -/

/-- What flags decide about the reading of a pattern. -/
structure Mode where
  spaced : Bool
  unicode : Bool
  deriving DecidableEq, Repr

/-- The mode in which a pattern begins. -/
def Mode.initial : Mode := ⟨false, true⟩

/-- Whether flags turn a flag on, or off after a hyphen; they may leave it as it is. -/
def flagState? (flag : Char) (given : List Char) : Option Bool :=
  if flag ∈ given.takeWhile (· ≠ '-') then some true
  else if flag ∈ given then some false
  else none

/-- The mode after flags. -/
def Mode.after (m : Mode) (given : List Char) : Mode where
  spaced := (flagState? 'x' given).getD m.spaced
  unicode := (flagState? 'u' given).getD m.unicode

/-- Reads flags that are turned on, and off after a hyphen; each is given once. -/
def flags : Reader (List Char) := do
  let given ← span ("imsUuxR-".contains ·)
  if given.Nodup ∧ given.getLast? ≠ some '-' then return given else refuse

/-! ### Spacing -/

/-- What is left after white space and comments. A comment begins with a number sign and ends with its
line; `inComment` says whether one has begun. -/
def dropSpacing (inComment : Bool) : List Char → List Char
  | [] => []
  | c :: cs =>
    if inComment then dropSpacing (c ≠ '\n') cs
    else if isBlank c then dropSpacing false cs
    else if c = '#' then dropSpacing true cs
    else c :: cs

/-- Takes white space and comments, where they may stand. -/
def spacing (m : Mode) : Reader Unit := fun cs =>
  some ((), if m.spaced then dropSpacing false cs else cs)

/-! ### Single characters -/

/-- What a character or an escape stands for. -/
inductive Symbol where
  | char (c : Char)
  /-- One character of several. -/
  | oneOf
  /-- A place in the text. -/
  | anchor
  deriving DecidableEq, Repr

/-- The character of a code point in `n` hexadecimal digits, with spacing between and behind. -/
def codePoint (m : Mode) (n : Nat) : Reader Symbol := do
  spacing m
  let digits ← exactly (do
    let digit ← char fun c => (hexValue? c).isSome
    spacing m
    return digit) n
  Symbol.char <$> scalar digits

/-- An escape, after its backslash. A sign stands for itself; letters and digits have a meaning or none.
The boundaries of words are known in ASCII only. -/
def escape (m : Mode) : Reader Symbol := do
  match ← char fun _ => true with
  | 'x' =>
    let s ← codePoint m 2
    match s with
    | .char c => if m.unicode || isAscii c then return s else refuse
    | _ => return s
  | 'u' => codePoint m 4
  | 'U' => codePoint m 8
  | 'a' => return .char '\x07'
  | 'f' => return .char '\x0c'
  | 't' => return .char '\t'
  | 'n' => return .char '\n'
  | 'r' => return .char '\r'
  | 'v' => return .char '\x0b'
  | 'A' | 'z' => return .anchor
  | 'b' | 'B' | '<' | '>' => if m.unicode then refuse else return .anchor
  | 'd' | 's' | 'w' => return .oneOf
  | 'D' | 'S' | 'W' => if m.unicode then return .oneOf else refuse
  | 'p' | 'P' =>
    if !m.unicode then refuse
    spacing m
    let _ ← char fun c => "CLMNPSZ".contains c.toUpper
    spacing m
    return .oneOf
  | c => if isAscii c && !c.isAlphanum then return .char c else refuse

/-- A character, or an escape. -/
def symbol (m : Mode) : Reader Symbol :=
  (do literal "\\"; escape m) <|> Symbol.char <$> char (· ≠ '\\')

/-- A symbol outside of sets. A point stands for any character. -/
def plain (m : Mode) : Reader Unit := do
  if (← ahead ".") && !m.unicode then refuse
  let _ ← symbol m

/-! ### Sets -/

/-- A symbol within a set, which is no anchor. -/
def member (m : Mode) : Reader Symbol := do
  match ← symbol m with
  | .char c => if m.unicode || isAscii c then return .char c else refuse
  | .oneOf => return .oneOf
  | .anchor => refuse

/-- The character behind a hyphen. White space and the sign that begins a comment are passed over, but
not the comment itself. -/
def behindHyphen (m : Mode) (cs : List Char) : Option Char :=
  if m.spaced then
    match cs.dropWhile isBlank with
    | '#' :: rest => (rest.dropWhile isBlank).head?
    | rest => rest.head?
  else
    cs.head?

/-- Whether a hyphen comes next that joins two members. A hyphen before the closing bracket or before
another one is a member itself. -/
def joins (m : Mode) : Reader Bool := fun cs =>
  let joined := match cs with
    | '-' :: rest => behindHyphen m rest ≠ some ']' && behindHyphen m rest ≠ some '-'
    | _ => false
  some (joined, cs)

/-- A member of a set, or the first and the last one of a range. -/
def members (m : Mode) : Reader Unit := do
  if (← ahead "]") || (← ahead "[") then refuse
  let first ← member m
  spacing m
  if ← joins m then
    literal "-"
    spacing m
    match first, ← member m with
    | .char first, .char last => if first ≤ last then return () else refuse
    | _, _ => refuse

/-- The names of sets of ASCII characters. -/
def asciiSets : List String :=
  ["alnum", "alpha", "ascii", "blank", "cntrl", "digit", "graph", "lower", "print", "punct", "space",
    "upper", "word", "xdigit"]

/-- A named set of ASCII characters, and whether the others are meant. -/
def asciiSet : Reader Bool := do
  literal "[:"
  let negated ← optional (literal "^")
  let name ← span Char.isAlpha
  literal ":]"
  if String.ofList name ∈ asciiSets then return negated.isSome else refuse

/-- An operation on the sets to its left and right. -/
def setOperation : Reader Unit := literal "&&" <|> literal "--" <|> literal "~~"

/-- What sets are made of. -/
inductive SetPart where
  | operation
  /-- Members, with the depth of the sets in them. -/
  | members (depth : Nat)
  deriving DecidableEq, Repr

/-- A part of a set, given how a set within it is read. -/
def setPart (m : Mode) (inner : Reader Nat) : Reader SetPart := do
  spacing m
  match ← optional asciiSet with
  | some negated => if negated && !m.unicode then refuse else return .members 0
  | none =>
    SetPart.members <$> inner
      <|> (do setOperation; return .operation)
      <|> (do members m; return .members 0)

/-- The depth of parts that stand side by side: several are one level deeper than the deepest. -/
def depthOfAll : List Nat → Nat
  | [] => 0
  | [depth] => depth
  | depths => depths.foldl Nat.max 0 + 1

/-- The depth of a set. An operation is one level deeper than what it joins. -/
def depthOfSet (parts : List SetPart) : Nat :=
  let operands := (parts.splitOn .operation).map fun operand =>
    depthOfAll (operand.map fun
      | .members depth => depth
      | .operation => 0)
  1 + match operands with
    | [] => 0
    | first :: others => others.foldl (fun depth other => Nat.max depth other + 1) first

/-- A set in brackets, with sets nested at most `n` deep; its depth. Hyphens in front are members, and
without any a closing bracket in front is one. -/
def set (m : Mode) : Nat → Reader Nat
  | 0 => refuse
  | n + 1 => do
    literal "["
    spacing m
    if (← optional (literal "^")).isSome then
      if !m.unicode then refuse
      spacing m
    let hyphens ← many (do literal "-"; spacing m)
    let bracket ← atMost (do literal "]"; spacing m) (if hyphens = [] then 1 else 0)
    let parts ← many (setPart m (set m n))
    spacing m
    literal "]"
    return depthOfSet ((hyphens ++ bracket).map (fun _ => .members 0) ++ parts)

/-! ### Groups -/

/-- What an opening parenthesis begins. -/
inductive Opening where
  /-- Flags for what follows, without a group. -/
  | setting (given : List Char)
  /-- A group with flags of its own. -/
  | group (name : Option (List Char)) (given : List Char)
  deriving DecidableEq, Repr

/-- The name of a group, between its marks. -/
def groupName : Reader (List Char) := do
  literal "?P<" <|> literal "?<"
  let first ← char fun c => c = '_' || isAlphabetic c
  let rest ← span fun c => "_.[]".contains c || isAlphanumeric c
  literal ">"
  return first :: rest

/-- What stands behind an opening parenthesis: a name, flags or nothing. -/
def opening : Reader Opening :=
  (do return .group (some (← groupName)) []) <|>
  (do literal "?"; let given ← flags; literal ":"; return .group none given) <|>
  (do
    literal "?"
    let given ← flags
    literal ")"
    if given = [] then refuse else return .setting given) <|>
  (do if ← ahead "?" then refuse else return .group none [])

/-! ### Whole patterns -/

/-- A part of a pattern. -/
inductive Part where
  | setting
  /-- Something that can be repeated, with its depth. -/
  | item (depth : Nat)
  deriving DecidableEq, Repr

/-- How deep a part is. -/
def Part.depth : Part → Nat
  | setting => 0
  | item depth => depth

/-- What has been read of the alternatives of a pattern or a group. -/
structure Progress where
  /-- The names of groups. -/
  names : List (List Char)
  /-- The depths of the alternatives before the present one. -/
  closed : List Nat
  /-- The parts of the present alternative, the last one first. -/
  parts : List Part
  deriving DecidableEq, Repr

namespace Progress

/-- Before anything has been read. -/
def start : Progress := ⟨[], [], []⟩

/-- Adds a part. -/
def add (p : Progress) (part : Part) : Progress := { p with parts := part :: p.parts }

/-- Adds a group with what has been read of it. -/
def addGroup (p : Progress) (name : Option (List Char)) (depth : Nat) (names : List (List Char)) :
    Progress :=
  { p with names := p.names ++ name.toList ++ names, parts := .item (depth + 1) :: p.parts }

/-- Repeats the last part. -/
def repeatLast? (p : Progress) : Option Progress :=
  match p.parts with
  | .item depth :: parts => some { p with parts := .item (depth + 1) :: parts }
  | _ => none

/-- Begins a new alternative. -/
def alternate (p : Progress) : Progress :=
  { p with closed := depthOfAll (p.parts.map Part.depth) :: p.closed, parts := [] }

/-- The depth of what has been read. -/
def depth (p : Progress) : Nat := depthOfAll p.alternate.closed

end Progress

/-- Reads alternatives up to a closing parenthesis or the end, in at most `n` steps. -/
def alternatives : Nat → Mode → Progress → Reader Progress
  | 0, _, _ => refuse
  | n + 1, m, p => do
    spacing m
    match ← peek with
    | none | some ')' => return p
    | some '|' =>
      literal "|"
      alternatives n m p.alternate
    | some '(' =>
      literal "("
      spacing m
      match ← opening with
      | .setting given => alternatives n (m.after given) (p.add .setting)
      | .group name given =>
        let content ← alternatives n (m.after given) .start
        literal ")"
        alternatives n m (p.addGroup name content.depth content.names)
    | some '[' =>
      let depth ← set m n
      alternatives n m (p.add (.item depth))
    | some '\x7b' => refuse
    | some c =>
      if c = '?' || c = '*' || c = '+' then
        let _ ← char fun _ => true
        let _ ← optional (literal "?")
        match p.repeatLast? with
        | some p => alternatives n m p
        | none => refuse
      else
        plain m
        alternatives n m (p.add (.item 0))

/-- How deep the parts of a pattern may be nested. -/
def nesting : Nat := 250

end Pattern

/-- Whether a text is a pattern. No two groups of it have the same name, and its parts are not nested too
deep. -/
def isPattern (cs : List Char) : Bool :=
  match Pattern.alternatives (cs.length + 1) .initial .start cs with
  | some (p, []) => p.names.Nodup && p.depth ≤ Pattern.nesting
  | _ => false

end Scoreboard.Text
