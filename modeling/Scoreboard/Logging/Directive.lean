import Scoreboard.Logging.Level
import Scoreboard.Text.Blank
import Scoreboard.Text.Bytes
import Scoreboard.Text.Pattern

/-!
# Directives of a log filter

A directive gives the least level of some events. It names a target, a part of the program, or a group in
brackets: a span in which the events happen, a field that they have, or both. The level follows after an
equals sign. A directive may also be a level alone, which is for all events.
-/

namespace Scoreboard

/-- A field that events have, with a value if one is asked for. -/
structure FieldTest where
  name : List Char
  value : Option (List Char)
  deriving DecidableEq, Repr

/-- The least level of some events. -/
structure Directive where
  target : Option (List Char)
  span : Option (List Char)
  field : Option FieldTest
  /-- No event is let through if there is none. -/
  least : Option Level
  deriving DecidableEq, Repr

open Text (byteCount between? cutAt? Reader)

/-- Why a directive cannot be read. -/
inductive DirectiveError where
  | malformed
  /-- An offset falls inside a character. Nothing can be set up after this. -/
  | insideCharacter
  deriving DecidableEq, Repr

/-! ### Fields -/

namespace FieldTest

open Text.Reader

/-- A number with a plus sign in front. -/
def signedNumber : Reader Unit := do
  literal "+"
  let word ← span Char.isAlpha
  if String.ofList (word.map Char.toLower) ∈ ["inf", "infinity", "nan"] then return ()
  if word ≠ [] then refuse
  let whole ← span Char.isDigit
  let fraction ← optional do
    literal "."
    span Char.isDigit
  if whole ++ fraction.getD [] = [] then refuse
  let _ ← optional do
    let _ ← char fun c => c = 'e' || c = 'E'
    let _ ← optional (char fun c => c = '+' || c = '-')
    span1 Char.isDigit

/-- Whether a text can be the value of a field: a truth value, a number or a pattern. Truth values, and
numbers without a plus sign, are patterns too. -/
def isValue (cs : List Char) : Bool :=
  Text.isPattern cs || match signedNumber cs with
    | some (_, []) => true
    | _ => false

/-- Reads a name, or a name and a value, with an equals sign between; a second sign and what follows are
left out. -/
def read? (cs : List Char) : Option FieldTest :=
  match cutAt? '=' cs with
  | none => some ⟨cs, none⟩
  | some (name, after) =>
    let value := after.takeWhile (· ≠ '=')
    if isValue value then some ⟨name, some value⟩ else none

end FieldTest

namespace Directive

/-! ### Reading

The marks of a directive are looked for without the white space around it. What stands between them is
taken at the same offsets from the directive as it was written, white space included.
-/

/-- The text between two offsets of a directive. -/
def textBetween (written : List Char) (start stop : Nat) : Except DirectiveError (List Char) :=
  match between? start stop written with
  | some text => .ok text
  | none => .error .insideCharacter

/-- The least level that is written from an offset on. All levels are let through if there is no text. -/
def readLevel (written : List Char) (start : Nat) : Except DirectiveError (Option Level) := do
  let word ← textBetween written start (byteCount written)
  if word = [] then return some .trace
  match Level.least? word with
  | some least => return least
  | none => throw .malformed

/-- Reads the level behind a group that ends at an offset. All levels are let through if there is none. -/
def readAfterGroup (written : List Char) (stop : Nat) :
    List Char → Except DirectiveError (Option Level)
  | [] => return some .trace
  | '=' :: _ => readLevel written (stop + 1)
  | _ => throw .malformed

/-- Reads a field, whose opening brace ends at an offset, and what follows. -/
def readField (written : List Char) (target span : Option (List Char)) (start : Nat)
    (cs : List Char) : Except DirectiveError Directive :=
  match cutAt? '\x7d' cs with
  | none => throw .malformed
  | some (inside, rest) => do
    let stop := start + byteCount inside
    let text ← textBetween written start stop
    match if text = [] then none else FieldTest.read? text with
    | none => throw .malformed
    | some field =>
      match rest with
      | ']' :: rest => return ⟨target, span, some field, ← readAfterGroup written (stop + 2) rest⟩
      | _ => throw .malformed

/-- Reads a group, whose opening bracket ends at an offset, and what follows. -/
def readGroup (written : List Char) (target : Option (List Char)) (start : Nat)
    (cs : List Char) : Except DirectiveError Directive :=
  let isMark (c : Char) := c = ']' || c = '\x7b'
  let stop := start + byteCount (cs.takeWhile (!isMark ·))
  match cs.dropWhile (!isMark ·) with
  | [] => throw .malformed
  | mark :: rest => do
    let span ← textBetween written start stop
    if mark = ']' then
      return ⟨target, some span, none, ← readAfterGroup written (stop + 1) rest⟩
    else
      readField written target (if span = [] then none else some span) (stop + 1) rest

/-- A character that a target may begin with. -/
def isLead (c : Char) : Bool := Text.isAlphanumeric c || c = '-' || c = ':' || c = '_'

/-- Reads a directive. -/
def read (written : List Char) : Except DirectiveError Directive :=
  let cs := Text.trim written
  match cs with
  | [] => throw .malformed
  | '[' :: rest => readGroup written none 1 rest
  | c :: _ =>
    let isMark (c : Char) := c = '=' || c = '['
    let stop := byteCount (cs.takeWhile (!isMark ·))
    if !isLead c then throw .malformed
    else
      match cs.dropWhile (!isMark ·) with
      | [] =>
        match Level.least? written with
        | some least => return ⟨none, none, none, least⟩
        | none => return ⟨some written, none, none, some .trace⟩
      | mark :: rest => do
        let target ← textBetween written 0 stop
        if mark = '=' then return ⟨some target, none, none, ← readLevel written (stop + 1)⟩
        else readGroup written (some target) (stop + 1) rest

/-! ### Meaning -/

/-- The name of the one field of an event that is logged here. -/
def messageField : List Char := "message".toList

/-- Whether a directive is for the events that are logged here. They come from no target that is named
and happen in no span, and the value of their field is not looked at. -/
def isForMessages (d : Directive) : Bool :=
  d.target.isNone && d.span.isNone &&
    match d.field with
    | none => true
    | some test => test = ⟨messageField, none⟩

end Directive

end Scoreboard
