import Scoreboard.Table

/-!
# TOML values and documents

A document is a tree of tables. How a table came about decides what may still be added to it: a table
written between braces is closed; one opened by a header takes keys under that header alone; one that
only lies on the way to a longer header may still get a header of its own; one made by dotted keys
takes more dotted keys.

`Document.ofLines?` builds the tree line by line and refuses whatever defines a key twice.
-/

namespace Scoreboard.Toml

/-- How a table came about. -/
inductive Origin where
  /-- Written between braces. -/
  | braces
  /-- Opened by a header. -/
  | header
  /-- On the way to a longer header. -/
  | implied
  /-- Made by dotted keys. -/
  | dotted
  deriving DecidableEq, Repr

/-- A value. Numbers with a fraction and moments in time carry nothing, as no setting takes one. -/
inductive Value where
  | text (s : String)
  | integer (n : Int)
  | float
  | boolean (b : Bool)
  | moment
  | array (items : List Value)
  | table (origin : Origin) (entries : List (String × Value))
  /-- An array of tables made by doubled headers, the newest first. -/
  | tables (elements : List (List (String × Value)))
  deriving Inhabited

/-- The keys and values of a table. -/
abbrev Entries := List (String × Value)

/-- A line of a document. -/
inductive Line where
  /-- White space and comments only. -/
  | blank
  /-- A header in single brackets. -/
  | header (path : List String)
  /-- A header in double brackets. -/
  | element (path : List String)
  /-- A key, the dotted keys before it, and its value. -/
  | pair (path : List String) (key : String) (value : Value)

namespace Entries

open Table (find? put)

/-- Adds a key that is not there yet. -/
def add? (key : String) (value : Value) (es : Entries) : Option Entries :=
  match find? key es with
  | none => some (put key value es)
  | some _ => none

/-- Goes along the path of a header, making the tables on the way, and changes what it leads to. Of an
array of tables the newest is meant. -/
def along? (change : Entries → Option Entries) : List String → Entries → Option Entries
  | [], es => change es
  | key :: path, es =>
    match find? key es with
    | none => (along? change path []).map fun inner => put key (.table .implied inner) es
    | some (.table origin inner) =>
      if origin = .braces then none
      else (along? change path inner).map fun inner => put key (.table origin inner) es
    | some (.tables (newest :: older)) =>
      (along? change path newest).map fun newest => put key (.tables (newest :: older)) es
    | some _ => none

/-- Opens a table: a new one, or one that lay on the way to a longer header. -/
def openTable? (key : String) (es : Entries) : Option Entries :=
  match find? key es with
  | none => some (put key (.table .header []) es)
  | some (.table .implied inner) => some (put key (.table .header inner) es)
  | some _ => none

/-- Opens a further table of an array of tables. -/
def openElement? (key : String) (es : Entries) : Option Entries :=
  match find? key es with
  | none => some (put key (.tables [[]]) es)
  | some (.tables elements) => some (put key (.tables ([] :: elements)) es)
  | some _ => none

/-- Adds a key under dotted keys. The table right above the key has to be one that dotted keys made. -/
def addUnder? (key : String) (value : Value) : List String → Entries → Option Entries
  | [], es => add? key value es
  | [above], es =>
    match find? above es with
    | none => some (put above (.table .dotted [(key, value)]) es)
    | some (.table .dotted inner) =>
      (add? key value inner).map fun inner => put above (.table .dotted inner) es
    | some _ => none
  | outer :: path, es =>
    match find? outer es with
    | none =>
      (addUnder? key value path []).map fun inner => put outer (.table .dotted inner) es
    | some (.table .dotted inner) =>
      (addUnder? key value path inner).map fun inner => put outer (.table .dotted inner) es
    | some (.table .implied inner) =>
      (addUnder? key value path inner).map fun inner => put outer (.table .implied inner) es
    | some (.tables (newest :: older)) =>
      (addUnder? key value path newest).map fun newest => put outer (.tables (newest :: older)) es
    | some _ => none

/-- The entries of a table between braces. -/
def ofPairs? (pairs : List (List String × String × Value)) : Option Entries :=
  pairs.foldlM (fun es (path, key, value) => addUnder? key value path es) []

end Entries

/-- A document while it is built: its entries, and the path of the header that keys go under. -/
structure Document where
  entries : Entries := []
  current : List String := []

namespace Document

/-- Adds a line. -/
def addLine? (d : Document) : Line → Option Document
  | .blank => some d
  | .header path => do
    let key ← path.getLast?
    let entries ← Entries.along? (Entries.openTable? key) path.dropLast d.entries
    return ⟨entries, path⟩
  | .element path => do
    let key ← path.getLast?
    let entries ← Entries.along? (Entries.openElement? key) path.dropLast d.entries
    return ⟨entries, path⟩
  | .pair path key value => do
    let entries ← Entries.along? (Entries.addUnder? key value path) d.current d.entries
    return { d with entries }

/-- The entries that the lines of a document make. -/
def ofLines? (lines : List Line) : Option Entries :=
  (lines.foldlM addLine? {}).map Document.entries

end Document

end Scoreboard.Toml
