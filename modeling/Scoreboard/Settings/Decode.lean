import Scoreboard.Settings
import Scoreboard.Toml.Value

/-!
# Settings from TOML

A section of the settings is a table, in which keys that mean nothing are passed over and keys that are
missing have their defaults. A section may also be written as an array of its fields in order, of which
the last ones may be missing; and a moment in its place counts as a section without any field.
-/

namespace Scoreboard.Settings

open Toml (Value Entries)

/-- A field of a section by its key and its place; `none` if the section has no such field. -/
abbrev Section := String → Nat → Option Value

/-- The fields of a section, if a value can be one. -/
def section? : Value → Option Section
  | .table _ entries => some fun key _ => Table.find? key entries
  | .array items => some fun _ place => items[place]?
  | .tables elements => some fun _ place => (elements.reverse[place]?).map (.table .header)
  | .moment => some fun _ _ => none
  | _ => none

/-- A text. -/
def text? : Value → Option String
  | .text s => some s
  | _ => none

/-- A number that is not negative. -/
def count? : Value → Option Nat
  | .integer n => if 0 ≤ n then some n.toNat else none
  | _ => none

/-- A truth value. -/
def flag? : Value → Option Bool
  | .boolean b => some b
  | _ => none

/-- A field: its default if it is missing, and nothing if its value is of another kind. -/
def field? {α : Type} (kind : Value → Option α) (fallback : α) : Option Value → Option α
  | none => some fallback
  | some v => kind v

/-- The configuration of the engine from its section. -/
def config? (s : Section) : Option Config := do
  let owner ← field? text? ({} : Config).owner (s "owner" 0)
  let window ← field? count? ({} : Config).window (s "sync_debounce_ms" 1)
  let purgeStale ← field? flag? ({} : Config).purgeStale (s "purge_stale_triggers" 2)
  return { owner, window, purgeStale }

/-- The log settings from their section. -/
def logging? (s : Section) : Option LogSettings := do
  let level ← field? text? ({} : LogSettings).level (s "level" 0)
  let json ← field? flag? ({} : LogSettings).json (s "json_format" 1)
  return { level, json }

/-- The settings of a document. -/
def ofEntries? (entries : Entries) : Option Settings := do
  let scoreboard ← field? (fun v => (section? v).bind config?) {} (Table.find? "scoreboard" entries)
  let logging ← field? (fun v => (section? v).bind logging?) {} (Table.find? "logging" entries)
  return { scoreboard, logging }

end Scoreboard.Settings
