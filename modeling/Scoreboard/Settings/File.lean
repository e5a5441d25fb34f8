import Scoreboard.Settings.Decode
import Scoreboard.Toml.Parser

/-!
# The settings file

Loading reads a file that is there and never changes it. Where there is none, a file with the defaults
is written, so that operators have one to edit.
-/

namespace Scoreboard.Settings

/-- What is found at a path. -/
inductive FileState where
  /-- Nothing; a file can be written there or not. -/
  | absent (writable : Bool)
  /-- A directory. -/
  | directory
  /-- A file with these bytes. -/
  | holding (bytes : ByteArray)

/-- Why settings cannot be loaded. -/
inductive LoadError where
  /-- The file cannot be read as text, or not be written. -/
  | access
  /-- The text is not TOML, or a value is of another kind than its setting. -/
  | form
  /-- Nothing can run with a value. -/
  | invalid (fault : Fault)
  deriving DecidableEq, Repr

/-- The file that is written where there is none: the defaults. -/
def template : String :=
  "[scoreboard]\nowner = \"ScoreboardCore\"\nsync_debounce_ms = 1000\npurge_stale_triggers = true\n\n" ++
    "[logging]\nlevel = \"info\"\njson_format = false\n"

/-- The settings in a text. -/
def ofText (text : String) : Except LoadError Settings :=
  match (Toml.parse? text).bind ofEntries? with
  | none => .error .form
  | some settings =>
    match settings.fault? with
    | none => .ok settings
    | some fault => .error (.invalid fault)

/-- Loads the settings at a path, and says what is there afterwards. -/
def load : FileState → Except LoadError Settings × FileState
  | .absent true => (.ok {}, .holding template.toUTF8)
  | .absent false => (.error .access, .absent false)
  | .directory => (.error .access, .directory)
  | .holding bytes =>
    let result := match String.fromUTF8? bytes with
      | none => .error .access
      | some text => ofText text
    (result, .holding bytes)

end Scoreboard.Settings
