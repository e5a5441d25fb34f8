import Scoreboard.Config
import Scoreboard.Logging.Level
import Scoreboard.Text.Blank
import Scoreboard.Text.Quoted

/-!
# Settings

What an operator can set, the defaults, and the values that nothing can run with. The checks are made
in a fixed order and the first that fails is the fault.
-/

namespace Scoreboard

/-- How diagnostics are put out. -/
structure LogSettings where
  /-- The name of the least level that is put out. -/
  level : String := "info"
  /-- Whether a line is a JSON object. -/
  json : Bool := false
  deriving DecidableEq, Repr

/-- The settings of a process. -/
structure Settings where
  scoreboard : Config := {}
  logging : LogSettings := {}
  deriving DecidableEq, Repr

namespace Settings

/-- A value that nothing can run with. -/
inductive Fault where
  | emptyOwner
  | zeroWindow
  | unknownLevel (name : String)
  deriving DecidableEq, Repr

/-- The names that a level may have, as a fault lists them. -/
def levelList : String :=
  "[" ++ ", ".intercalate (Level.all.map fun l => Text.quoted l.name) ++ "]"

/-- What is said about a fault. -/
def Fault.message : Fault → String
  | emptyOwner => "Invalid configuration: owner cannot be empty"
  | zeroWindow => "Invalid configuration: sync_debounce_ms must be greater than zero"
  | unknownLevel name =>
    "Invalid configuration: Invalid log level: " ++ name ++ ". Must be one of: " ++ levelList

/-- The first fault of the settings, if they have one. -/
def fault? (s : Settings) : Option Fault :=
  if Text.trim s.scoreboard.owner.toList = [] then some .emptyOwner
  else if s.scoreboard.window = 0 then some .zeroWindow
  else if s.logging.level ∉ Level.all.map Level.name then some (.unknownLevel s.logging.level)
  else none

end Settings

end Scoreboard
