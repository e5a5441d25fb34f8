import Scoreboard.Command
import Scoreboard.Fire
import Scoreboard.Logging.Level
import Scoreboard.Plugin
import Scoreboard.Text.Quoted

/-!
# Notes

What an engine tells its operator while it works. A note is kept as what it is about; its level and its
wording follow from that.
-/

namespace Scoreboard

/-- A diagnostic of an engine. -/
inductive Note where
  /-- Commands go out. -/
  | sending (text : String)
  | registering (plugin : Plugin) (name criterion display : String)
  | binding (plugin : Plugin) (names : List String)
  /-- An objective that is not registered is not shown. -/
  | notShown (objective : String)
  /-- The score of an objective that is not registered is not changed. -/
  | notChanged (change : ScoreChange) (objective : String)
  | noScore (player objective reply : String)
  | playersUnread (reply : String)
  | objectivesUnread (reply : String)
  /-- A full synchronisation has been published. -/
  | synced (players objectives : Nat)
  /-- The trigger of a fire is not bound. -/
  | unbound (fire : Fire)
  | dispatched (fire : Fire)
  /-- The value of a fire was out of range. -/
  | clamped (numeral : Text.Numeral)
  /-- The engine has started, and counted the stale triggers it removed if it looked for any. -/
  | started (removed : Option Nat)
  | shutDown
  /-- The debouncer has ended. -/
  | debouncerEnded
  /-- A synchronisation was asked for after that. -/
  | requestLost
  deriving DecidableEq, Repr

namespace Note

/-- How much a note matters. -/
def level : Note → Level
  | registering .. | binding .. | started _ | shutDown => .info
  | notShown _ | notChanged .. => .warn
  | requestLost => .trace
  | _ => .debug

/-- The wording of a note. -/
def message : Note → String
  | sending text => "console -> " ++ text
  | registering plugin name criterion display =>
    "Plugin " ++ plugin.displayName ++ " registered scoreboard " ++ name ++ " (" ++ display ++ ") [" ++
      criterion ++ "]"
  | binding plugin names =>
    "Plugin " ++ plugin.displayName ++ " registered " ++ toString names.length ++ " trigger(s): " ++
      ", ".intercalate names
  | notShown objective => "setdisplay on unregistered objective " ++ objective ++ " ignored"
  | notChanged change objective =>
    change.word ++ " on unregistered objective " ++ objective ++ " ignored"
  | noScore player objective reply =>
    "no score for " ++ player ++ " in " ++ objective ++ ": " ++ Text.quoted reply
  | playersUnread reply => "tracked player list not understood: " ++ Text.quoted reply
  | objectivesUnread reply => "objective list not understood: " ++ Text.quoted reply
  | synced players objectives =>
    "full sync: " ++ toString players ++ " players x " ++ toString objectives ++ " objectives"
  | unbound fire => "trigger " ++ fire.trigger ++ " fired by " ++ fire.player ++ " is not bound here"
  | dispatched fire =>
    "trigger " ++ fire.trigger ++ " fired by " ++ fire.player ++ " (" ++ fire.value.toInt.repr ++ ")"
  | clamped numeral =>
    "trigger value " ++ String.ofList numeral.text ++ " out of range, clamped to " ++
      numeral.clampToInt32.toInt.repr
  | started (some removed) =>
    "Scoreboard core started, removed " ++ toString removed ++ " stale triggers"
  | started none => "Scoreboard core started"
  | shutDown => "Scoreboard core shut down"
  | debouncerEnded => "sync scheduler stopped"
  | requestLost => "sync requested after scheduler shutdown"

end Note

end Scoreboard
