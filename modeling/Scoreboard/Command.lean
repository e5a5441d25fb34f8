/-!
# Commands

What the engine tells the console. A command is a list of words with single spaces between; only the
display text of a new objective may hold spaces of its own, and it stands last.
-/

namespace Scoreboard

/-- How a score is changed. -/
inductive ScoreChange where
  | set
  | add
  | remove
  deriving DecidableEq, Repr

/-- The word for a change. -/
def ScoreChange.word : ScoreChange → String
  | .set => "set"
  | .add => "add"
  | .remove => "remove"

/-- The commands of the scoreboard. -/
inductive Command where
  /-- Creates an objective. -/
  | addObjective (name criterion display : String)
  /-- Removes an objective. -/
  | removeObjective (name : String)
  /-- Shows an objective in a slot of the screen. -/
  | setDisplay (slot name : String)
  /-- Asks for the names of all objectives. -/
  | listObjectives
  /-- Changes a player's score. -/
  | changeScore (change : ScoreChange) (player name : String) (count : Int64)
  /-- Asks for a player's score. -/
  | getScore (player name : String)
  /-- Asks for the players that have a score. -/
  | listPlayers
  /-- Creates a trigger objective. -/
  | addTrigger (name : String)
  /-- Lets every player online use a trigger again. -/
  | enableTrigger (name : String)
  deriving DecidableEq, Repr

namespace Command

/-- The words of a command, in order. -/
def words : Command → List String
  | addObjective name criterion display =>
    ["scoreboard", "objectives", "add", name, criterion, display]
  | removeObjective name => ["scoreboard", "objectives", "remove", name]
  | setDisplay slot name => ["scoreboard", "objectives", "setdisplay", slot, name]
  | listObjectives => ["scoreboard", "objectives", "list"]
  | changeScore change player name count =>
    ["scoreboard", "players", change.word, player, name, count.toInt.repr]
  | getScore player name => ["scoreboard", "players", "get", player, name]
  | listPlayers => ["scoreboard", "players", "list"]
  | addTrigger name => ["scoreboard", "objectives", "add", name, "trigger"]
  | enableTrigger name => ["scoreboard", "players", "enable", "@a", name]

/-- The line that is sent for a command. -/
def text (c : Command) : String := " ".intercalate c.words

/-- Commands that are sent together, one to a line. -/
def batch (cs : List Command) : String := "\n".intercalate (cs.map text)

@[simp] theorem batch_singleton (c : Command) : batch [c] = c.text := rfl

end Command

end Scoreboard
