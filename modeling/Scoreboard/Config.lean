/-!
# Configuration of an engine
-/

namespace Scoreboard

/-- What an engine is started with. -/
structure Config where
  /-- The owner under which the engine listens to console lines. -/
  owner : String := "ScoreboardCore"
  /-- How long requests for a full synchronisation are gathered, in milliseconds. -/
  window : Nat := 1000
  /-- Whether trigger objectives left by an earlier process are removed at the start. -/
  purgeStale : Bool := true
  deriving DecidableEq, Repr

end Scoreboard
