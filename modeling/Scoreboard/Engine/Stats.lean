/-!
# Statistics

Counters of what an engine has done. They wrap around after 64 bits.
-/

namespace Scoreboard

/-- What an engine has done so far. -/
structure Stats where
  /-- Objectives entered in the registry. -/
  objectivesRegistered : UInt64 := 0
  /-- Triggers bound to callbacks. -/
  triggersRegistered : UInt64 := 0
  /-- Fires handed to a callback. -/
  triggersFired : UInt64 := 0
  /-- Full synchronisations begun. -/
  fullSyncs : UInt64 := 0
  /-- Single scores asked for and answered. -/
  singleSyncs : UInt64 := 0
  /-- Commands sent, a batch counting once. -/
  commandsIssued : UInt64 := 0
  deriving DecidableEq, Repr

end Scoreboard
