import Scoreboard.Config
import Scoreboard.Debouncer
import Scoreboard.Engine.Note
import Scoreboard.Engine.Stats
import Scoreboard.Table
import Scoreboard.Text.Quoted
import Scoreboard.Trigger

/-!
# Engines

An engine keeps what it knows of the scoreboard: which objectives exist (the registry), the last scores
it read (the cache) and which callback each trigger is bound to. The registry only grows at its end, a
score in the cache is only ever replaced by another, and a trigger keeps its callback for good.
-/

namespace Scoreboard

/-- What runs when a trigger is used: its name, and the lines that it has the console put out for a fire.
How it ends concerns nobody else. -/
structure Callback where
  id : String
  /-- The lines may depend on who has used the trigger and with which value. -/
  emits : Fire → List String := fun _ => []

/-- The scores of players: for each player a table from objectives to values. A player can be known
without a score. -/
abbrev Scores := Table (Table Int64)

namespace Scores

/-- The score of a player in an objective, if there is one. -/
def value? (s : Scores) (player objective : String) : Option Int64 :=
  (s.get? player).bind (·.get? objective)

/-- Makes a player known, without scores. -/
def know (s : Scores) (player : String) : Scores := s.insertNew player {}

/-- Enters a score; the player is known from then on. -/
def put (s : Scores) (player objective : String) (value : Int64) : Scores :=
  s.insert player (((s.get? player).getD {}).insert objective value)

/-- Making a player known changes no score. -/
theorem value?_know (s : Scores) (player other objective : String) :
    (s.know player).value? other objective = s.value? other objective := by
  unfold know value?
  rw [Table.get?_insertNew]
  by_cases h : player = other
  · subst h
    cases s.get? player <;> simp [Table.get?, Table.find?]
  · simp [h]

/-- Entering a score changes this one and no other. -/
theorem value?_put (s : Scores) (player objective p o : String) (value : Int64) :
    (s.put player objective value).value? p o =
      if player = p ∧ objective = o then some value else s.value? p o := by
  unfold put value?
  rw [Table.get?_insert]
  by_cases h : player = p
  · subst h
    by_cases ho : objective = o
    · simp [ho]
    · cases s.get? player with
      | none => simp [ho]; rfl
      | some t => simp [ho]
  · simp [h]

end Scores

/-- The state of an engine. -/
structure Engine where
  config : Config := {}
  /-- The registry: the objectives that exist, in the order in which they were entered. -/
  objectives : List String := []
  /-- The cache: the scores last read. -/
  scores : Scores := {}
  /-- The callbacks that triggers are bound to. -/
  triggers : Table Callback := {}
  /-- Gathers requests for a full synchronisation. -/
  debouncer : Debouncer := { window := config.window }
  stats : Stats := {}
  isShutDown : Bool := false
  /-- Whether somebody outside holds on to the engine. -/
  isHeld : Bool := true

namespace Engine

/-- Whether the engine knows of an objective. -/
def isRegistered (e : Engine) (objective : String) : Bool := objective ∈ e.objectives

/-- The names of the bound triggers in order. -/
def triggerNames (e : Engine) : List String := e.triggers.keys.mergeSort

/-- Enters an objective, and counts it. -/
def register (e : Engine) (objective : String) : Engine :=
  { e with
    objectives := e.objectives ++ [objective]
    stats.objectivesRegistered := e.stats.objectivesRegistered + 1 }

/-- Asks for a full synchronisation after the window. -/
def requestSync (e : Engine) : Engine × List Note :=
  if e.debouncer.isRunning then ({ e with debouncer := e.debouncer.send .request }, [])
  else (e, [.requestLost])

/-- Enters one score in the cache. -/
def putScore (e : Engine) (player objective : String) (value : Int64) : Engine :=
  { e with scores := e.scores.put player objective value }

/-- Binds triggers to callbacks, one to one. -/
def bind (e : Engine) (bindings : List (String × Callback)) : Engine :=
  { e with triggers := bindings.foldl (fun t b => t.insert b.1 b.2) e.triggers }

/-- Begins the teardown: no full synchronisation will start again. -/
def shutDown (e : Engine) : Engine :=
  { e with isShutDown := true, debouncer := e.debouncer.send .stop }

/-- The engine as a diagnostic shows it. -/
def describe (e : Engine) : String :=
  "ScoreboardCore \x7b config: ScoreboardConfig \x7b owner: " ++ Text.quoted e.config.owner ++
    ", sync_debounce_ms: " ++ toString e.config.window ++ ", purge_stale_triggers: " ++
    toString e.config.purgeStale ++ " \x7d, objectives: \"[objectives]\", scores: \"[scores]\", " ++
    "triggers: \"[triggers]\", shut_down: " ++ toString e.isShutDown ++ " \x7d"

end Engine

end Scoreboard
