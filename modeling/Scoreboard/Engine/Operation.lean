import Scoreboard.Engine
import Scoreboard.Reply

/-!
# Operations of an engine

An operation sends commands and waits for the reply, some of them several times. Between two waits it
runs without a break: `begin` takes it to its first wait or its end, `resume` from one wait to the next.
All that an operation keeps over a wait stands in its stage, so what else happens to the engine in the
meantime is seen where the operation looks again, and nowhere else.
-/

namespace Scoreboard

/-- What can be asked without sending a command. -/
inductive Query where
  | cached (player objective : String)
  | objectives
  | triggerNames
  | isShutDown
  | stats
  | config
  | description
  /-- A plugin's names, and an objective's name on the server. -/
  | names (plugin : Plugin) (name : String)
  deriving DecidableEq, Repr

/-- What an engine is asked to do. -/
inductive Operation where
  | ensure (plugin : Plugin) (name criterion display : String)
  | display (plugin : Plugin) (name slot : String)
  | change (plugin : Plugin) (change : ScoreChange) (player name : String) (count : Int64)
  /-- Reads one score from the server. -/
  | getScore (plugin : Plugin) (player name : String)
  /-- Reads all scores of all known players from the server. -/
  | sync
  | bind (plugin : Plugin) (callback : Callback)
  | bindAll (plugin : Plugin) (callbacks : List Callback)
  /-- Removes trigger objectives that are not bound. -/
  | removeStale
  /-- The first step of an engine: removes stale triggers, if it is set to do so. -/
  | start
  /-- Hands a fire to the callback of its trigger. -/
  | dispatch (fire : Fire)
  | requestSync
  | ask (query : Query)

/-- What is answered to an operation or a request. -/
inductive Answer where
  | nothing
  | flag (value : Bool)
  | count (value : Nat)
  | score (value : Option Int64)
  | text (value : String)
  | texts (values : List String)
  | scores (values : Scores)
  | stats (values : Stats)
  | config (values : Config)
  deriving DecidableEq, Repr

/-- A score that a full synchronisation has read. -/
structure Fetched where
  player : String
  objective : String
  value : Int64
  deriving DecidableEq, Repr

/-- A full synchronisation that reads scores. -/
structure Sync where
  players : List String
  /-- The registry when the list came. -/
  objectives : List String
  /-- The scores read so far, the newest first. -/
  fetched : List Fetched := []
  /-- The scores not read yet; the first one has been asked for. -/
  left : List (String × String)
  deriving DecidableEq, Repr

namespace Sync

/-- A synchronisation of players and objectives, player after player. -/
def create (players objectives : List String) : Sync :=
  { players, objectives, left := players.flatMap fun p => objectives.map fun o => (p, o) }

/-- Takes the reply to what has been asked for. -/
def take (s : Sync) (reply : String) : Sync :=
  match s.left with
  | [] => s
  | (player, objective) :: left =>
    match Reply.score? reply with
    | some value => { s with left, fetched := ⟨player, objective, value⟩ :: s.fetched }
    | none => { s with left }

/-- Makes all players known and enters what was read, in the order in which it was read. -/
def publish (s : Sync) (scores : Scores) : Scores :=
  s.fetched.reverse.foldl (fun t f => t.put f.player f.objective f.value)
    (s.players.foldl Scores.know scores)

end Sync

/-- Where an operation waits for a reply, and what it keeps until then. -/
inductive Stage where
  /-- An objective has been added on the server. -/
  | adding (objective : String)
  /-- The reply does not matter. -/
  | telling
  | readingScore (player objective : String)
  | listingPlayers
  /-- A full synchronisation reads scores. -/
  | syncing (sync : Sync)
  /-- Triggers have been bound; a single name is answered as itself, not as a list. -/
  | binding (names : List String) (single : Bool)
  | listingObjectives (starting : Bool)
  | removing (count : Nat) (starting : Bool)
  /-- The trigger of a fire has been enabled again. -/
  | enabling (fire : Fire) (callback : Callback)

/-- How an operation goes on. -/
inductive Next where
  /-- It sends commands and waits for the reply. -/
  | send (commands : List Command) (stage : Stage)
  | done (answer : Answer)
  /-- It is over, and a callback is to run. -/
  | fire (callback : Callback) (fire : Fire)
  /-- It goes on for ever without sending anything. -/
  | endless

/-- What a stretch of an operation leads to. -/
structure Outcome where
  engine : Engine
  notes : List Note := []
  next : Next := .done .nothing

/-- What a stretch leads to, with a note before all others. -/
def Outcome.after (o : Outcome) (note : Note) : Outcome := { o with notes := note :: o.notes }

namespace Engine

/-- The answer to a question, which needs no reply. -/
def answer (e : Engine) : Query → Answer
  | .cached player objective => .score (e.scores.value? player objective)
  | .objectives => .texts e.objectives
  | .triggerNames => .texts e.triggerNames
  | .isShutDown => .flag e.isShutDown
  | .stats => .stats e.stats
  | .config => .config e.config
  | .description => .text e.describe
  | .names plugin name =>
    .texts [plugin.name, plugin.displayName, plugin.namespaceToken, plugin.objectiveName name]

/-- Sends commands as one text, and waits at a stage for the reply. -/
def send (e : Engine) (commands : List Command) (stage : Stage) : Outcome where
  engine := { e with stats.commandsIssued := e.stats.commandsIssued + 1 }
  notes := [.sending (Command.batch commands)]
  next := .send commands stage

/-! ### From the beginning to the first wait -/

/-- Begins to add an objective, unless it is registered. -/
def beginEnsure (e : Engine) (plugin : Plugin) (name criterion display : String) : Outcome :=
  let objective := plugin.objectiveName name
  if e.isRegistered objective then { engine := e }
  else
    (e.send [.addObjective objective criterion display] (.adding objective)).after
      (.registering plugin name criterion display)

/-- Tells the console something about an objective, if it is registered. -/
def tellOf (e : Engine) (objective : String) (command : Command) (otherwise : Note) : Outcome :=
  if e.isRegistered objective then e.send [command] .telling
  else { engine := e, notes := [otherwise] }

/-- Answers with a score from the cache; an unknown one is zero. -/
def answerScore (e : Engine) (player objective : String) (notes : List Note) : Outcome where
  engine := e
  notes := notes
  next := .done (.score (some ((e.scores.value? player objective).getD 0)))

/-- Begins to read a score, if its objective is registered. -/
def beginGetScore (e : Engine) (plugin : Plugin) (player name : String) : Outcome :=
  let objective := plugin.objectiveName name
  if e.isRegistered objective then
    e.send [.getScore player objective] (.readingScore player objective)
  else e.answerScore player objective []

/-- Begins a full synchronisation: the players are asked for first. -/
def beginSync (e : Engine) : Outcome :=
  send { e with stats.fullSyncs := e.stats.fullSyncs + 1 } [.listPlayers] .listingPlayers

/-- The commands that make triggers and let players use them. -/
def triggerCommands (names : List String) : List Command :=
  names.flatMap fun name => [.addTrigger name, .enableTrigger name]

/-- Binds callbacks to new triggers and begins to make these on the server. Names are chosen and bound
in one stretch, so no other binding can choose them. -/
def beginBind (e : Engine) (plugin : Plugin) (callbacks : List Callback) (single : Bool)
    (draws : Draws) : Outcome × Draws :=
  match callbacks with
  | [] => ({ engine := e, next := .done (.texts []) }, draws)
  | _ :: _ =>
    match Trigger.allocateMany plugin.namespaceToken callbacks.length e.triggers.keys draws with
    | some (names, draws) =>
      (((e.bind (names.zip callbacks)).send (triggerCommands names) (.binding names single)).after
        (.binding plugin names), draws)
    | none => ({ engine := e, next := .endless }, draws)

/-- Begins to remove stale triggers: the objectives are asked for first. -/
def beginRemove (e : Engine) (starting : Bool) : Outcome :=
  e.send [.listObjectives] (.listingObjectives starting)

/-- Begins the start of the engine, which removes stale triggers if it is set to. -/
def beginStart (e : Engine) : Outcome :=
  if e.config.purgeStale then e.beginRemove true else { engine := e, notes := [.started none] }

/-- Looks up the trigger of a fire and begins to enable it again. -/
def beginDispatch (e : Engine) (fire : Fire) : Outcome :=
  match e.triggers.get? fire.trigger with
  | some callback => e.send [.enableTrigger fire.trigger] (.enabling fire callback)
  | none => { engine := e, notes := [.unbound fire] }

/-- Takes an operation to its first wait or to its end. -/
def begin (e : Engine) (operation : Operation) (draws : Draws) : Outcome × Draws :=
  match operation with
  | .ensure plugin name criterion display => (e.beginEnsure plugin name criterion display, draws)
  | .display plugin name slot =>
    let objective := plugin.objectiveName name
    (e.tellOf objective (.setDisplay slot objective) (.notShown objective), draws)
  | .change plugin change player name count =>
    let objective := plugin.objectiveName name
    (e.tellOf objective (.changeScore change player objective count) (.notChanged change objective),
      draws)
  | .getScore plugin player name => (e.beginGetScore plugin player name, draws)
  | .sync => (e.beginSync, draws)
  | .bind plugin callback => e.beginBind plugin [callback] true draws
  | .bindAll plugin callbacks => e.beginBind plugin callbacks false draws
  | .removeStale => (e.beginRemove false, draws)
  | .start => (e.beginStart, draws)
  | .dispatch fire => (e.beginDispatch fire, draws)
  | .requestSync =>
    let (e, notes) := e.requestSync
    ({ engine := e, notes }, draws)
  | .ask query => ({ engine := e, next := .done (e.answer query) }, draws)

/-! ### From one wait to the next -/

/-- Enters an objective that has been added, unless somebody else has entered it in the meantime. -/
def resumeEnsure (e : Engine) (objective : String) : Outcome :=
  if e.isRegistered objective then { engine := e }
  else
    let (e, notes) := (e.register objective).requestSync
    { engine := e, notes }

/-- Enters a score that has been read, and answers with it. -/
def resumeGetScore (e : Engine) (player objective reply : String) : Outcome :=
  let e := { e with stats.singleSyncs := e.stats.singleSyncs + 1 }
  match Reply.score? reply with
  | some value => (e.putScore player objective value).answerScore player objective []
  | none => e.answerScore player objective [.noScore player objective reply]

/-- Asks for the next score of a full synchronisation; after the last one all are entered at once. -/
def continueSync (e : Engine) (sync : Sync) : Outcome :=
  match sync.left with
  | (player, objective) :: _ => e.send [.getScore player objective] (.syncing sync)
  | [] =>
    let scores := sync.publish e.scores
    { engine := { e with scores }
      notes := [.synced sync.players.length sync.objectives.length]
      next := .done (.scores scores) }

/-- Takes the list of players. The objectives are those registered now. -/
def resumeSync (e : Engine) (reply : String) : Outcome :=
  match Reply.players? reply with
  | some players => e.continueSync (Sync.create players e.objectives)
  | none => { engine := e, notes := [.playersUnread reply], next := .done (.scores e.scores) }

/-- Counts the triggers that have been made and answers with their names. -/
def resumeBind (e : Engine) (names : List String) (single : Bool) : Outcome where
  engine :=
    { e with
      stats.triggersRegistered := e.stats.triggersRegistered + UInt64.ofNat names.length }
  next := .done (if single then .text (names.headD "") else .texts names)

/-- Answers with the number of stale triggers removed. -/
def endRemove (e : Engine) (count : Nat) (starting : Bool) : Outcome :=
  if starting then { engine := e, notes := [.started (some count)] }
  else { engine := e, next := .done (.count count) }

/-- Whether an objective is a generated trigger that is not bound. -/
def isStale (e : Engine) (objective : String) : Bool :=
  Trigger.isGenerated objective && !e.triggers.contains objective

/-- Removes those of the objectives listed that are stale now. The choice and the sending are one stretch:
nothing is bound in between as long as the task is not preempted between two suspensions, which a runtime
with several threads could do and which is outside the model. -/
def resumeRemove (e : Engine) (reply : String) (starting : Bool) : Outcome :=
  match Reply.objectives? reply with
  | none => (e.endRemove 0 starting).after (.objectivesUnread reply)
  | some names =>
    match names.filter e.isStale with
    | [] => e.endRemove 0 starting
    | stale => e.send (stale.map .removeObjective) (.removing stale.length starting)

/-- Counts a fire, and comes to its callback. -/
def resumeDispatch (e : Engine) (fire : Fire) (callback : Callback) : Outcome where
  engine := { e with stats.triggersFired := e.stats.triggersFired + 1 }
  notes := [.dispatched fire]
  next := .fire callback fire

/-- Takes an operation from a wait, with the reply, to the next one or to its end. -/
def resume (e : Engine) (stage : Stage) (reply : String) : Outcome :=
  match stage with
  | .adding objective => e.resumeEnsure objective
  | .telling => { engine := e }
  | .readingScore player objective => e.resumeGetScore player objective reply
  | .listingPlayers => e.resumeSync reply
  | .syncing sync => e.continueSync (sync.take reply)
  | .binding names single => e.resumeBind names single
  | .listingObjectives starting => e.resumeRemove reply starting
  | .removing count starting => e.endRemove count starting
  | .enabling fire callback => e.resumeDispatch fire callback

end Engine

end Scoreboard
