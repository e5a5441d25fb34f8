import Scoreboard.Engine.Operation

/-!
# Stretches of an operation

All that a stretch of an operation can do, as two relations: `Begins` for the stretch from the beginning to the first
wait, `Resumes` for one that takes a reply. Each constructor gives the engine afterwards and how the operation goes
on, so what a stretch changes, counts or sends is read off them (`begins_begin`, `resumes_resume`).

What is sent, and under which condition, is given by two relations of its own: `Opens` and `Continues`. Both say all
(`begin_eq_send_iff`, `resume_eq_send_iff`), so who waits in a stage, and what was asked for, is read off their
constructors. A callback is called by the stretch that takes the reply to enabling its trigger again and by no other
(`resume_eq_fire_iff`).
-/

namespace Scoreboard

/-- The callbacks that an operation is to bind. -/
def Operation.callbacks : Operation → List Callback
  | .bind _ callback => [callback]
  | .bindAll _ callbacks => callbacks
  | _ => []

/-- Whether an operation asks for a full synchronisation. -/
def Operation.asksSync : Operation → Bool
  | .requestSync => true
  | _ => false

/-- How many full synchronisations an operation is. -/
def Operation.fullSyncs : Operation → Nat
  | .sync => 1
  | _ => 0

/-- The names that have been bound, when an operation waits for their triggers to be made. -/
def Next.names? : Next → Option (List String)
  | .send _ (.binding names _) => some names
  | _ => none

namespace Stage

/-- The scores that are entered in the cache when a reply has been taken, the newest first. -/
def publishes (reply : String) : Stage → List Fetched
  | .readingScore player objective =>
    (Reply.score? reply).toList.map fun value => ⟨player, objective, value⟩
  | .syncing sync => if (sync.take reply).left = [] then (sync.take reply).fetched else []
  | _ => []

/-- How many triggers have been made when the reply is taken. -/
def triggers : Stage → Nat
  | .binding names _ => names.length
  | _ => 0

/-- How many fires have been handed to a callback. -/
def fires : Stage → Nat
  | .enabling .. => 1
  | _ => 0

/-- How many single scores have been answered. -/
def readings : Stage → Nat
  | .readingScore .. => 1
  | _ => 0

end Stage

namespace Engine

/-- The objectives that are entered in the registry after a wait. -/
def registers (e : Engine) : Stage → List String
  | .adding objective => if e.isRegistered objective then [] else [objective]
  | _ => []

/-- Which operation sends which commands before it first waits, and in which stage it then waits. -/
inductive Opens (e : Engine) (draws : Draws) : Operation → List Command → Stage → Prop where
  | ensure {plugin : Plugin} {name criterion display : String}
      (fresh : e.isRegistered (plugin.objectiveName name) = false) :
      Opens e draws (.ensure plugin name criterion display)
        [.addObjective (plugin.objectiveName name) criterion display]
        (.adding (plugin.objectiveName name))
  | display {plugin : Plugin} {name slot : String}
      (known : e.isRegistered (plugin.objectiveName name)) :
      Opens e draws (.display plugin name slot) [.setDisplay slot (plugin.objectiveName name)] .telling
  | change {plugin : Plugin} {change : ScoreChange} {player name : String} {count : Int64}
      (known : e.isRegistered (plugin.objectiveName name)) :
      Opens e draws (.change plugin change player name count)
        [.changeScore change player (plugin.objectiveName name) count] .telling
  | getScore {plugin : Plugin} {player name : String}
      (known : e.isRegistered (plugin.objectiveName name)) :
      Opens e draws (.getScore plugin player name) [.getScore player (plugin.objectiveName name)]
        (.readingScore player (plugin.objectiveName name))
  | sync : Opens e draws .sync [.listPlayers] .listingPlayers
  | bind {plugin : Plugin} {callback : Callback} {names : List String} {draws' : Draws}
      (free : Trigger.allocateMany plugin.namespaceToken 1 e.triggers.keys draws =
        some (names, draws')) :
      Opens e draws (.bind plugin callback) (triggerCommands names) (.binding names true)
  | bindAll {plugin : Plugin} {callback : Callback} {callbacks : List Callback} {names : List String}
      {draws' : Draws} (free : Trigger.allocateMany plugin.namespaceToken
        (callback :: callbacks).length e.triggers.keys draws = some (names, draws')) :
      Opens e draws (.bindAll plugin (callback :: callbacks)) (triggerCommands names)
        (.binding names false)
  | removeStale : Opens e draws .removeStale [.listObjectives] (.listingObjectives false)
  | start (purge : e.config.purgeStale) :
      Opens e draws .start [.listObjectives] (.listingObjectives true)
  | dispatch {fire : Fire} {callback : Callback}
      (bound : e.triggers.get? fire.trigger = some callback) :
      Opens e draws (.dispatch fire) [.enableTrigger fire.trigger] (.enabling fire callback)

/-- Which commands are sent after a reply, and in which stage the operation waits before and after. -/
inductive Continues (e : Engine) (reply : String) : Stage → List Command → Stage → Prop where
  | first {players : List String} {player objective : String} {left : List (String × String)}
      (listed : Reply.players? reply = some players)
      (pairs : (Sync.create players e.objectives).left = (player, objective) :: left) :
      Continues e reply .listingPlayers [.getScore player objective]
        (.syncing (Sync.create players e.objectives))
  | next {sync : Sync} {player objective : String} {left : List (String × String)}
      (pairs : (sync.take reply).left = (player, objective) :: left) :
      Continues e reply (.syncing sync) [.getScore player objective] (.syncing (sync.take reply))
  | remove {starting : Bool} {names : List String} (listed : Reply.objectives? reply = some names)
      (stale : names.filter e.isStale ≠ []) :
      Continues e reply (.listingObjectives starting)
        ((names.filter e.isStale).map .removeObjective)
        (.removing (names.filter e.isStale).length starting)

/-- What the stretch that begins an operation leads to: all that it can do. -/
inductive Begins (e : Engine) (draws : Draws) : Operation → Outcome → Prop where
  /-- It sends something and waits. -/
  | sends {operation : Operation} {commands : List Command} {stage : Stage} {notes : List Note}
      (opens : e.Opens draws operation commands stage) (syncs : operation.fullSyncs = 0)
      (unnamed : (Next.send commands stage).names? = none) :
      Begins e draws operation
        ⟨{ e with stats.commandsIssued := e.stats.commandsIssued + 1 }, notes, .send commands stage⟩
  /-- It counts a full synchronisation and asks for the players. -/
  | syncs {notes : List Note} : Begins e draws .sync
      ⟨{ e with
          stats.fullSyncs := e.stats.fullSyncs + 1
          stats.commandsIssued := e.stats.commandsIssued + 1 }, notes, .send [.listPlayers] .listingPlayers⟩
  /-- It binds callbacks to new names and has their triggers made. -/
  | binds {operation : Operation} {names : List String} {single : Bool} {notes : List Note}
      (opens : e.Opens draws operation (triggerCommands names) (.binding names single))
      (syncs : operation.fullSyncs = 0) : Begins e draws operation
        ⟨{ e.bind (names.zip operation.callbacks) with stats.commandsIssued := e.stats.commandsIssued + 1 }, notes,
          .send (triggerCommands names) (.binding names single)⟩
  /-- It asks the debouncer for a full synchronisation. -/
  | requests {notes : List Note} : Begins e draws .requestSync
      ⟨{ e with debouncer := e.debouncer.send .request }, notes, .done .nothing⟩
  /-- It is over, and has changed nothing. -/
  | idle {operation : Operation} {notes : List Note} {answer : Answer} (syncs : operation.fullSyncs = 0)
      (asks : operation.asksSync = false) : Begins e draws operation ⟨e, notes, .done answer⟩
  /-- It finds no name that is free, and goes on for ever. -/
  | endless {operation : Operation} {notes : List Note} (syncs : operation.fullSyncs = 0)
      (asks : operation.asksSync = false) : Begins e draws operation ⟨e, notes, .endless⟩

/-- Whether a stage has nothing to enter in the registry, and nothing of its own to count, when its reply is
taken. -/
structure Quiet (e : Engine) (waiting : Stage) : Prop where
  registers : e.registers waiting = []
  triggers : waiting.triggers = 0
  fires : waiting.fires = 0
  readings : waiting.readings = 0

/-- What the stretch that takes a reply leads to: all that it can do. -/
inductive Resumes (e : Engine) (reply : String) : Stage → Outcome → Prop where
  /-- It sends something more and waits again. -/
  | sends {waiting stage : Stage} {commands : List Command} {notes : List Note}
      (continues : e.Continues reply waiting commands stage) :
      Resumes e reply waiting
        ⟨{ e with stats.commandsIssued := e.stats.commandsIssued + 1 }, notes, .send commands stage⟩
  /-- It enters an objective that nobody has entered in the meantime, and asks for a full synchronisation. -/
  | enters {objective : String} {notes : List Note} (fresh : e.isRegistered objective = false) :
      Resumes e reply (.adding objective)
        ⟨{ e.register objective with debouncer := e.debouncer.send .request }, notes, .done .nothing⟩
  /-- It enters the score that has been read. -/
  | reads {player objective : String} {value : Int64} {notes : List Note} {answer : Answer}
      (score : Reply.score? reply = some value) :
      Resumes e reply (.readingScore player objective)
        ⟨{ e with
            scores := e.scores.put player objective value
            stats.singleSyncs := e.stats.singleSyncs + 1 }, notes, .done answer⟩
  /-- It has found no score in the reply. -/
  | misses {player objective : String} {notes : List Note} {answer : Answer} (score : Reply.score? reply = none) :
      Resumes e reply (.readingScore player objective)
        ⟨{ e with stats.singleSyncs := e.stats.singleSyncs + 1 }, notes, .done answer⟩
  /-- It enters at once all that a full synchronisation has read. -/
  | publishes {waiting : Stage} {sync : Sync} {notes : List Note} {answer : Answer} (quiet : e.Quiet waiting)
      (read : waiting.publishes reply = sync.fetched) :
      Resumes e reply waiting ⟨{ e with scores := sync.publish e.scores }, notes, .done answer⟩
  /-- It counts the triggers that have been made. -/
  | binds {names : List String} {single : Bool} {notes : List Note} {answer : Answer} :
      Resumes e reply (.binding names single)
        ⟨{ e with stats.triggersRegistered := e.stats.triggersRegistered + UInt64.ofNat names.length }, notes,
          .done answer⟩
  /-- It counts a fire and comes to its callback. -/
  | fires {fire : Fire} {callback : Callback} {notes : List Note} : Resumes e reply (.enabling fire callback)
      ⟨{ e with stats.triggersFired := e.stats.triggersFired + 1 }, notes, .fire callback fire⟩
  /-- It is over, and has changed nothing. -/
  | idle {waiting : Stage} {notes : List Note} {answer : Answer} (quiet : e.Quiet waiting)
      (read : waiting.publishes reply = []) : Resumes e reply waiting ⟨e, notes, .done answer⟩

variable {e : Engine} {commands : List Command} {stage : Stage}

/-! ### From the beginning to the first wait -/

/-- A request that comes after the debouncer's end is lost, as is any signal then. -/
theorem engine_requestSync (e : Engine) :
    e.requestSync.1 = { e with debouncer := e.debouncer.send .request } := by
  unfold requestSync
  split
  · rfl
  · rename_i ended
    rw [Debouncer.send, if_neg ended]

/-- What sends something first does not ask the debouncer for anything. -/
theorem Opens.asksSync {operation : Operation} {draws : Draws} (opens : e.Opens draws operation commands stage) :
    operation.asksSync = false := by
  cases opens <;> rfl

/-- Every operation begins in one of the ways that `Begins` lists. -/
theorem begins_begin (e : Engine) (operation : Operation) (draws : Draws) :
    e.Begins draws operation (e.begin operation draws).1 := by
  -- each operation sends one text at most, under a condition of its own
  cases operation with
  | ensure plugin name criterion display =>
    simp only [begin, beginEnsure]
    split
    · exact .idle rfl rfl
    · rename_i fresh
      exact .sends (.ensure (by simpa using fresh)) rfl rfl
  | display plugin name slot =>
    simp only [begin, tellOf]
    split
    · exact .sends (.display ‹_›) rfl rfl
    · exact .idle rfl rfl
  | change plugin change player name count =>
    simp only [begin, tellOf]
    split
    · exact .sends (.change ‹_›) rfl rfl
    · exact .idle rfl rfl
  | getScore plugin player name =>
    simp only [begin, beginGetScore]
    split
    · exact .sends (.getScore ‹_›) rfl rfl
    · exact .idle rfl rfl
  | sync => exact .syncs
  | bind plugin callback =>
    simp only [begin, beginBind]
    split
    · exact .binds (.bind ‹_›) rfl
    · exact .endless rfl rfl
  | bindAll plugin callbacks =>
    simp only [begin, beginBind]
    split
    · exact .idle rfl rfl
    · split
      · exact .binds (.bindAll ‹_›) rfl
      · exact .endless rfl rfl
  | removeStale => exact .sends .removeStale rfl rfl
  | start =>
    simp only [begin, beginStart]
    split
    · exact .sends (.start ‹_›) rfl rfl
    · exact .idle rfl rfl
  | dispatch fire =>
    simp only [begin, beginDispatch]
    split
    · exact .sends (.dispatch ‹_›) rfl rfl
    · exact .idle rfl rfl
  | requestSync =>
    show e.Begins draws .requestSync ⟨e.requestSync.1, e.requestSync.2, .done .nothing⟩
    rw [engine_requestSync]
    exact .requests
  | ask query => exact .idle rfl rfl

/-- What an operation begins with is one of what `Opens` lists, with the condition under which it is sent. -/
theorem opens_of_begin {operation : Operation} {draws : Draws}
    (h : (e.begin operation draws).1.next = .send commands stage) :
    e.Opens draws operation commands stage := by
  have begins := e.begins_begin operation draws
  generalize (e.begin operation draws).1 = o at begins h
  cases begins with
  | sends opens _ _ | binds opens _ =>
    cases h
    exact opens
  | syncs =>
    cases h
    exact .sync
  | requests | idle _ _ | endless _ _ => cases h

/-- What `Opens` lists is what an operation begins with. -/
theorem Opens.begin {operation : Operation} {draws : Draws} (opens : e.Opens draws operation commands stage) :
    (e.begin operation draws).1.next = .send commands stage := by
  cases opens with
  | ensure fresh => simp [begin, beginEnsure, fresh, Outcome.after, send]
  | display known => simp [begin, tellOf, known, send]
  | change known => simp [begin, tellOf, known, send]
  | getScore known => simp [begin, beginGetScore, known, send]
  | sync => rfl
  | bind free =>
    simp only [begin, beginBind, List.length_singleton, free]
    rfl
  | bindAll free =>
    simp only [begin, beginBind, free]
    rfl
  | removeStale => rfl
  | start purge =>
    simp only [begin, beginStart, purge]
    rfl
  | dispatch bound =>
    simp only [begin, beginDispatch, bound]
    rfl

/-- What operations begin with, and under which conditions. -/
theorem begin_eq_send_iff {operation : Operation} {draws : Draws} :
    (e.begin operation draws).1.next = .send commands stage ↔
      e.Opens draws operation commands stage :=
  ⟨opens_of_begin, Opens.begin⟩

/-! ### From one wait to the next -/

/-- What goes on to send something has nothing to enter and nothing of its own to count. -/
theorem Continues.quiet {reply : String} {waiting : Stage} (continues : e.Continues reply waiting commands stage) :
    e.Quiet waiting := by
  cases continues <;> exact ⟨rfl, rfl, rfl, rfl⟩

/-- An operation that goes on has not entered anything. -/
theorem Continues.publishes {reply : String} {waiting : Stage}
    (continues : e.Continues reply waiting commands stage) : waiting.publishes reply = [] := by
  cases continues with
  | first listed pairs => rfl
  | @next sync p o left pairs =>
    have hleft : ¬(sync.take reply).left = [] := by
      rw [pairs]
      exact List.cons_ne_nil (p, o) left
    exact if_neg hleft
  | remove listed stale => rfl

/-- What a full synchronisation that goes on asks for, and how it ends. -/
theorem continueSync_cases (e : Engine) (sync : Sync) :
    (∃ player objective left, sync.left = (player, objective) :: left ∧
      (e.continueSync sync).next = .send [.getScore player objective] (.syncing sync) ∧
        (e.continueSync sync).engine.scores = e.scores) ∨
    sync.left = [] ∧ (e.continueSync sync).next = .done (.scores (sync.publish e.scores)) ∧
      (e.continueSync sync).engine.scores = sync.publish e.scores := by
  unfold continueSync
  split
  · rename_i player objective left hleft
    exact .inl ⟨player, objective, left, hleft, rfl, rfl⟩
  · rename_i hleft
    exact .inr ⟨hleft, rfl, rfl⟩

/-- A synchronisation asks for the first score that is left to read. -/
theorem continueSync_eq_send_iff {sync : Sync} :
    (e.continueSync sync).next = .send commands stage ↔
      ∃ player objective left, sync.left = (player, objective) :: left ∧
        commands = [.getScore player objective] ∧ stage = .syncing sync := by
  constructor
  · intro h
    unfold continueSync at h
    split at h
    · rename_i player objective left hleft
      cases h
      exact ⟨player, objective, left, hleft, rfl, rfl⟩
    · cases h
  · rintro ⟨player, objective, left, hleft, rfl, rfl⟩
    simp [continueSync, hleft, send]

/-- A synchronisation reads the next score, or publishes when there is none left. -/
theorem resumes_continueSync {reply : String} {waiting : Stage} {sync : Sync} (quiet : e.Quiet waiting)
    (continues : ∀ player objective left, sync.left = (player, objective) :: left →
      e.Continues reply waiting [.getScore player objective] (.syncing sync))
    (read : sync.left = [] → waiting.publishes reply = sync.fetched) :
    e.Resumes reply waiting (e.continueSync sync) := by
  unfold continueSync
  split
  · exact .sends (continues _ _ _ ‹_›)
  · exact .publishes quiet (read ‹_›)

/-- Every reply is taken in one of the ways that `Resumes` lists. -/
theorem resumes_resume (e : Engine) (waiting : Stage) (reply : String) :
    e.Resumes reply waiting (e.resume waiting reply) := by
  cases waiting with
  | adding objective =>
    simp only [resume, resumeEnsure]
    split
    · rename_i known
      exact .idle ⟨if_pos known, rfl, rfl, rfl⟩ rfl
    · rename_i fresh
      rw [engine_requestSync]
      exact .enters (by simpa using fresh)
  | telling => exact .idle ⟨rfl, rfl, rfl, rfl⟩ rfl
  | readingScore player objective =>
    simp only [resume, resumeGetScore]
    split
    · exact .reads ‹_›
    · exact .misses ‹_›
  | listingPlayers =>
    simp only [resume, resumeSync]
    split
    -- a synchronisation that has just begun has read nothing, so it enters nothing
    · exact resumes_continueSync ⟨rfl, rfl, rfl, rfl⟩ (fun _ _ _ => .first ‹_›) fun _ => rfl
    · exact .idle ⟨rfl, rfl, rfl, rfl⟩ rfl
  | syncing sync =>
    exact resumes_continueSync ⟨rfl, rfl, rfl, rfl⟩ (fun _ _ _ => .next) fun done => if_pos done
  | binding names single => exact .binds
  | listingObjectives starting =>
    simp only [resume, resumeRemove]
    split
    · cases starting <;> exact .idle ⟨rfl, rfl, rfl, rfl⟩ rfl
    · split
      · cases starting <;> exact .idle ⟨rfl, rfl, rfl, rfl⟩ rfl
      · exact .sends (.remove ‹_› ‹_›)
  | removing count starting => cases starting <;> exact .idle ⟨rfl, rfl, rfl, rfl⟩ rfl
  | enabling fire callback => exact .fires

/-- What operations go on with after a reply, and under which conditions. -/
theorem resume_eq_send_iff {reply : String} {waiting : Stage} :
    (e.resume waiting reply).next = .send commands stage ↔
      e.Continues reply waiting commands stage := by
  constructor
  · intro h
    have resumes := e.resumes_resume waiting reply
    generalize e.resume waiting reply = o at resumes h
    cases resumes with
    | sends continues =>
      cases h
      exact continues
    | _ => cases h
  · intro h
    cases h with
    | first listed pairs =>
      simp only [resume, resumeSync, listed]
      exact continueSync_eq_send_iff.mpr ⟨_, _, _, pairs, rfl, rfl⟩
    | next pairs => exact continueSync_eq_send_iff.mpr ⟨_, _, _, pairs, rfl, rfl⟩
    | remove listed stale =>
      simp only [resume, resumeRemove, listed]
      rfl

/-! ### Enabling a trigger -/

/-- Making triggers on the server is never a single command that enables one. -/
theorem triggerCommands_ne (names : List String) (name : String) :
    triggerCommands names ≠ [.enableTrigger name] := by
  cases names <;> simp [triggerCommands]

/-- Only a dispatch begins with enabling a trigger, and it has found a callback for it. -/
theorem Opens.enable {operation : Operation} {draws : Draws} {name : String}
    (opens : e.Opens draws operation [.enableTrigger name] stage) :
    ∃ fire callback, operation = .dispatch fire ∧ stage = .enabling fire callback ∧
      fire.trigger = name ∧ e.triggers.get? fire.trigger = some callback := by
  -- the list of commands is an index of the relation, so it has to be a variable
  generalize hcommands : [Command.enableTrigger name] = commands at opens
  cases opens with
  | @dispatch fire callback bound =>
    simp only [List.cons.injEq, Command.enableTrigger.injEq, and_true] at hcommands
    exact ⟨fire, callback, rfl, rfl, hcommands.symm, bound⟩
  | bind _ => exact absurd hcommands.symm (triggerCommands_ne _ name)
  | bindAll _ => exact absurd hcommands.symm (triggerCommands_ne _ name)
  | _ => simp at hcommands

/-- No operation goes on to enabling a single trigger. -/
theorem Continues.enable {reply name : String} {waiting : Stage} :
    ¬e.Continues reply waiting [.enableTrigger name] stage := by
  intro continues
  generalize hcommands : [Command.enableTrigger name] = commands at continues
  cases continues with
  | @remove starting names listed stale =>
    cases hnames : names.filter e.isStale <;> simp [hnames] at hcommands
  | _ => simp at hcommands

/-! ### Adding an objective -/

/-- Only a call for an objective begins with adding it. -/
theorem Opens.adding {operation : Operation} {draws : Draws} {objective : String}
    (opens : e.Opens draws operation commands (.adding objective)) :
    ∃ plugin name criterion display, operation = .ensure plugin name criterion display ∧
      objective = plugin.objectiveName name := by
  cases opens with
  | ensure fresh => exact ⟨_, _, _, _, rfl, rfl⟩

theorem Continues.adding {reply objective : String} {waiting : Stage} :
    ¬e.Continues reply waiting commands (.adding objective) := by
  intro continues
  cases continues

/-! ### Callbacks -/

/-- No operation begins with running a callback. -/
theorem begin_ne_fire {operation : Operation} {draws : Draws} {callback : Callback} {fire : Fire} :
    (e.begin operation draws).1.next ≠ .fire callback fire := by
  intro h
  have begins := e.begins_begin operation draws
  generalize (e.begin operation draws).1 = o at begins h
  cases begins <;> cases h

/-- A callback is run when the reply to enabling its trigger has come, and at no other stage. -/
theorem resume_eq_fire_iff {reply : String} {callback : Callback} {fire : Fire} :
    (e.resume stage reply).next = .fire callback fire ↔ stage = .enabling fire callback := by
  constructor
  · intro h
    have resumes := e.resumes_resume stage reply
    generalize e.resume stage reply = o at resumes h
    cases resumes with
    | fires =>
      cases h
      rfl
    | _ => cases h
  · rintro rfl
    rfl

end Engine

end Scoreboard
