import Scoreboard.Console
import Scoreboard.Engine.Operation

/-!
# The host of engines

A host runs engines on one console. What there is to do is a list of tasks, each with the time from which
it can run; a task runs its turn (`perform`) without a break, and a turn may leave further tasks. An
operation that waits for a reply is a task that is due when the reply arrives. Which of the tasks that
are due runs first is not said here: `perform` takes any turn at any time.

A turn is what a task does between two of its suspensions. Nothing else happens within one, so a runtime
with several threads that preempts a task inside such a stretch, or runs two of them at once, is outside the
model.

What happens is written into a journal, so that every statement about a run is one about its end.
-/

namespace Scoreboard

/-- Who waits for the end of an operation or a request. -/
inductive Origin where
  /-- Whoever drives the host. -/
  | foreground
  /-- Somebody who has it run beside other things, under a label. -/
  | spawned (label : String)
  /-- The engine's debouncer. -/
  | debouncer
  /-- Nobody: a console line has caused it. -/
  | line
  deriving DecidableEq, Repr

/-- What can be asked of a host. -/
inductive Request where
  | operate (engine : Nat) (operation : Operation)
  /-- Shows a console line to an engine. -/
  | offer (engine : Nat) (line : String)
  /-- Begins the teardown of an engine. -/
  | shutDown (engine : Nat)
  | release (engine : Nat)
  | create (config : Config)
  | emit (lines : List String)
  /-- Replaces the replies of the console. -/
  | respond (rules : List Rule)
  | forget
  /-- Asks the console for its commands that start with a text. -/
  | commands (start : String)
  /-- Asks the console whether an owner has a processor. -/
  | hasProcessor (owner : String)
  | sleep (duration : Nat)
  /-- Has a request run beside other things. -/
  | spawn (label : String) (request : Request)
  deriving Inhabited

/-- The engine that a request is about. -/
def Request.engine? : Request → Option Nat
  | operate engine _ | offer engine _ | shutDown engine | release engine => some engine
  | spawn _ request => request.engine?
  | _ => none

/-- What a task does when it runs. -/
inductive Turn where
  | begin (origin : Origin) (request : Request)
  /-- A reply has arrived. -/
  | resume (origin : Origin) (engine : Nat) (stage : Stage) (reply : String)
  | wake (origin : Origin)
  | call (engine : Nat) (callback : Callback) (fire : Fire)
  /-- An engine's debouncer makes a move, if it has one to make. -/
  | attend (engine : Nat)

namespace Turn

/-- The engine that a turn holds on to while it waits. A callback and a debouncer let theirs go. -/
def engine? : Turn → Option Nat
  | begin _ request => request.engine?
  | resume _ engine _ _ => some engine
  | _ => none

/-- Who waits for what a turn belongs to. -/
def origin? : Turn → Option Origin
  | begin origin _ | resume origin _ _ _ | wake origin => some origin
  | _ => none

/-- Whether a turn attends to the debouncer of an engine. -/
def attends (i : Nat) : Turn → Bool
  | attend j => j = i
  | _ => false

@[simp] theorem attends_iff {i : Nat} {t : Turn} : t.attends i ↔ t = .attend i := by
  cases t <;> simp [attends]

end Turn

/-- A turn and the time from which it can run. -/
structure Task where
  due : Nat
  turn : Turn

/-- What can happen that a statement about a run is made of. -/
inductive Event where
  | begun (origin : Origin) (request : Request)
  /-- Commands went out, and this will be the reply. -/
  | sent (engine : Nat) (origin : Origin) (stage : Stage) (commands : List Command) (reply : String)
  /-- A console line was taken as a fire. -/
  | accepted (engine : Nat) (fire : Fire)
  | fired (engine : Nat) (callback : Callback) (fire : Fire)
  /-- An operation or a request was over. -/
  | answered (origin : Origin) (answer : Answer)
  | noted (engine : Nat) (note : Note)

/-- An event and the time at which it happened. -/
structure Entry where
  time : Nat
  event : Event

/-- Engines that share a console, with the work that is left to do, the time, and a journal of what has happened. -/
structure Host where
  latency : Nat := 0
  now : Nat := 0
  /-- The console, with the numbers of engines as processors. -/
  console : Console Nat := {}
  engines : List Engine := []
  draws : Draws := {}
  tasks : List Task := []
  /-- What has happened, the newest first. -/
  journal : List Entry := []

namespace Host

/-! ### Small changes -/

/-- Writes an event to the journal. -/
def record (h : Host) (event : Event) : Host := { h with journal := ⟨h.now, event⟩ :: h.journal }

/-- Writes what an engine notes to the journal, one note after the other. -/
def note (h : Host) (engine : Nat) (notes : List Note) : Host :=
  notes.foldl (fun h note => h.record (.noted engine note)) h

/-- Adds a turn behind all tasks. -/
def schedule (h : Host) (due : Nat) (turn : Turn) : Host := { h with tasks := h.tasks ++ [⟨due, turn⟩] }

/-- Adds a turn before all tasks: it goes on with what runs now. -/
def goOn (h : Host) (turn : Turn) : Host := { h with tasks := ⟨h.now, turn⟩ :: h.tasks }

/-- Puts an engine in place of another one. -/
def setEngine (h : Host) (i : Nat) (e : Engine) : Host := { h with engines := h.engines.set i e }

/-- Whether anybody holds on to an engine: somebody outside, or something under way. -/
def isAlive (h : Host) (i : Nat) : Bool :=
  (h.engines[i]?.any (·.isHeld)) || h.tasks.any (·.turn.engine? = some i)

/-! ### Debouncers -/

/-- Takes away an engine's tasks to attend to its debouncer that are due after a time. -/
def disarm (h : Host) (i after : Nat) : Host :=
  { h with tasks := h.tasks.filter fun t => !(t.turn.attends i && after < t.due) }

/-- Has an engine's debouncer attended to at its deadline and at no other later time. -/
def arm (h : Host) (i deadline : Nat) : Host :=
  let h := h.disarm i h.now
  if h.now < deadline then h.schedule deadline (.attend i) else h

/-- Ends the action of an engine's debouncer, which then goes on. -/
def endAction (h : Host) (i : Nat) (e : Engine) : Host :=
  (h.setEngine i { e with debouncer := e.debouncer.finish }).goOn (.attend i)

/-- Lets an engine's debouncer make a move, if it has one to make, and go on. An engine that nobody holds
on to any more does not synchronise. -/
def attend (h : Host) (i : Nat) : Host :=
  match h.engines[i]? with
  | none => h
  | some e =>
    match e.debouncer.next h.now !(h.isAlive i) with
    | none => h
    | some (move, debouncer) =>
      let e := { e with debouncer }
      let after := h.setEngine i e
      match move with
      | .arm deadline => (after.arm i deadline).goOn (.attend i)
      | .stop => (after.disarm i h.now).note i [.debouncerEnded]
      | .start =>
        -- from here to its end the synchronisation itself holds on to the engine
        if h.isAlive i then after.goOn (.begin .debouncer (.operate i .sync)) else after.endAction i e

/-- Whether an engine's debouncer is to be attended to now. -/
def isAttended (h : Host) (i : Nat) : Bool :=
  h.tasks.any fun t => t.turn.attends i && t.due ≤ h.now

/-- Has an engine's debouncer attended to if it has a move to make. -/
def alert (h : Host) (i : Nat) : Host :=
  match h.engines[i]? with
  | none => h
  | some e =>
    -- one task is enough: it goes on until there is no move left
    if (e.debouncer.next h.now !(h.isAlive i)).isSome && !h.isAttended i then
      h.schedule h.now (.attend i)
    else h

/-! ### Operations -/

/-- Tells whoever waits that something is over. -/
def answer (h : Host) (origin : Origin) (answer : Answer) : Host :=
  match origin with
  | .foreground | .spawned _ => h.record (.answered origin answer)
  | .debouncer | .line => h

/-- Ends an operation: who waits is told, and for the debouncer its action is over. -/
def conclude (h : Host) (origin : Origin) (i : Nat) (e : Engine) (answer : Answer) : Host :=
  match origin with
  | .debouncer => h.endAction i e
  | _ => h.answer origin answer

/-- Sends commands to the console; the operation goes on when the reply arrives, which is at once where
replies take no time. -/
def send (h : Host) (origin : Origin) (i : Nat) (commands : List Command) (stage : Stage) : Host :=
  let (console, reply) := h.console.run (Command.batch commands)
  -- the reply is settled now, whatever the console replies by the time it arrives
  let h := { h with console }.record (.sent i origin stage commands reply)
  let turn := Turn.resume origin i stage reply
  if h.latency = 0 then h.goOn turn else h.schedule (h.now + h.latency) turn

/-- Takes over what a stretch of an engine's operation has led to. -/
def proceed (h : Host) (origin : Origin) (i : Nat) (o : Outcome) : Host :=
  let h := (h.setEngine i o.engine).note i o.notes
  match o.next with
  | .send commands stage => h.send origin i commands stage
  | .done answer => h.conclude origin i o.engine answer
  | .fire callback fire =>
    (h.schedule h.now (.call i callback fire)).conclude origin i o.engine .nothing
  | .endless => h

/-! ### Console lines -/

/-- Shows a console line to an engine. A fire is dispatched as a task of its own. -/
def offer (h : Host) (i : Nat) (line : String) : Host :=
  match h.engines[i]?, FireLine.read? line.toList with
  | some e, some l =>
    if e.isShutDown then h
    else
      let fire := l.fire
      let h := h.note i ((l.amount.filter (·.exceedsInt32)).toList.map .clamped)
      (h.record (.accepted i fire)).schedule h.now (.begin .line (.operate i (.dispatch fire)))
  | _, _ => h

/-- Has the console put out a line, which goes to the engines that listen and that somebody holds on
to. -/
def emit (h : Host) (line : String) : Host :=
  -- who listens is settled before the first of them is served
  h.console.serving.foldl (fun h i => if h.isAlive i then h.offer i line else h) h

/-! ### Turns -/

/-- Creates an engine, which listens under the owner it is set to. -/
def create (h : Host) (config : Config) : Host :=
  { h with
    engines := h.engines ++ [{ config }]
    console := h.console.register config.owner h.engines.length }

/-- Begins the teardown of an engine: its debouncer is stopped and nobody listens under its owner any
more. A second time changes nothing. -/
def shutDown (h : Host) (i : Nat) : Host :=
  match h.engines[i]? with
  | none => h
  | some e =>
    if e.isShutDown then h
    else
      { h.setEngine i e.shutDown with console := h.console.unregister e.config.owner }.note i [.shutDown]

/-- Lets go of an engine from outside. -/
def release (h : Host) (i : Nat) : Host :=
  match h.engines[i]? with
  | none => h
  | some e => h.setEngine i { e with isHeld := false }

/-- Begins what is asked for. -/
def begin (h : Host) (origin : Origin) : Request → Host
  | .operate i operation =>
    match h.engines[i]? with
    | none => h
    | some e =>
      let (outcome, draws) := e.begin operation h.draws
      { h with draws }.proceed origin i outcome
  | .offer i line => (h.offer i line).answer origin .nothing
  | .shutDown i => (h.shutDown i).answer origin .nothing
  | .release i => (h.release i).answer origin .nothing
  | .create config => (h.create config).answer origin (.count h.engines.length)
  | .emit lines => (lines.foldl emit h).answer origin .nothing
  | .respond rules =>
    { h with console := h.console.respondWith (Rule.respond rules) }.answer origin .nothing
  | .forget => { h with console := h.console.forget }.answer origin .nothing
  | .commands start => h.answer origin (.texts (h.console.commandsStarting start))
  | .hasProcessor owner => h.answer origin (.flag (h.console.hasProcessor owner))
  | .sleep duration => h.schedule (h.now + duration) (.wake origin)
  | .spawn label request =>
    (h.schedule h.now (.begin (.spawned label) request)).answer origin .nothing

/-- Does what a turn is to do. One for an engine that there is not does nothing. -/
def run (h : Host) : Turn → Host
  | .begin origin request => (h.record (.begun origin request)).begin origin request
  | .resume origin i stage reply =>
    match h.engines[i]? with
    | none => h
    | some e => h.proceed origin i (e.resume stage reply)
  | .wake origin => h.answer origin .nothing
  | .call i callback fire => (callback.emits fire).foldl emit (h.record (.fired i callback fire))
  | .attend i => h.attend i

/-- Runs a turn, and has the debouncer of its engine attended to if that gives it a move to make. -/
def perform (h : Host) (turn : Turn) : Host :=
  match turn.engine? with
  | some i => (h.run turn).alert i
  | none => h.run turn

end Host

end Scoreboard
