import Scoreboard.Proofs.Host.Driven

/-!
# Holding on to an engine

Whether somebody outside holds on to an engine shows only in whether the engine is alive. So where something under
way holds on to it, a turn leads to the same host, but for the holder, as when somebody outside does
(`perform_hold`); and a turn that is the last to hold on to it differs in one respect, that the engine's
debouncer is attended to as one that nobody can send a signal to any more (`perform_hold_or`).
-/

namespace Scoreboard

/-- An engine that somebody outside holds on to besides, or not. -/
def Engine.hold (holds : Bool) (e : Engine) : Engine := { e with isHeld := e.isHeld || holds }

/-- A stretch of an engine that somebody outside holds on to besides, or not. -/
def Outcome.hold (holds : Bool) (o : Outcome) : Outcome := { o with engine := o.engine.hold holds }

namespace Engine
variable (e : Engine) (holds : Bool)

@[simp] theorem triggers_hold : (e.hold holds).triggers = e.triggers := rfl

@[simp] theorem debouncer_hold : (e.hold holds).debouncer = e.debouncer := rfl

theorem requestSync_hold : (e.hold holds).requestSync = (e.requestSync.1.hold holds, e.requestSync.2) := by
  unfold requestSync
  show (if e.debouncer.isRunning then _ else _) = _
  split <;> rfl

/-- What is told about an objective depends on whether it is registered, not on who holds on to the engine. -/
theorem tellOf_hold (objective : String) (command : Command) (otherwise : Note) :
    (e.hold holds).tellOf objective command otherwise = (e.tellOf objective command otherwise).hold holds := by
  unfold tellOf
  show (if e.isRegistered objective then _ else _) = _
  split <;> rfl

/-- Names are chosen from the draws and the triggers alone. -/
theorem beginBind_hold (plugin : Plugin) (callbacks : List Callback) (single : Bool) (draws : Draws) :
    (e.hold holds).beginBind plugin callbacks single draws =
      ((e.beginBind plugin callbacks single draws).1.hold holds, (e.beginBind plugin callbacks single draws).2) := by
  cases callbacks with
  | nil => rfl
  | cons callback callbacks =>
    simp only [beginBind, triggers_hold]
    split <;> rfl

/-- An operation begins as it does without the holder, who stays: no operation asks whether the engine is held. -/
theorem begin_hold (operation : Operation) (draws : Draws) : (e.hold holds).begin operation draws =
    ((e.begin operation draws).1.hold holds, (e.begin operation draws).2) := by
  -- where an operation looks at the engine it looks at the registry, the triggers or the settings
  cases operation with
  | ensure plugin name criterion display =>
    simp only [begin, beginEnsure]
    show (if e.isRegistered _ then _ else _, draws) = _
    split <;> rfl
  | display plugin name slot => exact Prod.ext (e.tellOf_hold holds _ _ _) rfl
  | change plugin change player name count => exact Prod.ext (e.tellOf_hold holds _ _ _) rfl
  | getScore plugin player name =>
    simp only [begin, beginGetScore]
    show (if e.isRegistered _ then _ else _, draws) = _
    split <;> rfl
  | bind plugin callback => exact e.beginBind_hold holds plugin [callback] true draws
  | bindAll plugin callbacks => exact e.beginBind_hold holds plugin callbacks false draws
  | start =>
    simp only [begin, beginStart]
    show (if e.config.purgeStale then _ else _, draws) = _
    split <;> rfl
  | dispatch fire =>
    simp only [begin, beginDispatch, triggers_hold]
    split <;> rfl
  | requestSync =>
    simp only [begin, requestSync_hold]
    rfl
  | ask query => cases query <;> rfl
  | sync | removeStale => rfl

theorem continueSync_hold (sync : Sync) : (e.hold holds).continueSync sync = (e.continueSync sync).hold holds := by
  simp only [continueSync]
  split <;> rfl

theorem endRemove_hold (count : Nat) (starting : Bool) :
    (e.hold holds).endRemove count starting = (e.endRemove count starting).hold holds := by
  cases starting <;> rfl

/-- A call goes on after a reply as it does without the holder, who stays. -/
theorem resume_hold (stage : Stage) (reply : String) :
    (e.hold holds).resume stage reply = (e.resume stage reply).hold holds := by
  cases stage with
  | adding objective =>
    have hregister : (e.hold holds).register objective = (e.register objective).hold holds := rfl
    simp only [resume, resumeEnsure, hregister, requestSync_hold]
    show (if e.isRegistered objective then _ else _) = _
    split <;> rfl
  | readingScore player objective =>
    simp only [resume, resumeGetScore]
    split <;> rfl
  | listingPlayers =>
    simp only [resume, resumeSync, continueSync_hold]
    split <;> rfl
  | syncing sync => exact e.continueSync_hold holds _
  | listingObjectives starting =>
    have hstale : (e.hold holds).isStale = e.isStale := rfl
    simp only [resume, resumeRemove, endRemove_hold, hstale]
    split
    · rfl
    · split <;> rfl
  | removing count starting => exact e.endRemove_hold holds count starting
  | telling | binding _ _ | enabling _ _ => rfl
end Engine

namespace Host

/-- A host in which somebody outside holds on to an engine. -/
def hold (h : Host) (i : Nat) : Host := { h with engines := h.engines.mapIdx fun j e => e.hold (j = i) }

/-- A turn that is taken while somebody outside holds on to an engine. -/
def Taken.hold (i : Nat) (s : Taken) : Taken := ⟨s.host.hold i, s.turn⟩

variable (h : Host) (i : Nat)

/-! ### Small changes -/

theorem getElem?_hold (j : Nat) : (h.hold i).engines[j]? = h.engines[j]?.map (Engine.hold (j = i)) :=
  List.getElem?_mapIdx

@[simp] theorem now_hold : (h.hold i).now = h.now := rfl

theorem setEngine_hold (j : Nat) (e : Engine) :
    (h.hold i).setEngine j (e.hold (j = i)) = (h.setEngine j e).hold i := by
  simp only [setEngine, hold, List.mapIdx_set]

theorem ite_hold (c : Prop) [Decidable c] (a b : Host) :
    (if c then a else b).hold i = if c then a.hold i else b.hold i := apply_ite (hold · i) c a b

theorem note_hold (j : Nat) (notes : List Note) : (h.hold i).note j notes = (h.note j notes).hold i := by
  induction notes generalizing h with
  | nil => rfl
  | cons note notes ih => exact ih (h.record (.noted j note))

theorem arm_hold (j deadline : Nat) : (h.hold i).arm j deadline = (h.arm j deadline).hold i := by
  simp only [arm, ite_hold]
  rfl

theorem answer_hold (origin : Origin) (answer : Answer) :
    (h.hold i).answer origin answer = (h.answer origin answer).hold i := by
  cases origin <;> rfl

theorem endAction_hold (j : Nat) (e : Engine) :
    (h.hold i).endAction j (e.hold (j = i)) = (h.endAction j e).hold i := by
  have hset := setEngine_hold h i j { e with debouncer := e.debouncer.finish }
  exact congrArg (goOn · (.attend j)) hset

theorem conclude_hold (origin : Origin) (j : Nat) (e : Engine) (answer : Answer) :
    (h.hold i).conclude origin j (e.hold (j = i)) answer = (h.conclude origin j e answer).hold i := by
  cases origin with
  | debouncer => exact endAction_hold h i j e
  | foreground | spawned _ | line => rfl

theorem send_hold (origin : Origin) (j : Nat) (commands : List Command) (stage : Stage) :
    (h.hold i).send origin j commands stage = (h.send origin j commands stage).hold i := by
  simp only [send, ite_hold]
  rfl

/-- What a stretch decides is carried out as it is without the holder. -/
theorem proceed_hold (origin : Origin) (j : Nat) (o : Outcome) :
    (h.hold i).proceed origin j (o.hold (j = i)) = (h.proceed origin j o).hold i := by
  have hset := setEngine_hold h i j o.engine
  simp only [proceed, Outcome.hold, hset, note_hold]
  split
  · exact send_hold _ i origin j _ _
  · exact conclude_hold _ i origin j o.engine _
  · exact conclude_hold (schedule _ _ _) i origin j o.engine .nothing
  · rfl

/-! ### Engines that are alive -/

variable {h i} {t : Turn}

/-- Who is alive is so with one more holder of an engine that is alive anyway. -/
theorem isAlive_hold (alive : h.isAlive i) (j : Nat) : (h.hold i).isAlive j = h.isAlive j := by
  have hheld : (h.hold i).isAlive j = ((h.engines[j]?.any fun e => e.isHeld || decide (j = i)) ||
      h.tasks.any (·.turn.engine? = some j)) := by
    rw [isAlive, getElem?_hold, Option.any_map]
    rfl
  rw [hheld]
  -- another engine is alive by itself, and this one is alive anyway
  by_cases hj : j = i
  · subst hj
    rw [alive, Bool.or_eq_true]
    rw [isAlive, Bool.or_eq_true] at alive
    refine alive.imp_left fun held => ?_
    simp only [Option.any_eq_true] at held ⊢
    obtain ⟨e, he, -⟩ := held
    exact ⟨e, he, by simp⟩
  · simp only [hj, decide_false, Bool.or_false]
    rfl

/-- A task to attend to a debouncer keeps no engine alive. -/
theorem isAlive_of_alert (j : Nat) : (h.alert j).isAlive i = h.isAlive i := by
  unfold alert
  split
  · rfl
  · split
    · simp [isAlive, schedule, Turn.engine?]
    · rfl

/-- Where the engine is alive anyway every debouncer makes the move it would make without the holder, as it is no
more orphaned than before. -/
theorem attend_hold (alive : h.isAlive i) (j : Nat) : (h.hold i).attend j = (h.attend j).hold i := by
  -- both hosts find the same move, and carry it out alike
  rcases he : h.engines[j]? with _ | e
  · simp only [attend, getElem?_hold, he, Option.map_none]
  rcases hn : e.debouncer.next h.now !(h.isAlive j) with _ | ⟨move, debouncer⟩
  · simp only [attend, getElem?_hold, he, Option.map_some, Engine.debouncer_hold, now_hold, isAlive_hold alive, hn]
  simp only [attend, getElem?_hold, he, Option.map_some, Engine.debouncer_hold, now_hold, isAlive_hold alive, hn]
  have hset : (h.hold i).setEngine j { e.hold (j = i) with debouncer } = (h.setEngine j { e with debouncer }).hold i :=
    setEngine_hold h i j { e with debouncer }
  rw [hset]
  cases move with
  | arm deadline => exact congrArg (goOn · _) (arm_hold _ i j deadline)
  | stop => exact note_hold (disarm _ j h.now) i j [.debouncerEnded]
  | start =>
    simp only [ite_hold]
    congr 1
    exact endAction_hold (h.setEngine j { e with debouncer }) i j { e with debouncer }

/-- An engine that is alive has its debouncer attended to as if somebody held on to it. -/
theorem alert_hold (alive : h.isAlive i) (j : Nat) : (h.hold i).alert j = (h.alert j).hold i := by
  rcases he : h.engines[j]? with _ | e
  · simp only [alert, getElem?_hold, he, Option.map_none]
  · simp only [alert, getElem?_hold, he, Option.map_some, Engine.debouncer_hold, now_hold, isAlive_hold alive, ite_hold]
    rfl

/-- One that is not may have it attended to where it would not be otherwise. -/
theorem alert_hold_or (h : Host) (i : Nat) : (h.alert i).hold i = (h.hold i).alert i ∨
    (h.alert i).hold i = ((h.hold i).alert i).schedule h.now (.attend i) := by
  -- one that nobody holds on to any more has the end to come to, which it has not where it is held
  by_cases alive : h.isAlive i
  · exact .inl (alert_hold alive i).symm
  rcases he : h.engines[i]? with _ | e
  · simp only [alert, getElem?_hold, he, Option.map_none, true_or]
  have hattended : (h.hold i).isAttended i = h.isAttended i := rfl
  simp only [alert, getElem?_hold, he, Option.map_some, Engine.debouncer_hold, now_hold, hattended]
  by_cases attended : h.isAttended i
  · simp [attended]
  by_cases moves : (e.debouncer.next h.now !((h.hold i).isAlive i)).isSome
  · have hmoves : (e.debouncer.next h.now !(h.isAlive i)).isSome :=
      Debouncer.isSome_next_of_imp (fun alive' => absurd alive' alive) moves
    left
    simp [moves, hmoves, attended]
    rfl
  · by_cases hmoves : (e.debouncer.next h.now !(h.isAlive i)).isSome
    · right
      simp [moves, hmoves, attended]
      rfl
    · left
      simp [moves, hmoves]

/-! ### Lines -/

/-- A line is heard or not by what the engine has bound and whether it has been torn down. -/
theorem offer_hold (h : Host) (i j : Nat) (line : String) : (h.hold i).offer j line = (h.offer j line).hold i := by
  rcases he : h.engines[j]? with _ | e
  · simp only [offer, getElem?_hold, he, Option.map_none]
  rcases hl : FireLine.read? line.toList with _ | l
  · simp only [offer, getElem?_hold, he, hl, Option.map_some]
  simp only [offer, getElem?_hold, he, hl, Option.map_some, ite_hold, note_hold]
  rfl

/-- A line that the console puts out reaches the engines that are alive, which the holder does not change. -/
theorem emit_hold (alive : h.isAlive i) (line : String) : (h.hold i).emit line = (h.emit line).hold i := by
  unfold emit
  show h.console.serving.foldl _ (h.hold i) = _
  -- the induction is on the engines served, and the engine stays alive from line to line
  induction h.console.serving generalizing h with
  | nil => rfl
  | cons j engines ih =>
    rw [List.foldl_cons, List.foldl_cons, isAlive_hold alive]
    split
    · rename_i served
      rw [offer_hold]
      exact ih ((isAlive_offer served line i).trans alive)
    · exact ih alive

/-- Nor does it for any number of lines. -/
theorem emits_hold (alive : h.isAlive i) (lines : List String) :
    lines.foldl emit (h.hold i) = (lines.foldl emit h).hold i := by
  induction lines generalizing h with
  | nil => rfl
  | cons line lines ih =>
    rw [List.foldl_cons, List.foldl_cons, emit_hold alive]
    exact ih ((isAlive_emit h line i).trans alive)

/-! ### Turns -/

/-- A teardown does the same whoever holds on to the engine. -/
theorem shutDown_hold (h : Host) (i j : Nat) : (h.hold i).shutDown j = (h.shutDown j).hold i := by
  rcases he : h.engines[j]? with _ | e
  · simp only [shutDown, getElem?_hold, he, Option.map_none]
  have hset : (h.hold i).setEngine j (e.hold (j = i)).shutDown = (h.setEngine j e.shutDown).hold i :=
    setEngine_hold h i j e.shutDown
  simp only [shutDown, getElem?_hold, he, Option.map_some, ite_hold, hset]
  rfl

/-- Letting go of an engine is another thing when somebody else holds on to it. -/
theorem release_hold {j : Nat} (other : j ≠ i) : (h.hold i).release j = (h.release j).hold i := by
  rcases he : h.engines[j]? with _ | e
  · simp only [release, getElem?_hold, he, Option.map_none]
  have hset := setEngine_hold h i j { e with isHeld := false }
  simp only [release, getElem?_hold, he, Option.map_some, ← hset]
  simp [Engine.hold, other]

/-- A new engine is held on to in any case. -/
theorem create_hold (h : Host) (i : Nat) (config : Config) : (h.hold i).create config = (h.create config).hold i := by
  simp only [create, hold, List.mapIdx_append, List.length_mapIdx]
  rfl

/-- A request begins as it does without the holder, unless it is to let go of this engine. One that is for no engine
may put out lines or make moves elsewhere, which asks for this one to be alive. -/
theorem begin_hold (origin : Origin) (request : Request) (alive : request.engine? = none → h.isAlive i)
    (keeps : request ≠ .release i) : (h.hold i).begin origin request = (h.begin origin request).hold i := by
  cases request with
  | operate j operation =>
    rcases he : h.engines[j]? with _ | e
    · simp only [begin, getElem?_hold, he, Option.map_none]
    simp only [begin, getElem?_hold, he, Option.map_some, Engine.begin_hold]
    exact proceed_hold { h with draws := (e.begin operation h.draws).2 } i origin j _
  | offer j line => simp only [begin, offer_hold, answer_hold]
  | shutDown j => simp only [begin, shutDown_hold, answer_hold]
  | release j => simp only [begin, release_hold fun hj : j = i => keeps (hj ▸ rfl), answer_hold]
  | create config =>
    have hlength : (h.hold i).engines.length = h.engines.length := List.length_mapIdx
    simp only [begin, create_hold, answer_hold, hlength]
  | emit lines => simp only [begin, emits_hold (alive rfl), answer_hold]
  | respond rules => exact answer_hold { h with console := _ } i origin .nothing
  | forget => exact answer_hold { h with console := _ } i origin .nothing
  | commands start => exact answer_hold h i origin _
  | hasProcessor owner => exact answer_hold h i origin _
  | sleep duration => rfl
  | spawn label request => exact answer_hold (h.schedule _ _) i origin .nothing

/-- A turn that does not release the engine does the same whether it is held from outside or not, where it lives
anyway. -/
theorem run_hold (alive : t.engine? = none → h.isAlive i) (keeps : ∀ origin, t ≠ .begin origin (.release i)) :
    (h.hold i).run t = (h.run t).hold i := by
  cases t with
  | begin origin request =>
    exact begin_hold (h := h.record _) origin request alive fun hrelease => keeps origin (hrelease ▸ rfl)
  | resume origin j stage reply =>
    rcases he : h.engines[j]? with _ | e
    · simp only [run, getElem?_hold, he, Option.map_none]
    simp only [run, getElem?_hold, he, Option.map_some, Engine.resume_hold]
    exact proceed_hold h i origin j _
  | wake origin => exact answer_hold h i origin .nothing
  | call j callback fire => exact emits_hold (h := h.record _) (alive rfl) (callback.emits fire)
  | attend j => exact attend_hold (alive rfl) j

/-- A turn after which an engine is alive leads to the same host as when somebody held on to the engine. -/
theorem perform_hold (alive : t.engine? = none → h.isAlive i) (keeps : ∀ origin, t ≠ .begin origin (.release i))
    (after : (h.perform t).isAlive i) : (h.hold i).perform t = (h.perform t).hold i := by
  unfold perform at after ⊢
  rw [run_hold alive keeps]
  cases hengine : t.engine? with
  | none => rfl
  | some j =>
    rw [hengine] at after
    exact alert_hold ((isAlive_of_alert j).symm.trans after) j

/-- A turn that holds on to an engine may be the last one to do so. -/
theorem perform_hold_or (engine : t.engine? = some i) (keeps : ∀ origin, t ≠ .begin origin (.release i)) :
    (h.perform t).hold i = (h.hold i).perform t ∨
      (h.perform t).hold i = ((h.hold i).perform t).schedule h.now (.attend i) := by
  -- who alerts the engine does so at the time of the turn
  have hnow : (h.run t).now = h.now := by
    rw [← now_perform h t]
    unfold perform
    rw [engine]
    exact (adds_alert _ i).now.symm
  have hrun := run_hold (h := h) (i := i) (fun none => by rw [engine] at none; cases none) keeps
  unfold perform
  rw [engine]
  simp only [hrun]
  rw [← hnow]
  exact alert_hold_or (h.run t) i

end Host

end Scoreboard
