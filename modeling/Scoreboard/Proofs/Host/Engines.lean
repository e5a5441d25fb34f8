import Scoreboard.Proofs.Debouncer.Makes
import Scoreboard.Proofs.Engine.Changes
import Scoreboard.Proofs.Host.Turns

/-!
# What becomes of an engine in a turn

A turn leaves an engine as it was, or it is one of a few things: a stretch of an operation of this engine, a
move of its debouncer, its teardown, its release, or its creation. `Becomes` has a constructor for each, with
what the engine is then (`becomes_perform`). What an engine remembers changes in stretches only and when it is
created (`Recalls`, `recalls_perform`).
-/

namespace Scoreboard

/-- Whether an operation is over. -/
def Next.isOver : Next → Bool
  | .done _ | .fire .. => true
  | _ => false

/-- The engine after a stretch: with the last stretch of an operation of the debouncer its action is over. -/
def Outcome.settled (o : Outcome) (origin : Origin) : Engine :=
  if origin = .debouncer ∧ o.next.isOver then { o.engine with debouncer := o.engine.debouncer.finish }
  else o.engine

namespace Engine

/-- The engine after a move of its debouncer: the action of one that nobody holds on to is over at once. -/
def moved (e : Engine) (move : Debouncer.Move) (debouncer : Debouncer) (alive : Bool) : Engine :=
  { e with debouncer := if move = .start ∧ ¬alive then debouncer.finish else debouncer }

end Engine

/-- Whether the debouncer's action is over is not among what an engine remembers. -/
theorem Outcome.memory_settled (o : Outcome) (origin : Origin) :
    (o.settled origin).memory = o.engine.memory := by
  unfold settled
  split <;> rfl

namespace Host

/-! ### The small changes of a turn -/

variable {h : Host} {i : Nat} {e : Engine}

/-- To put an engine in place leaves the others. -/
theorem getElem?_setEngine (he : h.engines[i]? = some e) (e' : Engine) (j : Nat) :
    (h.setEngine i e').engines[j]? = if j = i then some e' else h.engines[j]? := by
  have hi : i < h.engines.length := (List.getElem?_eq_some_iff.mp he).1
  unfold setEngine
  by_cases hj : j = i
  · subst hj
    simp [hi]
  · simp [hj, Ne.symm hj]

theorem engines_send (h : Host) (origin : Origin) (i : Nat) (commands : List Command) (stage : Stage) :
    (h.send origin i commands stage).engines = h.engines := by
  unfold send
  simp only
  split <;> rfl

/-- At the end of an operation of the debouncer its action is over, and no other engine changes. -/
theorem getElem?_conclude (he : h.engines[i]? = some e) (origin : Origin) (answer : Answer) (j : Nat) :
    (h.conclude origin i e answer).engines[j]? =
      if j = i then
        some (if origin = .debouncer then { e with debouncer := e.debouncer.finish } else e)
      else h.engines[j]? := by
  -- an answer changes no engine
  have hsame : ∀ answered : Host, answered.engines = h.engines →
      answered.engines[j]? = if j = i then some e else h.engines[j]? := by
    intro answered hanswered
    rw [hanswered]
    split
    · rename_i hj
      rw [hj, he]
    · rfl
  cases origin with
  | debouncer => exact getElem?_setEngine he _ j
  | foreground => exact hsame _ (beside_answer h .foreground answer).engines
  | spawned label => exact hsame _ (beside_answer h (.spawned label) answer).engines
  | line => exact hsame _ rfl

/-- After a stretch the engine is the one it leads to, settled, and no other engine changes. -/
theorem getElem?_proceed (he : h.engines[i]? = some e) (origin : Origin) (o : Outcome) (j : Nat) :
    (h.proceed origin i o).engines[j]? = if j = i then some (o.settled origin) else h.engines[j]? := by
  have hnote := (beside_note (h.setEngine i o.engine) i o.notes).engines
  have hset : ∀ j, ((h.setEngine i o.engine).note i o.notes).engines[j]? =
      if j = i then some o.engine else h.engines[j]? := by
    intro j
    rw [hnote]
    exact getElem?_setEngine he o.engine j
  have hget := (hset i).trans (if_pos rfl)
  -- only the last stretch of an operation of the debouncer ends its action
  unfold proceed Outcome.settled
  cases hn : o.next with
  | send commands stage =>
    simp only [engines_send, Next.isOver, Bool.false_eq_true, and_false, if_false]
    exact hset j
  | done answer =>
    simp only [Next.isOver, and_true]
    rw [getElem?_conclude hget, hset]
    split <;> rfl
  | fire callback fire =>
    simp only [Next.isOver, and_true]
    rw [getElem?_conclude (h := schedule _ _ _) hget, schedule, hset]
    split <;> rfl
  | endless =>
    simp only [Next.isOver, Bool.false_eq_true, and_false, if_false]
    exact hset j

/-- After a move the engine has the debouncer that it leads to, and no other engine changes. -/
theorem getElem?_attend {move : Debouncer.Move} {debouncer : Debouncer} (he : h.engines[i]? = some e)
    (hn : e.debouncer.next h.now (!h.isAlive i) = some (move, debouncer)) (j : Nat) :
    (h.attend i).engines[j]? =
      if j = i then some (e.moved move debouncer (h.isAlive i)) else h.engines[j]? := by
  let e' : Engine := { e with debouncer }
  have hset := getElem?_setEngine he e'
  -- of the three moves only a start that nobody is there for is followed by something
  cases move with
  | arm deadline =>
    simp only [attend, he, hn]
    show ((h.setEngine i e').arm i deadline).engines[j]? = _
    rw [(beside_arm _ i deadline).engines, hset]
    rfl
  | stop =>
    simp only [attend, he, hn]
    rw [(beside_note _ i [.debouncerEnded]).engines]
    exact hset j
  | start =>
    simp only [attend, he, hn]
    by_cases alive : h.isAlive i
    · simp only [alive, if_true]
      exact hset j
    · simp only [alive, Bool.false_eq_true, if_false]
      have hget := (hset i).trans (if_pos rfl)
      have hended := getElem?_setEngine hget { e' with debouncer := debouncer.finish } j
      rw [hset] at hended
      refine hended.trans ?_
      split <;> rfl

/-- A new engine comes after those that are there. -/
theorem getElem?_create (h : Host) (config : Config) (j : Nat) :
    (h.create config).engines[j]? = h.engines[j]? ∨
      h.engines[j]? = none ∧ (h.create config).engines[j]? = some { config } := by
  let created : Engine := { config }
  show (h.engines ++ [created])[j]? = h.engines[j]? ∨
    h.engines[j]? = none ∧ (h.engines ++ [created])[j]? = some created
  -- the new engine has the next number; those before it are as they were
  rcases Nat.lt_trichotomy j h.engines.length with hj | rfl | hj
  · left
    rw [List.getElem?_append_left hj]
  · right
    simp
  · left
    rw [List.getElem?_eq_none (by simp; omega), List.getElem?_eq_none (by omega)]

/-- The first teardown of an engine changes it, and no other one; a later teardown changes none. -/
theorem getElem?_shutDown (h : Host) (i j : Nat) :
    (h.shutDown i).engines[j]? = h.engines[j]? ∨ j = i ∧ ∃ e, h.engines[i]? = some e ∧
      e.isShutDown = false ∧ (h.shutDown i).engines[j]? = some e.shutDown := by
  unfold shutDown
  rcases he : h.engines[i]? with _ | e
  · exact .inl rfl
  simp only
  split
  · exact .inl rfl
  · rename_i first
    have hset := getElem?_setEngine he e.shutDown j
    rw [(beside_note _ i [.shutDown]).engines]
    by_cases hj : j = i
    · rw [if_pos hj] at hset
      exact .inr ⟨hj, e, rfl, by simpa using first, hset⟩
    · rw [if_neg hj] at hset
      exact .inl hset

/-- To let an engine go changes who holds it, and no other engine. -/
theorem getElem?_release (h : Host) (i j : Nat) :
    (h.release i).engines[j]? = h.engines[j]? ∨ j = i ∧ ∃ e, h.engines[i]? = some e ∧
      (h.release i).engines[j]? = some { e with isHeld := false } := by
  unfold release
  rcases he : h.engines[i]? with _ | e
  · exact .inl rfl
  have hset := getElem?_setEngine he { e with isHeld := false } j
  by_cases hj : j = i
  · rw [if_pos hj] at hset
    exact .inr ⟨hj, e, rfl, hset⟩
  · rw [if_neg hj] at hset
    exact .inl hset

/-! ### Turns -/

/-- What a turn makes of an engine. -/
inductive Becomes (h : Host) (t : Turn) (i : Nat) : Option Engine → Prop where
  | stretch {origin : Origin} {o : Outcome} (stretch : h.stretch? t = some (origin, i, o)) :
      Becomes h t i (some (o.settled origin))
  | moved {e : Engine} {move : Debouncer.Move} {debouncer : Debouncer} (engine : h.engines[i]? = some e)
      (turn : t = .attend i) (next : e.debouncer.next h.now (!h.isAlive i) = some (move, debouncer)) :
      Becomes h t i (some (e.moved move debouncer (h.isAlive i)))
  | shutDown {e : Engine} {origin : Origin} (engine : h.engines[i]? = some e)
      (turn : t = .begin origin (.shutDown i)) (first : e.isShutDown = false) :
      Becomes h t i (some e.shutDown)
  | released {e : Engine} {origin : Origin} (engine : h.engines[i]? = some e)
      (turn : t = .begin origin (.release i)) : Becomes h t i (some { e with isHeld := false })
  | created {origin : Origin} {config : Config} (absent : h.engines[i]? = none)
      (turn : t = .begin origin (.create config)) : Becomes h t i (some { config })
  | same (elsewhere : ∀ origin o, h.stretch? t ≠ some (origin, i, o))
      (rests : ∀ e, h.engines[i]? = some e → t = .attend i →
        e.debouncer.next h.now (!h.isAlive i) = none) : Becomes h t i h.engines[i]?

/-- To be alerted changes no engine, so those after a turn are those after what the turn does. -/
theorem engines_perform (h : Host) (t : Turn) : (h.perform t).engines = (h.run t).engines := by
  unfold perform
  split
  · exact (beside_alert _ _).engines
  · rfl

/-- A turn that is a stretch leads to the engine of the outcome, settled. -/
theorem getElem?_perform_of_stretch {t : Turn} {origin : Origin} {o : Outcome}
    (hs : h.stretch? t = some (origin, i, o)) (j : Nat) :
    (h.perform t).engines[j]? = if j = i then some (o.settled origin) else h.engines[j]? := by
  rw [engines_perform]
  obtain ⟨e, he, ⟨operation, rfl, rfl⟩ | ⟨stage, reply, rfl, rfl⟩⟩ := stretch?_eq_some_iff.mp hs
  · have hget : ({ h.record (.begun origin (.operate i operation)) with
        draws := (e.begin operation h.draws).2 } : Host).engines[i]? = some e := he
    have hproceed := getElem?_proceed hget origin (e.begin operation h.draws).1 j
    simp only [run, begin, record, he]
    exact hproceed
  · simp only [run, he]
    exact getElem?_proceed he origin _ j

/-- A turn that is no stretch and attends to another debouncer, if to any, leaves the engine where it leaves the
list as it is. -/
theorem becomes_of_eq {t : Turn} {after : Option Engine} (hs : h.stretch? t = none)
    (ht : t ≠ .attend i) (same : after = h.engines[i]?) : Becomes h t i after := by
  rw [same]
  refine .same (fun origin o hstretch => ?_) fun _ _ hturn => absurd hturn ht
  rw [hs] at hstretch
  cases hstretch

theorem becomes_of_isWork {t : Turn} {after : Option Engine} (hs : h.stretch? t = none) (work : t.isWork)
    (same : after = h.engines[i]?) : Becomes h t i after := by
  refine becomes_of_eq hs (fun hturn => ?_) same
  rw [hturn] at work
  cases work

/-- What is begun and is no stretch of an operation creates an engine, tears one down or lets one go, or
leaves all engines as they are. -/
theorem becomes_begin {origin : Origin} {request : Request}
    (hs : h.stretch? (.begin origin request) = none) (i : Nat) :
    Becomes h (.begin origin request) i (h.run (.begin origin request)).engines[i]? := by
  have hanswer := fun (h' : Host) answer => (beside_answer h' origin answer).engines
  -- three requests change an engine: a new one is created, one is shut down, one is released
  cases request with
  | operate j operation =>
    have he : h.engines[j]? = none := by simpa [stretch?] using hs
    refine becomes_of_isWork hs rfl ?_
    simp only [run, begin, record, he]
  | create config =>
    simp only [run, begin, hanswer]
    obtain hsame | ⟨absent, hcreated⟩ :=
      getElem?_create (h.record (.begun origin (.create config))) config i
    · exact becomes_of_isWork hs rfl hsame
    · rw [hcreated]
      exact .created absent rfl
  | emit lines =>
    exact becomes_of_isWork hs rfl (by rw [run, begin, hanswer, (beside_emits _ lines).engines]; rfl)
  | offer j line =>
    exact becomes_of_isWork hs rfl (by rw [run, begin, hanswer, (beside_offer _ j line).engines]; rfl)
  | shutDown j =>
    simp only [run, begin, hanswer]
    obtain hsame | ⟨rfl, e, he, first, hdown⟩ :=
      getElem?_shutDown (h.record (.begun origin (.shutDown j))) j i
    · exact becomes_of_isWork hs rfl hsame
    · rw [hdown]
      exact .shutDown he rfl first
  | release j =>
    simp only [run, begin, hanswer]
    obtain hsame | ⟨rfl, e, he, hreleased⟩ := getElem?_release (h.record (.begun origin (.release j))) j i
    · exact becomes_of_isWork hs rfl hsame
    · rw [hreleased]
      exact .released he rfl
  | sleep duration => exact becomes_of_isWork hs rfl rfl
  | _ => exact becomes_of_isWork hs rfl (by rw [run, begin, hanswer]; rfl)

/-- A turn that attends to a debouncer is a move of it, or leaves all engines as they are. -/
theorem becomes_attend (h : Host) (i j : Nat) : Becomes h (.attend j) i (h.attend j).engines[i]? := by
  have hs : h.stretch? (.attend j) = none := rfl
  -- without an engine there is no debouncer, and it may have no move to make
  rcases he : h.engines[j]? with _ | e
  · simp only [attend, he]
    refine .same (by simp [hs]) fun e he' hturn => ?_
    cases hturn
    rw [he] at he'
    cases he'
  rcases hn : e.debouncer.next h.now !(h.isAlive j) with _ | ⟨move, debouncer⟩
  · simp only [attend, he, hn]
    refine .same (by simp [hs]) fun e' he' hturn => ?_
    cases hturn
    rw [he] at he'
    cases he'
    exact hn
  rw [getElem?_attend he hn]
  split
  · rename_i hj
    subst hj
    exact .moved he rfl hn
  · rename_i hj
    exact becomes_of_eq hs (fun hturn => hj (Turn.attend.inj hturn).symm) rfl

/-- Every turn makes of an engine one of the few things that `Becomes` lists. -/
theorem becomes_perform (h : Host) (t : Turn) (i : Nat) :
    Becomes h t i (h.perform t).engines[i]? := by
  -- a stretch is told apart first, as all else depends on the kind of the turn only
  rcases hs : h.stretch? t with _ | ⟨origin, j, o⟩
  · rw [engines_perform]
    cases t with
    | begin origin request => exact becomes_begin hs i
    | resume origin j stage reply =>
      have he : h.engines[j]? = none := by simpa [stretch?] using hs
      exact becomes_of_isWork hs rfl (by simp only [run, he])
    | wake origin => exact becomes_of_isWork hs rfl (by rw [run, (beside_answer h origin .nothing).engines])
    | call j callback fire =>
      exact becomes_of_isWork hs rfl (by rw [run, (beside_emits _ (callback.emits fire)).engines]; rfl)
    | attend j => exact becomes_attend h i j
  · rw [getElem?_perform_of_stretch hs]
    split
    · rename_i hj
      subst hj
      exact .stretch hs
    -- the stretch is that of another engine
    · rename_i hj
      refine .same (fun origin' o' hstretch => ?_) fun e _ hturn => ?_
      · rw [hs] at hstretch
        cases hstretch
        exact hj rfl
      · rw [hturn] at hs
        cases hs

/-- The engine after a stretch keeps its configuration, its teardown and who holds on to it; its debouncer may
have been sent a request. -/
theorem settled_of_stretch {t : Turn} {origin : Origin} {o : Outcome} (he : h.engines[i]? = some e)
    (hs : h.stretch? t = some (origin, i, o)) :
    (o.engine.debouncer = e.debouncer ∨ o.engine.debouncer = e.debouncer.send .request) ∧
      (o.settled origin).config = e.config ∧ (o.settled origin).isShutDown = e.isShutDown ∧
        (o.settled origin).isHeld = e.isHeld := by
  -- an operation asks for a synchronisation as it begins, or when it has registered an objective
  have hengine : (o.engine.debouncer = e.debouncer ∨ o.engine.debouncer = e.debouncer.send .request) ∧
      o.engine.config = e.config ∧ o.engine.isShutDown = e.isShutDown ∧ o.engine.isHeld = e.isHeld := by
    obtain ⟨e', he', ⟨operation, -, rfl⟩ | ⟨stage, reply, -, rfl⟩⟩ := stretch?_eq_some_iff.mp hs
    · rw [he] at he'
      cases he'
      obtain ⟨stats, hengine⟩ := e.begin_engine operation h.draws
      rw [hengine]
      by_cases hop : operation.asksSync
      · exact ⟨.inr (if_pos hop), rfl, rfl, rfl⟩
      · exact ⟨.inl (if_neg hop), rfl, rfl, rfl⟩
    · rw [he] at he'
      cases he'
      obtain ⟨stats, scores, hengine⟩ := e.resume_engine stage reply
      rw [hengine]
      by_cases hregisters : e.registers stage = []
      · exact ⟨.inl (if_pos hregisters), rfl, rfl, rfl⟩
      · exact ⟨.inr (if_neg hregisters), rfl, rfl, rfl⟩
  refine ⟨hengine.1, ?_⟩
  unfold Outcome.settled
  split
  · exact hengine.2
  · exact hengine.2

/-- A turn sends signals to an engine's debouncer, says that its action is over, or has it make a move. What holds of
the debouncer and is kept by all three holds after the turn. -/
theorem debouncer_perform {P : Debouncer → Prop} {t : Turn} {e' : Engine} (he : h.engines[i]? = some e)
    (he' : (h.perform t).engines[i]? = some e') (before : P e.debouncer)
    (send : ∀ d signal, P d → P (d.send signal)) (finish : ∀ d, P d → P d.finish)
    (moved : ∀ orphaned move d, e.debouncer.next h.now orphaned = some (move, d) → P d) : P e'.debouncer := by
  have becomes := becomes_perform h t i
  generalize (h.perform t).engines[i]? = after at becomes he'
  -- a stretch may send a request and end the action, a move may end it, and a teardown sends the stop
  cases becomes with
  | @stretch origin o hs =>
    cases he'
    have hengine : P o.engine.debouncer := by
      obtain hsame | hsent := (settled_of_stretch he hs).1
      · rwa [hsame]
      · rw [hsent]
        exact send _ _ before
    rw [Outcome.settled]
    split
    · exact finish _ hengine
    · exact hengine
  | moved he'' _ hn =>
    cases he.symm.trans he''
    cases he'
    have hmoved := moved _ _ _ hn
    rw [Engine.moved]
    split
    · exact finish _ hmoved
    · exact hmoved
  | shutDown he'' _ _ =>
    cases he.symm.trans he''
    cases he'
    exact send _ _ before
  | released he'' _ =>
    cases he.symm.trans he''
    cases he'
    exact before
  | created absent _ => cases he.symm.trans absent
  | same _ _ =>
    cases he.symm.trans he'
    exact before

/-- An engine keeps its configuration and its window, and neither its teardown nor its release is undone. -/
theorem exists_perform (he : h.engines[i]? = some e) (t : Turn) :
    ∃ e', (h.perform t).engines[i]? = some e' ∧ e'.config = e.config ∧
      e'.debouncer.window = e.debouncer.window ∧ (e.isShutDown → e'.isShutDown) ∧ (e'.isHeld → e.isHeld) := by
  -- neither signals nor moves nor the end of an action touch the window
  have hwindow : ∀ e', (h.perform t).engines[i]? = some e' → e'.debouncer.window = e.debouncer.window := by
    intro e' he'
    refine debouncer_perform (P := (·.window = e.debouncer.window)) he he' rfl
      (fun d signal same => (d.window_send signal).trans same) (fun d same => d.window_finish.trans same)
      fun orphaned move d hn => ?_
    cases Debouncer.makes_of_next hn with
    | start _ _ => rfl
    | arm _ _ => rfl
    | stop _ _ same => rw [same]
  have becomes := becomes_perform h t i
  generalize (h.perform t).engines[i]? = after at becomes hwindow
  cases becomes with
  | @stretch origin o hs =>
    obtain ⟨-, hconfig, hdown, hheld⟩ := settled_of_stretch he hs
    exact ⟨_, rfl, hconfig, hwindow _ rfl, fun down => hdown.trans down, fun held => hheld.symm.trans held⟩
  | moved he' _ _ =>
    cases he.symm.trans he'
    exact ⟨_, rfl, rfl, hwindow _ rfl, id, id⟩
  | shutDown he' _ _ =>
    cases he.symm.trans he'
    exact ⟨_, rfl, rfl, hwindow _ rfl, fun _ => rfl, id⟩
  | released he' _ =>
    cases he.symm.trans he'
    exact ⟨_, rfl, rfl, hwindow _ rfl, id, fun held => Bool.noConfusion held⟩
  | created absent _ => cases he.symm.trans absent
  | same _ _ => exact ⟨e, he, rfl, hwindow _ he, id, id⟩

/-- An engine that there was not is new, if there is one after a turn. -/
theorem getElem?_perform_of_none (he : h.engines[i]? = none) (t : Turn) :
    (h.perform t).engines[i]? = none ∨ ∃ config, (h.perform t).engines[i]? = some { config } := by
  have becomes := becomes_perform h t i
  generalize (h.perform t).engines[i]? = after at becomes
  cases becomes with
  | created _ _ => exact .inr ⟨_, rfl⟩
  | same _ _ => exact .inl he
  | stretch hs =>
    obtain ⟨e, he', -⟩ := stretch?_eq_some_iff.mp hs
    rw [he] at he'
    cases he'
  | moved he' _ _ | shutDown he' _ _ | released he' _ =>
    rw [he] at he'
    cases he'

/-! ### What an engine remembers after a turn -/

theorem exists_of_memory? (known : (h.memory? i).isSome) : ∃ e, h.engines[i]? = some e := by
  rw [memory?, Option.isSome_map] at known
  exact Option.isSome_iff_exists.mp known

/-- After a stretch the engine remembers what the outcome does, and the others what they did. -/
theorem memory?_perform_of_stretch {t : Turn} {origin : Origin} {o : Outcome}
    (hs : h.stretch? t = some (origin, i, o)) (j : Nat) :
    (h.perform t).memory? j = if j = i then some o.engine.memory else h.memory? j := by
  rw [memory?, getElem?_perform_of_stretch hs]
  split
  · rw [Option.map_some, o.memory_settled]
  · rfl

/-- What an engine remembers after a turn: what a stretch of its own leads to, nothing yet if it is new,
and else what it remembered before. -/
inductive Recalls (h : Host) (t : Turn) (i : Nat) : Option Engine → Prop where
  | begun {e : Engine} {origin : Origin} {operation : Operation} (engine : h.engines[i]? = some e)
      (turn : t = .begin origin (.operate i operation)) :
      Recalls h t i (some (e.begin operation h.draws).1.engine.memory)
  | resumed {e : Engine} {origin : Origin} {stage : Stage} {reply : String}
      (engine : h.engines[i]? = some e) (turn : t = .resume origin i stage reply) :
      Recalls h t i (some (e.resume stage reply).engine.memory)
  | created (config : Config) (absent : h.memory? i = none) :
      Recalls h t i (some (Engine.memory { config }))
  | same (elsewhere : ∀ origin o, h.stretch? t ≠ some (origin, i, o)) : Recalls h t i (h.memory? i)

/-- A turn that is no stretch and keeps what the engine remembers is an instance of `Recalls.same`. -/
theorem recalls_of_memory {t : Turn} {e e' : Engine} (he : h.engines[i]? = some e)
    (hs : h.stretch? t = none) (same : e'.memory = e.memory) : Recalls h t i (some e'.memory) := by
  have hmemory : some e'.memory = h.memory? i := by rw [memory?, he, same, Option.map_some]
  rw [hmemory]
  apply Recalls.same
  intro origin o hstretch
  rw [hs] at hstretch
  cases hstretch

/-- Every turn leaves an engine with one of the few memories that `Recalls` lists: moves, teardowns and releases are
about what is no part of it. -/
theorem recalls_perform (h : Host) (t : Turn) (i : Nat) : Recalls h t i ((h.perform t).memory? i) := by
  have becomes := becomes_perform h t i
  unfold memory?
  generalize (h.perform t).engines[i]? = after at becomes
  cases becomes with
  | @stretch origin o hs =>
    rw [Option.map_some, o.memory_settled]
    obtain ⟨e, he, ⟨operation, hturn, rfl⟩ | ⟨stage, reply, hturn, rfl⟩⟩ := stretch?_eq_some_iff.mp hs
    · exact .begun he hturn
    · exact .resumed he hturn
  | moved he hturn _ => exact recalls_of_memory he (by rw [hturn]; rfl) rfl
  | shutDown he hturn _ => exact recalls_of_memory he (by rw [hturn]; rfl) rfl
  | released he hturn => exact recalls_of_memory he (by rw [hturn]; rfl) rfl
  | created absent _ => exact .created _ (by rw [memory?, absent, Option.map_none])
  | same elsewhere _ => exact .same elsewhere

/-- A teardown leaves to every engine what it remembers. -/
theorem memory?_perform_of_shutDown {t : Turn} {origin : Origin} (hturn : t = .begin origin (.shutDown i)) (j : Nat) :
    (h.perform t).memory? j = h.memory? j := by
  subst hturn
  have becomes := becomes_perform h (.begin origin (.shutDown i)) j
  rw [memory?, memory?]
  generalize (h.perform (.begin origin (.shutDown i))).engines[j]? = after at becomes
  cases becomes with
  | stretch hs => cases hs
  | moved _ hattend _ => cases hattend
  | shutDown he _ _ =>
    rw [he]
    rfl
  | released _ hrelease => cases hrelease
  | created _ hcreate => cases hcreate
  | same _ _ => rfl

end Host

end Scoreboard
