import Scoreboard.Proofs.Command
import Scoreboard.Proofs.Engine.Stretch
import Scoreboard.Proofs.Host.Traces

/-!
# Fires are dispatched exactly once

A fire goes through an engine in three hops: it is heard on a console line and waits for its lookup, the
lookup enables the trigger again if it finds a callback, and the reply to that hands the fire to the
callback, which runs on its own. Main statement (`dispatchedOnce_of_trace`): at every hop, in every trace,
what has come in has gone on exactly once or waits (`DispatchedOnce`), so nothing is lost or doubled,
whatever else happens in between; where nothing is on its way, the runs of callbacks are the lookups that
found one.

The hops are kinds of turns that only turns leave, so the counting is that of `Trace.conservation`. What
is proved here is which turn leaves which: a line leaves the dispatches of the fires heard
(`filterMap_leaves_waitingFor?`), a lookup leaves the wait for its reply
(`filterMap_leaves_enablingOf?`), and the end of that leaves the call (`filterMap_leaves_callOf?`).
-/

namespace Scoreboard

/-- The lookup of a fire's trigger: for whom, and the callback found. -/
structure Lookup where
  origin : Origin
  fire : Fire
  callback : Option Callback

namespace Lookup

/-- The fire that is looked up, if a line has told of it. -/
def ofLine? (l : Lookup) : Option Fire := if l.origin = .line then some l.fire else none

/-- The fire and the callback that is found for it. -/
def found? (l : Lookup) : Option (Fire × Callback) := l.callback.map (l.fire, ·)

end Lookup

namespace Turn

/-- The fire heard by an engine that waits for its lookup. -/
def waitingFor? (i : Nat) : Turn → Option Fire
  | .begin .line (.operate j (.dispatch fire)) => if j = i then some fire else none
  | _ => none

/-- The fire whose trigger an engine enables again, and the callback that is to run. -/
def enablingOf? (i : Nat) : Turn → Option (Fire × Callback)
  | .resume _ j (.enabling fire callback) _ => if j = i then some (fire, callback) else none
  | _ => none

/-- The fire that an engine has handed to a callback. -/
def callOf? (i : Nat) : Turn → Option (Fire × Callback)
  | .call j callback fire => if j = i then some (fire, callback) else none
  | _ => none

/-- Whether a turn is on a fire's way through an engine. -/
def isHop (i : Nat) (t : Turn) : Bool :=
  (t.waitingFor? i).isSome || (t.enablingOf? i).isSome || (t.callOf? i).isSome

/-- Which turn takes the reply to enabling the trigger of a fire. -/
theorem enablingOf?_eq_some_iff {i : Nat} {t : Turn} {fire : Fire} {callback : Callback} :
    t.enablingOf? i = some (fire, callback) ↔
      ∃ origin reply, t = .resume origin i (.enabling fire callback) reply := by
  unfold enablingOf?
  split
  · rename_i origin j f c reply
    constructor
    · intro h
      split at h
      · cases h
        subst j
        exact ⟨origin, reply, rfl⟩
      · cases h
    · rintro ⟨_, _, h⟩
      cases h
      simp
  · rename_i hne
    constructor
    · intro h
      cases h
    · rintro ⟨origin, reply, rfl⟩
      exact absurd rfl (hne origin i fire callback reply)

/-- Which turn runs the callback of a fire. -/
theorem callOf?_eq_some_iff {i : Nat} {t : Turn} {fire : Fire} {callback : Callback} :
    t.callOf? i = some (fire, callback) ↔ t = .call i callback fire := by
  unfold callOf?
  split
  · grind
  · grind

theorem left_waitingFor? (i : Nat) : Host.Left (waitingFor? i) := ⟨fun _ => rfl, fun _ => rfl⟩

theorem left_enablingOf? (i : Nat) : Host.Left (enablingOf? i) := ⟨fun _ => rfl, fun _ => rfl⟩

theorem left_callOf? (i : Nat) : Host.Left (callOf? i) := ⟨fun _ => rfl, fun _ => rfl⟩

end Turn

namespace Event

/-- The line that an engine has sent to enable a trigger and nothing else. -/
def enabled? (i : Nat) : Event → Option String
  | .sent j _ _ [.enableTrigger name] _ =>
    if j = i then some (Command.batch [.enableTrigger name]) else none
  | _ => none

/-- The fire that a callback of an engine ran for, and the callback. -/
def ranFor? (i : Nat) : Event → Option (Fire × Callback)
  | .fired j callback fire => if j = i then some (fire, callback) else none
  | _ => none

/-- The fire that an engine has taken a line for. -/
def heardBy? (i : Nat) : Event → Option Fire
  | .accepted j fire => if j = i then some fire else none
  | _ => none

/-- What enables the trigger of a fire is one command that is sent alone. -/
theorem sent_of_enabled? {i : Nat} {event : Event} {line : String}
    (h : event.enabled? i = some line) : ∃ origin stage name reply,
      event = .sent i origin stage [.enableTrigger name] reply := by
  unfold enabled? at h
  split at h
  · rename_i j origin stage name reply
    split at h
    · rename_i hj
      exact ⟨origin, stage, name, reply, by rw [hj]⟩
    · cases h
  · cases h

end Event

namespace Host

namespace Taken

/-- The lookup that a turn was. -/
def lookup? (i : Nat) (s : Taken) : Option Lookup :=
  match s.turn with
  | .begin origin (.operate j (.dispatch fire)) =>
    if j = i then
      some ⟨origin, fire, s.host.bound? i fire.trigger⟩
    else none
  | _ => none

/-- The fires that an engine heard in a turn, the newest first. -/
def heardBy (i : Nat) (s : Taken) : List Fire :=
  (s.host.heard s.turn).reverse.filterMap fun f => if f.1 = i then some f.2 else none

end Taken

/-- The lookups of an engine's fires, the newest first. -/
def lookups (i : Nat) (past : List Taken) : List Lookup := past.filterMap (Taken.lookup? i)

/-- The fires that callbacks of an engine have run for, with the names of the callbacks, the newest first. -/
def runs (h : Host) (i : Nat) : List (Fire × String) :=
  (h.history.filterMap (Event.ranFor? i)).map fun run => (run.1, run.2.id)

/-- Every fire that an engine hears, and every one dispatched otherwise, goes through each hop once. -/
structure DispatchedOnce (i : Nat) (past : List Taken) (h : Host) : Prop where
  /-- The journal tells of the fires heard and of no others. -/
  heard : h.history.filterMap (Event.heardBy? i) = past.flatMap (Taken.heardBy i)
  /-- A fire heard on a console line is looked up once, or waits for that. -/
  looked : (past.flatMap (Taken.heardBy i) : Multiset Fire) =
    (lookups i past).filterMap Lookup.ofLine? + h.agenda.filterMap (Turn.waitingFor? i)
  /-- A lookup that finds a callback enables the trigger again with one command; one that finds none
  sends nothing. -/
  enabled : h.history.filterMap (Event.enabled? i) = (lookups i past).filterMap fun l =>
    l.callback.map fun _ => "scoreboard players enable @a " ++ l.fire.trigger
  /-- Each of these commands gets one reply, or waits for it. -/
  replied : (((lookups i past).filterMap Lookup.found? : List _) : Multiset (Fire × Callback)) =
    past.filterMap (Taken.turn · |>.enablingOf? i) + h.agenda.filterMap (Turn.enablingOf? i)
  /-- After the reply, and not before, the callback found runs once for the fire, or is about to. -/
  called : ((past.filterMap (Taken.turn · |>.enablingOf? i) : List _) : Multiset (Fire × Callback)) =
    h.history.filterMap (Event.ranFor? i) + h.agenda.filterMap (Turn.callOf? i)
  /-- With no fire on its way, the fires heard have been looked up and the callbacks found have run. -/
  quiet : (∀ t ∈ h.tasks, ¬t.turn.isHop i) →
    (past.flatMap (Taken.heardBy i) : Multiset Fire) = (lookups i past).filterMap Lookup.ofLine? ∧
      ((h.history.filterMap (Event.ranFor? i) : List _) : Multiset (Fire × Callback)) =
        (lookups i past).filterMap Lookup.found?

/-! ### Which turn leaves which -/

/-- A turn that begins a dispatch for a line looks its fire up. -/
theorem waitingFor?_turn (i : Nat) (s : Taken) :
    s.turn.waitingFor? i = (s.lookup? i).bind Lookup.ofLine? := by
  obtain ⟨h, t⟩ := s
  unfold Taken.lookup?
  split
  · rename_i origin j fire ht
    cases ht
    by_cases hj : j = i
    · cases origin <;> simp [Turn.waitingFor?, Lookup.ofLine?, hj]
    · cases origin <;> simp [Turn.waitingFor?, hj]
  · rename_i hne
    unfold Turn.waitingFor?
    split
    · rename_i ht
      exact (hne _ _ _ ht).elim
    · rfl

/-- A turn leaves a dispatch for each fire it has heard, and no other one. -/
theorem filterMap_leaves_waitingFor? (i : Nat) (s : Taken) :
    s.leaves.filterMap (Turn.waitingFor? i) = s.heardBy i := by
  have hstretch : ∀ r : Option (Origin × Nat × Outcome),
      (r.elim [] fun s' => s.host.handsOn s'.1 s'.2.1 s'.2.2).filterMap (Turn.waitingFor? i) = [] := by
    intro r
    cases r with
    | none => rfl
    | some s' =>
      simp only [Option.elim_some, handsOn]
      split <;> rfl
  -- of the three kinds of work that a turn leaves, only the fires heard wait for a lookup
  have hfollow := filterMap_follow (Turn.waitingFor? i) (fun _ => rfl) (fun _ _ => rfl)
    (fun _ => rfl) s.host s.turn
  rw [Taken.leaves, leaves, List.filterMap_append, List.filterMap_append, hstretch, hfollow,
    List.append_nil, List.append_nil, ← List.map_reverse, List.filterMap_map]
  rfl

/-- A stretch waits for the reply to enabling a trigger if it was a lookup that has found a callback. -/
theorem sends_enabling_iff {h : Host} {t : Turn} {origin : Origin} {i : Nat} {o : Outcome}
    {commands : List Command} {fire : Fire} {callback : Callback}
    (hs : h.stretch? t = some (origin, i, o)) :
    o.next = .send commands (.enabling fire callback) ↔
      commands = [.enableTrigger fire.trigger] ∧ t = .begin origin (.operate i (.dispatch fire)) ∧
        h.bound? i fire.trigger = some callback := by
  -- to enable a trigger is how a dispatch begins, and nothing goes on with it
  obtain ⟨e, he, ⟨operation, rfl, rfl⟩ | ⟨stage, reply, rfl, rfl⟩⟩ := stretch?_eq_some_iff.mp hs
  · rw [Engine.begin_eq_send_iff, bound?, he, Option.bind_some]
    constructor
    · intro opens
      cases opens with
      | dispatch bound => exact ⟨rfl, rfl, bound⟩
    · rintro ⟨rfl, ht, bound⟩
      cases ht
      exact .dispatch bound
  · rw [Engine.resume_eq_send_iff]
    constructor
    · intro continues
      cases continues
    · rintro ⟨-, ht, -⟩
      cases ht

/-- A single command that enables a trigger is that of a lookup. -/
theorem enabling_of_sends {h : Host} {t : Turn} {origin : Origin} {i : Nat} {o : Outcome}
    {name : String} {stage : Stage} (hs : h.stretch? t = some (origin, i, o))
    (hn : o.next = .send [.enableTrigger name] stage) :
    ∃ fire callback, stage = .enabling fire callback := by
  obtain ⟨e, he, ⟨operation, rfl, rfl⟩ | ⟨waiting, reply, rfl, rfl⟩⟩ := stretch?_eq_some_iff.mp hs
  · obtain ⟨fire, callback, -, hstage, -⟩ := (Engine.begin_eq_send_iff.mp hn).enable
    exact ⟨fire, callback, hstage⟩
  · exact absurd (Engine.resume_eq_send_iff.mp hn) Engine.Continues.enable

/-- A lookup finds the callback that the trigger of the fire is bound to. -/
theorem found?_eq_some_iff {i : Nat} {s : Taken} {fire : Fire} {callback : Callback} :
    (s.lookup? i).bind Lookup.found? = some (fire, callback) ↔
      ∃ origin, s.turn = .begin origin (.operate i (.dispatch fire)) ∧
        s.host.bound? i fire.trigger = some callback := by
  obtain ⟨h, t⟩ := s
  -- a lookup is for this engine if the dispatch is
  constructor
  · intro hl
    obtain ⟨l, hl, hfound⟩ := Option.bind_eq_some_iff.mp hl
    unfold Taken.lookup? at hl
    split at hl
    · rename_i origin j f ht
      split at hl
      · rename_i hj
        cases hl
        simp only [Lookup.found?, Option.map_eq_some_iff, Prod.mk.injEq] at hfound
        obtain ⟨c, hc, rfl, rfl⟩ := hfound
        rw [hj] at ht
        exact ⟨origin, ht, hc⟩
      · cases hl
    · cases hl
  · rintro ⟨origin, rfl, hc⟩
    simp [Taken.lookup?, Lookup.found?, hc]

/-- A lookup that finds a callback leaves the wait for enabling the trigger. -/
theorem filterMap_leaves_enablingOf? (i : Nat) (s : Taken) :
    s.leaves.filterMap (Turn.enablingOf? i) = ((s.lookup? i).bind Lookup.found?).toList := by
  apply filterMap_leaves_of_stretch (Turn.enablingOf? i) (fun _ => rfl) (fun _ _ => rfl)
  · rintro origin j o t ⟨fire, callback⟩ hs ht hk
    obtain ⟨_, _, rfl⟩ := Turn.enablingOf?_eq_some_iff.mp hk
    obtain ⟨rfl, rfl, commands, hn, _⟩ := resume_mem_handsOn.mp ht
    obtain ⟨_, ht, hc⟩ := (sends_enabling_iff hs).mp hn
    exact found?_eq_some_iff.mpr ⟨_, ht, hc⟩
  · rintro ⟨fire, callback⟩ hfound
    obtain ⟨origin, ht, hc⟩ := found?_eq_some_iff.mp hfound
    obtain ⟨e, he, hc⟩ := Option.bind_eq_some_iff.mp hc
    have hs : s.stretch? = some (origin, i, (e.begin (.dispatch fire) s.host.draws).1) :=
      stretch?_eq_some_iff.mpr ⟨e, he, .inl ⟨_, ht, rfl⟩⟩
    have hn : (e.begin (.dispatch fire) s.host.draws).1.next = _ :=
      Engine.begin_eq_send_iff.mpr (.dispatch hc)
    exact ⟨origin, i, _, hs, by simp [handsOn, hn, Turn.enablingOf?]⟩

/-- The reply to enabling the trigger leaves the run of the callback. -/
theorem filterMap_leaves_callOf? (i : Nat) (s : Taken)
    (known : ∀ origin stage reply, s.turn = .resume origin i stage reply →
      (s.host.memory? i).isSome) :
    s.leaves.filterMap (Turn.callOf? i) = (s.turn.enablingOf? i).toList := by
  apply filterMap_leaves_of_stretch (Turn.callOf? i) (fun _ => rfl) (fun _ _ => rfl)
  -- only taking the reply to an enabled trigger calls a callback
  · rintro origin j o t ⟨fire, callback⟩ hs ht hk
    cases Turn.callOf?_eq_some_iff.mp hk
    obtain ⟨rfl, hn⟩ := call_mem_handsOn.mp ht
    obtain ⟨e, he, ⟨operation, -, rfl⟩ | ⟨stage, reply, hturn, rfl⟩⟩ := stretch?_eq_some_iff.mp hs
    · exact absurd hn Engine.begin_ne_fire
    · cases Engine.resume_eq_fire_iff.mp hn
      exact Turn.enablingOf?_eq_some_iff.mpr ⟨origin, reply, hturn⟩
  -- the other way round, the reply is that of an engine, which goes on to the callback
  · rintro ⟨fire, callback⟩ hfound
    obtain ⟨origin, reply, ht⟩ := Turn.enablingOf?_eq_some_iff.mp hfound
    obtain ⟨e, he⟩ := exists_of_memory? (known origin _ reply ht)
    have hs : s.stretch? = some (origin, i, e.resume (.enabling fire callback) reply) :=
      stretch?_eq_some_iff.mpr ⟨e, he, .inr ⟨_, _, ht, rfl⟩⟩
    have hn : (e.resume (.enabling fire callback) reply).next = _ :=
      Engine.resume_eq_fire_iff.mpr rfl
    exact ⟨origin, i, _, hs, by simp [handsOn, hn, Turn.callOf?]⟩

/-! ### Which turn does what -/

/-- A lookup that finds a callback enables the trigger, and no other turn does only that. -/
theorem filterMap_deeds_enabled? (i : Nat) (s : Taken) :
    s.deeds.filterMap (Event.enabled? i) =
      (((s.lookup? i).bind Lookup.found?).map fun f =>
        "scoreboard players enable @a " ++ f.1.trigger).toList := by
  have hmark : (mark s.turn).filterMap (Event.enabled? i) = [] := by
    unfold mark
    split <;> rfl
  rw [filterMap_deeds (Event.enabled? i) (fun _ _ => rfl), hmark, List.append_nil]
  -- whether the turn is a lookup that finds a callback decides what it sends
  rcases hfound : (s.lookup? i).bind Lookup.found? with _ | ⟨fire, callback⟩
  · -- commands that enable a trigger would be those of a lookup
    rcases hs : s.stretch? with _ | ⟨origin, j, o⟩
    · rfl
    · rw [Option.elim_some, Option.map_none, Option.toList_none, List.filterMap_eq_nil_iff]
      intro event hevent
      rcases hk : event.enabled? i with _ | line
      · rfl
      obtain ⟨_, stage, name, reply, rfl⟩ := Event.sent_of_enabled? hk
      obtain ⟨rfl, rfl, hn, -⟩ := sent_mem_sends.mp hevent
      obtain ⟨fire, callback, rfl⟩ := enabling_of_sends hs hn
      obtain ⟨-, ht, hc⟩ := (sends_enabling_iff hs).mp hn
      rw [found?_eq_some_iff.mpr ⟨_, ht, hc⟩] at hfound
      cases hfound
  · obtain ⟨origin, ht, hc⟩ := found?_eq_some_iff.mp hfound
    obtain ⟨e, he, hc⟩ := Option.bind_eq_some_iff.mp hc
    have hs : s.stretch? = some (origin, i, (e.begin (.dispatch fire) s.host.draws).1) :=
      stretch?_eq_some_iff.mpr ⟨e, he, .inl ⟨_, ht, rfl⟩⟩
    have hn : (e.begin (.dispatch fire) s.host.draws).1.next = _ :=
      Engine.begin_eq_send_iff.mpr (.dispatch hc)
    simp [hs, sends, hn, Event.enabled?, Command.text_enableTrigger]

/-- A lookup that finds a callback enables the trigger of its fire. -/
theorem enables_eq (i : Nat) (s : Taken) :
    (((s.lookup? i).bind Lookup.found?).map fun f => "scoreboard players enable @a " ++ f.1.trigger) =
      (s.lookup? i).bind fun l => l.callback.map fun _ => "scoreboard players enable @a " ++ l.fire.trigger := by
  cases s.lookup? i with
  | none => rfl
  | some l => cases hl : l.callback <;> simp [Lookup.found?, hl]

/-- A callback is run by the turn that is its run. -/
theorem filterMap_deeds_ranFor? (i : Nat) (s : Taken) :
    s.deeds.filterMap (Event.ranFor? i) = (s.turn.callOf? i).toList := by
  have hsends := filterMap_sends (Event.ranFor? i) (fun _ _ _ _ _ => rfl) s
  rw [filterMap_deeds (Event.ranFor? i) (fun _ _ => rfl), hsends, List.nil_append]
  unfold mark
  split
  · rename_i origin request ht
    rw [ht]
    rfl
  · rename_i j callback fire ht
    rw [ht]
    by_cases hj : j = i <;> simp [Event.ranFor?, Turn.callOf?, hj]
  · rename_i _ hcall
    rcases hk : s.turn.callOf? i with _ | ⟨fire, callback⟩
    · rfl
    · exact absurd (Turn.callOf?_eq_some_iff.mp hk) (hcall i callback fire)

/-- The deeds of hearing a fire are the fires heard. -/
theorem filterMap_deeds_heardBy? (i : Nat) (s : Taken) :
    s.deeds.filterMap (Event.heardBy? i) = s.heardBy i := by
  have hsends := filterMap_sends (Event.heardBy? i) (fun _ _ _ _ _ => rfl) s
  have hmark : (mark s.turn).filterMap (Event.heardBy? i) = [] := by
    unfold mark
    split <;> rfl
  have hdeeds : s.deeds = ((s.host.heard s.turn).map Event.hearing).reverse ++
      (s.stretch?.elim [] fun r => s.host.sends r.1 r.2.1 r.2.2) ++ mark s.turn := rfl
  rw [hdeeds, List.filterMap_append, List.filterMap_append, hsends, hmark, List.append_nil,
    List.append_nil, ← List.map_reverse, List.filterMap_map]
  rfl

/-! ### The whole way -/

/-- A kind of turn that is not among the tasks is not on the agenda. -/
theorem filterMap_agenda_eq_zero {β : Type} {kind : Turn → Option β} {h : Host}
    (none : ∀ t ∈ h.tasks, kind t.turn = none) : h.agenda.filterMap kind = 0 := by
  have hnil : ((h.tasks.map Task.turn).filter Turn.isWork).filterMap kind = [] := by
    rw [List.filterMap_eq_nil_iff]
    intro t ht
    obtain ⟨task, htask, rfl⟩ := List.mem_map.mp (List.mem_of_mem_filter ht)
    exact none task htask
  rw [agenda, Multiset.filterMap_coe, hnil]
  rfl

section

variable {latency : Nat} {rules : List Rule} {draws : Draws} {config : Config} {h : Host}
  {past : List Taken}

/-- The journal has the fires that turns have heard. -/
theorem filterMap_history_heardBy? (trace : Trace (start latency rules draws config) past h) (i : Nat) :
    h.history.filterMap (Event.heardBy? i) = past.flatMap (Taken.heardBy i) := by
  rw [trace.history_of_start, List.filterMap_flatMap]
  congr 1
  funext s
  exact filterMap_deeds_heardBy? i s

/-- The journal has the commands for the fires that have been looked up and found. -/
theorem filterMap_history_enabled? (trace : Trace (start latency rules draws config) past h) (i : Nat) :
    h.history.filterMap (Event.enabled? i) = (lookups i past).filterMap fun l =>
      l.callback.map fun _ => "scoreboard players enable @a " ++ l.fire.trigger := by
  rw [trace.history_of_start, filterMap_flatMap_toList fun s _ => filterMap_deeds_enabled? i s, lookups,
    List.filterMap_filterMap]
  congr 1
  funext s
  exact enables_eq i s

/-- The first hop: a fire heard waits for its lookup. -/
theorem heardBy_eq (trace : Trace (start latency rules draws config) past h) (i : Nat) :
    (past.flatMap (Taken.heardBy i) : Multiset Fire) =
      (lookups i past).filterMap Lookup.ofLine? + h.agenda.filterMap (Turn.waitingFor? i) := by
  have hc := trace.conservation_of_start (Turn.left_waitingFor? i)
  rw [List.filterMap_flatMap] at hc
  simp only [filterMap_leaves_waitingFor?] at hc
  rw [← hc, lookups, List.filterMap_filterMap]
  congr 4
  funext s
  exact waitingFor?_turn i s

/-- The second hop: a lookup that has found a callback waits for its reply. -/
theorem found?_eq (trace : Trace (start latency rules draws config) past h) (i : Nat) :
    (((lookups i past).filterMap Lookup.found? : List _) : Multiset (Fire × Callback)) =
      past.filterMap (Taken.turn · |>.enablingOf? i) + h.agenda.filterMap (Turn.enablingOf? i) := by
  have hfound : (lookups i past).filterMap Lookup.found? =
      past.filterMap fun s => (s.lookup? i).bind Lookup.found? := List.filterMap_filterMap
  have hc := trace.conservation_of_start (Turn.left_enablingOf? i)
  rw [filterMap_flatMap_toList fun s _ => filterMap_leaves_enablingOf? i s] at hc
  rw [hfound, ← hc]

/-- The last hop: a reply that has arrived is followed by the call. -/
theorem enablingOf?_eq (trace : Trace (start latency rules draws config) past h) (i : Nat) :
    ((past.filterMap (Taken.turn · |>.enablingOf? i) : List _) : Multiset (Fire × Callback)) =
      h.history.filterMap (Event.ranFor? i) + h.agenda.filterMap (Turn.callOf? i) := by
  have hc := trace.conservation_of_start (Turn.left_callOf? i)
  -- the reply finds its engine, which existed when the command was sent
  have hknown : ∀ s ∈ past, s.leaves.filterMap (Turn.callOf? i) = (s.turn.enablingOf? i).toList := by
    intro s hs
    apply filterMap_leaves_callOf?
    intro origin stage reply ht
    exact (trace.asked_of_mem hs ht).1
  rw [filterMap_flatMap_toList hknown] at hc
  rw [← hc, trace.history_of_start, filterMap_flatMap_toList fun s _ => filterMap_deeds_ranFor? i s]

/-- In every trace, every fire goes through each hop exactly once. -/
theorem dispatchedOnce_of_trace (trace : Trace (start latency rules draws config) past h) (i : Nat) :
    DispatchedOnce i past h := by
  have looked := heardBy_eq trace i
  have replied := found?_eq trace i
  have called := enablingOf?_eq trace i
  refine ⟨filterMap_history_heardBy? trace i, looked, filterMap_history_enabled? trace i, replied, called,
    fun quiet => ?_⟩
  -- none of the three kinds of hop is among the tasks
  have hidle : ∀ t ∈ h.tasks, t.turn.waitingFor? i = none ∧ t.turn.enablingOf? i = none ∧
      t.turn.callOf? i = none := by
    intro t ht
    have hno := quiet t ht
    simp only [Turn.isHop, Bool.or_eq_true, Option.isSome_iff_ne_none, not_or, not_not] at hno
    exact ⟨hno.1.1, hno.1.2, hno.2⟩
  rw [filterMap_agenda_eq_zero fun t ht => (hidle t ht).1, add_zero] at looked
  rw [filterMap_agenda_eq_zero fun t ht => (hidle t ht).2.1, add_zero] at replied
  rw [filterMap_agenda_eq_zero fun t ht => (hidle t ht).2.2, add_zero] at called
  exact ⟨looked, by rw [replied, called]⟩

end

/-- A run in which a trigger is bound and then used. Its callback has the console put out a line of its own, in which
the same player uses the trigger once more, and runs for that fire as well. -/
theorem dispatchedOnce_of_one_fire : ∃ past h, Trace (start 0 [] {} {}) past h ∧ DispatchedOnce 0 past h ∧
    h.runs 0 = [(⟨"Alice", "tri_tQaBe_AAAAAA", 2⟩, "greet"), (⟨"Alice", "tri_tQaBe_AAAAAA", 3⟩, "greet")] := by
  let again (fire : Fire) := "[" ++ fire.player ++ ": Triggered [tri_tQaBe_AAAAAA] (set value to 2)]"
  let greet : Callback := { id := "greet", emits fire := if fire.value = 3 then [again fire] else [] }
  let bind := Request.operate 0 (.bind ⟨"demo", "demo"⟩ greet)
  let use := Request.emit ["[Alice: Triggered [tri_tQaBe_AAAAAA] (set value to 3)]"]
  have run : (((start 0 [] {} {}).drive 50 bind).bind (drive 50 · use)).map (·.runs 0) =
      some [(⟨"Alice", "tri_tQaBe_AAAAAA", 2⟩, "greet"), (⟨"Alice", "tri_tQaBe_AAAAAA", 3⟩, "greet")] := by
    decide +kernel
  obtain ⟨h, hdriven, hran⟩ := Option.map_eq_some_iff.mp run
  obtain ⟨bound, hbound, hused⟩ := Option.bind_eq_some_iff.mp hdriven
  obtain ⟨past, trace⟩ := (steps_of_drive hbound).trans (steps_of_drive hused)
  exact ⟨past, h, trace, dispatchedOnce_of_trace trace 0, hran⟩

end Host

end Scoreboard
