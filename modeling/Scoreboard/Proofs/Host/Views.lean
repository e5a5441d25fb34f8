import Mathlib.Algebra.Order.Group.Multiset
import Mathlib.Data.Multiset.Filter
import Scoreboard.Host.Step

/-!
# Views of a host

Three views of a host, and what the small changes of a turn do to them: the deeds in its journal
(`history`), the work among its tasks (`work`, and `agenda` without the times), and what an engine remembers
(`memory?`). Notes and answers are no deeds, attending to a debouncer is no work, and an engine's memory
leaves out what its debouncer is at, whether it has been shut down and whether somebody holds on to it.

A change that takes no time, adds deeds and work and takes no task away is an `Adds`; changes in a row add
up (`Adds.trans`). Only tasks to attend to a debouncer are ever taken away, when it is attended to.
-/

namespace Scoreboard

/-- Whether an event is more than a note or an answer. -/
def Event.isDeed : Event → Bool
  | .noted .. | .answered .. => false
  | _ => true

/-- What an event tells somebody, and whom. -/
def Event.answer? : Event → Option (Origin × Answer)
  | .answered origin answer => some (origin, answer)
  | _ => none

/-- Whether a turn is more than attending to a debouncer. -/
def Turn.isWork : Turn → Bool
  | .attend _ => false
  | _ => true

theorem Turn.exists_of_not_isWork {t : Turn} (rests : ¬t.isWork) : ∃ i, t = .attend i := by
  cases t with
  | attend i => exact ⟨i, rfl⟩
  | _ => exact absurd rfl rests

/-- An engine with its debouncer, its teardown and its holders left out. -/
def Engine.memory (e : Engine) : Engine :=
  { e with debouncer := { window := 0 }, isShutDown := false, isHeld := true }

namespace Host

/-- The deeds, the newest first. -/
def history (h : Host) : List Event := (h.journal.map Entry.event).filter Event.isDeed

/-- What has been answered and to whom, the newest first. -/
def answers (h : Host) : List (Origin × Answer) := h.journal.filterMap (·.event.answer?)

/-- The tasks that are work. -/
def work (h : Host) : Multiset Task := (h.tasks.filter (·.turn.isWork) : List Task)

/-- The turns that are left to do and are work. -/
def agenda (h : Host) : Multiset Turn := ((h.tasks.map Task.turn).filter Turn.isWork : List Turn)

/-- What an engine remembers. -/
def memory? (h : Host) (i : Nat) : Option Engine := h.engines[i]?.map Engine.memory

/-- The callback that an engine's trigger is bound to. -/
def bound? (h : Host) (i : Nat) (name : String) : Option Callback :=
  h.engines[i]?.bind fun e => e.triggers.get? name

/-- The objectives that an engine knows of. -/
def registry (h : Host) (i : Nat) : List String := (h.engines[i]?.map Engine.objectives).getD []

/-- A score in an engine's cache. -/
def cached? (h : Host) (i : Nat) (player objective : String) : Option Int64 :=
  h.engines[i]?.bind fun e => e.scores.value? player objective

/-- The cache of an engine. -/
def cache (h : Host) (i : Nat) : Scores := (h.engines[i]?.map Engine.scores).getD {}

/-- The triggers of an engine and the callbacks that they are bound to. -/
def triggers (h : Host) (i : Nat) : Table Callback := (h.engines[i]?.map Engine.triggers).getD {}

/-- The counters of an engine. -/
def stats (h : Host) (i : Nat) : Stats := (h.engines[i]?.map Engine.stats).getD {}

/-- A host that differs in tasks and journal only. -/
def Beside (h h' : Host) : Prop := ∃ tasks journal, h' = { h with tasks, journal }

/-- A host with some deeds and some work more, at the same time. No task is gone but, where an engine's debouncer
is attended to, tasks to attend to this one. -/
structure Adds (h h' : Host) (deeds : List Event) (tasks : List Task) (attended : Option Nat := none) : Prop where
  now : h'.now = h.now
  history : h'.history = deeds ++ h.history
  work : h'.work = tasks + h.work
  attending : ∀ u ∈ h.tasks, ∀ j, u.turn = .attend j → attended ≠ some j → u ∈ h'.tasks

/-- The agenda is the work without its times. -/
theorem agenda_eq_work (h : Host) : h.agenda = h.work.map Task.turn := by
  rw [agenda, work, Multiset.map_coe, List.filter_map]
  rfl

theorem mem_work {h : Host} {u : Task} : u ∈ h.work ↔ u ∈ h.tasks ∧ u.turn.isWork := by
  rw [work, Multiset.mem_coe, List.mem_filter]

/-! ### What an engine remembers -/

theorem bound?_eq_memory? (h : Host) (i : Nat) (name : String) :
    h.bound? i name = (h.memory? i).bind fun e => e.triggers.get? name := by
  rw [bound?, memory?, Option.bind_map]
  rfl

theorem registry_eq_memory? (h : Host) (i : Nat) :
    h.registry i = ((h.memory? i).map Engine.objectives).getD [] := by
  rw [registry, memory?, Option.map_map]
  rfl

theorem cached?_eq_memory? (h : Host) (i : Nat) (player objective : String) :
    h.cached? i player objective = (h.memory? i).bind fun e => e.scores.value? player objective := by
  rw [cached?, memory?, Option.bind_map]
  rfl

theorem cache_eq_memory? (h : Host) (i : Nat) : h.cache i = ((h.memory? i).map Engine.scores).getD {} := by
  rw [cache, memory?, Option.map_map]
  rfl

theorem triggers_eq_memory? (h : Host) (i : Nat) :
    h.triggers i = ((h.memory? i).map Engine.triggers).getD {} := by
  rw [triggers, memory?, Option.map_map]
  rfl

section

variable {h : Host} {i : Nat} {e : Engine}

theorem registry_eq (he : h.engines[i]? = some e) : h.registry i = e.objectives := by
  rw [registry, he]
  rfl

theorem cache_eq (he : h.engines[i]? = some e) : h.cache i = e.scores := by
  rw [cache, he]
  rfl

theorem triggers_eq (he : h.engines[i]? = some e) : h.triggers i = e.triggers := by
  rw [triggers, he]
  rfl

theorem stats_eq (he : h.engines[i]? = some e) : h.stats i = e.stats := by
  rw [stats, he]
  rfl

end

theorem bound?_eq_get? (h : Host) (i : Nat) (name : String) : h.bound? i name = (h.triggers i).get? name := by
  rw [bound?, triggers]
  cases h.engines[i]? <;> rfl

theorem stats_eq_memory? (h : Host) (i : Nat) : h.stats i = ((h.memory? i).map Engine.stats).getD {} := by
  rw [stats, memory?, Option.map_map]
  rfl

/-! ### Changes in a row -/

theorem Beside.refl (h : Host) : h.Beside h := ⟨_, _, rfl⟩

theorem Beside.trans {a b c : Host} (hab : a.Beside b) (hbc : b.Beside c) : a.Beside c := by
  obtain ⟨_, _, rfl⟩ := hab
  obtain ⟨_, _, rfl⟩ := hbc
  exact ⟨_, _, rfl⟩

theorem Adds.refl (h : Host) : h.Adds h [] [] := ⟨rfl, rfl, by simp, fun _ hu _ _ _ => hu⟩

section

variable {a b c : Host} {deeds deeds' : List Event} {tasks tasks' : List Task} {attended : Option Nat}

/-- What changes in a row add is put together, the newest deeds first. -/
theorem Adds.trans (hab : a.Adds b deeds tasks attended) (hbc : b.Adds c deeds' tasks' attended) :
    a.Adds c (deeds' ++ deeds) (tasks' ++ tasks) attended where
  now := hbc.now.trans hab.now
  history := by rw [hbc.history, hab.history, List.append_assoc]
  work := by rw [hbc.work, hab.work, ← Multiset.coe_add, add_assoc]
  attending u hu j hturn other := hbc.attending u (hab.attending u hu j hturn other) j hturn other

/-- A change that leaves the clock, the journal and the tasks alone can come first. -/
theorem Adds.of_eq (hab : a.Adds b deeds tasks attended) (a' : Host) (now : a'.now = a.now)
    (journal : a'.journal = a.journal) (same : a'.tasks = a.tasks) : a'.Adds b deeds tasks attended where
  now := hab.now.trans now.symm
  history := by rw [hab.history, Host.history, Host.history, journal]
  work := by rw [hab.work, Host.work, Host.work, same]
  attending u hu := hab.attending u (same ▸ hu)

/-- What takes no task away may take away those of a debouncer that is attended to. -/
theorem Adds.attend (hab : a.Adds b deeds tasks) (attended : Option Nat) : a.Adds b deeds tasks attended where
  now := hab.now
  history := hab.history
  work := hab.work
  attending u hu j hturn _ := hab.attending u hu j hturn (by simp)

theorem Adds.agenda (hab : a.Adds b deeds tasks attended) :
    b.agenda = (tasks.map Task.turn : List Turn) + a.agenda := by
  rw [agenda_eq_work, hab.work, Multiset.map_add, Multiset.map_coe, ← agenda_eq_work]

/-- Every task stays that is work or attends to a debouncer that is not attended to now. -/
theorem Adds.mem_tasks (hab : a.Adds b deeds tasks attended) {u : Task} (hu : u ∈ a.tasks)
    (stays : ∀ j, u.turn = .attend j → attended ≠ some j) : u ∈ b.tasks := by
  -- work is counted, and what is no work attends to a debouncer
  by_cases work : u.turn.isWork
  · have hwork : u ∈ b.work := by
      rw [hab.work]
      exact Multiset.mem_add.mpr (.inr (mem_work.mpr ⟨hu, work⟩))
    exact (mem_work.mp hwork).1
  · obtain ⟨j, hturn⟩ := Turn.exists_of_not_isWork work
    exact hab.attending u hu j hturn (stays j hturn)

end

/-! ### Entries in the journal -/

/-- To record a deed adds the deed. -/
theorem adds_record (h : Host) (event : Event) (deed : event.isDeed) :
    h.Adds (h.record event) [event] [] where
  now := rfl
  history := by simp [history, record, deed]
  work := by simp [work, record]
  attending _ hu _ _ _ := hu

/-- To record a note or an answer adds nothing that counts. -/
theorem adds_record_of_not (h : Host) (event : Event) (deed : ¬event.isDeed) :
    h.Adds (h.record event) [] [] where
  now := rfl
  history := by simp [history, record, deed]
  work := by simp [work, record]
  attending _ hu _ _ _ := hu

/-- Notes go to the journal only. -/
theorem beside_note (h : Host) (i : Nat) (notes : List Note) : h.Beside (h.note i notes) := by
  induction notes generalizing h with
  | nil => exact .refl h
  | cons note notes ih =>
    have hrecord : h.Beside (h.record (.noted i note)) := ⟨_, _, rfl⟩
    exact hrecord.trans (ih _)

theorem adds_note (h : Host) (i : Nat) (notes : List Note) : h.Adds (h.note i notes) [] [] := by
  induction notes generalizing h with
  | nil => exact .refl h
  | cons note notes ih => exact (adds_record_of_not h _ (by simp [Event.isDeed])).trans (ih _)

theorem beside_answer (h : Host) (origin : Origin) (answer : Answer) :
    h.Beside (h.answer origin answer) := by
  cases origin <;> exact ⟨_, _, rfl⟩

theorem adds_answer (h : Host) (origin : Origin) (answer : Answer) :
    h.Adds (h.answer origin answer) [] [] := by
  cases origin with
  | foreground | spawned _ => exact adds_record_of_not h _ (by simp [Event.isDeed])
  | debouncer | line => exact .refl h

/-! ### Tasks -/

/-- To schedule work adds the work, due when it is said to be. -/
theorem adds_schedule (h : Host) (due : Nat) (turn : Turn) (isWork : turn.isWork) :
    h.Adds (h.schedule due turn) [] [⟨due, turn⟩] where
  now := rfl
  history := rfl
  work := by
    simp only [work, schedule, List.filter_append]
    rw [← Multiset.coe_add, add_comm]
    simp [isWork]
  attending _ hu _ _ _ := List.mem_append_left _ hu

theorem adds_schedule_attend (h : Host) (due i : Nat) : h.Adds (h.schedule due (.attend i)) [] [] where
  now := rfl
  history := rfl
  work := by simp [work, schedule, Turn.isWork]
  attending _ hu _ _ _ := List.mem_append_left _ hu

/-- To go on with work adds it, due at once. -/
theorem adds_goOn (h : Host) (turn : Turn) (isWork : turn.isWork) :
    h.Adds (h.goOn turn) [] [⟨h.now, turn⟩] where
  now := rfl
  history := rfl
  work := by simp [work, goOn, isWork]
  attending _ hu _ _ _ := List.mem_cons_of_mem _ hu

theorem adds_goOn_attend (h : Host) (i : Nat) : h.Adds (h.goOn (.attend i)) [] [] where
  now := rfl
  history := rfl
  work := by simp [work, goOn, Turn.isWork]
  attending _ hu _ _ _ := List.mem_cons_of_mem _ hu

/-- Disarming takes away tasks to attend to one debouncer, which are no work. -/
theorem adds_disarm (h : Host) (i after : Nat) : h.Adds (h.disarm i after) [] [] (some i) where
  now := rfl
  history := rfl
  work := by
    -- a task that is work stays, whatever it is for
    have same : (h.disarm i after).tasks.filter (·.turn.isWork) = h.tasks.filter (·.turn.isWork) := by
      rw [disarm, List.filter_filter]
      apply List.filter_congr
      intro t _
      cases ht : t.turn with
      | attend _ => simp [Turn.isWork]
      | _ => simp [Turn.attends]
    rw [work, same]
    simp [work]
  attending u hu j hturn other := by
    -- and so does one that attends to another debouncer
    refine List.mem_filter.mpr ⟨hu, ?_⟩
    have hattends : u.turn.attends i = false := by
      rw [hturn]
      simpa [Turn.attends, eq_comm] using other
    rw [hattends]
    rfl

theorem beside_arm (h : Host) (i deadline : Nat) : h.Beside (h.arm i deadline) := by
  simp only [arm]
  split <;> exact ⟨_, _, rfl⟩

/-- To set the tasks for a deadline takes away those to attend to this debouncer that are left over, and adds no
work. -/
theorem adds_arm (h : Host) (i deadline : Nat) : h.Adds (h.arm i deadline) [] [] (some i) := by
  simp only [arm]
  split
  · exact (adds_disarm h i h.now).trans ((adds_schedule_attend _ deadline i).attend (some i))
  · exact adds_disarm h i h.now

/-- To alert an engine changes tasks only. -/
theorem beside_alert (h : Host) (i : Nat) : h.Beside (h.alert i) := by
  unfold alert
  split
  · exact .refl h
  · split
    · exact ⟨_, _, rfl⟩
    · exact .refl h

/-- To alert an engine adds no work, and takes no task away. -/
theorem adds_alert (h : Host) (i : Nat) : h.Adds (h.alert i) [] [] := by
  unfold alert
  split
  · exact .refl h
  · split
    · exact adds_schedule_attend h h.now i
    · exact .refl h

end Host

end Scoreboard
