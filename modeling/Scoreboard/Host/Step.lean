import Scoreboard.Host.Run

/-!
# What can happen to a host

`Host.Step` allows more than a run does: of the tasks that are due any may run next, something may be
asked for at any time, and the console may change its replies, and how long they take, at will. A trace
keeps the turns that its steps took. A statement about all hosts that traces lead to (`Host.Steps`) holds
for every order of tasks, that of a run among them (`Host.steps_of_drive`).
-/

namespace Scoreboard.Host

/-- A turn that is taken, and the host in which it runs: its task is no longer there. -/
structure Taken where
  host : Host
  turn : Turn

/-- One thing that can happen to a host, and the turn that is taken, if it is one. -/
inductive Step (h : Host) : Option Taken → Host → Prop where
  /-- A task that is due runs. -/
  | turn {before after : List Task} {t : Task} (mem : h.tasks = before ++ t :: after)
      (due : t.due ≤ h.now) :
      Step h (some ⟨{ h with tasks := before ++ after }, t.turn⟩)
        ({ h with tasks := before ++ after }.perform t.turn)
  /-- Time passes, but not beyond the time at which a task is due. -/
  | pass {time : Nat} (later : h.now ≤ time) (early : ∀ t ∈ h.tasks, time ≤ t.due) :
      Step h none { h with now := time }
  /-- Something is asked for. -/
  | ask (request : Request) : Step h none (h.ask request)
  /-- The console replies otherwise from now on. -/
  | respond (respond : String → String) :
      Step h none { h with console := h.console.respondWith respond }
  /-- Replies take another time from now on. -/
  | delay (latency : Nat) : Step h none { h with latency }

/-- Any number of steps, with the turns taken, the newest first. -/
inductive Trace (h : Host) : List Taken → Host → Prop where
  | refl : Trace h [] h
  | tail {past : List Taken} {h' h'' : Host} {taken : Option Taken} (trace : Trace h past h')
      (step : Step h' taken h'') : Trace h (taken.toList ++ past) h''

/-- Whether any number of steps lead from a host to another. -/
def Steps (h h' : Host) : Prop := ∃ past, Trace h past h'

/-- Traces in a row are one. -/
theorem Trace.trans {a b c : Host} {past recent : List Taken} (hab : Trace a past b)
    (hbc : Trace b recent c) : Trace a (recent ++ past) c := by
  induction hbc with
  | refl => exact hab
  | tail _ step ih =>
    rw [List.append_assoc]
    exact .tail ih step

theorem Steps.refl (h : Host) : Steps h h := ⟨[], .refl⟩

theorem Steps.trans {a b c : Host} (hab : Steps a b) (hbc : Steps b c) : Steps a c := by
  obtain ⟨past, hab⟩ := hab
  obtain ⟨recent, hbc⟩ := hbc
  exact ⟨recent ++ past, hab.trans hbc⟩

theorem Step.steps {h h' : Host} {taken : Option Taken} (step : Step h taken h') : Steps h h' :=
  ⟨_, .tail .refl step⟩

theorem step_of_turn? {h h' : Host} (hh : h.turn? = some h') : ∃ taken, Step h taken h' := by
  simp only [turn?, Option.map_eq_some_iff, Prod.exists] at hh
  obtain ⟨t, rest, ht, rfl⟩ := hh
  obtain ⟨due, before, after, mem, rfl⟩ := Task.takeDue_eq_some ht
  exact ⟨_, .turn mem due⟩

/-- Time passes in a run when nothing is due, and up to the next task. -/
theorem step_of_pass? {h h' : Host} (idle : h.turn? = none) (hh : h.pass? = some h') :
    Step h none h' := by
  simp only [turn?, Option.map_eq_none_iff, Task.takeDue_eq_none_iff] at idle
  simp only [pass?, Task.firstDue, Option.map_eq_some_iff] at hh
  obtain ⟨due, hdue, rfl⟩ := hh
  have least := (List.min?_eq_some_iff.mp hdue).2
  refine .pass (Nat.le_max_left _ _) fun t ht => ?_
  exact Nat.max_le.mpr ⟨Nat.le_of_lt (idle t ht), least t.due (List.mem_map_of_mem ht)⟩

/-- What a run does next is a step. -/
theorem step_of_advance {h h' : Host} (hh : h.advance = some h') : ∃ taken, Step h taken h' := by
  unfold advance at hh
  split at hh
  · rename_i ht
    rw [Option.some.injEq] at hh
    subst hh
    exact step_of_turn? ht
  · rename_i ht
    split at hh
    · exact ⟨none, step_of_pass? ht hh⟩
    · simp at hh

/-- A run that comes to an end has taken steps. -/
theorem steps_of_settle {steps : Nat} {h h' : Host} (hh : settle steps h = some h') : Steps h h' := by
  induction steps generalizing h with
  | zero => simp [settle] at hh
  | succ n ih =>
    unfold settle at hh
    split at hh
    · rename_i next hn
      obtain ⟨taken, step⟩ := step_of_advance hn
      exact step.steps.trans (ih hh)
    · simp only [Option.some.injEq] at hh
      exact hh ▸ Steps.refl h

/-- Driving a request is a matter of steps. -/
theorem steps_of_drive {steps : Nat} {h h' : Host} {request : Request}
    (hh : drive steps h request = some h') : Steps h h' :=
  (Step.ask request).steps.trans (steps_of_settle hh)

end Scoreboard.Host
