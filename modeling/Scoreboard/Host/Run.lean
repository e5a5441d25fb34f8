import Scoreboard.Host

/-!
# Runs of a host

`Host.advance` is one step of a run: of the tasks that are due the first in the list runs, and when none
is due, the clock jumps to the time at which the next one is. A request is driven (`Host.drive`) until
nobody in the foreground waits any more and nothing is due.
-/

namespace Scoreboard

namespace Task

/-- The first task of a list that is due, and the others. -/
def takeDue (now : Nat) : List Task → Option (Task × List Task)
  | [] => none
  | t :: rest =>
    if t.due ≤ now then some (t, rest) else (takeDue now rest).map fun (d, rest) => (d, t :: rest)

/-- The time at which the first of a list of tasks is due. -/
def firstDue (tasks : List Task) : Option Nat := (tasks.map Task.due).min?

/-- The task that is taken is due, and the others stay in order. -/
theorem takeDue_eq_some {now : Nat} {tasks rest : List Task} {t : Task}
    (h : takeDue now tasks = some (t, rest)) :
    t.due ≤ now ∧ ∃ before after, tasks = before ++ t :: after ∧ rest = before ++ after := by
  -- the induction is on the tasks that come before the one taken
  induction tasks generalizing rest with
  | nil => simp [takeDue] at h
  | cons u us ih =>
    unfold takeDue at h
    split at h
    · rename_i hu
      simp only [Option.some.injEq, Prod.mk.injEq] at h
      obtain ⟨rfl, rfl⟩ := h
      exact ⟨hu, [], _, rfl, rfl⟩
    · simp only [Option.map_eq_some_iff, Prod.mk.injEq, Prod.exists] at h
      obtain ⟨d, others, hd, rfl, rfl⟩ := h
      obtain ⟨hdue, before, after, rfl, rfl⟩ := ih hd
      exact ⟨hdue, u :: before, after, rfl, rfl⟩

/-- None is taken where none is due. -/
theorem takeDue_eq_none_iff {now : Nat} {tasks : List Task} :
    takeDue now tasks = none ↔ ∀ t ∈ tasks, now < t.due := by
  induction tasks with
  | nil => simp [takeDue]
  | cons u us ih =>
    unfold takeDue
    split
    · rename_i hu; simp; omega
    · rename_i hu; simp [ih]; omega

end Task

namespace Host

/-- A host with one engine. -/
def start (latency : Nat) (rules : List Rule) (draws : Draws) (config : Config) : Host :=
  create { latency, console := { respond := Rule.respond rules }, draws } config

/-- Runs the first task that is due. -/
def turn? (h : Host) : Option Host :=
  (Task.takeDue h.now h.tasks).map fun (t, rest) => { h with tasks := rest }.perform t.turn

/-- Lets time pass until a task is due. -/
def pass? (h : Host) : Option Host :=
  (Task.firstDue h.tasks).map fun due => { h with now := max h.now due }

/-- Whether somebody in the foreground waits. -/
def isBusy (h : Host) : Bool := h.tasks.any (·.turn.origin? = some .foreground)

/-- One step of a run: a turn, or the time until the next one while somebody in the foreground waits. -/
def advance (h : Host) : Option Host :=
  match h.turn? with
  | some h => some h
  | none => if h.isBusy then h.pass? else none

/-- Runs until there is no further step; gives up after a number of steps. -/
def settle : Nat → Host → Option Host
  | 0, _ => none
  | steps + 1, h =>
    match h.advance with
    | some h => settle steps h
    | none => some h

/-- Asks for something in the foreground. -/
def ask (h : Host) (request : Request) : Host := h.schedule h.now (.begin .foreground request)

/-- Asks for something in the foreground and runs until it is over and nothing is due. -/
def drive (steps : Nat) (h : Host) (request : Request) : Option Host := settle steps (h.ask request)

end Host

end Scoreboard
