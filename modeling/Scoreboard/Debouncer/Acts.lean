import Scoreboard.Debouncer.Timeline

/-!
# What can be done to a debouncer

Signals are sent through a handle, and a handle is copied or given up, as long as it is held; in between
time passes. When which signal arrives (`arrivals`) follows from what is done alone, whatever the debouncer
makes of it.
-/

namespace Scoreboard

/-- When a signal arrives, and which one: `none` is the loss of the last handle. -/
abbrev Arrival := Nat × Option Signal

namespace Mark

/-- The time of a start. -/
def start? : Mark → Option Nat
  | start time => some time
  | finish _ => none

/-- The times of the starts, the oldest first, where the newest mark comes first. -/
def starts (marks : List Mark) : List Nat := (marks.filterMap start?).reverse

@[simp] theorem starts_start (time : Nat) (marks : List Mark) :
    starts (.start time :: marks) = starts marks ++ [time] := by
  have h : start? (.start time) = some time := rfl
  rw [starts, List.filterMap_cons_some h, List.reverse_cons, starts]

@[simp] theorem starts_finish (time : Nat) (marks : List Mark) :
    starts (.finish time :: marks) = starts marks := by
  have h : start? (.finish time) = none := rfl
  rw [starts, List.filterMap_cons_none h, starts]

/-- The time of an end. -/
def finish? : Mark → Option Nat
  | start _ => none
  | finish time => some time

/-- The times of the ends, the oldest first, where the newest mark comes first. -/
def finishes (marks : List Mark) : List Nat := (marks.filterMap finish?).reverse

@[simp] theorem finishes_start (time : Nat) (marks : List Mark) :
    finishes (.start time :: marks) = finishes marks := by
  have h : finish? (.start time) = none := rfl
  rw [finishes, List.filterMap_cons_none h, finishes]

@[simp] theorem finishes_finish (time : Nat) (marks : List Mark) :
    finishes (.finish time :: marks) = finishes marks ++ [time] := by
  have h : finish? (.finish time) = some time := rfl
  rw [finishes, List.filterMap_cons_some h, List.reverse_cons, finishes]

end Mark

namespace Timeline

/-- What can be done to a timeline. -/
inductive Act where
  /-- Sends signals one right after the other. -/
  | send (handle : Nat) (signals : List Signal)
  | sleep (duration : Nat)
  | clone (handle : Nat)
  | drop (handle : Nat)
  deriving DecidableEq, Repr

/-- Whether a handle is held. -/
def isHeld (handles : List Bool) (handle : Nat) : Bool := handles[handle]? = some true

/-- Does something; nothing can be done through a handle that is not held. -/
def act (t : Timeline) : Act → Timeline
  | .send handle signals => if isHeld t.handles handle then t.send signals else t
  | .sleep duration => t.sleep duration
  | .clone handle => if isHeld t.handles handle then t.clone else t
  | .drop handle => if isHeld t.handles handle then t.drop handle else t

/-- Does one thing after the other. -/
def play (t : Timeline) (acts : List Act) : Timeline := acts.foldl act t

/-- The signals that arrive from a time on, the oldest first, given which handles are held. -/
def arrivals (now : Nat) (handles : List Bool) : List Act → List Arrival
  | [] => []
  | .send handle signals :: acts =>
    if isHeld handles handle then signals.map (now, some ·) ++ arrivals now handles acts
    else arrivals now handles acts
  | .sleep duration :: acts => arrivals (now + duration) handles acts
  | .clone handle :: acts =>
    arrivals now (if isHeld handles handle then handles ++ [true] else handles) acts
  | .drop handle :: acts =>
    if isHeld handles handle then
      let left := handles.set handle false
      if left.any id then arrivals now left acts else (now, none) :: arrivals now left acts
    else arrivals now handles acts

/-- When the action has started, the oldest first. -/
def starts (t : Timeline) : List Nat := Mark.starts t.marks

/-- When the action has ended, the oldest first. -/
def finishes (t : Timeline) : List Nat := Mark.finishes t.marks

/-- What a handle answers that is asked whether signals are still accepted; one that is not held cannot be
asked. -/
def answer? (t : Timeline) (handle : Nat) : Option Bool :=
  if isHeld t.handles handle then some t.isRunning else none

end Timeline

end Scoreboard
