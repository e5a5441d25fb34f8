import Scoreboard.Debouncer

/-!
# A debouncer on a clock

A timeline is a debouncer with an action of fixed duration, the handles that signals are sent through,
and a clock that moves only while somebody sleeps. Every operation ends with `settle`, which takes the
moves that are possible at the present instant; a sleep goes from one event to the next (`runUntil`),
so that all that is due at or before its end has happened.
-/

namespace Scoreboard

/-- What a timeline notes about its action. -/
inductive Mark where
  | start (time : Nat)
  | finish (time : Nat)
  deriving DecidableEq, Repr

/-- A debouncer whose action takes `duration`, on a clock. -/
structure Timeline where
  duration : Nat
  debouncer : Debouncer
  now : Nat := 0
  /-- Which handles are still held. -/
  handles : List Bool := [true]
  /-- The newest mark first. -/
  marks : List Mark := []
  deriving DecidableEq, Repr

namespace Timeline

/-- A timeline at time zero, with one handle. -/
def create (window duration : Nat) : Timeline := { duration, debouncer := { window } }

/-- Whether no handle is held any more. -/
def isOrphaned (t : Timeline) : Bool := !t.handles.any id

/-- Notes the end of the action. -/
def finish (t : Timeline) : Timeline :=
  { t with debouncer := t.debouncer.finish, marks := .finish t.now :: t.marks }

-- `h` is used where the recursion is shown to end, which the linter does not see.
set_option linter.unusedVariables false in
/-- Takes all moves that are possible now. -/
def settle (t : Timeline) : Timeline :=
  match h : t.debouncer.next t.now t.isOrphaned with
  | none => t
  | some (.stop, d) => { t with debouncer := d }
  | some (.arm _, d) => settle { t with debouncer := d }
  | some (.start, d) =>
    let started := { t with debouncer := d, marks := .start t.now :: t.marks }
    if t.duration = 0 then settle started.finish else started
termination_by t.debouncer.rank
decreasing_by
  · exact Debouncer.rank_lt_of_arm h
  · exact Nat.lt_of_le_of_lt (Debouncer.rank_finish_le d) (Debouncer.rank_lt_of_start h)

/-- To take all moves does not raise the rank, so that each event by itself lowers it. -/
theorem rank_settle_le (t : Timeline) : t.settle.debouncer.rank ≤ t.debouncer.rank := by
  fun_induction settle t with
  | case1 t h => exact Nat.le_refl _
  | case2 t d h =>
    revert h
    unfold Debouncer.next Debouncer.takeUp
    grind [Debouncer.rank]
  | case3 t deadline d h ih => exact Nat.le_trans ih (Nat.le_of_lt (Debouncer.rank_lt_of_arm h))
  | case4 t d h started hd ih =>
    exact Nat.le_trans ih (Nat.le_trans (Debouncer.rank_finish_le d)
      (Nat.le_of_lt (Debouncer.rank_lt_of_start h)))
  | case5 t d h started hd => exact Nat.le_of_lt (Debouncer.rank_lt_of_start h)

/-- When something happens by itself next: the deadline, or the end of the action. -/
def nextEvent (t : Timeline) : Option Nat :=
  match t.debouncer.phase with
  | .armed deadline => some deadline
  | .acting since => some (since + t.duration)
  | _ => none

/-- What happens by itself at a time. -/
def occur (t : Timeline) (time : Nat) : Timeline :=
  match t.debouncer.phase with
  | .acting _ => settle (finish { t with now := time })
  | _ => settle { t with now := time }

/-- What happens by itself lowers the rank. -/
theorem rank_occur_lt {t : Timeline} {time : Nat} (h : t.nextEvent = some time) :
    (t.occur time).debouncer.rank < t.debouncer.rank := by
  unfold nextEvent at h
  -- a deadline that comes starts the action, and an action that runs ends
  split at h
  · rename_i deadline hp
    simp only [Option.some.injEq] at h
    subst h
    simp only [occur, hp]
    unfold settle
    have hn : t.debouncer.next deadline t.isOrphaned =
        some (.start, { t.debouncer with phase := .acting deadline }) := by
      simp [Debouncer.next, hp]
    have hlt := Debouncer.rank_lt_of_start hn
    split
    · rename_i h; simp [isOrphaned] at h hn; simp [hn] at h
    · rename_i h; simp [isOrphaned] at h hn; simp [hn] at h
    · rename_i h; simp [isOrphaned] at h hn; simp [hn] at h
    · rename_i d h
      have hd : d = { t.debouncer with phase := .acting deadline } := by
        simp [isOrphaned] at h hn; simp [hn] at h; exact h.symm
      subst hd
      split
      · exact Nat.lt_of_le_of_lt (rank_settle_le _)
          (Nat.lt_of_le_of_lt (Debouncer.rank_finish_le _) hlt)
      · exact hlt
  · rename_i since hp
    simp only [occur, hp]
    exact Nat.lt_of_le_of_lt (rank_settle_le _) (Debouncer.rank_finish_lt hp)
  · simp at h

-- `h` is used where the recursion is shown to end, which the linter does not see.
set_option linter.unusedVariables false in
/-- Lets time pass up to a limit, from event to event. -/
def runUntil (t : Timeline) (limit : Nat) : Timeline :=
  match h : t.nextEvent with
  | some time => if time ≤ limit then runUntil (t.occur time) limit else { t with now := limit }
  | none => { t with now := limit }
termination_by t.debouncer.rank
decreasing_by exact rank_occur_lt h

/-! ### Operations -/

/-- Sends signals one after the other, then settles. -/
def send (t : Timeline) (signals : List Signal) : Timeline :=
  settle { t with debouncer := signals.foldl Debouncer.send t.debouncer }

/-- Sleeps for a while. -/
def sleep (t : Timeline) (duration : Nat) : Timeline := t.runUntil (t.now + duration)

/-- Makes a new handle; its index is the number of handles made before. -/
def clone (t : Timeline) : Timeline := { t with handles := t.handles ++ [true] }

/-- Gives up a handle. -/
def drop (t : Timeline) (handle : Nat) : Timeline :=
  settle { t with handles := t.handles.set handle false }

/-- Whether signals are still accepted. -/
def isRunning (t : Timeline) : Bool := t.debouncer.isRunning

end Timeline

end Scoreboard
