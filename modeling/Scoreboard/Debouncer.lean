/-!
# The debouncer

A debouncer runs an action once after a burst of requests: each request it takes up moves the deadline
to one window later, and at the deadline the action starts. While the action runs, signals wait.

It takes one move at a time (`next`): a deadline that has come goes before signals, signals are taken
up in the order in which they were sent, and a stop, or the loss of everyone who could send one, ends
it for good.
-/

namespace Scoreboard

/-- What is sent to a debouncer. -/
inductive Signal where
  /-- Asks for the action. -/
  | request
  /-- Ends the debouncer. -/
  | stop
  deriving DecidableEq, Repr

/-- What a debouncer is doing. -/
inductive Phase where
  /-- Nothing is asked for. -/
  | idle
  /-- The action starts at the deadline. -/
  | armed (deadline : Nat)
  /-- The action runs. -/
  | acting (since : Nat)
  /-- No action will start again. -/
  | stopped
  deriving DecidableEq, Repr

/-- A debouncer: its window, the signals it has not taken up, the oldest first, and its phase. -/
structure Debouncer where
  window : Nat
  queue : List Signal := []
  phase : Phase := .idle
  deriving DecidableEq, Repr

namespace Debouncer

/-- A move of a debouncer. -/
inductive Move where
  /-- The action starts. -/
  | start
  /-- A request is taken up. -/
  | arm (deadline : Nat)
  /-- The debouncer ends. -/
  | stop
  deriving DecidableEq, Repr

/-- Whether signals are still accepted. -/
def isRunning (d : Debouncer) : Bool := d.phase ≠ .stopped

/-- Sends a signal. One that comes after the end is lost. -/
def send (d : Debouncer) (s : Signal) : Debouncer :=
  if d.isRunning then { d with queue := d.queue ++ [s] } else d

/-- Takes up the oldest signal; if there is none and nobody can send one, the debouncer ends. -/
def takeUp (d : Debouncer) (now : Nat) (orphaned : Bool) : Option (Move × Debouncer) :=
  match d.queue with
  | .request :: rest =>
    some (.arm (now + d.window), { d with queue := rest, phase := .armed (now + d.window) })
  | .stop :: _ => some (.stop, { d with queue := [], phase := .stopped })
  | [] => if orphaned then some (.stop, { d with phase := .stopped }) else none

/-- The next move, if there is one to take now. A debouncer that is armed selects between its deadline and a
signal, and the selection is unbiased: where both are there, either may be taken. Here an elapsed deadline goes
first, because whatever is due is settled before the next act, so that a signal found beside it has come later
than what it was due to start. -/
def next (d : Debouncer) (now : Nat) (orphaned : Bool) : Option (Move × Debouncer) :=
  match d.phase with
  | .idle => d.takeUp now orphaned
  | .armed deadline =>
    if deadline ≤ now then some (.start, { d with phase := .acting now })
    else d.takeUp now orphaned
  | .acting _ => none
  | .stopped => none

/-- The action is over. -/
def finish (d : Debouncer) : Debouncer :=
  match d.phase with
  | .acting _ => { d with phase := .idle }
  | _ => d

/-- Bounds how many moves are left: each one lowers it. -/
def rank (d : Debouncer) : Nat :=
  3 * d.queue.length +
    match d.phase with
    | .armed _ => 2
    | .acting _ => 1
    | _ => 0

/-- To take up a request is one signal less, which counts more than the deadline that it sets. -/
theorem rank_takeUp_lt {d d' : Debouncer} {now : Nat} {orphaned : Bool} {deadline : Nat}
    (h : d.takeUp now orphaned = some (.arm deadline, d')) : d'.rank < d.rank := by
  unfold takeUp at h
  split at h
  · rename_i rest hq
    simp only [Option.some.injEq, Prod.mk.injEq] at h
    obtain ⟨_, rfl⟩ := h
    simp only [rank, hq, List.length_cons]
    omega
  · simp at h
  · split at h <;> simp at h

/-- A move that takes up a request lowers the rank. -/
theorem rank_lt_of_arm {d d' : Debouncer} {now : Nat} {orphaned : Bool} {deadline : Nat}
    (h : d.next now orphaned = some (.arm deadline, d')) : d'.rank < d.rank := by
  unfold next at h
  split at h
  · exact rank_takeUp_lt h
  · split at h
    · simp at h
    · exact rank_takeUp_lt h
  · simp at h
  · simp at h

/-- A move that starts the action lowers the rank: the deadline is gone. -/
theorem rank_lt_of_start {d d' : Debouncer} {now : Nat} {orphaned : Bool}
    (h : d.next now orphaned = some (.start, d')) : d'.rank < d.rank := by
  have takeUp_ne : d.takeUp now orphaned ≠ some (.start, d') := by
    unfold takeUp
    split
    · simp
    · simp
    · split <;> simp
  unfold next at h
  split at h
  · exact absurd h takeUp_ne
  · rename_i hp
    split at h
    · simp only [Option.some.injEq, Prod.mk.injEq, true_and] at h
      subst h
      simp [rank, hp]
    · exact absurd h takeUp_ne
  · simp at h
  · simp at h

/-- The end of the action does not raise the rank. -/
theorem rank_finish_le (d : Debouncer) : d.finish.rank ≤ d.rank := by
  unfold finish
  split
  · rename_i hp; simp [rank, hp]
  · exact Nat.le_refl _

/-- The end of an action that runs lowers the rank. -/
theorem rank_finish_lt {d : Debouncer} {since : Nat} (h : d.phase = .acting since) :
    d.finish.rank < d.rank := by
  simp [finish, rank, h]

end Debouncer

end Scoreboard
