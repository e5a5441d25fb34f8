import Scoreboard.Debouncer

/-!
# When a debouncer makes which move

`Debouncer.Makes` has a constructor for each move of a debouncer, with what it takes to make it and what the
debouncer is then. A signal that is sent and an action that is over change neither the window nor, but for the
signal itself, what waits.
-/

namespace Scoreboard

namespace Debouncer

/-- When a debouncer makes which move, and what it is then. -/
inductive Makes (d : Debouncer) (now : Nat) (orphaned : Bool) : Move → Debouncer → Prop where
  | start {deadline : Nat} (armed : d.phase = .armed deadline) (due : deadline ≤ now) :
      Makes d now orphaned .start { d with phase := .acting now }
  | arm {rest : List Signal} (ready : d.phase = .idle ∨ ∃ deadline, d.phase = .armed deadline ∧ now < deadline)
      (queue : d.queue = .request :: rest) :
      Makes d now orphaned (.arm (now + d.window)) { d with queue := rest, phase := .armed (now + d.window) }
  | stop {d' : Debouncer} (ready : d.phase = .idle ∨ ∃ deadline, d.phase = .armed deadline ∧ now < deadline)
      (told : .stop ∈ d.queue ∨ orphaned) (same : d' = { d with queue := [], phase := .stopped }) :
      Makes d now orphaned .stop d'

variable {d d' : Debouncer} {now : Nat} {orphaned : Bool} {move : Move}

/-- What is taken up is a request, a stop or the loss of all handles. -/
theorem makes_of_takeUp (ready : d.phase = .idle ∨ ∃ deadline, d.phase = .armed deadline ∧ now < deadline)
    (h : d.takeUp now orphaned = some (move, d')) : d.Makes now orphaned move d' := by
  unfold takeUp at h
  split at h
  · rename_i rest hqueue
    cases h
    exact .arm ready hqueue
  · rename_i rest hqueue
    cases h
    exact .stop ready (.inl (by rw [hqueue]; exact List.mem_cons_self)) rfl
  · rename_i hqueue
    split at h
    · rename_i lost
      cases h
      refine .stop ready (.inr lost) ?_
      rw [← hqueue]
    · cases h

/-- The next move is one that `Makes` describes. -/
theorem makes_of_next (h : d.next now orphaned = some (move, d')) : d.Makes now orphaned move d' := by
  unfold next at h
  split at h
  · rename_i hphase
    exact makes_of_takeUp (.inl hphase) h
  · rename_i deadline hphase
    split at h
    · rename_i due
      cases h
      exact .start hphase due
    · rename_i early
      exact makes_of_takeUp (.inr ⟨deadline, hphase, by omega⟩) h
  · cases h
  · cases h

/-- A signal that is sent waits, so the phase stays. -/
@[simp] theorem phase_send (d : Debouncer) (signal : Signal) : (d.send signal).phase = d.phase := by
  unfold send
  split <;> rfl

@[simp] theorem window_send (d : Debouncer) (signal : Signal) : (d.send signal).window = d.window := by
  unfold send
  split <;> rfl

@[simp] theorem queue_finish (d : Debouncer) : d.finish.queue = d.queue := by
  unfold finish
  split <;> rfl

@[simp] theorem window_finish (d : Debouncer) : d.finish.window = d.window := by
  unfold finish
  split <;> rfl

end Debouncer

end Scoreboard
