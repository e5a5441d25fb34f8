import Scoreboard.Proofs.Debouncer.Acts

/-!
# The law of the debouncer

Main statement (`debounced_of_play`): for every window that is not zero and every duration of the action,
whatever is done, the action has started exactly when it was due (`dues`) for the signals that have arrived,
each handled at once or at the end of the action that ran; its starts and ends alternate; and a burst of
requests less than a window apart has it start once, a window after the last of them.
-/

namespace Scoreboard.Timeline

open Debouncer

variable {w d : Nat}

/-- Starts and ends alternate, each end comes as long after its start as the action takes, and the newest
action may still run. -/
def Alternate (w d : Nat) (t : Timeline) : Prop :=
  ∃ last, (Runs w d t.marks last ∧ last ≤ t.now) ∨
    ∃ start before, t.marks = .start start :: before ∧ Runs w d before last ∧ last + w ≤ start ∧
      start ≤ t.now ∧ t.now < start + d

/-- What the law of the debouncer says of a timeline and the signals that have arrived. -/
structure Debounced (w d : Nat) (t : Timeline) (arrived : List Arrival) : Prop where
  /-- The action has started when it was due, and at no other time. -/
  starts : t.starts = (dues w (handled d t.starts arrived)).filter (· ≤ t.now)
  /-- No action starts less than a window after the end of another one. -/
  apart : t.starts.Pairwise fun s s' => s + d + w ≤ s'
  alternate : Alternate w d t
  /-- A burst of requests less than a window apart has the action start once, a window after the last of
  them is handled, if nothing else is handled before that. -/
  burst : ∀ before first rest after, arrived = before ++ (first :: rest) ++ after →
    (∀ x ∈ before ++ first :: rest, x.2 = some .request) →
    List.IsChain (fun x y => y.1 < x.1 + w) (first :: rest) →
    let due := handledAt d t.starts ((first :: rest).getLast (List.cons_ne_nil _ _)).1 + w
    (∀ x ∈ after.head?, due ≤ handledAt d t.starts x.1) → due ≤ t.now →
    t.starts.filter (fun s => handledAt d t.starts first.1 < s ∧ s ≤ due) = [due]

/-- Starts and ends of the action alternate. -/
theorem Tracks.alternate {t : Timeline} {arrived : List Arrival} (tracks : Tracks w d t arrived) :
    Alternate w d t := by
  cases tracks with
  | @running done waiting running settled =>
    have stand := running.stand
    generalize t.debouncer.phase = phase at stand
    cases stand with
    | @idle last runs rested started now => exact ⟨last, .inl ⟨runs, rested⟩⟩
    | @armed last deadline runs rested later ahead started now => exact ⟨last, .inl ⟨runs, rested⟩⟩
    | @acting last start before marks runs later begun ahead started meantime =>
      exact ⟨last, .inr ⟨start, before, marks, runs, later, begun, ahead⟩⟩
  | ended ended =>
    obtain ⟨last, runs, rested⟩ := ended.runs
    exact ⟨last, .inl ⟨runs, rested⟩⟩

/-- Between two starts the action ends, and a window passes. -/
theorem Alternate.pairwise {t : Timeline} (alternate : Alternate w d t) :
    t.starts.Pairwise fun s s' => s + d + w ≤ s' := by
  obtain ⟨last, ⟨runs, _⟩ | ⟨start, before, marks, runs, later, _⟩⟩ := alternate
  · exact runs.pairwise
  · rw [starts, marks, Mark.starts_start, List.pairwise_append]
    refine ⟨runs.pairwise, List.pairwise_singleton _ start, fun s hs s' hs' => ?_⟩
    have hle := runs.starts_le s hs
    rw [List.mem_singleton] at hs'
    omega

/-- Of what is due for the signals handled, what is due by now has started. -/
theorem Running.filter_dues {t : Timeline} {done waiting : List Arrival}
    (running : Running w d t done waiting) :
    (dues w (handled d t.starts done)).filter (· ≤ t.now) = t.starts := by
  have stand := running.stand
  by_cases hacting : ∃ start, t.debouncer.phase = .acting start
  · obtain ⟨start, hphase⟩ := hacting
    rw [hphase] at stand
    cases stand with
    | @acting last _ before marks runs later begun ahead started meantime =>
      have hbefore := runs.filter_starts (show last ≤ t.now by omega)
      rw [started, starts, marks, Mark.starts_start, List.filter_append, hbefore]
      simp [begun]
  · exact (stand.ready fun start hstart => hacting ⟨start, hstart⟩).started

/-- The action has started exactly when it was due. -/
theorem Tracks.starts_eq {t : Timeline} {arrived : List Arrival} (hw : 0 < w)
    (tracks : Tracks w d t arrived) :
    t.starts = (dues w (handled d t.starts arrived)).filter (· ≤ t.now) := by
  cases tracks with
  | @running done waiting running settled =>
    -- what waits is handled at the end of the action, which is still to come
    have hlater : ∀ x ∈ handled d t.starts waiting, t.now ≤ x.1 := by
      intro x hx
      obtain ⟨y, hy, rfl⟩ := List.mem_map.mp hx
      obtain rfl | ⟨start, hphase⟩ := settled
      · cases hy
      · have stand := running.stand
        rw [hphase] at stand
        cases stand with
        | @acting last _ before marks runs later begun ahead started meantime =>
          have hpairwise := Alternate.pairwise ⟨last, .inr ⟨start, before, marks, runs, later, begun, ahead⟩⟩
          have hstart : start ∈ t.starts := by
            rw [starts, marks, Mark.starts_start]
            exact List.mem_append_right _ List.mem_cons_self
          have harrived := running.arrived y hy
          have hhandled := handledAt_of_running hpairwise hstart (meantime y hy) (by omega)
          show t.now ≤ handledAt d t.starts y.1
          omega
    rw [handled_append, filter_dues_append hw hlater, running.filter_dues]
  | ended ended =>
    obtain ⟨last, runs, rested⟩ := ended.runs
    have hstarted := ended.started []
    rw [List.append_nil] at hstarted
    rw [hstarted]
    exact (runs.filter_starts rested).symm

/-- Whatever keeps track obeys the law. -/
theorem Tracks.debounced {t : Timeline} {arrived : List Arrival} (hw : 0 < w)
    (tracks : Tracks w d t arrived) (sorted : arrived.Pairwise fun x y => x.1 ≤ y.1) :
    Debounced w d t arrived := by
  have hstarts := tracks.starts_eq hw
  have pairwise := tracks.alternate.pairwise
  -- each start was due
  have started : ∀ s ∈ t.starts, s ∈ dues w (handled d t.starts arrived) := by
    intro s hs
    rw [hstarts] at hs
    exact (List.mem_filter.mp hs).1
  refine ⟨hstarts, pairwise, tracks.alternate, ?_⟩
  intro before first rest after harrived requests chain due hafter hnow
  have hmem : ∀ x ∈ first :: rest, x ∈ arrived := by
    intro x hx
    rw [harrived]
    exact List.mem_append_left after (List.mem_append_right before hx)
  have order : (first :: rest).Pairwise fun x y => x.1 ≤ y.1 := by
    rw [harrived, List.pairwise_append, List.pairwise_append] at sorted
    exact sorted.1.2.1
  -- what is due for a burst is due a window after its last request
  have hdue : due ∈ dues w (handled d t.starts arrived) := by
    rw [harrived]
    exact mem_dues_of_burst (List.cons_ne_nil first rest) requests hafter
  have hstart : due ∈ t.starts := by
    rw [hstarts]
    exact List.mem_filter.mpr ⟨hdue, by simpa using hnow⟩
  exact filter_burst pairwise sorted started hw hmem order chain rfl hstart

theorem debounced_of_play {w : Nat} (hw : 0 < w) (d : Nat) (acts : List Act) :
    Debounced w d ((create w d).play acts) (arrivals 0 [true] acts) :=
  (tracks_of_play hw d acts).debounced hw (sorted_arrivals 0 [true] acts).2

/-- Two requests in a burst, and one while the action runs. -/
def burst : List Act :=
  [.send 0 [.request], .sleep 4, .send 0 [.request], .sleep 12, .send 0 [.request], .sleep 40]

/-- With a window of 10 and an action of 3, the last request is handled at the end of the action, at 17. -/
theorem debounced_of_burst : Debounced 10 3 ((create 10 3).play burst) (arrivals 0 [true] burst) ∧
    ((create 10 3).play burst).starts = [14, 27] :=
  ⟨debounced_of_play (by decide) 3 burst, by decide +kernel⟩

end Scoreboard.Timeline
