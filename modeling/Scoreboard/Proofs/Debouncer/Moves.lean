import Scoreboard.Proofs.Debouncer.Dues

/-!
# What the moves of a debouncer keep

The invariant of a timeline splits the signals that have arrived into those handled and those that wait
(`Running`). What is due for the former has started, but for the deadline that the debouncer is armed with
(`Stand`). One lemma shows that this is kept by each thing that can happen: a request is taken up
(`Running.arm`), the debouncer ends (`Running.stop`), the action starts (`Running.deadline`) and is over
(`Running.finish`); after all the moves that are possible, nothing waits unless the action runs
(`Running.settle`).
-/

namespace Scoreboard.Timeline

open Debouncer

/-- Marks of runs of the action that are over, the newest first, each with a window before it; the newest
has ended at a time. -/
inductive Runs (w d : Nat) : List Mark → Nat → Prop where
  | nil : Runs w d [] 0
  | cons {marks : List Mark} {last start : Nat} (before : Runs w d marks last) (later : last + w ≤ start) :
      Runs w d (.finish (start + d) :: .start start :: marks) (start + d)

/-- Which arrivals wait, given the queue and whether the last handle is lost. -/
inductive Waits : List Signal → Bool → List Arrival → Prop where
  | nil : Waits [] false []
  | lost (time : Nat) : Waits [] true [(time, none)]
  | sent (time : Nat) (signal : Signal) {queue : List Signal} {orphaned : Bool} {waiting : List Arrival}
      (rest : Waits queue orphaned waiting) :
      Waits (signal :: queue) orphaned ((time, some signal) :: waiting)

/-- Where a debouncer that has not ended stands: what is due for the signals handled, and those that wait. -/
inductive Stand (w d : Nat) (t : Timeline) (due : List Nat) (waiting : List Arrival) : Phase → Prop where
  | idle {last : Nat} (runs : Runs w d t.marks last) (rested : last ≤ t.now) (started : due = t.starts)
      (now : ∀ x ∈ waiting, handledAt d t.starts x.1 = t.now) : Stand w d t due waiting .idle
  | armed {last deadline : Nat} (runs : Runs w d t.marks last) (rested : last ≤ t.now)
      (later : last + w ≤ deadline) (ahead : t.now < deadline) (started : due = t.starts ++ [deadline])
      (now : ∀ x ∈ waiting, handledAt d t.starts x.1 = t.now) : Stand w d t due waiting (.armed deadline)
  | acting {last start : Nat} {before : List Mark} (marks : t.marks = .start start :: before)
      (runs : Runs w d before last) (later : last + w ≤ start) (begun : start ≤ t.now)
      (ahead : t.now < start + d) (started : due = t.starts) (meantime : ∀ x ∈ waiting, start ≤ x.1) :
      Stand w d t due waiting (.acting start)

/-- A debouncer that has not ended, with the arrivals it has handled and those that wait. -/
structure Running (w d : Nat) (t : Timeline) (done waiting : List Arrival) : Prop where
  window : t.debouncer.window = w
  duration : t.duration = d
  requests : ∀ x ∈ done, x.2 = some .request
  past : ∀ x ∈ done, handledAt d t.starts x.1 ≤ t.now
  arrived : ∀ x ∈ waiting, x.1 ≤ t.now
  queue : Waits t.debouncer.queue t.isOrphaned waiting
  stand : Stand w d t (dues w (handled d t.starts done)) waiting t.debouncer.phase

/-- A debouncer that has ended: whatever arrives, nothing is due but what has started. -/
structure Ended (w d : Nat) (t : Timeline) (arrived : List Arrival) : Prop where
  phase : t.debouncer.phase = .stopped
  runs : ∃ last, Runs w d t.marks last ∧ last ≤ t.now
  started : ∀ more, dues w (handled d t.starts (arrived ++ more)) = t.starts

/-- A debouncer between two things that are done to it. -/
inductive Tracks (w d : Nat) (t : Timeline) : List Arrival → Prop where
  | running {done waiting : List Arrival} (running : Running w d t done waiting)
      (settled : waiting = [] ∨ ∃ start, t.debouncer.phase = .acting start) : Tracks w d t (done ++ waiting)
  | ended {arrived : List Arrival} (ended : Ended w d t arrived) : Tracks w d t arrived

variable {w d : Nat}

/-! ### Runs of the action -/

/-- Each run ends no later than the last one. -/
theorem Runs.starts_le {marks : List Mark} {last : Nat} (runs : Runs w d marks last) :
    ∀ s ∈ Mark.starts marks, s + d ≤ last := by
  induction runs with
  | nil => exact fun s hs => absurd hs List.not_mem_nil
  | @cons marks last start before later ih =>
    rw [Mark.starts_finish, Mark.starts_start]
    intro s hs
    rcases List.mem_append.mp hs with hs | hs
    · have hle := ih s hs
      omega
    · rw [List.mem_singleton] at hs
      omega

/-- Between two starts there is a run and a window. -/
theorem Runs.pairwise {marks : List Mark} {last : Nat} (runs : Runs w d marks last) :
    (Mark.starts marks).Pairwise fun s s' => s + d + w ≤ s' := by
  induction runs with
  | nil => exact List.Pairwise.nil
  | @cons marks last start before later ih =>
    rw [Mark.starts_finish, Mark.starts_start, List.pairwise_append]
    refine ⟨ih, List.pairwise_singleton _ start, fun s hs s' hs' => ?_⟩
    have hle := before.starts_le s hs
    rw [List.mem_singleton] at hs'
    omega

/-- After the last run is over, a signal is handled when it arrives. -/
theorem Runs.handledAt_eq {marks : List Mark} {last time : Nat} (runs : Runs w d marks last)
    (rested : last ≤ time) : handledAt d (Mark.starts marks) time = time := by
  apply handledAt_of_idle
  intro s hs _
  exact Nat.le_trans (runs.starts_le s hs) rested

/-- All starts are in the past. -/
theorem Runs.filter_starts {marks : List Mark} {last now : Nat} (runs : Runs w d marks last)
    (rested : last ≤ now) : (Mark.starts marks).filter (· ≤ now) = Mark.starts marks := by
  rw [List.filter_eq_self]
  intro s hs
  have hle := runs.starts_le s hs
  rw [decide_eq_true_eq]
  omega

/-! ### What waits -/

/-- Signals that are sent wait behind the others. -/
theorem Waits.append_sent {queue : List Signal} {waiting : List Arrival} (h : Waits queue false waiting)
    (time : Nat) (signals : List Signal) :
    Waits (queue ++ signals) false (waiting ++ signals.map (time, some ·)) := by
  generalize horphaned : false = orphaned at h
  induction h with
  | nil =>
    induction signals with
    | nil => exact .nil
    | cons signal signals ih => exact .sent time signal ih
  | lost time => cases horphaned
  | sent time signal _ ih => exact .sent time signal (ih horphaned)

/-- The loss of the last handle waits behind all signals. -/
theorem Waits.append_lost {queue : List Signal} {waiting : List Arrival} (h : Waits queue false waiting)
    (time : Nat) : Waits queue true (waiting ++ [(time, none)]) := by
  generalize horphaned : false = orphaned at h
  induction h with
  | nil => exact .lost time
  | lost time => cases horphaned
  | sent time signal _ ih => exact .sent time signal (ih horphaned)

/-! ### Moves -/

/-- A debouncer that takes up signals: it is idle, or armed with a deadline that has not come. -/
structure Ready (w d : Nat) (t : Timeline) (due : List Nat) (waiting : List Arrival) : Prop where
  runs : ∃ last, Runs w d t.marks last ∧ last ≤ t.now
  started : due.filter (· ≤ t.now) = t.starts
  now : ∀ x ∈ waiting, handledAt d t.starts x.1 = t.now

/-- A debouncer that does not act takes up signals. -/
theorem Stand.ready {t : Timeline} {due : List Nat} {waiting : List Arrival} {phase : Phase}
    (stand : Stand w d t due waiting phase) (notActing : ∀ start, phase ≠ .acting start) :
    Ready w d t due waiting := by
  cases stand with
  | @idle last runs rested started now =>
    refine ⟨⟨last, runs, rested⟩, ?_, now⟩
    rw [started]
    exact runs.filter_starts rested
  | @armed last deadline runs rested later ahead started now =>
    refine ⟨⟨last, runs, rested⟩, ?_, now⟩
    rw [started, List.filter_append, starts, runs.filter_starts rested]
    simp [ahead]
  | @acting last start before marks runs later begun ahead started meantime =>
    exact absurd rfl (notActing start)

/-- Of the signals handled all are requests, as any other ends the debouncer. -/
theorem Running.requests_handled {t : Timeline} {done waiting : List Arrival}
    (running : Running w d t done waiting) :
    ∀ x ∈ handled d t.starts done, x.2 = some .request := by
  intro x hx
  obtain ⟨y, hy, rfl⟩ := List.mem_map.mp hx
  exact running.requests y hy

/-- What has been handled has been so by now. -/
theorem Running.past_handled {t : Timeline} {done waiting : List Arrival}
    (running : Running w d t done waiting) : ∀ x ∈ handled d t.starts done, x.1 ≤ t.now := by
  intro x hx
  obtain ⟨y, hy, rfl⟩ := List.mem_map.mp hx
  exact running.past y hy

/-- What is due after one signal more is handled now. -/
theorem Running.dues_append {t : Timeline} {done waiting : List Arrival} {x : Arrival}
    (running : Running w d t done (x :: waiting))
    (ready : Ready w d t (dues w (handled d t.starts done)) (x :: waiting)) (after : List Arrival) :
    dues w (handled d t.starts (done ++ x :: after)) =
      t.starts ++ dues w ((t.now, x.2) :: handled d t.starts after) := by
  have hx : handledAt d t.starts x.1 = t.now := ready.now x List.mem_cons_self
  have happ : handled d t.starts (done ++ x :: after) =
      handled d t.starts done ++ (t.now, x.2) :: handled d t.starts after := by
    rw [handled_append, handled_cons, hx]
  rw [happ, Debouncer.dues_append running.requests_handled running.past_handled, ready.started]

/-- A request is taken up: the deadline is one window from now. -/
theorem Running.arm {t : Timeline} {done waiting : List Arrival} {time : Nat} {rest : List Signal} (hw : 0 < w)
    (running : Running w d t done ((time, some .request) :: waiting))
    (ready : Ready w d t (dues w (handled d t.starts done)) ((time, some .request) :: waiting))
    (hrest : Waits rest t.isOrphaned waiting) :
    Running w d
      { t with
        debouncer :=
          { t.debouncer with queue := rest, phase := .armed (t.now + t.debouncer.window) } }
      (done ++ [(time, some .request)]) waiting := by
  -- the request is handled now, and is due in a window unless something is handled before that
  obtain ⟨last, runs, rested⟩ := ready.runs
  have hdue := running.dues_append ready []
  have hnow : handledAt d t.starts time = t.now := ready.now _ List.mem_cons_self
  refine { running with requests := ?_, past := ?_, arrived := ?_, queue := hrest, stand := ?_ }
  · intro x hx
    rcases List.mem_append.mp hx with hx | hx
    · exact running.requests x hx
    · rw [List.mem_singleton.mp hx]
  · intro x hx
    rcases List.mem_append.mp hx with hx | hx
    · exact running.past x hx
    · rw [List.mem_singleton.mp hx]
      exact Nat.le_of_eq hnow
  · exact fun x hx => running.arrived x (List.mem_cons_of_mem _ hx)
  · rw [running.window]
    refine .armed runs rested (Nat.add_le_add_right rested w) (Nat.lt_add_of_pos_right hw) ?_ ?_
    · rw [← dues_singleton]
      exact hdue
    · exact fun x hx => ready.now x (List.mem_cons_of_mem _ hx)

/-- The debouncer ends with a signal that is no request. -/
theorem Running.stop {t : Timeline} {done waiting : List Arrival} {x : Arrival} (queue : List Signal)
    (running : Running w d t done (x :: waiting))
    (ready : Ready w d t (dues w (handled d t.starts done)) (x :: waiting)) (hx : x.2 ≠ some .request) :
    Ended w d { t with debouncer := { t.debouncer with queue, phase := .stopped } }
      (done ++ x :: waiting) := by
  -- what arrives after this signal, now or ever, makes nothing due
  refine ⟨rfl, ready.runs, fun more => ?_⟩
  have hdue := running.dues_append ready (waiting ++ more)
  rw [dues_of_ne (by exact hx), List.append_nil] at hdue
  rw [List.append_assoc, List.cons_append]
  exact hdue

/-- While the action does not run, the next move takes up a signal: the deadline of an armed debouncer has not
come. -/
theorem Running.next_eq_takeUp {t : Timeline} {done waiting : List Arrival} (running : Running w d t done waiting)
    (rests : ∀ start, t.debouncer.phase ≠ .acting start) :
    t.debouncer.next t.now t.isOrphaned = t.debouncer.takeUp t.now t.isOrphaned := by
  have stand := running.stand
  unfold Debouncer.next
  cases hphase : t.debouncer.phase with
  | idle => rfl
  | armed deadline =>
    rw [hphase] at stand
    cases stand with
    | armed runs rested later ahead started now => exact if_neg (Nat.not_le.mpr ahead)
  | acting start => exact absurd hphase (rests start)
  | stopped =>
    rw [hphase] at stand
    cases stand

/-- What the next move is, and what it leads to. The action does not start by itself. -/
theorem Running.next_cases {t : Timeline} {done waiting : List Arrival} (hw : 0 < w)
    (running : Running w d t done waiting) :
    (t.debouncer.next t.now t.isOrphaned = none ∧
        (waiting = [] ∨ ∃ start, t.debouncer.phase = .acting start)) ∨
      (∃ debouncer, t.debouncer.next t.now t.isOrphaned = some (.stop, debouncer) ∧
        Ended w d { t with debouncer } (done ++ waiting)) ∨
      ∃ deadline debouncer x rest, t.debouncer.next t.now t.isOrphaned = some (.arm deadline, debouncer) ∧
        waiting = x :: rest ∧ Running w d { t with debouncer } (done ++ [x]) rest := by
  -- no move is made while the action runs
  by_cases hacting : ∃ start, t.debouncer.phase = .acting start
  · obtain ⟨start, hstart⟩ := hacting
    left
    rw [Debouncer.next, hstart]
    exact ⟨rfl, .inr ⟨start, rfl⟩⟩
  have ready : Ready w d t (dues w (handled d t.starts done)) waiting :=
    running.stand.ready fun start hstart => hacting ⟨start, hstart⟩
  have hqueue := running.queue
  rw [running.next_eq_takeUp fun start hstart => hacting ⟨start, hstart⟩]
  unfold takeUp
  -- the first signal in the queue is the first arrival that waits
  generalize hq : t.debouncer.queue = queue at hqueue
  generalize ho : t.isOrphaned = orphaned at hqueue
  cases hqueue with
  | nil => exact .inl ⟨rfl, .inl rfl⟩
  | lost time => exact .inr (.inl ⟨_, rfl, running.stop [] ready (by simp)⟩)
  | @sent time signal rest _ waiting hrest =>
    rw [← ho] at hrest
    cases signal with
    | request =>
      exact .inr (.inr ⟨_, _, _, _, rfl, rfl, running.arm hw ready hrest⟩)
    | stop => exact .inr (.inl ⟨_, rfl, running.stop [] ready (by simp)⟩)

/-- To take all moves keeps track: requests are taken up one by one until nothing waits, or a signal ends the
debouncer. -/
theorem Running.settle {t : Timeline} {done waiting : List Arrival} (hw : 0 < w)
    (running : Running w d t done waiting) : Tracks w d t.settle (done ++ waiting) := by
  -- the induction follows the moves, and at each the invariant says which one it can be
  fun_induction Timeline.settle t generalizing done waiting with
  | case1 t h =>
    obtain ⟨_, settled⟩ | ⟨_, hn, _⟩ | ⟨_, _, _, _, hn, _⟩ := running.next_cases hw
    · exact .running running settled
    · rw [h] at hn
      cases hn
    · rw [h] at hn
      cases hn
  | case2 t debouncer h =>
    obtain ⟨hn, _⟩ | ⟨_, hn, ended⟩ | ⟨_, _, _, _, hn, _⟩ := running.next_cases hw
    · rw [h] at hn
      cases hn
    · rw [h] at hn
      cases hn
      exact .ended ended
    · rw [h] at hn
      cases hn
  | case3 t deadline debouncer h ih =>
    obtain ⟨hn, _⟩ | ⟨_, hn, _⟩ | ⟨_, _, x, rest, hn, rfl, harmed⟩ := running.next_cases hw
    · rw [h] at hn
      cases hn
    · rw [h] at hn
      cases hn
    · rw [h] at hn
      cases hn
      have htracks := ih harmed
      rw [List.append_assoc] at htracks
      exact htracks
  -- the action starts at its deadline only, which has not come
  | case4 t debouncer h hd ih =>
    obtain ⟨hn, _⟩ | ⟨_, hn, _⟩ | ⟨_, _, _, _, hn, _⟩ := running.next_cases hw
    all_goals
      rw [h] at hn
      cases hn
  | case5 t debouncer h hd =>
    obtain ⟨hn, _⟩ | ⟨_, hn, _⟩ | ⟨_, _, _, _, hn, _⟩ := running.next_cases hw
    all_goals
      rw [h] at hn
      cases hn

/-! ### The deadline and the end of the action -/

/-- A timeline on which the action starts. -/
def begun (t : Timeline) : Timeline :=
  { t with
    debouncer := { t.debouncer with phase := .acting t.now }
    marks := .start t.now :: t.marks }

/-- A deadline that has come starts the action, which is over at once if it takes no time. -/
theorem settle_of_deadline {t : Timeline} {deadline : Nat} (hphase : t.debouncer.phase = .armed deadline)
    (come : deadline ≤ t.now) :
    t.settle = if t.duration = 0 then t.begun.finish.settle else t.begun := by
  have hn : t.debouncer.next t.now t.isOrphaned =
      some (.start, { t.debouncer with phase := .acting t.now }) := by
    rw [Debouncer.next, hphase]
    exact if_pos come
  rw [Timeline.settle]
  -- of the moves that could be next only the start is
  split
  · rename_i h
    rw [hn] at h
    cases h
  · rename_i h
    rw [hn] at h
    cases h
  · rename_i h
    rw [hn] at h
    cases h
  · rename_i h
    rw [hn] at h
    cases h
    rfl

/-- At the deadline the action starts, and with it all that is due has started. -/
theorem Running.deadline {t : Timeline} {done : List Arrival} {deadline : Nat} (hw : 0 < w)
    (running : Running w d t done []) (hphase : t.debouncer.phase = .armed deadline) :
    Tracks w d (Timeline.settle { t with now := deadline }) done := by
  have stand := running.stand
  have hqueue := running.queue
  rw [hphase] at stand
  cases stand with
  | @armed last _ runs rested later ahead started now =>
    -- what has been handled arrived before the deadline, so the new start does not delay it
    have hearlier : ∀ x ∈ done, x.1 < deadline := by
      intro x hx
      have harrived := le_handledAt (d := d) t.starts x.1
      have hhandled := running.past x hx
      omega
    have hpast : ∀ x ∈ done, handledAt d (t.starts ++ [deadline]) x.1 ≤ deadline := by
      intro x hx
      rw [handledAt_append_of_lt (hearlier x hx)]
      exact Nat.le_trans (running.past x hx) (Nat.le_of_lt ahead)
    have hstarted : dues w (handled d (t.starts ++ [deadline]) done) = t.starts ++ [deadline] := by
      rw [handled_append_of_lt hearlier]
      exact started
    have hstarts : Mark.starts (.start deadline :: t.marks) = t.starts ++ [deadline] :=
      Mark.starts_start deadline t.marks
    have hsettle := settle_of_deadline (t := { t with now := deadline }) hphase (Nat.le_refl deadline)
    have hnone : ∀ x ∈ ([] : List Arrival), x.1 ≤ deadline := fun x hx => absurd hx List.not_mem_nil
    rw [hsettle]
    split
    -- an action that takes no time is over at once
    · rename_i hd
      obtain rfl : d = 0 := running.duration.symm.trans hd
      have hfinished : Running w 0 (begun { t with now := deadline }).finish done [] := by
        refine ⟨running.window, running.duration, running.requests, ?_, hnone, hqueue, ?_⟩
        · rw [starts, finish, Mark.starts_finish, begun, hstarts]
          exact hpast
        · refine .idle (.cons runs later) (Nat.le_refl deadline) ?_ ?_
          · rw [starts, finish, Mark.starts_finish, begun, hstarts]
            exact hstarted
          · exact fun x hx => absurd hx List.not_mem_nil
      have htracks := hfinished.settle hw
      rwa [List.append_nil] at htracks
    · rename_i hd
      have hd : 0 < d := Nat.pos_of_ne_zero (running.duration ▸ hd)
      have hbegun : Running w d (begun { t with now := deadline }) done [] := by
        refine ⟨running.window, running.duration, running.requests, ?_, hnone, hqueue, ?_⟩
        · rw [starts, begun, hstarts]
          exact hpast
        · refine .acting rfl runs later (Nat.le_refl deadline) (Nat.lt_add_of_pos_right hd) ?_ ?_
          · rw [starts, begun, hstarts]
            exact hstarted
          · exact fun x hx => absurd hx List.not_mem_nil
      have htracks := Tracks.running hbegun (.inl rfl)
      rwa [List.append_nil] at htracks

/-- At the end of the action, what has arrived in the meantime is handled. -/
theorem Running.finish {t : Timeline} {done waiting : List Arrival} {start : Nat}
    (running : Running w d t done waiting) (hphase : t.debouncer.phase = .acting start) :
    Running w d (Timeline.finish { t with now := start + d }) done waiting := by
  have stand := running.stand
  have hqueue := running.queue
  rw [hphase] at stand
  cases stand with
  | @acting last _ before marks runs later begun ahead started meantime =>
    have hstarts : Mark.starts t.marks = Mark.starts before ++ [start] := by
      rw [marks, Mark.starts_start]
    have hfinished : (Timeline.finish { t with now := start + d }).starts = t.starts :=
      Mark.starts_finish (start + d) t.marks
    have hdebouncer : t.debouncer.finish = { t.debouncer with phase := .idle } := by
      rw [Debouncer.finish, hphase]
    refine ⟨?_, running.duration, running.requests, ?_, ?_, ?_, ?_⟩
    · rw [Timeline.finish, hdebouncer]
      exact running.window
    · rw [hfinished]
      exact fun x hx => Nat.le_trans (running.past x hx) (Nat.le_of_lt ahead)
    · exact fun x hx => Nat.le_trans (running.arrived x hx) (Nat.le_of_lt ahead)
    · rw [Timeline.finish, hdebouncer]
      exact hqueue
    · rw [hfinished, Timeline.finish, hdebouncer]
      -- what came while the action ran is handled now
      refine .idle ?_ (Nat.le_refl (start + d)) ?_ ?_
      · rw [marks]
        exact .cons runs later
      · rw [started]
        exact hfinished.symm
      · intro x hx
        show handledAt d (Mark.starts (.finish (start + d) :: t.marks)) x.1 = start + d
        rw [Mark.starts_finish, hstarts]
        apply handledAt_append_of_running
        · intro s hs
          have hle := runs.starts_le s hs
          omega
        · exact meantime x hx
        · exact Nat.lt_of_le_of_lt (running.arrived x hx) ahead

end Scoreboard.Timeline
