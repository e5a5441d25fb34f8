import Scoreboard.Proofs.Debouncer.Moves

/-!
# What is done to a debouncer keeps the invariant

Time passes from event to event (`Tracks.runUntil`), and signals arrive behind those that wait
(`Tracks.send`, `Tracks.drop`); so the invariant holds after everything that can be done, for the signals
that have arrived by then (`Tracks.play`).
-/

namespace Scoreboard.Timeline

open Debouncer

variable {w d : Nat}

/-! ### Time passes -/

/-- To take all moves takes no time and loses no handle. -/
theorem clock_settle (t : Timeline) : t.settle.now = t.now ∧ t.settle.handles = t.handles := by
  fun_induction settle t with
  | case1 t h => exact ⟨rfl, rfl⟩
  | case2 t debouncer h => exact ⟨rfl, rfl⟩
  | case3 t deadline debouncer h ih => exact ih
  | case4 t debouncer h started hd ih => exact ih
  | case5 t debouncer h started hd => exact ⟨rfl, rfl⟩

/-- What happens by itself happens at its time, and loses no handle. -/
theorem clock_occur (t : Timeline) (time : Nat) :
    (t.occur time).now = time ∧ (t.occur time).handles = t.handles := by
  rw [occur]
  split
  · exact clock_settle _
  · exact clock_settle _

/-- Time goes as far as it is let go, and no handle is lost. -/
theorem clock_runUntil (t : Timeline) (limit : Nat) :
    (t.runUntil limit).now = limit ∧ (t.runUntil limit).handles = t.handles := by
  fun_induction runUntil t limit with
  | case1 t time hn hdue ih => exact ⟨ih.1, ih.2.trans (clock_occur t time).2⟩
  | case2 t time hn hdue => exact ⟨rfl, rfl⟩
  | case3 t hn => exact ⟨rfl, rfl⟩

/-- Where there is no move to make nothing is to settle. -/
theorem settle_of_none {t : Timeline} (hn : t.debouncer.next t.now t.isOrphaned = none) : t.settle = t := by
  rw [settle]
  split
  · rfl
  all_goals
    rename_i h
    rw [hn] at h
    cases h

theorem settle_of_stopped {t : Timeline} (hphase : t.debouncer.phase = .stopped) : t.settle = t :=
  settle_of_none (by rw [Debouncer.next, hphase])

/-- What happens by itself keeps track: a deadline that comes, or an action that ends. -/
theorem Tracks.occur {t : Timeline} {arrived : List Arrival} {time : Nat} (hw : 0 < w)
    (tracks : Tracks w d t arrived) (hn : t.nextEvent = some time) :
    Tracks w d (t.occur time) arrived := by
  cases tracks with
  | @running done waiting running settled =>
    unfold nextEvent at hn
    split at hn
    · rename_i deadline hphase
      cases hn
      -- an armed debouncer has handled all that has arrived
      obtain rfl : waiting = [] := by
        obtain hnil | ⟨start, hstart⟩ := settled
        · exact hnil
        · rw [hphase] at hstart
          cases hstart
      -- the deadline starts the action
      rw [Timeline.occur, hphase, List.append_nil]
      exact running.deadline hw hphase
    · rename_i start hphase
      cases hn
      -- the end of the action lets what waits be handled
      obtain rfl := running.duration
      rw [Timeline.occur, hphase]
      exact (running.finish hphase).settle hw
    · cases hn
  | ended ended =>
    rw [nextEvent, ended.phase] at hn
    cases hn

/-- Time that passes before anything happens keeps track. -/
theorem Tracks.later {t : Timeline} {arrived : List Arrival} {time : Nat}
    (tracks : Tracks w d t arrived) (hle : t.now ≤ time)
    (hn : ∀ event, t.nextEvent = some event → time < event) :
    Tracks w d { t with now := time } arrived := by
  cases tracks with
  | @running done waiting running settled =>
    refine .running ?_ settled
    have stand := running.stand
    refine ⟨running.window, running.duration, running.requests, ?_, ?_, running.queue, ?_⟩
    · exact fun x hx => Nat.le_trans (running.past x hx) hle
    · exact fun x hx => Nat.le_trans (running.arrived x hx) hle
    -- between two events nothing waits but while the action runs
    cases hphase : t.debouncer.phase with
    | idle =>
      obtain rfl : waiting = [] := settled.resolve_right (by simp [hphase])
      rw [hphase] at stand
      cases stand with
      | idle runs rested started now =>
        exact .idle runs (Nat.le_trans rested hle) started (fun x hx => absurd hx List.not_mem_nil)
    | armed deadline =>
      obtain rfl : waiting = [] := settled.resolve_right (by simp [hphase])
      have ahead : time < deadline := hn deadline (by rw [nextEvent, hphase])
      rw [hphase] at stand
      cases stand with
      | armed runs rested later _ started now =>
        exact .armed runs (Nat.le_trans rested hle) later ahead started
          (fun x hx => absurd hx List.not_mem_nil)
    | acting start =>
      have ahead : time < start + d := hn _ (by rw [nextEvent, hphase, running.duration])
      rw [hphase] at stand
      cases stand with
      | acting marks runs later begun _ started meantime =>
        exact .acting marks runs later (Nat.le_trans begun hle) ahead started meantime
    | stopped =>
      rw [hphase] at stand
      cases stand
  | ended ended =>
    obtain ⟨last, runs, rested⟩ := ended.runs
    exact .ended ⟨ended.phase, ⟨last, runs, Nat.le_trans rested hle⟩, ended.started⟩

/-- Time that passes keeps track, whatever happens in it. -/
theorem Tracks.runUntil {t : Timeline} {arrived : List Arrival} {limit : Nat} (hw : 0 < w)
    (tracks : Tracks w d t arrived) (hle : t.now ≤ limit) : Tracks w d (t.runUntil limit) arrived := by
  fun_induction Timeline.runUntil t limit with
  | case1 t time hn hdue ih =>
    apply ih
    · exact tracks.occur hw hn
    · rw [(clock_occur t time).1]
      exact hdue
  | case2 t time hn hdue =>
    refine tracks.later hle fun event hevent => ?_
    rw [hn] at hevent
    cases hevent
    omega
  | case3 t hn =>
    refine tracks.later hle fun event hevent => ?_
    rw [hn] at hevent
    cases hevent

/-! ### Signals arrive -/

/-- Signals that arrive now wait behind the others. -/
theorem Running.arrive {t : Timeline} {done waiting new : List Arrival} {queue : List Signal}
    {handles : List Bool} (running : Running w d t done waiting) (hnew : ∀ x ∈ new, x.1 = t.now)
    (hqueue : Waits queue (!handles.any id) (waiting ++ new)) :
    Running w d { t with debouncer := { t.debouncer with queue }, handles } done (waiting ++ new) := by
  refine ⟨running.window, running.duration, running.requests, running.past, ?_, hqueue, ?_⟩
  · intro x hx
    rcases List.mem_append.mp hx with hx | hx
    · exact running.arrived x hx
    · exact Nat.le_of_eq (hnew x hx)
  -- with no action running, a signal is handled when it arrives
  have hnow {last : Nat} (runs : Runs w d t.marks last) (rested : last ≤ t.now)
      (now : ∀ x ∈ waiting, handledAt d t.starts x.1 = t.now) :
      ∀ x ∈ waiting ++ new, handledAt d t.starts x.1 = t.now := by
    intro x hx
    rcases List.mem_append.mp hx with hx | hx
    · exact now x hx
    · rw [hnew x hx]
      exact runs.handledAt_eq rested
  have stand := running.stand
  show Stand w d _ _ _ t.debouncer.phase
  generalize t.debouncer.phase = phase at stand
  cases stand with
  | idle runs rested started now => exact .idle runs rested started (hnow runs rested now)
  | armed runs rested later ahead started now =>
    exact .armed runs rested later ahead started (hnow runs rested now)
  | acting marks runs later begun ahead started meantime =>
    refine .acting marks runs later begun ahead started fun x hx => ?_
    rcases List.mem_append.mp hx with hx | hx
    · exact meantime x hx
    · rw [hnew x hx]
      exact begun

/-- After its end a debouncer takes no notice of what arrives. -/
theorem Ended.arrive {t : Timeline} {arrived : List Arrival} (ended : Ended w d t arrived)
    (new : List Arrival) (handles : List Bool) : Ended w d { t with handles } (arrived ++ new) := by
  refine ⟨ended.phase, ended.runs, fun more => ?_⟩
  rw [List.append_assoc]
  exact ended.started (new ++ more)

/-- Signals that are sent to a debouncer wait in order. -/
theorem foldl_send_of_isRunning {debouncer : Debouncer} (h : debouncer.isRunning) (signals : List Signal) :
    signals.foldl Debouncer.send debouncer =
      { debouncer with queue := debouncer.queue ++ signals } := by
  induction signals generalizing debouncer with
  | nil => rw [List.append_nil, List.foldl_nil]
  | cons signal signals ih =>
    rw [List.foldl_cons, Debouncer.send, if_pos h, ih (by exact h), List.append_assoc]
    rfl

/-- Signals that are sent to a debouncer that has ended are lost. -/
theorem foldl_send_of_stopped {debouncer : Debouncer} (h : debouncer.phase = .stopped)
    (signals : List Signal) : signals.foldl Debouncer.send debouncer = debouncer := by
  induction signals with
  | nil => rfl
  | cons signal signals ih =>
    have hsend : debouncer.send signal = debouncer := by
      rw [Debouncer.send, Debouncer.isRunning, h]
      rfl
    rw [List.foldl_cons, hsend, ih]

/-- What runs accepts signals. -/
theorem Running.isRunning {t : Timeline} {done waiting : List Arrival}
    (running : Running w d t done waiting) : t.debouncer.isRunning := by
  have stand := running.stand
  rw [Debouncer.isRunning]
  cases hphase : t.debouncer.phase with
  | stopped =>
    rw [hphase] at stand
    cases stand
  | _ => rfl

/-- Signals that are sent keep track, and are among those that have arrived. -/
theorem Tracks.send {t : Timeline} {arrived : List Arrival} (hw : 0 < w) (tracks : Tracks w d t arrived)
    (held : t.isOrphaned = false) (signals : List Signal) :
    Tracks w d (t.send signals) (arrived ++ signals.map (t.now, some ·)) := by
  cases tracks with
  | @running done waiting running settled =>
    have hqueue := running.queue
    rw [held] at hqueue
    -- signals are sent through a handle that is held, so none stands behind the loss of the last
    have hwaits := hqueue.append_sent t.now signals
    rw [← held] at hwaits
    have hnew : ∀ x ∈ signals.map (t.now, some ·), x.1 = t.now := by
      intro x hx
      obtain ⟨signal, _, rfl⟩ := List.mem_map.mp hx
      rfl
    rw [Timeline.send, foldl_send_of_isRunning running.isRunning, List.append_assoc]
    exact (running.arrive hnew hwaits).settle hw
  | ended ended =>
    rw [Timeline.send, foldl_send_of_stopped ended.phase, settle_of_stopped ended.phase]
    exact .ended (ended.arrive _ t.handles)

/-- A handle that is dropped keeps track. With the last one the loss arrives. -/
theorem Tracks.drop {t : Timeline} {arrived : List Arrival} (hw : 0 < w) (tracks : Tracks w d t arrived)
    (held : t.isOrphaned = false) (handle : Nat) :
    Tracks w d (t.drop handle) (arrived ++
      if (t.handles.set handle false).any id then [] else [(t.now, none)]) := by
  cases tracks with
  | @running done waiting running settled =>
    have hqueue := running.queue
    rw [held] at hqueue
    rw [Timeline.drop, List.append_assoc]
    split
    · rename_i hany
      refine Running.settle hw (running.arrive (by simp) ?_)
      rw [hany, List.append_nil]
      exact hqueue
    · rename_i hany
      refine Running.settle hw (running.arrive (by simp) ?_)
      rw [(Bool.not_eq_true _).mp hany]
      -- the last handle is lost, which arrives behind all signals
      exact hqueue.append_lost t.now
  | ended ended =>
    rw [Timeline.drop, settle_of_stopped (by exact ended.phase)]
    exact .ended (ended.arrive _ _)

/-- A handle that is cloned keeps track. -/
theorem Tracks.clone {t : Timeline} {arrived : List Arrival} (tracks : Tracks w d t arrived)
    (held : t.isOrphaned = false) : Tracks w d t.clone arrived := by
  cases tracks with
  | @running done waiting running settled =>
    have hqueue := running.queue
    rw [held] at hqueue
    have hwaits : Waits t.debouncer.queue (!(t.handles ++ [true]).any id) (waiting ++ []) := by
      simpa using hqueue
    have harrive := running.arrive (by simp) hwaits
    rw [List.append_nil] at harrive
    exact .running harrive settled
  | ended ended =>
    have harrive := ended.arrive [] (t.handles ++ [true])
    rw [List.append_nil] at harrive
    exact .ended harrive

theorem any_of_isHeld {handles : List Bool} {handle : Nat} (held : isHeld handles handle) :
    handles.any id = true := by
  rw [isHeld, decide_eq_true_eq] at held
  exact List.any_eq_true.mpr ⟨true, List.mem_of_getElem? held, rfl⟩

theorem isOrphaned_of_isHeld {t : Timeline} {handle : Nat} (held : isHeld t.handles handle) :
    t.isOrphaned = false := by
  rw [isOrphaned, any_of_isHeld held]
  rfl

/-! ### Everything that can be done -/

/-- What arrives by acts in a row is what arrives by the first and then by the others. -/
theorem arrivals_cons (t : Timeline) (act : Act) (acts : List Act) :
    arrivals t.now t.handles (act :: acts) =
      arrivals t.now t.handles [act] ++ arrivals (t.act act).now (t.act act).handles acts := by
  cases act with
  | send handle signals =>
    rw [Timeline.act, arrivals, arrivals]
    split
    · rw [Timeline.send, (clock_settle _).1, (clock_settle _).2, arrivals, List.append_nil]
    · rfl
  | sleep duration =>
    rw [Timeline.act, Timeline.sleep, (clock_runUntil _ _).1, (clock_runUntil _ _).2]
    rfl
  | clone handle =>
    rw [Timeline.act, arrivals, arrivals]
    split <;> rfl
  | drop handle =>
    rw [Timeline.act, arrivals, arrivals]
    split
    · rw [Timeline.drop, (clock_settle _).1, (clock_settle _).2]
      simp only
      split <;> rfl
    · rfl

/-- Every act keeps track. -/
theorem Tracks.act {t : Timeline} {arrived : List Arrival} (hw : 0 < w) (tracks : Tracks w d t arrived)
    (act : Act) : Tracks w d (t.act act) (arrived ++ arrivals t.now t.handles [act]) := by
  have hnone : Tracks w d t (arrived ++ []) := by rwa [List.append_nil]
  -- an act through a handle that is not held does nothing
  cases act with
  | send handle signals =>
    rw [Timeline.act, arrivals]
    split
    · rename_i held
      rw [arrivals, List.append_nil]
      exact tracks.send hw (isOrphaned_of_isHeld held) signals
    · exact hnone
  | sleep duration => exact hnone.runUntil hw (Nat.le_add_right t.now duration)
  | clone handle =>
    rw [Timeline.act]
    split
    · rename_i held
      exact hnone.clone (isOrphaned_of_isHeld held)
    · exact hnone
  | drop handle =>
    rw [Timeline.act, arrivals]
    split
    · rename_i held
      exact tracks.drop hw (isOrphaned_of_isHeld held) handle
    · exact hnone

/-- Acts in a row keep track, by induction on them. -/
theorem Tracks.play {t : Timeline} {arrived : List Arrival} (hw : 0 < w) (tracks : Tracks w d t arrived)
    (acts : List Act) : Tracks w d (t.play acts) (arrived ++ arrivals t.now t.handles acts) := by
  induction acts generalizing t arrived with
  | nil =>
    rw [arrivals, List.append_nil]
    exact tracks
  | cons act acts ih =>
    rw [arrivals_cons, ← List.append_assoc]
    exact ih (tracks.act hw act)

theorem tracks_create (w d : Nat) : Tracks w d (create w d) [] := by
  have running : Running w d (create w d) [] [] := by
    refine ⟨rfl, rfl, by simp, by simp, by simp, .nil, ?_⟩
    exact .idle .nil (Nat.le_refl 0) rfl (by simp)
  exact .running running (.inl rfl)

/-- The invariant holds whatever is done from the beginning. -/
theorem tracks_of_play (hw : 0 < w) (d : Nat) (acts : List Act) :
    Tracks w d ((create w d).play acts) (arrivals 0 [true] acts) :=
  (tracks_create w d).play hw acts

/-- What arrives arrives in order of time. -/
theorem sorted_arrivals (now : Nat) (handles : List Bool) (acts : List Act) :
    (∀ x ∈ arrivals now handles acts, now ≤ x.1) ∧
      (arrivals now handles acts).Pairwise fun x y => x.1 ≤ y.1 := by
  -- the induction is on the acts, for the time and the handles that they find
  induction acts generalizing now handles with
  | nil => exact ⟨fun x hx => absurd hx List.not_mem_nil, List.Pairwise.nil⟩
  | cons a acts ih =>
    cases a with
    | send handle signals =>
      rw [arrivals]
      split
      · obtain ⟨hlater, hsorted⟩ := ih now handles
        have hnow : ∀ x ∈ signals.map (now, some ·), x.1 = now := by
          intro x hx
          obtain ⟨signal, _, rfl⟩ := List.mem_map.mp hx
          rfl
        constructor
        · intro x hx
          rcases List.mem_append.mp hx with hx | hx
          · exact Nat.le_of_eq (hnow x hx).symm
          · exact hlater x hx
        · refine List.pairwise_append.mpr ⟨?_, hsorted, fun x hx y hy => ?_⟩
          · exact List.pairwise_of_forall_mem_list fun x hx y hy =>
              Nat.le_of_eq ((hnow x hx).trans (hnow y hy).symm)
          · exact Nat.le_trans (Nat.le_of_eq (hnow x hx)) (hlater y hy)
      · exact ih now handles
    | sleep duration =>
      obtain ⟨hlater, hsorted⟩ := ih (now + duration) handles
      exact ⟨fun x hx => Nat.le_trans (Nat.le_add_right now duration) (hlater x hx), hsorted⟩
    | clone handle => exact ih now _
    | drop handle =>
      rw [arrivals]
      split
      · obtain ⟨hlater, hsorted⟩ := ih now (handles.set handle false)
        simp only
        split
        · exact ⟨hlater, hsorted⟩
        · constructor
          · rintro x (_ | ⟨_, hx⟩)
            · exact Nat.le_refl now
            · exact hlater x hx
          · exact List.pairwise_cons.mpr ⟨hlater, hsorted⟩
      · exact ih now handles

end Scoreboard.Timeline
