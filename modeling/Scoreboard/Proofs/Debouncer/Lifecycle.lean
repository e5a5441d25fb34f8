import Mathlib.Data.List.Infix
import Scoreboard.Proofs.Debouncer.Law

/-!
# The handles of a debouncer

A debouncer has any number of handles, which are copied and given up while it runs. Main statement
(`lifecycle_of_play`): for every window that is not zero and every duration of the action, whatever is done, all
handles answer alike whether signals are still accepted, and what they answer depends on the stop that was sent
first and the action that ran then; through which handle something is done makes no difference, and the action
ends when its time is over, whatever is done in the meantime (`Lifecycle`).

That handles make no difference is shown against the run in which the same signals are sent through a single
handle at the same times (`plain`): both runs are in the same state (`alone_play`).
-/

namespace Scoreboard.Timeline

open Debouncer

/-- The arrival of the first stop. -/
def firstStop? (arrived : List Arrival) : Option Nat :=
  (arrived.find? (·.2 = some .stop)).map Prod.fst

/-- Whether a stop has been sent, and the action is over that ran then, if one did. -/
def IsOver (d : Nat) (t : Timeline) (arrived : List Arrival) : Prop :=
  ∃ stop, firstStop? arrived = some stop ∧ ∀ s ∈ t.starts, s ≤ stop → stop < s + d → s + d ≤ t.now

/-- What is done, but all of it through one handle, which is given up with the last one; given which handles are
held. -/
def plain (handles : List Bool) : List Act → List Act
  | [] => []
  | .send handle signals :: acts =>
    if isHeld handles handle then .send 0 signals :: plain handles acts else plain handles acts
  | .sleep duration :: acts => .sleep duration :: plain handles acts
  | .clone handle :: acts => plain (if isHeld handles handle then handles ++ [true] else handles) acts
  | .drop handle :: acts =>
    if isHeld handles handle then
      let left := handles.set handle false
      if left.any id then plain left acts else .drop 0 :: plain left acts
    else plain handles acts

/-- A timeline, but with a single handle, which is held as long as one is. -/
def alone (t : Timeline) : Timeline := { t with handles := [t.handles.any id] }

/-- How a debouncer with many handles lives and ends. -/
structure Lifecycle (w d : Nat) (acts : List Act) (t : Timeline) : Prop where
  /-- Every handle that is held answers the same: whether a stop has been sent and the action is over that ran
  when the first one was. -/
  answers : ∀ handle, isHeld t.handles handle →
    t.answer? handle = some false ∧ IsOver d t (arrivals 0 [true] acts) ∨
      t.answer? handle = some true ∧ ¬IsOver d t (arrivals 0 [true] acts)
  /-- Once one of them has answered that no signals are accepted, none ever answers that they are. -/
  final : ∀ handle, t.answer? handle = some false →
    ∀ more handle', (t.play more).answer? handle' ≠ some true
  /-- All is as if the signals had been sent through one handle, and no other had ever been made or given up. -/
  alike : t.alone = (create w d).play (plain [true] acts)
  /-- The action has ended as long after each start as it takes, but for one that has not come so far. -/
  finishes : t.finishes = (t.starts.filter (· + d ≤ t.now)).map (· + d)
  /-- Whatever is done after a start, the action ends when its time is over. -/
  ends : ∀ s ∈ t.starts, ∀ more, s ∈ (t.play more).starts ∧
    (s + d ∈ (t.play more).finishes ↔ s + d ≤ (t.play more).now)

variable {w d : Nat} {t : Timeline} {arrived : List Arrival} {acts : List Act}

/-! ### What handles answer -/

/-- Among signals that have made a debouncer end is one that is no request. -/
theorem Ended.exists_ne (hw : 0 < w) (ended : Ended w d t arrived) : ∃ x ∈ arrived, x.2 ≠ some .request := by
  by_contra hnone
  have requests : ∀ x ∈ handled d t.starts arrived, x.2 = some .request := by
    intro x hx
    obtain ⟨y, hy, rfl⟩ := List.mem_map.mp hx
    exact Decidable.not_not.mp fun hne => hnone ⟨y, hy, hne⟩
  obtain ⟨last, runs, rested⟩ := ended.runs
  -- a request that came now would make the action due in a window, but it has not started then
  have hnow : handledAt d t.starts t.now = t.now := runs.handledAt_eq rested
  have hdue : t.now + w ∈ dues w (handled d t.starts (arrived ++ [(t.now, some .request)])) := by
    refine mem_dues_iff.mpr ⟨handled d t.starts arrived, t.now, [], ?_, requests, rfl, by simp⟩
    rw [handled_append, handled_cons, hnow]
    rfl
  rw [ended.started] at hdue
  have hle := runs.starts_le _ hdue
  omega

/-- Who is orphaned stays so, as there is no handle to clone. -/
theorem isOrphaned_act (orphaned : t.isOrphaned = true) (act : Act) : (t.act act).isOrphaned = true := by
  have hnone (handle : Nat) : ¬isHeld t.handles handle := by
    intro held
    rw [isOrphaned_of_isHeld held] at orphaned
    cases orphaned
  cases act with
  | send handle signals => rwa [Timeline.act, if_neg (hnone handle)]
  | sleep duration =>
    rw [Timeline.act, sleep, isOrphaned, (clock_runUntil _ _).2]
    exact orphaned
  | clone handle => rwa [Timeline.act, if_neg (hnone handle)]
  | drop handle => rwa [Timeline.act, if_neg (hnone handle)]

/-- Who is orphaned stays so whatever is done. -/
theorem isOrphaned_play (orphaned : t.isOrphaned = true) (acts : List Act) :
    (t.play acts).isOrphaned = true := by
  induction acts generalizing t with
  | nil => exact orphaned
  | cons act acts ih => exact ih (isOrphaned_act orphaned act)

/-- The act by which the loss arrives drops the last handle. -/
theorem isOrphaned_act_of_lost {time : Nat} {act : Act} (lost : (time, none) ∈ arrivals t.now t.handles [act]) :
    (t.act act).isOrphaned = true := by
  cases act with
  | send handle signals => simp [arrivals] at lost
  | sleep duration => cases lost
  | clone handle => cases lost
  | drop handle =>
    rw [arrivals] at lost
    split at lost
    · rename_i held
      simp only at lost
      split at lost
      · cases lost
      · rename_i none
        rw [Timeline.act, if_pos held, Timeline.drop, isOrphaned, (clock_settle _).2]
        simpa using none
    · cases lost

/-- When the last handle is lost, none is held ever after. -/
theorem isOrphaned_of_lost {time : Nat} (lost : (time, none) ∈ arrivals t.now t.handles acts) :
    (t.play acts).isOrphaned = true := by
  induction acts generalizing t with
  | nil => cases lost
  | cons act acts ih =>
    rw [arrivals_cons] at lost
    obtain lost | lost := List.mem_append.mp lost
    · exact isOrphaned_play (isOrphaned_act_of_lost lost) acts
    · exact ih lost

theorem firstStop?_isSome_iff : (firstStop? arrived).isSome ↔ ∃ time, (time, some .stop) ∈ arrived := by
  simp [firstStop?]

/-- As long as a handle is held, a debouncer has ended exactly if it has been told to stop and the action that ran
then is over. -/
theorem Tracks.isOver_iff (hw : 0 < w) (tracks : Tracks w d t arrived)
    (held : ∀ time, (time, none) ∉ arrived) : IsOver d t arrived ↔ t.isRunning = false := by
  cases tracks with
  | @running done waiting running settled =>
    rw [isRunning, running.isRunning]
    simp only [Bool.true_eq_false, iff_false]
    rintro ⟨stop, hstop, finished⟩
    -- a stop among the signals waits for the action that ran when it came
    obtain ⟨x, hfind, rfl⟩ := Option.map_eq_some_iff.mp hstop
    have hx : x.2 = some .stop := by simpa using List.find?_some hfind
    have hwaits : x ∈ waiting := by
      refine (List.mem_append.mp (List.mem_of_find?_eq_some hfind)).resolve_left fun hdone => ?_
      rw [running.requests x hdone] at hx
      cases hx
    obtain rfl | ⟨start, hphase⟩ := settled
    · cases hwaits
    have stand := running.stand
    rw [hphase] at stand
    cases stand with
    | @acting last _ before marks runs later begun ahead started meantime =>
      have hstart : start ∈ t.starts := by
        rw [starts, marks, Mark.starts_start]
        exact List.mem_append_right _ List.mem_cons_self
      have harrived := running.arrived x hwaits
      have hend := finished start hstart (meantime x hwaits) (Nat.lt_of_le_of_lt harrived ahead)
      omega
  | ended ended =>
    obtain ⟨last, runs, rested⟩ := ended.runs
    have hstopped : t.isRunning = false := by simp [isRunning, Debouncer.isRunning, ended.phase]
    refine iff_of_true ?_ hstopped
    -- it has ended by a signal that is no request, and the last handle is not lost
    obtain ⟨⟨time, signal⟩, hx, hne⟩ := ended.exists_ne hw
    have hstop : (time, some .stop) ∈ arrived := by
      cases signal with
      | none => exact absurd hx (held time)
      | some signal =>
        cases signal with
        | request => exact absurd rfl hne
        | stop => exact hx
    obtain ⟨stop, hfirst⟩ := Option.isSome_iff_exists.mp (firstStop?_isSome_iff.mpr ⟨time, hstop⟩)
    exact ⟨stop, hfirst, fun s hs _ _ => Nat.le_trans (runs.starts_le s hs) rested⟩

/-! ### After the end -/

/-- A debouncer that has ended takes no notice of what is done. -/
theorem debouncer_act_of_stopped (stopped : t.debouncer.phase = .stopped) (act : Act) :
    (t.act act).debouncer = t.debouncer := by
  cases act with
  | send handle signals =>
    rw [Timeline.act]
    split
    · rw [Timeline.send, foldl_send_of_stopped stopped, settle_of_stopped (by exact stopped)]
    · rfl
  | sleep duration =>
    have hn : t.nextEvent = none := by rw [nextEvent, stopped]
    rw [Timeline.act, sleep, runUntil]
    split
    · rename_i h
      rw [hn] at h
      cases h
    · rfl
  | clone handle =>
    rw [Timeline.act]
    split <;> rfl
  | drop handle =>
    rw [Timeline.act]
    split
    · rw [Timeline.drop, settle_of_stopped (by exact stopped)]
    · rfl

/-- A debouncer that has ended changes no more whatever is done. -/
theorem debouncer_play_of_stopped (stopped : t.debouncer.phase = .stopped) (acts : List Act) :
    (t.play acts).debouncer = t.debouncer := by
  induction acts generalizing t with
  | nil => rfl
  | cons act acts ih =>
    have hact := debouncer_act_of_stopped stopped act
    exact (ih (by rw [hact, stopped])).trans hact

/-! ### Which handle is used -/

/-- Between two acts there is nothing to settle. -/
theorem Tracks.settle_eq (tracks : Tracks w d t arrived) : t.settle = t := by
  cases tracks with
  | @running done waiting running settled =>
    apply settle_of_none
    by_cases hacting : ∃ start, t.debouncer.phase = .acting start
    · obtain ⟨start, hphase⟩ := hacting
      rw [Debouncer.next, hphase]
    -- nothing waits, so there is nothing to take up
    obtain rfl := settled.resolve_right hacting
    have hqueue := running.queue
    rw [running.next_eq_takeUp fun start hstart => hacting ⟨start, hstart⟩]
    unfold takeUp
    generalize t.debouncer.queue = queue at hqueue
    generalize t.isOrphaned = orphaned at hqueue
    cases hqueue with
    | nil => rfl
  | ended ended => exact settle_of_stopped ended.phase

/-- One step of taking all moves. -/
theorem settle_eq (t : Timeline) : t.settle =
    match t.debouncer.next t.now t.isOrphaned with
    | none => t
    | some (.stop, debouncer) => { t with debouncer }
    | some (.arm _, debouncer) => settle { t with debouncer }
    | some (.start, debouncer) =>
      let started := { t with debouncer, marks := .start t.now :: t.marks }
      if t.duration = 0 then settle started.finish else started := by
  rw [Timeline.settle]
  split <;> simp [*]

/-- One step of letting time pass. -/
theorem runUntil_eq (t : Timeline) (limit : Nat) : t.runUntil limit =
    match t.nextEvent with
    | some time => if time ≤ limit then (t.occur time).runUntil limit else { t with now := limit }
    | none => { t with now := limit } := by
  rw [Timeline.runUntil]
  split <;> simp [*]

/-- With all handles put into one, the next move is the same. -/
theorem next_alone (t : Timeline) :
    t.alone.debouncer.next t.alone.now t.alone.isOrphaned = t.debouncer.next t.now t.isOrphaned := by
  simp [alone, isOrphaned]

/-- A debouncer moves alike with one handle and with many. -/
theorem alone_settle (t : Timeline) : t.settle.alone = t.alone.settle := by
  fun_induction Timeline.settle t with
  | case1 t hn => rw [settle_eq t.alone, next_alone, hn]
  | case2 t debouncer hn =>
    rw [settle_eq t.alone, next_alone, hn]
    rfl
  | case3 t deadline debouncer hn ih =>
    rw [settle_eq t.alone, next_alone, hn]
    exact ih
  | case4 t debouncer hn started hd ih =>
    rw [settle_eq t.alone, next_alone, hn]
    exact ih.trans (if_pos hd).symm
  | case5 t debouncer hn started hd =>
    rw [settle_eq t.alone, next_alone, hn]
    exact (if_neg hd).symm

/-- With all handles put into one, the same happens by itself. -/
theorem alone_occur (t : Timeline) (time : Nat) : (t.occur time).alone = t.alone.occur time := by
  have hphase : t.alone.debouncer.phase = t.debouncer.phase := rfl
  simp only [Timeline.occur, hphase]
  split
  · exact alone_settle (finish { t with now := time })
  · exact alone_settle { t with now := time }

/-- With all handles put into one, the same happens while time passes. -/
theorem alone_runUntil (t : Timeline) (limit : Nat) : (t.runUntil limit).alone = t.alone.runUntil limit := by
  have hevent (t : Timeline) : t.alone.nextEvent = t.nextEvent := rfl
  fun_induction Timeline.runUntil t limit with
  | case1 t time hn hdue ih =>
    rw [ih, alone_occur, runUntil_eq t.alone, hevent, hn]
    exact (if_pos hdue).symm
  | case2 t time hn hdue =>
    rw [runUntil_eq t.alone, hevent, hn]
    exact (if_neg hdue).symm
  | case3 t hn =>
    rw [runUntil_eq t.alone, hevent, hn]
    rfl

/-- What is done through one handle of many, or to it, is done to the same effect through a single one, or not at
all. -/
theorem Tracks.alone_act (tracks : Tracks w d t arrived) (act : Act) :
    (t.act act).alone = t.alone.play (plain t.handles [act]) := by
  -- signals go through the one handle instead, a clone is none, and a drop counts if it is the last
  cases act with
  | send handle signals =>
    rw [Timeline.act, plain]
    split
    · rename_i held
      have hsend := alone_settle { t with debouncer := signals.foldl Debouncer.send t.debouncer }
      have hheld : isHeld t.alone.handles 0 := by
        rw [alone, any_of_isHeld held]
        rfl
      exact hsend.trans (if_pos hheld).symm
    · rfl
  | sleep duration => exact alone_runUntil t _
  | clone handle =>
    rw [Timeline.act]
    split
    · rename_i held
      show Timeline.alone { t with handles := t.handles ++ [true] } = t.alone
      simp [alone, any_of_isHeld held]
    · rfl
  | drop handle =>
    rw [Timeline.act, plain]
    split
    · rename_i held
      have hdrop := alone_settle { t with handles := t.handles.set handle false }
      have hany := any_of_isHeld held
      simp only
      split
      -- a handle is left, so nothing happens that would not happen by itself
      · rename_i left
        have hsame : Timeline.alone { t with handles := t.handles.set handle false } = t.alone := by
          simp only [alone, left, hany]
        have hsettle := alone_settle t
        rw [tracks.settle_eq] at hsettle
        rw [hsame, ← hsettle] at hdrop
        exact hdrop
      · rename_i none
        have hheld : isHeld t.alone.handles 0 := by
          rw [alone, hany]
          rfl
        have hsame : Timeline.alone { t with handles := t.handles.set handle false } =
            { t.alone with handles := t.alone.handles.set 0 false } := by
          rw [Bool.not_eq_true] at none
          simp only [alone, none, List.set_cons_zero]
        rw [hsame] at hdrop
        exact hdrop.trans (if_pos hheld).symm
    · rfl

/-- Acts in a row are put to the one handle in a row. -/
theorem plain_cons (t : Timeline) (act : Act) (acts : List Act) :
    plain t.handles (act :: acts) = plain t.handles [act] ++ plain (t.act act).handles acts := by
  cases act with
  | send handle signals =>
    rw [Timeline.act, plain, plain]
    split
    · rw [Timeline.send, (clock_settle _).2]
      rfl
    · rfl
  | sleep duration =>
    rw [Timeline.act, Timeline.sleep, (clock_runUntil _ _).2]
    rfl
  | clone handle =>
    rw [Timeline.act, plain, plain]
    split <;> rfl
  | drop handle =>
    rw [Timeline.act, plain, plain]
    split
    · rw [Timeline.drop, (clock_settle _).2]
      simp only
      split <;> rfl
    · rfl

/-- All that is done is done to the same effect through a single handle. -/
theorem Tracks.alone_play (hw : 0 < w) (tracks : Tracks w d t arrived) (acts : List Act) :
    (t.play acts).alone = t.alone.play (plain t.handles acts) := by
  induction acts generalizing t arrived with
  | nil => rfl
  | cons act acts ih =>
    have hrest := ih (tracks.act hw act)
    rw [plain_cons, Timeline.play, Timeline.play, List.foldl_append]
    show _ = (t.alone.play (plain t.handles [act])).play _
    rw [← tracks.alone_act act]
    exact hrest

/-! ### When the action ends -/

/-- To take all moves only adds marks. -/
theorem marks_settle (t : Timeline) : t.marks <:+ t.settle.marks := by
  fun_induction Timeline.settle t with
  | case1 t hn => exact List.suffix_rfl
  | case2 t debouncer hn => exact List.suffix_rfl
  | case3 t deadline debouncer hn ih => exact ih
  | case4 t debouncer hn started hd ih =>
    have hstarted : t.marks <:+ .start t.now :: t.marks := List.suffix_cons _ _
    have hfinished : t.marks <:+ started.finish.marks := hstarted.trans (List.suffix_cons _ _)
    exact hfinished.trans ih
  | case5 t debouncer hn started hd => exact List.suffix_cons _ _

theorem marks_occur (t : Timeline) (time : Nat) : t.marks <:+ (t.occur time).marks := by
  unfold Timeline.occur
  split
  · exact (List.suffix_cons _ _).trans (marks_settle (finish { t with now := time }))
  · exact marks_settle { t with now := time }

theorem marks_runUntil (t : Timeline) (limit : Nat) : t.marks <:+ (t.runUntil limit).marks := by
  fun_induction Timeline.runUntil t limit with
  | case1 t time hn hdue ih => exact (marks_occur t time).trans ih
  | case2 t time hn hdue => exact List.suffix_rfl
  | case3 t hn => exact List.suffix_rfl

/-- An act only adds marks. -/
theorem marks_act (t : Timeline) (act : Act) : t.marks <:+ (t.act act).marks := by
  cases act with
  | send handle signals =>
    rw [Timeline.act]
    split
    · exact marks_settle { t with debouncer := signals.foldl Debouncer.send t.debouncer }
    · exact List.suffix_rfl
  | sleep duration => exact marks_runUntil t _
  | clone handle =>
    rw [Timeline.act]
    split <;> exact List.suffix_rfl
  | drop handle =>
    rw [Timeline.act]
    split
    · exact marks_settle { t with handles := t.handles.set handle false }
    · exact List.suffix_rfl

/-- What has been noted stays so. -/
theorem marks_play (t : Timeline) (acts : List Act) : t.marks <:+ (t.play acts).marks := by
  induction acts generalizing t with
  | nil => exact List.suffix_rfl
  | cons act acts ih => exact (marks_act t act).trans (ih (t.act act))

theorem starts_play (t : Timeline) (acts : List Act) : t.starts <+: (t.play acts).starts :=
  List.reverse_prefix.mpr ((marks_play t acts).filterMap Mark.start?)

/-- Each run of the action ends as long after its start as the action takes. -/
theorem Runs.finishes_eq {marks : List Mark} {last : Nat} (runs : Runs w d marks last) :
    Mark.finishes marks = (Mark.starts marks).map (· + d) := by
  induction runs with
  | nil => rfl
  | @cons marks last start before later ih =>
    rw [Mark.finishes_finish, Mark.finishes_start, Mark.starts_finish, Mark.starts_start, ih, List.map_append,
      List.map_singleton]

theorem Runs.filter_ended {marks : List Mark} {last now : Nat} (runs : Runs w d marks last) (rested : last ≤ now) :
    (Mark.starts marks).filter (· + d ≤ now) = Mark.starts marks := by
  rw [List.filter_eq_self]
  exact fun s hs => decide_eq_true (Nat.le_trans (runs.starts_le s hs) rested)

/-- All starts but the newest one have been followed by an end, and so has that one once its time is over. -/
theorem Alternate.finishes_eq (alternate : Alternate w d t) :
    t.finishes = (t.starts.filter (· + d ≤ t.now)).map (· + d) := by
  obtain ⟨last, ⟨runs, rested⟩ | ⟨start, before, marks, runs, later, begun, ahead⟩⟩ := alternate
  · rw [finishes, starts, runs.filter_ended rested, runs.finishes_eq]
  · have hbefore := runs.filter_ended (show last ≤ t.now by omega)
    rw [finishes, starts, marks, Mark.finishes_start, Mark.starts_start, List.filter_append, hbefore,
      runs.finishes_eq]
    simp [ahead]

/-- A run of the action has ended when its time is over. -/
theorem mem_finishes_iff (alternate : Alternate w d t) {s : Nat} (hs : s ∈ t.starts) :
    s + d ∈ t.finishes ↔ s + d ≤ t.now := by
  rw [alternate.finishes_eq, List.mem_map]
  constructor
  · rintro ⟨s', hs', heq⟩
    rw [← heq]
    exact of_decide_eq_true (List.mem_filter.mp hs').2
  · exact fun hle => ⟨s, List.mem_filter.mpr ⟨hs, decide_eq_true hle⟩, rfl⟩

/-! ### The whole run -/

/-- Whatever is done, handles make no difference but that the last one is lost. -/
theorem lifecycle_of_play {w : Nat} (hw : 0 < w) (d : Nat) (acts : List Act) :
    Lifecycle w d acts ((create w d).play acts) where
  answers handle held := by
    have tracks := tracks_of_play hw d acts
    have hover := tracks.isOver_iff hw fun time lost => by
      have orphaned := isOrphaned_of_lost (t := create w d) lost
      rw [isOrphaned_of_isHeld held] at orphaned
      cases orphaned
    rw [hover, answer?, if_pos held]
    cases ((create w d).play acts).isRunning with
    | false => exact .inl ⟨rfl, rfl⟩
    | true => exact .inr ⟨rfl, by simp⟩
  final handle hanswer more handle' := by
    have hstopped : ((create w d).play acts).debouncer.phase = .stopped := by
      rw [answer?, Option.ite_none_right_eq_some, Option.some.injEq] at hanswer
      simpa [isRunning, Debouncer.isRunning] using hanswer.2
    rw [answer?, isRunning, debouncer_play_of_stopped hstopped more, Debouncer.isRunning, hstopped]
    simp
  alike := (tracks_create w d).alone_play hw acts
  finishes := (tracks_of_play hw d acts).alternate.finishes_eq
  ends s hs more := by
    -- a start is never taken back
    have hlater := (starts_play _ more).subset hs
    have tracks := tracks_of_play hw d (acts ++ more)
    rw [Timeline.play, List.foldl_append] at tracks
    exact ⟨hlater, mem_finishes_iff tracks.alternate hlater⟩

/-- The second of two handles is left, and sends a stop while the action runs that the first one has asked for. -/
def handedOver : List Act :=
  [.send 0 [.request], .clone 0, .sleep 10, .drop 0, .send 1 [.request, .stop, .request], .sleep 2]

/-- With a window of 10 and an action of 3, signals are accepted until 13, when the action is over. -/
theorem lifecycle_of_handedOver : Lifecycle 10 3 handedOver ((create 10 3).play handedOver) ∧
    ((create 10 3).play handedOver).answer? 1 = some true ∧
      (((create 10 3).play handedOver).play [.sleep 1]).answer? 1 = some false ∧
        (((create 10 3).play handedOver).play [.drop 1, .sleep 20]).finishes = [13] :=
  ⟨lifecycle_of_play (by decide) 3 handedOver, by decide +kernel, by decide +kernel, by decide +kernel⟩

end Scoreboard.Timeline
