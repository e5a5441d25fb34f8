import Scoreboard.Proofs.Host.Attended
import Scoreboard.Proofs.Host.Journal

/-!
# Traces of a driver

In a trace anything may be asked for at any time. A driver keeps to a rule about what it asks for, and when
(`Driven`). The driver of a virtual clock asks for the next thing only when nothing is due (`Clocked`), and so does
every run that is driven (`clocked_of_drive`).

With such a driver a request that waits for its turn has been asked for at this very instant, since the debouncers
were last seen to. So whatever window a debouncer has that is not empty, its deadline is still to come when a
request has its turn (`Clocked.early`).
-/

namespace Scoreboard

/-- Whether a turn begins a request other than an operation. -/
def Turn.isRequest : Turn → Bool
  | .begin _ (.operate ..) => false
  | .begin .. => true
  | _ => false

namespace Host

/-- Steps with the turns taken, where something is asked for only if a rule allows it. -/
inductive Driven (asks : Host → Request → Prop) (h : Host) : List Taken → Host → Prop where
  | refl : Driven asks h [] h
  | turn {past : List Taken} {h' h'' : Host} {s : Taken} (driven : Driven asks h past h')
      (step : Step h' (some s) h'') : Driven asks h (s :: past) h''
  | ask {past : List Taken} {h' : Host} {request : Request} (driven : Driven asks h past h')
      (allowed : asks h' request) : Driven asks h past (h'.ask request)
  /-- Time passes, or the console changes its ways. -/
  | rest {past : List Taken} {h' h'' : Host} (driven : Driven asks h past h') (step : Step h' none h'')
      (tasks : h''.tasks = h'.tasks) : Driven asks h past h''

/-- Whether nothing is due. -/
def Idle (h : Host) : Prop := ∀ t ∈ h.tasks, h.now < t.due

/-- The traces in which something is asked for only when nothing is due. -/
abbrev Clocked : Host → List Taken → Host → Prop := Driven fun h _ => h.Idle

/-- The tasks to begin a request. -/
def requests (h : Host) : List Task := h.tasks.filter (·.turn.isRequest)

variable {asks : Host → Request → Prop} {a h h' : Host} {past recent older : List Taken} {s : Taken} {i : Nat}
  {t : Turn} {u : Task}

/-! ### Traces of a driver are traces -/

/-- A driven run is a trace. -/
theorem Driven.trace (driven : Driven asks a past h) : Trace a past h := by
  induction driven with
  | refl => exact .refl
  | turn _ step ih => exact ih.tail step
  | ask _ _ ih => exact ih.tail (.ask _)
  | rest _ step _ ih => exact ih.tail step

/-- Two driven runs make one, if the second begins where the first ends. -/
theorem Driven.trans {b c : Host} (hab : Driven asks a past b) (hbc : Driven asks b recent c) :
    Driven asks a (recent ++ past) c := by
  induction hbc with
  | refl => exact hab
  | turn _ step ih => exact .turn ih step
  | ask _ allowed ih => exact .ask ih allowed
  | rest _ step tasks ih => exact .rest ih step tasks

theorem Driven.cut (driven : Driven asks a past h) (hpast : past = recent ++ s :: older) :
    ∃ before after, Driven asks a older before ∧ Step before (some s) after ∧ Driven asks after recent h := by
  -- the cut is at a turn, so the other steps belong to the part after it
  induction driven generalizing recent with
  | refl => exact absurd hpast (by simp)
  | @turn past h' h'' last driven step ih =>
    cases recent with
    | nil =>
      obtain ⟨rfl, rfl⟩ := List.cons.inj hpast
      exact ⟨h', h'', driven, step, .refl⟩
    | cons last' recent =>
      obtain ⟨rfl, rfl⟩ := List.cons.inj hpast
      obtain ⟨before, after, hbefore, hstep, hafter⟩ := ih rfl
      exact ⟨before, after, hbefore, hstep, hafter.turn step⟩
  | ask _ allowed ih =>
    obtain ⟨before, after, hbefore, hstep, hafter⟩ := ih hpast
    exact ⟨before, after, hbefore, hstep, hafter.ask allowed⟩
  | rest _ step tasks ih =>
    obtain ⟨before, after, hbefore, hstep, hafter⟩ := ih hpast
    exact ⟨before, after, hbefore, hstep, hafter.rest step tasks⟩

/-- What is clocked is so with every journal, and adds the same entries. -/
theorem Clocked.of_journal (clocked : Clocked a past h) (journal : List Entry) :
    ∃ past' news, past'.map (·.turn) = past.map (·.turn) ∧ h.journal = news ++ a.journal ∧
      Clocked { a with journal } past' { h with journal := news ++ journal } := by
  -- no step reads the journal, so each can be taken with another one
  induction clocked with
  | refl => exact ⟨[], [], rfl, rfl, .refl⟩
  | turn _ step ih =>
    obtain ⟨past', news, turns, added, clocked⟩ := ih
    obtain ⟨taken, news', turn, added', step⟩ := step.of_journal (news ++ journal)
    obtain ⟨s', rfl, hturn⟩ := Option.map_eq_some_iff.mp turn
    refine ⟨s' :: past', news' ++ news, by rw [List.map_cons, hturn, turns, List.map_cons], ?_, ?_⟩
    · rw [added', added, List.append_assoc]
    · rw [List.append_assoc]
      exact .turn clocked step
  | ask _ idle ih =>
    obtain ⟨past', news, turns, added, clocked⟩ := ih
    exact ⟨past', news, turns, added, .ask clocked idle⟩
  | rest _ step tasks ih =>
    obtain ⟨past', news, turns, added, clocked⟩ := ih
    obtain ⟨taken, news', turn, added', step⟩ := step.of_journal (news ++ journal)
    obtain rfl := Option.map_eq_none_iff.mp turn
    refine ⟨past', news' ++ news, turns, ?_, ?_⟩
    · rw [added', added, List.append_assoc]
    · rw [List.append_assoc]
      exact .rest clocked step tasks

/-! ### Runs are driven -/

/-- Letting the next turn or point in time come is a driven run. -/
theorem driven_of_advance (hh : h.advance = some h') : ∃ past, Driven asks h past h' := by
  unfold advance at hh
  split at hh
  · rename_i next hturn
    cases hh
    simp only [turn?, Option.map_eq_some_iff, Prod.exists] at hturn
    obtain ⟨t, rest, ht, rfl⟩ := hturn
    obtain ⟨due, before, after, mem, rfl⟩ := Task.takeDue_eq_some ht
    exact ⟨_, .turn .refl (.turn mem due)⟩
  · rename_i idle
    split at hh
    · have htasks : h'.tasks = h.tasks := by
        obtain ⟨due, -, rfl⟩ := Option.map_eq_some_iff.mp hh
        rfl
      exact ⟨_, .rest .refl (step_of_pass? idle hh) htasks⟩
    · cases hh

/-- Letting the tasks settle is a driven run. -/
theorem driven_of_settle {steps : Nat} (hh : settle steps h = some h') : ∃ past, Driven asks h past h' := by
  induction steps generalizing h with
  | zero => cases hh
  | succ steps ih =>
    rw [settle] at hh
    split at hh
    · rename_i next hnext
      obtain ⟨past, first⟩ := driven_of_advance hnext
      obtain ⟨recent, later⟩ := ih hh
      exact ⟨recent ++ past, first.trans later⟩
    · cases hh
      exact ⟨[], .refl⟩

/-- Making a request and letting the tasks settle is a driven run, if the request may be made. -/
theorem driven_of_drive {steps : Nat} {request : Request} (allowed : asks h request)
    (hh : drive steps h request = some h') : ∃ past, Driven asks h past h' := by
  obtain ⟨past, later⟩ := driven_of_settle hh
  exact ⟨past ++ [], (Driven.ask .refl allowed).trans later⟩

/-- What is driven from where a run has come to an end is clocked, and comes to an end again. -/
theorem clocked_of_drive {steps : Nat} {request : Request} (ended : h.advance = none)
    (driven : drive steps h request = some h') : (∃ past, Clocked h past h') ∧ h'.advance = none :=
  ⟨driven_of_drive (advance_eq_none_iff.mp ended).1 driven, advance_of_settle driven⟩

/-- What is asked for where nothing is due has its turn at once. -/
theorem clocked_of_idle (idle : h.Idle) (request : Request) :
    Clocked h [⟨h, .begin .foreground request⟩] (h.perform (.begin .foreground request)) := by
  have step : Step (h.ask request) (some ⟨{ h with tasks := h.tasks ++ [] }, .begin .foreground request⟩)
      (Host.perform { h with tasks := h.tasks ++ [] } (.begin .foreground request)) :=
    .turn (t := ⟨h.now, .begin .foreground request⟩) rfl (Nat.le_refl h.now)
  rw [List.append_nil] at step
  exact .turn (.ask .refl idle) step

/-! ### Requests that wait -/

/-- The only request that a turn leaves is one that it has been asked to have run beside other things. -/
theorem isRequest_of_leaves {u : Turn} (hu : u ∈ h.leaves t) (request : u.isRequest) :
    t.isRequest ∧ h.wait t u = 0 := by
  rw [leaves, List.mem_append, List.mem_append] at hu
  -- fires and replies are no requests, and of what follows only the hand-over of a spawned one is
  obtain (hheard | hhanded) | hfollow := hu
  · obtain ⟨f, -, rfl⟩ := List.mem_map.mp (List.mem_reverse.mp hheard)
    cases request
  · rcases hs : h.stretch? t with _ | ⟨origin, i, o⟩
    · rw [hs] at hhanded
      cases hhanded
    · rw [hs, Option.elim_some, handsOn] at hhanded
      split at hhanded
      · cases List.mem_singleton.mp hhanded
        cases request
      · cases List.mem_singleton.mp hhanded
        cases request
      · cases hhanded
  · unfold follow at hfollow
    split at hfollow
    · cases List.mem_singleton.mp hfollow
      cases request
    · cases List.mem_singleton.mp hfollow
      exact ⟨rfl, rfl⟩
    · split at hfollow
      · cases List.mem_singleton.mp hfollow
        cases request
      · cases hfollow
    · cases hfollow

/-- A request that waits after a turn has waited before, or the turn was a request that left it, due at once. -/
theorem mem_requests_perform (hu : u ∈ (h.perform t).requests) :
    u ∈ h.requests ∨ t.isRequest ∧ u.due = h.now := by
  obtain ⟨hu, request⟩ := List.mem_filter.mp hu
  have work : u.turn.isWork := by
    by_contra rests
    obtain ⟨i, hturn⟩ := Turn.exists_of_not_isWork rests
    rw [hturn] at request
    cases request
  obtain ⟨hleaves, hdue⟩ | hold := mem_work_perform (mem_work.mpr ⟨hu, work⟩)
  · obtain ⟨hrequest, hwait⟩ := isRequest_of_leaves hleaves request
    exact .inr ⟨hrequest, by rw [hdue, hwait, Nat.add_zero]⟩
  · exact .inl (List.mem_filter.mpr ⟨(mem_work.mp hold).1, request⟩)

/-! ### Deadlines are to come -/

/-- Whether a debouncer's deadline is still to come where a request waits, which is due then. -/
structure Early (i : Nat) (h : Host) : Prop where
  due : ∀ u ∈ h.requests, u.due ≤ h.now
  deadline : h.requests ≠ [] → ∀ e deadline, h.engines[i]? = some e → e.debouncer.phase = .armed deadline →
    h.now < deadline

/-- A deadline has been there before a turn, or is a window away. -/
theorem deadline_perform {e' : Engine} {deadline : Nat} (he' : (h.perform t).engines[i]? = some e')
    (phase : e'.debouncer.phase = .armed deadline) :
    (∃ e, h.engines[i]? = some e ∧ e.debouncer.phase = .armed deadline) ∨
      deadline = h.now + e'.debouncer.window := by
  rcases he : h.engines[i]? with _ | e
  -- a new engine's debouncer has no deadline
  · obtain hnone | ⟨config, hnew⟩ := getElem?_perform_of_none he t
    · cases he'.symm.trans hnone
    · cases he'.symm.trans hnew
      cases phase
  obtain ⟨_, hafter, -, hwindow, -⟩ := exists_perform he t
  cases he'.symm.trans hafter
  rw [hwindow]
  -- signals and the end of the action leave the deadline, and only a request that is taken up sets one
  have hdeadline : ∀ deadline, e'.debouncer.phase = .armed deadline →
      e.debouncer.phase = .armed deadline ∨ deadline = h.now + e.debouncer.window := by
    refine debouncer_perform (P := fun d => ∀ deadline, d.phase = .armed deadline →
      e.debouncer.phase = .armed deadline ∨ deadline = h.now + e.debouncer.window) he he' (fun _ => .inl)
      (fun d signal before deadline phase => ?_) (fun d before deadline phase => ?_)
      fun orphaned move d hn deadline phase => ?_
    · rw [d.phase_send] at phase
      exact before deadline phase
    · rw [Debouncer.finish] at phase
      split at phase
      · cases phase
      · exact before deadline phase
    · cases Debouncer.makes_of_next hn with
      | start _ _ => cases phase
      | arm _ _ =>
        cases phase
        exact .inr rfl
      | stop _ _ same =>
        rw [same] at phase
        cases phase
  exact (hdeadline deadline phase).imp_left fun armed => ⟨e, rfl, armed⟩

/-- The turn of a task keeps it that requests are taken up at once and that no deadline elapses while one waits. -/
theorem Early.perform {before after : List Task} {t : Task} (early : Early i h)
    (mem : h.tasks = before ++ t :: after)
    (window : ∀ e, ({ h with tasks := before ++ after }.perform t.turn).engines[i]? = some e →
      0 < e.debouncer.window) : Early i ({ h with tasks := before ++ after }.perform t.turn) := by
  let rest : Host := { h with tasks := before ++ after }
  have hnow : (rest.perform t.turn).now = h.now := now_perform rest t.turn
  have hrest : ∀ u ∈ rest.requests, u ∈ h.requests := by
    intro u hu
    obtain ⟨hu, hrequest⟩ := List.mem_filter.mp hu
    refine List.mem_filter.mpr ⟨?_, hrequest⟩
    rw [mem, List.mem_append, List.mem_cons]
    exact (List.mem_append.mp hu).imp_right .inr
  have hwaited : (rest.perform t.turn).requests ≠ [] → h.requests ≠ [] := by
    intro hne
    obtain ⟨u, hu⟩ := List.exists_mem_of_ne_nil _ hne
    obtain hold | ⟨hrequest, -⟩ := mem_requests_perform hu
    · exact List.ne_nil_of_mem (hrest u hold)
    · have htask : t ∈ h.tasks := by
        rw [mem]
        exact List.mem_append_right before List.mem_cons_self
      exact List.ne_nil_of_mem (List.mem_filter.mpr ⟨htask, hrequest⟩)
  show Early i (rest.perform t.turn)
  -- requests left are due at once, and a deadline that this turn sets is a whole window ahead
  refine ⟨fun u hu => ?_, fun hne e deadline he phase => ?_⟩
  · rw [hnow]
    obtain hold | ⟨-, hdue⟩ := mem_requests_perform hu
    · exact early.due u (hrest u hold)
    · exact hdue.le
  · rw [hnow]
    obtain ⟨e', he', hphase⟩ | hnew := deadline_perform he phase
    · exact early.deadline (hwaited hne) e' deadline he' hphase
    · have hwindow := window e he
      have hstart : rest.now = h.now := rfl
      omega

/-- Where nothing is due, no deadline has come that the debouncer has not seen to. -/
theorem Attended.early_of_idle (attended : Attended h) (idle : h.Idle) {e : Engine} {deadline : Nat}
    (he : h.engines[i]? = some e) (phase : e.debouncer.phase = .armed deadline) : h.now < deadline := by
  by_contra late
  have moves : (e.debouncer.next h.now !(h.isAlive i)).isSome := by
    unfold Debouncer.next
    rw [phase]
    simp [Nat.le_of_not_lt late]
  obtain ⟨u, hu, -, due⟩ := isAttended_iff.mp (attended.moves i e he moves)
  exact absurd due (Nat.not_le.mpr (idle u hu))

/-- In a clocked trace, a deadline is still to come where a request waits for its turn. -/
theorem Clocked.early {latency : Nat} {rules : List Rule} {draws : Draws} {config : Config}
    (clocked : Clocked (start latency rules draws config) past h)
    (window : ∀ e, h.engines[i]? = some e → 0 < e.debouncer.window) : Early i h := by
  -- the window is one at the end, and no step before it has changed any
  induction clocked with
  | refl => exact ⟨by simp [requests, start, create], fun hne => absurd rfl hne⟩
  | @turn past h h' s driven step ih =>
    have hbefore : ∀ e, h.engines[i]? = some e → 0 < e.debouncer.window := by
      intro e he
      rw [← step.engines_of_some.1] at he
      obtain ⟨e', he', -, hwindow, -⟩ := exists_perform he s.turn
      rw [← step.of_some.1] at he'
      rw [← hwindow]
      exact window e' he'
    cases step with
    | turn mem due => exact (ih hbefore).perform mem window
  | @ask past h request driven idle ih =>
    have attended := driven.trace.attended
    refine ⟨fun u hu => ?_, fun _ e deadline he phase => attended.early_of_idle idle he phase⟩
    obtain ⟨hu, hrequest⟩ := List.mem_filter.mp hu
    obtain hu | hu := List.mem_append.mp hu
    · exact (ih window).due u (List.mem_filter.mpr ⟨hu, hrequest⟩)
    · rw [List.mem_singleton.mp hu]
      exact Nat.le_refl h.now
  | @rest past h h' driven step tasks ih =>
    rw [step.engines_of_none] at window
    have before := ih window
    have hrequests : h'.requests = h.requests := by rw [requests, tasks, requests]
    cases step with
    | @pass time later early =>
      -- a request that waits is due, so time stands still
      have hstill : h.requests ≠ [] → time ≤ h.now := by
        intro hne
        obtain ⟨u, hu⟩ := List.exists_mem_of_ne_nil _ hne
        exact (early u (List.mem_filter.mp hu).1).trans (before.due u hu)
      refine ⟨fun u hu => (before.due u hu).trans later, fun hne e deadline he phase => ?_⟩
      exact Nat.lt_of_le_of_lt (hstill hne) (before.deadline hne e deadline he phase)
    | ask request => simp [ask, schedule] at tasks
    | respond _ => exact ⟨before.due, before.deadline⟩
    | delay _ => exact ⟨before.due, before.deadline⟩

/-- In a clocked trace, a debouncer's deadline is still to come when a request has its turn. -/
theorem Clocked.early_of_step {latency : Nat} {rules : List Rule} {draws : Draws} {config : Config}
    (clocked : Clocked (start latency rules draws config) past h) (step : Step h (some s) h')
    (request : s.turn.isRequest) {e : Engine} {deadline : Nat} (he : h.engines[i]? = some e)
    (window : 0 < e.debouncer.window) (phase : e.debouncer.phase = .armed deadline) : h.now < deadline := by
  have hwindow : ∀ e', h.engines[i]? = some e' → 0 < e'.debouncer.window := by
    intro e' he'
    cases he.symm.trans he'
    exact window
  have hwaits : h.requests ≠ [] := by
    cases step with
    | @turn before after t mem due =>
      have htask : t ∈ h.tasks := by
        rw [mem]
        exact List.mem_append_right before List.mem_cons_self
      exact List.ne_nil_of_mem (List.mem_filter.mpr ⟨htask, request⟩)
  exact (clocked.early hwindow).deadline hwaits e deadline he phase

end Host

end Scoreboard
