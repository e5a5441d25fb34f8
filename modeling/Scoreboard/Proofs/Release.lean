import Scoreboard.Proofs.Host.Debounced
import Scoreboard.Proofs.Host.Held
import Scoreboard.Proofs.Host.Hops

/-!
# An engine that is let go of

When the last one outside lets go of an engine, what is under way still holds on to it. Main statement
(`letGo_of_trace`): from any point of a trace on, as long as nothing more is asked for of an engine, what is under
way there goes on as if somebody outside still held on to the engine; and if nothing is under way and nobody
outside holds on to it, the engine is dead. It sends nothing, hears nothing and never synchronises again, and its
debouncer has ended, or does so before any time passes (`LetGo`, `Dead`).

Nothing brings back a dead engine, since whatever holds on to one is left by a turn that holds on to it as well, or
by a line or a debouncer that finds it alive (`engine?_of_mem_leaves`).
-/

namespace Scoreboard.Host

/-- The traces in which nothing is asked for of an engine. -/
abbrev Unasked (i : Nat) : Host → List Taken → Host → Prop := Driven fun _ request => request.engine? ≠ some i

/-- What has become of an engine since a point from which on nobody holds on to it. -/
structure Dead (i : Nat) (a : Host) (recent : List Taken) (h : Host) : Prop where
  /-- Nobody ever holds on to it again. -/
  gone : ¬h.isAlive i ∧ ∀ s ∈ recent, s.turn.engine? ≠ some i
  /-- It sends no command, hears no line and hands no fire to a callback, and its debouncer starts no
  synchronisation. -/
  silent : ∀ s ∈ recent, (∀ origin stage commands reply, .sent i origin stage commands reply ∉ s.deeds) ∧
    s.heardBy i = [] ∧ (∀ callback fire, .call i callback fire ∉ s.leaves) ∧
      (s.turn = .attend i → s.host.startsSync i = false)
  /-- The callbacks that run are those that had been handed a fire, each once. -/
  calls : ran i recent + h.calling i = a.calling i
  /-- It remembers what it did. -/
  remembers : h.memory? i = a.memory? i
  /-- Its debouncer has ended, or it is being attended to and no time has passed. How often it has been says how
  much less often it will be. -/
  ends : ∀ e e', a.engines[i]? = some e → h.engines[i]? = some e' → e'.debouncer.phase = .stopped ∨
    h.now = a.now ∧ h.isAttended i ∧
      recent.countP (·.turn.attends i) + e'.debouncer.rank ≤ e.debouncer.rank

/-- What has become of an engine since a point from which on nothing is asked for of it. -/
structure LetGo (i : Nat) (a : Host) (recent : List Taken) (h : Host) : Prop where
  /-- What was under way is taken up before time passes beyond when it is due. -/
  prompt : ∀ u ∈ a.tasks, u.turn.isWork →
    (u ∈ h.tasks ∧ h.now ≤ max a.now u.due) ∨ ∃ s ∈ recent, s.turn = u.turn
  /-- Up to each turn that holds on to the engine, everything has happened as it does when somebody outside holds on
  to it as well, but that the debouncer may be attended to after the last such turn. -/
  kept : ∀ newer s earlier, recent = newer ++ s :: earlier → s.turn.engine? = some i →
    (∀ s' ∈ s :: earlier, ∀ origin, s'.turn ≠ .begin origin (.release i)) →
      ∃ held, Unasked i (a.hold i) ((s :: earlier).map (Taken.hold i)) held ∧
        ((s.host.perform s.turn).hold i = held ∨
          (s.host.perform s.turn).hold i = held.schedule s.host.now (.attend i))
  /-- If nobody holds on to it, it is dead. -/
  dies : ¬a.isAlive i → Dead i a recent h

variable {latency : Nat} {rules : List Rule} {draws : Draws} {config : Config} {a h h' : Host}
  {past recent older : List Taken} {s : Taken} {i : Nat} {e e' : Engine} {t t' : Turn}

/-! ### Who holds on to an engine -/

/-- The agenda has just the turns of the tasks that are work. -/
theorem mem_agenda_iff : t ∈ h.agenda ↔ t.isWork ∧ ∃ u ∈ h.tasks, u.turn = t := by
  rw [agenda, Multiset.mem_coe, List.mem_filter, List.mem_map]
  exact and_comm

/-- An engine lives just if somebody holds it, or something of the agenda does. -/
theorem isAlive_iff_agenda : h.isAlive i ↔
    (∃ e, h.engines[i]? = some e ∧ e.isHeld) ∨ ∃ t ∈ h.agenda, t.engine? = some i := by
  rw [isAlive_iff]
  refine or_congr_right ⟨fun ⟨u, hu, hengine⟩ => ?_, fun ⟨t, ht, hengine⟩ => ?_⟩
  · refine ⟨u.turn, mem_agenda_iff.mpr ⟨?_, u, hu, rfl⟩, hengine⟩
    cases hturn : u.turn with
    | attend j =>
      rw [hturn] at hengine
      cases hengine
    | _ => rfl
  · obtain ⟨-, u, hu, rfl⟩ := mem_agenda_iff.mp ht
    exact ⟨u, hu, hengine⟩

/-- A synchronisation is started for an engine that lives only. -/
theorem isAlive_of_startsSync (starts : h.startsSync i) : h.isAlive i := by
  unfold startsSync at starts
  split at starts
  · split at starts
    · exact starts
    · cases starts
  · cases starts

/-- A turn leaves something that holds on to an engine only if it does so itself or the engine is alive. -/
theorem engine?_of_mem_leaves (hleft : t' ∈ h.leaves t) (holds : t'.engine? = some i) :
    t.engine? = some i ∨ h.isAlive i := by
  rw [leaves, List.mem_append, List.mem_append] at hleft
  -- a dispatch goes to an engine that listens and lives, and what else is left is for the engine of the turn, or
  -- starts a synchronisation of one that lives
  obtain (hheard | hstretch) | hfollow := hleft
  · obtain ⟨f, hf, rfl⟩ := List.mem_map.mp (List.mem_reverse.mp hheard)
    cases holds
    obtain ⟨-, hengine | hlistens⟩ := exists_of_mem_heard hf
    · exact .inl hengine
    · exact .inr (List.mem_filter.mp hlistens).2
  · rcases hs : h.stretch? t with _ | ⟨origin, j, o⟩
    · rw [hs] at hstretch
      cases hstretch
    · rw [hs, Option.elim_some] at hstretch
      unfold handsOn at hstretch
      left
      rw [(engine?_of_stretch hs).1]
      split at hstretch
      · rw [List.mem_singleton.mp hstretch] at holds
        exact holds
      · rw [List.mem_singleton.mp hstretch] at holds
        cases holds
      · cases hstretch
  · unfold follow at hfollow
    split at hfollow
    · rw [List.mem_singleton.mp hfollow] at holds
      cases holds
    · rw [List.mem_singleton.mp hfollow] at holds
      exact .inl holds
    · split at hfollow
      · rename_i starts
        rw [List.mem_singleton.mp hfollow] at holds
        cases holds
        exact .inr (isAlive_of_startsSync starts)
      · cases hfollow
    · cases hfollow

/-- A turn does not bring an engine back. -/
theorem dead_of_step (known : (h.engines[i]?).isSome) (dead : ¬h.isAlive i) (step : Step h (some s) h') :
    s.turn.engine? ≠ some i ∧ ¬s.host.isAlive i ∧ ¬h'.isAlive i := by
  obtain ⟨rfl, -, -, hagenda⟩ := step.of_some
  have hengines := step.engines_of_some.1
  rw [isAlive_iff_agenda] at dead
  -- the turn is part of the agenda, and would have kept the engine alive
  have hturn : s.turn.engine? ≠ some i := by
    intro hengine
    refine dead (.inr ⟨s.turn, ?_, hengine⟩)
    rw [hagenda, Multiset.mem_add]
    left
    cases hs : s.turn with
    | attend j =>
      rw [hs] at hengine
      cases hengine
    | _ => simp [Turn.isWork]
  have hhost : ¬s.host.isAlive i := by
    rw [isAlive_iff_agenda, hengines]
    rintro (held | ⟨t, ht, hengine⟩)
    · exact dead (.inl held)
    · refine dead (.inr ⟨t, ?_, hengine⟩)
      rw [hagenda, Multiset.mem_add]
      exact .inr ht
  refine ⟨hturn, hhost, ?_⟩
  rw [isAlive_iff_agenda, agenda_perform s.host s.turn]
  -- nothing revives it: no turn takes hold of an engine anew, and what this turn leaves is for engines that live
  rintro (⟨e', he', held⟩ | ⟨t, ht, hengine⟩)
  · obtain ⟨e, he⟩ := Option.isSome_iff_exists.mp known
    rw [← hengines] at he
    obtain ⟨e'', he'', -, -, -, hheld⟩ := exists_perform he s.turn
    cases he'.symm.trans he''
    exact dead (.inl ⟨e, hengines ▸ he, hheld held⟩)
  · obtain hleft | hwaits := Multiset.mem_add.mp ht
    · obtain hengine | alive := engine?_of_mem_leaves (Multiset.mem_coe.mp hleft) hengine
      · exact hturn hengine
      · exact hhost alive
    · exact hhost (isAlive_iff_agenda.mpr (.inr ⟨t, hwaits, hengine⟩))

/-- What is asked for of others does not bring it back either. -/
theorem isAlive_of_ask {request : Request} (other : request.engine? ≠ some i) (alive : (h.ask request).isAlive i) :
    h.isAlive i := by
  rw [isAlive_iff] at alive ⊢
  refine alive.imp_right fun ⟨u, hu, hengine⟩ => ⟨u, (List.mem_append.mp hu).resolve_right fun hasked => ?_, hengine⟩
  rw [List.mem_singleton.mp hasked] at hengine
  exact other hengine

/-- Steps that add no task revive no engine. -/
theorem isAlive_of_rest (step : Step h none h') (tasks : h'.tasks = h.tasks) (alive : h'.isAlive i) : h.isAlive i := by
  rwa [isAlive, step.engines_of_none, tasks, ← isAlive] at alive

/-- Where nothing is asked for of it, an engine that is dead stays so. -/
theorem Driven.dead (driven : Unasked i a recent h) (known : (a.engines[i]?).isSome) (dead : ¬a.isAlive i) :
    ¬h.isAlive i ∧ ∀ s ∈ recent, s.turn.engine? ≠ some i ∧ ¬s.host.isAlive i := by
  induction driven with
  | refl => exact ⟨dead, fun s hs => absurd hs List.not_mem_nil⟩
  | @turn recent h h' s driven step ih =>
    obtain ⟨hturn, hhost, hafter⟩ := dead_of_step (driven.trace.isSome_engine known) ih.1 step
    refine ⟨hafter, fun s' hs' => ?_⟩
    obtain rfl | hs' := List.mem_cons.mp hs'
    · exact ⟨hturn, hhost⟩
    · exact ih.2 s' hs'
  | ask _ allowed ih => exact ⟨fun alive => ih.1 (isAlive_of_ask allowed alive), ih.2⟩
  | rest _ step tasks ih => exact ⟨fun alive => ih.1 (isAlive_of_rest step tasks alive), ih.2⟩

/-! ### What a dead engine does -/

theorem stretch?_ne_of_engine? (other : s.turn.engine? ≠ some i) (origin : Origin) (o : Outcome) :
    s.stretch? ≠ some (origin, i, o) := fun hs => other (engine?_of_stretch hs).1

theorem enablingOf?_eq_none_of_engine? (other : t.engine? ≠ some i) : t.enablingOf? i = none := by
  unfold Turn.enablingOf?
  split
  · exact if_neg fun hj => other (congrArg some hj)
  · rfl

/-- An engine that nobody holds hears nothing. -/
theorem heardBy_of_dead (other : s.turn.engine? ≠ some i) (dead : ¬s.host.isAlive i) : s.heardBy i = [] := by
  rw [Taken.heardBy, List.filterMap_eq_nil_iff]
  intro f hf
  refine if_neg ?_
  rintro rfl
  obtain ⟨-, hengine | hlistens⟩ := exists_of_mem_heard (List.mem_reverse.mp hf)
  · exact other hengine
  · exact dead (List.mem_filter.mp hlistens).2

/-- A turn that does not hold an engine leaves its memory alone. -/
theorem memory?_perform_of_engine? (known : (h.engines[i]?).isSome) (other : t.engine? ≠ some i) :
    (h.perform t).memory? i = h.memory? i := by
  have recalls := recalls_perform h t i
  generalize (h.perform t).memory? i = remembered at recalls
  cases recalls with
  | begun _ hturn => exact absurd (by rw [hturn]; rfl) other
  | resumed _ hturn => exact absurd (by rw [hturn]; rfl) other
  | created _ absent =>
    obtain ⟨e, he⟩ := Option.isSome_iff_exists.mp known
    rw [memory?, he] at absent
    cases absent
  | same _ => rfl

/-- A turn that does not hold an engine leaves no callback of its to be run. -/
theorem call_not_mem_leaves (other : s.turn.engine? ≠ some i) (callback : Callback) (fire : Fire) :
    .call i callback fire ∉ s.leaves := by
  intro hleft
  have known : ∀ origin stage reply, s.turn = .resume origin i stage reply → (s.host.memory? i).isSome :=
    fun _ _ _ hturn => absurd (by rw [hturn]; rfl) other
  have hcall : (fire, callback) ∈ s.leaves.filterMap (Turn.callOf? i) :=
    List.mem_filterMap.mpr ⟨_, hleft, if_pos rfl⟩
  rw [filterMap_leaves_callOf? i s known, enablingOf?_eq_none_of_engine? other] at hcall
  cases hcall

/-- An engine that nobody holds keeps its memory. -/
theorem Driven.memory?_of_dead (driven : Unasked i a recent h) (known : (a.engines[i]?).isSome)
    (dead : ¬a.isAlive i) : h.memory? i = a.memory? i := by
  induction driven with
  | refl => rfl
  | @turn recent h h' s driven step ih =>
    obtain ⟨hother, -⟩ := ((Driven.turn driven step).dead known dead).2 s List.mem_cons_self
    have hknown := driven.trace.isSome_engine known
    rw [← step.engines_of_some.1] at hknown
    rw [step.of_some.1, memory?_perform_of_engine? hknown hother, step.of_some.2.2.1, ih]
  | ask _ _ ih => exact ih
  | rest _ step _ ih => rw [step.of_none.2.1, ih]

/-! ### The debouncer of a dead engine -/

/-- A debouncer acts only while its synchronisation holds on to the engine. -/
theorem Paced.ne_acting_of_dead (paced : Paced i h) (dead : ¬h.isAlive i) (he : h.engines[i]? = some e) (since : Nat) :
    e.debouncer.phase ≠ .acting since := by
  intro acting
  cases paced with
  | resting rests _ => exact rests since (by rw [phase?_eq he, acting])
  | acting _ _ work syncs =>
    have hmem : _ ∈ h.underWay i := work ▸ Multiset.mem_singleton_self _
    have hengine := syncs.isDebounced
    rw [Turn.isDebounced, Bool.and_eq_true, decide_eq_true_eq, decide_eq_true_eq] at hengine
    exact dead (isAlive_iff_agenda.mpr (.inr ⟨_, (Multiset.mem_filter.mp hmem).1, hengine.2⟩))

/-- An orphaned debouncer that does not act has a move to make until it has ended. -/
theorem isSome_next_of_orphaned {d : Debouncer} (rests : ∀ since, d.phase ≠ .acting since)
    (running : d.phase ≠ .stopped) (now : Nat) : (d.next now true).isSome := by
  refine Debouncer.isSome_next_of_takeUp ?_ running rests
  unfold Debouncer.takeUp
  split <;> rfl

/-- The debouncer of a dead engine is attended to until it has ended. -/
theorem isAttended_of_dead (trace : Trace (start latency rules draws config) past h) (dead : ¬h.isAlive i)
    (he : h.engines[i]? = some e) (running : e.debouncer.phase ≠ .stopped) : h.isAttended i := by
  refine trace.attended.moves i e he ?_
  have hdead : h.isAlive i = false := by simpa using dead
  rw [hdead]
  exact isSome_next_of_orphaned ((trace.paced i).ne_acting_of_dead dead he) running h.now

/-- Attending to an orphaned debouncer that has not ended ends it or leaves it fewer moves to make. -/
theorem attend_of_dead (dead : ¬h.isAlive i) (he : h.engines[i]? = some e)
    (rests : ∀ since, e.debouncer.phase ≠ .acting since) (running : e.debouncer.phase ≠ .stopped) :
    ∃ e', (h.perform (.attend i)).engines[i]? = some e' ∧
      (e'.debouncer.phase = .stopped ∨ e'.debouncer.rank < e.debouncer.rank) := by
  have hdead : h.isAlive i = false := by simpa using dead
  obtain ⟨⟨move, debouncer⟩, hn⟩ := Option.isSome_iff_exists.mp (isSome_next_of_orphaned rests running h.now)
  have hnext : e.debouncer.next h.now (!h.isAlive i) = some (move, debouncer) := by rw [hdead]; exact hn
  refine ⟨_, (getElem?_attend he hnext i).trans (if_pos rfl), ?_⟩
  rw [hdead]
  cases move with
  | start =>
    have hlt := Debouncer.rank_lt_of_start hn
    exact .inr (Nat.lt_of_le_of_lt (Debouncer.rank_finish_le debouncer) hlt)
  | arm deadline => exact .inr (Debouncer.rank_lt_of_arm hn)
  | stop =>
    cases Debouncer.makes_of_next hn with
    | stop _ _ same => exact .inl (by rw [Engine.moved, same]; rfl)

/-- What a turn makes of a debouncer that nobody can send a signal to. One that has ended makes no move. -/
theorem perform_of_dead (dead : ¬h.isAlive i) (he : h.engines[i]? = some e)
    (rests : ∀ since, e.debouncer.phase ≠ .acting since) (other : t.engine? ≠ some i) :
    ∃ e', (h.perform t).engines[i]? = some e' ∧ (e'.debouncer.phase = .stopped ∨
      e.debouncer.phase ≠ .stopped ∧ e'.debouncer.rank + (if t.attends i then 1 else 0) ≤ e.debouncer.rank) := by
  by_cases hattend : t.attends i
  · rw [if_pos hattend, Turn.attends_iff.mp hattend]
    by_cases stopped : e.debouncer.phase = .stopped
    · refine ⟨e, ?_, .inl stopped⟩
      show (h.attend i).engines[i]? = some e
      simp only [attend, he, next_eq_none (.inl stopped)]
    · obtain ⟨e', he', moved⟩ := attend_of_dead dead he rests stopped
      exact ⟨e', he', moved.imp_right fun fewer => ⟨stopped, fewer⟩⟩
  · rw [if_neg hattend]
    have hother : t ≠ .attend i := fun hturn => hattend (Turn.attends_iff.mpr hturn)
    exact ⟨e, getElem?_perform_of_other he other hother, or_iff_not_imp_left.mpr fun running =>
      ⟨running, Nat.le_refl _⟩⟩

/-- While nobody brings the engine back, no time passes before its debouncer has ended, and each time that it is
attended to it has fewer moves to make. -/
theorem Driven.ends (earlier : Trace (start latency rules draws config) older a) (driven : Unasked i a recent h)
    (dead : ¬a.isAlive i) (he : a.engines[i]? = some e) (he' : h.engines[i]? = some e') :
    e'.debouncer.phase = .stopped ∨
      h.now = a.now ∧ recent.countP (·.turn.attends i) + e'.debouncer.rank ≤ e.debouncer.rank := by
  have known : (a.engines[i]?).isSome := by rw [he]; rfl
  -- every turn of the debouncer's ends it or has less to do, and time cannot pass before
  induction driven generalizing e' with
  | refl =>
    cases he.symm.trans he'
    exact .inr ⟨rfl, by simp⟩
  | @turn recent h h' s driven step ih =>
    obtain ⟨before, hbefore, -⟩ := driven.trace.exists_engine he
    obtain ⟨hother, hdead⟩ := ((Driven.turn driven step).dead known dead).2 s List.mem_cons_self
    have rests := ((earlier.trans driven.trace).paced i).ne_acting_of_dead (driven.dead known dead).1 hbefore
    obtain ⟨after, hafter, stopped | ⟨running, fewer'⟩⟩ :=
      perform_of_dead hdead (step.engines_of_some.1 ▸ hbefore) rests hother
    · rw [← step.of_some.1] at hafter
      cases he'.symm.trans hafter
      exact .inl stopped
    · rw [← step.of_some.1] at hafter
      cases he'.symm.trans hafter
      obtain ⟨still, fewer⟩ := (ih hbefore).resolve_left running
      refine .inr ⟨by rw [step.of_some.1, now_perform, step.engines_of_some.2, still], ?_⟩
      rw [List.countP_cons]
      omega
  | ask _ _ ih => exact ih he'
  | @rest recent h h' driven step tasks ih =>
    rw [step.engines_of_none] at he'
    by_cases stopped : e'.debouncer.phase = .stopped
    · exact .inl stopped
    · obtain ⟨still, fewer⟩ := (ih he').resolve_left stopped
      have attended := isAttended_of_dead (earlier.trans driven.trace) (driven.dead known dead).1 he' stopped
      exact .inr ⟨(step.now_of_isAttended attended).trans still, fewer⟩

/-- An engine that nobody holds on to is dead. -/
theorem Driven.isDead (earlier : Trace (start latency rules draws config) older a) (driven : Unasked i a recent h)
    (known : (a.engines[i]?).isSome) (dead : ¬a.isAlive i) : Dead i a recent h := by
  obtain ⟨hdead, hrecent⟩ := driven.dead known dead
  exact {
    gone := ⟨hdead, fun s hs => (hrecent s hs).1⟩
    silent := fun s hs => by
      obtain ⟨hother, hhost⟩ := hrecent s hs
      refine ⟨fun origin stage commands reply hsent => ?_, heardBy_of_dead hother hhost,
        call_not_mem_leaves hother, fun _ => ?_⟩
      · obtain ⟨o, hs, -⟩ := sent_mem_deeds.mp hsent
        exact stretch?_ne_of_engine? hother origin o hs
      · exact Bool.eq_false_iff.mpr fun starts => hhost (isAlive_of_startsSync starts)
    calls := by
      -- no reply is taken for the engine any more, so the callbacks waiting are those of the beginning, less those
      -- run
      have called := (earlier.hopped driven.trace i).called
      have hnone : recent.filterMap (·.turn.enablingOf? i) = [] :=
        List.filterMap_eq_nil_iff.mpr fun s hs => enablingOf?_eq_none_of_engine? (hrecent s hs).1
      rw [hnone, Multiset.coe_nil, zero_add] at called
      exact called.symm
    remembers := driven.memory?_of_dead known dead
    ends := fun e e' he he' => by
      by_cases stopped : e'.debouncer.phase = .stopped
      · exact .inl stopped
      · obtain ⟨still, fewer⟩ := (driven.ends earlier dead he he').resolve_left stopped
        exact .inr ⟨still, isAttended_of_dead (earlier.trans driven.trace) hdead he' stopped, fewer⟩ }

/-! ### What is under way -/

/-- A step that takes no turn can be taken as well with an engine held. -/
theorem Step.hold_of_none (step : Step h none h') (i : Nat) : Step (h.hold i) none (h'.hold i) := by
  cases step with
  | pass later early => exact .pass later early
  | ask request => exact .ask request
  | respond respond => exact .respond respond
  | delay latency => exact .delay latency

/-- A turn can be taken as well when somebody holds on to an engine. -/
theorem Step.hold_of_some (step : Step h (some s) h') (i : Nat) :
    Step (h.hold i) (some (s.hold i)) ((s.host.hold i).perform s.turn) := by
  cases step with
  | @turn before after t mem due =>
    have mem' : (h.hold i).tasks = before ++ t :: after := mem
    exact .turn mem' due

/-- A turn that does not hold on to an engine does not keep it alive by waiting. -/
theorem isAlive_of_step (step : Step h (some s) h') (alive : h.isAlive i) (other : s.turn.engine? ≠ some i) :
    s.host.isAlive i := by
  cases step with
  | @turn before after t mem due =>
    rw [isAlive_iff] at alive ⊢
    refine alive.imp_right fun ⟨u, hu, hengine⟩ => ⟨u, mem_of_taken mem hu ?_, hengine⟩
    rintro rfl
    exact other hengine

/-- As long as an engine is alive, everything happens as it does when somebody outside holds on to it. -/
theorem Driven.hold (driven : Unasked i a recent h) (known : (a.engines[i]?).isSome)
    (keeps : ∀ s ∈ recent, ∀ origin, s.turn ≠ .begin origin (.release i)) (alive : h.isAlive i) :
    Unasked i (a.hold i) (recent.map (Taken.hold i)) (h.hold i) := by
  -- the engine lives to the end, so at each step it did before, and being held changes nothing for it
  induction driven with
  | refl => exact .refl
  | @turn recent h h' s driven step ih =>
    have alive' : h.isAlive i := by
      by_contra dead
      exact (dead_of_step (driven.trace.isSome_engine known) dead step).2.2 alive
    have held := ih (fun s' hs' => keeps s' (List.mem_cons_of_mem _ hs')) alive'
    have hperform := perform_hold (i := i)
      (fun none => isAlive_of_step step alive' (by simp [none])) (keeps s List.mem_cons_self)
      (step.of_some.1 ▸ alive)
    rw [step.of_some.1, ← hperform]
    exact .turn held (step.hold_of_some i)
  | ask driven allowed ih => exact .ask (ih keeps (isAlive_of_ask allowed alive)) allowed
  | rest driven step tasks ih =>
    exact .rest (ih keeps (isAlive_of_rest step tasks alive)) (step.hold_of_none i) tasks

/-- A turn that holds the engine, and does not release it, comes just as if the engine had been held all along, but
that its debouncer may then be looked after once more. -/
theorem Driven.kept (driven : Unasked i a recent h) (known : (a.engines[i]?).isSome)
    (keeps : ∀ s ∈ recent, ∀ origin, s.turn ≠ .begin origin (.release i)) (step : Step h (some s) h')
    (engine : s.turn.engine? = some i) (last : ∀ origin, s.turn ≠ .begin origin (.release i)) :
    ∃ held, Unasked i (a.hold i) ((s :: recent).map (Taken.hold i)) held ∧
      (h'.hold i = held ∨ h'.hold i = held.schedule s.host.now (.attend i)) := by
  have alive : h.isAlive i := by
    cases step with
    | @turn before after t mem due =>
      refine isAlive_iff.mpr (.inr ⟨t, ?_, engine⟩)
      rw [mem]
      exact List.mem_append_right before List.mem_cons_self
  refine ⟨_, .turn (driven.hold known keeps alive) (step.hold_of_some i), ?_⟩
  rw [step.of_some.1]
  exact perform_hold_or engine last

/-! ### The whole trace -/

/-- In every trace, what has been let go of goes on as long as something holds on to it, and is dead from then on. -/
theorem letGo_of_trace (trace : Trace (start latency rules draws config) older a) (known : (a.engines[i]?).isSome)
    (driven : Unasked i a recent h) : LetGo i a recent h where
  prompt _ hu work := driven.trace.taken_or_waits hu work
  kept newer s earlier hrecent engine keeps := by
    obtain ⟨before, after, driven', step, -⟩ := driven.cut hrecent
    have hlast := keeps s List.mem_cons_self
    rw [← step.of_some.1]
    exact driven'.kept known (fun s' hs' => keeps s' (List.mem_cons_of_mem _ hs')) step engine hlast
  dies dead := driven.isDead trace known dead

set_option synthInstance.maxSize 512 in
/-- A run in which an engine is let go of while the reply to an objective is awaited. When it arrives, the objective
is registered and a synchronisation asked for, but none starts, and a line that is put out afterwards is not heard. -/
theorem letGo_of_last_ensure : ∃ older a middle d later h,
    Trace (start 10 [] {} { window := 5 }) older a ∧ a.isAlive 0 ∧ ¬(∃ e ∈ a.engines, e.isHeld) ∧
      Unasked 0 a middle d ∧ ¬d.isAlive 0 ∧ d.engines.map (·.debouncer.queue) = [[.request]] ∧
        Unasked 0 d later h ∧ LetGo 0 a (later ++ middle) h ∧ LetGo 0 d later h ∧
          h.registry 0 = ["tQaBe_kills"] ∧ h.engines.map (·.debouncer.phase) = [.stopped] ∧
            h.engines.map (·.stats.fullSyncs) = [0] := by
  let greet := Request.operate 0 (.bind ⟨"demo", "demo"⟩ { id := "greet" })
  let ensure := Request.spawn "ensure" (.operate 0 (.ensure ⟨"demo", "demo"⟩ "kills" "dummy" "kills"))
  let use := Request.emit ["[Alice: Triggered [tri_tQaBe_AAAAAA] (set value to 3)]"]
  have run : ((((start 10 [] {} { window := 5 }).drive 50 greet).bind (drive 50 · ensure)).bind
      (drive 50 · (.release 0))).bind (fun a => (((a.ask (.sleep 30)).advance.bind advance).bind advance).bind
        fun d => ((settle 50 d).bind (drive 50 · use)).map fun h =>
          (((a.isAlive 0, a.engines.any (·.isHeld)), (d.isAlive 0, d.engines.map (·.debouncer.queue))),
            ((h.registry 0, h.engines.map (·.debouncer.phase)), h.engines.map (·.stats.fullSyncs)))) =
      some (((true, false), (false, [[.request]])), ((["tQaBe_kills"], [.stopped]), [0])) := by decide +kernel
  obtain ⟨a, hreleased, run⟩ := Option.bind_eq_some_iff.mp run
  obtain ⟨d, hreplied, run⟩ := Option.bind_eq_some_iff.mp run
  obtain ⟨h, hended, hend⟩ := Option.map_eq_some_iff.mp run
  simp only [Prod.mk.injEq] at hend
  obtain ⟨⟨⟨halive, hheld⟩, hdead, hqueue⟩, ⟨hregistry, hphase⟩, hsyncs⟩ := hend
  -- up to where nobody outside holds on to the engine
  obtain ⟨ensured, hensured, hreleased⟩ := Option.bind_eq_some_iff.mp hreleased
  obtain ⟨bound, hbound, hensured⟩ := Option.bind_eq_some_iff.mp hensured
  obtain ⟨older, trace⟩ := ((steps_of_drive hbound).trans (steps_of_drive hensured)).trans (steps_of_drive hreleased)
  -- on to where nothing does
  obtain ⟨arriving, harriving, hreplied⟩ := Option.bind_eq_some_iff.mp hreplied
  obtain ⟨slept, hslept, harriving⟩ := Option.bind_eq_some_iff.mp harriving
  have asked : Unasked 0 a [] (a.ask (.sleep 30)) := .ask .refl fun hengine => by cases hengine
  obtain ⟨_, first⟩ := driven_of_advance hslept
  obtain ⟨_, second⟩ := driven_of_advance harriving
  obtain ⟨_, third⟩ := driven_of_advance hreplied
  have middle := ((asked.trans first).trans second).trans third
  -- and on from there
  obtain ⟨settled, hsettled, hused⟩ := Option.bind_eq_some_iff.mp hended
  obtain ⟨_, fourth⟩ := driven_of_settle hsettled
  obtain ⟨_, fifth⟩ : ∃ past, Unasked 0 settled past h := driven_of_drive (fun hengine => by cases hengine) hused
  have later := fourth.trans fifth
  have known : (a.engines[0]?).isSome := trace.isSome_engine rfl
  exact ⟨older, a, _, d, _, h, trace, halive, by simpa using hheld, middle, by simp [hdead], hqueue, later,
    letGo_of_trace trace known (middle.trans later),
    letGo_of_trace (trace.trans middle.trace) (middle.trace.isSome_engine known) later, hregistry, hphase, hsyncs⟩

end Scoreboard.Host
