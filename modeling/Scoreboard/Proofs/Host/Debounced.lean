import Scoreboard.Proofs.Host.Traces

/-!
# The synchronisations of a debouncer

An engine's debouncer has one synchronisation under way at most, and it has one just while it acts: the turn
that starts the action leaves the first turn of the synchronisation, each of its turns leaves the next one, and
with the last one the action is over (`Paced`, `Trace.paced`).
-/

namespace Scoreboard

namespace Turn

/-- Whether a turn belongs to an operation of an engine's debouncer. -/
def isDebounced (i : Nat) (t : Turn) : Bool := t.origin? = some .debouncer && t.engine? = some i

/-- The turns of a synchronisation of an engine's debouncer. -/
inductive Syncs (i : Nat) : Turn → Prop where
  | begins : Syncs i (.begin .debouncer (.operate i .sync))
  | lists (reply : String) : Syncs i (.resume .debouncer i .listingPlayers reply)
  | reads (sync : Sync) (reply : String) : Syncs i (.resume .debouncer i (.syncing sync) reply)

theorem isDebounced_begin {i j : Nat} {origin : Origin} {operation : Operation} :
    (begin origin (.operate j operation)).isDebounced i = (origin = .debouncer && j = i) := by
  simp [isDebounced, origin?, engine?, Request.engine?]

theorem isDebounced_resume {i j : Nat} {origin : Origin} {stage : Stage} {reply : String} :
    (resume origin j stage reply).isDebounced i = (origin = .debouncer && j = i) := by
  simp [isDebounced, origin?, engine?]

theorem Syncs.isDebounced {i : Nat} {t : Turn} (syncs : t.Syncs i) : t.isDebounced i := by
  cases syncs with
  | begins => simp [isDebounced_begin]
  | lists reply => simp [isDebounced_resume]
  | reads sync reply => simp [isDebounced_resume]

theorem isWork_of_isDebounced {i : Nat} {t : Turn} (h : t.isDebounced i) : t.isWork := by
  cases t with
  | attend j => cases h
  | _ => rfl

end Turn

namespace Host

/-- What is under way for an engine's debouncer. -/
def underWay (h : Host) (i : Nat) : Multiset Turn := h.agenda.filter fun t => t.isDebounced i

/-- The phase that an engine's debouncer is in, if there is such an engine. -/
def phase? (h : Host) (i : Nat) : Option Phase := h.engines[i]?.map fun e => e.debouncer.phase

/-- An engine's debouncer rests, or it acts and one synchronisation is under way for it. -/
inductive Paced (i : Nat) (h : Host) : Prop where
  | resting (rests : ∀ since, h.phase? i ≠ some (.acting since)) (none : h.underWay i = 0) : Paced i h
  | acting {since : Nat} {t : Turn} (phase : h.phase? i = some (.acting since)) (begun : since ≤ h.now)
      (work : h.underWay i = {t}) (syncs : t.Syncs i) : Paced i h

/-- What a turn leaves for an engine's debouncer. -/
inductive Pursues (i : Nat) (s : Taken) : List Turn → Prop where
  | goesOn {o : Outcome} {commands : List Command} {stage : Stage} {reply : String}
      (stretch : s.stretch? = some (.debouncer, i, o)) (next : o.next = .send commands stage) :
      Pursues i s [.resume .debouncer i stage reply]
  | starts (turn : s.turn = .attend i) (starts : s.host.startsSync i) :
      Pursues i s [.begin .debouncer (.operate i .sync)]
  | nothing (ended : ∀ o, s.stretch? = some (.debouncer, i, o) →
      ∀ commands stage, o.next ≠ .send commands stage)
      (rests : s.turn = .attend i → s.host.startsSync i = false) : Pursues i s []

variable {i : Nat} {s : Taken} {h h' : Host}

theorem isDebounced_of_stretch {o : Outcome} (hs : s.stretch? = some (.debouncer, i, o)) :
    s.turn.isDebounced i := by
  obtain ⟨e, -, ⟨operation, hturn, -⟩ | ⟨stage, reply, hturn, -⟩⟩ := stretch?_eq_some_iff.mp hs
  · simp [hturn, Turn.isDebounced_begin]
  · simp [hturn, Turn.isDebounced_resume]

theorem ne_attend_of_stretch {r : Origin × Nat × Outcome} (hs : s.stretch? = some r) : s.turn ≠ .attend i := by
  intro hturn
  rw [Taken.stretch?, hturn] at hs
  cases hs

/-! ### What a turn leaves -/

/-- Fires are dispatched for nobody, so what a turn leaves for a debouncer is from its stretch or follows by
itself. -/
theorem filter_leaves (i : Nat) (s : Taken) : s.leaves.filter (Turn.isDebounced i) =
    (s.stretch?.elim [] fun r => s.host.handsOn r.1 r.2.1 r.2.2).filter (Turn.isDebounced i) ++
      (s.host.follow s.turn).filter (Turn.isDebounced i) := by
  have hheard : ((s.host.heard s.turn).map Turn.dispatching).reverse.filter (Turn.isDebounced i) = [] := by
    rw [List.filter_eq_nil_iff]
    intro t ht
    obtain ⟨f, -, rfl⟩ := List.mem_map.mp (List.mem_reverse.mp ht)
    simp [Turn.dispatching, Turn.isDebounced, Turn.origin?]
  rw [Taken.leaves, leaves, List.filter_append, List.filter_append, hheard, List.nil_append]
  rfl

/-- What follows by itself is for the debouncer only if its action starts. -/
theorem pursues_follow (hs : s.stretch? = none) :
    Pursues i s ((s.host.follow s.turn).filter (Turn.isDebounced i)) := by
  have ended : ∀ o, s.stretch? = some (.debouncer, i, o) →
      ∀ commands stage, o.next ≠ .send commands stage := by
    intro o hstretch
    rw [hs] at hstretch
    cases hstretch
  -- only looking after this very debouncer has something to follow that is the debouncer's
  unfold follow
  split
  · rename_i origin duration hturn
    rw [List.filter_cons_of_neg (by simp [Turn.isDebounced, Turn.engine?])]
    exact .nothing ended (by simp [hturn])
  · rename_i origin label request hturn
    rw [List.filter_cons_of_neg (by simp [Turn.isDebounced, Turn.origin?])]
    exact .nothing ended (by simp [hturn])
  · rename_i j hturn
    by_cases starts : s.host.startsSync j
    · rw [if_pos starts]
      by_cases hj : j = i
      · subst hj
        have hdebounced : (Turn.begin .debouncer (.operate j .sync)).isDebounced j := by
          simp [Turn.isDebounced_begin]
        rw [List.filter_cons_of_pos hdebounced]
        exact .starts hturn starts
      · have hdebounced : ¬(Turn.begin .debouncer (.operate j .sync)).isDebounced i := by
          simp [Turn.isDebounced_begin, hj]
        rw [List.filter_cons_of_neg hdebounced]
        exact .nothing ended fun hattend => absurd (Turn.attend.inj (hturn.symm.trans hattend)) hj
    · rw [if_neg starts]
      refine .nothing ended fun hattend => ?_
      rw [← Turn.attend.inj (hturn.symm.trans hattend)]
      exact Bool.eq_false_iff.mpr starts
  · rename_i hattend
    exact .nothing ended fun hturn => absurd hturn (hattend i)

/-- What a stretch hands on is for the debouncer if the stretch is and waits. -/
theorem pursues_handsOn {origin : Origin} {j : Nat} {o : Outcome} (hs : s.stretch? = some (origin, j, o)) :
    Pursues i s ((s.host.handsOn origin j o).filter (Turn.isDebounced i)) := by
  have rests : s.turn = .attend i → s.host.startsSync i = false :=
    fun hattend => absurd hattend (ne_attend_of_stretch hs)
  unfold handsOn
  -- only an operation that waits for a reply hands on something that is the debouncer's
  cases hn : o.next with
  | send commands stage =>
    simp only
    by_cases hdebounced : origin = .debouncer ∧ j = i
    · obtain ⟨rfl, rfl⟩ := hdebounced
      rw [List.filter_cons_of_pos (by simp [Turn.isDebounced_resume])]
      exact .goesOn hs hn
    · rw [List.filter_cons_of_neg (by simpa [Turn.isDebounced_resume] using hdebounced)]
      refine .nothing (fun o' hstretch => ?_) rests
      rw [hs] at hstretch
      cases hstretch
      exact absurd ⟨rfl, rfl⟩ hdebounced
  | fire callback fire =>
    refine .nothing (fun o' hstretch => ?_) rests
    rw [hs] at hstretch
    cases hstretch
    simp [hn]
  | _ =>
    refine .nothing (fun o' hstretch => ?_) rests
    rw [hs] at hstretch
    cases hstretch
    simp [hn]

/-- What a turn leaves for a debouncer is one of what `Pursues` lists. -/
theorem pursues_leaves (i : Nat) (s : Taken) : Pursues i s (s.leaves.filter (Turn.isDebounced i)) := by
  rw [filter_leaves]
  rcases hs : s.stretch? with _ | ⟨origin, j, o⟩
  · exact pursues_follow hs
  · -- a stretch leaves nothing else
    have hfollow : s.host.follow s.turn = [] := by
      obtain ⟨e, -, ⟨operation, hturn, -⟩ | ⟨stage, reply, hturn, -⟩⟩ := stretch?_eq_some_iff.mp hs <;>
        rw [hturn] <;> rfl
    rw [hfollow, List.filter_nil, List.append_nil]
    exact pursues_handsOn hs

/-- After a turn there is under way what was before, and what the turn leaves. -/
theorem underWay_perform (i : Nat) (s : Taken) :
    (s.host.perform s.turn).underWay i = s.leaves.filter (Turn.isDebounced i) + s.host.underWay i := by
  rw [underWay, agenda_perform s.host s.turn, Multiset.filter_add, Multiset.filter_coe]
  simp only [Bool.decide_eq_true]
  rfl

/-- A turn that is taken is no longer under way. -/
theorem Step.underWay_of_some (step : Step h (some s) h') (i : Nat) :
    h.underWay i = (if s.turn.isDebounced i then {s.turn} else 0) + s.host.underWay i := by
  rw [underWay, step.of_some.2.2.2, Multiset.filter_add, Multiset.filter_coe, ← underWay]
  congr 1
  by_cases hturn : s.turn.isDebounced i
  · have hwork := Turn.isWork_of_isDebounced hturn
    simp [hturn, hwork]
  · cases hwork : s.turn.isWork <;> simp [hwork, hturn]

theorem Step.underWay_of_none (step : Step h none h') (i : Nat) : h'.underWay i = h.underWay i := by
  obtain hagenda | ⟨request, hagenda⟩ := step.of_none.2.2
  · rw [underWay, hagenda, underWay]
  · rw [underWay, hagenda, Multiset.filter_cons_of_neg _ (by simp [Turn.isDebounced, Turn.origin?]), underWay]

/-! ### What a turn keeps -/

/-- A turn of a debounced synchronisation leaves the next one, or it is the last one. -/
theorem stretch_of_syncs {e : Engine} (he : s.host.engines[i]? = some e) (syncs : s.turn.Syncs i) :
    ∃ o, s.stretch? = some (.debouncer, i, o) ∧ o.engine.debouncer = e.debouncer ∧
      ((∃ commands stage, o.next = .send commands stage ∧
        ∀ reply, (Turn.resume .debouncer i stage reply).Syncs i) ∨ o.next.isOver) := by
  have goesOn : ∀ sync, (∃ commands stage, (e.continueSync sync).next = .send commands stage ∧
      ∀ reply, (Turn.resume .debouncer i stage reply).Syncs i) ∨ (e.continueSync sync).next.isOver := by
    intro sync
    obtain ⟨_, _, _, _, hn, -⟩ | ⟨-, hn, -⟩ := e.continueSync_cases sync
    · exact .inl ⟨_, _, hn, .reads sync⟩
    · exact .inr (by rw [hn]; rfl)
  generalize hturn : s.turn = t at syncs
  -- the three turns of a synchronisation: the list of players, the scores, and each ends it or leaves the next
  cases syncs with
  | begins =>
    have hs : s.stretch? = some (.debouncer, i, (e.begin .sync s.host.draws).1) :=
      stretch?_eq_some_iff.mpr ⟨e, he, .inl ⟨_, hturn, rfl⟩⟩
    exact ⟨_, hs, rfl, .inl ⟨_, _, rfl, .lists⟩⟩
  | lists reply =>
    have hs : s.stretch? = some (.debouncer, i, e.resume .listingPlayers reply) :=
      stretch?_eq_some_iff.mpr ⟨e, he, .inr ⟨_, _, hturn, rfl⟩⟩
    obtain ⟨stats, scores, hengine⟩ := e.resume_engine .listingPlayers reply
    refine ⟨_, hs, by rw [hengine]; rfl, ?_⟩
    rw [Engine.resume, Engine.resumeSync]
    split
    · exact goesOn _
    · exact .inr rfl
  | reads sync reply =>
    have hs : s.stretch? = some (.debouncer, i, e.resume (.syncing sync) reply) :=
      stretch?_eq_some_iff.mpr ⟨e, he, .inr ⟨_, _, hturn, rfl⟩⟩
    obtain ⟨stats, scores, hengine⟩ := e.resume_engine (.syncing sync) reply
    exact ⟨_, hs, by rw [hengine]; rfl, goesOn _⟩

theorem phase?_eq {e : Engine} (he : h.engines[i]? = some e) : h.phase? i = some e.debouncer.phase := by
  rw [phase?, he, Option.map_some]

/-- While the debouncer acts, a turn for it is the one that is under way. -/
theorem Paced.turn_of_isDebounced (paced : Paced i h) (step : Step h (some s) h')
    (hturn : s.turn.isDebounced i) : ∃ since, h.phase? i = some (.acting since) ∧ since ≤ h.now ∧
      s.turn.Syncs i ∧ s.host.underWay i = 0 := by
  have hwork := step.underWay_of_some i
  rw [if_pos hturn] at hwork
  cases paced with
  | resting rests none =>
    rw [hwork] at none
    exact absurd none (by simp)
  | @acting since t phase begun work syncs =>
    rw [work, Multiset.singleton_add, Multiset.singleton_eq_cons_iff] at hwork
    obtain ⟨rfl, hothers⟩ := hwork
    exact ⟨since, phase, begun, syncs, hothers⟩

/-- A turn that is not for the debouncer and does not start its action leaves nothing for it. -/
theorem filter_leaves_eq_nil (hturn : ¬s.turn.isDebounced i)
    (rests : s.turn = .attend i → s.host.startsSync i = false) :
    s.leaves.filter (Turn.isDebounced i) = [] := by
  have pursues := pursues_leaves i s
  generalize s.leaves.filter (Turn.isDebounced i) = left at pursues
  cases pursues with
  | goesOn hs _ => exact absurd (isDebounced_of_stretch hs) hturn
  | starts hattend starts =>
    rw [rests hattend] at starts
    cases starts
  | nothing _ _ => rfl

/-- The start of the action leaves just the beginning of a synchronisation. -/
theorem filter_leaves_of_startsSync (hturn : s.turn = .attend i) (starts : s.host.startsSync i) :
    s.leaves.filter (Turn.isDebounced i) = [.begin .debouncer (.operate i .sync)] := by
  have pursues := pursues_leaves i s
  generalize s.leaves.filter (Turn.isDebounced i) = left at pursues
  cases pursues with
  | goesOn hs _ => exact absurd hturn (ne_attend_of_stretch hs)
  | starts _ _ => rfl
  | nothing _ rests =>
    rw [rests hturn] at starts
    cases starts

/-- A debouncer stays paced when neither its phase nor what is under way for it changes. -/
theorem Paced.of_same (paced : Paced i h) (phase : h'.phase? i = h.phase? i)
    (work : h'.underWay i = h.underWay i) (later : h.now ≤ h'.now) : Paced i h' := by
  cases paced with
  | resting rests none => exact .resting (by rwa [phase]) (work.trans none)
  | acting hphase begun hwork syncs =>
    exact .acting (phase.trans hphase) (Nat.le_trans begun later) (work.trans hwork) syncs

/-- A turn for the debouncer goes on with what is under way, or ends it and the action. -/
theorem Paced.perform_of_isDebounced (paced : Paced i h) (step : Step h (some s) h')
    (hturn : s.turn.isDebounced i) : Paced i h' := by
  obtain ⟨since, hphase, begun, syncs, hothers⟩ := paced.turn_of_isDebounced step hturn
  obtain ⟨rfl, -⟩ := step.of_some
  obtain ⟨hengines, hnow⟩ := step.engines_of_some
  obtain ⟨e, he, hphase⟩ := Option.map_eq_some_iff.mp hphase
  rw [← hengines] at he
  obtain ⟨o, hs, hdebouncer, hnext⟩ := stretch_of_syncs he syncs
  have hengine := (getElem?_perform_of_stretch hs i).trans (if_pos rfl)
  have hwork := underWay_perform i s
  have pursues := pursues_leaves i s
  generalize s.leaves.filter (Turn.isDebounced i) = left at hwork pursues
  rw [hothers, add_zero] at hwork
  -- the synchronisation goes on and the debouncer still acts, or it is over and the debouncer rests
  obtain ⟨commands, stage, hn, hsyncs⟩ | ended := hnext
  · cases pursues with
    | goesOn hs' hn' =>
      rw [hs] at hs'
      cases hs'
      rw [hn] at hn'
      cases hn'
      have hphase' : (o.settled .debouncer).debouncer.phase = .acting since := by
        rw [Outcome.settled, hn, if_neg (by simp [Next.isOver]), hdebouncer, hphase]
      have begun' : since ≤ (s.host.perform s.turn).now := by
        rw [now_perform, hnow]
        exact begun
      exact .acting ((phase?_eq hengine).trans (congrArg some hphase')) begun' hwork (hsyncs _)
    | starts hattend _ =>
      rw [hattend] at hturn
      cases hturn
    | nothing hover _ => exact absurd hn (hover o hs commands stage)
  · have hphase' : (o.settled .debouncer).debouncer.phase = .idle := by
      rw [Outcome.settled, if_pos ⟨rfl, ended⟩]
      show o.engine.debouncer.finish.phase = .idle
      rw [hdebouncer, Debouncer.finish, hphase]
    cases pursues with
    | goesOn hs' hn' =>
      rw [hs] at hs'
      cases hs'
      rw [hn'] at ended
      cases ended
    | starts hattend _ =>
      rw [hattend] at hturn
      cases hturn
    | nothing _ _ =>
      refine .resting (fun since' hacting => ?_) hwork
      rw [phase?_eq hengine, hphase'] at hacting
      cases hacting

/-- Nothing is under way for a debouncer that does not act. -/
theorem Paced.underWay_eq_zero (paced : Paced i h) (rests : ∀ since, h.phase? i ≠ some (.acting since)) :
    h.underWay i = 0 := by
  cases paced with
  | resting _ none => exact none
  | acting phase _ _ _ => exact absurd phase (rests _)

/-- A synchronisation is started by the move that starts the action, if the engine is still held. -/
theorem startsSync_eq {e : Engine} {move : Debouncer.Move} {debouncer : Debouncer}
    (he : h.engines[i]? = some e)
    (hn : e.debouncer.next h.now (!h.isAlive i) = some (move, debouncer)) :
    h.startsSync i = (decide (move = .start) && h.isAlive i) := by
  simp only [startsSync, he, hn]
  cases move <;> simp

/-- A move of the debouncer starts its action, or it acts neither before nor after. -/
theorem Paced.perform_of_moved {e : Engine} {move : Debouncer.Move} {debouncer : Debouncer}
    (paced : Paced i h) (step : Step h (some s) h') (hturn : s.turn = .attend i)
    (he : s.host.engines[i]? = some e)
    (hn : e.debouncer.next s.host.now (!s.host.isAlive i) = some (move, debouncer)) : Paced i h' := by
  have hdebounced : ¬s.turn.isDebounced i := by
    rw [hturn]
    simp [Turn.isDebounced, Turn.origin?]
  have makes := Debouncer.makes_of_next hn
  have hbefore : h.phase? i = some e.debouncer.phase := by
    rw [phase?, ← step.engines_of_some.1, he, Option.map_some]
  have hnone : h.underWay i = 0 := by
    apply paced.underWay_eq_zero
    intro since hacting
    rw [hbefore, Option.some.injEq] at hacting
    cases makes with
    | start armed _ => simp [armed] at hacting
    | arm ready _ => obtain hidle | ⟨_, harmed, _⟩ := ready <;> simp [*] at hacting
    | stop ready _ _ => obtain hidle | ⟨_, harmed, _⟩ := ready <;> simp [*] at hacting
  have hothers : s.host.underWay i = 0 := by
    have hwork := step.underWay_of_some i
    rw [if_neg hdebounced, zero_add] at hwork
    exact hwork.symm.trans hnone
  obtain ⟨rfl, -⟩ := step.of_some
  have hafter : (s.host.perform s.turn).phase? i = some (e.moved move debouncer (s.host.isAlive i)).debouncer.phase := by
    apply phase?_eq
    rw [engines_perform, hturn]
    exact (getElem?_attend he hn i).trans (if_pos rfl)
  have hwork := underWay_perform i s
  rw [hothers, add_zero] at hwork
  -- a debouncer that rests has nothing under way, so its move leaves the synchronisation that it starts, or nothing
  by_cases starts : s.host.startsSync i
  · rw [filter_leaves_of_startsSync hturn starts] at hwork
    rw [startsSync_eq he hn, Bool.and_eq_true, decide_eq_true_eq] at starts
    obtain ⟨rfl, alive⟩ := starts
    cases makes with
    | start armed due =>
      rw [alive] at hafter
      exact .acting hafter (by rw [now_perform]) hwork .begins
  · rw [filter_leaves_eq_nil hdebounced fun _ => Bool.eq_false_iff.mpr starts] at hwork
    rw [startsSync_eq he hn] at starts
    refine .resting (fun since hacting => ?_) hwork
    rw [hafter, Option.some.injEq] at hacting
    cases makes with
    | start armed due =>
      -- nobody holds on to the engine, so the action is over at once
      have dead : s.host.isAlive i = false := by simpa using starts
      simp [Engine.moved, dead, Debouncer.finish] at hacting
    | arm ready queue => simp [Engine.moved] at hacting
    | stop ready told same => simp [Engine.moved, same] at hacting

/-- A turn that is neither for the debouncer nor a move of it sends it a signal at most: a request, or a stop
where the engine is torn down. -/
theorem aside_or_moved {e : Engine} (hturn : ¬s.turn.isDebounced i) (he : s.host.engines[i]? = some e) :
    (∃ move debouncer, s.turn = .attend i ∧
      e.debouncer.next s.host.now (!s.host.isAlive i) = some (move, debouncer)) ∨
    s.leaves.filter (Turn.isDebounced i) = [] ∧ ∃ e', (s.host.perform s.turn).engines[i]? = some e' ∧
      (e'.debouncer = e.debouncer ∨ e'.debouncer = e.debouncer.send .request ∨
        e'.isShutDown ∧ e'.debouncer = e.debouncer.send .stop) := by
  have becomes := becomes_perform s.host s.turn i
  have hleft := filter_leaves_eq_nil hturn
  generalize (s.host.perform s.turn).engines[i]? = after at becomes
  -- a turn changes an engine in one of six ways, and only two of them send its debouncer a signal
  cases becomes with
  | @stretch origin o hs =>
    right
    have horigin : origin ≠ .debouncer := by
      rintro rfl
      exact hturn (isDebounced_of_stretch hs)
    refine ⟨hleft fun hattend => absurd hattend (ne_attend_of_stretch hs), _, rfl, ?_⟩
    rw [Outcome.settled, if_neg fun hsettled => horigin hsettled.1]
    obtain hsame | hsent := (settled_of_stretch he hs).1
    · exact .inl hsame
    · exact .inr (.inl hsent)
  | moved he' hattend hn =>
    rw [he] at he'
    cases he'
    exact .inl ⟨_, _, hattend, hn⟩
  | shutDown he' hbegin _ =>
    rw [he] at he'
    cases he'
    exact .inr ⟨hleft (by simp [hbegin]), _, rfl, .inr (.inr ⟨rfl, rfl⟩)⟩
  | released he' hbegin =>
    rw [he] at he'
    cases he'
    exact .inr ⟨hleft (by simp [hbegin]), _, rfl, .inl rfl⟩
  | created absent _ =>
    rw [he] at absent
    cases absent
  | same _ rests =>
    refine .inr ⟨hleft fun hattend => ?_, e, he, .inl rfl⟩
    simp only [startsSync, he, rests e he hattend]

/-- Every turn keeps a debouncer paced. -/
theorem Paced.perform (paced : Paced i h) (step : Step h (some s) h') : Paced i h' := by
  by_cases hturn : s.turn.isDebounced i
  · exact paced.perform_of_isDebounced step hturn
  have hbefore := step.engines_of_some.1
  have hwork := step.underWay_of_some i
  have hwork' := underWay_perform i s
  rw [if_neg hturn, zero_add] at hwork
  rw [← step.of_some.1, ← hwork] at hwork'
  -- an engine that there is not yet has no debouncer that acts
  rcases he : s.host.engines[i]? with _ | e
  · have hnone : h.underWay i = 0 := by
      apply paced.underWay_eq_zero
      simp [phase?, ← hbefore, he]
    have hstarts : s.turn = .attend i → s.host.startsSync i = false := by
      intro _
      simp only [startsSync, he]
    rw [filter_leaves_eq_nil hturn hstarts, hnone] at hwork'
    refine .resting (fun since hacting => ?_) hwork'
    rw [phase?, step.of_some.1] at hacting
    obtain hnone | ⟨config, hnew⟩ := getElem?_perform_of_none he s.turn
    · rw [hnone] at hacting
      cases hacting
    · rw [hnew] at hacting
      cases hacting
  · obtain ⟨move, debouncer, hattend, hn⟩ | ⟨hleft, e', he', hchange⟩ := aside_or_moved hturn he
    · exact paced.perform_of_moved step hattend he hn
    · rw [hleft] at hwork'
      refine paced.of_same ?_ (hwork'.trans (zero_add _)) step.now_le
      rw [← step.of_some.1] at he'
      rw [hbefore] at he
      rw [phase?_eq he', phase?_eq he]
      obtain hsame | hsent | ⟨-, hsent⟩ := hchange
      · rw [hsame]
      · rw [hsent, Debouncer.phase_send]
      · rw [hsent, Debouncer.phase_send]

/-- Every debouncer is paced, at any time. -/
theorem Trace.paced {latency : Nat} {rules : List Rule} {draws : Draws} {config : Config} {past : List Taken}
    (trace : Trace (start latency rules draws config) past h) (i : Nat) : Paced i h := by
  induction trace with
  | refl =>
    -- a new engine's debouncer is idle, and nothing is under way
    refine .resting (fun since hacting => ?_) rfl
    match i with
    | 0 => cases hacting
    | i + 1 => cases hacting
  | @tail past h h' taken trace step ih =>
    cases taken with
    | none =>
      apply ih.of_same _ (step.underWay_of_none i) step.now_le
      rw [phase?, step.engines_of_none, phase?]
    | some s => exact ih.perform step

end Host

end Scoreboard
