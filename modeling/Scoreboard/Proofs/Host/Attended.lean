import Scoreboard.Proofs.Host.Traces

/-!
# Debouncers are attended to

In every trace, a debouncer with a move to make has a task to attend to it that is due, and one with a deadline to
come has a task that is due at the deadline (`Attended`, `Trace.attended`).

A turn can give a debouncer a move to make only if it holds on to the debouncer's engine, as it changes no other
engine and nobody else lets one go; and after such a turn the engine's debouncer is seen to (`isAttended_alert`). All
other tasks stay (`mem_tasks_perform`).
-/

namespace Scoreboard

/-- What a debouncer can do while somebody holds on to it, it can do when it is orphaned too. -/
theorem Debouncer.isSome_next_of_alive {d : Debouncer} {now : Nat} (orphaned : Bool)
    (h : (d.next now false).isSome) : (d.next now orphaned).isSome := by
  have htakeUp : (d.takeUp now false).isSome → (d.takeUp now orphaned).isSome := by
    unfold takeUp
    split <;> simp
  -- a debouncer takes something up when it is idle, or armed with a deadline to come
  cases hphase : d.phase with
  | idle =>
    simp only [next, hphase] at h ⊢
    exact htakeUp h
  | armed deadline =>
    simp only [next, hphase] at h ⊢
    split
    · rfl
    · rename_i early
      rw [if_neg early] at h
      exact htakeUp h
  | acting since => simp [next, hphase] at h
  | stopped => simp [next, hphase] at h

/-- A debouncer that neither acts nor has ended has a move to make if it can take something up. -/
theorem Debouncer.isSome_next_of_takeUp {d : Debouncer} {now : Nat} {orphaned : Bool}
    (takesUp : (d.takeUp now orphaned).isSome) (running : d.phase ≠ .stopped)
    (rests : ∀ since, d.phase ≠ .acting since) : (d.next now orphaned).isSome := by
  cases hphase : d.phase with
  | idle => simpa only [next, hphase] using takesUp
  | armed deadline =>
    simp only [next, hphase]
    split
    · rfl
    · exact takesUp
  | acting since => exact absurd hphase (rests since)
  | stopped => exact absurd hphase running

/-- Who is orphaned has every move to make that it would have otherwise. -/
theorem Debouncer.isSome_next_of_imp {d : Debouncer} {now : Nat} {a b : Bool} (hab : a → b)
    (h : (d.next now !b).isSome) : (d.next now !a).isSome := by
  cases b with
  | true => exact isSome_next_of_alive _ h
  | false =>
    have ha : a = false := by simpa using hab
    rwa [ha]

/-- A move that can be made later can be made now, or a deadline comes in between. -/
theorem Debouncer.next_of_later {d : Debouncer} (now : Nat) {later : Nat} {orphaned : Bool}
    (h : (d.next later orphaned).isSome) :
    (d.next now orphaned).isSome ∨ ∃ deadline, d.phase = .armed deadline ∧ now < deadline ∧ deadline ≤ later := by
  -- whether there is a signal to take up does not depend on the time, only whether the deadline has come
  have htakeUp : (d.takeUp later orphaned).isSome → (d.takeUp now orphaned).isSome := by
    unfold takeUp
    split
    · simp
    · simp
    · split <;> simp
  cases hphase : d.phase with
  | idle =>
    simp only [next, hphase] at h ⊢
    exact .inl (htakeUp h)
  | armed deadline =>
    simp only [next, hphase] at h ⊢
    split
    · exact .inl rfl
    · rename_i early
      by_cases due : deadline ≤ later
      · exact .inr ⟨deadline, rfl, by omega, due⟩
      · rw [if_neg due] at h
        exact .inl (htakeUp h)
  | acting since => simp [next, hphase] at h
  | stopped => simp [next, hphase] at h

namespace Host

/-- Whether an engine's debouncer is attended to if it has a move to make. -/
def IsAttendedTo (h : Host) (i : Nat) : Prop :=
  ∀ e, h.engines[i]? = some e → (e.debouncer.next h.now !(h.isAlive i)).isSome → h.isAttended i

/-- Whether every debouncer is attended to when it has a move to make, and at its deadline. -/
structure Attended (h : Host) : Prop where
  moves : ∀ i, h.IsAttendedTo i
  deadlines : ∀ i e deadline, h.engines[i]? = some e → e.debouncer.phase = .armed deadline → h.now < deadline →
    ⟨deadline, .attend i⟩ ∈ h.tasks

/-! ### One turn -/

section

variable {h h' : Host} {i : Nat} {e : Engine} {t : Turn}

theorem isAttended_iff : h.isAttended i ↔ ∃ u ∈ h.tasks, u.turn = .attend i ∧ u.due ≤ h.now := by
  simp [isAttended]

theorem isAttended_goOn (h : Host) (i : Nat) : (h.goOn (.attend i)).isAttended i :=
  isAttended_iff.mpr ⟨_, List.mem_cons_self, rfl, Nat.le_refl h.now⟩

/-- An engine is alive as long as it is held or a task is to do something for it. -/
theorem isAlive_iff : h.isAlive i ↔
    (∃ e, h.engines[i]? = some e ∧ e.isHeld) ∨ ∃ u ∈ h.tasks, u.turn.engine? = some i := by
  rw [isAlive, Bool.or_eq_true, Option.any_eq_true]
  simp

/-- More tasks keep nobody from being attended to, though they can hold on to an engine. -/
theorem IsAttendedTo.append (attended : h.IsAttendedTo i) (tasks : List Task) (journal : List Entry) :
    IsAttendedTo { h with tasks := h.tasks ++ tasks, journal } i := by
  intro e he moves
  have halive : h.isAlive i → ({ h with tasks := h.tasks ++ tasks, journal } : Host).isAlive i := by
    intro alive
    rw [isAlive_iff] at alive ⊢
    exact alive.imp_right fun ⟨u, hu, hturn⟩ => ⟨u, List.mem_append_left _ hu, hturn⟩
  obtain ⟨u, hu, hturn, due⟩ := isAttended_iff.mp (attended e he (Debouncer.isSome_next_of_imp halive moves))
  exact isAttended_iff.mpr ⟨u, List.mem_append_left _ hu, hturn, due⟩

/-- There is nothing to alert where a debouncer is attended to already. -/
theorem alert_of_isAttendedTo (attended : h.IsAttendedTo i) : h.alert i = h := by
  rcases he : h.engines[i]? with _ | e
  · simp only [alert, he]
  · simp only [alert, he]
    rw [if_neg]
    intro moves
    rw [Bool.and_eq_true, Bool.not_eq_true'] at moves
    rw [attended e he moves.1] at moves
    cases moves.2

/-- After a turn of its engine a debouncer with a move to make is attended to. -/
theorem isAttended_alert (he : (h.alert i).engines[i]? = some e)
    (moves : (e.debouncer.next h.now !((h.alert i).isAlive i)).isSome) : (h.alert i).isAttended i := by
  -- to alert leaves a task for the debouncer, which holds on to nobody
  have halive : (h.alert i).isAlive i = h.isAlive i := by
    unfold alert
    split
    · rfl
    · split
      · simp [isAlive, schedule, Turn.engine?]
      · rfl
  rw [(beside_alert h i).engines] at he
  rw [halive] at moves
  simp only [alert, he, moves, Bool.true_and]
  split
  · exact isAttended_iff.mpr ⟨_, List.mem_append_right _ (List.mem_singleton_self _), rfl, Nat.le_refl h.now⟩
  · rename_i hattended
    simpa using hattended

/-- A debouncer that acts or has ended makes no move. -/
theorem next_eq_none {d : Debouncer} (rests : d.phase = .stopped ∨ ∃ since, d.phase = .acting since) (now : Nat)
    (orphaned : Bool) : d.next now orphaned = none := by
  unfold Debouncer.next
  obtain hstopped | ⟨since, hacting⟩ := rests
  · rw [hstopped]
  · rw [hacting]

/-- A debouncer that has made a move is attended to if it has another one to make. -/
theorem isAttended_attend (he : (h.attend i).engines[i]? = some e) {orphaned : Bool}
    (orphan : orphaned = !(h.isAlive i)) (moves : (e.debouncer.next h.now orphaned).isSome) :
    (h.attend i).isAttended i := by
  -- without an engine or a move nothing happens
  rcases hbefore : h.engines[i]? with _ | before
  · simp only [attend, hbefore] at he
    cases he
  rcases hn : before.debouncer.next h.now !(h.isAlive i) with _ | ⟨move, debouncer⟩
  · simp only [attend, hbefore, hn] at he
    cases he
    rw [orphan, hn] at moves
    cases moves
  rw [getElem?_attend hbefore hn, if_pos rfl, Option.some.injEq] at he
  subst he
  -- after a request is taken up there is a turn to see to what else waits, and after the stop nothing can happen;
  -- the action itself wakes the debouncer when it is over, unless nobody is left to run it
  have hmoved := Debouncer.makes_of_next hn
  simp only [attend, hbefore, hn]
  cases move with
  | arm deadline => exact isAttended_goOn _ i
  | stop =>
    have hdebouncer : (before.moved .stop debouncer (h.isAlive i)).debouncer = debouncer := by simp [Engine.moved]
    rw [hdebouncer] at moves
    cases hmoved with
    | stop _ _ same =>
      rw [next_eq_none (.inl (by rw [same]))] at moves
      cases moves
  | start =>
    by_cases alive : h.isAlive i
    · have hdebouncer : (before.moved .start debouncer (h.isAlive i)).debouncer = debouncer := by
        simp [Engine.moved, alive]
      rw [hdebouncer] at moves
      cases hmoved with
      | start _ _ =>
        rw [next_eq_none (.inr ⟨h.now, rfl⟩)] at moves
        cases moves
    · simp only [alive]
      exact isAttended_goOn _ i

/-- A debouncer that has made a move has a task for its deadline if it has one. -/
theorem mem_tasks_of_moved {move : Debouncer.Move} {debouncer : Debouncer} (he : h.engines[i]? = some e)
    (hn : e.debouncer.next h.now (!(h.isAlive i)) = some (move, debouncer)) {deadline : Nat}
    (phase : (e.moved move debouncer (h.isAlive i)).debouncer.phase = .armed deadline) (early : h.now < deadline) :
    ⟨deadline, .attend i⟩ ∈ (h.attend i).tasks := by
  have hmakes := Debouncer.makes_of_next hn
  simp only [attend, he, hn]
  cases hmakes with
  | start armed due =>
    rw [Engine.moved] at phase
    by_cases alive : h.isAlive i
    · simp [alive] at phase
    · simp [alive, Debouncer.finish] at phase
  | arm ready queue =>
    cases phase
    refine List.mem_cons_of_mem _ ?_
    show _ ∈ (if h.now < h.now + e.debouncer.window then _ else _ : Host).tasks
    rw [if_pos early]
    exact List.mem_append_right _ (List.mem_singleton_self _)
  | stop _ _ same =>
    rw [Engine.moved, same] at phase
    cases phase

/-- A stretch that settles can end the action of a debouncer, which sets no deadline. -/
theorem phase_settled {o : Outcome} {origin : Origin} {deadline : Nat}
    (phase : (o.settled origin).debouncer.phase = .armed deadline) : o.engine.debouncer.phase = .armed deadline := by
  unfold Outcome.settled at phase
  split at phase
  · simp only [Debouncer.finish] at phase
    split at phase
    · cases phase
    · exact phase
  · exact phase

/-- A stretch is work, and holds on to the engine it is for. -/
theorem engine?_of_stretch {r : Origin × Nat × Outcome} (hs : h.stretch? t = some r) :
    t.engine? = some r.2.1 ∧ t.isWork := by
  obtain ⟨e, -, ⟨operation, rfl, -⟩ | ⟨stage, reply, rfl, -⟩⟩ := stretch?_eq_some_iff.mp hs
  · exact ⟨rfl, rfl⟩
  · exact ⟨rfl, rfl⟩

/-- A turn that neither holds on to an engine nor attends to its debouncer leaves it as it is. -/
theorem getElem?_perform_of_other (he : h.engines[i]? = some e) (other : t.engine? ≠ some i)
    (attends : t ≠ .attend i) : (h.perform t).engines[i]? = some e := by
  have becomes := becomes_perform h t i
  generalize (h.perform t).engines[i]? = after at becomes
  cases becomes with
  | stretch hs => exact absurd (engine?_of_stretch hs).1 other
  | moved _ hturn _ => exact absurd hturn attends
  | shutDown _ hturn _ => exact absurd (by rw [hturn]; rfl) other
  | released _ hturn => exact absurd (by rw [hturn]; rfl) other
  | created absent _ => cases he.symm.trans absent
  | same _ _ => exact he

end

/-! ### Every step -/

section

variable {h : Host} {before after : List Task} {t : Task} {i : Nat}

theorem mem_of_taken (mem : h.tasks = before ++ t :: after) {u : Task} (hu : u ∈ h.tasks) (hne : u ≠ t) :
    u ∈ before ++ after := by
  rw [mem, List.mem_append, List.mem_cons] at hu
  rw [List.mem_append]
  exact hu.imp_right (·.resolve_left hne)

/-- The other tasks stay, but for tasks to attend to a debouncer that is attended to. -/
theorem stays_of_taken (mem : h.tasks = before ++ t :: after) {u : Task} (hu : u ∈ h.tasks) (hne : u ≠ t)
    (stays : t.turn.isWork ∨ u.turn ≠ t.turn) : u ∈ ({ h with tasks := before ++ after }.perform t.turn).tasks :=
  mem_tasks_perform (h := { h with tasks := before ++ after }) (mem_of_taken mem hu hne) stays

/-- Nobody lets an engine go but who holds on to it. -/
theorem isAlive_of_taken (mem : h.tasks = before ++ t :: after) (alive : h.isAlive i)
    (other : t.turn.engine? ≠ some i) : ({ h with tasks := before ++ after }.perform t.turn).isAlive i := by
  -- an engine that is held stays held, and one that a task holds on to keeps the task
  obtain ⟨e, he, held⟩ | ⟨u, hu, hengine⟩ := isAlive_iff.mp alive
  · have becomes := becomes_perform { h with tasks := before ++ after } t.turn i
    apply isAlive_iff.mpr
    left
    generalize ({ h with tasks := before ++ after }.perform t.turn).engines[i]? = changed at becomes
    cases becomes with
    | stretch hs => exact absurd (engine?_of_stretch hs).1 other
    | moved he' _ _ =>
      cases he.symm.trans he'
      exact ⟨_, rfl, held⟩
    | shutDown _ hturn _ => exact absurd (by rw [hturn]; rfl) other
    | released _ hturn => exact absurd (by rw [hturn]; rfl) other
    | created absent _ => cases he.symm.trans absent
    | same _ _ => exact ⟨e, he, held⟩
  · have hne : u ≠ t := by
      rintro rfl
      exact other hengine
    refine isAlive_iff.mpr (.inr ⟨u, stays_of_taken mem hu hne (.inr ?_), hengine⟩)
    intro hturn
    exact other (hturn ▸ hengine)

/-- After a turn every debouncer with a move to make is attended to. Three turns can give it one: a turn of its
engine, after which the engine is alerted; one that attends to it, which goes on as long as there are moves; and one
that makes the engine. For any other the move could be made before, and the task for it stays. -/
theorem Attended.moves_perform (attended : Attended h) (mem : h.tasks = before ++ t :: after) {e : Engine}
    (he : ({ h with tasks := before ++ after }.perform t.turn).engines[i]? = some e)
    (moves : (e.debouncer.next h.now
      !(({ h with tasks := before ++ after }.perform t.turn).isAlive i)).isSome) :
    ({ h with tasks := before ++ after }.perform t.turn).isAttended i := by
  let rest : Host := { h with tasks := before ++ after }
  have hnow : (rest.perform t.turn).now = h.now := now_perform rest t.turn
  change (rest.perform t.turn).engines[i]? = some e at he
  change (e.debouncer.next h.now !((rest.perform t.turn).isAlive i)).isSome at moves
  -- a turn of the engine itself alerts it afterwards
  by_cases hengine : t.turn.engine? = some i
  · have hperform : rest.perform t.turn = (rest.run t.turn).alert i := by rw [Host.perform, hengine]
    rw [← hnow, hperform, (adds_alert _ i).now] at moves
    rw [hperform] at he
    show (rest.perform t.turn).isAttended i
    rw [hperform]
    exact isAttended_alert he moves
  have halive := fun alive => isAlive_of_taken mem (i := i) alive hengine
  -- a turn that attends to the debouncer goes on while there are moves
  by_cases hattend : t.turn = .attend i
  · have hperform : rest.perform t.turn = rest.attend i := by rw [hattend]; rfl
    have hrest : rest.isAlive i → (rest.perform t.turn).isAlive i := by
      intro alive
      apply halive
      rw [isAlive_iff] at alive ⊢
      refine alive.imp_right fun ⟨u, hu, hturn⟩ => ⟨u, ?_, hturn⟩
      have hu : u ∈ before ++ after := hu
      rw [mem, List.mem_append, List.mem_cons]
      exact (List.mem_append.mp hu).imp_right .inr
    have moves := Debouncer.isSome_next_of_imp hrest moves
    rw [hperform] at he
    show (rest.perform t.turn).isAttended i
    rw [hperform]
    exact isAttended_attend he rfl moves
  rcases hbefore : rest.engines[i]? with _ | before'
  -- a new engine's debouncer has no move to make
  · obtain hnone | ⟨config, hnew⟩ := getElem?_perform_of_none hbefore t.turn
    · cases he.symm.trans hnone
    · have alive : (rest.perform t.turn).isAlive i := isAlive_iff.mpr (.inl ⟨_, hnew, rfl⟩)
      cases he.symm.trans hnew
      rw [alive] at moves
      cases moves
  -- any other could make the move before the turn, and was attended to
  · cases he.symm.trans (getElem?_perform_of_other hbefore hengine hattend)
    obtain ⟨u, hu, hturn, hdue⟩ :=
      isAttended_iff.mp (attended.moves i e hbefore (Debouncer.isSome_next_of_imp halive moves))
    have hne : u.turn ≠ t.turn := by
      rw [hturn]
      exact fun same => hattend same.symm
    have hstays := stays_of_taken mem hu (fun same => hne (congrArg Task.turn same)) (.inr hne)
    exact isAttended_iff.mpr ⟨u, hstays, hturn, hdue.trans hnow.ge⟩

/-- After a turn every deadline that is to come has its task: it was set by this turn, which leaves the task, or the
task was there and is not the one taken, as that is due. -/
theorem Attended.deadlines_perform (attended : Attended h) (mem : h.tasks = before ++ t :: after)
    (due : t.due ≤ h.now) {e : Engine} {deadline : Nat}
    (he : ({ h with tasks := before ++ after }.perform t.turn).engines[i]? = some e)
    (phase : e.debouncer.phase = .armed deadline) (early : h.now < deadline) :
    ⟨deadline, .attend i⟩ ∈ ({ h with tasks := before ++ after }.perform t.turn).tasks := by
  have hne : (⟨deadline, .attend i⟩ : Task) ≠ t := by
    rintro rfl
    exact absurd due (by simpa using early)
  -- the deadline was the same before, with a task that stays
  have hbefore : ∀ e, h.engines[i]? = some e → e.debouncer.phase = .armed deadline →
      (t.turn.isWork ∨ Turn.attend i ≠ t.turn) →
        ⟨deadline, .attend i⟩ ∈ ({ h with tasks := before ++ after }.perform t.turn).tasks :=
    fun e he phase stays => stays_of_taken mem (attended.deadlines i e deadline he phase early) hne stays
  have becomes := becomes_perform { h with tasks := before ++ after } t.turn i
  rw [he] at becomes
  generalize hafter : some e = changed at becomes
  cases becomes with
  | @stretch origin o hs =>
    cases hafter
    obtain ⟨before', he', -⟩ := stretch?_eq_some_iff.mp hs
    have hphase := phase_settled phase
    have hphase : before'.debouncer.phase = .armed deadline := by
      obtain hsame | hsent := (settled_of_stretch he' hs).1
      · rwa [hsame] at hphase
      · rwa [hsent, Debouncer.phase_send] at hphase
    exact hbefore before' he' hphase (.inl (engine?_of_stretch hs).2)
  | moved he' hturn hn =>
    cases hafter
    rw [hturn]
    exact mem_tasks_of_moved he' hn phase early
  | @shutDown before' origin he' hturn _ =>
    cases hafter
    have hphase : (before'.debouncer.send .stop).phase = .armed deadline := phase
    rw [Debouncer.phase_send] at hphase
    exact hbefore before' he' hphase (.inl (by rw [hturn]; rfl))
  | @released before' origin he' hturn =>
    cases hafter
    exact hbefore before' he' phase (.inl (by rw [hturn]; rfl))
  | created _ _ =>
    cases hafter
    cases phase
  | same elsewhere rests =>
    by_cases hattend : t.turn = .attend i
    -- a debouncer that has no move to make leaves all tasks as they are
    · have hn := rests e hafter.symm hattend
      have hsame : ({ h with tasks := before ++ after } : Host).attend i = { h with tasks := before ++ after } := by
        simp only [attend, ← hafter, hn]
      rw [hattend]
      show _ ∈ (({ h with tasks := before ++ after } : Host).attend i).tasks
      rw [hsame]
      exact mem_of_taken mem (attended.deadlines i e deadline hafter.symm phase early) hne
    · exact hbefore e hafter.symm phase (.inr fun same => hattend same.symm)

/-- A turn keeps debouncers attended to. -/
theorem Attended.perform (attended : Attended h) (mem : h.tasks = before ++ t :: after) (due : t.due ≤ h.now) :
    Attended ({ h with tasks := before ++ after }.perform t.turn) where
  moves i e he moves := by
    rw [now_perform] at moves
    exact attended.moves_perform mem he moves
  deadlines i e deadline he phase early := by
    rw [now_perform] at early
    exact attended.deadlines_perform mem due he phase early

end

/-- Every step keeps debouncers attended to. Where time passes, it goes no further than the next task, so a
debouncer whose deadline comes has its task due at that very time. -/
theorem Attended.step {h h' : Host} {taken : Option Taken} (attended : Attended h) (step : Step h taken h') :
    Attended h' := by
  cases step with
  | turn mem due => exact attended.perform mem due
  | @pass time later early =>
    constructor
    · intro i e he moves
      -- a move that can be made now could be made before, or its deadline has come
      obtain hnow | ⟨deadline, phase, hdeadline, hdue⟩ := Debouncer.next_of_later h.now moves
      · obtain ⟨u, hu, hturn, hdue⟩ := isAttended_iff.mp (attended.moves i e he hnow)
        exact isAttended_iff.mpr ⟨u, hu, hturn, hdue.trans later⟩
      · exact isAttended_iff.mpr ⟨_, attended.deadlines i e deadline he phase hdeadline, rfl, hdue⟩
    · intro i e deadline he phase hdeadline
      exact attended.deadlines i e deadline he phase (Nat.lt_of_le_of_lt later hdeadline)
  | ask request =>
    refine ⟨fun i => (attended.moves i).append _ h.journal, fun i e deadline he phase early => ?_⟩
    exact List.mem_append_left _ (attended.deadlines i e deadline he phase early)
  | respond _ => exact ⟨attended.moves, attended.deadlines⟩
  | delay _ => exact ⟨attended.moves, attended.deadlines⟩

/-- In every trace debouncers are attended to, as the first engine's has nothing to do. -/
theorem Trace.attended {latency : Nat} {rules : List Rule} {draws : Draws} {config : Config} {past : List Taken}
    {h : Host} (trace : Trace (start latency rules draws config) past h) : Attended h := by
  induction trace with
  | refl =>
    constructor
    · intro i e he moves
      match i with
      | 0 =>
        cases he
        cases moves
      | i + 1 => cases he
    · intro i e deadline he phase _
      match i with
      | 0 =>
        cases he
        cases phase
      | i + 1 => cases he
  | tail _ step ih => exact ih.step step

/-- No time passes while a debouncer is attended to. -/
theorem Step.now_of_isAttended {h h' : Host} {i : Nat} (step : Step h none h') (attended : h.isAttended i) :
    h'.now = h.now := by
  cases step with
  | pass later early =>
    obtain ⟨u, hu, -, due⟩ := isAttended_iff.mp attended
    exact Nat.le_antisymm ((early u hu).trans due) later
  | ask request => rfl
  | respond _ => rfl
  | delay _ => rfl

/-- Work that waits is taken before time passes beyond when it is due. -/
theorem Trace.taken_or_waits {a h : Host} {recent : List Taken} {u : Task} (trace : Trace a recent h)
    (hu : u ∈ a.tasks) (work : u.turn.isWork) :
    (u ∈ h.tasks ∧ h.now ≤ max a.now u.due) ∨ ∃ s ∈ recent, s.turn = u.turn := by
  induction trace with
  | refl => exact .inl ⟨hu, Nat.le_max_left _ _⟩
  | @tail recent h h' taken trace step ih =>
    obtain ⟨hmem, hnow⟩ | ⟨s, hs, hturn⟩ := ih
    swap
    · exact .inr ⟨s, List.mem_append_right _ hs, hturn⟩
    cases step with
    | @turn before after t mem due =>
      -- work is taken off only when it is done
      by_cases same : u = t
      · subst same
        exact .inr ⟨_, List.mem_cons_self, rfl⟩
      · refine .inl ⟨stays_of_taken mem hmem same ?_, by rw [now_perform]; exact hnow⟩
        by_cases hwork : t.turn.isWork
        · exact .inl hwork
        · exact .inr fun hturn => hwork (hturn ▸ work)
    | pass later early => exact .inl ⟨hmem, (early u hmem).trans (Nat.le_max_right _ _)⟩
    | ask request => exact .inl ⟨List.mem_append_left _ hmem, hnow⟩
    | respond _ => exact .inl ⟨hmem, hnow⟩
    | delay _ => exact .inl ⟨hmem, hnow⟩

end Host

end Scoreboard
