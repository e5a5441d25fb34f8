import Scoreboard.Proofs.Host.Debounced
import Scoreboard.Proofs.Host.Registry

/-!
# No request for a synchronisation is lost

Entering an objective asks for a full synchronisation, which the engine's debouncer starts a window later.
Main statement (`syncsKept_of_trace`): in every trace, an engine's debouncer has one synchronisation under way at
most; and when the debouncer of an engine that is neither torn down nor dropped rests, every objective in the
registry is covered: a debounced synchronisation has begun at least one window after the objective was entered,
and has read the scores of this objective among others, unless the list of players was none (`SyncsKept`).

A request may join others, wait behind a synchronisation that runs, or come after this has taken its objectives.
The invariant that carries the statement follows one objective (`Owed`): its request waits in the queue, or the
deadline is late enough, or the synchronisation is on its way to look at the registry, or it has done so.
-/

namespace Scoreboard.Host

/-- Whether a turn begins a synchronisation of an engine's debouncer. -/
def Taken.Begins (i : Nat) (s : Taken) : Prop := s.turn = .begin .debouncer (.operate i .sync)

/-- Whether a turn takes the list of players for a debounced synchronisation, which goes on with an objective
among others, unless the list is none. -/
def Taken.Includes (i : Nat) (s : Taken) (objective : String) : Prop :=
  ∃ reply, s.turn = .resume .debouncer i .listingPlayers reply ∧
    ∀ players, Reply.players? reply = some players → ∃ e : Engine, objective ∈ e.objectives ∧
      s.stretch? = some (.debouncer, i, e.continueSync (.create players e.objectives))

/-- Whether among some turns a debounced synchronisation has begun, not before a time, and has taken its
objectives, one of them among others. -/
def Covered (i : Nat) (recent : List Taken) (time : Nat) (objective : String) : Prop :=
  ∃ after lists between begins before, recent = after ++ lists :: between ++ begins :: before ∧
    begins.Begins i ∧ time ≤ begins.host.now ∧ (∀ s ∈ between, ¬s.Begins i) ∧ lists.Includes i objective

/-- An engine that has not been torn down, and that somebody has held on to whenever its debouncer was attended
to. -/
structure Lives (i : Nat) (past : List Taken) (h : Host) : Prop where
  running : ∀ e, h.engines[i]? = some e → e.isShutDown = false
  held : ∀ s ∈ past, ∀ e, s.host.engines[i]? = some e → s.turn = .attend i → s.host.isAlive i

/-- Whether the synchronisations of an engine's debouncer come one at a time, and none that is asked for is lost. -/
structure SyncsKept (i : Nat) (past : List Taken) (h : Host) : Prop where
  /-- What is under way for the debouncer is a synchronisation, and there is one at most. -/
  single : (h.underWay i).card ≤ 1 ∧ ∀ t ∈ h.underWay i, t.Syncs i
  /-- While a turn of one is taken, no other one is under way. -/
  alone : ∀ s ∈ past, s.turn.isDebounced i → s.host.underWay i = 0
  /-- Each objective in the registry has been entered by a turn. -/
  entered : ∀ objective ∈ h.registry i, ∃ s ∈ past, objective ∈ s.registered i
  /-- When the debouncer rests, each of them is covered, one window after that turn or later. -/
  covered : Lives i past h → ∀ e, h.engines[i]? = some e → e.debouncer.queue = [] →
    e.debouncer.phase = .idle → ∀ recent s older, past = recent ++ s :: older →
      ∀ objective ∈ s.registered i, Covered i recent (s.host.now + e.config.window) objective

/-- How the synchronisation that an objective has asked for is still to come, not before a time, or has come. -/
inductive Owed (i : Nat) (recent : List Taken) (time : Nat) (objective : String) (h : Host) (d : Debouncer) :
    Prop where
  | requested (waits : .request ∈ d.queue) : Owed i recent time objective h d
  | armed {deadline : Nat} (phase : d.phase = .armed deadline) (later : time ≤ deadline) :
      Owed i recent time objective h d
  | started {since : Nat} (phase : d.phase = .acting since) (later : time ≤ since)
      (work : .begin .debouncer (.operate i .sync) ∈ h.underWay i) : Owed i recent time objective h d
  | listing {between before : List Taken} {begins : Taken} (split : recent = between ++ begins :: before)
      (turn : begins.Begins i) (later : time ≤ begins.host.now) (last : ∀ s ∈ between, ¬s.Begins i)
      {reply : String} (work : .resume .debouncer i .listingPlayers reply ∈ h.underWay i) :
      Owed i recent time objective h d
  | covered (covered : Covered i recent time objective) : Owed i recent time objective h d

/-- A debouncer that goes on: it has not ended, and nothing has told it to. -/
def GoesOn (d : Debouncer) : Prop := d.phase ≠ .stopped ∧ .stop ∉ d.queue

/-- What a turn makes of the debouncer of an engine that lives on. -/
inductive Advances (i : Nat) (s : Taken) (d d' : Debouncer) : Prop where
  | aside (turn : ¬s.turn.isDebounced i) (left : s.leaves.filter (Turn.isDebounced i) = [])
      (same : d' = d ∨ d' = d.send .request) : Advances i s d d'
  | pursues {since : Nat} (phase : d.phase = .acting since) (begun : since ≤ s.host.now)
      (syncs : s.turn.Syncs i) (alone : s.host.underWay i = 0) (same : d' = d ∨ d' = d.finish) :
      Advances i s d d'
  | arms {rest : List Signal} (turn : s.turn = .attend i) (queue : d.queue = .request :: rest)
      (rests : ∀ since, d.phase ≠ .acting since)
      (armed : d' = { d with queue := rest, phase := .armed (s.host.now + d.window) }) : Advances i s d d'
  | starts {deadline : Nat} (turn : s.turn = .attend i) (phase : d.phase = .armed deadline)
      (due : deadline ≤ s.host.now) (starts : s.host.startsSync i)
      (acting : d' = { d with phase := .acting s.host.now }) : Advances i s d d'

variable {i : Nat} {s : Taken} {h h' : Host} {e : Engine} {past recent : List Taken} {time : Nat}
  {objective : String} {d d' : Debouncer}

/-! ### One turn -/

/-- A turn leads the debouncer of an engine that goes on to one of the states that `Advances` lists. -/
theorem advances_of_step (paced : Paced i h) (step : Step h (some s) h') (lives : Lives i (s :: past) h')
    (he : h.engines[i]? = some e) (goesOn : GoesOn e.debouncer) :
    ∃ e', h'.engines[i]? = some e' ∧ Advances i s e.debouncer e'.debouncer := by
  have hbefore := step.engines_of_some
  have running := lives.running
  rw [step.of_some.1] at running ⊢
  -- the turn is the debouncer's own, or a move of it, or for somebody else
  by_cases hturn : s.turn.isDebounced i
  · obtain ⟨since, hphase, begun, syncs, hothers⟩ := paced.turn_of_isDebounced step hturn
    rw [phase?_eq he, Option.some.injEq] at hphase
    rw [← hbefore.2] at begun
    rw [← hbefore.1] at he
    obtain ⟨o, hs, hdebouncer, -⟩ := stretch_of_syncs he syncs
    refine ⟨_, (getElem?_perform_of_stretch hs i).trans (if_pos rfl), .pursues hphase begun syncs hothers ?_⟩
    rw [Outcome.settled]
    split
    · exact .inr (congrArg Debouncer.finish hdebouncer)
    · exact .inl hdebouncer
  rw [← hbefore.1] at he
  obtain ⟨move, debouncer, hattend, hn⟩ | ⟨hleft, e', he', hchange⟩ := aside_or_moved hturn he
  · have alive := lives.held s List.mem_cons_self e he hattend
    have hstarts := startsSync_eq he hn
    have hafter : (s.host.perform s.turn).engines[i]? = some (e.moved move debouncer true) := by
      rw [engines_perform, hattend, ← alive]
      exact (getElem?_attend he hn i).trans (if_pos rfl)
    have hmoved : (e.moved move debouncer true).debouncer = debouncer := if_neg (by simp)
    refine ⟨_, hafter, ?_⟩
    rw [hmoved]
    cases Debouncer.makes_of_next hn with
    | start armed due => exact .starts hattend armed due (by simp [hstarts, alive]) rfl
    | arm ready queue =>
      refine .arms hattend queue (fun since hacting => ?_) rfl
      obtain hidle | ⟨_, harmed, _⟩ := ready <;> simp [*] at hacting
    | stop ready told same =>
      -- nobody has told it to end, and somebody holds on to the engine
      obtain hstop | dead := told
      · exact absurd hstop goesOn.2
      · simp [alive] at dead
  · refine ⟨e', he', .aside hturn hleft ?_⟩
    obtain hsame | hsent | ⟨down, -⟩ := hchange
    · exact .inl hsame
    · exact .inr hsent
    · rw [running e' he'] at down
      cases down

/-- A request does not end a debouncer. -/
theorem GoesOn.send (goesOn : GoesOn d) : GoesOn (d.send .request) := by
  obtain ⟨hphase, hqueue⟩ := goesOn
  refine ⟨by rwa [Debouncer.phase_send], ?_⟩
  unfold Debouncer.send
  split
  · simpa using hqueue
  · exact hqueue

/-- A debouncer that goes on still does after each advance. -/
theorem GoesOn.advances (goesOn : GoesOn d) (advances : Advances i s d d') : GoesOn d' := by
  cases advances with
  | aside _ _ same =>
    obtain rfl | rfl := same
    · exact goesOn
    · exact goesOn.send
  | pursues phase _ _ _ same =>
    obtain rfl | rfl := same
    · exact goesOn
    · refine ⟨by simp [Debouncer.finish, phase], ?_⟩
      rw [Debouncer.queue_finish]
      exact goesOn.2
  | arms _ queue _ armed =>
    have hqueue := goesOn.2
    rw [queue] at hqueue
    rw [armed]
    exact ⟨by simp, fun hstop => hqueue (List.mem_cons_of_mem _ hstop)⟩
  | starts _ _ _ _ acting =>
    rw [acting]
    exact ⟨by simp, goesOn.2⟩

theorem Covered.cons (covered : Covered i recent time objective) (s : Taken) :
    Covered i (s :: recent) time objective := by
  obtain ⟨after, lists, between, begins, before, rfl, hcovered⟩ := covered
  exact ⟨s :: after, lists, between, begins, before, rfl, hcovered⟩

/-- What is owed depends on what is under way alone. -/
theorem Owed.of_underWay (owed : Owed i recent time objective h d) (work : h'.underWay i = h.underWay i) :
    Owed i recent time objective h' d := by
  cases owed with
  | requested waits => exact .requested waits
  | armed phase later => exact .armed phase later
  | started phase later hbegin => exact .started phase later (by rwa [work])
  | listing split turn later last hlisting => exact .listing split turn later last (by rwa [work])
  | covered covered => exact .covered covered

/-- A turn that begins a synchronisation of the debouncer leaves the wait for the players. -/
theorem listing_mem_underWay (he : s.host.engines[i]? = some e) (begins : s.Begins i) :
    ∃ reply, .resume .debouncer i .listingPlayers reply ∈ (s.host.perform s.turn).underWay i := by
  have hs : s.stretch? = some (.debouncer, i, (e.begin .sync s.host.draws).1) :=
    stretch?_eq_some_iff.mpr ⟨e, he, .inl ⟨_, begins, rfl⟩⟩
  have hleaves := resume_mem_leaves.mpr ⟨_, _, hs, rfl, rfl⟩
  refine ⟨s.host.console.respond (Command.batch [.listPlayers]), ?_⟩
  rw [underWay_perform, Multiset.mem_add]
  exact .inl (List.mem_filter.mpr ⟨hleaves, by simp [Turn.isDebounced_resume]⟩)

/-- A turn that takes the players looks at the registry. -/
theorem includes_of_listing {reply : String} (he : s.host.engines[i]? = some e)
    (hturn : s.turn = .resume .debouncer i .listingPlayers reply) (hmem : objective ∈ e.objectives) :
    s.Includes i objective := by
  refine ⟨reply, hturn, fun players hplayers => ⟨e, hmem, ?_⟩⟩
  refine stretch?_eq_some_iff.mpr ⟨e, he, .inr ⟨_, _, hturn, ?_⟩⟩
  rw [Engine.resume, Engine.resumeSync, hplayers]

/-- A turn that is not the debouncer's own, and leaves no such work, leaves what is owed as it is. -/
theorem Owed.aside (owed : Owed i recent time objective h d) (hturn : ¬s.turn.isDebounced i)
    (hwork : h'.underWay i = h.underWay i) (same : d' = d ∨ d' = d.send .request) :
    Owed i (s :: recent) time objective h' d' := by
  have hphase : d'.phase = d.phase := by
    obtain rfl | rfl := same
    · rfl
    · exact Debouncer.phase_send _ _
  -- neither the phase nor what is under way changes, and a queue only grows
  cases owed with
  | requested waits =>
    apply Owed.requested
    obtain rfl | rfl := same
    · exact waits
    · unfold Debouncer.send
      split
      · exact List.mem_append_left _ waits
      · exact waits
  | armed phase later => exact .armed (hphase.trans phase) later
  | started phase later work => exact .started (hphase.trans phase) later (by rwa [hwork])
  | @listing between before begins split turn later last reply work =>
    have hsplit : s :: recent = (s :: between) ++ begins :: before := by rw [split, List.cons_append]
    refine .listing hsplit turn later ?_ (by rwa [hwork])
    intro s' hs'
    rcases List.mem_cons.mp hs' with rfl | hs'
    · intro hbegins
      rw [hbegins] at hturn
      simp [Turn.isDebounced_begin] at hturn
    · exact last s' hs'
  | covered covered => exact .covered (covered.cons s)

/-- The turn that is under way for a debouncer that acts begins the synchronisation, or takes the players for
it, or comes after that. -/
theorem Owed.pursues (owed : Owed i recent time objective h d) {since : Nat} (phase : d.phase = .acting since)
    (begun : since ≤ s.host.now) (hwork : h.underWay i = {s.turn}) (he : s.host.engines[i]? = some e)
    (hmem : objective ∈ e.objectives) (same : d' = d ∨ d' = d.finish) :
    Owed i (s :: recent) time objective (s.host.perform s.turn) d' := by
  -- the beginning of the synchronisation leaves its listing, and the listing reads a registry that has the
  -- objective
  cases owed with
  | requested waits =>
    apply Owed.requested
    obtain rfl | rfl := same
    · exact waits
    · rwa [Debouncer.queue_finish]
  | armed armed _ =>
    rw [phase] at armed
    cases armed
  | started acting later work =>
    rw [phase] at acting
    cases acting
    rw [hwork, Multiset.mem_singleton] at work
    obtain ⟨reply, hlisting⟩ := listing_mem_underWay he work.symm
    have hsplit : s :: recent = [] ++ s :: recent := rfl
    exact .listing hsplit work.symm (Nat.le_trans later begun) (by simp) hlisting
  | @listing between before begins split turn later last reply work =>
    rw [hwork, Multiset.mem_singleton] at work
    have hincludes := includes_of_listing he work.symm hmem
    exact .covered ⟨[], s, between, begins, before, by rw [split]; rfl, turn, later, last, hincludes⟩
  | covered covered => exact .covered (covered.cons s)

/-- What is owed while a debouncer does not act waits in its queue, or for its deadline, or is done. -/
theorem Owed.cases_of_rests (owed : Owed i recent time objective h d)
    (rests : ∀ since, d.phase ≠ .acting since) (none : h.underWay i = 0) :
    .request ∈ d.queue ∨ (∃ deadline, d.phase = .armed deadline ∧ time ≤ deadline) ∨
      Covered i recent time objective := by
  cases owed with
  | requested waits => exact .inl waits
  | armed phase later => exact .inr (.inl ⟨_, phase, later⟩)
  | started acting _ _ => exact absurd acting (rests _)
  | listing _ _ _ _ work =>
    rw [none] at work
    exact absurd work (Multiset.notMem_zero _)
  | covered covered => exact .inr (.inr covered)

/-- What is owed for a registered objective stays owed or is done. -/
theorem Owed.perform (owed : Owed i recent time objective h e.debouncer) (paced : Paced i h)
    (step : Step h (some s) h') (he : h.engines[i]? = some e) (advances : Advances i s e.debouncer d')
    (early : time ≤ h.now + e.debouncer.window) (hmem : objective ∈ e.objectives) :
    Owed i (s :: recent) time objective h' d' := by
  obtain ⟨hengines, hnow⟩ := step.engines_of_some
  have hwork := step.underWay_of_some i
  have hwork' := underWay_perform i s
  have hphase := phase?_eq he
  rw [← hengines] at he
  -- where the debouncer does not act, no synchronisation of its own is on its way
  have hrests : (∀ since, e.debouncer.phase ≠ .acting since) → h.underWay i = 0 := by
    intro rests
    apply paced.underWay_eq_zero
    intro since hacting
    rw [hphase, Option.some.injEq] at hacting
    exact rests since hacting
  rw [step.of_some.1]
  -- each advance hands on what is owed: from the queue to a deadline, from there to the start, then to the listing
  cases advances with
  | aside hturn hleft same =>
    rw [if_neg hturn, zero_add] at hwork
    rw [hleft, ← hwork] at hwork'
    exact owed.aside hturn (hwork'.trans (zero_add _)) same
  | pursues phase begun syncs alone same =>
    rw [if_pos syncs.isDebounced, alone, add_zero] at hwork
    exact owed.pursues phase begun hwork he hmem same
  | arms hturn queue rests armed =>
    -- the new deadline is a window from now
    have harmed : d'.phase = .armed (s.host.now + e.debouncer.window) := by rw [armed]
    have hdeadline : time ≤ s.host.now + e.debouncer.window := by
      rw [hnow]
      exact early
    obtain _ | _ | covered := owed.cases_of_rests rests (hrests rests)
    · exact .armed harmed hdeadline
    · exact .armed harmed hdeadline
    · exact .covered (covered.cons s)
  | starts hturn phase due starts acting =>
    have rests : ∀ since, e.debouncer.phase ≠ .acting since := by simp [phase]
    obtain waits | ⟨deadline, armed, later⟩ | covered := owed.cases_of_rests rests (hrests rests)
    · apply Owed.requested
      rw [acting]
      exact waits
    · rw [phase] at armed
      cases armed
      have hbegin : .begin .debouncer (.operate i .sync) ∈ (s.host.perform s.turn).underWay i := by
        rw [hwork', filter_leaves_of_startsSync hturn starts]
        exact Multiset.mem_add.mpr (.inl (Multiset.mem_coe.mpr List.mem_cons_self))
      exact .started (by rw [acting]) (Nat.le_trans later due) hbegin
    · exact .covered (covered.cons s)

/-- An objective that has just been entered has its request in the queue. -/
theorem owed_of_registered (he : s.host.engines[i]? = some e) (hmem : objective ∈ s.registered i)
    (goesOn : GoesOn e.debouncer) : ∃ e', (s.host.perform s.turn).engines[i]? = some e' ∧
      ∀ time h', Owed i [] time objective h' e'.debouncer := by
  obtain ⟨origin, reply, e', hturn, he', fresh⟩ := mem_registered_iff.mp hmem
  rw [he] at he'
  cases he'
  have hs : s.stretch? = some (origin, i, e.resume (.adding objective) reply) :=
    stretch?_eq_some_iff.mpr ⟨e, he, .inr ⟨_, _, hturn, rfl⟩⟩
  refine ⟨_, (getElem?_perform_of_stretch hs i).trans (if_pos rfl), fun time h' => .requested ?_⟩
  have hrunning : e.debouncer.isRunning := by simpa [Debouncer.isRunning] using goesOn.1
  -- entering an objective that is new sends the debouncer a request
  have hqueue : (e.resume (.adding objective) reply).engine.debouncer.queue = e.debouncer.queue ++ [.request] := by
    obtain ⟨stats, scores, hengine⟩ := e.resume_engine (.adding objective) reply
    rw [hengine]
    simp [Engine.registers, fresh, Debouncer.send, hrunning]
  have hsettled : ((e.resume (.adding objective) reply).settled origin).debouncer.queue =
      e.debouncer.queue ++ [.request] := by
    unfold Outcome.settled
    split
    · exact (Debouncer.queue_finish _).trans hqueue
    · exact hqueue
  rw [hsettled]
  exact List.mem_append_right _ (List.mem_singleton_self _)

/-! ### The whole trace -/

variable {latency : Nat} {rules : List Rule} {draws : Draws} {config : Config}

/-- An engine that lives to the end of a trace lived before its last turn. -/
theorem Lives.of_step (lives : Lives i (s :: past) h') (step : Step h (some s) h') : Lives i past h where
  running e he := by
    rw [← step.engines_of_some.1] at he
    obtain ⟨e', he', -, -, hdown, -⟩ := exists_perform he s.turn
    rw [← step.of_some.1] at he'
    rw [Bool.eq_false_iff]
    intro down
    have hrunning := lives.running e' he'
    rw [hdown down] at hrunning
    cases hrunning
  held s' hs' := lives.held s' (List.mem_cons_of_mem s hs')

theorem Lives.of_none (lives : Lives i past h') (step : Step h none h') : Lives i past h :=
  ⟨by rw [← step.engines_of_none]; exact lives.running, lives.held⟩

/-- The window of a debouncer is the one that its engine is set to. -/
theorem Trace.window_eq (trace : Trace (start latency rules draws config) past h)
    (he : h.engines[i]? = some e) : e.debouncer.window = e.config.window := by
  refine trace.engine_induction (P := fun _ _ e => e.debouncer.window = e.config.window)
    (fun _ _ _ => rfl) (fun _ same => same) ?_ he
  intro past h h' s e e' _ step he he' same
  rw [← step.engines_of_some.1] at he
  obtain ⟨e'', he'', hconfig, hwindow, -, -⟩ := exists_perform he s.turn
  rw [← step.of_some.1, he'] at he''
  cases he''
  rw [hwindow, hconfig, same]

/-- The debouncer of an engine that lives goes on. -/
theorem Trace.goesOn (trace : Trace (start latency rules draws config) past h) (lives : Lives i past h)
    (he : h.engines[i]? = some e) : GoesOn e.debouncer := by
  refine trace.engine_induction (P := fun past h e => Lives i past h → GoesOn e.debouncer)
    (fun _ _ _ _ => ⟨by simp, by simp⟩) (fun step goesOn lives => goesOn (lives.of_none step)) ?_ he lives
  intro past h h' s e e' trace step he he' goesOn lives
  have goesOn := goesOn (lives.of_step step)
  obtain ⟨e'', he'', advances⟩ := advances_of_step (trace.paced i) step lives he goesOn
  rw [he'] at he''
  cases he''
  exact goesOn.advances advances

/-- What an objective has asked for when it was entered is owed ever after, or done. -/
theorem Trace.owed (trace : Trace (start latency rules draws config) past h) (lives : Lives i past h)
    {older : List Taken} (hpast : past = recent ++ s :: older) (hmem : objective ∈ s.registered i) :
    ∃ e, h.engines[i]? = some e ∧
      Owed i recent (s.host.now + e.config.window) objective h e.debouncer := by
  -- what is owed begins with the turn that enters the objective, and each later turn keeps it
  induction trace generalizing recent with
  | refl => exact absurd hpast (by simp)
  | @tail past h h' taken trace step ih =>
    cases taken with
    | none =>
      obtain ⟨e, he, owed⟩ := ih (lives.of_none step) hpast
      rw [← step.engines_of_none] at he
      exact ⟨e, he, owed.of_underWay (step.underWay_of_none i)⟩
    | some last =>
      -- the turn is the one that has entered the objective, or a later one
      cases recent with
      | nil =>
        obtain ⟨rfl, rfl⟩ := List.cons.inj hpast
        obtain ⟨-, -, e, -, he, -⟩ := mem_registered_iff.mp hmem
        have hgoesOn := trace.goesOn (lives.of_step step) (step.engines_of_some.1 ▸ he)
        obtain ⟨e', he', owed⟩ := owed_of_registered he hmem hgoesOn
        rw [← step.of_some.1] at he'
        exact ⟨e', he', owed _ _⟩
      | cons last' recent =>
        obtain ⟨rfl, rfl⟩ := List.cons.inj hpast
        obtain ⟨e, he, owed⟩ := ih (lives.of_step step) rfl
        have goesOn := trace.goesOn (lives.of_step step) he
        obtain ⟨e', he', advances⟩ := advances_of_step (trace.paced i) step lives he goesOn
        have hs : s ∈ recent ++ s :: older := List.mem_append_right _ List.mem_cons_self
        have hregistry : objective ∈ e.objectives := by
          have hregistry := trace.mem_registry_iff.mpr ⟨s, hs, hmem⟩
          rwa [Host.registry_eq he] at hregistry
        have early : s.host.now + e.config.window ≤ h.now + e.debouncer.window := by
          have hnow := trace.now_le_of_mem hs
          have hwindow := trace.window_eq he
          omega
        have hconfig : e'.config = e.config := by
          have hbefore : last.host.engines[i]? = some e := step.engines_of_some.1 ▸ he
          obtain ⟨e'', he'', hconfig, -⟩ := exists_perform hbefore last.turn
          rw [← step.of_some.1, he'] at he''
          cases he''
          exact hconfig
        rw [← hconfig] at owed early
        exact ⟨e', he', owed.perform (trace.paced i) step he advances early hregistry⟩

/-- In every trace, no request for a synchronisation is lost, and the debouncer's synchronisations do not
overlap. -/
theorem syncsKept_of_trace (trace : Trace (start latency rules draws config) past h) (i : Nat) :
    SyncsKept i past h where
  single := by
    cases trace.paced i with
    | resting _ none => simp [none]
    | acting _ _ work syncs =>
      rw [work]
      refine ⟨by simp, fun t ht => ?_⟩
      rwa [Multiset.mem_singleton.mp ht]
  alone s hs hturn := by
    obtain ⟨recent, older, hpast⟩ := List.append_of_mem hs
    obtain ⟨before, after, earlier, step, -⟩ := trace.cut hpast
    obtain ⟨-, -, -, -, hothers⟩ := (earlier.paced i).turn_of_isDebounced step hturn
    exact hothers
  entered objective hmem := trace.mem_registry_iff.mp hmem
  covered lives e he queue idle recent s older hpast objective hmem := by
    obtain ⟨e', he', owed⟩ := trace.owed lives hpast hmem
    rw [he] at he'
    cases he'
    cases owed with
    | covered covered => exact covered
    | requested waits =>
      rw [queue] at waits
      cases waits
    | armed phase _ =>
      rw [idle] at phase
      cases phase
    | started phase _ _ =>
      rw [idle] at phase
      cases phase
    | listing _ _ _ _ work =>
      -- nothing is under way for a debouncer that rests
      have hnone : h.underWay i = 0 := by
        apply (trace.paced i).underWay_eq_zero
        simp [phase?_eq he, idle]
      rw [hnone] at work
      exact absurd work (Multiset.notMem_zero _)

/-- An engine that is held to the end, and not torn down, lives. -/
theorem Trace.lives_of_isHeld {a : Host} (trace : Trace a past h) (he : h.engines[i]? = some e)
    (held : e.isHeld) (running : e.isShutDown = false) : Lives i past h where
  running e' he' := by
    rw [he] at he'
    cases he'
    exact running
  held s hs e' he' _ := by
    obtain ⟨recent, older, hpast⟩ := List.append_of_mem hs
    obtain ⟨before, after, -, step, later⟩ := trace.cut hpast
    have hbefore : before.engines[i]? = some e' := step.engines_of_some.1 ▸ he'
    obtain ⟨e'', he'', -, -, hheld⟩ := ((Trace.tail .refl step).trans later).exists_engine hbefore
    rw [he] at he''
    cases he''
    simp [isAlive, he', hheld held]

/-- A run in which an objective is entered while a synchronisation runs that has taken the objectives already:
there is a second one before the debouncer rests. -/
theorem syncsKept_of_second_sync : ∃ past h e,
    Trace (start 10 [.toStart "scoreboard players list" "There are 1 tracked entity/entities: Alice"] {}
      { window := 5 }) past h ∧ SyncsKept 0 past h ∧ Lives 0 past h ∧ h.engines[0]? = some e ∧
        e.debouncer = { window := 5, queue := [], phase := .idle } ∧
          h.registry 0 = ["tQaBe_kills", "tQaBe_deaths"] ∧ e.stats.fullSyncs = 2 := by
  let rules := [Rule.toStart "scoreboard players list" "There are 1 tracked entity/entities: Alice"]
  let ensure (name : String) := Request.operate 0 (.ensure ⟨"demo", "demo"⟩ name "dummy" name)
  have run : (((((start 10 rules {} { window := 5 }).drive 50 (ensure "kills")).bind
      (drive 50 · (.sleep 12))).bind (drive 50 · (ensure "deaths"))).bind (drive 90 · (.sleep 90))).map
        (fun h => (h.engines.map fun e => (e.debouncer, e.isHeld, e.isShutDown, e.stats.fullSyncs),
          h.registry 0)) =
      some ([({ window := 5, queue := [], phase := .idle }, true, false, 2)],
        ["tQaBe_kills", "tQaBe_deaths"]) := by decide +kernel
  obtain ⟨h, hdriven, hend⟩ := Option.map_eq_some_iff.mp run
  obtain ⟨hengines, hregistry⟩ := Prod.mk.inj hend
  obtain ⟨third, hdriven, hslept⟩ := Option.bind_eq_some_iff.mp hdriven
  obtain ⟨second, hdriven, hdeaths⟩ := Option.bind_eq_some_iff.mp hdriven
  obtain ⟨first, hkills, hpaused⟩ := Option.bind_eq_some_iff.mp hdriven
  obtain ⟨past, trace⟩ := (((steps_of_drive hkills).trans (steps_of_drive hpaused)).trans
    (steps_of_drive hdeaths)).trans (steps_of_drive hslept)
  obtain ⟨e, hlist, he⟩ := List.map_eq_singleton_iff.mp hengines
  simp only [Prod.mk.injEq] at he
  obtain ⟨hdebouncer, held, running, hsyncs⟩ := he
  have hget : h.engines[0]? = some e := by rw [hlist]; rfl
  exact ⟨past, h, e, trace, syncsKept_of_trace trace 0, trace.lives_of_isHeld hget held running, hget,
    hdebouncer, hregistry, hsyncs⟩

end Scoreboard.Host
