import Mathlib.Data.Prod.Lex
import Scoreboard.Proofs.Engine.Scores
import Scoreboard.Proofs.Host.Driven
import Scoreboard.Proofs.Host.Hops
import Scoreboard.Proofs.Host.Processors
import Scoreboard.Proofs.SyncRequests

/-!
# An engine that is torn down is inert

The teardown of an engine sets a flag, sends its debouncer a stop behind the requests that wait, and takes away
a processor. Main statement (`inert_of_trace`): in every trace an engine is inert from its teardown on, whatever it
is at by then and whatever comes after. It hears no line, while what is on its way goes on to its end: the
synchronisation that runs, and every fire, also one that still waits to be looked up. A later teardown changes
nothing (`Inert`). Nor does a debounced synchronisation start any more, where the window is not empty and the
deadline is still to come at the teardown (`Rests`), as it is in every clocked trace.

The stop is what keeps synchronisations from starting, and it may wait behind requests for as long as one runs.
Two invariants carry this. On every trace, a debouncer whose engine has been torn down has been told to stop
(`Debouncer.IsTold`). And one that has been told, with no deadline that has come, comes to the stop first
(`Debouncer.IsEnding`): taking up a request puts the deadline a window away, and no time passes while the debouncer
has a signal to take up. A deadline that had come already is the only one that can still be met, and once.
-/

namespace Scoreboard

namespace Debouncer

/-- Whether a debouncer has been told to stop: it has ended, or the stop is among the signals that wait. -/
def IsTold (d : Debouncer) : Prop := d.phase = .stopped ∨ .stop ∈ d.queue

/-- Whether a debouncer has been told to stop and comes to it before its deadline. -/
structure IsEnding (d : Debouncer) (now : Nat) : Prop where
  told : d.IsTold
  early : ∀ deadline, d.phase = .armed deadline → now < deadline

variable {d d' : Debouncer} {now : Nat} {orphaned : Bool} {move : Move}

/-- A debouncer that is sent a stop has been told, also one that has ended and takes no signal. -/
theorem isTold_send_stop (d : Debouncer) : (d.send .stop).IsTold := by
  unfold Debouncer.send
  split
  · exact .inr (List.mem_append_right _ (List.mem_singleton_self _))
  · rename_i ended
    exact .inl (by simpa [isRunning] using ended)

/-- More signals queue up behind the stop. -/
theorem IsTold.send (told : d.IsTold) (signal : Signal) : (d.send signal).IsTold := by
  unfold Debouncer.send
  split
  · exact told.imp_right fun waits => List.mem_append_left _ waits
  · exact told

/-- The end of the action leaves the signals that wait. -/
theorem IsTold.finish (told : d.IsTold) : d.finish.IsTold := by
  unfold Debouncer.finish
  split
  · rename_i acting
    refine .inr (told.resolve_left fun stopped => ?_)
    rw [acting] at stopped
    cases stopped
  · exact told

/-- The stop waits until it is taken up, behind the requests that came before it. -/
theorem IsTold.moved (told : d.IsTold) (hn : d.next now orphaned = some (move, d')) : d'.IsTold := by
  have running : d.phase ≠ .stopped := by
    intro stopped
    simp [next, stopped] at hn
  have waits := told.resolve_left running
  cases makes_of_next hn with
  | start _ _ => exact .inr waits
  | arm _ queue =>
    rw [queue, List.mem_cons] at waits
    exact .inr (waits.resolve_left (by simp))
  | stop _ _ same => exact .inl (by rw [same])

/-- Where a stop waits there is a signal to take up, if only a request before it. -/
theorem isSome_takeUp_of_stop (told : .stop ∈ d.queue) (now : Nat) (orphaned : Bool) : (d.takeUp now orphaned).isSome := by
  unfold takeUp
  split
  · rfl
  · rfl
  · rename_i queue
    rw [queue] at told
    cases told

/-- A debouncer that has been told to stop has no need of being orphaned to make a move. -/
theorem IsTold.isSome_next (told : d.IsTold) (moves : (d.next now orphaned).isSome) (other : Bool) :
    (d.next now other).isSome := by
  obtain stopped | waits := told
  · simp [next, stopped] at moves
  refine isSome_next_of_takeUp (isSome_takeUp_of_stop waits now other) (fun stopped => ?_) fun since acting => ?_
  · simp [next, stopped] at moves
  · simp [next, acting] at moves

/-- A debouncer that comes to a stop does not start its action. -/
theorem IsEnding.ne_start (ending : d.IsEnding now) (hn : d.next now orphaned = some (move, d')) :
    move ≠ .start := by
  rintro rfl
  cases makes_of_next hn with
  | start armed due => exact absurd due (Nat.not_le.mpr (ending.early _ armed))

end Debouncer

/-- How far a debounced synchronisation is from its end: it is to begin, to take the players, or to take some
scores. -/
def Turn.ahead : Turn → Nat ×ₗ Nat
  | .resume _ _ (.syncing sync) _ => toLex (0, sync.left.length)
  | .resume .. => toLex (1, 0)
  | _ => toLex (2, 0)

namespace Host

/-- How the last turn of a debounced synchronisation ends it. -/
inductive Taken.Ends (i : Nat) (s : Taken) : Prop where
  /-- Everything has been read, and what has been read is published at once. -/
  | publishes {e : Engine} {sync : Sync} (engine : s.host.engines[i]? = some e) (read : sync.left = [])
      (stretch : s.stretch? = some (.debouncer, i, e.continueSync sync))
      (scores : (s.host.perform s.turn).engines[i]?.map Engine.scores = some (sync.publish e.scores)) : Ends i s
  /-- The console has not said who the players are. -/
  | unread {reply : String} (turn : s.turn = .resume .debouncer i .listingPlayers reply)
      (unread : Reply.players? reply = none) : Ends i s

/-- What becomes of an engine from a turn that is its teardown on. -/
structure Inert (i : Nat) (s : Taken) (recent : List Taken) (h : Host) : Prop where
  /-- The teardown leaves to every engine what it remembers: registry, cache, triggers and counters. -/
  kept : ∀ j, (s.host.perform s.turn).memory? j = s.host.memory? j
  /-- Afterwards the engine takes no line for a fire. A line that is shown to it changes nothing, and lines that
  the console puts out change no engine. -/
  deaf : ∀ s' ∈ recent, s'.heardBy i = [] ∧ (∀ line, s'.host.offer i line = s'.host) ∧
    ∀ lines, s'.turn.emits? = some lines → (s'.host.perform s'.turn).engines = s'.host.engines
  /-- So the fires of lines that go on from hop to hop are those that were on their way. -/
  hops : s.host.waiting i = (lookups i recent).filterMap Lookup.ofLine? + h.waiting i ∧ Hopped i s.host recent h
  /-- When none is on its way any more, each that was has had its trigger enabled, if this was bound, and its
  callback run. -/
  completes : ¬h.isHopping i →
    ((s.host.boundAmong i (s.host.waiting i)).map fun f => "scoreboard players enable @a " ++ f.1.trigger) ≤
        (recent.flatMap Taken.deeds).filterMap (Event.enabled? i) ∧
      s.host.boundAmong i (s.host.waiting i) + s.host.enabling i + s.host.calling i ≤ ran i recent
  /-- A debounced synchronisation that was under way is so still, or has had its last turn. -/
  finishes : s.host.underWay i ≠ 0 → h.underWay i ≠ 0 ∨ ∃ s' ∈ recent, s'.Ends i
  /-- Each turn of it is the last or leaves one that is nearer to the end. -/
  nears : ∀ s' ∈ recent, s'.turn.isDebounced i →
    s'.Ends i ∨ ∃ t, s'.leaves.filter (Turn.isDebounced i) = [t] ∧ t.ahead < s'.turn.ahead
  /-- A later teardown leaves the host as it is but for the journal, processors included. -/
  again : ∀ s' ∈ recent, ∀ origin, s'.turn = .begin origin (.shutDown i) →
    ∃ news, s'.host.perform s'.turn = { s'.host with journal := news ++ s'.host.journal }
  /-- If there is one more, whatever could happen happens as without it, and is clocked if it was. -/
  inserted : ∀ origin, ∃ news,
    h.perform (.begin origin (.shutDown i)) = { h with journal := news ++ h.journal } ∧
      (∀ later h', Trace h later h' → ∃ later' added, later'.map (·.turn) = later.map (·.turn) ∧
        h'.journal = added ++ h.journal ∧ Trace (h.perform (.begin origin (.shutDown i))) later'
          { h' with journal := added ++ (news ++ h.journal) }) ∧
      ∀ later h', Clocked h later h' → ∃ later' added, later'.map (·.turn) = later.map (·.turn) ∧
        h'.journal = added ++ h.journal ∧ Clocked (h.perform (.begin origin (.shutDown i))) later'
          { h' with journal := added ++ (news ++ h.journal) }

/-- After a turn, no debounced synchronisation starts, and one that begins was under way. -/
def Rests (i : Nat) (s : Taken) (recent : List Taken) : Prop :=
  ∀ s' ∈ recent, (s'.turn = .attend i → s'.host.startsSync i = false) ∧ (s'.Begins i → s'.turn ∈ s.host.underWay i)

/-- Whether a turn starts a debounced synchronisation of an engine. -/
def Taken.startsSync (i : Nat) (s : Taken) : Bool := s.turn.attends i && s.host.startsSync i

variable {latency : Nat} {rules : List Rule} {draws : Draws} {config : Config} {h h' : Host}
  {past recent older : List Taken} {s s' : Taken} {i : Nat} {e e' : Engine} {origin : Origin}

/-! ### The teardown -/

/-- A teardown after the first one leaves entries in the journal and nothing else. -/
theorem perform_of_isShutDown (he : h.engines[i]? = some e) (down : e.isShutDown) (attended : h.IsAttendedTo i)
    (origin : Origin) : ∃ news,
      h.perform (.begin origin (.shutDown i)) = { h with journal := news ++ h.journal } := by
  have hshutDown : (h.record (.begun origin (.shutDown i))).shutDown i = h.record (.begun origin (.shutDown i)) := by
    have hget : (h.record (.begun origin (.shutDown i))).engines[i]? = some e := he
    simp only [shutDown, hget, down, if_true]
  have hperform : h.perform (.begin origin (.shutDown i)) =
      ((h.record (.begun origin (.shutDown i))).answer origin .nothing).alert i := by
    show (((h.record _).shutDown i).answer origin .nothing).alert i = _
    rw [hshutDown]
  -- an answer is an entry or two, and the engine need not be alerted
  obtain ⟨news, hnews⟩ : ∃ news, (h.record (.begun origin (.shutDown i))).answer origin .nothing =
      { h with journal := news ++ h.journal } := by
    cases origin with
    | foreground | spawned _ => exact ⟨[_, _], rfl⟩
    | debouncer | line => exact ⟨[_], rfl⟩
  have hattended : IsAttendedTo { h with journal := news ++ h.journal } i := attended
  exact ⟨news, by rw [hperform, hnews, alert_of_isAttendedTo hattended]⟩

/-- An engine that a turn shuts down is shut down by its teardown. -/
theorem eq_shutDown {t : Turn} (he : h.engines[i]? = some e) (he' : (h.perform t).engines[i]? = some e')
    (up : e.isShutDown = false) (down : e'.isShutDown) : e' = e.shutDown := by
  have becomes := becomes_perform h t i
  generalize (h.perform t).engines[i]? = after at becomes he'
  -- of all turns only the teardown raises the flag
  cases becomes with
  | stretch hs =>
    cases he'
    rw [(settled_of_stretch he hs).2.2.1, up] at down
    cases down
  | moved he'' _ _ | released he'' _ =>
    cases he.symm.trans he''
    cases he'
    exact absurd down (by simp [up, Engine.moved])
  | shutDown he'' _ _ =>
    cases he.symm.trans he''
    cases he'
    rfl
  | created absent _ => cases he.symm.trans absent
  | same _ _ =>
    cases he.symm.trans he'
    rw [up] at down
    cases down

/-- After a teardown, the first or a later one, the engine has been torn down. -/
theorem exists_shutDown (tears : s.TearsDown i e) : ∃ e', (s.host.perform s.turn).engines[i]? = some e' ∧
    e'.config = e.config ∧ e'.isShutDown := by
  obtain ⟨he, origin, hturn⟩ := tears
  have hget : (s.host.record (.begun origin (.shutDown i))).engines[i]? = some e := he
  rw [engines_perform, hturn, run, begin, (beside_answer _ origin _).engines, shutDown, hget]
  -- a later teardown finds the flag up and leaves the engine as it is
  by_cases down : e.isShutDown
  · simp only [down, if_true]
    exact ⟨e, hget, rfl, down⟩
  · simp only [down]
    rw [if_neg (by simp), (beside_note _ i _).engines]
    exact ⟨e.shutDown, (getElem?_setEngine hget _ i).trans (if_pos rfl), rfl, rfl⟩

/-! ### Debouncers that come to a stop -/

/-- In every trace, the debouncer of an engine that has been torn down has been told to stop. -/
theorem Trace.isTold (trace : Trace (start latency rules draws config) past h) (he : h.engines[i]? = some e)
    (down : e.isShutDown) : e.debouncer.IsTold := by
  refine trace.engine_induction (P := fun _ _ e => e.isShutDown → e.debouncer.IsTold) ?_ ?_ ?_ he down
  · intro _ _ _ down
    cases down
  · exact fun _ told => told
  · intro past h h' s e e' _ step he he' told down
    rw [← step.engines_of_some.1] at he
    rw [step.of_some.1] at he'
    by_cases before : e.isShutDown
    · exact debouncer_perform he he' (told before) (fun _ signal told => told.send signal)
        (fun _ told => told.finish) fun _ _ _ hn => (told before).moved hn
    -- this turn is the teardown
    · obtain rfl := eq_shutDown he he' (by simpa using before) down
      exact Debouncer.isTold_send_stop _

/-- A turn leaves a debouncer that has been told to stop before its deadline if it has found it so, as it puts a
deadline a window away or leaves it. -/
theorem isEnding_perform {t : Turn} (he : h.engines[i]? = some e) (he' : (h.perform t).engines[i]? = some e')
    (window : 0 < e.debouncer.window) (told : e'.debouncer.IsTold)
    (early : ∀ deadline, e.debouncer.phase = .armed deadline → h.now < deadline) : e'.debouncer.IsEnding h.now := by
  refine ⟨told, fun deadline armed => ?_⟩
  obtain ⟨_, hbefore, hphase⟩ | rfl := deadline_perform he' armed
  · cases he.symm.trans hbefore
    exact early deadline hphase
  · obtain ⟨_, hafter, -, hwindow, -⟩ := exists_perform he t
    cases he'.symm.trans hafter
    rw [hwindow]
    exact Nat.lt_add_of_pos_right window

/-- A debouncer that comes to a stop does so after every step: a turn puts a deadline a window away at least, and time
does not pass while there is a stop to take up. -/
theorem Step.isEnding {taken : Option Taken} (step : Step h taken h') (attended : h.IsAttendedTo i)
    (he : h.engines[i]? = some e) (he' : h'.engines[i]? = some e') (window : 0 < e.debouncer.window)
    (told : e'.debouncer.IsTold) (ending : e.debouncer.IsEnding h.now) : e'.debouncer.IsEnding h'.now := by
  cases taken with
  | some s =>
    obtain ⟨rfl, -⟩ := step.of_some
    obtain ⟨hengines, hnow⟩ := step.engines_of_some
    rw [now_perform, hnow]
    rw [← hnow] at ending ⊢
    exact isEnding_perform (hengines ▸ he) he' window told ending.early
  | none =>
    rw [step.engines_of_none] at he'
    cases he.symm.trans he'
    -- one that has not ended has the stop to take up, so it is attended to
    obtain stopped | waits := told
    · refine ⟨.inl stopped, fun deadline armed => ?_⟩
      rw [stopped] at armed
      cases armed
    refine ⟨.inr waits, fun deadline armed => ?_⟩
    have moves : (e.debouncer.next h.now !(h.isAlive i)).isSome :=
      Debouncer.isSome_next_of_takeUp (Debouncer.isSome_takeUp_of_stop waits _ _) (by simp [armed]) (by simp [armed])
    rw [step.now_of_isAttended (attended e he moves)]
    exact ending.early deadline armed

/-- In a trace from where the debouncer of an engine that has been torn down comes to a stop, it does so at every
time. -/
theorem Trace.isEnding {a : Host} (earlier : Trace (start latency rules draws config) older a)
    (later : Trace a recent h) (he : a.engines[i]? = some e) (window : 0 < e.config.window) (down : e.isShutDown)
    (ending : e.debouncer.IsEnding a.now) (he' : h.engines[i]? = some e') : e'.debouncer.IsEnding h.now := by
  induction later generalizing e' with
  | refl =>
    cases he.symm.trans he'
    exact ending
  | @tail recent h h' taken later step ih =>
    obtain ⟨before, hbefore, hconfig, hdown, -⟩ := later.exists_engine he
    have trace := earlier.trans later
    obtain ⟨_, hafter, -, hdown', -⟩ := (later.tail step).exists_engine he
    cases he'.symm.trans hafter
    have hwindow : 0 < before.debouncer.window := by rwa [trace.window_eq hbefore, hconfig]
    exact step.isEnding (trace.attended.moves i) hbefore he' hwindow ((trace.tail step).isTold he' (hdown' down))
      (ih hbefore)

/-- A turn that does not attend to it leaves a debouncer that has been told to stop attended to. -/
theorem isAttendedTo_of_taken (attended : h.IsAttendedTo i) (step : Step h (some s) h')
    (he : h.engines[i]? = some e) (told : e.debouncer.IsTold) (other : s.turn ≠ .attend i) :
    s.host.IsAttendedTo i := by
  intro e' he' moves
  rw [step.engines_of_some.1] at he'
  rw [step.engines_of_some.2] at moves
  cases he.symm.trans he'
  -- to take the turn off may leave the engine to nobody, which is no matter to the debouncer
  obtain ⟨u, hu, hturn, due⟩ := isAttended_iff.mp (attended e he (told.isSome_next moves _))
  cases step with
  | turn mem _ =>
    refine isAttended_iff.mpr ⟨u, mem_of_taken mem hu ?_, hturn, due⟩
    rintro rfl
    exact other hturn

/-- In every trace, an engine that has been torn down stays so. -/
theorem Trace.isShutDown (trace : Trace (start latency rules draws config) past h)
    (hpast : past = recent ++ s :: older) (tears : s.TearsDown i e) :
    ∃ e', h.engines[i]? = some e' ∧ e'.isShutDown := by
  obtain ⟨before, after, -, step, later⟩ := trace.cut hpast
  obtain ⟨down, hdown, -, isDown⟩ := exists_shutDown tears
  rw [← step.of_some.1] at hdown
  obtain ⟨e', he', -, hkept, -⟩ := later.exists_engine hdown
  exact ⟨e', he', hkept isDown⟩

/-- Every turn after a teardown finds the engine torn down, and its debouncer attended to. -/
theorem Trace.isShutDown_of_mem (trace : Trace (start latency rules draws config) past h)
    (hpast : past = recent ++ s :: older) (tears : s.TearsDown i e) (hs : s' ∈ recent) :
    ∃ e', s'.host.engines[i]? = some e' ∧ e'.isShutDown ∧ (s'.turn ≠ .attend i → s'.host.IsAttendedTo i) := by
  obtain ⟨newer, between, rfl⟩ := List.append_of_mem hs
  rw [List.append_assoc, List.cons_append] at hpast
  obtain ⟨before, after, earlier, step, -⟩ := trace.cut hpast
  obtain ⟨e', he', down⟩ := earlier.isShutDown rfl tears
  refine ⟨e', by rw [step.engines_of_some.1, he'], down, fun other => ?_⟩
  exact isAttendedTo_of_taken (earlier.attended.moves i) step he' (earlier.isTold he' down) other

/-! ### Synchronisations that start -/

/-- No synchronisation starts when a debouncer that ends is attended to. -/
theorem startsSync_of_isEnding (he : h.engines[i]? = some e) (ending : e.debouncer.IsEnding h.now) :
    h.startsSync i = false := by
  rcases hn : e.debouncer.next h.now !(h.isAlive i) with _ | ⟨move, debouncer⟩
  · simp only [startsSync, he, hn]
  · rw [startsSync_eq he hn, decide_eq_false (ending.ne_start hn), Bool.false_and]

/-- A debouncer that has been told to stop and starts its action comes to the stop after it. -/
theorem isEnding_of_startsSync (he : s.host.engines[i]? = some e) (starts : s.startsSync i)
    (he' : (s.host.perform s.turn).engines[i]? = some e') (told : e'.debouncer.IsTold) (now : Nat) :
    e'.debouncer.IsEnding now := by
  obtain ⟨hattends, hstarts⟩ := Bool.and_eq_true_iff.mp starts
  refine ⟨told, fun deadline armed => ?_⟩
  rw [engines_perform, Turn.attends_iff.mp hattends] at he'
  rcases hn : e.debouncer.next s.host.now !(s.host.isAlive i) with _ | ⟨move, debouncer⟩
  · simp [startsSync, he, hn] at hstarts
  rw [startsSync_eq he hn, Bool.and_eq_true, decide_eq_true_eq] at hstarts
  obtain ⟨rfl, alive⟩ := hstarts
  rw [show (s.host.run (.attend i)).engines[i]? = _ from (getElem?_attend he hn i).trans (if_pos rfl), alive] at he'
  cases he'
  cases Debouncer.makes_of_next hn
  cases armed

/-- In every trace, one debounced synchronisation at most starts after a teardown: the one whose deadline had come.
After it the debouncer comes to the stop. -/
theorem Trace.startsSync_le_one {a : Host} (earlier : Trace (start latency rules draws config) older a)
    (later : Trace a recent h) (he : a.engines[i]? = some e) (window : 0 < e.config.window) (down : e.isShutDown) :
    recent.countP (Taken.startsSync i) ≤ 1 ∧ (recent.countP (Taken.startsSync i) ≠ 0 →
      ∀ e', h.engines[i]? = some e' → e'.debouncer.IsEnding h.now) := by
  induction later with
  | refl => simp
  | @tail recent h h' taken later step ih =>
    obtain ⟨before, hbefore, hconfig, hdown, -⟩ := later.exists_engine he
    obtain ⟨after, hafter, -, hdown', -⟩ := (later.tail step).exists_engine he
    have trace := earlier.trans later
    have told := (trace.tail step).isTold hafter (hdown' down)
    have hwindow : 0 < before.debouncer.window := by rwa [trace.window_eq hbefore, hconfig]
    obtain ⟨hle, hending⟩ := ih
    have hstays : recent.countP (Taken.startsSync i) ≠ 0 → ∀ e', h'.engines[i]? = some e' →
        e'.debouncer.IsEnding h'.now := by
      intro started e' he'
      cases hafter.symm.trans he'
      exact step.isEnding (trace.attended.moves i) hbefore hafter hwindow told (hending started before hbefore)
    cases taken with
    | none => exact ⟨hle, hstays⟩
    | some s =>
      rw [Option.toList_some, List.singleton_append, List.countP_cons]
      by_cases starts : s.startsSync i
      swap
      · rw [if_neg starts]
        exact ⟨hle, hstays⟩
      -- none has started before, or the debouncer would have come to the stop
      obtain ⟨hengines, hnow⟩ := step.engines_of_some
      have hnone : recent.countP (Taken.startsSync i) = 0 := by
        by_contra started
        have ending := hending started before hbefore
        rw [← hnow] at ending
        have hrests := startsSync_of_isEnding (hengines ▸ hbefore) ending
        rw [(Bool.and_eq_true_iff.mp starts).2] at hrests
        cases hrests
      rw [hnone, if_pos starts]
      refine ⟨Nat.le_refl 1, fun _ e' he' => ?_⟩
      cases hafter.symm.trans he'
      rw [step.of_some.1] at hafter
      exact isEnding_of_startsSync (hengines ▸ hbefore) starts hafter told _

/-! ### Lines -/

/-- A line that is offered to an engine that has been torn down changes nothing. -/
theorem offer_of_isShutDown (he : h.engines[i]? = some e) (down : e.isShutDown) (line : String) :
    h.offer i line = h := by
  unfold offer
  rw [he]
  split
  · rename_i e' _ hget _
    cases hget
    rw [if_pos down]
  · rfl

/-- An engine that has been shut down hears none of the fires that a turn puts out. -/
theorem heardBy_of_isShutDown (he : s.host.engines[i]? = some e) (down : e.isShutDown) : s.heardBy i = [] := by
  rw [Taken.heardBy, List.filterMap_eq_nil_iff]
  intro f hf
  refine if_neg fun hfi => ?_
  obtain ⟨⟨line, hears⟩, -⟩ := exists_of_mem_heard (List.mem_reverse.mp hf)
  rw [hfi, hears?, he] at hears
  simp [down] at hears

/-- In every trace, an engine that has been torn down hears nothing. -/
theorem Trace.heardBy_eq_nil (trace : Trace (start latency rules draws config) past h)
    (hpast : past = recent ++ s :: older) (tears : s.TearsDown i e) :
    recent.flatMap (Taken.heardBy i) = [] := by
  rw [List.flatMap_eq_nil_iff]
  intro s' hs'
  obtain ⟨e', he', isDown, -⟩ := trace.isShutDown_of_mem hpast tears hs'
  exact heardBy_of_isShutDown he' isDown

/-- Where nothing is heard any more and no fire is on its way at the end, each that was has gone through every hop. -/
theorem Trace.completes_of_deaf {a : Host} (later : Trace a recent h) (hopped : Hopped i a recent h)
    (deaf : recent.flatMap (Taken.heardBy i) = []) (quiet : ¬h.isHopping i) :
    ((a.boundAmong i (a.waiting i)).map fun f => "scoreboard players enable @a " ++ f.1.trigger) ≤
        (recent.flatMap Taken.deeds).filterMap (Event.enabled? i) ∧
      a.boundAmong i (a.waiting i) + a.enabling i + a.calling i ≤ ran i recent := by
  have hfound := later.found_of_bound hopped quiet
  rw [deaf, Multiset.coe_nil, zero_add] at hfound
  refine ⟨?_, ?_⟩
  · rw [enabled_eq, ← Multiset.map_coe]
    exact Multiset.map_le_map hfound
  · rw [← (hopped.ran quiet).2]
    exact add_le_add_left (add_le_add_left hfound _) _

/-- A turn that puts out lines changes no engine: those that hear a line take note of it, and leave the rest to
later turns. -/
theorem engines_of_emits {lines : List String} (emits : s.turn.emits? = some lines) :
    (s.host.perform s.turn).engines = s.host.engines := by
  rw [engines_perform]
  unfold Turn.emits? at emits
  split at emits
  · rename_i origin lines' hturn
    rw [hturn, run, begin, (beside_answer _ origin _).engines, (beside_emits _ lines').engines]
    rfl
  · rename_i j callback fire hturn
    rw [hturn, run, (beside_emits _ (callback.emits fire)).engines]
    rfl
  · cases emits

/-! ### The synchronisation under way -/

/-- A stretch of a debounced synchronisation that sends something leaves its next stretch, and nothing else of the
kind. -/
theorem filter_leaves_of_send {o : Outcome} {commands : List Command} {stage : Stage}
    (hs : s.stretch? = some (.debouncer, i, o)) (hn : o.next = .send commands stage) :
    ∃ reply, s.leaves.filter (Turn.isDebounced i) = [.resume .debouncer i stage reply] := by
  have pursues := pursues_leaves i s
  generalize s.leaves.filter (Turn.isDebounced i) = left at pursues
  cases pursues with
  | goesOn hs' hn' =>
    cases hs.symm.trans hs'
    cases hn.symm.trans hn'
    exact ⟨_, rfl⟩
  | starts hattend _ => exact absurd hattend (ne_attend_of_stretch hs)
  | nothing ended _ => exact absurd hn (ended o hs commands stage)

/-- A synchronisation with nothing left to read publishes what it has read, and else it asks for the next
score. -/
theorem ends_of_continueSync {sync : Sync} (he : s.host.engines[i]? = some e)
    (hs : s.stretch? = some (.debouncer, i, e.continueSync sync)) :
    s.Ends i ∨ sync.left ≠ [] ∧
      ∃ reply, s.leaves.filter (Turn.isDebounced i) = [.resume .debouncer i (.syncing sync) reply] := by
  cases hleft : sync.left with
  | nil =>
    left
    refine .publishes he hleft hs ?_
    rw [(getElem?_perform_of_stretch hs i).trans (if_pos rfl), Option.map_some, Engine.continueSync, hleft]
    rfl
  | cons score left =>
    right
    have hn : (e.continueSync sync).next = .send [.getScore score.1 score.2] (.syncing sync) := by
      rw [Engine.continueSync, hleft]
      rfl
    exact ⟨by simp, filter_leaves_of_send hs hn⟩

/-- Each turn of a debounced synchronisation ends it or leaves one that is nearer to the end. -/
theorem ends_of_syncs (he : s.host.engines[i]? = some e) (syncs : s.turn.Syncs i) :
    s.Ends i ∨ ∃ t, s.leaves.filter (Turn.isDebounced i) = [t] ∧ t.ahead < s.turn.ahead := by
  generalize hturn : s.turn = t at syncs
  -- the players are asked for first, then the scores one after another
  cases syncs with
  | begins =>
    have hs : s.stretch? = some (.debouncer, i, (e.begin .sync s.host.draws).1) :=
      stretch?_eq_some_iff.mpr ⟨e, he, .inl ⟨_, hturn, rfl⟩⟩
    obtain ⟨reply, hleft⟩ := filter_leaves_of_send hs rfl
    exact .inr ⟨_, hleft, Prod.Lex.toLex_lt_toLex.mpr (.inl Nat.one_lt_two)⟩
  | lists reply =>
    have hs : s.stretch? = some (.debouncer, i, e.resumeSync reply) :=
      stretch?_eq_some_iff.mpr ⟨e, he, .inr ⟨_, _, hturn, rfl⟩⟩
    rw [Engine.resumeSync] at hs
    split at hs
    · obtain ends | ⟨-, reply', hleft⟩ := ends_of_continueSync he hs
      · exact .inl ends
      · exact .inr ⟨_, hleft, Prod.Lex.toLex_lt_toLex.mpr (.inl Nat.zero_lt_one)⟩
    · rename_i unread
      exact .inl (.unread hturn unread)
  | reads sync reply =>
    have hs : s.stretch? = some (.debouncer, i, e.continueSync (sync.take reply)) :=
      stretch?_eq_some_iff.mpr ⟨e, he, .inr ⟨_, _, hturn, rfl⟩⟩
    obtain ends | ⟨hmore, reply', hleft⟩ := ends_of_continueSync he hs
    · exact .inl ends
    · refine .inr ⟨_, hleft, Prod.Lex.toLex_lt_toLex.mpr (.inr ⟨rfl, ?_⟩)⟩
      rw [Sync.left_take] at hmore ⊢
      cases hsync : sync.left with
      | nil => simp [hsync] at hmore
      | cons score left => simp

/-- What is taken for a debouncer is a turn of a synchronisation. -/
theorem Trace.syncs_of_mem (trace : Trace (start latency rules draws config) past h) (hs : s ∈ past)
    (hturn : s.turn.isDebounced i) : ∃ e, s.host.engines[i]? = some e ∧ s.turn.Syncs i := by
  obtain ⟨newer, older, hpast⟩ := List.append_of_mem hs
  obtain ⟨before, after, earlier, step, -⟩ := trace.cut hpast
  obtain ⟨since, hphase, -, syncs, -⟩ := (earlier.paced i).turn_of_isDebounced step hturn
  obtain ⟨e, he, -⟩ := Option.map_eq_some_iff.mp hphase
  exact ⟨e, step.engines_of_some.1 ▸ he, syncs⟩

/-- A debounced synchronisation that is under way is so still, or has ended. -/
theorem Trace.underWay_or_ends {a : Host} (earlier : Trace (start latency rules draws config) older a)
    (later : Trace a recent h) (under : a.underWay i ≠ 0) : h.underWay i ≠ 0 ∨ ∃ s ∈ recent, s.Ends i := by
  induction later with
  | refl => exact .inl under
  | @tail recent h h' taken later step ih =>
    cases taken with
    | none =>
      rw [step.underWay_of_none i]
      exact ih
    | some s =>
      obtain hunder | ⟨s', hs', ends⟩ := ih
      swap
      · exact .inr ⟨s', List.mem_cons_of_mem s hs', ends⟩
      -- a turn of the synchronisation ends it or leaves the next, and no other turn takes one off
      by_cases hturn : s.turn.isDebounced i
      · obtain ⟨e, he, syncs⟩ := ((earlier.trans later).tail step).syncs_of_mem List.mem_cons_self hturn
        obtain ends | ⟨t, hleft, -⟩ := ends_of_syncs he syncs
        · exact .inr ⟨s, List.mem_cons_self, ends⟩
        · left
          rw [step.of_some.1, underWay_perform, hleft]
          simp
      · left
        have hwork := step.underWay_of_some i
        rw [if_neg hturn, zero_add] at hwork
        rw [step.of_some.1, underWay_perform, ← hwork]
        obtain ⟨t, ht⟩ := Multiset.exists_mem_of_ne_zero hunder
        intro none
        exact Multiset.notMem_zero t (none ▸ Multiset.mem_add.mpr (.inr ht))

/-- Where none starts, a debounced synchronisation that begins was under way. -/
theorem Trace.begins_of_rests {a : Host} (later : Trace a recent h)
    (rests : ∀ s ∈ recent, s.turn = .attend i → s.host.startsSync i = false) (hs : s ∈ recent)
    (begins : s.Begins i) : s.turn ∈ a.underWay i := by
  -- a beginning that waits has waited from the first, as none has been left since
  have hunder : (∀ s ∈ recent, s.Begins i → s.turn ∈ a.underWay i) ∧
      (.begin .debouncer (.operate i .sync) ∈ h.underWay i → .begin .debouncer (.operate i .sync) ∈ a.underWay i) := by
    clear hs
    induction later with
    | refl => exact ⟨fun s hs => absurd hs List.not_mem_nil, id⟩
    | @tail recent h h' taken later step ih =>
      cases taken with
      | none =>
        rw [step.underWay_of_none i]
        exact ih rests
      | some last =>
        obtain ⟨hbegun, hwaits⟩ := ih fun s hs => rests s (List.mem_cons_of_mem last hs)
        have hwork := step.underWay_of_some i
        refine ⟨fun s hs begins => ?_, fun hmem => hwaits ?_⟩
        · obtain rfl | hs := List.mem_cons.mp hs
          · rw [begins] at hwork ⊢
            rw [if_pos (by simp [Turn.isDebounced_begin])] at hwork
            exact hwaits (hwork ▸ Multiset.mem_add.mpr (.inl (Multiset.mem_singleton_self _)))
          · exact hbegun s hs begins
        -- what waits has waited before, as no turn leaves it
        · rw [step.of_some.1, underWay_perform, Multiset.mem_add, Multiset.mem_coe] at hmem
          rw [hwork, Multiset.mem_add]
          refine .inr (hmem.resolve_left fun hleft => ?_)
          have pursues := pursues_leaves i last
          generalize last.leaves.filter (Turn.isDebounced i) = left at pursues hleft
          cases pursues with
          | goesOn _ _ => simp at hleft
          | starts hattend starts =>
            rw [rests last List.mem_cons_self hattend] at starts
            cases starts
          | nothing _ _ => cases hleft
  exact hunder.1 s hs begins

/-! ### The whole trace -/

/-- In every trace, an engine is inert from its teardown on. -/
theorem inert_of_tearsDown (trace : Trace (start latency rules draws config) past h)
    (hpast : past = recent ++ s :: older) (tears : s.TearsDown i e) : Inert i s recent h := by
  obtain ⟨before, after, earlier, step, later⟩ := trace.cut hpast
  obtain ⟨origin, hturn⟩ := tears.2
  have hafter : Trace (start latency rules draws config) (s :: older) after := earlier.tail step
  have hmemory := memory?_perform_of_shutDown (h := s.host) hturn
  have hmem : ∀ s' ∈ recent, s' ∈ past := fun s' hs' => by
    rw [hpast]
    exact List.mem_append_left _ hs'
  have hdeaf := trace.heardBy_eq_nil hpast tears
  -- the teardown leaves the work as it is, so what is on its way after it is what was before
  have hagenda := agenda_perform_of_shutDown (h := s.host) hturn
  rw [step.of_some.1] at hafter later
  have hopped := hafter.hopped later i
  have hunder : (s.host.perform s.turn).underWay i = s.host.underWay i := by rw [underWay, hagenda, underWay]
  exact {
    kept := hmemory
    deaf := fun s' hs' => by
      obtain ⟨e', he', isDown, -⟩ := trace.isShutDown_of_mem hpast tears hs'
      exact ⟨heardBy_of_isShutDown he' isDown, offer_of_isShutDown he' isDown, fun lines => engines_of_emits⟩
    hops := by
      have looked := (hopped.of_agenda hagenda.symm).looked
      rw [hdeaf, Multiset.coe_nil, zero_add] at looked
      exact ⟨looked, hopped.of_agenda hagenda.symm⟩
    completes := fun quiet => by
      have completes := later.completes_of_deaf hopped hdeaf quiet
      rwa [boundAmong_of_memory? (hmemory i), waiting, enabling, calling, hagenda] at completes
    finishes := fun under => hafter.underWay_or_ends later (hunder ▸ under)
    nears := fun s' hs' hdebounced => by
      obtain ⟨e', he', syncs⟩ := trace.syncs_of_mem (hmem s' hs') hdebounced
      exact ends_of_syncs he' syncs
    again := fun s' hs' origin' hshut => by
      obtain ⟨e', he', isDown, attended⟩ := trace.isShutDown_of_mem hpast tears hs'
      rw [hshut]
      exact perform_of_isShutDown he' isDown (attended (by simp [hshut])) origin'
    inserted := fun origin' => by
      obtain ⟨e', he', isDown⟩ := trace.isShutDown hpast tears
      obtain ⟨news, hperform⟩ := perform_of_isShutDown he' isDown (trace.attended.moves i) origin'
      refine ⟨news, hperform, fun later h' further => ?_, fun later h' clocked => ?_⟩
      · rw [hperform]
        exact further.of_journal (news ++ h.journal)
      · rw [hperform]
        exact Clocked.of_journal clocked (news ++ h.journal) }

/-- Where the deadline is still to come at the teardown, no debounced synchronisation starts after it. -/
theorem rests_of_early (trace : Trace (start latency rules draws config) past h)
    (hpast : past = recent ++ s :: older) (tears : s.TearsDown i e) (window : 0 < e.config.window)
    (early : ∀ deadline, e.debouncer.phase = .armed deadline → s.host.now < deadline) : Rests i s recent := by
  obtain ⟨before, after, earlier, step, later⟩ := trace.cut hpast
  obtain ⟨origin, hturn⟩ := tears.2
  have hafter : Trace (start latency rules draws config) (s :: older) after := earlier.tail step
  obtain ⟨down, hdown, hconfig, isDown⟩ := exists_shutDown tears
  have hengine : before.engines[i]? = some e := step.engines_of_some.1 ▸ tears.1
  rw [step.of_some.1] at hafter later
  have hwindow : 0 < e.debouncer.window := by rwa [earlier.window_eq hengine]
  -- the stop has been sent in time, and so it is at every turn that follows
  have ending : down.debouncer.IsEnding (s.host.perform s.turn).now := by
    rw [now_perform]
    exact isEnding_perform tears.1 hdown hwindow (hafter.isTold hdown isDown) early
  have rests : ∀ s' ∈ recent, s'.turn = .attend i → s'.host.startsSync i = false := by
    intro s' hs' _
    obtain ⟨newer, between, hrecent⟩ := List.append_of_mem hs'
    obtain ⟨held, _, between, step', -⟩ := later.cut hrecent
    obtain ⟨e', he', -⟩ := between.exists_engine hdown
    have ending := hafter.isEnding between hdown (hconfig ▸ window) isDown ending he'
    obtain ⟨hengines, hnow⟩ := step'.engines_of_some
    rw [← hnow] at ending
    exact startsSync_of_isEnding (hengines ▸ he') ending
  have hunder : (s.host.perform s.turn).underWay i = s.host.underWay i := by
    rw [underWay, agenda_perform_of_shutDown hturn, underWay]
  exact fun s' hs' => ⟨rests s' hs', fun begins => hunder ▸ later.begins_of_rests rests hs' begins⟩

/-- In every trace, an engine is inert from its teardown on. If its window is not empty, one debounced
synchronisation at most starts after the teardown, and none where the trace is clocked or else the deadline is still
to come at the teardown. -/
theorem inert_of_trace (trace : Trace (start latency rules draws config) past h)
    (hpast : past = recent ++ s :: older) (tears : s.TearsDown i e) :
    Inert i s recent h ∧ (0 < e.config.window → recent.countP (Taken.startsSync i) ≤ 1 ∧
      (Clocked (start latency rules draws config) past h ∨
        (∀ deadline, e.debouncer.phase = .armed deadline → s.host.now < deadline) → Rests i s recent)) := by
  refine ⟨inert_of_tearsDown trace hpast tears, fun window => ⟨?_, ?_⟩⟩
  · obtain ⟨before, after, earlier, step, later⟩ := trace.cut hpast
    obtain ⟨down, hdown, hconfig, isDown⟩ := exists_shutDown tears
    rw [← step.of_some.1] at hdown
    exact ((earlier.tail step).startsSync_le_one later hdown (hconfig ▸ window) isDown).1
  rintro (clocked | early)
  -- where nothing is due when something is asked for, a deadline is to come when a request has its turn
  · refine rests_of_early trace hpast tears window fun deadline armed => ?_
    obtain ⟨before, after, earlier, step, -⟩ := clocked.cut hpast
    obtain ⟨origin, hturn⟩ := tears.2
    have hengine : before.engines[i]? = some e := step.engines_of_some.1 ▸ tears.1
    have hwindow : 0 < e.debouncer.window := by rwa [earlier.trace.window_eq hengine]
    rw [step.engines_of_some.2]
    exact Clocked.early_of_step earlier step (by rw [hturn]; rfl) hengine hwindow armed
  · exact rests_of_early trace hpast tears window early

set_option synthInstance.maxSize 256 in
/-- A run in which an engine is torn down while a synchronisation runs, another one is asked for, and a fire is on
its way: the scores are published and the callback runs, and neither a line nor a request has any effect
afterwards. -/
theorem inert_of_busy_engine : ∃ older s recent h e, Clocked (start 10
    [.toStart "scoreboard players list" "There are 1 tracked entity/entities: Alice",
      .toStart "scoreboard players get" "Alice has 7 [kills]"] {} { window := 5 }) (recent ++ s :: older) h ∧
    s.TearsDown 0 e ∧ 0 < e.config.window ∧ Inert 0 s recent h ∧ Rests 0 s recent ∧
      e.debouncer = { window := 5, queue := [.request], phase := .acting 25 } ∧
        h.runs 0 = [(⟨"Alice", "tri_tQaBe_AAAAAA", 3⟩, "greet")] ∧
          h.engines.map (·.stats.fullSyncs) = [1] ∧ h.cached? 0 "Alice" "tQaBe_kills" = some 7 := by
  let rules := [Rule.toStart "scoreboard players list" "There are 1 tracked entity/entities: Alice",
    .toStart "scoreboard players get" "Alice has 7 [kills]"]
  let greet := Request.operate 0 (.bind ⟨"demo", "demo"⟩ { id := "greet" })
  let ensure := Request.operate 0 (.ensure ⟨"demo", "demo"⟩ "kills" "dummy" "kills")
  let use := Request.emit ["[Alice: Triggered [tri_tQaBe_AAAAAA] (set value to 3)]"]
  let down (h : Host) := h.perform (.begin .foreground (.shutDown 0))
  have run : ((((((start 10 rules {} { window := 5 }).drive 50 greet).bind (drive 50 · ensure)).bind
      (drive 50 · (.sleep 6))).bind (drive 50 · (.operate 0 .requestSync))).bind (drive 50 · use)).bind
        (fun busy => ((((down busy).drive 50 use).bind (drive 50 · (.operate 0 .requestSync))).bind
          (drive 90 · (.sleep 100))).map fun h => (((busy.engines[0]?.map fun e => (e.config.window, e.debouncer)),
            (down busy).advance.isNone), (h.runs 0, h.engines.map (·.stats.fullSyncs),
              h.cached? 0 "Alice" "tQaBe_kills"))) =
      some ((some (5, { window := 5, queue := [.request], phase := .acting 25 }), true),
        ([(⟨"Alice", "tri_tQaBe_AAAAAA", 3⟩, "greet")], [1], some 7)) := by decide +kernel
  obtain ⟨busy, hbusy, run⟩ := Option.bind_eq_some_iff.mp run
  obtain ⟨h, hdriven, hend⟩ := Option.map_eq_some_iff.mp run
  simp only [Prod.mk.injEq, Option.map_eq_some_iff, Option.isNone_iff_eq_none] at hend
  obtain ⟨⟨⟨e, he, hwindow, hdebouncer⟩, hended⟩, hran, hsyncs, hscore⟩ := hend
  -- the run up to the teardown, and the one after it
  obtain ⟨asked, hasked, hused⟩ := Option.bind_eq_some_iff.mp hbusy
  obtain ⟨slept, hslept, hasked⟩ := Option.bind_eq_some_iff.mp hasked
  obtain ⟨ensured, hensured, hslept⟩ := Option.bind_eq_some_iff.mp hslept
  obtain ⟨bound, hbound, hensured⟩ := Option.bind_eq_some_iff.mp hensured
  obtain ⟨unheard, hunheard, hslept'⟩ := Option.bind_eq_some_iff.mp hdriven
  obtain ⟨ignored, hignored, hunheard⟩ := Option.bind_eq_some_iff.mp hunheard
  obtain ⟨⟨_, first⟩, ended⟩ := clocked_of_drive rfl hbound
  obtain ⟨⟨_, second⟩, ended⟩ := clocked_of_drive ended hensured
  obtain ⟨⟨_, third⟩, ended⟩ := clocked_of_drive ended hslept
  obtain ⟨⟨_, fourth⟩, ended⟩ := clocked_of_drive ended hasked
  obtain ⟨⟨_, fifth⟩, ended⟩ := clocked_of_drive ended hused
  have torn := clocked_of_idle (advance_eq_none_iff.mp ended).1 (.shutDown 0)
  obtain ⟨⟨_, sixth⟩, ended⟩ := clocked_of_drive hended hignored
  obtain ⟨⟨_, seventh⟩, ended⟩ := clocked_of_drive ended hunheard
  obtain ⟨⟨_, eighth⟩, -⟩ := clocked_of_drive ended hslept'
  have clocked := ((((first.trans second).trans third).trans fourth).trans fifth).trans
    (torn.trans ((sixth.trans seventh).trans eighth))
  rw [List.append_assoc, List.singleton_append] at clocked
  have tears : Taken.TearsDown 0 e ⟨busy, .begin .foreground (.shutDown 0)⟩ := ⟨he, .foreground, rfl⟩
  obtain ⟨inert, rests⟩ := inert_of_trace clocked.trace rfl tears
  exact ⟨_, _, _, h, e, clocked, tears, by omega, inert, (rests (by omega)).2 (.inl clocked), hdebouncer, hran,
    hsyncs, hscore⟩

end Host

end Scoreboard
