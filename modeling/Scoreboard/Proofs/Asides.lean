import Scoreboard.Proofs.FireLines
import Scoreboard.Proofs.Host.Attended
import Scoreboard.Proofs.Host.Journal
import Scoreboard.Proofs.Registrations

/-!
# Lines that concern nobody

A console puts out many lines that are no fires, what players say among them, and lines that tell of the fire of a
trigger which no engine has bound. Main statement (`undisturbed_of_unheeded`): no line on which a player says
something is taken for a fire, whatever is said, and lines that concern nobody make no difference wherever they are
put out. In any order of tasks, the runs with such lines between their steps are those without them, but for their
journals (`Interspersed`): each of the ones comes with one of the others, step by step. A line that is no fire leaves
nothing to do, so it may be put out and forgotten; where a line is a fire that nobody has bound, the dispatches it
leaves are taken before all else. A run that is driven leads with such lines, between its requests, to nothing else
than without them (`Undisturbed`). Whether a line is suppressed is nothing that an engine asks, so lines are only
texts here.

A line that concerns nobody leaves at most dispatches that find no callback (`Idles`). As a debouncer that has a move
to make is attended to already (`Attended`), they leave the host as it was, but for the journal
(`exists_perform_of_isIdle`), on which nothing depends (`Happens.of_journal`, `drive_of_journal`).
-/

namespace Scoreboard

/-- Whether an event is one of those that lines which concern nobody add to a journal: notes, that they were put out
and perhaps taken for fires, and the answer to who has had them put out. -/
def Event.isAside : Event → Bool
  | .noted .. | .accepted .. => true
  | .begun .foreground (.emit _) => true
  | .begun .line (.operate _ (.dispatch _)) => true
  | .answered .foreground .nothing => true
  | _ => false

/-- A request of a run, or lines that somebody has the console put out in between. -/
inductive Call where
  | own (request : Request)
  | aside (lines : List String)

namespace Call

/-- What is asked for. -/
def request : Call → Request
  | own request => request
  | aside lines => .emit lines

/-- The request, if it is one of the run's own. -/
def own? : Call → Option Request
  | own request => some request
  | aside _ => none

end Call

/-- What comes next in a run in any order of tasks: a step of its own, by all that it is, or lines that somebody has
the console put out in between. -/
inductive Point where
  | turn (task : Task)
  | pass (time : Nat)
  | ask (request : Request)
  | respond (respond : String → String)
  | delay (latency : Nat)
  | aside (lines : List String)

/-- Whether a journal is another one with asides in between. -/
inductive Interspersed : List Entry → List Entry → Prop where
  | nil : Interspersed [] []
  | own {alone disturbed : List Entry} (entry : Entry) (rest : Interspersed alone disturbed) :
      Interspersed (entry :: alone) (entry :: disturbed)
  | aside {alone disturbed : List Entry} {entry : Entry} (isAside : entry.event.isAside)
      (rest : Interspersed alone disturbed) : Interspersed alone (entry :: disturbed)

namespace Interspersed

variable {alone disturbed : List Entry}

theorem append (news : List Entry) (rest : Interspersed alone disturbed) :
    Interspersed (news ++ alone) (news ++ disturbed) := by
  induction news with
  | nil => exact rest
  | cons entry news ih => exact .own entry ih

theorem refl (journal : List Entry) : Interspersed journal journal := by
  simpa using append journal .nil

/-- Entries about asides can be put on the longer journal alone. -/
theorem append_asides {news : List Entry} (asides : ∀ entry ∈ news, entry.event.isAside)
    (rest : Interspersed alone disturbed) : Interspersed alone (news ++ disturbed) := by
  induction news with
  | nil => exact rest
  | cons entry news ih =>
    exact .aside (asides entry List.mem_cons_self) (ih fun e he => asides e (List.mem_cons_of_mem entry he))

end Interspersed

namespace Host

/-- A run: requests that are driven one after the other, with the entries that each has added to the journal. -/
inductive Run : Host → List (Request × List Entry) → Host → Prop where
  | nil (h : Host) : Run h [] h
  | cons {h h' h'' : Host} {request : Request} {news : List Entry} {later : List (Request × List Entry)}
      {steps : Nat} (driven : drive steps h request = some h') (added : h'.journal = news ++ h.journal)
      (run : Run h' later h'') : Run h ((request, news) :: later) h''

/-- Whether a line concerns no engine: it tells of no fire, or of one whose trigger is not bound. -/
def Ignores (h : Host) (line : String) : Prop :=
  ∀ fire, Fire.ofLine? line = some fire → ∀ i, h.bound? i fire.trigger = none

/-- Whether the lines put out between the requests of a run concern nobody when they are. -/
def Unheeded : Host → List Call → Prop
  | _, [] => True
  | h, .own request :: calls => ∀ steps h', drive steps h request = some h' → Unheeded h' calls
  | h, .aside lines :: calls => (∀ line ∈ lines, h.Ignores line) ∧ Unheeded h calls

/-- Whether a run with lines in between is like the one without them: what is its own adds the same entries, at the
same times, and the lines add asides. -/
inductive Undisturbed : List Call → List (Request × List Entry) → List (Request × List Entry) → Prop where
  | nil : Undisturbed [] [] []
  | own {calls : List Call} {alone disturbed : List (Request × List Entry)} (request : Request)
      (news : List Entry) (rest : Undisturbed calls alone disturbed) :
      Undisturbed (.own request :: calls) ((request, news) :: alone) ((request, news) :: disturbed)
  | aside {calls : List Call} {alone disturbed : List (Request × List Entry)} (lines : List String)
      {news : List Entry} (asides : ∀ entry ∈ news, entry.event.isAside)
      (rest : Undisturbed calls alone disturbed) :
      Undisturbed (.aside lines :: calls) alone ((.emit lines, news) :: disturbed)

/-- A step of a run, told apart from every other one: for each of the things that can happen to a host, which it is. -/
inductive Happens (h : Host) : Point → Host → Prop where
  | turn {before after : List Task} {t : Task} (mem : h.tasks = before ++ t :: after) (due : t.due ≤ h.now) :
      Happens h (.turn t) ({ h with tasks := before ++ after }.perform t.turn)
  | pass {time : Nat} (later : h.now ≤ time) (early : ∀ t ∈ h.tasks, time ≤ t.due) :
      Happens h (.pass time) { h with now := time }
  | ask (request : Request) : Happens h (.ask request) (h.ask request)
  | respond (respond : String → String) :
      Happens h (.respond respond) { h with console := h.console.respondWith respond }
  | delay (latency : Nat) : Happens h (.delay latency) { h with latency }

/-- A run in any order of tasks, the newest step first, with something done about lines between its steps. -/
inductive Interposed (about : List String → Host → Host → Prop) (a : Host) : List Point → Host → Prop where
  | refl : Interposed about a [] a
  | own {points : List Point} {point : Point} {h h' : Host} (run : Interposed about a points h)
      (step : Happens h point h') : Interposed about a (point :: points) h'
  | aside {points : List Point} {lines : List String} {h h' : Host} (run : Interposed about a points h)
      (done : about lines h h') : Interposed about a (.aside lines :: points) h'

/-- Turns that are taken one after the other, the newest first, and nothing else. -/
inductive Turns (a : Host) : List Taken → Host → Prop where
  | refl : Turns a [] a
  | tail {past : List Taken} {s : Taken} {h h' : Host} (turns : Turns a past h) (step : Step h (some s) h') :
      Turns a (s :: past) h'

/-- Lines are put out in a turn of their own, and the dispatches that this turn leaves are taken next, before anything
that has been waiting. -/
def PutOut (lines : List String) (h h' : Host) : Prop :=
  ∃ dispatched, Turns (h.perform (.begin .foreground (.emit lines))) dispatched h' ∧
    (dispatched.map Taken.turn : Multiset Turn) = h.leaves (.begin .foreground (.emit lines)) ∧
      ∀ taken ∈ dispatched, h.tasks <+: taken.host.tasks

/-- Lines that concern nobody here are put out. -/
def InVain (lines : List String) (h h' : Host) : Prop := PutOut lines h h' ∧ ∀ line ∈ lines, h.Ignores line

/-- Lines that would concern nobody here are not put out. -/
def Withheld (lines : List String) (h h' : Host) : Prop := h' = h ∧ ∀ line ∈ lines, h.Ignores line

/-! ### Lines -/

/-- The dispatches that a line leaves find no callback. -/
def IsIdle (h : Host) (t : Task) : Prop :=
  ∃ i fire, t = ⟨h.now, .dispatching (i, fire)⟩ ∧ h.bound? i fire.trigger = none

/-- What lines do that concern nobody. -/
def Idles (h h' : Host) : Prop :=
  ∃ dispatches news, h' = { h with tasks := h.tasks ++ dispatches, journal := news ++ h.journal } ∧
    (∀ t ∈ dispatches, h.IsIdle t) ∧ ∀ entry ∈ news, entry.event.isAside

variable {h h' : Host} {line : String} {lines : List String} {i : Nat}

theorem Idles.refl (h : Host) : h.Idles h := ⟨[], [], by simp, by simp, by simp⟩

/-- What idles in a row idles. -/
theorem Idles.trans {a b c : Host} (hab : a.Idles b) (hbc : b.Idles c) : a.Idles c := by
  obtain ⟨dispatches, news, rfl, hdispatches, hnews⟩ := hab
  obtain ⟨dispatches', news', rfl, hdispatches', hnews'⟩ := hbc
  refine ⟨dispatches ++ dispatches', news' ++ news, by simp, ?_, ?_⟩
  · exact List.forall_mem_append.mpr ⟨hdispatches, hdispatches'⟩
  · exact List.forall_mem_append.mpr ⟨hnews', hnews⟩

/-- To write about an aside idles. -/
theorem idles_record (h : Host) (event : Event) (aside : event.isAside) : h.Idles (h.record event) :=
  ⟨[], [⟨h.now, event⟩], by simp [record], by simp, by simpa using aside⟩

theorem idles_note (h : Host) (i : Nat) (notes : List Note) : h.Idles (h.note i notes) := by
  induction notes generalizing h with
  | nil => exact .refl h
  | cons note notes ih => exact (idles_record h (.noted i note) rfl).trans (ih _)

/-- A dispatch of a fire that nothing is bound to is an idle one. -/
theorem idles_schedule {fire : Fire} (free : h.bound? i fire.trigger = none) :
    h.Idles (h.schedule h.now (.dispatching (i, fire))) := by
  refine ⟨[⟨h.now, .dispatching (i, fire)⟩], [], rfl, ?_, by simp⟩
  intro t ht
  rw [List.mem_singleton.mp ht]
  exact ⟨i, fire, rfl, free⟩

/-- Engines are as they were, so the same lines concern nobody. -/
theorem Idles.ignores (idles : h.Idles h') (ignored : h.Ignores line) : h'.Ignores line := by
  obtain ⟨dispatches, news, rfl, -⟩ := idles
  exact ignored

/-- To be shown a line that is ignored leaves at most an idle dispatch. -/
theorem idles_offer (ignored : h.Ignores line) (i : Nat) : h.Idles (h.offer i line) := by
  unfold offer
  split
  · rename_i e l he hl
    split
    · exact .refl h
    · have hfire : Fire.ofLine? line = some l.fire := by rw [Fire.ofLine?, hl, Option.map_some]
      have hnote := idles_note h i ((l.amount.filter (·.exceedsInt32)).toList.map .clamped)
      have hrecord := hnote.trans (idles_record _ (.accepted i l.fire) rfl)
      exact hrecord.trans (idles_schedule (hrecord.ignores ignored l.fire hfire i))
  · exact .refl h

/-- A line of the console that is ignored leaves idle dispatches only. -/
theorem idles_emit (ignored : h.Ignores line) : h.Idles (h.emit line) := by
  unfold emit
  induction h.console.serving generalizing h with
  | nil => exact .refl h
  | cons i engines ih =>
    rw [List.foldl_cons]
    split
    · have hoffer := idles_offer ignored i
      exact hoffer.trans (ih (hoffer.ignores ignored))
    · exact ih ignored

/-- Lines of the console that are ignored leave idle dispatches only. -/
theorem idles_emits (ignored : ∀ line ∈ lines, h.Ignores line) : h.Idles (lines.foldl emit h) := by
  induction lines generalizing h with
  | nil => exact .refl h
  | cons line lines ih =>
    have hemit := idles_emit (ignored line List.mem_cons_self)
    exact hemit.trans (ih fun line' hline => hemit.ignores (ignored line' (List.mem_cons_of_mem line hline)))

/-! ### Dispatches -/

/-- A dispatch that finds no callback notes it, and that is all. -/
theorem perform_dispatching {fire : Fire} (free : h.bound? i fire.trigger = none) (attended : h.IsAttendedTo i) :
    ∃ news, h.perform (.dispatching (i, fire)) = { h with journal := news ++ h.journal } ∧
      ∀ entry ∈ news, entry.event.isAside := by
  let begun := h.record (.begun .line (.operate i (.dispatch fire)))
  -- the engine is gone, or it finds the trigger not bound: either way it has no move to make that it had not before
  rcases he : h.engines[i]? with _ | e
  · have hrun : h.run (.dispatching (i, fire)) = begun := by
      simp only [Turn.dispatching, run, begin, record, he]
      rfl
    refine ⟨[⟨h.now, .begun .line (.operate i (.dispatch fire))⟩], ?_, by simp [Event.isAside]⟩
    show (h.run (.dispatching (i, fire))).alert i = begun
    rw [hrun]
    exact alert_of_isAttendedTo attended
  · have hbegin : e.begin (.dispatch fire) h.draws = ({ engine := e, notes := [.unbound fire] }, h.draws) := by
      rw [bound?, he, Option.bind_some] at free
      simp [Engine.begin, Engine.beginDispatch, free]
    have hrun : h.run (.dispatching (i, fire)) = begun.note i [.unbound fire] := by
      simp only [Turn.dispatching, run, begin, record, he, hbegin]
      show (begun.setEngine i e).note i [.unbound fire] = _
      rw [setEngine_self (h := begun) he]
    refine ⟨[⟨h.now, .noted i (.unbound fire)⟩, ⟨h.now, .begun .line (.operate i (.dispatch fire))⟩], ?_,
      by simp [Event.isAside]⟩
    show (h.run (.dispatching (i, fire))).alert i = begun.note i [.unbound fire]
    rw [hrun]
    exact alert_of_isAttendedTo attended

/-- A dispatch that finds no callback, taken before others that were left with it. -/
theorem exists_perform_of_isIdle (attended : h.Attended) {t : Task} (idle : h.IsIdle t) (others : List Task)
    (journal : List Entry) : ∃ news, ({ h with tasks := h.tasks ++ others, journal } : Host).perform t.turn =
      { h with tasks := h.tasks ++ others, journal := news ++ journal } ∧ ∀ entry ∈ news, entry.event.isAside := by
  obtain ⟨i, fire, rfl, free⟩ := idle
  exact perform_dispatching (h := { h with tasks := h.tasks ++ others, journal }) free
    ((attended.moves i).append others journal)

/-- Lines that concern nobody are put out in one turn, which leaves dispatches that find no callback. -/
theorem idles_perform_emit (ignored : ∀ line ∈ lines, h.Ignores line) :
    h.Idles (h.perform (.begin .foreground (.emit lines))) := by
  have hbegun := idles_record h (.begun .foreground (.emit lines)) rfl
  have hemits := idles_emits fun line hline => hbegun.ignores (ignored line hline)
  have hanswer := idles_record (lines.foldl emit (h.record (.begun .foreground (.emit lines))))
    (.answered .foreground .nothing) rfl
  exact (hbegun.trans hemits).trans hanswer

/-! ### Any order of tasks -/

/-- Each point of a run is a step. -/
theorem Happens.step {point : Point} (step : Happens h point h') : ∃ taken, Step h taken h' := by
  cases step with
  | turn mem due => exact ⟨_, .turn mem due⟩
  | pass later early => exact ⟨_, .pass later early⟩
  | ask request => exact ⟨_, .ask request⟩
  | respond respond => exact ⟨_, .respond respond⟩
  | delay latency => exact ⟨_, .delay latency⟩

/-- What happens to a host can happen to it with every journal, and adds the same entries. -/
theorem Happens.of_journal {point : Point} (step : Happens h point h') (journal : List Entry) :
    ∃ news, h'.journal = news ++ h.journal ∧
      Happens { h with journal } point { h' with journal := news ++ journal } := by
  cases step with
  | @turn before after t mem due =>
    obtain ⟨news, hperform⟩ := exists_perform_of_journal { h with tasks := before ++ after } t.turn
    refine ⟨news, congrArg Host.journal (hperform h.journal), ?_⟩
    rw [← hperform journal]
    exact .turn mem due
  | pass later early => exact ⟨[], rfl, .pass later early⟩
  | ask request => exact ⟨[], rfl, .ask request⟩
  | respond respond => exact ⟨[], rfl, .respond respond⟩
  | delay latency => exact ⟨[], rfl, .delay latency⟩

theorem Turns.head {a b : Host} {s : Taken} {past : List Taken} (step : Step a (some s) b) (turns : Turns b past h) :
    Turns a (past ++ [s]) h := by
  induction turns with
  | refl => exact .tail .refl step
  | tail _ step' ih => exact .tail ih step'

theorem Turns.steps {a : Host} {past : List Taken} (turns : Turns a past h) : Steps a h := by
  induction turns with
  | refl => exact .refl a
  | tail _ step ih => exact ih.trans step.steps

/-- To put lines out is to ask for it and to have the turn at once. -/
theorem PutOut.steps (putOut : PutOut lines h h') : Steps h h' := by
  obtain ⟨dispatched, turns, -, -⟩ := putOut
  have step : Step (h.ask (.emit lines)) (some ⟨{ h with tasks := h.tasks ++ [] }, .begin .foreground (.emit lines)⟩)
      ({ h with tasks := h.tasks ++ [] }.perform (.begin .foreground (.emit lines))) :=
    .turn (t := ⟨h.now, .begin .foreground (.emit lines)⟩) rfl (Nat.le_refl h.now)
  rw [List.append_nil] at step
  exact ((Step.ask (.emit lines)).steps.trans step.steps).trans turns.steps

theorem Withheld.steps (withheld : Withheld lines h h') : Steps h h' := by
  obtain ⟨rfl, -⟩ := withheld
  exact .refl h'

/-- A run with lines put out, or withheld, has taken steps. -/
theorem Interposed.steps {about : List String → Host → Host → Prop}
    (reaches : ∀ {lines h h'}, about lines h h' → Steps h h') {a : Host} {points : List Point}
    (run : Interposed about a points h) : Steps a h := by
  induction run with
  | refl => exact .refl a
  | own _ step ih =>
    obtain ⟨taken, step⟩ := step.step
    exact ih.trans step.steps
  | aside _ done ih => exact ih.trans (reaches done)

/-- What lines leave are dispatches of the fires that they tell of. -/
theorem exists_of_mem_leaves {t : Turn} (ht : t ∈ h.leaves (.begin .foreground (.emit lines))) :
    ∃ line ∈ lines, ∃ i fire, Fire.ofLine? line = some fire ∧ t = .dispatching (i, fire) := by
  simp only [leaves, heard, stretch?, follow, Option.elim_none, List.append_nil, List.mem_reverse,
    List.mem_map] at ht
  obtain ⟨f, hf, rfl⟩ := ht
  obtain ⟨line, hline, hf⟩ := List.mem_flatMap.mp hf
  obtain ⟨i, -, hf⟩ := List.mem_flatMap.mp hf
  obtain ⟨fire, hears, rfl⟩ := List.mem_map.mp hf
  -- an engine takes a line for no other fire than the line tells of
  have hfire : Fire.ofLine? line = some fire := by
    have hears := Option.mem_toList.mp hears
    unfold hears? at hears
    split at hears
    · split at hears
      · cases hears
      · exact hears
    · cases hears
  exact ⟨line, hline, i, fire, hfire, rfl⟩

/-- Lines that are no fires are put out in one turn, which leaves nothing to do. -/
theorem putOut_iff_of_rejected (rejected : ∀ line ∈ lines, Fire.ofLine? line = none) :
    PutOut lines h h' ↔ h' = h.perform (.begin .foreground (.emit lines)) := by
  -- no fire is told of, so there is no dispatch to wait for
  have nothing : h.leaves (.begin .foreground (.emit lines)) = [] := by
    rw [List.eq_nil_iff_forall_not_mem]
    intro t ht
    obtain ⟨line, hline, i, fire, hfire, -⟩ := exists_of_mem_leaves ht
    rw [rejected line hline] at hfire
    cases hfire
  constructor
  · rintro ⟨dispatched, turns, hturns, -⟩
    rw [nothing, Multiset.coe_nil, Multiset.coe_eq_zero, List.map_eq_nil_iff] at hturns
    subst hturns
    cases turns
    rfl
  · rintro rfl
    exact ⟨[], .refl, by rw [nothing]; rfl, by simp⟩

/-- The dispatches among which lines that concern nobody have come to stand are as many as those lines leave. -/
theorem coe_dispatches {dispatches : List Task} {news : List Entry} (idles : ∀ t ∈ dispatches, h.IsIdle t)
    (hperform : h.perform (.begin .foreground (.emit lines)) =
      { h with tasks := h.tasks ++ dispatches, journal := news ++ h.journal }) :
    (dispatches.map Task.turn : Multiset Turn) = h.leaves (.begin .foreground (.emit lines)) := by
  have hagenda := agenda_perform h (.begin .foreground (.emit lines))
  have work : (dispatches.map Task.turn).filter Turn.isWork = dispatches.map Task.turn := by
    rw [List.filter_eq_self]
    intro t ht
    obtain ⟨u, hu, rfl⟩ := List.mem_map.mp ht
    obtain ⟨i, fire, rfl, -⟩ := idles u hu
    rfl
  rw [hperform, agenda, agenda, List.map_append, List.filter_append, work, ← Multiset.coe_add, add_comm] at hagenda
  exact add_right_cancel hagenda

/-- Dispatches that find no callback can be taken at any point, and leave the host as it was. -/
theorem exists_turns_of_dispatches (attended : h.Attended) {dispatches : List Task}
    (idles : ∀ t ∈ dispatches, h.IsIdle t) (journal : List Entry) :
    ∃ dispatched news, Turns { h with tasks := h.tasks ++ dispatches, journal } dispatched
        { h with journal := news ++ journal } ∧
      (dispatched.map Taken.turn : Multiset Turn) = dispatches.map Task.turn ∧
      (∀ taken ∈ dispatched, h.tasks <+: taken.host.tasks) ∧ ∀ entry ∈ news, entry.event.isAside := by
  -- the induction is on the dispatches that are left; each adds entries to the journal, and the debouncers stay
  -- attended to
  induction dispatches generalizing journal with
  | nil =>
    refine ⟨[], [], ?_, rfl, by simp, by simp⟩
    rw [List.append_nil]
    exact .refl
  | cons t dispatches ih =>
    have idle := idles t List.mem_cons_self
    obtain ⟨news, hperform, asides⟩ := exists_perform_of_isIdle attended idle dispatches journal
    obtain ⟨dispatched, news', turns, hturns, next, asides'⟩ :=
      ih (fun t ht => idles t (List.mem_cons_of_mem _ ht)) (news ++ journal)
    obtain ⟨i, fire, rfl, -⟩ := idle
    have step : Step { h with tasks := h.tasks ++ ⟨h.now, .dispatching (i, fire)⟩ :: dispatches, journal } _ _ :=
      .turn rfl (Nat.le_refl h.now)
    rw [hperform] at step
    refine ⟨_, news' ++ news, Turns.head step (by rwa [List.append_assoc]), ?_, ?_, ?_⟩
    · rw [List.map_append, ← Multiset.coe_add, hturns, add_comm]
      rfl
    · rw [List.forall_mem_append, List.forall_mem_singleton]
      exact ⟨next, List.prefix_append _ _⟩
    · exact List.forall_mem_append.mpr ⟨asides', asides⟩

/-- Lines that concern nobody can be put out at any point, and leave the host as it was. -/
theorem exists_putOut_of_ignores (attended : h.Attended) (ignored : ∀ line ∈ lines, h.Ignores line) :
    ∃ news, PutOut lines h { h with journal := news ++ h.journal } ∧ ∀ entry ∈ news, entry.event.isAside := by
  obtain ⟨dispatches, news, hperform, idles, asides⟩ := idles_perform_emit ignored
  obtain ⟨dispatched, news', turns, hturns, next, asides'⟩ :=
    exists_turns_of_dispatches attended idles (news ++ h.journal)
  rw [coe_dispatches idles hperform] at hturns
  rw [← hperform, ← List.append_assoc] at turns
  exact ⟨news' ++ news, ⟨dispatched, turns, hturns, next⟩, List.forall_mem_append.mpr ⟨asides', asides⟩⟩

/-- However dispatches that find no callback are taken before all else, they leave the host as it was: what waits
behind the tasks from before is one less with each of them. -/
theorem exists_of_turns (attended : h.Attended) {dispatched : List Taken} {dispatches : List Task}
    {journal : List Entry} (turns : Turns { h with tasks := h.tasks ++ dispatches, journal } dispatched h')
    (idle : ∀ taken ∈ dispatched, ∃ i fire, taken.turn = .dispatching (i, fire) ∧ h.bound? i fire.trigger = none)
    (next : ∀ taken ∈ dispatched, h.tasks <+: taken.host.tasks) :
    ∃ left news, h' = { h with tasks := h.tasks ++ left, journal := news ++ journal } ∧
      left.length + dispatched.length = dispatches.length ∧ ∀ entry ∈ news, entry.event.isAside := by
  -- the induction is on the dispatches taken; which of them is taken first makes no difference to the tasks that
  -- were there before
  induction turns with
  | refl => exact ⟨dispatches, [], rfl, rfl, by simp⟩
  | @tail past s g g' _ step ih =>
    obtain ⟨left, news, rfl, hlength, asides⟩ := ih (fun taken ht => idle taken (List.mem_cons_of_mem s ht))
      fun taken ht => next taken (List.mem_cons_of_mem s ht)
    obtain ⟨i, fire, hturn, free⟩ := idle s List.mem_cons_self
    obtain ⟨left', hleft⟩ := next s List.mem_cons_self
    cases step with
    | @turn before after t mem due =>
      have hrest : before ++ after = h.tasks ++ left' := hleft.symm
      -- one task has been taken, and it was not one of those that were there before
      have hless : left'.length + 1 = left.length := by
        have hmem := congrArg List.length mem
        have hrest := congrArg List.length hrest
        simp only [List.length_append, List.length_cons] at hmem hrest
        omega
      have hturn : t.turn = .dispatching (i, fire) := hturn
      obtain ⟨news', hperform, asides'⟩ :=
        perform_dispatching (h := { h with tasks := h.tasks ++ left', journal := news ++ journal }) free
          ((attended.moves i).append left' (news ++ journal))
      refine ⟨left', news' ++ news, ?_, ?_, List.forall_mem_append.mpr ⟨asides', asides⟩⟩
      · rw [hturn, hrest]
        simp only [hperform, List.append_assoc]
      · rw [List.length_cons]
        omega

/-- To put out lines that concern nobody leaves the host as it was. -/
theorem InVain.eq (attended : h.Attended) (vain : InVain lines h h') :
    ∃ news, h' = { h with journal := news ++ h.journal } ∧ ∀ entry ∈ news, entry.event.isAside := by
  obtain ⟨⟨dispatched, turns, hturns, next⟩, ignored⟩ := vain
  obtain ⟨dispatches, news, hperform, idles, asides⟩ := idles_perform_emit ignored
  have hcount := congrArg Multiset.card ((coe_dispatches idles hperform).trans hturns.symm)
  rw [Multiset.coe_card, Multiset.coe_card, List.length_map, List.length_map] at hcount
  rw [hperform] at turns
  have idle : ∀ taken ∈ dispatched, ∃ i fire, taken.turn = .dispatching (i, fire) ∧
      h.bound? i fire.trigger = none := by
    intro taken htaken
    have hleaves : taken.turn ∈ (h.leaves (.begin .foreground (.emit lines)) : Multiset Turn) := by
      rw [← hturns]
      exact List.mem_map_of_mem htaken
    obtain ⟨line, hline, i, fire, hfire, hturn⟩ := exists_of_mem_leaves hleaves
    exact ⟨i, fire, hturn, ignored line hline fire hfire i⟩
  obtain ⟨left, news', rfl, hlength, asides'⟩ := exists_of_turns attended turns idle next
  -- as many have been taken as were left
  have hleft : left = [] := List.eq_nil_of_length_eq_zero (by omega)
  refine ⟨news' ++ news, ?_, List.forall_mem_append.mpr ⟨asides', asides⟩⟩
  rw [hleft, List.append_nil, List.append_assoc]

section

variable {latency : Nat} {rules : List Rule} {draws : Draws} {config : Config} {points : List Point}

theorem Attended.of_journal (attended : h.Attended) (journal : List Entry) : Attended { h with journal } :=
  ⟨attended.moves, attended.deadlines⟩

/-- Lines that would concern nobody can be put out, and all else goes on as it does without them. -/
theorem Interposed.exists_inVain (run : Interposed Withheld (start latency rules draws config) points h) :
    ∃ journal, Interposed InVain (start latency rules draws config) points { h with journal } ∧
      Interspersed h.journal journal := by
  -- the induction is on the run; what is put out goes to the other journal only
  induction run with
  | refl => exact ⟨_, .refl, .refl _⟩
  | @own points point h h' run step ih =>
    obtain ⟨journal, run', same⟩ := ih
    obtain ⟨news, hnews, step'⟩ := step.of_journal journal
    refine ⟨news ++ journal, .own run' step', ?_⟩
    rw [hnews]
    exact same.append news
  | @aside points lines h h' run done ih =>
    obtain ⟨rfl, ignored⟩ := done
    obtain ⟨journal, run', same⟩ := ih
    obtain ⟨past, trace⟩ := run.steps Withheld.steps
    -- the lines are put out, and their dispatches come to nothing at once
    obtain ⟨news, putOut, asides⟩ := exists_putOut_of_ignores (trace.attended.of_journal journal) ignored
    exact ⟨news ++ journal, .aside run' ⟨putOut, ignored⟩, same.append_asides asides⟩

/-- Lines that have been put out and have concerned nobody might as well not have been put out. -/
theorem Interposed.exists_withheld (run : Interposed InVain (start latency rules draws config) points h') :
    ∃ h, Interposed Withheld (start latency rules draws config) points h ∧
      h' = { h with journal := h'.journal } ∧ Interspersed h.journal h'.journal := by
  induction run with
  | refl => exact ⟨_, .refl, rfl, .refl _⟩
  | @own points point g g' run step ih =>
    obtain ⟨h, run', hg, same⟩ := ih
    have hg : { g with journal := h.journal } = h := by rw [hg]
    obtain ⟨news, hnews, step'⟩ := step.of_journal h.journal
    rw [hg] at step'
    refine ⟨_, .own run' step', rfl, ?_⟩
    rw [hnews]
    exact same.append news
  | @aside points lines g g' run done ih =>
    obtain ⟨h, run', hg, same⟩ := ih
    obtain ⟨past, trace⟩ := run.steps fun vain => PutOut.steps vain.1
    -- what is put out in vain leads back to the same host
    obtain ⟨news, rfl, asides⟩ := done.eq trace.attended
    have ignored := done.2
    rw [hg] at ignored
    refine ⟨h, .aside run' ⟨rfl, ignored⟩, ?_, same.append_asides asides⟩
    rw [hg]

end

/-! ### Runs that are driven -/

/-- Tasks that are not due yet are passed over. -/
theorem takeDue_append {now : Nat} {early : List Task} (later : ∀ t ∈ early, now < t.due) (tasks : List Task) :
    Task.takeDue now (early ++ tasks) = (Task.takeDue now tasks).map fun (t, rest) => (t, early ++ rest) := by
  induction early with
  | nil =>
    rw [List.nil_append]
    cases Task.takeDue now tasks <;> rfl
  | cons t early ih =>
    have ht : ¬t.due ≤ now := Nat.not_le.mpr (later t List.mem_cons_self)
    rw [List.cons_append, Task.takeDue, if_neg ht, ih fun u hu => later u (List.mem_cons_of_mem t hu), Option.map_map]
    rfl

/-- Where nothing else is due, dispatches that find no callback are taken one after the other, and leave the host as
it was. -/
theorem exists_settle_of_dispatches (attended : h.Attended) (idle : h.advance = none) {dispatches : List Task}
    (idles : ∀ t ∈ dispatches, h.IsIdle t) (journal : List Entry) :
    ∃ steps news, settle steps { h with tasks := h.tasks ++ dispatches, journal } =
        some { h with journal := news ++ journal } ∧ ∀ entry ∈ news, entry.event.isAside := by
  obtain ⟨later, rests⟩ := advance_eq_none_iff.mp idle
  -- nothing else is due, so that the dispatches are taken one after the other
  induction dispatches generalizing journal with
  | nil =>
    have hidle : advance { h with tasks := h.tasks ++ [], journal } = none := by
      rw [List.append_nil]
      exact advance_eq_none_iff.mpr ⟨later, rests⟩
    refine ⟨1, [], ?_, by simp⟩
    rw [settle, hidle, List.append_nil]
    rfl
  | cons t dispatches ih =>
    have hidle := idles t List.mem_cons_self
    obtain ⟨news, hperform, asides⟩ := exists_perform_of_isIdle attended hidle dispatches journal
    obtain ⟨steps, news', hsettle, asides'⟩ :=
      ih (fun t ht => idles t (List.mem_cons_of_mem _ ht)) (news ++ journal)
    obtain ⟨i, fire, rfl, -⟩ := hidle
    have hturn : turn? { h with tasks := h.tasks ++ ⟨h.now, .dispatching (i, fire)⟩ :: dispatches, journal } =
        some { h with tasks := h.tasks ++ dispatches, journal := news ++ journal } := by
      rw [turn?, takeDue_append later, Task.takeDue, if_pos (Nat.le_refl _)]
      exact congrArg some hperform
    refine ⟨steps + 1, news' ++ news, ?_, ?_⟩
    · rw [settle, advance, hturn]
      simp only
      rw [hsettle, List.append_assoc]
    · exact List.forall_mem_append.mpr ⟨asides', asides⟩

/-- Lines that concern nobody, put out where nothing else is due. -/
theorem exists_drive_of_ignores (attended : h.Attended) (idle : h.advance = none)
    (ignored : ∀ line ∈ lines, h.Ignores line) : ∃ steps news,
      drive steps h (.emit lines) = some { h with journal := news ++ h.journal } ∧
        ∀ entry ∈ news, entry.event.isAside := by
  obtain ⟨later, -⟩ := advance_eq_none_iff.mp idle
  obtain ⟨dispatches, news, hperform, idles, asides⟩ := idles_perform_emit ignored
  obtain ⟨steps, news', hsettle, asides'⟩ := exists_settle_of_dispatches attended idle idles (news ++ h.journal)
  -- the lines are put out first, then what they leave
  have hturn : (h.ask (.emit lines)).turn? =
      some { h with tasks := h.tasks ++ dispatches, journal := news ++ h.journal } := by
    rw [turn?, ask, schedule, takeDue_append later, Task.takeDue, if_pos (Nat.le_refl _)]
    simp only [Option.map_some, List.append_nil]
    exact congrArg some hperform
  refine ⟨steps + 1, news' ++ news, ?_, ?_⟩
  · rw [drive, settle, advance, hturn]
    simp only
    rw [hsettle, List.append_assoc]
  · exact List.forall_mem_append.mpr ⟨asides', asides⟩

/-- What is driven settles what comes of it: two runs with the same requests are the same. -/
theorem Run.unique {steps steps' : List (Request × List Entry)} {h'' : Host} (run : Run h steps h')
    (run' : Run h steps' h'') (same : steps.map Prod.fst = steps'.map Prod.fst) : steps = steps' ∧ h' = h'' := by
  induction run generalizing steps' with
  | nil h =>
    cases run' with
    | nil => exact ⟨rfl, rfl⟩
    | cons _ _ _ => cases same
  | cons driven added _ ih =>
    cases run' with
    | nil => cases same
    | cons driven' added' run' =>
      obtain ⟨rfl, hlater⟩ := List.cons.inj same
      -- a request comes to one end, whatever the steps allowed
      obtain rfl := settle_unique driven driven'
      obtain rfl := List.append_cancel_right (added.symm.trans added')
      obtain ⟨rfl, rfl⟩ := ih run' hlater
      exact ⟨rfl, rfl⟩

variable {latency : Nat} {rules : List Rule} {draws : Draws} {config : Config} {calls : List Call}
  {alone : List (Request × List Entry)}

/-- From any host between two requests of a run, and whatever journal, lines that concern nobody make no difference. -/
theorem exists_run_of_unheeded (reached : Steps (start latency rules draws config) h) (idle : h.advance = none)
    (run : Run h alone h') (own : calls.filterMap Call.own? = alone.map Prod.fst) (unheeded : Unheeded h calls)
    (journal : List Entry) : ∃ disturbed entries, Run { h with journal } disturbed { h' with journal := entries } ∧
      Undisturbed calls alone disturbed := by
  induction calls generalizing h alone journal with
  | nil =>
    cases run with
    | nil => exact ⟨[], journal, .nil _, .nil⟩
    | cons _ _ _ => cases own
  | cons call calls ih =>
    cases call with
    | own request =>
      cases run with
      | nil => cases own
      | @cons _ next _ _ news later steps driven added run =>
        obtain ⟨rfl, hlater⟩ := List.cons.inj own
        have hnext := drive_of_journal driven added journal
        obtain ⟨disturbed, entries, run', undisturbed⟩ := ih (reached.trans (steps_of_drive driven))
          (advance_of_settle driven) run hlater (unheeded steps next driven) (news ++ journal)
        exact ⟨_, entries, .cons hnext rfl run', .own request news undisturbed⟩
    | aside lines =>
      -- the aside leads back to the same host, so the run alone goes on as it was
      obtain ⟨ignored, unheeded⟩ := unheeded
      obtain ⟨past, trace⟩ := reached
      obtain ⟨steps, news, driven, asides⟩ := exists_drive_of_ignores trace.attended idle ignored
      have hnext := drive_of_journal driven rfl journal
      obtain ⟨disturbed, entries, run', undisturbed⟩ :=
        ih ⟨past, trace⟩ idle run own unheeded (news ++ journal)
      exact ⟨_, entries, .cons hnext rfl run', .aside lines asides undisturbed⟩

/-- The run that is disturbed has the calls' requests in order. -/
theorem Undisturbed.requests {disturbed : List (Request × List Entry)}
    (undisturbed : Undisturbed calls alone disturbed) :
    disturbed.map Prod.fst = calls.map Call.request := by
  induction undisturbed with
  | nil => rfl
  | own request news _ ih => exact congrArg (request :: ·) ih
  | aside lines _ _ ih => exact congrArg (.emit lines :: ·) ih

end Host

/-- A chat line tells of no fire, as the grammar has none. -/
theorem Fire.ofLine?_of_chat {line : String} (chat : FireLine.Chat line.toList) : Fire.ofLine? line = none := by
  rw [Fire.ofLine?, FireLine.read?_of_chat chat, Option.map_none]

namespace Host

/-- What a player says is never taken for a fire. Lines that concern nobody can be put out anywhere in a run, in any
order of tasks, and all else goes on as without them, at the same times, to the same host but for the journal; and
wherever they are put out, all else could have gone on so without them. Lines that are no fires are put out in one
turn, after which nothing is asked of the run. And where lines that concern nobody are put out between the requests of
a run that is driven, it can go on in no other way. -/
theorem undisturbed_of_unheeded :
    (∀ line : String, FireLine.Chat line.toList → Fire.ofLine? line = none) ∧
      (∀ latency rules draws config points h,
        Interposed Withheld (start latency rules draws config) points h →
          ∃ h', Interposed InVain (start latency rules draws config) points h' ∧
            h' = { h with journal := h'.journal } ∧ Interspersed h.journal h'.journal) ∧
      (∀ latency rules draws config points h',
        Interposed InVain (start latency rules draws config) points h' →
          ∃ h, Interposed Withheld (start latency rules draws config) points h ∧
            h' = { h with journal := h'.journal } ∧ Interspersed h.journal h'.journal) ∧
      (∀ (h h' : Host) (lines : List String), (∀ line ∈ lines, Fire.ofLine? line = none) →
        (InVain lines h h' ↔ h' = h.perform (.begin .foreground (.emit lines)))) ∧
      ∀ latency rules draws config calls alone h, Run (start latency rules draws config) alone h →
        calls.filterMap Call.own? = alone.map Prod.fst → Unheeded (start latency rules draws config) calls →
          ∃ disturbed h', Run (start latency rules draws config) disturbed h' ∧
            Undisturbed calls alone disturbed ∧ h' = { h with journal := h'.journal } ∧
              ∀ steps h'', Run (start latency rules draws config) steps h'' →
                steps.map Prod.fst = calls.map Call.request → steps = disturbed ∧ h'' = h' := by
  refine ⟨fun line chat => Fire.ofLine?_of_chat chat, ?_, ?_, ?_, ?_⟩
  · intro latency rules draws config points h run
    -- each line is put in where it was withheld: it writes to the journal only, which no later step reads
    obtain ⟨journal, run', same⟩ := run.exists_inVain
    exact ⟨_, run', rfl, same⟩
  · intro latency rules draws config points h' run
    exact run.exists_withheld
  · intro h h' lines rejected
    -- a line that no engine takes for a fire is ignored by all of them
    have ignored : ∀ line ∈ lines, h.Ignores line := by
      intro line hline fire hfire
      rw [rejected line hline] at hfire
      cases hfire
    rw [← putOut_iff_of_rejected rejected]
    exact and_iff_left ignored
  · intro latency rules draws config calls alone h run own unheeded
    -- between two calls nothing is left to do, so each call starts from the same host, but for the journal
    have idle : (start latency rules draws config).advance = none := rfl
    obtain ⟨disturbed, entries, run', undisturbed⟩ := exists_run_of_unheeded (.refl _) idle run own unheeded []
    refine ⟨disturbed, _, run', undisturbed, rfl, ?_⟩
    intro steps h'' run'' requests
    exact run''.unique run' (requests.trans undisturbed.requests.symm)

/-- A run in which a trigger is bound and used. Before that somebody uses its name, which nobody has bound yet, be it
before or after somebody has asked to bind it, and in between a player writes what looks like a fire of it. -/
theorem undisturbed_of_forgery :
    (∃ h, Interposed InVain (start 0 [] {} {}) [.aside ["[Alice: Triggered [tri_tQaBe_AAAAAA]]"],
      .ask (.operate 0 (.bind ⟨"demo", "demo"⟩ { id := "greet" }))] h ∧
        h.tasks.map (·.turn) = [.begin .foreground (.operate 0 (.bind ⟨"demo", "demo"⟩ { id := "greet" }))]) ∧
    ∃ alone disturbed h h', Run (start 0 [] {} {}) alone h ∧
      Run (start 0 [] {} {}) disturbed h' ∧ h' = { h with journal := h'.journal } ∧
      disturbed.map Prod.fst = [.emit ["[Alice: Triggered [tri_tQaBe_AAAAAA]]"],
        .operate 0 (.bind ⟨"demo", "demo"⟩ { id := "greet" }),
        .emit ["[12:00:00]: <Bob> ]: [Alice: Triggered [tri_tQaBe_AAAAAA]]"],
        .emit ["[Alice: Triggered [tri_tQaBe_AAAAAA] (set value to 3)]"]] ∧
      h'.engines.map (·.stats.triggersFired) = [1] := by
  let start := start 0 [] {} {}
  let bind := Request.operate 0 (.bind ⟨"demo", "demo"⟩ { id := "greet" })
  let use := Request.emit ["[Alice: Triggered [tri_tQaBe_AAAAAA] (set value to 3)]"]
  let early := "[Alice: Triggered [tri_tQaBe_AAAAAA]]"
  let forged := "[12:00:00]: <Bob> ]: [Alice: Triggered [tri_tQaBe_AAAAAA]]"
  let calls : List Call := [.aside [early], .own bind, .aside [forged], .own use]
  obtain ⟨rejects, interposed, -, -, undisturbed⟩ := undisturbed_of_unheeded
  -- the run of the plugin alone, on which both statements rest
  have driven : ((start.drive 50 bind).bind (drive 50 · use)).map
      (fun h => h.engines.map (·.stats.triggersFired)) = some [1] := by decide +kernel
  obtain ⟨h, hdriven, hfired⟩ := Option.map_eq_some_iff.mp driven
  obtain ⟨bound, hbound, hused⟩ := Option.bind_eq_some_iff.mp hdriven
  obtain ⟨bindNews, hbindNews⟩ := exists_news hbound
  obtain ⟨useNews, huseNews⟩ := exists_news hused
  have run : Run start [(bind, bindNews), (use, useNews)] h := .cons hbound hbindNews (.cons hused huseNews (.nil h))
  -- the first line comes before the name is bound, the second one is chat
  have unbound : start.Ignores early ∧ (start.ask bind).Ignores early := by
    refine ⟨fun fire _ i => ?_, fun fire _ i => ?_⟩ <;> cases i <;> rfl
  have isHeader : FireLine.Header "[12:00:00]: ".toList :=
    @FireLine.Header.one "12:00:00".toList _ [] [' '] ⟨by decide, rfl⟩ (.inl rfl) (.inr rfl)
  have chat : FireLine.Chat forged.toList :=
    ⟨_, [], "Bob> ]: [Alice: Triggered [tri_tQaBe_AAAAAA]]".toList, by decide, isHeader, .inl rfl⟩
  have unheeded : Unheeded start calls := by
    refine ⟨by simpa using unbound.1, fun _ h' _ => ⟨?_, fun _ _ _ => trivial⟩⟩
    intro line hline fire hfire
    rw [List.mem_singleton.mp hline, rejects forged chat] at hfire
    cases hfire
  have asked : Interposed Withheld start [.aside [early], .ask bind] (start.ask bind) :=
    .aside (.own .refl (.ask bind)) ⟨rfl, by simpa using unbound.2⟩
  constructor
  · obtain ⟨h', putOut, hend, -⟩ := interposed 0 [] {} {} _ _ asked
    refine ⟨h', putOut, ?_⟩
    rw [hend]
    rfl
  · obtain ⟨disturbed, h', run', same, hend, -⟩ := undisturbed 0 [] {} {} calls _ h run rfl unheeded
    refine ⟨_, disturbed, h, h', run, run', hend, same.requests, ?_⟩
    rw [hend]
    exact hfired

end Host

end Scoreboard
