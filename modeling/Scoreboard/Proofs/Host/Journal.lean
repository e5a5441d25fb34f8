import Scoreboard.Host.Step

/-!
# The journal is only written

What a host does does not depend on what is in its journal: with older entries below (`Host.onto`), every turn
leads to the same host, with the same entries below (`perform_onto`), and so does every run (`drive_onto`). Two
hosts that differ in their journals only can take the same steps (`Step.of_journal`) and are driven alike
(`drive_of_journal`), and they add the same entries.
-/

namespace Scoreboard.Host

/-- A host with older entries below those of its journal. -/
def onto (h : Host) (older : List Entry) : Host := { h with journal := h.journal ++ older }

variable (h : Host) (older : List Entry)

/-! ### Small changes -/

@[simp] theorem engines_onto : (h.onto older).engines = h.engines := rfl

@[simp] theorem console_onto : (h.onto older).console = h.console := rfl

@[simp] theorem now_onto : (h.onto older).now = h.now := rfl

@[simp] theorem tasks_onto : (h.onto older).tasks = h.tasks := rfl

@[simp] theorem draws_onto : (h.onto older).draws = h.draws := rfl

@[simp] theorem isAlive_onto (i : Nat) : (h.onto older).isAlive i = h.isAlive i := rfl

@[simp] theorem isAttended_onto (i : Nat) : (h.onto older).isAttended i = h.isAttended i := rfl

theorem ite_onto (c : Prop) [Decidable c] (a b : Host) :
    (if c then a else b).onto older = if c then a.onto older else b.onto older := apply_ite (onto · older) c a b

theorem note_onto (i : Nat) (notes : List Note) : (h.onto older).note i notes = (h.note i notes).onto older := by
  induction notes generalizing h with
  | nil => rfl
  | cons note notes ih => exact ih (h.record (.noted i note))

theorem goOn_onto (turn : Turn) : (h.onto older).goOn turn = (h.goOn turn).onto older := rfl

theorem setEngine_onto (i : Nat) (e : Engine) : (h.onto older).setEngine i e = (h.setEngine i e).onto older := rfl

theorem disarm_onto (i after : Nat) : (h.onto older).disarm i after = (h.disarm i after).onto older := rfl

theorem arm_onto (i deadline : Nat) : (h.onto older).arm i deadline = (h.arm i deadline).onto older := by
  simp only [arm, now_onto, disarm_onto, ite_onto]
  rfl

theorem answer_onto (origin : Origin) (answer : Answer) :
    (h.onto older).answer origin answer = (h.answer origin answer).onto older := by
  cases origin <;> rfl

theorem conclude_onto (origin : Origin) (i : Nat) (e : Engine) (answer : Answer) :
    (h.onto older).conclude origin i e answer = (h.conclude origin i e answer).onto older := by
  cases origin <;> rfl

theorem send_onto (origin : Origin) (i : Nat) (commands : List Command) (stage : Stage) :
    (h.onto older).send origin i commands stage = (h.send origin i commands stage).onto older := by
  simp only [send, ite_onto]
  rfl

/-- What a stretch decides is carried out the same above older entries. -/
theorem proceed_onto (origin : Origin) (i : Nat) (o : Outcome) :
    (h.onto older).proceed origin i o = (h.proceed origin i o).onto older := by
  simp only [proceed, setEngine_onto, note_onto]
  split
  · exact send_onto _ older origin i _ _
  · exact conclude_onto _ older origin i o.engine _
  · exact conclude_onto (schedule _ _ _) older origin i o.engine .nothing
  · rfl

/-! ### Turns -/

/-- A debouncer makes the same move above older entries. -/
theorem attend_onto (i : Nat) : (h.onto older).attend i = (h.attend i).onto older := by
  simp only [attend, engines_onto, now_onto, isAlive_onto]
  split
  · rfl
  split
  · rfl
  rename_i move debouncer _
  cases move with
  | arm deadline => simp only [setEngine_onto, arm_onto, goOn_onto]
  | stop => simp only [setEngine_onto, disarm_onto, note_onto]
  | start =>
    simp only [ite_onto]
    rfl

/-- An engine is alerted the same above older entries. -/
theorem alert_onto (i : Nat) : (h.onto older).alert i = (h.alert i).onto older := by
  simp only [alert, engines_onto, now_onto, isAlive_onto, isAttended_onto]
  split
  · rfl
  · rw [ite_onto]
    rfl

theorem offer_onto (i : Nat) (line : String) : (h.onto older).offer i line = (h.offer i line).onto older := by
  simp only [offer, engines_onto, note_onto]
  split
  · split <;> rfl
  · rfl

/-- A line of the console reaches the same engines above older entries. -/
theorem emit_onto (line : String) : (h.onto older).emit line = (h.emit line).onto older := by
  simp only [emit, console_onto]
  induction h.console.serving generalizing h with
  | nil => rfl
  | cons i engines ih =>
    rw [List.foldl_cons, List.foldl_cons, isAlive_onto, offer_onto, ← ite_onto]
    exact ih _

theorem emits_onto (lines : List String) :
    lines.foldl emit (h.onto older) = (lines.foldl emit h).onto older := by
  induction lines generalizing h with
  | nil => rfl
  | cons line lines ih => rw [List.foldl_cons, emit_onto, ih, List.foldl_cons]

/-- An engine is torn down the same above older entries. -/
theorem shutDown_onto (i : Nat) : (h.onto older).shutDown i = (h.shutDown i).onto older := by
  simp only [shutDown, engines_onto]
  split
  · rfl
  split
  · rfl
  · exact note_onto { h.setEngine i _ with console := _ } older i [.shutDown]

theorem release_onto (i : Nat) : (h.onto older).release i = (h.release i).onto older := by
  simp only [release, engines_onto]
  split <;> rfl

/-- A request begins the same above older entries. -/
theorem begin_onto (origin : Origin) (request : Request) :
    (h.onto older).begin origin request = (h.begin origin request).onto older := by
  cases request with
  | operate i operation =>
    rcases he : h.engines[i]? with _ | e
    · simp only [begin, engines_onto, he]
    · simp only [begin, engines_onto, draws_onto, he]
      exact proceed_onto { h with draws := (e.begin operation h.draws).2 } older origin i _
  | offer i line => simp only [begin, offer_onto, answer_onto]
  | shutDown i => simp only [begin, shutDown_onto, answer_onto]
  | release i => simp only [begin, release_onto, answer_onto]
  | create config => exact answer_onto (h.create config) older origin _
  | emit lines => simp only [begin, emits_onto, answer_onto]
  | respond rules => exact answer_onto { h with console := _ } older origin .nothing
  | forget => exact answer_onto { h with console := _ } older origin .nothing
  | commands start => exact answer_onto h older origin _
  | hasProcessor owner => exact answer_onto h older origin _
  | sleep duration => rfl
  | spawn label request => exact answer_onto (h.schedule _ _) older origin .nothing

/-- A turn does the same above older entries. -/
theorem run_onto (turn : Turn) : (h.onto older).run turn = (h.run turn).onto older := by
  cases turn with
  | begin origin request => exact begin_onto (h.record _) older origin request
  | resume origin i stage reply =>
    simp only [run, engines_onto]
    split
    · rfl
    · exact proceed_onto h older origin i _
  | wake origin => exact answer_onto h older origin .nothing
  | call i callback fire => exact emits_onto (h.record _) older (callback.emits fire)
  | attend i => exact attend_onto h older i

/-- A turn leads to the same host above older entries, with these still below. -/
theorem perform_onto (turn : Turn) : (h.onto older).perform turn = (h.perform turn).onto older := by
  simp only [perform, run_onto]
  split
  · exact alert_onto _ older _
  · rfl

/-- A turn adds the same entries to every journal. -/
theorem exists_perform_of_journal (turn : Turn) : ∃ news, ∀ journal,
    ({ h with journal } : Host).perform turn = { h.perform turn with journal := news ++ journal } := by
  -- the entries that a turn adds are those that it writes to an empty journal
  let bare : Host := { h with journal := [] }
  have hbare : ∀ journal, ({ h with journal } : Host).perform turn = (bare.perform turn).onto journal :=
    fun journal => perform_onto bare journal turn
  refine ⟨(bare.perform turn).journal, fun journal => ?_⟩
  rw [hbare journal, show h.perform turn = (bare.perform turn).onto h.journal from hbare h.journal]
  rfl

/-! ### Steps -/

/-- What can happen to a host can happen to it with every journal, and adds the same entries. -/
theorem Step.of_journal {h h' : Host} {taken : Option Taken} (step : Step h taken h') (journal : List Entry) :
    ∃ taken' news, taken'.map (·.turn) = taken.map (·.turn) ∧ h'.journal = news ++ h.journal ∧
      Step { h with journal } taken' { h' with journal := news ++ journal } := by
  cases step with
  | @turn before after t mem due =>
    obtain ⟨news, hperform⟩ := exists_perform_of_journal { h with tasks := before ++ after } t.turn
    refine ⟨some ⟨{ h with tasks := before ++ after, journal }, t.turn⟩, news, rfl,
      congrArg Host.journal (hperform h.journal), ?_⟩
    rw [← hperform journal]
    exact .turn mem due
  | pass later early => exact ⟨none, [], rfl, rfl, .pass later early⟩
  | ask request => exact ⟨none, [], rfl, rfl, .ask request⟩
  | respond respond => exact ⟨none, [], rfl, rfl, .respond respond⟩
  | delay latency => exact ⟨none, [], rfl, rfl, .delay latency⟩

/-- A trace can be taken with every journal, and adds the same entries. -/
theorem Trace.of_journal {a h : Host} {past : List Taken} (trace : Trace a past h) (journal : List Entry) :
    ∃ past' news, past'.map (·.turn) = past.map (·.turn) ∧ h.journal = news ++ a.journal ∧
      Trace { a with journal } past' { h with journal := news ++ journal } := by
  induction trace with
  | refl => exact ⟨[], [], rfl, rfl, .refl⟩
  | @tail past h h' taken _ step ih =>
    obtain ⟨past', news, turns, added, trace⟩ := ih
    obtain ⟨taken', news', turn, added', step⟩ := step.of_journal (news ++ journal)
    refine ⟨taken'.toList ++ past', news' ++ news, ?_, ?_, ?_⟩
    · rw [List.map_append, List.map_append, turns, ← Option.toList_map, ← Option.toList_map, turn]
    · rw [added', added, List.append_assoc]
    · rw [List.append_assoc]
      exact trace.tail step

/-! ### Runs -/

theorem turn?_onto : (h.onto older).turn? = h.turn?.map (·.onto older) := by
  simp only [turn?, tasks_onto, now_onto]
  cases Task.takeDue h.now h.tasks with
  | none => rfl
  | some due => exact congrArg some (perform_onto { h with tasks := due.2 } older due.1.turn)

theorem pass?_onto : (h.onto older).pass? = h.pass?.map (·.onto older) := by
  simp only [pass?, tasks_onto, now_onto, Option.map_map]
  rfl

/-- A run does the same next above older entries. -/
theorem advance_onto : (h.onto older).advance = h.advance.map (·.onto older) := by
  simp only [advance, turn?_onto]
  cases h.turn? with
  | some after => rfl
  | none =>
    show (if h.isBusy then (h.onto older).pass? else none) = _
    rw [pass?_onto]
    cases h.isBusy <;> rfl

/-- A run comes to the same end above older entries. -/
theorem settle_onto (steps : Nat) : settle steps (h.onto older) = (settle steps h).map (·.onto older) := by
  induction steps generalizing h with
  | zero => rfl
  | succ steps ih =>
    simp only [settle, advance_onto]
    cases h.advance with
    | some after => exact ih after
    | none => rfl

/-- Something that is driven comes to the same end above older entries. -/
theorem drive_onto (steps : Nat) (request : Request) :
    drive steps (h.onto older) request = (drive steps h request).map (·.onto older) :=
  settle_onto (h.ask request) older steps

variable {h older} {h' h'' : Host} {steps : Nat} {request : Request} {news : List Entry}

/-- What is driven adds the same entries to every journal. -/
theorem drive_of_journal (driven : drive steps h request = some h') (added : h'.journal = news ++ h.journal)
    (journal : List Entry) :
    drive steps { h with journal } request = some { h' with journal := news ++ journal } := by
  let bare : Host := { h with journal := [] }
  have hbare := fun older => drive_onto bare older steps request
  have hdriven := hbare h.journal
  rw [show bare.onto h.journal = h from rfl, driven] at hdriven
  obtain ⟨after, hafter, rfl⟩ := Option.map_eq_some_iff.mp hdriven.symm
  have hnews : after.journal = news := List.append_cancel_right added
  rw [show ({ h with journal } : Host) = bare.onto journal from rfl, hbare journal, hafter, Option.map_some, ← hnews]
  rfl

/-- A journal only grows. -/
theorem exists_news (driven : drive steps h request = some h') : ∃ news, h'.journal = news ++ h.journal := by
  -- the run writes to an empty journal what it writes above this one
  let bare : Host := { h with journal := [] }
  have hdriven := drive_onto bare h.journal steps request
  rw [show bare.onto h.journal = h from rfl, driven] at hdriven
  obtain ⟨after, -, rfl⟩ := Option.map_eq_some_iff.mp hdriven.symm
  exact ⟨after.journal, rfl⟩

/-! ### Runs that come to an end -/

/-- A run is at its end where nothing is due and nobody waits for anything. -/
theorem advance_eq_none_iff :
    h.advance = none ↔ (∀ t ∈ h.tasks, h.now < t.due) ∧ h.isBusy = false := by
  have hturn : h.turn? = none ↔ ∀ t ∈ h.tasks, h.now < t.due := by
    rw [turn?, Option.map_eq_none_iff, Task.takeDue_eq_none_iff]
  rw [← hturn, advance]
  cases h.turn? with
  | some after => simp
  | none =>
    by_cases busy : h.isBusy
    · -- whoever waits has a task, so time can pass until it is due
      have hpass : h.pass? ≠ none := by
        obtain ⟨t, ht, -⟩ := List.any_eq_true.mp busy
        simp only [pass?, Task.firstDue, ne_eq, Option.map_eq_none_iff, List.min?_eq_none_iff, List.map_eq_nil_iff]
        exact List.ne_nil_of_mem ht
      simp [busy, hpass]
    · simp [busy]

/-- A run that has come to its end goes no further. -/
theorem advance_of_settle (settled : settle steps h = some h') : h'.advance = none := by
  induction steps generalizing h with
  | zero => cases settled
  | succ steps ih =>
    rw [settle] at settled
    split at settled
    · exact ih settled
    · rename_i ended
      cases settled
      exact ended

/-- A run does not depend on how many steps it might have taken. -/
theorem settle_unique {steps' : Nat} (settled : settle steps h = some h') (settled' : settle steps' h = some h'') :
    h' = h'' := by
  induction steps generalizing h steps' with
  | zero => cases settled
  | succ steps ih =>
    -- both runs take the same next step, or none
    cases steps' with
    | zero => cases settled'
    | succ steps' =>
      rw [settle] at settled settled'
      cases hadvance : h.advance with
      | some next =>
        rw [hadvance] at settled settled'
        exact ih settled settled'
      | none =>
        rw [hadvance] at settled settled'
        cases settled
        cases settled'
        rfl

end Scoreboard.Host
