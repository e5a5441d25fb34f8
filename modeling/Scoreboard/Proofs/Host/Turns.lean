import Scoreboard.Proofs.Host.Lines

/-!
# What a turn does

A turn can be a stretch of an engine's operation (`stretch?`), it can have lines heard (`heard`), and
some turns leave a certain other one (`follow`). Together these say all that a turn adds to a host
(`adds_perform`): its `deeds` and the work it `leaves`, as tasks that are due at once or when a reply or a
sleep is over (`jobs`).

All that is known of the tasks after a turn comes from this: which of them have been there
(`mem_tasks_perform`), what the others are (`mem_work_perform`), and that no time has passed
(`now_perform`).
-/

namespace Scoreboard

/-- How long a turn asks to sleep. -/
def Turn.sleeps : Turn → Nat
  | .begin _ (.sleep duration) => duration
  | _ => 0

/-- The engine whose debouncer a turn attends to. -/
def Turn.attended? : Turn → Option Nat
  | .attend i => some i
  | _ => none

theorem Turn.attended?_eq_some_iff {t : Turn} {i : Nat} : t.attended? = some i ↔ t = .attend i := by
  cases t <;> simp [attended?]

namespace Host

/-! ### What a stretch adds -/

/-- The deed of a stretch: the commands that go out. -/
def sends (h : Host) (origin : Origin) (i : Nat) (o : Outcome) : List Event :=
  match o.next with
  | .send commands stage =>
    [.sent i origin stage commands (h.console.respond (Command.batch commands))]
  | _ => []

/-- The work that a stretch leaves: to take the reply, or to run a callback. -/
def handsOn (h : Host) (origin : Origin) (i : Nat) (o : Outcome) : List Turn :=
  match o.next with
  | .send commands stage => [.resume origin i stage (h.console.respond (Command.batch commands))]
  | .fire callback fire => [.call i callback fire]
  | _ => []

/-- A stretch sends one text at most: the commands that it goes on with. -/
theorem sent_mem_sends {h : Host} {origin origin' : Origin} {i j : Nat} {o : Outcome} {stage : Stage}
    {commands : List Command} {reply : String} :
    .sent j origin' stage commands reply ∈ h.sends origin i o ↔
      origin' = origin ∧ j = i ∧ o.next = .send commands stage ∧
        reply = h.console.respond (Command.batch commands) := by
  unfold sends
  cases o.next with
  | send commands' stage' => grind
  | fire callback fire => simp
  | done answer => simp
  | endless => simp

/-- A stretch that sends something leaves the turn for the reply, which the console knows already. -/
theorem resume_mem_handsOn {h : Host} {origin origin' : Origin} {i j : Nat} {o : Outcome} {stage : Stage}
    {reply : String} : .resume origin' j stage reply ∈ h.handsOn origin i o ↔
      origin' = origin ∧ j = i ∧ ∃ commands, o.next = .send commands stage ∧
        reply = h.console.respond (Command.batch commands) := by
  unfold handsOn
  cases o.next with
  | send commands stage' => grind
  | fire callback fire => simp
  | done answer => simp
  | endless => simp

/-- A stretch leaves the run of a callback if it comes to a fire. -/
theorem call_mem_handsOn {h : Host} {origin : Origin} {i j : Nat} {o : Outcome} {callback : Callback}
    {fire : Fire} : .call j callback fire ∈ h.handsOn origin i o ↔
      j = i ∧ o.next = .fire callback fire := by
  unfold handsOn
  cases o.next with
  | fire callback' fire' => grind
  | send commands stage => simp
  | done answer => simp
  | endless => simp

/-- How long a turn waits that another one leaves: until a reply arrives, until a sleep is over, or not at
all. -/
def wait (h : Host) (t : Turn) : Turn → Nat
  | .resume .. => h.latency
  | .wake _ => t.sleeps
  | _ => 0

/-- The task of a turn that another one leaves. -/
def job (h : Host) (t u : Turn) : Task := ⟨h.now + h.wait t u, u⟩

/-- The end of an action leaves a turn for the debouncer, which is no work. -/
theorem adds_endAction (h : Host) (i : Nat) (e : Engine) : h.Adds (h.endAction i e) [] [] :=
  (adds_goOn_attend (h.setEngine i { e with debouncer := e.debouncer.finish }) i).of_eq h rfl rfl rfl

/-- The end of an operation is an answer or the end of the debouncer's action, and neither is a deed or work. -/
theorem adds_conclude (h : Host) (origin : Origin) (i : Nat) (e : Engine) (answer : Answer) :
    h.Adds (h.conclude origin i e answer) [] [] := by
  cases origin with
  | debouncer => exact adds_endAction h i e
  | foreground => exact adds_answer h .foreground answer
  | spawned label => exact adds_answer h (.spawned label) answer
  | line => exact adds_answer h .line answer

/-- To send something adds the text and the turn for the reply, which is due when the console has had its time. -/
theorem adds_send (h : Host) (origin : Origin) (i : Nat) (commands : List Command) (stage : Stage) :
    h.Adds (h.send origin i commands stage)
      [.sent i origin stage commands (h.console.respond (Command.batch commands))]
      [⟨h.now + h.latency, .resume origin i stage (h.console.respond (Command.batch commands))⟩] := by
  let told := { h with console := (h.console.run (Command.batch commands)).1 }
  have hrecord := adds_record told
    (.sent i origin stage commands (h.console.respond (Command.batch commands))) rfl
  have hrecord := hrecord.of_eq h rfl rfl rfl
  unfold send
  simp only
  split
  · rename_i zero
    -- a reply that takes no time is due now
    have zero : h.latency = 0 := zero
    have hdue : h.now + h.latency = h.now := by omega
    rw [hdue]
    exact hrecord.trans (adds_goOn _ _ rfl)
  · exact hrecord.trans (adds_schedule _ _ _ rfl)

/-- What a stretch decides is added: a text and the turn for its reply, the run of a callback, or nothing. -/
theorem adds_proceed (h : Host) (t : Turn) (origin : Origin) (i : Nat) (o : Outcome) :
    h.Adds (h.proceed origin i o) (h.sends origin i o) ((h.handsOn origin i o).map (h.job t)) := by
  -- setting the engine shows in no view, and notes are no deeds
  have hnote := (adds_note (h.setEngine i o.engine) i o.notes).of_eq h rfl rfl rfl
  have hbeside := beside_note (h.setEngine i o.engine) i o.notes
  have hconsole : ((h.setEngine i o.engine).note i o.notes).console = h.console := hbeside.console
  have hlatency : ((h.setEngine i o.engine).note i o.notes).latency = h.latency := hbeside.latency
  unfold proceed sends handsOn
  generalize (h.setEngine i o.engine).note i o.notes = noted at hnote hconsole hlatency
  cases o.next with
  | send commands stage =>
    have hsend := adds_send noted origin i commands stage
    rw [hnote.now, hconsole, hlatency] at hsend
    exact hnote.trans hsend
  | done answer => exact hnote.trans (adds_conclude noted origin i o.engine answer)
  | fire callback fire =>
    have hcall := hnote.trans (adds_schedule noted noted.now (.call i callback fire) rfl)
    have hjob : h.job t (.call i callback fire) = ⟨noted.now, .call i callback fire⟩ := by
      rw [hnote.now]
      rfl
    simp only [List.map_cons, List.map_nil, hjob]
    exact hcall.trans (adds_conclude _ origin i o.engine .nothing)
  | endless => exact hnote

/-! ### The parts of a turn -/

/-- The stretch of an operation that a turn is: for whom, on which engine, and what it leads to. -/
def stretch? (h : Host) : Turn → Option (Origin × Nat × Outcome)
  | .begin origin (.operate i operation) =>
    h.engines[i]?.map fun e => (origin, i, (e.begin operation h.draws).1)
  | .resume origin i stage reply => h.engines[i]?.map fun e => (origin, i, e.resume stage reply)
  | _ => none

/-- The fires that a turn has heard. -/
def heard (h : Host) : Turn → List (Nat × Fire)
  | .begin _ (.offer i line) => h.firesOf [i] line
  | .begin _ (.emit lines) => h.fires lines
  | .call _ callback fire => h.fires (callback.emits fire)
  | _ => []

/-- Whether an engine's debouncer starts its action when it is attended to. -/
def startsSync (h : Host) (i : Nat) : Bool :=
  match h.engines[i]? with
  | some e =>
    match e.debouncer.next h.now !(h.isAlive i) with
    | some (.start, _) => h.isAlive i
    | _ => false
  | none => false

/-- The turn that another one leaves that is neither a stretch nor has lines heard. -/
def follow (h : Host) : Turn → List Turn
  | .begin origin (.sleep _) => [.wake origin]
  | .begin _ (.spawn label request) => [.begin (.spawned label) request]
  | .attend i => if h.startsSync i then [.begin .debouncer (.operate i .sync)] else []
  | _ => []

/-- The deed that a turn is by itself. -/
def mark : Turn → List Event
  | .begin origin request => [.begun origin request]
  | .call i callback fire => [.fired i callback fire]
  | _ => []

/-- The deeds of a turn, the newest first. -/
def deeds (h : Host) (t : Turn) : List Event :=
  ((h.heard t).map Event.hearing).reverse ++
    ((h.stretch? t).elim [] fun s => h.sends s.1 s.2.1 s.2.2) ++ mark t

/-- The work that a turn leaves. -/
def leaves (h : Host) (t : Turn) : List Turn :=
  ((h.heard t).map Turn.dispatching).reverse ++
    ((h.stretch? t).elim [] fun s => h.handsOn s.1 s.2.1 s.2.2) ++ h.follow t

/-- The tasks of the work that a turn leaves. -/
def jobs (h : Host) (t : Turn) : List Task := (h.leaves t).map (h.job t)

/-- A fire is heard by an engine that takes a line for it, which has been shown to it or has reached it. -/
theorem exists_of_mem_heard {h : Host} {t : Turn} {f : Nat × Fire} (hf : f ∈ h.heard t) :
    (∃ line, h.hears? f.1 line = some f.2) ∧ (t.engine? = some f.1 ∨ f.1 ∈ h.listeners) := by
  have hline : ∀ {engines : List Nat} {line : String}, f ∈ h.firesOf engines line →
      f.1 ∈ engines ∧ ∃ line, h.hears? f.1 line = some f.2 := by
    intro engines line hmem
    obtain ⟨i, hi, hmem⟩ := List.mem_flatMap.mp hmem
    obtain ⟨fire, hfire, rfl⟩ := List.mem_map.mp hmem
    exact ⟨hi, line, Option.mem_toList.mp hfire⟩
  -- lines of the console reach those that listen
  have hlines : ∀ {lines : List String}, f ∈ h.fires lines →
      f.1 ∈ h.listeners ∧ ∃ line, h.hears? f.1 line = some f.2 := by
    intro lines hmem
    obtain ⟨line, -, hmem⟩ := List.mem_flatMap.mp hmem
    exact hline hmem
  unfold heard at hf
  split at hf
  · obtain ⟨hi, hears⟩ := hline hf
    exact ⟨hears, .inl (congrArg some (List.mem_singleton.mp hi).symm)⟩
  · exact ⟨(hlines hf).2, .inr (hlines hf).1⟩
  · exact ⟨(hlines hf).2, .inr (hlines hf).1⟩
  · cases hf

/-! ### What a turn adds -/

/-- A turn that is no stretch and leaves nothing by itself leaves the dispatch of what it has heard. -/
theorem jobs_of_heard {h : Host} {t : Turn} (rests : h.stretch? t = none) (ends : h.follow t = []) :
    h.jobs t = ((h.heard t).map fun f => ⟨h.now, .dispatching f⟩).reverse := by
  rw [jobs, leaves, rests, ends, Option.elim_none, List.append_nil, List.append_nil, List.map_reverse,
    List.map_map]
  rfl

/-- A debouncer that is attended to adds a synchronisation where it starts one, and only its own tasks may go. -/
theorem adds_attend (h : Host) (i : Nat) :
    h.Adds (h.attend i) [] ((h.follow (.attend i)).map (h.job (.attend i))) (some i) := by
  -- without an engine or a move nothing changes
  rcases he : h.engines[i]? with _ | e
  · simp only [attend, follow, startsSync, he]
    exact (Adds.refl h).attend (some i)
  rcases hn : e.debouncer.next h.now !(h.isAlive i) with _ | ⟨move, debouncer⟩
  · simp only [attend, follow, startsSync, he, hn]
    exact (Adds.refl h).attend (some i)
  simp only [attend, follow, startsSync, he, hn]
  cases move with
  | arm deadline =>
    have harm := adds_arm (h.setEngine i { e with debouncer }) i deadline
    exact (harm.trans ((adds_goOn_attend _ i).attend (some i))).of_eq h rfl rfl rfl
  | stop =>
    have hdisarm := adds_disarm (h.setEngine i { e with debouncer }) i h.now
    exact (hdisarm.trans ((adds_note _ i _).attend (some i))).of_eq h rfl rfl rfl
  | start =>
    by_cases alive : h.isAlive i
    · simp only [alive, if_true]
      have hsync := adds_goOn (h.setEngine i { e with debouncer }) (.begin .debouncer (.operate i .sync)) rfl
      exact (hsync.attend (some i)).of_eq h rfl rfl rfl
    · simp only [alive, Bool.false_eq_true, if_false]
      have hend := adds_endAction (h.setEngine i { e with debouncer }) i { e with debouncer }
      exact (hend.attend (some i)).of_eq h rfl rfl rfl

/-- A request adds the fires it has heard, what its stretch sends, and the work that both leave. -/
theorem adds_begin (h : Host) (origin : Origin) (request : Request) :
    h.Adds (h.begin origin request)
      (((h.heard (.begin origin request)).map Event.hearing).reverse ++
        ((h.stretch? (.begin origin request)).elim [] fun s => h.sends s.1 s.2.1 s.2.2))
      (h.jobs (.begin origin request)) := by
  -- an operation is a stretch, two requests have lines heard, two leave a turn, and the others change things that
  -- no view shows
  cases request with
  | operate i operation =>
    simp only [begin, jobs, leaves, heard, stretch?, follow]
    cases he : h.engines[i]? with
    | none => exact .refl h
    | some e =>
      simp only [List.map_nil, List.reverse_nil, List.nil_append, Option.map_some, Option.elim_some,
        List.append_nil]
      exact (adds_proceed _ _ origin i _).of_eq h rfl rfl rfl
  | offer i line =>
    rw [jobs_of_heard rfl rfl]
    simp only [stretch?, Option.elim_none, List.append_nil]
    exact Adds.trans (addsFires_offer h i line) (adds_answer _ origin .nothing)
  | emit lines =>
    rw [jobs_of_heard rfl rfl]
    simp only [stretch?, Option.elim_none, List.append_nil]
    exact Adds.trans (adds_emits h lines) (adds_answer _ origin .nothing)
  | shutDown i =>
    refine Adds.trans ?_ (adds_answer _ origin .nothing)
    unfold shutDown
    cases h.engines[i]? with
    | none => exact .refl h
    | some e =>
      simp only
      split
      · exact .refl h
      · exact (adds_note _ i [.shutDown]).of_eq h rfl rfl rfl
  | release i =>
    refine Adds.trans ?_ (adds_answer _ origin .nothing)
    unfold release
    cases h.engines[i]? with
    | none => exact .refl h
    | some e => exact (Adds.refl (h.setEngine i { e with isHeld := false })).of_eq h rfl rfl rfl
  | create config => exact (adds_answer (h.create config) origin _).of_eq h rfl rfl rfl
  | respond rules => exact (adds_answer _ origin .nothing).of_eq h rfl rfl rfl
  | forget => exact (adds_answer _ origin .nothing).of_eq h rfl rfl rfl
  | commands start => exact adds_answer h origin _
  | hasProcessor owner => exact adds_answer h origin _
  | sleep duration => exact adds_schedule h _ _ rfl
  | spawn label request => exact (adds_schedule h h.now _ rfl).trans (adds_answer _ origin .nothing)

/-- All that a turn adds to a host. The debouncer that it attends to is the only one with tasks taken away. -/
theorem adds_perform (h : Host) (t : Turn) : h.Adds (h.perform t) (h.deeds t) (h.jobs t) t.attended? := by
  have hrun : h.Adds (h.run t) (h.deeds t) (h.jobs t) t.attended? := by
    cases t with
    | begin origin request =>
      have hrecord := adds_record h (.begun origin request) rfl
      have hbegin := hrecord.trans (adds_begin (h.record (.begun origin request)) origin request)
      -- the entry in the journal is not looked at by what follows
      rw [List.append_nil] at hbegin
      exact hbegin
    | resume origin i stage reply =>
      simp only [run, deeds, jobs, leaves, heard, stretch?, follow, mark]
      cases he : h.engines[i]? with
      | none => exact .refl h
      | some e =>
        simp only [List.map_nil, List.reverse_nil, List.nil_append, Option.map_some,
          Option.elim_some, List.append_nil]
        exact adds_proceed h _ origin i _
    | wake origin => exact adds_answer h origin .nothing
    | call i callback fire =>
      have hrecord := adds_record h (.fired i callback fire) rfl
      have hemits := hrecord.trans (adds_emits (h.record (.fired i callback fire)) (callback.emits fire))
      rw [jobs_of_heard rfl rfl]
      simp only [deeds, stretch?, Option.elim_none, List.append_nil]
      rw [List.append_nil] at hemits
      exact hemits
    | attend i => exact adds_attend h i
  unfold perform
  split
  -- the engine is alerted at the end of its turn
  · exact hrun.trans ((adds_alert _ _).attend _)
  · exact hrun

/-! ### The tasks after a turn -/

/-- No turn takes time. -/
theorem now_perform (h : Host) (t : Turn) : (h.perform t).now = h.now := (adds_perform h t).now

/-- The work after a turn is what the turn leaves and what was there. -/
theorem agenda_perform (h : Host) (t : Turn) : (h.perform t).agenda = h.leaves t + h.agenda := by
  have hjobs : (h.jobs t).map Task.turn = h.leaves t := by
    rw [jobs, List.map_map]
    exact List.map_id _
  rw [(adds_perform h t).agenda, hjobs]

/-- Only attending to a debouncer takes away tasks, and those are tasks to attend to it. -/
theorem mem_tasks_perform {h : Host} {t : Turn} {u : Task} (hu : u ∈ h.tasks)
    (stays : t.isWork ∨ u.turn ≠ t) : u ∈ (h.perform t).tasks := by
  refine (adds_perform h t).mem_tasks hu fun j hturn attended => ?_
  have hattend : t = .attend j := Turn.attended?_eq_some_iff.mp attended
  obtain work | other := stays
  · rw [hattend] at work
    cases work
  · exact other (hturn.trans hattend.symm)

/-- A task of work after a turn has been there before, or the turn has left it. -/
theorem mem_work_perform {h : Host} {t : Turn} {u : Task} (hu : u ∈ (h.perform t).work) :
    (u.turn ∈ h.leaves t ∧ u.due = h.now + h.wait t u.turn) ∨ u ∈ h.work := by
  rw [(adds_perform h t).work, Multiset.mem_add, Multiset.mem_coe, jobs, List.mem_map] at hu
  obtain ⟨turn, hturn, rfl⟩ | hold := hu
  · exact .inl ⟨hturn, rfl⟩
  · exact .inr hold

/-- What a turn leaves waits as long as a reply or a sleep takes. -/
theorem mem_tasks_of_leaves {h : Host} {t u : Turn} (hu : u ∈ h.leaves t) :
    ⟨h.now + h.wait t u, u⟩ ∈ (h.perform t).tasks := by
  have hwork : h.job t u ∈ (h.perform t).work := by
    rw [(adds_perform h t).work]
    exact Multiset.mem_add.mpr (.inl (List.mem_map_of_mem hu))
  exact (mem_work.mp hwork).1

/-- The reply to what a stretch sends is due when the console is done with it. -/
theorem mem_tasks_of_send {h : Host} {t : Turn} {origin : Origin} {i : Nat} {o : Outcome}
    {commands : List Command} {stage : Stage} (hs : h.stretch? t = some (origin, i, o))
    (hn : o.next = .send commands stage) :
    ⟨h.now + h.latency, .resume origin i stage (h.console.respond (Command.batch commands))⟩ ∈
      (h.perform t).tasks := by
  refine mem_tasks_of_leaves (u := .resume origin i stage (h.console.respond (Command.batch commands))) ?_
  rw [leaves, hs, Option.elim_some]
  exact List.mem_append_left _ (List.mem_append_right _
    (resume_mem_handsOn.mpr ⟨rfl, rfl, commands, hn, rfl⟩))

/-- A teardown is no work of an engine, and leaves none. -/
theorem agenda_perform_of_shutDown {h : Host} {t : Turn} {origin : Origin} {i : Nat}
    (hturn : t = .begin origin (.shutDown i)) : (h.perform t).agenda = h.agenda := by
  subst hturn
  exact (agenda_perform h (.begin origin (.shutDown i))).trans (zero_add _)

/-- The turn that another one leaves by itself is for the driver, for a label or for the debouncer. -/
theorem filterMap_follow {β : Type} (kind : Turn → Option β)
    (wake : ∀ origin, kind (.wake origin) = none)
    (spawned : ∀ label request, kind (.begin (.spawned label) request) = none)
    (sync : ∀ i, kind (.begin .debouncer (.operate i .sync)) = none) (h : Host) (t : Turn) :
    (h.follow t).filterMap kind = [] := by
  unfold follow
  split
  · simp [wake]
  · simp [spawned]
  · split <;> simp [sync]
  · rfl

/-- Where dispatches are not of a kind, fires that are heard leave nothing of the kind. -/
theorem filterMap_dispatching {β : Type} (kind : Turn → Option β) (h : Host) (t : Turn)
    (dispatching : ∀ f, kind (.dispatching f) = none) :
    ((h.heard t).map Turn.dispatching).reverse.filterMap kind = [] := by
  rw [List.filterMap_eq_nil_iff]
  intro t' ht
  obtain ⟨f, _, rfl⟩ := List.mem_map.mp (List.mem_reverse.mp ht)
  exact dispatching f

/-- Whether a turn is a stretch of an operation, of an engine that exists, of a request or of none. -/
theorem stretch?_eq_some_iff {h : Host} {t : Turn} {origin : Origin} {i : Nat} {o : Outcome} :
    h.stretch? t = some (origin, i, o) ↔ ∃ e, h.engines[i]? = some e ∧
      ((∃ operation, t = .begin origin (.operate i operation) ∧ o = (e.begin operation h.draws).1) ∨
        ∃ stage reply, t = .resume origin i stage reply ∧ o = e.resume stage reply) := by
  constructor
  · intro hs
    unfold stretch? at hs
    split at hs
    · obtain ⟨e, he, hs⟩ := Option.map_eq_some_iff.mp hs
      cases hs
      exact ⟨e, he, .inl ⟨_, rfl, rfl⟩⟩
    · obtain ⟨e, he, hs⟩ := Option.map_eq_some_iff.mp hs
      cases hs
      exact ⟨e, he, .inr ⟨_, _, rfl, rfl⟩⟩
    · cases hs
  · rintro ⟨e, he, ⟨operation, rfl, rfl⟩ | ⟨stage, reply, rfl, rfl⟩⟩ <;> simp [stretch?, he]

end Host

end Scoreboard
