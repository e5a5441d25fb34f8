import Scoreboard.Proofs.Allocation
import Scoreboard.Proofs.Engine.Upkeep
import Scoreboard.Proofs.Host.Attended
import Scoreboard.Proofs.Registrations
import Scoreboard.Proofs.Statistics

/-!
# Calls that bind callbacks

A call that binds callbacks chooses their names from the draws, binds them, and makes the triggers with one
batch. Main statements, for every trace and every state of an engine: the names are those of the first free draws
in turn, the bound triggers grow by just these, and the batch has two lines for each of them and nothing else
(`boundInBatch_of_trace`); and as long as the namespace has a name left for each callback, the call finds them all
and is answered when the reply to its batch is there (`bindingEnds_of_trace`).

All that such a call does happens in the turn that begins it (`Taken.Binds`), but for the answer. What names it
finds is a matter of the names taken and the draws alone (`Trigger.Chosen`), and so is whether it looks for ever
(`Taken.Searches`).
-/

namespace Scoreboard

/-- The name of the trigger that a line lets players use. -/
def Command.enabledName? (line : String) : Option String :=
  (Text.dropLead? "scoreboard players enable @a ".toList line.toList).map String.ofList

/-- The names of the triggers that the lines of a text let players use. -/
def Command.enabledNames (text : String) : List String :=
  (lines text).filterMap enabledName?

namespace Host

/-- What the turn does in which a call begins that finds a name for each of its callbacks. -/
structure Taken.Binds (i : Nat) (s : Taken) (plugin : Plugin) (callbacks : List Callback)
    (names : List String) : Prop where
  /-- Each callback in turn gets the name of the first draw that is neither bound nor chosen before. Every draw
  looked at is used up, and no other one. -/
  chosen : Trigger.Chosen plugin.namespaceToken (s.host.triggers i).keys s.host.draws names
    (s.host.perform s.turn).draws
  one_each : names.length = callbacks.length
  /-- The bound triggers grow by these names. -/
  grows : ((s.host.perform s.turn).triggers i).keys = (s.host.triggers i).keys ++ names
  bound : ∀ b ∈ names.zip callbacks, (s.host.perform s.turn).bound? i b.1 = some b.2
  others : ∀ name, name ∉ names → (s.host.perform s.turn).bound? i name = s.host.bound? i name
  /-- The console receives one text, which has two lines for each name, in order. -/
  batch : ∃ batch, s.sent i = [batch] ∧
    (s.host.perform s.turn).console.told = batch :: s.host.console.told ∧
      Command.lines batch = names.flatMap (fun name =>
        ["scoreboard objectives add " ++ name ++ " trigger", "scoreboard players enable @a " ++ name]) ∧
      (Command.lines batch).length = 2 * callbacks.length ∧ Command.enabledNames batch = names
  /-- No name has a space or a line break. -/
  plain : ∀ name ∈ names, ' ' ∉ name.toList ∧ '\n' ∉ name.toList

/-- What the turn does in which a call begins that does not find enough names: it has come to draws from which on
every name is bound or chosen, and looks for ever. -/
structure Taken.Searches (i : Nat) (s : Taken) (plugin : Plugin) (callbacks : List Callback) : Prop where
  full : ∃ names after, names.length < callbacks.length ∧
    Trigger.Chosen plugin.namespaceToken (s.host.triggers i).keys s.host.draws names after ∧
      ∀ k, Trigger.name plugin.namespaceToken (after.word k) ∈ names ++ (s.host.triggers i).keys
  unsent : s.sent i = []
  unanswered : s.answer? i = none

/-- Calls that bind callbacks take names from the draws in order, and make their triggers in one batch. -/
structure BoundInBatch (i : Nat) (past : List Taken) (h : Host) : Prop where
  /-- A call without callbacks uses up no draw, sends nothing, changes nothing and leaves nothing to do. -/
  nothing : ∀ (s : Taken) origin plugin, s.turn = .begin origin (.operate i (.bindAll plugin [])) →
    (s.host.engines[i]?).isSome → origin ≠ .debouncer →
      s.host.Beside (s.host.perform s.turn) ∧ s.sent i = [] ∧ s.leaves = [] ∧ s.answer? i = some (.texts [])
  /-- Any other call binds its callbacks at once, unless it never finds enough names. -/
  begins : ∀ (s : Taken) origin plugin callbacks,
    s.turn = .begin origin (.operate i (.bindAll plugin callbacks)) → (s.host.engines[i]?).isSome →
      callbacks ≠ [] → (∃ names, s.Binds i plugin callbacks names) ∨ s.Searches i plugin callbacks
  /-- When the reply to its batch comes, it is answered with the names, and has sent nothing else. -/
  answers : ∀ origin plugin callbacks begun n x xs s,
    Dialogue i past origin (.bindAll plugin callbacks) begun n (x :: xs) → turnAt? past n = some s →
      xs = [] ∧ s.sent i = [] ∧ s.Keeps ∧ ∃ first names, turnAt? past begun = some first ∧
        first.Binds i plugin callbacks names ∧ s.answer? i = some (.texts names)
  /-- A call that has sent its batch waits for the reply, or has gone on with it. -/
  goesOn : ∀ origin plugin callbacks begun n xs s,
    Dialogue i past origin (.bindAll plugin callbacks) begun n xs → turnAt? past n = some s →
      ∀ text ∈ s.sent i, (∃ stage, .resume origin i stage (s.host.console.respond text) ∈ h.agenda) ∨
        ∃ k x, Dialogue i past origin (.bindAll plugin callbacks) begun k (xs ++ [x]) ∧ x.text = text

/-- Calls that bind callbacks come to an end as long as there are names left for them. -/
structure BindingEnds (i : Nat) (past : List Taken) (h : Host) : Prop where
  /-- A name is found as long as one is left, and of the fixed sequence no more words are looked at than there
  are words. -/
  finds : ∀ (e : Engine) (plugin : Plugin) (draws : Draws),
    (Trigger.namesOf plugin.namespaceToken e.triggers.keys).ncard < 2 ^ 32 →
      ∃ k < draws.given.length + 2 ^ 32,
        (∀ j < k, Trigger.name plugin.namespaceToken (draws.word j) ∈ e.triggers.keys) ∧
        Trigger.name plugin.namespaceToken (draws.word k) ∉ e.triggers.keys ∧
        Trigger.allocate plugin.namespaceToken e.triggers.keys draws =
          some (Trigger.name plugin.namespaceToken (draws.word k), draws.skip (k + 1))
  /-- So a call for no more callbacks than names are left binds them. -/
  begins : ∀ (s : Taken) origin plugin callbacks,
    s.turn = .begin origin (.operate i (.bindAll plugin callbacks)) → (s.host.engines[i]?).isSome →
      (Trigger.namesOf plugin.namespaceToken (s.host.triggers i).keys).ncard + callbacks.length ≤ 2 ^ 32 →
        callbacks = [] ∧ s.answer? i = some (.texts []) ∨ ∃ names, s.Binds i plugin callbacks names
  /-- A call that has bound its callbacks waits for one reply, and no longer than the console takes for it; then
  it is answered with the names. -/
  ends : ∀ recent s older, past = recent ++ s :: older → ∀ origin plugin callbacks names,
    s.turn = .begin origin (.operate i (.bindAll plugin callbacks)) → s.Binds i plugin callbacks names →
      ∃ reply, ⟨s.host.now + s.host.latency, .resume origin i (.binding names false) reply⟩ ∈ h.tasks ∧
          h.now ≤ s.host.now + s.host.latency ∨
        ∃ s' ∈ recent, s'.turn = .resume origin i (.binding names false) reply ∧
          s'.answer? i = some (.texts names)

end Host

/-! ### The batch -/

namespace Command

theorem enabledName?_addTrigger (name : String) : enabledName? (addTrigger name).text = none := by
  rw [enabledName?, text_addTrigger, String.toList_append, String.toList_append]
  rfl

/-- The name is read back whatever it is, as it comes last in the line. -/
theorem enabledName?_enableTrigger (name : String) : enabledName? (enableTrigger name).text = some name := by
  rw [enabledName?, text_enableTrigger, String.toList_append, Text.dropLead?_append, Option.map_some,
    String.ofList_toList]

/-- The batch for some names is two lines for each of them, as no name has a line break. -/
theorem lines_triggerCommands {names : List String} (ne : names ≠ [])
    (unbroken : ∀ name ∈ names, '\n' ∉ name.toList) :
    lines (batch (Engine.triggerCommands names)) =
      names.flatMap fun name => [(addTrigger name).text, (enableTrigger name).text] := by
  have hne : Engine.triggerCommands names ≠ [] := by
    obtain ⟨first, others, rfl⟩ := List.exists_cons_of_ne_nil ne
    exact List.cons_ne_nil _ _
  rw [lines_batch hne, Engine.triggerCommands, List.map_flatMap]
  · rfl
  · intro command hcommand
    obtain ⟨name, hname, rfl | rfl⟩ := Engine.mem_triggerCommands.mp hcommand
    · exact newline_notMem_addTrigger (unbroken name hname)
    · exact newline_notMem_enableTrigger (unbroken name hname)

/-- The names can be read back from the batch. -/
theorem enabledNames_triggerCommands {names : List String} (ne : names ≠ [])
    (unbroken : ∀ name ∈ names, '\n' ∉ name.toList) :
    enabledNames (batch (Engine.triggerCommands names)) = names := by
  rw [enabledNames, lines_triggerCommands ne unbroken]
  clear ne unbroken
  induction names with
  | nil => rfl
  | cons name names ih =>
    rw [List.flatMap_cons, List.filterMap_append, ih,
      List.filterMap_cons_none (enabledName?_addTrigger name),
      List.filterMap_cons_some (enabledName?_enableTrigger name)]
    rfl

end Command

/-- What a call sends that binds callbacks. -/
theorem Engine.Opens.bindAll_inv {e : Engine} {draws : Draws} {plugin : Plugin} {callbacks : List Callback}
    {commands : List Command} {stage : Stage} (opens : e.Opens draws (.bindAll plugin callbacks) commands stage) :
    callbacks ≠ [] ∧ ∃ names, commands = triggerCommands names ∧ stage = .binding names false ∧
      ∃ after, Trigger.allocateMany plugin.namespaceToken callbacks.length e.triggers.keys draws =
        some (names, after) := by
  cases opens with
  | bindAll free => exact ⟨List.cons_ne_nil _ _, _, rfl, rfl, _, free⟩

namespace Host

/-! ### The turn that begins a call -/

section

variable {h : Host} {s : Taken} {e : Engine} {i : Nat} {origin : Origin} {plugin : Plugin}
  {callbacks : List Callback} {names : List String} {operation : Operation}

/-- How a stretch goes on uses up no draw. -/
theorem draws_proceed (h : Host) (origin : Origin) (i : Nat) (o : Outcome) :
    (h.proceed origin i o).draws = h.draws := by
  have hnote := (beside_note (h.setEngine i o.engine) i o.notes).draws
  have hconclude (h : Host) (answer : Answer) : (h.conclude origin i o.engine answer).draws = h.draws := by
    cases origin with
    | debouncer => rfl
    | foreground => exact (beside_answer h .foreground answer).draws
    | spawned label => exact (beside_answer h (.spawned label) answer).draws
    | line => rfl
  -- a stretch sends something, is done, hands on a call, or never ends
  unfold proceed
  split
  · unfold send
    simp only
    split <;> exact hnote
  · exact (hconclude _ _).trans hnote
  · exact (hconclude _ _).trans hnote
  · exact hnote

/-- A turn that begins an operation uses up the draws that the operation does. -/
theorem draws_perform_of_begin (hturn : s.turn = .begin origin (.operate i operation))
    (he : s.host.engines[i]? = some e) :
    (s.host.perform s.turn).draws = (e.begin operation s.host.draws).2 := by
  have hrun : (s.host.run s.turn).draws = (e.begin operation s.host.draws).2 := by
    rw [hturn]
    simp only [run, begin, record, he]
    exact draws_proceed _ origin i _
  unfold perform
  split
  · exact (beside_alert _ _).draws.trans hrun
  · exact hrun

theorem begin_bindAll_nil (e : Engine) (plugin : Plugin) (draws : Draws) :
    e.begin (.bindAll plugin []) draws = (⟨e, [], .done (.texts [])⟩, draws) := rfl

/-- The stretch in which a call begins that has callbacks. -/
theorem begin_bindAll (ne : callbacks ≠ []) (e : Engine) (plugin : Plugin) (draws : Draws) :
    e.begin (.bindAll plugin callbacks) draws =
      match Trigger.allocateMany plugin.namespaceToken callbacks.length e.triggers.keys draws with
      | some (names, draws) =>
        (((e.bind (names.zip callbacks)).send (Engine.triggerCommands names) (.binding names false)).after
          (.binding plugin names), draws)
      | none => ({ engine := e, next := .endless }, draws) := by
  obtain ⟨first, others, rfl⟩ := List.exists_cons_of_ne_nil ne
  rfl

/-- A call whose names are found binds its callbacks, in the turn that begins it. -/
theorem binds_of_allocateMany {after : Draws}
    (hturn : s.turn = .begin origin (.operate i (.bindAll plugin callbacks))) (he : s.host.engines[i]? = some e)
    (ne : callbacks ≠ []) (found : Trigger.allocateMany plugin.namespaceToken callbacks.length e.triggers.keys
      s.host.draws = some (names, after)) : s.Binds i plugin callbacks names := by
  have hbegin := begin_bindAll ne e plugin s.host.draws
  rw [found] at hbegin
  simp only at hbegin
  obtain ⟨hlength, chosen⟩ := Trigger.allocateMany_eq_some_iff.mp found
  -- the turn is a stretch that sends the batch, and it is a registration of the names
  have hs : s.stretch? = some (origin, i, (e.begin (.bindAll plugin callbacks) s.host.draws).1) :=
    stretch?_eq_some_iff.mpr ⟨e, he, .inl ⟨_, hturn, rfl⟩⟩
  have hnext : (e.begin (.bindAll plugin callbacks) s.host.draws).1.next =
      .send (Engine.triggerCommands names) (.binding names false) := by
    rw [hbegin]
    rfl
  have hr : s.registration? i = some ⟨origin, callbacks, names⟩ :=
    registration?_eq_some_iff.mpr ⟨e, _, hturn, he, rfl, Engine.names?_eq_some_iff.mpr ⟨_, _, hnext⟩⟩
  obtain ⟨-, hnodup, -⟩ := registration_spec hr
  obtain ⟨hbound, hothers⟩ := bound?_perform_of_some hr
  have hnames : names ≠ [] := by
    rintro rfl
    exact ne (List.length_eq_zero_iff.mp hlength.symm)
  -- names are plain, so that the lines of the batch are the commands
  have hplain : ∀ name ∈ names, ' ' ∉ name.toList ∧ '\n' ∉ name.toList :=
    fun name hname => Trigger.plain_of_mem_allocateMany found hname
  have hunbroken : ∀ name ∈ names, '\n' ∉ name.toList := fun name hname => (hplain name hname).2
  have hsent : s.sent i = [Command.batch (Engine.triggerCommands names)] := by
    rw [sent_of_stretch hs, if_pos rfl, hnext]
    rfl
  have hkeys : (names.zip callbacks).map (·.1) = names := List.map_fst_zip (Nat.le_of_eq hlength)
  -- the draws, the triggers, and then the batch: what it is sent as, its lines, how many, and the names in it
  refine ⟨?_, hlength, ?_, hbound, hothers, ⟨_, hsent, ?_, ?_, ?_, ?_⟩, hplain⟩
  · rw [draws_perform_of_begin hturn he, hbegin, triggers_eq he]
    exact chosen
  · have hfresh : ∀ b ∈ names.zip callbacks, b.1 ∉ (s.host.triggers i).keys := by
      rw [triggers_eq he]
      exact fun b hb => Trigger.allocateMany_fresh found b.1 (List.of_mem_zip hb).1
    rw [triggers_perform_of_some hr, Table.keys_foldl_insert (by rw [hkeys]; exact hnodup) hfresh, hkeys]
  · have hforgets : s.turn.forgets = false := by rw [hturn]; rfl
    rw [told_perform, hforgets, filterMap_deeds_text?, hs, Option.elim_some, hnext]
    rfl
  · rw [Command.lines_triggerCommands hnames hunbroken]
    simp only [Command.text_addTrigger, Command.text_enableTrigger]
  · rw [Command.lines_triggerCommands hnames hunbroken, ← hlength, List.length_flatMap]
    simp [Nat.mul_comm]
  · exact Command.enabledNames_triggerCommands hnames hunbroken

/-- A call that does not find enough names has come to a point from which on none is free. -/
theorem searches_of_allocateMany
    (hturn : s.turn = .begin origin (.operate i (.bindAll plugin callbacks))) (he : s.host.engines[i]? = some e)
    (ne : callbacks ≠ []) (full : Trigger.allocateMany plugin.namespaceToken callbacks.length e.triggers.keys
      s.host.draws = none) : s.Searches i plugin callbacks := by
  have hbegin := begin_bindAll ne e plugin s.host.draws
  rw [full] at hbegin
  simp only at hbegin
  have hs : s.stretch? = some (origin, i, { engine := e, next := .endless }) :=
    stretch?_eq_some_iff.mpr ⟨e, he, .inl ⟨_, hturn, by rw [hbegin]⟩⟩
  refine ⟨?_, ?_, ?_⟩
  · rw [triggers_eq he]
    exact Trigger.allocateMany_eq_none_iff.mp full
  · rw [sent_of_stretch hs, if_pos rfl]
    rfl
  · rw [Taken.answer?, hs]
    rfl

/-- The turn that begins a call binds its callbacks exactly when the call then waits with their names. -/
theorem binds_iff (hturn : s.turn = .begin origin (.operate i (.bindAll plugin callbacks))) :
    s.Binds i plugin callbacks names ↔ ∃ o, s.stretch? = some (origin, i, o) ∧
      o.next = .send (Engine.triggerCommands names) (.binding names false) := by
  constructor
  · intro binds
    -- there is an engine, as something has been sent
    obtain ⟨batch, hsent, -⟩ := binds.batch
    rcases he : s.host.engines[i]? with _ | e
    · rw [sent_eq_nil] at hsent
      · cases hsent
      · intro _ _ hs
        obtain ⟨_, he', -⟩ := stretch?_eq_some_iff.mp hs
        rw [he] at he'
        cases he'
    have hs : s.stretch? = some (origin, i, (e.begin (.bindAll plugin callbacks) s.host.draws).1) :=
      stretch?_eq_some_iff.mpr ⟨e, he, .inl ⟨_, hturn, rfl⟩⟩
    have chosen := binds.chosen
    rw [triggers_eq he] at chosen
    have found := Trigger.allocateMany_eq_some_iff.mpr ⟨binds.one_each, chosen⟩
    cases callbacks with
    | nil =>
      -- without callbacks nothing is sent
      rw [sent_of_stretch hs, if_pos rfl] at hsent
      cases hsent
    | cons first others => exact ⟨_, hs, (Engine.Opens.bindAll found).begin⟩
  · rintro ⟨o, hs, hn⟩
    obtain ⟨e, he, ⟨operation, hturn', rfl⟩ | ⟨_, _, hturn', -⟩⟩ := stretch?_eq_some_iff.mp hs
    · rw [hturn] at hturn'
      cases hturn'
      obtain ⟨ne, _, -, hstage, _, found⟩ := (Engine.begin_eq_send_iff.mp hn).bindAll_inv
      cases hstage
      exact binds_of_allocateMany hturn he ne found
    · rw [hturn] at hturn'
      cases hturn'

end

/-! ### Whole calls -/

section

variable {latency : Nat} {rules : List Rule} {draws : Draws} {config : Config} {h : Host} {past : List Taken}
  {s : Taken} {i n : Nat} {origin : Origin} {plugin : Plugin} {callbacks : List Callback} {begun : Nat}
  {x : Exchange} {xs : List Exchange}

/-- Where a call stands that has taken a reply: at its end. -/
theorem Dialogue.bindAll_cases (trace : Trace (start latency rules draws config) past h)
    (dialogue : Dialogue i past origin (.bindAll plugin callbacks) begun n (x :: xs))
    (here : turnAt? past n = some s) :
    xs = [] ∧ ∃ first e names, turnAt? past begun = some first ∧ first.Binds i plugin callbacks names ∧
      s.host.engines[i]? = some e ∧ s.stretch? = some (origin, i, e.resumeBind names false) := by
  -- the induction is on the replies taken: after the first the call is over, so there is no second
  induction xs using List.reverseRecOn generalizing n s with
  | nil =>
    have dialogue : Dialogue i past origin (.bindAll plugin callbacks) begun n ([] ++ [x]) := dialogue
    obtain ⟨before, first, o, hfirst, hs₀, hn⟩ := dialogue.asks
    obtain ⟨hasked, first', hfirst', hturn⟩ := before.begins_inv
    rw [hasked, hfirst'] at hfirst
    cases hfirst
    obtain ⟨e₀, draws, opens⟩ := dialogue.opens
    obtain ⟨-, names, hcommands, hstage, -⟩ := opens.bindAll_inv
    obtain ⟨e, he, hs⟩ := dialogue.stretch trace List.getLast?_singleton here
    rw [hcommands, hstage] at hn
    rw [hstage] at hs
    exact ⟨rfl, first, e, names, hfirst', (binds_iff hturn).mpr ⟨o, hs₀, hn⟩, he, hs⟩
  | append_singleton xs y ih =>
    have dialogue : Dialogue i past origin (.bindAll plugin callbacks) begun n ((x :: xs) ++ [y]) := dialogue
    obtain ⟨before, asker, o, hasker, hs₀, hn⟩ := dialogue.asks
    obtain ⟨-, _, _, _, -, -, -, hs⟩ := ih before hasker
    -- the end of a call sends nothing
    rw [hs₀] at hs
    cases hs
    cases hn

/-- In every trace, calls that bind callbacks take the first free names and make their triggers in one batch. -/
theorem boundInBatch_of_trace (trace : Trace (start latency rules draws config) past h) (i : Nat) :
    BoundInBatch i past h where
  nothing s origin plugin hturn known horigin := by
    obtain ⟨e, he⟩ := Option.isSome_iff_exists.mp known
    have idle := begin_bindAll_nil e plugin s.host.draws
    obtain ⟨hanswer, hdeeds, hleaves⟩ := deeds_of_idle hturn he idle
    refine ⟨beside_of_idle hturn he idle horigin, ?_, hleaves, hanswer⟩
    rw [Taken.sent, hdeeds]
    rfl
  begins s origin plugin callbacks hturn known ne := by
    obtain ⟨e, he⟩ := Option.isSome_iff_exists.mp known
    -- whether the search for names ends decides what the turn does
    rcases found : Trigger.allocateMany plugin.namespaceToken callbacks.length e.triggers.keys s.host.draws with
      _ | ⟨names, after⟩
    · exact .inr (searches_of_allocateMany hturn he ne found)
    · exact .inl ⟨names, binds_of_allocateMany hturn he ne found⟩
  answers origin plugin callbacks begun n x xs s dialogue here := by
    obtain ⟨hxs, first, e, names, hfirst, binds, he, hs⟩ := dialogue.bindAll_cases trace here
    obtain ⟨hsent, hanswer⟩ := sent_and_answer?_of_done hs rfl
    exact ⟨hxs, hsent, keeps_of_stats he hs rfl, first, names, hfirst, binds, hanswer⟩
  goesOn origin plugin callbacks begun n xs s dialogue here text hmem := trace.dialogue_goesOn dialogue here hmem

/-- A run with two calls and draws that repeat: both pass over a name that they have chosen or found bound, and the
second one goes over to the fixed sequence. -/
theorem boundInBatch_of_repeats : ∃ past h, Trace (start 10 [] ⟨[7, 7, 9, 7, 9], 0⟩ {}) past h ∧
    BoundInBatch 0 past h ∧ h.draws = ⟨[], 1⟩ ∧
      (h.triggers 0).keys = ["tri_tQaBe_AAAABw", "tri_tQaBe_AAAACQ", "tri_tQaBe_AAAAAA"] ∧
        h.console.told.head? = some ("scoreboard objectives add tri_tQaBe_AAAAAA trigger\n" ++
          "scoreboard players enable @a tri_tQaBe_AAAAAA") := by
  let bind (ids : List String) := Request.operate 0 (.bindAll ⟨"demo", "demo"⟩ (ids.map fun id => { id }))
  have run : (((start 10 [] ⟨[7, 7, 9, 7, 9], 0⟩ {}).drive 50 (bind ["first", "second"])).bind
      (drive 50 · (bind ["third"]))).map (fun h => (h.draws, (h.triggers 0).keys, h.console.told.head?)) =
        some (⟨[], 1⟩, ["tri_tQaBe_AAAABw", "tri_tQaBe_AAAACQ", "tri_tQaBe_AAAAAA"],
          some ("scoreboard objectives add tri_tQaBe_AAAAAA trigger\n" ++
            "scoreboard players enable @a tri_tQaBe_AAAAAA")) := by decide +kernel
  obtain ⟨h, hdriven, hend⟩ := Option.map_eq_some_iff.mp run
  simp only [Prod.mk.injEq] at hend
  obtain ⟨hdraws, hkeys, htold⟩ := hend
  obtain ⟨both, hfirst, hsecond⟩ := Option.bind_eq_some_iff.mp hdriven
  obtain ⟨past, trace⟩ := (steps_of_drive hfirst).trans (steps_of_drive hsecond)
  exact ⟨past, h, trace, boundInBatch_of_trace trace 0, hdraws, hkeys, htold⟩

/-- In every trace, calls that bind callbacks end if there are names for them. -/
theorem bindingEnds_of_trace (trace : Trace (start latency rules draws config) past h) (i : Nat) :
    BindingEnds i past h where
  finds e plugin draws room := Trigger.exists_allocate room draws
  begins s origin plugin callbacks hturn known room := by
    obtain ⟨e, he⟩ := Option.isSome_iff_exists.mp known
    rw [triggers_eq he] at room
    obtain ⟨names, after, found⟩ := Trigger.exists_allocateMany room s.host.draws
    by_cases ne : callbacks = []
    · subst ne
      exact .inl ⟨rfl, (deeds_of_idle hturn he (begin_bindAll_nil e plugin s.host.draws)).1⟩
    · exact .inr ⟨names, binds_of_allocateMany hturn he ne found⟩
  ends recent s older hpast origin plugin callbacks names hturn binds := by
    obtain ⟨o, hs, hn⟩ := (binds_iff hturn).mp binds
    have hs : s.host.stretch? s.turn = some (origin, i, o) := hs
    -- the turn has left a task for the reply, which waits or has been taken
    obtain ⟨before, after, -, step, later⟩ := trace.cut hpast
    obtain ⟨rfl, -, -, -⟩ := step.of_some
    refine ⟨s.host.console.respond (Command.batch (Engine.triggerCommands names)), ?_⟩
    obtain ⟨waits, hnow⟩ | ⟨s', hs', hturn'⟩ := later.taken_or_waits (mem_tasks_of_send hs hn) rfl
    · rw [now_perform, Nat.max_eq_right (Nat.le_add_right _ _)] at hnow
      exact .inl ⟨waits, hnow⟩
    · have hmem : s' ∈ past := by
        rw [hpast]
        exact List.mem_append_left _ hs'
      obtain ⟨e, he⟩ := exists_of_memory? (trace.asked_of_mem hmem hturn').1
      have hs : s'.stretch? = some (origin, i, e.resumeBind names false) :=
        stretch?_eq_some_iff.mpr ⟨e, he, .inr ⟨_, _, hturn', rfl⟩⟩
      exact .inr ⟨s', hs', hturn', (sent_and_answer?_of_done hs rfl).2⟩

/-- A run after which all words given have names that are bound and the namespace has room. -/
theorem bindingEnds_of_room : ∃ past h, Trace (start 10 [] ⟨[7, 9, 7, 7], 0⟩ {}) past h ∧ BindingEnds 0 past h ∧
    h.draws = ⟨[7, 7], 0⟩ ∧ (h.triggers 0).keys = ["tri_tQaBe_AAAABw", "tri_tQaBe_AAAACQ"] ∧
      (Trigger.namesOf "tQaBe" (h.triggers 0).keys).ncard < 2 ^ 32 := by
  let bind := Request.operate 0 (.bindAll ⟨"demo", "demo"⟩ [{ id := "first" }, { id := "second" }])
  have run : ((start 10 [] ⟨[7, 9, 7, 7], 0⟩ {}).drive 50 bind).map (fun h => (h.draws, (h.triggers 0).keys)) =
      some (⟨[7, 7], 0⟩, ["tri_tQaBe_AAAABw", "tri_tQaBe_AAAACQ"]) := by decide +kernel
  obtain ⟨h, hdriven, hend⟩ := Option.map_eq_some_iff.mp run
  obtain ⟨hdraws, hkeys⟩ := Prod.mk.inj hend
  obtain ⟨past, trace⟩ := steps_of_drive hdriven
  have hcard := Trigger.ncard_namesOf_le "tQaBe" (h.triggers 0).keys
  refine ⟨past, h, trace, bindingEnds_of_trace trace 0, hdraws, hkeys, lt_of_le_of_lt hcard ?_⟩
  rw [hkeys]
  decide

end

end Host

end Scoreboard
