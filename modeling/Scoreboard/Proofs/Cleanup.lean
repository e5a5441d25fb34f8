import Scoreboard.Proofs.Engine.Upkeep
import Scoreboard.Proofs.TriggerNames

/-!
# Cleanup never removes a live trigger

A cleanup asks for the objectives on the server and, when the reply has come, removes those that are stale by
then. Main statement (`liveSpared_of_trace`): in every trace in which no name listed has a line break, however
cleanups, calls that bind callbacks and dispatches overlap, no name in a batch that cleans up is bound when
the batch goes out, no such batch has a line that removes a trigger from the turn on that has bound it, and
of all lines that the console has received in batches that make triggers or clean up, the last one about a
bound trigger enables it (`LiveSpared`).

The listing is older than the batch, so it does not matter what is in it: the filter looks at the bindings of
the stretch that sends the batch (`cleansUp_iff`), and bindings stay (`isSome_bound?_perform`). The lines are
followed turn by turn: a turn makes the triggers that it has bound, or it cleans up, or it adds no such line
(`upkeep_cases`).
-/

namespace Scoreboard

namespace Event

/-- The commands of a batch by which an engine makes triggers or cleans up. -/
def upkeep? (i : Nat) : Event → Option (List Command)
  | .sent j _ (.binding ..) commands _ => if j = i then some commands else none
  | .sent j _ (.removing ..) commands _ => if j = i then some commands else none
  | _ => none

/-- The commands of a batch by which an engine cleans up. -/
def cleanup? (i : Nat) : Event → Option (List Command)
  | .sent j _ (.removing ..) commands _ => if j = i then some commands else none
  | _ => none

/-- Whether an event is not a listing for an engine in which a name has a line break. -/
def isUnbroken (i : Nat) : Event → Bool
  | .sent j _ (.listingObjectives _) _ reply =>
    j ≠ i || ((Reply.objectives? reply).getD []).all fun name => '\n' ∉ name.toList
  | _ => true

end Event

namespace Host

/-- Whether a turn has an engine send a batch that cleans up. -/
def Taken.CleansUp (i : Nat) (s : Taken) (commands : List Command) : Prop :=
  ∃ origin count starting reply, .sent i origin (.removing count starting) commands reply ∈ s.deeds

/-- The batches by which an engine has cleaned up, the newest first. -/
def cleanups (h : Host) (i : Nat) : List (List Command) := h.history.filterMap (Event.cleanup? i)

/-- The lines of all batches by which an engine has made triggers or cleaned up, the newest first. -/
def upkeepLines (h : Host) (i : Nat) : List String :=
  (h.history.filterMap (Event.upkeep? i)).flatMap fun commands =>
    (Command.lines (Command.batch commands)).reverse

/-- No listing that an engine has got names an objective with a line break. -/
def Unbroken (i : Nat) (h : Host) : Prop := ∀ event ∈ h.history, event.isUnbroken i

/-- Whether the triggers that are bound are spared whenever stale ones are removed. -/
structure LiveSpared (i : Nat) (past : List Taken) (h : Host) : Prop where
  /-- A batch that cleans up only removes, and no name in it is bound before the turn that sends it or
  after. -/
  unbound : ∀ s ∈ past, ∀ commands, s.CleansUp i commands → ∀ command ∈ commands, ∃ name,
    command = .removeObjective name ∧ s.host.bound? i name = none ∧
      (s.host.perform s.turn).bound? i name = none
  /-- From the turn on that has bound a name, no batch that cleans up has the line that removes it. -/
  spared : ∀ recent s older name, past = recent ++ s :: older →
    ((s.host.perform s.turn).bound? i name).isSome → ∀ s' ∈ recent ++ [s], ∀ commands,
      s'.CleansUp i commands →
        (Command.removeObjective name).text ∉ Command.lines (Command.batch commands)
  /-- The last line about a bound name enables it. -/
  last : ∀ name, (h.bound? i name).isSome →
    (h.upkeepLines i).find? (Command.isAbout name) = some (Command.enableTrigger name).text

/-! ### One turn -/

/-- A trigger that is bound stays bound after every turn. -/
theorem isSome_bound?_perform {h : Host} {i : Nat} {name : String} (bound : (h.bound? i name).isSome)
    (t : Turn) : ((h.perform t).bound? i name).isSome := by
  have recalls := recalls_perform h t i
  rw [bound?_eq_memory?]
  generalize (h.perform t).memory? i = remembered at recalls
  -- a stretch that begins may bind more, and one that takes a reply binds nothing
  cases recalls with
  | @begun e origin operation he hturn =>
    rw [bound?, he, Option.bind_some] at bound
    show ((e.begin operation h.draws).1.engine.triggers.get? name).isSome
    rw [(e.begin_changes operation h.draws).2.2]
    exact Table.isSome_get?_foldl_insert bound _
  | @resumed e origin stage reply he hturn =>
    rw [bound?, he, Option.bind_some] at bound
    show ((e.resume stage reply).engine.triggers.get? name).isSome
    rw [(e.resume_changes stage reply).2.2]
    exact bound
  | created config absent =>
    rw [bound?_eq_memory?, absent] at bound
    cases bound
  | same elsewhere =>
    rw [← bound?_eq_memory?]
    exact bound

/-- A turn cleans up when it takes a listing, and removes what is stale then. -/
theorem cleansUp_iff {i : Nat} {s : Taken} {commands : List Command} :
    s.CleansUp i commands ↔ ∃ e origin starting reply names, s.host.engines[i]? = some e ∧
      s.turn = .resume origin i (.listingObjectives starting) reply ∧
        Reply.objectives? reply = some names ∧ names.filter e.isStale ≠ [] ∧
          commands = (names.filter e.isStale).map .removeObjective := by
  constructor
  · rintro ⟨origin, count, starting, reply, hdeed⟩
    obtain ⟨o, hs, hn, -⟩ := sent_mem_deeds.mp hdeed
    -- no operation begins with a cleanup, so it is the reply to the listing that is taken
    obtain ⟨e, he, ⟨operation, -, rfl⟩ | ⟨stage, reply', hturn, rfl⟩⟩ := stretch?_eq_some_iff.mp hs
    · exact absurd (Engine.begin_eq_send_iff.mp hn) Engine.Opens.removing
    · obtain ⟨rfl, names, listed, hcommands, stale⟩ := (Engine.resume_eq_send_iff.mp hn).removing
      exact ⟨e, origin, starting, reply', names, he, hturn, listed, stale, hcommands⟩
  · rintro ⟨e, origin, starting, reply, names, he, hturn, listed, stale, rfl⟩
    have continues : e.Continues reply (.listingObjectives starting)
        ((names.filter e.isStale).map .removeObjective)
        (.removing (names.filter e.isStale).length starting) := .remove listed stale
    have hn := Engine.resume_eq_send_iff.mpr continues
    have hs : s.stretch? = some (origin, i, e.resume (.listingObjectives starting) reply) :=
      stretch?_eq_some_iff.mpr ⟨e, he, .inr ⟨_, _, hturn, rfl⟩⟩
    exact ⟨origin, _, starting, _, sent_mem_deeds.mpr ⟨_, hs, hn, rfl⟩⟩

/-- Which events are batches that clean up. -/
theorem cleanup?_eq_some_iff {i : Nat} {event : Event} {commands : List Command} :
    event.cleanup? i = some commands ↔
      ∃ origin count starting reply, event = .sent i origin (.removing count starting) commands reply := by
  constructor
  · intro hevent
    unfold Event.cleanup? at hevent
    split at hevent
    · rename_i j origin count starting sent reply
      split at hevent
      · rename_i hj
        cases hevent
        exact ⟨origin, count, starting, reply, by rw [hj]⟩
      · cases hevent
    · cases hevent
  · rintro ⟨origin, count, starting, reply, rfl⟩
    exact if_pos rfl

/-- A batch that cleans up and has not gone out before a trace is that of one of its turns. -/
theorem Trace.exists_cleansUp {a h : Host} {past : List Taken} {i : Nat} {commands : List Command}
    (trace : Trace a past h) (sent : commands ∈ h.cleanups i) (fresh : commands ∉ a.cleanups i) :
    ∃ s ∈ past, s.CleansUp i commands := by
  rw [cleanups] at sent fresh
  rw [trace.history_eq, List.filterMap_append, List.mem_append, or_iff_left fresh] at sent
  obtain ⟨event, hmem, hevent⟩ := List.mem_filterMap.mp sent
  obtain ⟨s, hs, hdeed⟩ := List.mem_flatMap.mp hmem
  obtain ⟨origin, count, starting, reply, rfl⟩ := cleanup?_eq_some_iff.mp hevent
  exact ⟨s, hs, origin, count, starting, reply, hdeed⟩

/-- A turn that cleans up binds nothing. -/
theorem registration?_of_cleansUp {i : Nat} {s : Taken} {commands : List Command}
    (cleans : s.CleansUp i commands) : s.registration? i = none := by
  obtain ⟨e, origin, starting, reply, names, -, hturn, -⟩ := cleansUp_iff.mp cleans
  rw [Taken.registration?, hturn]

/-- What a batch that cleans up removes is not bound. -/
theorem bound?_of_cleansUp {i : Nat} {s : Taken} {commands : List Command}
    (cleans : s.CleansUp i commands) :
    ∃ names, commands = names.map .removeObjective ∧ names ≠ [] ∧
      ∀ name ∈ names, s.host.bound? i name = none := by
  obtain ⟨e, origin, starting, reply, names, he, -, -, stale, rfl⟩ := cleansUp_iff.mp cleans
  refine ⟨_, rfl, stale, fun name hname => ?_⟩
  obtain ⟨-, hfree⟩ := Engine.isStale_eq_true_iff.mp (List.mem_filter.mp hname).2
  rw [bound?, he, Option.bind_some, hfree]

/-- A stretch that sends a batch that makes triggers has bound these. -/
theorem isSome_registration?_of_binding {i : Nat} {s : Taken} {origin : Origin} {o : Outcome}
    {commands : List Command} {names : List String} {single : Bool} (hs : s.stretch? = some (origin, i, o))
    (hn : o.next = .send commands (.binding names single)) : (s.registration? i).isSome := by
  obtain ⟨e, he, ⟨operation, hturn, rfl⟩ | ⟨stage, reply, -, rfl⟩⟩ := stretch?_eq_some_iff.mp hs
  · have hnames := Engine.names?_eq_some_iff.mpr ⟨commands, single, hn⟩
    have hsome : s.registration? i = some ⟨origin, operation.callbacks, names⟩ :=
      registration?_eq_some_iff.mpr ⟨e, operation, hturn, he, rfl, hnames⟩
    rw [hsome]
    rfl
  · exact absurd (Engine.resume_eq_send_iff.mp hn) Engine.Continues.binding

/-- A turn makes the triggers that it has bound, or it cleans up, or it does neither. -/
theorem upkeep_cases (i : Nat) (s : Taken) :
    (∃ r, s.registration? i = some r ∧
      s.deeds.filterMap (Event.upkeep? i) = [Engine.triggerCommands r.names]) ∨
    (∃ commands, s.CleansUp i commands ∧ s.deeds.filterMap (Event.upkeep? i) = [commands]) ∨
    s.registration? i = none ∧ s.deeds.filterMap (Event.upkeep? i) = [] := by
  have hmark : (mark s.turn).filterMap (Event.upkeep? i) = [] := by
    unfold mark
    split <;> rfl
  have hdeeds := filterMap_deeds (Event.upkeep? i) (fun _ _ => rfl) s
  rw [hmark, List.append_nil] at hdeeds
  rcases hr : s.registration? i with _ | r
  · -- the stretch sends no batch that makes triggers, for that would be a registration
    rcases hs : s.stretch? with _ | ⟨origin, j, o⟩
    · rw [hs] at hdeeds
      exact .inr (.inr ⟨rfl, hdeeds⟩)
    rw [hs, Option.elim_some, sends] at hdeeds
    cases hn : o.next with
    | send commands stage =>
      rw [hn] at hdeeds
      cases stage with
      | removing count starting =>
        by_cases hj : j = i
        · subst hj
          have cleans : s.CleansUp j commands :=
            ⟨origin, count, starting, _, sent_mem_deeds.mpr ⟨o, hs, hn, rfl⟩⟩
          exact .inr (.inl ⟨commands, cleans, by simpa [Event.upkeep?] using hdeeds⟩)
        · exact .inr (.inr ⟨rfl, by simpa [Event.upkeep?, hj] using hdeeds⟩)
      | binding names single =>
        have hj : j ≠ i := by
          rintro rfl
          have hsome := isSome_registration?_of_binding hs hn
          rw [hr] at hsome
          cases hsome
        exact .inr (.inr ⟨rfl, by simpa [Event.upkeep?, hj] using hdeeds⟩)
      | _ => exact .inr (.inr ⟨rfl, hdeeds⟩)
    | _ =>
      rw [hn] at hdeeds
      exact .inr (.inr ⟨rfl, hdeeds⟩)
  -- a registration sends the batch that makes its triggers
  · obtain ⟨e, operation, hturn, he, -, hnames⟩ := registration?_eq_some_iff.mp hr
    obtain ⟨commands, single, hn⟩ := Engine.names?_eq_some_iff.mp hnames
    have hs : s.stretch? = some (r.origin, i, (e.begin operation s.host.draws).1) :=
      stretch?_eq_some_iff.mpr ⟨e, he, .inl ⟨operation, hturn, rfl⟩⟩
    have hcommands := (Engine.begin_eq_send_iff.mp hn).makes
    rw [hs, Option.elim_some, sends, hn] at hdeeds
    subst hcommands
    exact .inl ⟨r, rfl, by simpa [Event.upkeep?] using hdeeds⟩

/-- What a turn sends for upkeep comes before what had been sent. -/
theorem upkeepLines_perform (i : Nat) (s : Taken) :
    (s.host.perform s.turn).upkeepLines i =
      (s.deeds.filterMap (Event.upkeep? i)).flatMap
        (fun commands => (Command.lines (Command.batch commands)).reverse) ++ s.host.upkeepLines i := by
  rw [upkeepLines, (adds_perform s.host s.turn).history, List.filterMap_append, List.flatMap_append]
  rfl

/-! ### The whole trace -/

variable {latency : Nat} {rules : List Rule} {draws : Draws} {config : Config} {h h' : Host}
  {past : List Taken} {s : Taken} {i : Nat} {name : String}

/-- A trigger that is bound stays bound. -/
theorem Steps.isSome_bound? (steps : Steps h h') (bound : (h.bound? i name).isSome) :
    (h'.bound? i name).isSome := by
  simp only [bound?_eq_memory?] at bound ⊢
  refine steps.of_memory? (P := fun m => (m.bind (·.triggers.get? name)).isSome) (fun h t bound => ?_) bound
  rw [← bound?_eq_memory?] at bound ⊢
  exact isSome_bound?_perform bound t

/-- Names without line breaks at the end are names without line breaks before. -/
theorem Unbroken.of_history (unbroken : Unbroken i h') {deeds : List Event}
    (history : h'.history = deeds ++ h.history) : Unbroken i h := by
  intro event hevent
  apply unbroken
  rw [history]
  exact List.mem_append_right deeds hevent

/-- What is removed has been listed, so its names have no line break if no listing has named one that has. -/
theorem Trace.unbroken_of_cleansUp (trace : Trace (start latency rules draws config) past h)
    (step : Step h (some s) h') (unbroken : Unbroken i h) {names : List String}
    (cleans : s.CleansUp i (names.map .removeObjective)) : ∀ name ∈ names, '\n' ∉ name.toList := by
  obtain ⟨e, origin, starting, reply, listing, he, hturn, listed, -, hcommands⟩ := cleansUp_iff.mp cleans
  have hnames : names = listing.filter e.isStale :=
    List.map_injective_iff.mpr (fun _ _ => Command.removeObjective.inj) hcommands
  obtain ⟨asked, hsent⟩ := trace.sent_of_step step hturn
  have hlisting : ∀ name ∈ listing, '\n' ∉ name.toList := by
    have hevent := unbroken _ hsent
    simpa [Event.isUnbroken, listed] using hevent
  intro name hname
  rw [hnames] at hname
  exact hlisting name (List.mem_filter.mp hname).1

/-- A batch that cleans up while a name is bound has no line about it. -/
theorem Trace.find?_of_cleansUp (trace : Trace (start latency rules draws config) past h)
    (step : Step h (some s) h') (unbroken : Unbroken i h) (bound : (s.host.bound? i name).isSome)
    {commands : List Command} (cleans : s.CleansUp i commands) :
    (Command.lines (Command.batch commands)).reverse.find? (Command.isAbout name) = none := by
  obtain ⟨names, rfl, ne, hfree⟩ := bound?_of_cleansUp cleans
  have hunbroken := trace.unbroken_of_cleansUp step unbroken cleans
  have hname : name ∉ names := by
    intro hmem
    rw [hfree name hmem] at bound
    cases bound
  exact Engine.find?_removals ne hunbroken hname

/-- The last line about a bound trigger enables it. -/
theorem Trace.find?_upkeepLines (trace : Trace (start latency rules draws config) past h)
    (unbroken : Unbroken i h) (bound : (h.bound? i name).isSome) :
    (h.upkeepLines i).find? (Command.isAbout name) = some (Command.enableTrigger name).text := by
  -- the induction is on the trace: the newest line about the name is this turn's, if it has one
  induction trace with
  | refl =>
    -- a new engine has nothing bound
    match i with
    | 0 => cases bound
    | i + 1 => cases bound
  | @tail past h h' taken trace step ih =>
    cases taken with
    | none =>
      obtain ⟨history, memory, -⟩ := step.of_none
      rw [bound?_eq_memory?, memory, ← bound?_eq_memory?] at bound
      rw [upkeepLines, history]
      exact ih (unbroken.of_history (show h'.history = [] ++ h.history from history)) bound
    | some s =>
      obtain ⟨rfl, history, memory, -⟩ := step.of_some
      have unbroken : Unbroken i h := by
        apply unbroken.of_history
        rw [(adds_perform s.host s.turn).history, history]
      have hbefore : (s.host.bound? i name).isSome →
          (s.host.upkeepLines i).find? (Command.isAbout name) = some (Command.enableTrigger name).text := by
        rw [bound?_eq_memory?, memory, ← bound?_eq_memory?, upkeepLines, history]
        exact ih unbroken
      rw [upkeepLines_perform, List.find?_append]
      obtain ⟨r, hr, hdeeds⟩ | ⟨commands, cleans, hdeeds⟩ | ⟨hr, hdeeds⟩ := upkeep_cases i s
      · obtain ⟨e, operation, -, -, -, hnames⟩ := registration?_eq_some_iff.mp hr
        rw [hdeeds, List.flatMap_singleton,
          Engine.find?_triggerCommands (Engine.newline_notMem_of_begin hnames)]
        -- the batch ends with letting players use each of its names, and is silent about others
        by_cases hmem : name ∈ r.names
        · rw [if_pos hmem, Option.some_or]
        · rw [if_neg hmem, Option.none_or]
          rw [(bound?_perform_of_some hr).2 name hmem] at bound
          exact hbefore bound
      -- a cleanup has no line about a name that is bound
      · rw [bound?_perform_of_none (registration?_of_cleansUp cleans)] at bound
        rw [hdeeds, List.flatMap_singleton, trace.find?_of_cleansUp step unbroken bound cleans,
          Option.none_or]
        exact hbefore bound
      · rw [bound?_perform_of_none hr] at bound
        rw [hdeeds, List.flatMap_nil, List.find?_nil, Option.none_or]
        exact hbefore bound

/-- A batch that cleans up while a name is bound does not have the line that removes it. -/
theorem Trace.notMem_lines_of_cleansUp (trace : Trace (start latency rules draws config) past h)
    (unbroken : Unbroken i h) (hs : s ∈ past) (bound : (s.host.bound? i name).isSome)
    {commands : List Command} (cleans : s.CleansUp i commands) :
    (Command.removeObjective name).text ∉ Command.lines (Command.batch commands) := by
  obtain ⟨recent, older, hpast⟩ := List.append_of_mem hs
  obtain ⟨before, after, earlier, step, later⟩ := trace.cut hpast
  have hbefore : Unbroken i before := by
    apply unbroken.of_history
    rw [later.history_eq, step.of_some.1, (adds_perform s.host s.turn).history, step.of_some.2.1,
      ← List.append_assoc]
  have hnone := earlier.find?_of_cleansUp step hbefore bound cleans
  rw [List.find?_eq_none] at hnone
  intro hline
  apply hnone _ (List.mem_reverse.mpr hline)
  rw [Command.isAbout_removeObjective, decide_eq_true rfl]

/-- What a turn has bound is bound at every later turn. -/
theorem Trace.isSome_bound?_of_mem (trace : Trace (start latency rules draws config) past h)
    {recent older : List Taken} (hpast : past = recent ++ s :: older)
    (bound : ((s.host.perform s.turn).bound? i name).isSome) {s' : Taken} (hs' : s' ∈ recent) :
    (s'.host.bound? i name).isSome := by
  obtain ⟨before, after, -, step, later⟩ := trace.cut hpast
  obtain ⟨rfl, -, -, -⟩ := step.of_some
  obtain ⟨newer, between, rfl⟩ := List.append_of_mem hs'
  obtain ⟨before', after', between, step', -⟩ := later.cut rfl
  rw [bound?_eq_memory?, step'.of_some.2.2.1, ← bound?_eq_memory?]
  exact Steps.isSome_bound? ⟨_, between⟩ bound

/-- In every trace, cleaning up leaves the triggers that are bound. -/
theorem liveSpared_of_trace (trace : Trace (start latency rules draws config) past h)
    (unbroken : Unbroken i h) : LiveSpared i past h where
  unbound s _ commands cleans command hcommand := by
    obtain ⟨names, rfl, -, hfree⟩ := bound?_of_cleansUp cleans
    obtain ⟨name, hname, rfl⟩ := List.mem_map.mp hcommand
    refine ⟨name, rfl, hfree name hname, ?_⟩
    rw [bound?_perform_of_none (registration?_of_cleansUp cleans)]
    exact hfree name hname
  spared recent s older name hpast bound s' hs' commands cleans := by
    have hmem : s' ∈ past := by
      rw [hpast]
      rcases List.mem_append.mp hs' with hs' | hs'
      · exact List.mem_append_left _ hs'
      · exact List.mem_append_right _ (List.mem_cons.mpr (.inl (List.mem_singleton.mp hs')))
    -- the name is bound when the batch goes out: a turn that cleans up binds none itself
    have hbound : (s'.host.bound? i name).isSome := by
      rcases List.mem_append.mp hs' with hs' | hs'
      · exact trace.isSome_bound?_of_mem hpast bound hs'
      · rw [List.mem_singleton.mp hs'] at cleans ⊢
        rw [bound?_perform_of_none (registration?_of_cleansUp cleans)] at bound
        exact bound
    exact trace.notMem_lines_of_cleansUp unbroken hmem hbound cleans
  last name bound := trace.find?_upkeepLines unbroken bound

/-- A run in which a trigger gets a name that stands in a listing under way: only the other name is
removed. -/
theorem liveSpared_of_overlap : ∃ past h,
    Trace (start 10 [.toStart "scoreboard objectives list" "left: [tri_tQaBe_AAAABw], [tri_old]"]
      ⟨[7], 0⟩ {}) past h ∧ Unbroken 0 h ∧ LiveSpared 0 past h ∧
        h.upkeepLines 0 = ["scoreboard objectives remove tri_old",
          "scoreboard players enable @a tri_tQaBe_AAAABw",
          "scoreboard objectives add tri_tQaBe_AAAABw trigger"] := by
  let rules := [Rule.toStart "scoreboard objectives list" "left: [tri_tQaBe_AAAABw], [tri_old]"]
  let cleanup := Request.spawn "cleanup" (.operate 0 .removeStale)
  let bind := Request.operate 0 (.bind ⟨"demo", "demo"⟩ { id := "first" })
  have run : ((((start 10 rules ⟨[7], 0⟩ {}).drive 50 cleanup).bind (drive 50 · bind)).bind
      (drive 50 · (.sleep 50))).map (fun h => (h.history.all (·.isUnbroken 0), h.upkeepLines 0)) =
        some (true, ["scoreboard objectives remove tri_old",
          "scoreboard players enable @a tri_tQaBe_AAAABw",
          "scoreboard objectives add tri_tQaBe_AAAABw trigger"]) := by decide +kernel
  obtain ⟨h, hdriven, hend⟩ := Option.map_eq_some_iff.mp run
  obtain ⟨hall, hlines⟩ := Prod.mk.inj hend
  obtain ⟨bound, hdriven, hslept⟩ := Option.bind_eq_some_iff.mp hdriven
  obtain ⟨cleaning, hcleaning, hbound⟩ := Option.bind_eq_some_iff.mp hdriven
  obtain ⟨past, trace⟩ :=
    ((steps_of_drive hcleaning).trans (steps_of_drive hbound)).trans (steps_of_drive hslept)
  have unbroken : Unbroken 0 h := List.all_eq_true.mp hall
  exact ⟨past, h, trace, unbroken, liveSpared_of_trace trace unbroken, hlines⟩

end Host

end Scoreboard
