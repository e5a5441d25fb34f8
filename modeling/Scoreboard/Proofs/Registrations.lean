import Scoreboard.Proofs.Cache
import Scoreboard.Proofs.Engine.Stats
import Scoreboard.Proofs.Host.Debounced

/-!
# Registrations that race

A call that registers an objective looks at the registry twice: before it adds the objective on the server, and
when the reply comes, by which time any number of other calls may have entered the same one. Main statement
(`registryKept_of_trace`): in every trace, an engine's registry has no duplicates and only grows at its end, each
entry is counted and has sent the debouncer one request, a call that is over has its objective in the registry,
and nothing is asked or told about an objective before the reply to adding it (`RegistryKept`).

What is entered is what the turn that takes the reply enters (`Taken.registered`), so most of it is read off this
one turn (`getElem?_perform_of_adding`). That no other command comes first is an invariant of the waits, as a full
synchronisation keeps objectives over a wait: the one that `Provenance` carries.
-/

namespace Scoreboard

/-- A call that adds an objective: for whom, the objective, and the reply. -/
structure Adding where
  origin : Origin
  objective : String
  reply : String

/-- The call that a turn has taken the reply of. -/
def Turn.adding? (i : Nat) : Turn → Option Adding
  | .resume origin j (.adding objective) reply => if j = i then some ⟨origin, objective, reply⟩ else none
  | _ => none

/-- The objective that a command shows, or whose score it changes or reads. -/
def Command.uses? : Command → Option String
  | .setDisplay _ name | .changeScore _ _ name _ | .getScore _ name => some name
  | _ => none

namespace Host

/-- The call that a turn has begun, if its objective is not registered. -/
def Taken.adds? (i : Nat) (s : Taken) : Option Adding :=
  match s.turn with
  | .begin origin (.operate j (.ensure plugin name criterion display)) =>
    if j = i ∧ (s.host.memory? i).isSome ∧ plugin.objectiveName name ∉ s.host.registry i then
      some ⟨origin, plugin.objectiveName name, s.host.console.respond
        ("scoreboard objectives add " ++ plugin.objectiveName name ++ " " ++ criterion ++ " " ++ display)⟩
    else none
  | _ => none

/-- Whether the registry of an engine is kept in order: no objective is in it twice, it only grows at its end, and each
objective gets there by the reply to the command that adds it. -/
structure RegistryKept (i : Nat) (past : List Taken) (h : Host) : Prop where
  distinct : (h.registry i).Nodup
  appended : ∀ h', Steps h h' → h.registry i <+: h'.registry i
  /-- So what is answered to who asks for the registry is the beginning of every later answer. -/
  shown : ∀ recent s older, past = recent ++ s :: older →
    (∀ s' ∈ older, s'.host.registry i <+: s.host.registry i) ∧
      ∀ origin, s.turn = .begin origin (.operate i (.ask .objectives)) → (s.host.memory? i).isSome →
        s.answer? i = some (.texts (s.host.registry i))
  counted : ∀ e, h.engines[i]? = some e → e.stats.objectivesRegistered = UInt64.ofNat e.objectives.length
  /-- The entries are what turns have entered, one after the other. -/
  turns : h.registry i = past.reverse.flatMap (Taken.registered i)
  /-- A turn enters one objective, counts it and sends the debouncer one request. -/
  entered : ∀ s ∈ past, ∀ objective ∈ s.registered i, s.registered i = [objective] ∧
    ∃ e, s.host.engines[i]? = some e ∧ (s.host.perform s.turn).engines[i]? = some { e with
      objectives := e.objectives ++ [objective]
      stats.objectivesRegistered := e.stats.objectivesRegistered + 1
      debouncer := e.debouncer.send .request }
  /-- It has taken the reply to the command that adds the objective. -/
  added : ∀ recent s older, past = recent ++ s :: older → ∀ objective ∈ s.registered i,
    ∃ origin reply, s.turn = .resume origin i (.adding objective) reply ∧ ∃ s' ∈ older, ∃ criterion display,
      .sent i origin (.adding objective) [.addObjective objective criterion display] reply ∈ s'.deeds ∧
        reply = s'.host.console.respond
          ("scoreboard objectives add " ++ objective ++ " " ++ criterion ++ " " ++ display)
  /-- No command shows an objective, or changes or reads a score of it, before that. -/
  used : ∀ recent s older, past = recent ++ s :: older → ∀ origin stage commands reply,
    .sent i origin stage commands reply ∈ s.deeds → ∀ command ∈ commands, ∀ objective,
      command.uses? = some objective →
        objective ∈ s.host.registry i ∧ ∃ s' ∈ older, objective ∈ s'.registered i
  /-- A call for an objective that is registered is over at once, sends nothing and changes nothing. -/
  known : ∀ s ∈ past, ∀ origin plugin name criterion display,
    s.turn = .begin origin (.operate i (.ensure plugin name criterion display)) →
      plugin.objectiveName name ∈ s.host.registry i → s.answer? i = some .nothing ∧
        s.deeds = [.begun origin (.operate i (.ensure plugin name criterion display))] ∧ s.leaves = [] ∧
          s.host.Beside (s.host.perform s.turn)
  /-- Any other call takes the reply to its command once, or waits for it. -/
  awaited : ((past.filterMap (Taken.turn · |>.adding? i) : List _) : Multiset Adding) +
    h.agenda.filterMap (Turn.adding? i) = past.filterMap (Taken.adds? i)
  /-- Then it is over, and its objective is in the registry, where it stays. If somebody else has entered it in
  the meantime, the call changes nothing about the engine. -/
  returned : ∀ s ∈ past, ∀ r, s.turn.adding? i = some r → s.answer? i = some .nothing ∧
    r.objective ∈ (s.host.perform s.turn).registry i ∧ r.objective ∈ h.registry i ∧
      (r.objective ∈ s.host.registry i → (s.host.perform s.turn).engines[i]? = s.host.engines[i]?)

end Host

namespace Engine

/-! ### What is counted -/

/-- Whether the counter of registered objectives is their number. -/
def Counted (e : Engine) : Prop := e.stats.objectivesRegistered = UInt64.ofNat e.objectives.length

/-- Taking the reply to adding an objective. -/
theorem resume_adding (e : Engine) (objective reply : String) :
    (e.resume (.adding objective) reply).next = .done .nothing ∧
      (e.resume (.adding objective) reply).engine =
        if objective ∈ e.objectives then e
        else { e with
          objectives := e.objectives ++ [objective]
          stats.objectivesRegistered := e.stats.objectivesRegistered + 1
          debouncer := e.debouncer.send .request } := by
  simp only [resume, resumeEnsure, isRegistered, decide_eq_true_eq]
  split
  · exact ⟨rfl, rfl⟩
  · refine ⟨rfl, ?_⟩
    rw [engine_requestSync]
    rfl

/-! ### Which objectives commands are about -/

variable {e : Engine} {commands : List Command} {stage : Stage} {command : Command} {objective : String}

/-- To make triggers uses no objective that is there. -/
theorem not_uses?_triggerCommands {names : List String} (hmem : command ∈ triggerCommands names) :
    command.uses? = none := by
  obtain ⟨name, -, hcommand⟩ := List.mem_flatMap.mp hmem
  simp only [List.mem_cons, List.not_mem_nil, or_false] at hcommand
  obtain rfl | rfl := hcommand <;> rfl

/-- An operation that begins sends commands about registered objectives only. -/
theorem Opens.uses {operation : Operation} {draws : Draws} (opens : e.Opens draws operation commands stage)
    (hmem : command ∈ commands) (huses : command.uses? = some objective) : objective ∈ e.objectives := by
  cases opens with
  | display known | change known | getScore known =>
    rw [List.mem_singleton.mp hmem] at huses
    cases huses
    exact of_decide_eq_true known
  | bind _ | bindAll _ =>
    rw [not_uses?_triggerCommands hmem] at huses
    cases huses
  | _ =>
    rw [List.mem_singleton.mp hmem] at huses
    cases huses

/-- One that goes on sends commands about objectives that it was to read before, or that are registered. -/
theorem Continues.uses {reply : String} {waiting : Stage} (continues : e.Continues reply waiting commands stage)
    (hmem : command ∈ commands) (huses : command.uses? = some objective) :
    objective ∈ waiting.wants ∨ objective ∈ e.objectives := by
  have hwants := continues.scores.1 objective
  cases continues with
  | first listed pairs =>
    rw [List.mem_singleton.mp hmem] at huses
    cases huses
    exact hwants (by simp [Stage.wants, pairs])
  | next pairs =>
    rw [List.mem_singleton.mp hmem] at huses
    cases huses
    exact hwants (by simp [Stage.wants, pairs])
  | remove listed stale =>
    obtain ⟨name, -, rfl⟩ := List.mem_map.mp hmem
    cases huses

/-- Only a call for an objective begins with adding it, and only if it is not registered. -/
theorem Opens.adds {operation : Operation} {draws : Draws}
    (opens : e.Opens draws operation commands (.adding objective)) : ∃ plugin name criterion display,
      operation = .ensure plugin name criterion display ∧ plugin.objectiveName name = objective ∧
        commands = [.addObjective objective criterion display] ∧ objective ∉ e.objectives := by
  cases opens with
  | ensure fresh => exact ⟨_, _, _, _, rfl, rfl, rfl, of_decide_eq_false fresh⟩

end Engine

namespace Host

variable {i : Nat} {s : Taken} {h h' : Host} {objective : String} {past : List Taken} {r : Adding}

/-! ### One turn -/

/-- A turn enters one objective at most, and only one that is not registered. -/
theorem registered_cases (i : Nat) (s : Taken) :
    s.registered i = [] ∨ ∃ objective, s.registered i = [objective] ∧ objective ∉ s.host.registry i := by
  rcases hregistered : s.registered i with _ | ⟨objective, others⟩
  · exact .inl rfl
  · right
    obtain ⟨origin, reply, e, hturn, he, fresh⟩ := mem_registered_iff.mp (hregistered ▸ List.mem_cons_self)
    refine ⟨objective, ?_, ?_⟩
    · rw [← hregistered]
      simp [Taken.registered, hturn, he, Engine.registers, fresh]
    · simpa [registry_eq he, Engine.isRegistered] using fresh

/-- No turn enters an objective twice. -/
theorem nodup_registry_perform (nodup : (s.host.registry i).Nodup) :
    ((s.host.perform s.turn).registry i).Nodup := by
  rw [registry_perform]
  -- what is entered is not there yet
  obtain hnone | ⟨objective, hone, fresh⟩ := registered_cases i s
  · rwa [hnone, List.append_nil]
  · rw [hone]
    exact List.nodup_append.mpr ⟨nodup, List.nodup_singleton objective, by
      intro a ha b hb hab
      rw [List.mem_singleton.mp hb] at hab
      exact fresh (hab ▸ ha)⟩

/-- Which turn takes the reply to adding an objective. -/
theorem adding?_eq_some_iff {t : Turn} :
    t.adding? i = some r ↔ t = .resume r.origin i (.adding r.objective) r.reply := by
  obtain ⟨origin, objective, reply⟩ := r
  unfold Turn.adding?
  split
  · grind
  · grind

theorem mem_objectives_iff {e : Engine} (he : h.engines[i]? = some e) :
    objective ∈ h.registry i ↔ objective ∈ e.objectives := by
  rw [registry_eq he]

/-- What becomes of an engine that takes the reply to adding an objective. -/
theorem getElem?_perform_of_adding {e : Engine} (he : s.host.engines[i]? = some e)
    (hr : s.turn.adding? i = some r) (origin : r.origin ≠ .debouncer) :
    (s.host.perform s.turn).engines[i]? = some (if r.objective ∈ e.objectives then e
      else { e with
        objectives := e.objectives ++ [r.objective]
        stats.objectivesRegistered := e.stats.objectivesRegistered + 1
        debouncer := e.debouncer.send .request }) := by
  have hs : s.stretch? = some (r.origin, i, e.resume (.adding r.objective) r.reply) :=
    stretch?_eq_some_iff.mpr ⟨e, he, .inr ⟨_, _, adding?_eq_some_iff.mp hr, rfl⟩⟩
  rw [getElem?_perform_of_stretch hs, if_pos rfl, Outcome.settled, if_neg (fun both => origin both.1),
    (e.resume_adding r.objective r.reply).2]

/-- The call is over with this reply. -/
theorem answer?_of_adding {e : Engine} (he : s.host.engines[i]? = some e) (hr : s.turn.adding? i = some r) :
    s.answer? i = some .nothing := by
  have hs : s.stretch? = some (r.origin, i, e.resume (.adding r.objective) r.reply) :=
    stretch?_eq_some_iff.mpr ⟨e, he, .inr ⟨_, _, adding?_eq_some_iff.mp hr, rfl⟩⟩
  rw [Taken.answer?, hs, Option.bind_some, (e.resume_adding r.objective r.reply).1]
  exact if_pos rfl

theorem setEngine_self {e : Engine} (he : h.engines[i]? = some e) : h.setEngine i e = h := by
  obtain ⟨hi, rfl⟩ := List.getElem?_eq_some_iff.mp he
  rw [setEngine, List.set_getElem_self]

section

variable {origin : Origin} {operation : Operation} {e : Engine} {notes : List Note} {answer : Answer}

/-- An operation that is over at once and changes nothing of its engine. -/
theorem deeds_of_idle (hturn : s.turn = .begin origin (.operate i operation)) (he : s.host.engines[i]? = some e)
    (idle : e.begin operation s.host.draws = (⟨e, notes, .done answer⟩, s.host.draws)) :
    s.answer? i = some answer ∧ s.deeds = [.begun origin (.operate i operation)] ∧ s.leaves = [] := by
  have hs : s.stretch? = some (origin, i, ⟨e, notes, .done answer⟩) :=
    stretch?_eq_some_iff.mpr ⟨e, he, .inl ⟨_, hturn, by rw [idle]⟩⟩
  have hstretch : s.host.stretch? s.turn = some (origin, i, ⟨e, notes, .done answer⟩) := hs
  have hheard : s.host.heard s.turn = [] := by rw [hturn]; rfl
  have hfollow : s.host.follow s.turn = [] := by rw [hturn]; rfl
  refine ⟨?_, ?_, ?_⟩
  · rw [Taken.answer?, hs]
    exact if_pos rfl
  · rw [Taken.deeds, deeds, hheard, hstretch, hturn]
    rfl
  · rw [Taken.leaves, leaves, hheard, hstretch, hfollow]
    rfl

/-- It touches nothing but the journal and the tasks. -/
theorem beside_of_idle (hturn : s.turn = .begin origin (.operate i operation)) (he : s.host.engines[i]? = some e)
    (idle : e.begin operation s.host.draws = (⟨e, notes, .done answer⟩, s.host.draws))
    (horigin : origin ≠ .debouncer) : s.host.Beside (s.host.perform s.turn) := by
  let begun := s.host.record (.begun origin (.operate i operation))
  have hbegun : s.host.Beside begun := ⟨_, _, rfl⟩
  have hnote : begun.Beside (begun.note i notes) := beside_note begun i notes
  have hconclude : (begun.note i notes).Beside ((begun.note i notes).conclude origin i e answer) := by
    cases origin with
    | debouncer => exact absurd rfl horigin
    | foreground => exact beside_answer _ .foreground answer
    | spawned label => exact beside_answer _ (.spawned label) answer
    | line => exact beside_answer _ .line answer
  -- the engine is put back as it was, so that what remains are entries in the journal
  have hrun : s.host.run s.turn = (begun.note i notes).conclude origin i e answer := by
    rw [hturn]
    simp only [run, begin, record, he, idle]
    show ((begun.setEngine i e).note i notes).conclude origin i e answer = _
    rw [setEngine_self (h := begun) he]
  have hengine : s.turn.engine? = some i := by rw [hturn]; rfl
  rw [perform, hengine]
  show s.host.Beside ((s.host.run s.turn).alert i)
  rw [hrun]
  exact ((hbegun.trans hnote).trans hconclude).trans (beside_alert _ i)

end

theorem left_adding? (i : Nat) : Left (Turn.adding? i) := ⟨fun _ => rfl, fun _ => rfl⟩

/-- Which turn begins a call whose objective is not registered. -/
theorem adds?_eq_some_iff : s.adds? i = some r ↔ ∃ plugin name criterion display,
    s.turn = .begin r.origin (.operate i (.ensure plugin name criterion display)) ∧
      plugin.objectiveName name = r.objective ∧ (∃ e, s.host.engines[i]? = some e) ∧
        r.objective ∉ s.host.registry i ∧ r.reply = s.host.console.respond
          ("scoreboard objectives add " ++ r.objective ++ " " ++ criterion ++ " " ++ display) := by
  constructor
  · intro h
    unfold Taken.adds? at h
    split at h
    · rename_i origin j plugin name criterion display hturn
      split at h
      · rename_i hj
        obtain ⟨rfl, known, fresh⟩ := hj
        cases h
        exact ⟨plugin, name, criterion, display, hturn, rfl, exists_of_memory? known, fresh, rfl⟩
      · cases h
    · cases h
  · obtain ⟨origin, objective, reply⟩ := r
    rintro ⟨plugin, name, criterion, display, hturn, hname, ⟨e, he⟩, fresh, hreply⟩
    have hname : plugin.objectiveName name = objective := hname
    have hreply : reply = s.host.console.respond
      ("scoreboard objectives add " ++ objective ++ " " ++ criterion ++ " " ++ display) := hreply
    subst hname
    have known : (s.host.memory? i).isSome := by
      rw [memory?, he]
      rfl
    rw [Taken.adds?, hturn, hreply]
    exact if_pos ⟨rfl, known, fresh⟩

/-- A call for an objective is over at once if this is registered, and adds it otherwise. -/
theorem next_begin_ensure (e : Engine) (plugin : Plugin) (name criterion display : String) (draws : Draws) :
    (e.begin (.ensure plugin name criterion display) draws).1.next =
      if plugin.objectiveName name ∈ e.objectives then .done .nothing
      else .send [.addObjective (plugin.objectiveName name) criterion display]
        (.adding (plugin.objectiveName name)) := by
  simp only [Engine.begin, Engine.beginEnsure, Engine.isRegistered, decide_eq_true_eq]
  split <;> rfl

/-- A call that adds an objective leaves the wait for its reply, and no other turn leaves one. -/
theorem filterMap_leaves_adding? (i : Nat) (s : Taken) :
    s.leaves.filterMap (Turn.adding? i) = (s.adds? i).toList := by
  apply filterMap_leaves_of_stretch (Turn.adding? i) (fun _ => rfl) (fun _ _ => rfl)
  · intro origin j o t r hs ht hk
    rw [adding?_eq_some_iff.mp hk] at ht
    obtain ⟨rfl, rfl, commands, hn, hreply⟩ := resume_mem_handsOn.mp ht
    obtain ⟨e, he, ⟨operation, hturn, rfl⟩ | ⟨stage, reply, -, rfl⟩⟩ := stretch?_eq_some_iff.mp hs
    · obtain ⟨plugin, name, criterion, display, rfl, hname, rfl, fresh⟩ := (Engine.begin_eq_send_iff.mp hn).adds
      rw [Command.batch_singleton, Command.text_addObjective] at hreply
      exact adds?_eq_some_iff.mpr ⟨plugin, name, criterion, display, hturn, hname, ⟨e, he⟩,
        mt (mem_objectives_iff he).mp fresh, hreply⟩
    -- no operation goes over to adding an objective after another wait
    · exact absurd (Engine.resume_eq_send_iff.mp hn) Engine.Continues.adding
  -- the other way round, a call for a new objective sends the command and waits
  · intro r hr
    obtain ⟨plugin, name, criterion, display, hturn, hname, ⟨e, he⟩, fresh, hreply⟩ := adds?_eq_some_iff.mp hr
    have hs : s.stretch? = some (r.origin, i, (e.begin (.ensure plugin name criterion display) s.host.draws).1) :=
      stretch?_eq_some_iff.mpr ⟨e, he, .inl ⟨_, hturn, rfl⟩⟩
    have hn := next_begin_ensure e plugin name criterion display s.host.draws
    rw [hname, if_neg (mt (mem_objectives_iff he).mpr fresh)] at hn
    refine ⟨r.origin, i, _, hs, ?_⟩
    have hhanded : s.host.handsOn r.origin i (e.begin (.ensure plugin name criterion display) s.host.draws).1 =
        [.resume r.origin i (.adding r.objective) r.reply] := by
      rw [handsOn, hn, hreply, ← Command.text_addObjective, ← Command.batch_singleton]
    rw [hhanded, List.filterMap_cons_some (adding?_eq_some_iff.mpr rfl)]
    rfl

/-! ### The whole trace -/

variable {latency : Nat} {rules : List Rule} {draws : Draws} {config : Config} {older : List Taken}

/-- In every trace no objective is in the registry twice. -/
theorem Trace.nodup_registry (trace : Trace (start latency rules draws config) past h) (i : Nat) :
    (h.registry i).Nodup := by
  induction trace with
  | refl =>
    match i with
    | 0 => exact List.nodup_nil
    | i + 1 => exact List.nodup_nil
  | @tail past h h' taken trace step ih =>
    cases taken with
    | none =>
      rw [registry_of_memory? (step.of_none.2.1 i)]
      exact ih
    | some s =>
      obtain ⟨rfl, -, memory, -⟩ := step.of_some
      rw [← registry_of_memory? (memory i)] at ih
      exact nodup_registry_perform ih

/-- The registry only grows at its end. -/
theorem Steps.registry_prefix (steps : Steps h h') (i : Nat) : h.registry i <+: h'.registry i := by
  rw [registry_eq_memory? h']
  refine steps.of_memory? (P := fun m => h.registry i <+: (m.map Engine.objectives).getD []) ?_ ?_
  · intro h'' t before
    rw [← registry_eq_memory?] at before ⊢
    have happend := registry_perform i ⟨h'', t⟩
    rw [happend]
    exact before.trans (List.prefix_append _ _)
  · exact ⟨[], by rw [List.append_nil, registry_eq_memory?]⟩

/-- The registry that a turn finds is the one that the steps before it have led to. -/
theorem Step.registry_eq (step : Step h (some s) h') (i : Nat) : s.host.registry i = h.registry i :=
  registry_of_memory? (step.of_some.2.2.1 i)

/-- The registry after a turn is the beginning of every later one. -/
theorem Trace.registry_prefix_of_mem (trace : Trace (start latency rules draws config) past h) (hs : s ∈ past)
    (i : Nat) : (s.host.perform s.turn).registry i <+: h.registry i := by
  obtain ⟨recent, older, hpast⟩ := List.append_of_mem hs
  obtain ⟨before, after, -, step, later⟩ := trace.cut hpast
  rw [← step.of_some.1]
  exact Steps.registry_prefix ⟨_, later⟩ i

/-- A turn for a debouncer is one of a synchronisation, so no other operation is for one. -/
theorem Trace.syncs_of_isDebounced (trace : Trace (start latency rules draws config) past h) (hs : s ∈ past)
    (hturn : s.turn.isDebounced i) : s.turn.Syncs i := by
  obtain ⟨recent, older, hpast⟩ := List.append_of_mem hs
  obtain ⟨before, after, earlier, step, -⟩ := trace.cut hpast
  obtain ⟨-, -, -, syncs, -⟩ := (earlier.paced i).turn_of_isDebounced step hturn
  exact syncs

/-- No objective is added for a debouncer. -/
theorem Trace.origin_of_adding (trace : Trace (start latency rules draws config) past h) (hs : s ∈ past)
    (hr : s.turn.adding? i = some r) : r.origin ≠ .debouncer := by
  -- a turn for the debouncer would be one of a synchronisation
  intro horigin
  obtain ⟨origin, objective, reply⟩ := r
  have hturn := adding?_eq_some_iff.mp hr
  have syncs := trace.syncs_of_isDebounced (i := i) hs (by simpa [hturn, Turn.isDebounced_resume] using horigin)
  rw [hturn] at syncs
  cases syncs

/-- Whoever takes the reply to adding an objective finds it registered or enters it. -/
theorem Trace.mem_registry_of_adding (trace : Trace (start latency rules draws config) past h) (hs : s ∈ past)
    (hr : s.turn.adding? i = some r) : r.objective ∈ (s.host.perform s.turn).registry i := by
  obtain ⟨e, he⟩ := exists_of_memory? (trace.asked_of_mem hs (adding?_eq_some_iff.mp hr)).1
  rw [mem_objectives_iff (getElem?_perform_of_adding he hr (trace.origin_of_adding hs hr))]
  split
  · assumption
  · simp

/-- For a debouncer nothing begins but a synchronisation. -/
theorem Trace.origin_of_begin (trace : Trace (start latency rules draws config) past h) (hs : s ∈ past)
    {origin : Origin} {operation : Operation} (hturn : s.turn = .begin origin (.operate i operation))
    (hsync : operation ≠ .sync) : origin ≠ .debouncer := by
  intro horigin
  have syncs := trace.syncs_of_isDebounced (i := i) hs (by simp [hturn, Turn.isDebounced_begin, horigin])
  rw [hturn] at syncs
  cases syncs
  exact hsync rfl

/-- A turn counts what it enters. -/
theorem counted_perform (before : ∀ e ∈ h.memory? i, e.Counted) (t : Turn) :
    ∀ e ∈ (h.perform t).memory? i, e.Counted := by
  have hbefore : ∀ e, h.engines[i]? = some e → e.Counted := by
    intro e he
    have hmemory : e.memory ∈ h.memory? i := by rw [memory?, he, Option.map_some, Option.mem_some_iff]
    exact before e.memory hmemory
  have recalls := recalls_perform h t i
  generalize (h.perform t).memory? i = remembered at recalls
  -- a stretch that begins enters nothing, and one that takes a reply enters what it counts
  cases recalls with
  | @begun e origin operation he _ =>
    rintro _ ⟨⟩
    show (e.begin operation h.draws).1.engine.Counted
    rw [Engine.Counted, e.begin_stats, (e.begin_changes operation h.draws).1]
    exact hbefore e he
  | @resumed e origin stage reply he _ =>
    rintro _ ⟨⟩
    show (e.resume stage reply).engine.Counted
    rw [Engine.Counted, e.resume_stats, (e.resume_changes stage reply).1, List.length_append,
      UInt64.ofNat_add, hbefore e he]
  | created config absent =>
    rintro _ ⟨⟩
    rfl
  | same _ => exact before

/-- In every trace the counter of registered objectives is their number. -/
theorem Trace.counted (trace : Trace (start latency rules draws config) past h) {e : Engine}
    (he : h.engines[i]? = some e) : e.Counted := by
  have hstart : ∀ e ∈ (start latency rules draws config).memory? i, e.Counted := by
    match i with
    | 0 =>
      rintro e ⟨⟩
      rfl
    | i + 1 =>
      rintro e ⟨⟩
  have hmemory : e.memory ∈ h.memory? i := by rw [memory?, he, Option.map_some, Option.mem_some_iff]
  exact Steps.of_memory? (P := fun m => ∀ e ∈ m, e.Counted) (fun _ t before => counted_perform before t) ⟨_, trace⟩
    hstart e.memory hmemory

theorem Step.mem_agenda (step : Step h (some s) h') (work : s.turn.isWork) : s.turn ∈ h.agenda := by
  rw [step.of_some.2.2.2, Multiset.mem_add]
  exact .inl (by simp [work])

/-- An objective is entered by who has sent the command that adds it, with the reply. -/
theorem Trace.sent_of_registered (trace : Trace (start latency rules draws config) past h)
    (step : Step h (some s) h') (hmem : objective ∈ s.registered i) :
    ∃ origin reply, s.turn = .resume origin i (.adding objective) reply ∧ ∃ s' ∈ past, ∃ criterion display,
      .sent i origin (.adding objective) [.addObjective objective criterion display] reply ∈ s'.deeds ∧
        reply = s'.host.console.respond
          ("scoreboard objectives add " ++ objective ++ " " ++ criterion ++ " " ++ display) := by
  obtain ⟨origin, reply, -, hturn, -, -⟩ := mem_registered_iff.mp hmem
  -- the wait was left by a turn that has sent something at this stage, which is to add the objective
  obtain ⟨-, s', hs', hleaves⟩ := trace.asked step hturn
  obtain ⟨o, commands, hs, hn, hreply⟩ := resume_mem_leaves.mp hleaves
  have hsent := sent_mem_deeds.mpr ⟨o, hs, hn, hreply⟩
  obtain ⟨e, -, ⟨operation, -, rfl⟩ | ⟨stage, reply', -, rfl⟩⟩ := stretch?_eq_some_iff.mp hs
  · obtain ⟨plugin, name, criterion, display, -, -, rfl, -⟩ := (Engine.begin_eq_send_iff.mp hn).adds
    rw [Command.batch_singleton, Command.text_addObjective] at hreply
    exact ⟨origin, reply, hturn, s', hs', criterion, display, hsent, hreply⟩
  · exact absurd (Engine.resume_eq_send_iff.mp hn) Engine.Continues.adding

/-- What commands show, change or read is registered. -/
theorem Trace.registered_of_uses (trace : Trace (start latency rules draws config) past h)
    (step : Step h (some s) h') {origin : Origin} {stage : Stage} {commands : List Command} {reply : String}
    (hsent : .sent i origin stage commands reply ∈ s.deeds) {command : Command} (hmem : command ∈ commands)
    (huses : command.uses? = some objective) : objective ∈ s.host.registry i := by
  obtain ⟨o, hs, hn, -⟩ := sent_mem_deeds.mp hsent
  obtain ⟨e, he, ⟨operation, -, rfl⟩ | ⟨waiting, reply', hturn, rfl⟩⟩ := stretch?_eq_some_iff.mp hs
  · exact (mem_objectives_iff he).mpr ((Engine.begin_eq_send_iff.mp hn).uses hmem huses)
  · obtain hwants | hobjectives := (Engine.resume_eq_send_iff.mp hn).uses hmem huses
    -- a synchronisation goes on with what was registered when it took the list of players
    · have hwait : .resume origin i waiting reply' ∈ h.agenda := by
        rw [← hturn]
        exact step.mem_agenda (by rw [hturn]; rfl)
      rw [step.registry_eq]
      exact ((trace.provenance i).waiting origin waiting reply' hwait).wants objective hwants
    · exact (mem_objectives_iff he).mpr hobjectives

/-- Who asks for the registry is answered with it. -/
theorem answer?_of_objectives {origin : Origin} (hturn : s.turn = .begin origin (.operate i (.ask .objectives)))
    (known : (s.host.memory? i).isSome) : s.answer? i = some (.texts (s.host.registry i)) := by
  obtain ⟨e, he⟩ := exists_of_memory? known
  have hs : s.stretch? = some (origin, i, { engine := e, next := .done (.texts e.objectives) }) :=
    stretch?_eq_some_iff.mpr ⟨e, he, .inl ⟨_, hturn, rfl⟩⟩
  rw [Taken.answer?, hs, registry_eq he]
  exact if_pos rfl

/-- In every trace, an engine's registry is kept, whichever of the calls that add objectives comes first. -/
theorem registryKept_of_trace (trace : Trace (start latency rules draws config) past h) (i : Nat) :
    RegistryKept i past h where
  distinct := trace.nodup_registry i
  appended _ steps := steps.registry_prefix i
  shown recent s older hpast := by
    obtain ⟨before, after, earlier, step, -⟩ := trace.cut hpast
    refine ⟨fun s' hs' => ?_, fun origin hturn known => answer?_of_objectives hturn known⟩
    rw [step.registry_eq]
    have hperform := registry_perform i s'
    exact (hperform ▸ List.prefix_append _ _).trans (earlier.registry_prefix_of_mem hs' i)
  counted e he := trace.counted he
  turns := trace.registry_eq i
  entered s hs objective hmem := by
    -- a turn enters one objective at most, and this is the one
    obtain hnone | ⟨objective', hone, fresh⟩ := registered_cases i s
    · rw [hnone] at hmem
      cases hmem
    · rw [hone, List.mem_singleton] at hmem
      subst hmem
      obtain ⟨origin, reply, e, hturn, he, -⟩ := mem_registered_iff.mp (hone ▸ List.mem_singleton_self objective)
      have hr : s.turn.adding? i = some ⟨origin, objective, reply⟩ := adding?_eq_some_iff.mpr hturn
      have hafter := getElem?_perform_of_adding he hr (trace.origin_of_adding hs hr)
      rw [if_neg (mt (mem_objectives_iff he).mpr fresh)] at hafter
      exact ⟨hone, e, he, hafter⟩
  added recent s older hpast objective hmem := by
    obtain ⟨before, after, earlier, step, -⟩ := trace.cut hpast
    exact earlier.sent_of_registered step hmem
  used recent s older hpast origin stage commands reply hsent command hmem objective huses := by
    obtain ⟨before, after, earlier, step, -⟩ := trace.cut hpast
    have hregistered := earlier.registered_of_uses step hsent hmem huses
    refine ⟨hregistered, ?_⟩
    rw [step.registry_eq] at hregistered
    exact earlier.mem_registry_iff.mp hregistered
  known s hs origin plugin name criterion display hturn hmem := by
    obtain ⟨e, he, hmem⟩ := exists_of_mem_registry hmem
    have idle : e.begin (.ensure plugin name criterion display) s.host.draws =
        ({ engine := e }, s.host.draws) := by
      simp [Engine.begin, Engine.beginEnsure, Engine.isRegistered, hmem]
    obtain ⟨hanswer, hdeeds, hleaves⟩ := deeds_of_idle hturn he idle
    exact ⟨hanswer, hdeeds, hleaves, beside_of_idle hturn he idle (trace.origin_of_begin hs hturn (by simp))⟩
  awaited := by
    rw [← filterMap_flatMap_toList fun s _ => filterMap_leaves_adding? i s]
    exact trace.conservation_of_start (left_adding? i)
  returned s hs r hr := by
    obtain ⟨e, he⟩ := exists_of_memory? (trace.asked_of_mem hs (adding?_eq_some_iff.mp hr)).1
    have hafter := getElem?_perform_of_adding he hr (trace.origin_of_adding hs hr)
    have hmem := trace.mem_registry_of_adding hs hr
    refine ⟨answer?_of_adding he hr, hmem, (trace.registry_prefix_of_mem hs i).subset hmem, fun entered => ?_⟩
    rw [hafter, if_pos ((mem_objectives_iff he).mp entered), he]

/-- A run in which two calls add the same objective and get their replies one after the other: it is entered and
counted once. -/
theorem registryKept_of_overlap : ∃ past h e, Trace (start 10 [] {} {}) past h ∧ RegistryKept 0 past h ∧
    h.console.commands = ["scoreboard objectives add tQaBe_kills dummy Kills",
      "scoreboard objectives add tQaBe_kills dummy Deaths"] ∧
      h.engines[0]? = some e ∧ e.objectives = ["tQaBe_kills"] ∧ e.stats.objectivesRegistered = 1 := by
  let ensure (display : String) := Request.operate 0 (.ensure ⟨"demo", "demo"⟩ "kills" "dummy" display)
  have run : (((start 10 [] {} {}).drive 50 (.spawn "other" (ensure "Kills"))).bind
      (drive 50 · (ensure "Deaths"))).map
        (fun h => (h.console.commands, h.engines.map fun e => (e.objectives, e.stats.objectivesRegistered))) =
      some (["scoreboard objectives add tQaBe_kills dummy Kills",
        "scoreboard objectives add tQaBe_kills dummy Deaths"], [(["tQaBe_kills"], 1)]) := by decide +kernel
  obtain ⟨h, hdriven, hend⟩ := Option.map_eq_some_iff.mp run
  obtain ⟨hcommands, hengines⟩ := Prod.mk.inj hend
  obtain ⟨first, hspawned, hensured⟩ := Option.bind_eq_some_iff.mp hdriven
  obtain ⟨past, trace⟩ := (steps_of_drive hspawned).trans (steps_of_drive hensured)
  obtain ⟨e, hlist, he⟩ := List.map_eq_singleton_iff.mp hengines
  obtain ⟨hobjectives, hcounted⟩ := Prod.mk.inj he
  exact ⟨past, h, e, trace, registryKept_of_trace trace 0, hcommands, by rw [hlist]; rfl, hobjectives, hcounted⟩

end Host

end Scoreboard
