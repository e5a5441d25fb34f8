import Scoreboard.Proofs.Objectives
import Scoreboard.Proofs.Registrations

/-!
# Plugins that share an engine

The objectives of all plugins are in one registry, each under its plugin's token. Main statement
(`tenantsApart_of_trace`): in every trace, an operation that shows an objective, or changes or reads a score of it,
sends its command just if a call under the same token and with the same name has entered the objective before; what
is refused touches nothing; and what the operations under one token send follows from these operations alone,
whatever others there are in between (`TenantsApart`).

A token has five symbols, so the name of an objective on the server can be taken apart in one way only
(`Plugin.objectiveName_eq_iff`), even if tokens and names hold underscores.
-/

namespace Scoreboard

namespace Operation

/-- The objective that an operation is about: whose it is, and its name there. -/
def objective? : Operation → Option (Plugin × String)
  | .ensure plugin name _ _ | .display plugin name _ | .change plugin _ _ name _ | .getScore plugin _ name =>
    some (plugin, name)
  | _ => none

/-- The operations that need their objective registered, and the command that each sends. -/
inductive Guarded (plugin : Plugin) (name : String) : Operation → Command → Prop where
  | display (slot : String) : Guarded plugin name (.display plugin name slot)
      (.setDisplay slot (plugin.namespaceToken ++ "_" ++ name))
  | change (change : ScoreChange) (player : String) (count : Int64) :
      Guarded plugin name (.change plugin change player name count)
        (.changeScore change player (plugin.namespaceToken ++ "_" ++ name) count)
  | getScore (player : String) : Guarded plugin name (.getScore plugin player name)
      (.getScore player (plugin.namespaceToken ++ "_" ++ name))

/-- The commands that an operation on an objective sends where some objectives are registered. -/
def sends (registered : List String) : Operation → List Command
  | .ensure plugin name criterion title =>
    if plugin.objectiveName name ∈ registered then []
    else [.addObjective (plugin.objectiveName name) criterion title]
  | .display plugin name slot =>
    if plugin.objectiveName name ∈ registered then [.setDisplay slot (plugin.objectiveName name)] else []
  | .change plugin how player name count =>
    if plugin.objectiveName name ∈ registered then [.changeScore how player (plugin.objectiveName name) count]
    else []
  | .getScore plugin player name =>
    if plugin.objectiveName name ∈ registered then [.getScore player (plugin.objectiveName name)] else []
  | _ => []

end Operation

/-- What a plugin has to do with its objectives: an operation on one begins, or the reply to adding one is taken. -/
inductive Dealing where
  | begun (operation : Operation)
  | added (objective : String)

namespace Dealing

/-- The objective that is entered, where it is not yet. -/
def added? : Dealing → Option String
  | added objective => some objective
  | begun _ => none

/-- The commands that are sent where some objectives are registered. -/
def sends (registered : List String) : Dealing → List Command
  | begun operation => operation.sends registered
  | added _ => []

/-- What a plugin's dealings send if nobody else deals with its objectives, the newest first. -/
def conduct : List Dealing → List (Dealing × List Command)
  | [] => []
  | d :: older => (d, d.sends (older.filterMap added?)) :: conduct older

end Dealing

namespace Host

namespace Taken

/-- The commands that a turn has sent for an engine. -/
def commands (i : Nat) (s : Taken) : List Command :=
  s.deeds.flatMap fun
    | .sent j _ _ commands _ => if j = i then commands else []
    | _ => []

/-- What a turn is of the dealings under a plugin's token at an engine. -/
def dealing? (i : Nat) (plugin : Plugin) (s : Taken) : Option Dealing :=
  match s.turn with
  | .begin _ (.operate j operation) =>
    if j = i ∧ (s.host.memory? i).isSome ∧
        operation.objective?.any (·.1.namespaceToken = plugin.namespaceToken) then some (.begun operation)
    else none
  | .resume _ j (.adding objective) _ =>
    if j = i ∧ startsWith objective (plugin.namespaceToken ++ "_") then some (.added objective) else none
  | _ => none

/-- Such a turn together with what it has sent. -/
def conduct? (i : Nat) (plugin : Plugin) (s : Taken) : Option (Dealing × List Command) :=
  (s.dealing? i plugin).map fun d => (d, s.commands i)

end Taken

/-- A call under a token has entered the objective of a name: it has begun, and has taken the reply. -/
def Entered (i : Nat) (past : List Taken) (token name : String) : Prop :=
  ∃ recent s older, past = recent ++ s :: older ∧ ∃ s' ∈ older, ∃ origin plugin criterion display,
    s'.turn = .begin origin (.operate i (.ensure plugin name criterion display)) ∧
      plugin.namespaceToken = token ∧ s.turn ∈ s'.leaves ∧ plugin.objectiveName name ∈ s.registered i

/-- Whether plugins at an engine have nothing to do with each other's objectives: what one may do follows from what has
been done under its own token. -/
structure TenantsApart (i : Nat) (past : List Taken) : Prop where
  /-- An operation on an objective that a call under the same token and with the same name has entered sends its
  command, and any other one sends nothing. -/
  guarded : ∀ recent s older, past = recent ++ s :: older → ∀ origin operation plugin name command,
    s.turn = .begin origin (.operate i operation) → operation.Guarded plugin name command →
      (s.host.memory? i).isSome →
        ((∃ stage reply, .sent i origin stage [command] reply ∈ s.deeds) ↔
          Entered i older plugin.namespaceToken name) ∧
        ∀ j origin' stage commands reply, .sent j origin' stage commands reply ∈ s.deeds →
          j = i ∧ origin' = origin ∧ commands = [command]
  /-- What is refused changes no engine, and nothing about the console, and leaves nothing to be done. -/
  refused : ∀ recent s older, past = recent ++ s :: older → ∀ origin operation plugin name command,
    s.turn = .begin origin (.operate i operation) → operation.Guarded plugin name command →
      (s.host.memory? i).isSome → ¬Entered i older plugin.namespaceToken name →
        s.deeds = [.begun origin (.operate i operation)] ∧ s.leaves = [] ∧
          s.host.Beside (s.host.perform s.turn)
  /-- What is sent for a plugin follows from what is done under its token. -/
  conduct : ∀ plugin, past.filterMap (Taken.conduct? i plugin) =
    Dealing.conduct (past.filterMap (Taken.dealing? i plugin))
  /-- So it is the same in any other trace in which the same is done under its token, on any host and whatever
  else is done there. -/
  apart : ∀ plugin j latency rules draws config past' h', Trace (start latency rules draws config) past' h' →
    past'.filterMap (Taken.dealing? j plugin) = past.filterMap (Taken.dealing? i plugin) →
      past'.filterMap (Taken.conduct? j plugin) = past.filterMap (Taken.conduct? i plugin)

/-! ### One turn -/

variable {i : Nat} {s : Taken} {h h' : Host} {past : List Taken} {plugin : Plugin} {name : String}
  {operation : Operation} {origin : Origin} {command : Command} {e : Engine}

/-- What an operation on an objective sends before it first waits. -/
theorem commands_begin (hobjective : operation.objective?.isSome) (draws : Draws) :
    ((∃ stage, (e.begin operation draws).1.next = .send (operation.sends e.objectives) stage) ∧
        operation.sends e.objectives ≠ []) ∨
      ((∃ notes answer, e.begin operation draws = (⟨e, notes, .done answer⟩, draws)) ∧
        operation.sends e.objectives = []) := by
  -- four operations are about an objective, and each is guarded by the registry in its own way
  cases operation with
  | ensure plugin name criterion display =>
    simp only [Engine.begin, Engine.beginEnsure, Engine.isRegistered, Operation.sends, decide_eq_true_eq]
    split
    · exact .inr ⟨⟨_, _, rfl⟩, rfl⟩
    · exact .inl ⟨⟨_, rfl⟩, List.cons_ne_nil _ _⟩
  | display plugin name slot =>
    simp only [Engine.begin, Engine.tellOf, Engine.isRegistered, Operation.sends, decide_eq_true_eq]
    split
    · exact .inl ⟨⟨_, rfl⟩, List.cons_ne_nil _ _⟩
    · exact .inr ⟨⟨_, _, rfl⟩, rfl⟩
  | change plugin change player name count =>
    simp only [Engine.begin, Engine.tellOf, Engine.isRegistered, Operation.sends, decide_eq_true_eq]
    split
    · exact .inl ⟨⟨_, rfl⟩, List.cons_ne_nil _ _⟩
    · exact .inr ⟨⟨_, _, rfl⟩, rfl⟩
  | getScore plugin player name =>
    simp only [Engine.begin, Engine.beginGetScore, Engine.isRegistered, Operation.sends, decide_eq_true_eq]
    split
    · exact .inl ⟨⟨_, rfl⟩, List.cons_ne_nil _ _⟩
    · exact .inr ⟨⟨_, _, rfl⟩, rfl⟩
  | _ => cases hobjective

theorem objective?_of_guarded (guarded : operation.Guarded plugin name command) :
    operation.objective? = some (plugin, name) := by
  cases guarded <;> rfl

/-- A guarded call sends its command if its objective is registered, and else nothing. -/
theorem sends_of_guarded (guarded : operation.Guarded plugin name command) (registered : List String) :
    operation.sends registered = if plugin.objectiveName name ∈ registered then [command] else [] := by
  cases guarded <;> rfl

/-- Of what is registered only its own objective matters to an operation. -/
theorem sends_congr {registered registered' : List String}
    (same : ∀ plugin name, operation.objective? = some (plugin, name) →
      (plugin.objectiveName name ∈ registered ↔ plugin.objectiveName name ∈ registered')) :
    operation.sends registered = operation.sends registered' := by
  cases operation with
  | ensure plugin name criterion display => simp only [Operation.sends, same plugin name rfl]
  | display plugin name slot => simp only [Operation.sends, same plugin name rfl]
  | change plugin change player name count => simp only [Operation.sends, same plugin name rfl]
  | getScore plugin player name => simp only [Operation.sends, same plugin name rfl]
  | _ => rfl

/-- The deeds of an operation that sends commands at once. -/
theorem deeds_of_send {commands : List Command} {stage : Stage}
    (hturn : s.turn = .begin origin (.operate i operation)) (he : s.host.engines[i]? = some e)
    (hn : (e.begin operation s.host.draws).1.next = .send commands stage) :
    s.deeds = [.sent i origin stage commands (s.host.console.respond (Command.batch commands)),
      .begun origin (.operate i operation)] := by
  have hs : s.host.stretch? s.turn = some (origin, i, (e.begin operation s.host.draws).1) :=
    stretch?_eq_some_iff.mpr ⟨e, he, .inl ⟨_, hturn, rfl⟩⟩
  have hheard : s.host.heard s.turn = [] := by rw [hturn]; rfl
  rw [Taken.deeds, deeds, hheard, hs, Option.elim_some, sends, hn, hturn]
  rfl

/-- Taking the reply to an add command sends nothing. -/
theorem commands_of_adding {reply objective : String} (hturn : s.turn = .resume origin i (.adding objective) reply)
    (j : Nat) : s.commands j = [] := by
  have hdeeds : s.deeds = [] := by
    have hheard : s.host.heard s.turn = [] := by rw [hturn]; rfl
    have hmark : mark s.turn = [] := by rw [hturn]; rfl
    rw [Taken.deeds, deeds, hheard, hmark, hturn]
    rcases he : s.host.engines[i]? with _ | e
    · simp [stretch?, he]
    · simp [stretch?, he, sends, (e.resume_adding objective reply).1]
  rw [Taken.commands, hdeeds]
  rfl

/-- What an operation on an objective has sent. -/
theorem commands_of_begin (hturn : s.turn = .begin origin (.operate i operation))
    (he : s.host.engines[i]? = some e) (hobjective : operation.objective?.isSome) :
    s.commands i = operation.sends e.objectives := by
  obtain ⟨⟨stage, hn⟩, -⟩ | ⟨⟨notes, answer, idle⟩, hnone⟩ := commands_begin (e := e) hobjective s.host.draws
  · rw [Taken.commands, deeds_of_send hturn he hn]
    simp
  · rw [Taken.commands, (deeds_of_idle hturn he idle).2.1, hnone]
    rfl

/-- An operation begun is a plugin's dealing just if the engine exists and the operation is about an objective under
the plugin's token. -/
theorem dealing?_eq_begun_iff : s.dealing? i plugin = some (.begun operation) ↔
    (∃ origin, s.turn = .begin origin (.operate i operation)) ∧ (s.host.memory? i).isSome ∧
      ∃ p name, operation.objective? = some (p, name) ∧ p.namespaceToken = plugin.namespaceToken := by
  unfold Taken.dealing?
  split
  · rename_i origin j operation' hturn
    simp only [hturn, Turn.begin.injEq, Request.operate.injEq, Option.ite_none_right_eq_some,
      Option.some.injEq, Dealing.begun.injEq, Option.any_eq_true]
    grind
  · simp_all
  · simp_all

/-- An objective added is a plugin's dealing just if its name begins with the plugin's token. -/
theorem dealing?_eq_added_iff {objective : String} : s.dealing? i plugin = some (.added objective) ↔
    (∃ origin reply, s.turn = .resume origin i (.adding objective) reply) ∧
      startsWith objective (plugin.namespaceToken ++ "_") := by
  unfold Taken.dealing?
  split
  · simp_all
  · rename_i origin j objective' reply hturn
    simp only [hturn, Option.ite_none_right_eq_some, Option.some.injEq, Dealing.added.injEq]
    grind
  · simp_all

/-! ### The whole trace -/

variable {latency : Nat} {rules : List Rule} {draws : Draws} {config : Config} {older : List Taken}

/-- What is registered under a token has been entered by a call under the same token and with the same name. -/
theorem Trace.entered_iff (trace : Trace (start latency rules draws config) past h) (i : Nat) (plugin : Plugin)
    (name : String) : plugin.objectiveName name ∈ h.registry i ↔ Entered i past plugin.namespaceToken name := by
  rw [trace.mem_registry_iff]
  constructor
  · rintro ⟨s, hs, hmem⟩
    obtain ⟨recent, older, hpast⟩ := List.append_of_mem hs
    obtain ⟨before, after, earlier, step, -⟩ := trace.cut hpast
    obtain ⟨origin, reply, -, hturn, -, -⟩ := mem_registered_iff.mp hmem
    obtain ⟨-, s', hs', hleaves⟩ := earlier.asked step hturn
    obtain ⟨o, commands, hstretch, hn, -⟩ := resume_mem_leaves.mp hleaves
    obtain ⟨e, -, ⟨operation, hbegun, rfl⟩ | ⟨stage, reply', -, rfl⟩⟩ := stretch?_eq_some_iff.mp hstretch
    · obtain ⟨p, name', criterion, display, rfl, hname, -, -⟩ := (Engine.begin_eq_send_iff.mp hn).adds
      obtain ⟨htoken, rfl⟩ := Plugin.objectiveName_eq_iff.mp hname
      refine ⟨recent, s, older, hpast, s', hs', origin, p, criterion, display, hbegun, htoken, ?_, ?_⟩
      · rwa [hturn]
      · rwa [hname]
    · exact absurd (Engine.resume_eq_send_iff.mp hn) Engine.Continues.adding
  · rintro ⟨recent, s, older, rfl, -, -, -, p, -, -, -, htoken, -, hmem⟩
    rw [Plugin.objectiveName_eq_iff.mpr ⟨htoken, rfl⟩] at hmem
    exact ⟨s, List.mem_append_right recent List.mem_cons_self, hmem⟩

/-- Of the objectives under a plugin's token, those are registered that have been added under it. -/
theorem Trace.mem_registry_iff_added (trace : Trace (start latency rules draws config) past h)
    {p : Plugin} (htoken : p.namespaceToken = plugin.namespaceToken) (i : Nat) (name : String) :
    p.objectiveName name ∈ h.registry i ↔
      p.objectiveName name ∈ (past.filterMap (Taken.dealing? i plugin)).filterMap Dealing.added? := by
  have hunder : startsWith (p.objectiveName name) (plugin.namespaceToken ++ "_") :=
    Plugin.startsWith_objectiveName.mpr htoken
  -- a name under the token gets into the registry only by a dealing of the plugin's, and each of these puts it
  -- there
  constructor
  · intro hmem
    obtain ⟨s, hs, hregistered⟩ := trace.mem_registry_iff.mp hmem
    obtain ⟨origin, reply, -, hturn, -, -⟩ := mem_registered_iff.mp hregistered
    have hdealing : s.dealing? i plugin = some (.added (p.objectiveName name)) :=
      dealing?_eq_added_iff.mpr ⟨⟨origin, reply, hturn⟩, hunder⟩
    exact List.mem_filterMap.mpr ⟨_, List.mem_filterMap.mpr ⟨s, hs, hdealing⟩, rfl⟩
  · intro hmem
    obtain ⟨d, hd, hadded⟩ := List.mem_filterMap.mp hmem
    obtain ⟨s, hs, hdealing⟩ := List.mem_filterMap.mp hd
    cases d with
    | begun operation => cases hadded
    | added objective =>
      cases hadded
      obtain ⟨⟨origin, reply, hturn⟩, -⟩ := dealing?_eq_added_iff.mp hdealing
      have hr : s.turn.adding? i = some ⟨origin, p.objectiveName name, reply⟩ := adding?_eq_some_iff.mpr hturn
      exact (trace.registry_prefix_of_mem hs i).subset (trace.mem_registry_of_adding hs hr)

theorem Trace.conduct_eq (trace : Trace (start latency rules draws config) past h) (i : Nat) (plugin : Plugin) :
    past.filterMap (Taken.conduct? i plugin) =
      Dealing.conduct (past.filterMap (Taken.dealing? i plugin)) := by
  induction trace with
  | refl => rfl
  | @tail past h h' taken trace step ih =>
    cases taken with
    | none => exact ih
    | some s =>
      rw [Option.toList_some, List.singleton_append]
      cases hdealing : s.dealing? i plugin with
      | none =>
        have hconduct : s.conduct? i plugin = none := by rw [Taken.conduct?, hdealing, Option.map_none]
        rw [List.filterMap_cons_none hconduct, List.filterMap_cons_none hdealing, ih]
      | some d =>
        -- what is sent depends on the registry only as far as the plugin's own objectives go
        have hcommands : s.commands i =
            d.sends ((past.filterMap (Taken.dealing? i plugin)).filterMap Dealing.added?) := by
          cases d with
          | begun operation =>
            obtain ⟨⟨origin, hturn⟩, known, p, name, hobjective, htoken⟩ := dealing?_eq_begun_iff.mp hdealing
            obtain ⟨e, he⟩ := exists_of_memory? known
            rw [commands_of_begin hturn he (by simp [hobjective])]
            apply sends_congr
            intro p' name' hobjective'
            rw [hobjective] at hobjective'
            cases hobjective'
            rw [← trace.mem_registry_iff_added htoken, ← step.registry_eq, mem_objectives_iff he]
          | added objective =>
            obtain ⟨⟨origin, reply, hturn⟩, -⟩ := dealing?_eq_added_iff.mp hdealing
            exact commands_of_adding hturn i
        have hconduct : s.conduct? i plugin =
            some (d, d.sends ((past.filterMap (Taken.dealing? i plugin)).filterMap Dealing.added?)) := by
          rw [Taken.conduct?, hdealing, Option.map_some, hcommands]
        rw [List.filterMap_cons_some hconduct, List.filterMap_cons_some hdealing, ih, Dealing.conduct]

/-- In every trace, what plugins do with their objectives depends on what is done under their own token. -/
theorem tenantsApart_of_trace (trace : Trace (start latency rules draws config) past h) (i : Nat) :
    TenantsApart i past where
  guarded recent s older hpast origin operation plugin name command hturn guarded known := by
    obtain ⟨before, after, earlier, step, -⟩ := trace.cut hpast
    obtain ⟨e, he⟩ := exists_of_memory? known
    have hobjective := objective?_of_guarded guarded
    rw [← earlier.entered_iff, ← step.registry_eq, mem_objectives_iff he]
    have hsends := sends_of_guarded guarded e.objectives
    -- the call sends just its command, if the registry has the objective, and is idle if not
    obtain ⟨⟨stage, hn⟩, hsome⟩ | ⟨⟨notes, answer, idle⟩, hnone⟩ :=
      commands_begin (e := e) (show operation.objective?.isSome by simp [hobjective]) s.host.draws
    · have hmem : plugin.objectiveName name ∈ e.objectives := by
        by_contra hmem
        exact hsome (hsends.trans (if_neg hmem))
      rw [hsends, if_pos hmem] at hn
      rw [deeds_of_send hturn he hn]
      refine ⟨⟨fun _ => hmem, fun _ => ⟨stage, _, List.mem_cons_self⟩⟩, ?_⟩
      intro j origin' stage' commands reply hsent
      simp only [List.mem_cons, List.not_mem_nil, or_false, reduceCtorEq, Event.sent.injEq] at hsent
      obtain ⟨rfl, rfl, -, rfl, -⟩ := hsent
      exact ⟨rfl, rfl, rfl⟩
    · have hmem : plugin.objectiveName name ∉ e.objectives := by
        intro hmem
        rw [hsends, if_pos hmem] at hnone
        cases hnone
      rw [(deeds_of_idle hturn he idle).2.1]
      simp [hmem]
  refused recent s older hpast origin operation plugin name command hturn guarded known hentered := by
    have hs : s ∈ past := by
      rw [hpast]
      exact List.mem_append_right recent List.mem_cons_self
    obtain ⟨before, after, earlier, step, -⟩ := trace.cut hpast
    obtain ⟨e, he⟩ := exists_of_memory? known
    have hobjective := objective?_of_guarded guarded
    rw [← earlier.entered_iff, ← step.registry_eq, mem_objectives_iff he] at hentered
    have hsends := (sends_of_guarded guarded e.objectives).trans (if_neg hentered)
    obtain ⟨-, hsome⟩ | ⟨⟨notes, answer, idle⟩, -⟩ :=
      commands_begin (e := e) (show operation.objective?.isSome by simp [hobjective]) s.host.draws
    · exact absurd hsends hsome
    -- the debouncer makes no such call, so all that is left of an idle one is an answer in the journal
    · have horigin := trace.origin_of_begin hs hturn (by rintro rfl; cases hobjective)
      exact ⟨(deeds_of_idle hturn he idle).2.1, (deeds_of_idle hturn he idle).2.2,
        beside_of_idle hturn he idle horigin⟩
  conduct plugin := trace.conduct_eq i plugin
  apart plugin j latency rules draws config past' h' trace' same := by
    rw [trace'.conduct_eq j plugin, trace.conduct_eq i plugin, same]

/-- A run in which two plugins use the same name for an objective: the one has it registered, and the other is
refused. -/
theorem tenantsApart_of_same_name : ∃ past h, Trace (start 0 [] {} {}) past h ∧ TenantsApart 0 past ∧
    h.registry 0 = ["tri_a_kills"] ∧ h.console.commands =
      ["scoreboard objectives add tri_a_kills dummy Kills", "scoreboard objectives setdisplay list tri_a_kills"] := by
  let ensure := Request.operate 0 (.ensure ⟨"apfaes", "apfaes"⟩ "kills" "dummy" "Kills")
  let display (name : String) := Request.operate 0 (.display ⟨name, name⟩ "kills" "list")
  have run : ((((start 0 [] {} {}).drive 50 ensure).bind (drive 50 · (display "demo"))).bind
      (drive 50 · (display "apfaes"))).map (fun h => (h.registry 0, h.console.commands)) =
        some (["tri_a_kills"], ["scoreboard objectives add tri_a_kills dummy Kills",
          "scoreboard objectives setdisplay list tri_a_kills"]) := by decide +kernel
  obtain ⟨h, hdriven, hend⟩ := Option.map_eq_some_iff.mp run
  obtain ⟨hregistry, hcommands⟩ := Prod.mk.inj hend
  obtain ⟨refused, hdriven, hshown⟩ := Option.bind_eq_some_iff.mp hdriven
  obtain ⟨ensured, hensured, hrefused⟩ := Option.bind_eq_some_iff.mp hdriven
  obtain ⟨past, trace⟩ := ((steps_of_drive hensured).trans (steps_of_drive hrefused)).trans (steps_of_drive hshown)
  exact ⟨past, h, trace, tenantsApart_of_trace trace 0, hregistry, hcommands⟩

end Host

end Scoreboard
