import Scoreboard.Proofs.Command
import Scoreboard.Proofs.Host.Courses
import Scoreboard.Proofs.Host.Registry

/-!
# Where the scores in the cache come from

Main statement (`cacheSound_of_trace`): in every trace, a score in an engine's cache is the one that was
entered last for its player and objective, the objective is in the registry, and the console has answered
the engine's command for just this score with it; a score never goes away but for a newer one; and a call
that reads one score answers with its own reply, else with the score that was entered last, else with zero
(`CacheSound`).

A full synchronisation holds back what it has read until the last reply, and reads the objectives that were
registered when the players came. So the invariant (`Provenance`) speaks of the scores that waits hold and of
the objectives that they are still to read (`Sourced`) as well as of the scores entered.
-/

namespace Scoreboard

/-- A call that reads one score from the server: for whom, which score, and its own reply. -/
structure Reading where
  origin : Origin
  player : String
  objective : String
  reply : String

/-- The call that a turn has taken the reply of. -/
def Turn.reading? (i : Nat) : Turn → Option Reading
  | .resume origin j (.readingScore player objective) reply =>
    if j = i then some ⟨origin, player, objective, reply⟩ else none
  | _ => none

namespace Host

namespace Taken

/-- The scores that a turn has entered in an engine's cache, the newest first. -/
def published (i : Nat) (s : Taken) : List Fetched :=
  match s.turn with
  | .resume _ j stage reply => if j = i then stage.publishes reply else []
  | _ => []

/-- The call that a turn has begun, if its objective is registered. -/
def asked? (i : Nat) (s : Taken) : Option Reading :=
  match s.turn with
  | .begin origin (.operate j (.getScore plugin player name)) =>
    if j = i ∧ plugin.objectiveName name ∈ s.host.registry i then
      some ⟨origin, player, plugin.objectiveName name, s.host.console.respond
        ("scoreboard players get " ++ player ++ " " ++ plugin.objectiveName name)⟩
    else none
  | _ => none

/-- How a turn ends an operation of an engine: the answer. -/
def answer? (i : Nat) (s : Taken) : Option Answer :=
  s.stretch?.bind fun r =>
    match r.2.2.next with
    | .done answer => if r.2.1 = i then some answer else none
    | _ => none

end Taken

/-- Whether a player is in an engine's cache. -/
def knows (h : Host) (i : Nat) (player : String) : Prop :=
  ∃ e, h.memory? i = some e ∧ e.scores.knows player

/-- The scores entered in an engine's cache so far, the newest first. -/
def publications (i : Nat) (past : List Taken) : List Fetched := past.flatMap (Taken.published i)

/-- An engine has sent the command for a score, and has taken the reply that the console gave to it. -/
def Replied (i : Nat) (past : List Taken) (player objective reply : String) : Prop :=
  ∃ recent s older origin stage, past = recent ++ s :: older ∧ s.turn = .resume origin i stage reply ∧
    ∃ s' ∈ older, ∃ o commands, s'.stretch? = some (origin, i, o) ∧ o.next = .send commands stage ∧
      Command.batch commands = "scoreboard players get " ++ player ++ " " ++ objective ∧
        reply = s'.host.console.respond (Command.batch commands)

/-- A score of a registered objective that the console has told an engine. -/
def Told (i : Nat) (past : List Taken) (h : Host) (f : Fetched) : Prop :=
  f.objective ∈ h.registry i ∧
    ∃ reply, Replied i past f.player f.objective reply ∧ Reply.score? reply = some f.value

/-- What a wait is to read is registered, and what it holds has been told. -/
structure Sourced (i : Nat) (past : List Taken) (h : Host) (stage : Stage) : Prop where
  wants : ∀ objective ∈ stage.wants, objective ∈ h.registry i
  holds : ∀ f ∈ stage.holds, Told i past h f

/-- What is held, entered and still to be read is sound. -/
structure Provenance (i : Nat) (past : List Taken) (h : Host) : Prop where
  waiting : ∀ origin stage reply, .resume origin i stage reply ∈ h.agenda → Sourced i past h stage
  published : ∀ f ∈ publications i past, Told i past h f

/-- What the cache holds, and what calls that read one score are answered with. -/
structure CacheSound (i : Nat) (past : List Taken) (h : Host) : Prop where
  /-- The cache holds the score that was entered last. -/
  last : ∀ player objective, h.cached? i player objective = lastValue? (publications i past) player objective
  /-- A score in the cache is that of a registered objective, and the console has told it in its reply to
  the command for just this score. -/
  told : ∀ player objective value, h.cached? i player objective = some value →
    objective ∈ h.registry i ∧
      ∃ reply, Replied i past player objective reply ∧ Reply.score? reply = some value
  /-- A score never goes away, nor does a player. -/
  kept : ∀ h', Steps h h' → (∀ player, h.knows i player → h'.knows i player) ∧
    ∀ player objective, (h.cached? i player objective).isSome → (h'.cached? i player objective).isSome
  /-- A call for an objective that is not registered is answered with zero at once. -/
  unregistered : ∀ s ∈ past, ∀ origin plugin player name,
    s.turn = .begin origin (.operate i (.getScore plugin player name)) → (s.host.memory? i).isSome →
      plugin.objectiveName name ∉ s.host.registry i → s.answer? i = some (.score (some 0))
  /-- Any other call takes its own reply once, or waits for it. -/
  replied : ((past.filterMap (Taken.turn · |>.reading? i) : List _) : Multiset Reading) +
    h.agenda.filterMap (Turn.reading? i) = past.filterMap (Taken.asked? i)
  /-- It is answered with the value in its reply, else with the score that was entered last, else with
  zero. -/
  answered : ∀ recent s older r, past = recent ++ s :: older → s.turn.reading? i = some r →
    s.answer? i = some (.score (some (((Reply.score? r.reply).or
      (lastValue? (publications i older) r.player r.objective)).getD 0)))
  /-- A score that no reply has told of is zero. -/
  untold : ∀ recent s older r, past = recent ++ s :: older → s.turn.reading? i = some r →
    (∀ reply, Replied i (s :: older) r.player r.objective reply → Reply.score? reply = none) →
      s.answer? i = some (.score (some 0))

/-! ### One turn -/

/-- Only a turn that takes a reply enters scores. -/
theorem published_eq_nil {i : Nat} {s : Taken}
    (h : ∀ origin stage reply, s.turn ≠ .resume origin i stage reply) : s.published i = [] := by
  unfold Taken.published
  split
  · rename_i origin j stage reply hturn
    apply if_neg
    rintro rfl
    exact h origin stage reply hturn
  · rfl

/-- After a turn the cache holds what the turn has entered, and else what it held. -/
theorem cached?_perform (s : Taken) (i : Nat)
    (known : ∀ origin stage reply, s.turn = .resume origin i stage reply → (s.host.memory? i).isSome)
    (player objective : String) :
    (s.host.perform s.turn).cached? i player objective =
      (lastValue? (s.published i) player objective).or (s.host.cached? i player objective) := by
  have recalls := recalls_perform s.host s.turn i
  rw [cached?_eq_memory?]
  generalize (s.host.perform s.turn).memory? i = remembered at recalls
  -- scores change in stretches that take a reply; nothing else the turn can be touches the cache
  cases recalls with
  | @begun e origin operation he hturn =>
    have hpublished : s.published i = [] := published_eq_nil (by simp [hturn])
    show (e.begin operation s.host.draws).1.engine.scores.value? player objective = _
    rw [(e.begin_changes operation s.host.draws).2.1, hpublished, cached?, he]
    rfl
  | @resumed e origin stage reply he hturn =>
    have hpublished : s.published i = stage.publishes reply := by
      rw [Taken.published, hturn]
      exact if_pos rfl
    show (e.resume stage reply).engine.scores.value? player objective = _
    rw [(e.resume_changes stage reply).2.1, hpublished, cached?, he]
    rfl
  -- a reply is taken by an engine that exists, so this turn takes none
  | created config absent =>
    have hpublished : s.published i = [] := by
      apply published_eq_nil
      intro origin stage reply hturn
      have hknown := known origin stage reply hturn
      rw [absent] at hknown
      cases hknown
    rw [hpublished, cached?_eq_memory?, absent]
    rfl
  -- a reply for this engine would be a stretch of it
  | same elsewhere =>
    have hpublished : s.published i = [] := by
      apply published_eq_nil
      intro origin stage reply hturn
      obtain ⟨e, he⟩ := exists_of_memory? (known origin stage reply hturn)
      exact elsewhere origin _ (stretch?_eq_some_iff.mpr ⟨e, he, .inr ⟨stage, reply, hturn, rfl⟩⟩)
    rw [hpublished, ← cached?_eq_memory?]
    rfl

/-- A player who is in the cache stays there after every turn. -/
theorem knows_perform {h : Host} {i : Nat} {player : String} (known : h.knows i player) (t : Turn) :
    (h.perform t).knows i player := by
  obtain ⟨e, he, hknows⟩ := known
  have recalls := recalls_perform h t i
  unfold knows
  generalize (h.perform t).memory? i = remembered at recalls
  have hmemory : ∀ e', h.engines[i]? = some e' → e'.scores.knows player := by
    intro e' he'
    rw [memory?, he'] at he
    cases he
    exact hknows
  -- a stretch keeps the players that the cache has, and a new engine was not there to know any
  cases recalls with
  | @begun e' origin operation he' hturn =>
    refine ⟨_, rfl, ?_⟩
    show (e'.begin operation h.draws).1.engine.scores.knows player
    rw [(e'.begin_changes operation h.draws).2.1]
    exact hmemory e' he'
  | @resumed e' origin stage reply he' hturn =>
    exact ⟨_, rfl, Engine.knows_resume (hmemory e' he') stage reply⟩
  | created config absent =>
    rw [he] at absent
    cases absent
  | same elsewhere => exact ⟨e, he, hknows⟩

/-! ### What a turn keeps -/

section

variable {i : Nat} {past : List Taken} {h h' : Host} {s : Taken} {stage : Stage}

theorem Replied.cons {player objective reply : String} (replied : Replied i past player objective reply)
    (s : Taken) : Replied i (s :: past) player objective reply := by
  obtain ⟨recent, s', older, origin, stage, rfl, hreply⟩ := replied
  exact ⟨s :: recent, s', older, origin, stage, rfl, hreply⟩

theorem Told.of_memory? {f : Fetched} (told : Told i past h f) (same : h'.memory? i = h.memory? i) :
    Told i past h' f := by
  rw [Told, registry_of_memory? same]
  exact told

/-- What has been told stays so after a turn, as its objective stays registered. -/
theorem Told.perform {f : Fetched} (told : Told i past s.host f) :
    Told i (s :: past) (s.host.perform s.turn) f := by
  obtain ⟨hregistered, reply, replied, hvalue⟩ := told
  exact ⟨registry_subset_perform s.host s.turn i hregistered, reply, replied.cons s, hvalue⟩

theorem Sourced.of_memory? (sourced : Sourced i past h stage) (same : h'.memory? i = h.memory? i) :
    Sourced i past h' stage := by
  refine ⟨fun objective hwants => ?_, fun f hf => (sourced.holds f hf).of_memory? same⟩
  rw [registry_of_memory? same]
  exact sourced.wants objective hwants

/-- A sound wait stays so after a turn. -/
theorem Sourced.perform (sourced : Sourced i past s.host stage) :
    Sourced i (s :: past) (s.host.perform s.turn) stage :=
  ⟨fun objective hwants => registry_subset_perform s.host s.turn i (sourced.wants objective hwants),
    fun f hf => (sourced.holds f hf).perform⟩

/-- A reply to what has been asked for tells of a registered objective. -/
theorem Sourced.told {reply : String} (sourced : Sourced i past s.host stage)
    (replied : ∀ player objective, stage.asks? = some (player, objective) →
      Replied i (s :: past) player objective reply)
    {f : Fetched} (hf : f ∈ stage.holds ∨ stage.Learns reply f) :
    Told i (s :: past) (s.host.perform s.turn) f := by
  obtain hheld | ⟨hasks, hvalue⟩ := hf
  · exact (sourced.holds f hheld).perform
  · have hwants := sourced.wants f.objective (Stage.mem_wants_of_asks? hasks)
    exact ⟨registry_subset_perform s.host s.turn i hwants, reply, replied f.player f.objective hasks, hvalue⟩

/-- A wait that a turn leaves is to read what the wait before it was to, or what is registered. -/
theorem sourced_of_leaves {origin : Origin} {reply : String}
    (hleaves : .resume origin i stage reply ∈ s.leaves)
    (before : ∀ origin stage reply, s.turn = .resume origin i stage reply →
      Sourced i past s.host stage ∧ ∀ player objective, stage.asks? = some (player, objective) →
        Replied i (s :: past) player objective reply) :
    Sourced i (s :: past) (s.host.perform s.turn) stage := by
  -- the registry that a synchronisation looks at is that before the turn
  have hregistered : ∀ e, s.host.engines[i]? = some e → ∀ objective ∈ e.objectives,
      objective ∈ (s.host.perform s.turn).registry i := by
    intro e he objective hobjective
    apply registry_subset_perform s.host s.turn i
    rwa [registry_eq he]
  obtain ⟨o, commands, hs, hn, -⟩ := resume_mem_leaves.mp hleaves
  obtain ⟨e, he, ⟨operation, -, rfl⟩ | ⟨waiting, reply', hturn, rfl⟩⟩ := stretch?_eq_some_iff.mp hs
  · obtain ⟨hwants, hholds⟩ := (Engine.begin_eq_send_iff.mp hn).scores
    refine ⟨fun objective hobjective => hregistered e he objective (hwants objective hobjective), ?_⟩
    rw [hholds]
    exact fun f hf => absurd hf List.not_mem_nil
  · obtain ⟨hwants, hholds⟩ := (Engine.resume_eq_send_iff.mp hn).scores
    obtain ⟨sourced, replied⟩ := before origin waiting reply' hturn
    refine ⟨fun objective hobjective => ?_, fun f hf => sourced.told replied (hholds f hf)⟩
    obtain hobjective | hobjective := hwants objective hobjective
    · exact registry_subset_perform s.host s.turn i (sourced.wants objective hobjective)
    · exact hregistered e he objective hobjective

/-- A turn keeps what is held, entered and still to be read sound. -/
theorem Provenance.perform (provenance : Provenance i past h) (step : Step h (some s) h')
    (replied : ∀ origin stage reply, s.turn = .resume origin i stage reply → ∀ player objective,
      stage.asks? = some (player, objective) → Replied i (s :: past) player objective reply) :
    Provenance i (s :: past) h' := by
  obtain ⟨rfl, _, memory, hagenda⟩ := step.of_some
  -- the task that is run is still in the agenda before the step, so its wait is sound as well
  have hbefore : ∀ origin stage reply, s.turn = .resume origin i stage reply →
      Sourced i past s.host stage ∧ ∀ player objective, stage.asks? = some (player, objective) →
        Replied i (s :: past) player objective reply := by
    intro origin stage reply hturn
    have hmem : .resume origin i stage reply ∈ h.agenda := by
      rw [hagenda, hturn, Multiset.mem_add]
      exact .inl (by simp [Turn.isWork])
    exact ⟨(provenance.waiting origin stage reply hmem).of_memory? (memory i),
      replied origin stage reply hturn⟩
  constructor
  · intro origin stage reply hmem
    -- a wait after the turn has been left by it or was there before
    obtain hleaves | hmem := resume_mem_agenda_perform hmem
    · exact sourced_of_leaves hleaves hbefore
    · have hmem : .resume origin i stage reply ∈ h.agenda := by
        rw [hagenda]
        exact Multiset.mem_add.mpr (.inr hmem)
      exact ((provenance.waiting origin stage reply hmem).of_memory? (memory i)).perform
  · intro f hmem
    -- a score has been entered by this turn or before
    rcases List.mem_append.mp hmem with hf | hf
    · unfold Taken.published at hf
      split at hf
      · rename_i origin j stage reply hturn
        split at hf
        · rename_i hj
          subst hj
          obtain ⟨sourced, replied⟩ := hbefore origin stage reply hturn
          exact sourced.told replied (mem_publishes hf)
        · cases hf
      · cases hf
    · exact ((provenance.published f hf).of_memory? (memory i)).perform

end

/-! ### The whole trace -/

section

variable {latency : Nat} {rules : List Rule} {draws : Draws} {config : Config} {h h' : Host}
  {past : List Taken} {s : Taken}

/-- A wait that is for one score has sent the command for just this score. -/
theorem batch_of_asks {t : Turn} {origin : Origin} {i : Nat} {o : Outcome} {commands : List Command}
    {stage : Stage} {player objective : String} (hs : h.stretch? t = some (origin, i, o))
    (hn : o.next = .send commands stage) (hasks : stage.asks? = some (player, objective)) :
    Command.batch commands = "scoreboard players get " ++ player ++ " " ++ objective := by
  rw [commands_of_asks hs hn hasks, Command.batch_singleton, Command.text_getScore]

/-- The reply that a turn takes is the console's to what has been asked for. -/
theorem Trace.replied (trace : Trace (start latency rules draws config) past h)
    (step : Step h (some s) h') {origin : Origin} {i : Nat} {stage : Stage} {reply : String}
    (hturn : s.turn = .resume origin i stage reply) {player objective : String}
    (hasks : stage.asks? = some (player, objective)) : Replied i (s :: past) player objective reply := by
  -- who waits at a stage has sent the command that goes with it
  obtain ⟨-, s', hs', hleaves⟩ := trace.asked step hturn
  obtain ⟨o, commands, hs, hn, hreply⟩ := resume_mem_leaves.mp hleaves
  exact ⟨[], s, past, origin, stage, rfl, hturn, s', hs', o, commands, hs, hn, batch_of_asks hs hn hasks,
    hreply⟩

/-- In every trace what is held, entered and still to be read is sound: the invariant from the first state on. -/
theorem Trace.provenance (trace : Trace (start latency rules draws config) past h) (i : Nat) :
    Provenance i past h := by
  induction trace with
  | refl => exact ⟨fun _ _ _ hmem => absurd hmem (Multiset.notMem_zero _), fun _ hf => absurd hf List.not_mem_nil⟩
  | @tail past h h' taken trace step ih =>
    cases taken with
    | some s =>
      apply ih.perform step
      intro origin stage reply hturn player objective hasks
      exact trace.replied step hturn hasks
    | none =>
      have same := step.of_none.2.1 i
      constructor
      · intro origin stage reply hmem
        exact (ih.waiting origin stage reply (step.resume_mem_agenda hmem)).of_memory? same
      · intro f hf
        exact (ih.published f hf).of_memory? same

/-- In every trace the cache holds the score that was entered last. -/
theorem Trace.cached?_eq (trace : Trace (start latency rules draws config) past h) (i : Nat)
    (player objective : String) :
    h.cached? i player objective = lastValue? (publications i past) player objective := by
  induction trace with
  | refl =>
    match i with
    | 0 => rfl
    | i + 1 => rfl
  | @tail past h h' taken trace step ih =>
    cases taken with
    | none =>
      rw [cached?_eq_memory?, step.of_none.2.1, ← cached?_eq_memory?]
      exact ih
    | some s =>
      obtain ⟨rfl, _, memory, _⟩ := step.of_some
      have hbefore : s.host.cached? i player objective = h.cached? i player objective := by
        rw [cached?_eq_memory?, memory, ← cached?_eq_memory?]
      have hknown : ∀ origin stage reply, s.turn = .resume origin i stage reply →
          (s.host.memory? i).isSome :=
        fun origin stage reply hturn => (trace.asked step hturn).1
      rw [cached?_perform s i hknown, hbefore, ih, ← lastValue?_append]
      rfl

theorem Steps.knows {i : Nat} {player : String} (steps : Steps h h') (known : h.knows i player) :
    h'.knows i player :=
  steps.of_memory? (P := fun m => ∃ e, m = some e ∧ e.scores.knows player)
    (fun _ t known => knows_perform known t) known

/-- A score that is in the cache stays there, if with a newer value. -/
theorem Trace.isSome_cached? (trace : Trace (start latency rules draws config) past h) (steps : Steps h h')
    {i : Nat} {player objective : String} (hcached : (h.cached? i player objective).isSome) :
    (h'.cached? i player objective).isSome := by
  obtain ⟨recent, later⟩ := steps
  rw [trace.cached?_eq] at hcached
  -- the scores entered before are among all that have been entered
  rw [(trace.trans later).cached?_eq, publications, List.flatMap_append, lastValue?_append, Option.isSome_or,
    Bool.or_eq_true]
  exact .inr hcached

/-! ### Calls that read one score -/

/-- A call for one score asks for it if its objective is registered, and else answers from the cache. -/
theorem begin_getScore (e : Engine) (plugin : Plugin) (player name : String) (draws : Draws) :
    (e.begin (.getScore plugin player name) draws).1.next =
      if plugin.objectiveName name ∈ e.objectives then
        .send [.getScore player (plugin.objectiveName name)]
          (.readingScore player (plugin.objectiveName name))
      else .done (.score (some ((e.scores.value? player (plugin.objectiveName name)).getD 0))) := by
  simp only [Engine.begin, Engine.beginGetScore, Engine.isRegistered, decide_eq_true_eq]
  split <;> rfl

/-- With its reply the call answers with the value in it, else from the cache, else with zero. -/
theorem resume_readingScore (e : Engine) (player objective reply : String) :
    (e.resume (.readingScore player objective) reply).next =
      .done (.score (some (((Reply.score? reply).or (e.scores.value? player objective)).getD 0))) := by
  simp only [Engine.resume, Engine.resumeGetScore]
  split
  · rename_i value hvalue
    rw [hvalue]
    show Next.done (.score (some (((e.scores.put player objective value).value? player objective).getD 0))) = _
    rw [Scores.value?_put, if_pos ⟨rfl, rfl⟩]
    rfl
  · rename_i hnone
    rw [hnone]
    rfl

/-- Which turn takes the reply of a call. -/
theorem reading?_eq_some_iff {i : Nat} {t : Turn} {r : Reading} :
    t.reading? i = some r ↔ t = .resume r.origin i (.readingScore r.player r.objective) r.reply := by
  obtain ⟨origin, player, objective, reply⟩ := r
  unfold Turn.reading?
  split
  · grind
  · grind

theorem left_reading? (i : Nat) : Left (Turn.reading? i) := ⟨fun _ => rfl, fun _ => rfl⟩

/-- Which turn begins a call whose objective is registered. -/
theorem asked?_eq_some_iff {i : Nat} {s : Taken} {r : Reading} :
    s.asked? i = some r ↔ ∃ plugin name,
      s.turn = .begin r.origin (.operate i (.getScore plugin r.player name)) ∧
        plugin.objectiveName name = r.objective ∧ r.objective ∈ s.host.registry i ∧
          r.reply = s.host.console.respond ("scoreboard players get " ++ r.player ++ " " ++ r.objective) := by
  constructor
  · intro h
    unfold Taken.asked? at h
    split at h
    · rename_i origin j plugin player name hturn
      split at h
      · rename_i hj
        obtain ⟨rfl, hregistered⟩ := hj
        cases h
        exact ⟨plugin, name, hturn, rfl, hregistered, rfl⟩
      · cases h
    · cases h
  · obtain ⟨origin, player, objective, reply⟩ := r
    rintro ⟨plugin, name, hturn, hname, hregistered, hreply⟩
    have hname : plugin.objectiveName name = objective := hname
    have hreply : reply =
      s.host.console.respond ("scoreboard players get " ++ player ++ " " ++ objective) := hreply
    subst hname
    rw [Taken.asked?, hturn, hreply]
    exact if_pos ⟨rfl, hregistered⟩

/-- A call leaves the wait for its reply, and no other turn leaves one. -/
theorem filterMap_leaves_reading? (i : Nat) (s : Taken) :
    s.leaves.filterMap (Turn.reading? i) = (s.asked? i).toList := by
  apply filterMap_leaves_of_stretch (Turn.reading? i) (fun _ => rfl) (fun _ _ => rfl)
  · intro origin j o t r hs ht hk
    rw [reading?_eq_some_iff.mp hk] at ht
    obtain ⟨rfl, rfl, commands, hn, hreply⟩ := resume_mem_handsOn.mp ht
    have hasks : (Stage.readingScore r.player r.objective).asks? = some (r.player, r.objective) := rfl
    have hbatch := batch_of_asks hs hn hasks
    obtain ⟨e, he, ⟨operation, hturn, rfl⟩ | ⟨stage, reply, -, rfl⟩⟩ := stretch?_eq_some_iff.mp hs
    · obtain ⟨plugin, name, rfl, hname, hmem⟩ := (Engine.begin_eq_send_iff.mp hn).reading
      refine asked?_eq_some_iff.mpr ⟨plugin, name, hturn, hname, ?_, ?_⟩
      · rwa [registry_eq he]
      · rw [hreply, hbatch]
    -- no operation goes over to reading a single score after another wait
    · exact absurd (Engine.resume_eq_send_iff.mp hn) Engine.Continues.reading
  -- the other way round, a call for a registered objective sends the command and waits
  · intro r hr
    obtain ⟨plugin, name, hturn, hname, hregistered, hreply⟩ := asked?_eq_some_iff.mp hr
    obtain ⟨e, he, hmem⟩ := exists_of_mem_registry hregistered
    have hs : s.stretch? =
        some (r.origin, i, (e.begin (.getScore plugin r.player name) s.host.draws).1) :=
      stretch?_eq_some_iff.mpr ⟨e, he, .inl ⟨_, hturn, rfl⟩⟩
    have hn := begin_getScore e plugin r.player name s.host.draws
    rw [hname, if_pos hmem] at hn
    refine ⟨r.origin, i, _, hs, ?_⟩
    have hhanded : s.host.handsOn r.origin i (e.begin (.getScore plugin r.player name) s.host.draws).1 =
        [.resume r.origin i (.readingScore r.player r.objective) r.reply] := by
      rw [handsOn, hn, hreply, ← Command.text_getScore, ← Command.batch_singleton]
    rw [hhanded, List.filterMap_cons_some (reading?_eq_some_iff.mpr rfl)]
    rfl

/-- The score that was entered last has been told. -/
theorem Provenance.told_of_lastValue? {i : Nat} {past : List Taken} {h : Host}
    (provenance : Provenance i past h) {player objective : String} {value : Int64}
    (hlast : lastValue? (publications i past) player objective = some value) :
    Told i past h ⟨player, objective, value⟩ := by
  obtain ⟨f, hfind, hvalue⟩ := Option.map_eq_some_iff.mp hlast
  have hfor : f.player = player ∧ f.objective = objective := by
    simpa [Fetched.isFor] using List.find?_some hfind
  obtain ⟨rfl, rfl⟩ := hfor
  subst hvalue
  exact provenance.published f (List.mem_of_find?_eq_some hfind)

/-- At a turn the cache holds what was entered last before it. -/
theorem Trace.cached?_of_step (trace : Trace (start latency rules draws config) past h)
    (step : Step h (some s) h') (i : Nat) (player objective : String) :
    s.host.cached? i player objective = lastValue? (publications i past) player objective := by
  rw [cached?_eq_memory?, step.of_some.2.2.1, ← cached?_eq_memory?]
  exact trace.cached?_eq i player objective

/-- A call for an objective that is not registered finds nothing in the cache. -/
theorem answer?_of_unregistered (trace : Trace (start latency rules draws config) past h)
    (step : Step h (some s) h') {origin : Origin} {i : Nat} {plugin : Plugin} {player name : String}
    (hturn : s.turn = .begin origin (.operate i (.getScore plugin player name)))
    (known : (s.host.memory? i).isSome) (hfree : plugin.objectiveName name ∉ s.host.registry i) :
    s.answer? i = some (.score (some 0)) := by
  obtain ⟨e, he⟩ := exists_of_memory? known
  have hs : s.stretch? =
      some (origin, i, (e.begin (.getScore plugin player name) s.host.draws).1) :=
    stretch?_eq_some_iff.mpr ⟨e, he, .inl ⟨_, hturn, rfl⟩⟩
  have hobjectives : plugin.objectiveName name ∉ e.objectives := by rwa [registry_eq he] at hfree
  -- a score in the cache would be one of a registered objective
  have hcached : e.scores.value? player (plugin.objectiveName name) = none := by
    have hlast := trace.cached?_of_step step i player (plugin.objectiveName name)
    rw [cached?, he, Option.bind_some] at hlast
    rw [hlast, Option.eq_none_iff_forall_ne_some]
    intro value hvalue
    obtain ⟨hregistered, _⟩ := (trace.provenance i).told_of_lastValue? hvalue
    rw [registry_eq_memory?, ← step.of_some.2.2.1, ← registry_eq_memory?] at hregistered
    exact hfree hregistered
  have hn := begin_getScore e plugin player name s.host.draws
  rw [if_neg hobjectives, hcached] at hn
  rw [Taken.answer?, hs, Option.bind_some, hn]
  exact if_pos rfl

/-- A call that has got its reply answers from it, else from the cache. -/
theorem answer?_of_reading? (trace : Trace (start latency rules draws config) past h)
    (step : Step h (some s) h') {i : Nat} {r : Reading} (hr : s.turn.reading? i = some r) :
    s.answer? i = some (.score (some (((Reply.score? r.reply).or
      (lastValue? (publications i past) r.player r.objective)).getD 0))) := by
  have hturn := reading?_eq_some_iff.mp hr
  have known := (trace.asked step hturn).1
  obtain ⟨e, he⟩ := exists_of_memory? known
  have hs : s.stretch? =
      some (r.origin, i, e.resume (.readingScore r.player r.objective) r.reply) :=
    stretch?_eq_some_iff.mpr ⟨e, he, .inr ⟨_, _, hturn, rfl⟩⟩
  -- what the cache holds at this turn is what was entered last before it
  have hlast := trace.cached?_of_step step i r.player r.objective
  rw [cached?, he, Option.bind_some] at hlast
  rw [Taken.answer?, hs, Option.bind_some, resume_readingScore, hlast]
  exact if_pos rfl

/-- A call for a score that no reply has told of answers with zero. -/
theorem answer?_of_untold (trace : Trace (start latency rules draws config) past h)
    (step : Step h (some s) h') {i : Nat} {r : Reading} (hr : s.turn.reading? i = some r)
    (untold : ∀ reply, Replied i (s :: past) r.player r.objective reply → Reply.score? reply = none) :
    s.answer? i = some (.score (some 0)) := by
  -- neither its own reply tells of the score nor one before it
  have hown : Reply.score? r.reply = none :=
    untold r.reply (trace.replied step (reading?_eq_some_iff.mp hr) rfl)
  have hlast : lastValue? (publications i past) r.player r.objective = none := by
    rw [Option.eq_none_iff_forall_ne_some]
    intro value hvalue
    obtain ⟨_, reply, replied, htold⟩ := (trace.provenance i).told_of_lastValue? hvalue
    rw [untold reply (replied.cons s)] at htold
    cases htold
  rw [answer?_of_reading? trace step hr, hown, hlast]
  rfl

/-- In every trace, the cache holds scores that the console has told, the newest of each kind. -/
theorem cacheSound_of_trace (trace : Trace (start latency rules draws config) past h) (i : Nat) :
    CacheSound i past h where
  last := trace.cached?_eq i
  told player objective value hcached := by
    rw [trace.cached?_eq] at hcached
    exact (trace.provenance i).told_of_lastValue? hcached
  kept _ steps := ⟨fun _ => steps.knows, fun _ _ => trace.isSome_cached? steps⟩
  unregistered s hs origin plugin player name hturn known hfree := by
    obtain ⟨recent, older, hpast⟩ := List.append_of_mem hs
    obtain ⟨before, after, earlier, step, -⟩ := trace.cut hpast
    exact answer?_of_unregistered earlier step hturn known hfree
  replied := by
    rw [← filterMap_flatMap_toList fun s _ => filterMap_leaves_reading? i s]
    exact trace.conservation_of_start (left_reading? i)
  answered recent s older r hpast hr := by
    obtain ⟨before, after, earlier, step, -⟩ := trace.cut hpast
    exact answer?_of_reading? earlier step hr
  untold recent s older r hpast hr untold := by
    obtain ⟨before, after, earlier, step, -⟩ := trace.cut hpast
    exact answer?_of_untold earlier step hr untold

end

/-- A run in which an objective is added and a score of it read. -/
theorem cacheSound_of_one_reading : ∃ past h,
    Trace (start 0 [.toStart "scoreboard players get Alice" "Alice has 4 [kills]"] {} {}) past h ∧
      CacheSound 0 past h ∧ h.cached? 0 "Alice" "tQaBe_kills" = some 4 := by
  let rules := [Rule.toStart "scoreboard players get Alice" "Alice has 4 [kills]"]
  let ensure := Request.operate 0 (.ensure ⟨"demo", "demo"⟩ "kills" "dummy" "Kills")
  let read := Request.operate 0 (.getScore ⟨"demo", "demo"⟩ "Alice" "kills")
  have run : (((start 0 rules {} {}).drive 50 ensure).bind (drive 50 · read)).map
      (fun h => h.cached? 0 "Alice" "tQaBe_kills") = some (some 4) := by decide +kernel
  obtain ⟨h, hdriven, hcached⟩ := Option.map_eq_some_iff.mp run
  obtain ⟨ensured, hensured, hread⟩ := Option.bind_eq_some_iff.mp hdriven
  obtain ⟨past, trace⟩ := (steps_of_drive hensured).trans (steps_of_drive hread)
  exact ⟨past, h, trace, cacheSound_of_trace trace 0, hcached⟩

end Host

end Scoreboard
