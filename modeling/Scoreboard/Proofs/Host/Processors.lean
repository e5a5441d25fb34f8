import Scoreboard.Proofs.Dispatch
import Scoreboard.Proofs.Host.Dialogues
import Scoreboard.Proofs.Table

/-!
# Who listens to the console

A console keeps one processor to an owner, and an engine that is created takes the place of the one that listened
under its owner; its teardown takes away whoever listens there. What a turn makes of the console is a function of
the host before it (`consoleAfter`, `console_perform`), and what it makes of the processors has a constructor each in
`Rewires` (`rewires_perform`). So in every trace who listens under an owner is the newest
engine that is set to this owner, and has not been shut down (`Trace.wired`), and hears every line that the
console puts out once, while somebody holds on to it (`Wired.heardBy_of_emits`).
-/

namespace Scoreboard

/-- The lines that a turn has the console put out. -/
def Turn.emits? : Turn → Option (List String)
  | .begin _ (.emit lines) => some lines
  | .call _ callback fire => some (callback.emits fire)
  | _ => none

namespace Host

/-- The engine that listens under an owner. -/
def listener? (h : Host) (owner : String) : Option Nat := h.console.processors.get? owner

/-- Whether a turn is the teardown of an engine, in the state that is given. -/
def Taken.TearsDown (a : Nat) (e : Engine) (s : Taken) : Prop :=
  s.host.engines[a]? = some e ∧ ∃ origin, s.turn = .begin origin (.shutDown a)

/-- Whether an engine is the newest one of those that are set to an owner, and not shut down. -/
def IsNewest (h : Host) (owner : String) (i : Nat) : Prop :=
  ∃ e, h.engines[i]? = some e ∧ e.config.owner = owner ∧ e.isShutDown = false ∧
    ∀ j e', h.engines[j]? = some e' → e'.config.owner = owner → j ≤ i

/-- The processors of a host are those of its engines. -/
structure Wired (h : Host) : Prop where
  distinct : h.console.processors.keys.Nodup
  newest : ∀ owner i, h.listener? owner = some i → h.IsNewest owner i

/-- What a turn makes of the processors. -/
inductive Rewires (h : Host) (t : Turn) : Table Nat → Prop where
  | created {origin : Origin} {config : Config} (turn : t = .begin origin (.create config)) :
      Rewires h t (h.console.processors.insert config.owner h.engines.length)
  | detached {origin : Origin} {i : Nat} {e : Engine} (turn : t = .begin origin (.shutDown i))
      (engine : h.engines[i]? = some e) (first : e.isShutDown = false) :
      Rewires h t (h.console.processors.erase e.config.owner)
  | same (creates : ∀ origin config, t ≠ .begin origin (.create config))
      (down : ∀ origin i e, t = .begin origin (.shutDown i) → h.engines[i]? = some e → e.isShutDown = true) :
      Rewires h t h.console.processors

/-- What a turn makes of the console: a request may set it up anew, and a stretch tells it what it sends. -/
def consoleAfter (h : Host) : Turn → Console Nat
  | .begin _ (.create config) => h.console.register config.owner h.engines.length
  | .begin _ (.shutDown i) =>
    match h.engines[i]? with
    | none => h.console
    | some e => if e.isShutDown then h.console else h.console.unregister e.config.owner
  | .begin _ (.respond rules) => h.console.respondWith (Rule.respond rules)
  | .begin _ .forget => h.console.forget
  | t => ((h.stretch? t).bind fun r => r.2.2.next.text?).elim h.console fun text => (h.console.run text).1

/-! ### The console after a turn -/

variable {h : Host} {t : Turn} {i j : Nat} {e e' : Engine}

theorem console_send (h : Host) (origin : Origin) (i : Nat) (commands : List Command) (stage : Stage) :
    (h.send origin i commands stage).console = (h.console.run (Command.batch commands)).1 := by
  unfold send
  simp only
  split <;> rfl

/-- An answer leaves the console alone. -/
theorem console_conclude (h : Host) (origin : Origin) (i : Nat) (e : Engine) (answer : Answer) :
    (h.conclude origin i e answer).console = h.console := by
  cases origin with
  | debouncer => rfl
  | foreground => exact (beside_answer h .foreground answer).console
  | spawned label => exact (beside_answer h (.spawned label) answer).console
  | line => rfl

/-- Going on with an operation tells the console what is sent, and nothing else. -/
theorem console_proceed (h : Host) (origin : Origin) (i : Nat) (o : Outcome) : (h.proceed origin i o).console =
    o.next.text?.elim h.console fun text => (h.console.run text).1 := by
  have hnote := (beside_note (h.setEngine i o.engine) i o.notes).console
  unfold proceed
  cases o.next with
  | send commands stage =>
    simp only [console_send, hnote]
    rfl
  | done answer => exact (console_conclude _ origin i o.engine answer).trans hnote
  | fire callback fire => exact (console_conclude _ origin i o.engine _).trans hnote
  | endless => exact hnote

/-- Looking after a debouncer leaves the console alone. -/
theorem console_attend (h : Host) (i : Nat) : (h.attend i).console = h.console := by
  unfold attend
  split
  · rfl
  split
  · rfl
  simp only
  split
  · exact (beside_arm _ i _).console
  · exact (beside_note _ i [.debouncerEnded]).console
  · split <;> rfl

/-- A teardown that is the first one takes away the processor of the engine's owner. -/
theorem console_shutDown (h : Host) (origin : Origin) (i : Nat) :
    (h.shutDown i).console = h.consoleAfter (.begin origin (.shutDown i)) := by
  simp only [shutDown, consoleAfter]
  rcases h.engines[i]? with _ | e
  · rfl
  · by_cases down : e.isShutDown
    · simp only [if_pos down]
    · simp only [if_neg down, (beside_note _ i [.shutDown]).console]

/-- What a turn does makes of the console what `consoleAfter` says. -/
theorem console_run (h : Host) (t : Turn) : (h.run t).console = h.consoleAfter t := by
  have hanswer := fun (h' : Host) origin answer => (beside_answer h' origin answer).console
  -- lines are heard and debouncers looked after without a word to the console; what is left is what requests do,
  -- and stretches
  cases t with
  | begin origin request =>
    cases request with
    | operate i operation =>
      rcases he : h.engines[i]? with _ | e
      · simp [run, begin, record, he, consoleAfter, stretch?]
      · simp only [run, begin, record, he, consoleAfter, stretch?]
        exact console_proceed _ origin i _
    | shutDown i =>
      refine (hanswer _ origin .nothing).trans ?_
      exact console_shutDown (h.record (.begun origin (.shutDown i))) origin i
    | emit lines =>
      refine (hanswer _ origin .nothing).trans ?_
      exact (beside_emits _ lines).console
    | offer i line =>
      refine (hanswer _ origin .nothing).trans ?_
      exact (beside_offer _ i line).console
    | release i =>
      refine (hanswer _ origin .nothing).trans ?_
      unfold release
      split <;> rfl
    | sleep duration => rfl
    | _ => exact hanswer _ origin _
  | resume origin i stage reply =>
    rcases he : h.engines[i]? with _ | e
    · simp [run, he, consoleAfter, stretch?]
    · simp only [run, he, consoleAfter, stretch?]
      exact console_proceed h origin i _
  | wake origin => exact hanswer h origin .nothing
  | call i callback fire => exact (beside_emits _ (callback.emits fire)).console
  | attend i => exact console_attend h i

/-- A turn makes of the console what `consoleAfter` says; what it leaves behind does not touch the console. -/
theorem console_perform (h : Host) (t : Turn) : (h.perform t).console = h.consoleAfter t := by
  rw [← console_run]
  unfold perform
  split
  · exact (beside_alert _ _).console
  · rfl

/-! ### Processors -/

/-- A turn that begins no request, or one that has nothing to do with processors. -/
theorem rewires_of_eq {processors : Table Nat} (creates : ∀ origin config, t ≠ .begin origin (.create config))
    (downs : ∀ origin i, t ≠ .begin origin (.shutDown i)) (same : processors = h.console.processors) :
    Rewires h t processors := by
  rw [same]
  exact .same creates fun origin i e hturn => absurd hturn (downs origin i)

/-- Every turn changes the processors in one of the ways that `Rewires` lists. -/
theorem rewires_perform (h : Host) (t : Turn) : Rewires h t (h.perform t).console.processors := by
  have told : ∀ text? : Option String, (text?.elim h.console fun text => (h.console.run text).1).processors =
      h.console.processors := by
    intro text?
    cases text? <;> rfl
  rw [console_perform]
  -- only a new engine and a first shutdown change the processors
  cases t with
  | begin origin request =>
    cases request with
    | create config => exact .created rfl
    | shutDown i =>
      rw [consoleAfter]
      rcases he : h.engines[i]? with _ | e
      · refine .same (by simp) fun _ j e hturn hj => ?_
        cases hturn
        rw [he] at hj
        cases hj
      · by_cases down : e.isShutDown
        · simp only [if_pos down]
          refine .same (by simp) fun _ j e' hturn hj => ?_
          cases hturn
          rw [he] at hj
          cases hj
          exact down
        · simp only [if_neg down]
          exact .detached rfl he (by simpa using down)
    | operate i operation => exact rewires_of_eq (by simp) (by simp) (told _)
    | _ => exact rewires_of_eq (by simp) (by simp) rfl
  | resume origin i stage reply => exact rewires_of_eq (by simp) (by simp) (told _)
  | _ => exact rewires_of_eq (by simp) (by simp) rfl

/-! ### The newest engine -/

/-- An engine is shut down by the turn that is its teardown, and by no other. -/
theorem isShutDown_perform (he : h.engines[i]? = some e) (he' : (h.perform t).engines[i]? = some e') :
    e'.isShutDown = e.isShutDown ∨ ∃ origin, t = .begin origin (.shutDown i) := by
  have becomes := becomes_perform h t i
  generalize (h.perform t).engines[i]? = after at becomes he'
  -- of the ways a turn changes an engine only the shutdown sets the flag
  cases becomes with
  | stretch hs =>
    cases he'
    exact .inl (settled_of_stretch he hs).2.2.1
  | moved he'' _ _ | released he'' _ =>
    rw [he] at he''
    cases he''
    cases he'
    exact .inl rfl
  | shutDown _ hturn _ => exact .inr ⟨_, hturn⟩
  | created absent _ =>
    rw [he] at absent
    cases absent
  | same _ _ =>
    rw [he] at he'
    cases he'
    exact .inl rfl

/-- An engine that there is after a turn was there before, set to the same, or the turn has created it. -/
theorem exists_before (he' : (h.perform t).engines[i]? = some e') :
    (∃ e, h.engines[i]? = some e ∧ e.config = e'.config) ∨
      h.engines[i]? = none ∧ ∃ origin, t = .begin origin (.create e'.config) := by
  rcases he : h.engines[i]? with _ | e
  · have becomes := becomes_perform h t i
    generalize (h.perform t).engines[i]? = after at becomes he'
    -- an engine that was not there before can only be a new one
    cases becomes with
    | created _ hturn =>
      cases he'
      exact .inr ⟨rfl, _, hturn⟩
    | stretch hs =>
      obtain ⟨e, he'', -⟩ := stretch?_eq_some_iff.mp hs
      rw [he] at he''
      cases he''
    | moved he'' _ _ | shutDown he'' _ _ | released he'' _ =>
      rw [he] at he''
      cases he''
    | same _ _ =>
      rw [he] at he'
      cases he'
  · obtain ⟨e'', he'', hconfig, -⟩ := exists_perform he t
    rw [he'] at he''
    cases he''
    exact .inl ⟨e, rfl, hconfig.symm⟩

/-- A turn that neither shuts down the newest engine of an owner nor creates one leaves it the newest. -/
theorem IsNewest.perform {owner : String} (newest : h.IsNewest owner i)
    (creates : ∀ origin config, t = .begin origin (.create config) → config.owner ≠ owner)
    (downs : ∀ origin, t ≠ .begin origin (.shutDown i)) : (h.perform t).IsNewest owner i := by
  obtain ⟨e, he, howner, up, hlast⟩ := newest
  obtain ⟨e', he', hconfig, -⟩ := exists_perform he t
  have hdown : e'.isShutDown = e.isShutDown :=
    (isShutDown_perform he he').resolve_right fun ⟨origin, hturn⟩ => downs origin hturn
  refine ⟨e', he', by rw [hconfig, howner], by rw [hdown, up], fun j e'' he'' howner'' => ?_⟩
  obtain ⟨before, hbefore, hsame⟩ | ⟨-, origin, hturn⟩ := exists_before he''
  · exact hlast j before hbefore (by rw [hsame, howner''])
  · exact absurd howner'' (creates origin _ hturn)

/-- A new engine is the newest one of its owner. -/
theorem isNewest_create (h : Host) (origin : Origin) (config : Config) :
    (h.perform (.begin origin (.create config))).IsNewest config.owner h.engines.length := by
  let created : Engine := { config }
  have hengines : (h.perform (.begin origin (.create config))).engines = h.engines ++ [created] := by
    rw [engines_perform, run, begin, (beside_answer _ origin _).engines]
    rfl
  unfold IsNewest
  rw [hengines]
  refine ⟨created, by simp, rfl, rfl, fun j e he _ => ?_⟩
  have hlt := (List.getElem?_eq_some_iff.mp he).1
  rw [List.length_append, List.length_singleton] at hlt
  omega

/-- A turn keeps it that each owner has one processor, that of its newest engine, as long as that is up. -/
theorem Wired.perform (wired : Wired h) (t : Turn) : Wired (h.perform t) := by
  have rewires := rewires_perform h t
  constructor
  · generalize (h.perform t).console.processors = processors at rewires
    -- inserting replaces the owner's processor, and erasing takes it away, so owners stay distinct
    cases rewires with
    | created _ => exact Table.nodup_keys_insert wired.distinct _ _
    | detached _ _ _ => exact Table.nodup_keys_erase wired.distinct _
    | same _ _ => exact wired.distinct
  · intro owner i hi
    rw [listener?] at hi
    generalize (h.perform t).console.processors = processors at rewires hi
    -- a new engine listens for its owner; a shutdown takes away its owner's processor; what is left listens as
    -- before
    cases rewires with
    | @created origin config hturn =>
      subst hturn
      rw [Table.get?_insert] at hi
      split at hi
      · rename_i howner
        cases hi
        rw [← howner]
        exact isNewest_create h origin config
      · rename_i howner
        refine (wired.newest owner i hi).perform (fun _ _ hturn => ?_) (by simp)
        cases hturn
        exact howner
    | @detached origin a e hturn ha first =>
      subst hturn
      rw [Table.get?_erase] at hi
      split at hi
      · cases hi
      · rename_i howner
        have newest := wired.newest owner i hi
        refine newest.perform (by simp) fun _ hturn => ?_
        -- the engine torn down is set to another owner
        cases hturn
        obtain ⟨e', he', howner', -⟩ := newest
        rw [ha] at he'
        cases he'
        exact howner howner'
    | same creates down =>
      have newest := wired.newest owner i hi
      refine newest.perform (fun origin config hturn => absurd hturn (creates origin config))
        fun origin hturn => ?_
      obtain ⟨e, he, -, up, -⟩ := newest
      have hdown := down origin i e hturn he
      rw [up] at hdown
      cases hdown

/-! ### The whole trace -/

section

variable {latency : Nat} {rules : List Rule} {draws : Draws} {config : Config} {h' : Host} {past : List Taken}
  {s : Taken} {owner : String}

theorem Step.processors_of_none (step : Step h none h') : h'.console.processors = h.console.processors := by
  cases step <;> rfl

theorem Step.console_of_some (step : Step h (some s) h') : s.host.console = h.console := by
  cases step with
  | turn _ _ => rfl

/-- How the console is wired depends on its processors and the engines alone. -/
theorem Wired.of_same (wired : Wired h) (processors : h'.console.processors = h.console.processors)
    (engines : h'.engines = h.engines) : Wired h' := by
  refine ⟨by rw [processors]; exact wired.distinct, fun owner i hi => ?_⟩
  rw [listener?, processors] at hi
  rw [IsNewest, engines]
  exact wired.newest owner i hi

/-- At the start the one engine there is listens for its owner. -/
theorem wired_start (latency : Nat) (rules : List Rule) (draws : Draws) (config : Config) :
    Wired (start latency rules draws config) := by
  refine ⟨Table.nodup_keys_insert (t := {}) List.nodup_nil config.owner 0, fun owner i hi => ?_⟩
  have hget : (start latency rules draws config).listener? owner =
      if config.owner = owner then some 0 else none := Table.get?_insert {} config.owner owner 0
  rw [hget] at hi
  split at hi
  · rename_i howner
    cases hi
    refine ⟨{ config }, rfl, howner, rfl, fun j e he _ => ?_⟩
    have hlt : j < 1 := (List.getElem?_eq_some_iff.mp he).1
    omega
  · cases hi

/-- In every trace, the processors are those of the newest engines. -/
theorem Trace.wired (trace : Trace (start latency rules draws config) past h) : Wired h := by
  induction trace with
  | refl => exact wired_start _ _ _ _
  | @tail past h h' taken trace step ih =>
    cases taken with
    | none => exact ih.of_same step.processors_of_none step.engines_of_none
    | some s =>
      obtain ⟨rfl, -⟩ := step.of_some
      have before := ih.of_same (congrArg _ step.console_of_some) step.engines_of_some.1
      exact before.perform s.turn

theorem Trace.wired_of_mem (trace : Trace (start latency rules draws config) past h) (hs : s ∈ past) :
    Wired s.host := by
  obtain ⟨recent, older, rfl⟩ := List.append_of_mem hs
  obtain ⟨before, after, earlier, step, -⟩ := trace.cut rfl
  exact earlier.wired.of_same (congrArg _ step.console_of_some) step.engines_of_some.1

/-! ### Lines -/

/-- No two owners have the same engine for a processor. -/
theorem Wired.nodup_serving (wired : Wired h) : h.console.serving.Nodup := by
  refine List.Nodup.map_on ?_ (List.Nodup.of_map _ wired.distinct)
  rintro ⟨owner, i⟩ hi ⟨owner', j⟩ hj (rfl : i = j)
  obtain ⟨e, he, howner, -⟩ := wired.newest owner i (Table.get?_of_mem wired.distinct hi)
  obtain ⟨e', he', howner', -⟩ := wired.newest owner' i (Table.get?_of_mem wired.distinct hj)
  rw [he] at he'
  cases he'
  rw [← howner, ← howner']

theorem mem_serving_of_listener? (listens : h.listener? owner = some i) : i ∈ h.console.serving :=
  List.mem_map_of_mem (Table.mem_of_get? listens)

/-- The fire that one of the engines takes a line for. -/
theorem filterMap_firesOf {engines : List Nat} (nodup : engines.Nodup) (line : String) :
    (h.firesOf engines line).filterMap (fun f => if f.1 = i then some f.2 else none) =
      if i ∈ engines then (h.hears? i line).toList else [] := by
  induction engines with
  | nil => rfl
  | cons j engines ih =>
    obtain ⟨hj, nodup⟩ := List.nodup_cons.mp nodup
    have hcons : h.firesOf (j :: engines) line =
        (h.hears? j line).toList.map (j, ·) ++ h.firesOf engines line := by simp [firesOf]
    rw [hcons, List.filterMap_append, ih nodup, List.filterMap_map]
    by_cases hij : j = i
    · subst hij
      simp [hj]
    · simp [hij, Ne.symm hij]

/-- What is heard in a turn is read off the lines that it puts out. -/
theorem heard_of_emits {lines : List String} (emits : t.emits? = some lines) : h.heard t = h.fires lines := by
  unfold Turn.emits? at emits
  split at emits
  · cases emits
    rfl
  · cases emits
    rfl
  · cases emits

/-- An engine that listens, and that somebody holds on to, takes every line once for the fire it tells of. -/
theorem Wired.heardBy_of_emits (wired : Wired s.host) {lines : List String}
    (emits : s.turn.emits? = some lines) (listens : s.host.listener? owner = some i) (alive : s.host.isAlive i) :
    s.heardBy i = (lines.filterMap Fire.ofLine?).reverse := by
  have nodup : s.host.listeners.Nodup := wired.nodup_serving.filter _
  have hmem : i ∈ s.host.listeners := List.mem_filter.mpr ⟨mem_serving_of_listener? listens, alive⟩
  obtain ⟨e, he, -, up, -⟩ := wired.newest owner i listens
  have hhears : ∀ line, s.host.hears? i line = Fire.ofLine? line := by
    intro line
    rw [hears?, he]
    simp [up]
  -- no engine listens twice, so it hears each line once
  have hone : ∀ line, (s.host.firesOf s.host.listeners line).filterMap
      (fun f => if f.1 = i then some f.2 else none) = (Fire.ofLine? line).toList := by
    intro line
    rw [filterMap_firesOf nodup, if_pos hmem, hhears]
  rw [Taken.heardBy, List.filterMap_reverse, heard_of_emits emits, fires, List.filterMap_flatMap]
  simp only [hone]
  rw [← List.filterMap_eq_flatMap_toList]

end

end Host

end Scoreboard
