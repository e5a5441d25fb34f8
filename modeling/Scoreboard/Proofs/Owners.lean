import Scoreboard.Proofs.Host.Hops
import Scoreboard.Proofs.Host.Processors

/-!
# Teardown among engines of one console

A console knows its processors by owner, so teardown goes by owner too. Main statement
(`othersSpared_of_trace`): in every trace, whatever engines there are and whatever owners they are set to, the
first teardown of an engine takes away whoever listens under its owner, which is the newest engine set to it,
and every later one nobody. Every engine of another owner goes on hearing each line once and having the
callbacks of its triggers run, until its owner is dealt with in turn (`OthersSpared`).

Where two engines are set to the same owner, the teardown of the older one leaves the newer one without
lines (`detaches_newer`).
-/

namespace Scoreboard.Host

/-- Whether a turn deals with the processor of an owner: it creates an engine that is set to it, or tears one
down. -/
def Taken.DealsWith (owner : String) (s : Taken) : Prop :=
  (∃ origin config, s.turn = .begin origin (.create config) ∧ config.owner = owner) ∨
    ∃ origin i e, s.turn = .begin origin (.shutDown i) ∧ s.host.engines[i]? = some e ∧ e.config.owner = owner

/-- Whether every teardown has spared the engines of other owners: they listen, hear and have their callbacks run as
if it had not happened. -/
structure OthersSpared (past : List Taken) (h : Host) : Prop where
  /-- Who listens under an owner is the newest engine that is set to it, and has not been torn down. -/
  newest : ∀ s ∈ past, ∀ owner b, s.host.listener? owner = some b → s.host.IsNewest owner b
  /-- The first teardown of an engine takes away who listens under its owner and nobody else, and a later one
  takes away nobody. -/
  detaches : ∀ s ∈ past, ∀ a e, s.TearsDown a e → ∀ owner, (s.host.perform s.turn).listener? owner =
    if e.isShutDown = false ∧ e.config.owner = owner then none else s.host.listener? owner
  /-- An engine that has listened under another owner, or through a later teardown, hears every line afterwards,
  each once, until its owner is dealt with. -/
  hears : ∀ recent s older a e owner b, past = recent ++ s :: older → s.TearsDown a e →
    s.host.listener? owner = some b → (e.isShutDown = false → e.config.owner ≠ owner) →
      (∀ s' ∈ recent, ¬s'.DealsWith owner) → ∀ s' ∈ recent, ∀ lines, s'.turn.emits? = some lines →
        s'.host.isAlive b → s'.heardBy b = (lines.filterMap Fire.ofLine?).reverse
  /-- When none of its fires is on its way any more, the callbacks of the triggers bound by then have run for each
  fire that it has heard since or that was waiting. -/
  fires : ∀ recent s older a e b, past = recent ++ s :: older → s.TearsDown a e → ¬h.isHopping b →
    s.host.boundAmong b ((recent.flatMap (Taken.heardBy b) : List Fire) + s.host.waiting b) ≤ ran b recent

variable {latency : Nat} {rules : List Rule} {draws : Draws} {config : Config} {h h' : Host}
  {past recent : List Taken} {s : Taken} {a b : Nat} {e : Engine} {owner : String}

/-! ### One turn -/

/-- A first teardown takes away its owner's processor; a later one takes away nothing. -/
theorem listener?_of_tearsDown (tears : s.TearsDown a e) (owner : String) :
    (s.host.perform s.turn).listener? owner =
      if e.isShutDown = false ∧ e.config.owner = owner then none else s.host.listener? owner := by
  obtain ⟨he, origin, hturn⟩ := tears
  have rewires := rewires_perform s.host s.turn
  rw [listener?]
  generalize (s.host.perform s.turn).console.processors = processors at rewires
  cases rewires with
  | created hcreate =>
    rw [hturn] at hcreate
    cases hcreate
  | detached hdown he' first =>
    rw [hturn] at hdown
    cases hdown
    rw [he] at he'
    cases he'
    rw [Table.get?_erase]
    simp [first, listener?]
  | same _ down => simp [down origin a e hturn he, listener?]

/-- A turn that does not deal with an owner leaves its listener. -/
theorem listener?_perform (spares : ¬s.DealsWith owner) :
    (s.host.perform s.turn).listener? owner = s.host.listener? owner := by
  have rewires := rewires_perform s.host s.turn
  rw [listener?]
  generalize (s.host.perform s.turn).console.processors = processors at rewires
  cases rewires with
  | @created origin config hturn =>
    rw [Table.get?_insert, if_neg fun howner => spares (.inl ⟨origin, config, hturn, howner⟩)]
    rfl
  | @detached origin i e hturn he _ =>
    rw [Table.get?_erase, if_neg fun howner => spares (.inr ⟨origin, i, e, hturn, he, howner⟩)]
    rfl
  | same _ _ => rfl

/-! ### The whole trace -/

/-- An owner's listener stays as long as no turn deals with the owner. -/
theorem Trace.listener?_eq (trace : Trace h recent h') (spares : ∀ s ∈ recent, ¬s.DealsWith owner) :
    h'.listener? owner = h.listener? owner := by
  induction trace with
  | refl => rfl
  | @tail recent h' h'' taken trace step ih =>
    cases taken with
    | none =>
      rw [listener?, step.processors_of_none]
      exact ih spares
    | some s =>
      obtain ⟨rfl, -⟩ := step.of_some
      rw [listener?_perform (spares s List.mem_cons_self), listener?, step.console_of_some]
      exact ih fun s' hs' => spares s' (List.mem_cons_of_mem s hs')

/-- In between, too, an owner that nobody deals with has the listener of the beginning. -/
theorem Trace.listener?_of_mem (trace : Trace h recent h') (spares : ∀ s ∈ recent, ¬s.DealsWith owner)
    (hs : s ∈ recent) : s.host.listener? owner = h.listener? owner := by
  obtain ⟨newer, between, rfl⟩ := List.append_of_mem hs
  obtain ⟨before, after, earlier, step, -⟩ := trace.cut rfl
  rw [listener?, step.console_of_some]
  exact earlier.listener?_eq fun s' hs' => spares s' (List.mem_append_right newer (List.mem_cons_of_mem s hs'))

/-- A teardown neither hears nor runs anything, so what is counted from before it is counted from after it. -/
theorem Trace.ran_of_tearsDown (trace : Trace (start latency rules draws config) (recent ++ s :: past) h)
    (tears : s.TearsDown a e) (quiet : ¬h.isHopping b) :
    s.host.boundAmong b ((recent.flatMap (Taken.heardBy b) : List Fire) + s.host.waiting b) ≤ ran b recent := by
  obtain ⟨before, after, earlier, step, later⟩ := trace.cut rfl
  obtain ⟨-, origin, hturn⟩ := tears
  have hran := (earlier.tail step).ran_of_bound later quiet (i := b)
  rw [step.of_some.1, boundAmong_of_memory? (memory?_perform_of_shutDown hturn b), waiting,
    agenda_perform_of_shutDown hturn] at hran
  exact hran

/-- In every trace, a teardown detaches nobody but who listens under the owner of the engine. -/
theorem othersSpared_of_trace (trace : Trace (start latency rules draws config) past h) : OthersSpared past h where
  newest s hs := (trace.wired_of_mem hs).newest
  detaches s _ a e tears := listener?_of_tearsDown tears
  hears recent s older a e owner b hpast tears listens other spares s' hs' lines emits alive := by
    obtain ⟨before, after, -, step, later⟩ := trace.cut hpast
    have hafter : after.listener? owner = some b := by
      rw [step.of_some.1, listener?_of_tearsDown tears, if_neg fun ⟨first, howner⟩ => other first howner]
      exact listens
    have hmem : s' ∈ past := by
      rw [hpast]
      exact List.mem_append_left _ hs'
    have hstill : s'.host.listener? owner = some b := by rw [later.listener?_of_mem spares hs', hafter]
    exact (trace.wired_of_mem hmem).heardBy_of_emits emits hstill alive
  fires recent s older a e b hpast tears quiet := by
    subst hpast
    exact trace.ran_of_tearsDown tears quiet

/-- A run in which the older of two engines of different owners is torn down: the newer one hears a line and has
its callback run. -/
theorem othersSpared_of_two_owners : ∃ past h, Trace (start 0 [] {} {}) past h ∧ OthersSpared past h ∧
    h.listener? "ScoreboardCore" = none ∧ h.listener? "Second" = some 1 ∧
      h.runs 1 = [(⟨"Alice", "tri_tQaBe_AAAAAA", 3⟩, "greet")] := by
  let greet := Request.operate 1 (.bind ⟨"demo", "demo"⟩ { id := "greet" })
  let use := Request.emit ["[Alice: Triggered [tri_tQaBe_AAAAAA] (set value to 3)]"]
  have run : (((((start 0 [] {} {}).drive 50 (.create { owner := "Second" })).bind (drive 50 · greet)).bind
      (drive 50 · (.shutDown 0))).bind (drive 50 · use)).map (fun h => (h.listener? "ScoreboardCore",
        h.listener? "Second", h.runs 1)) =
          some (none, some 1, [(⟨"Alice", "tri_tQaBe_AAAAAA", 3⟩, "greet")]) := by decide +kernel
  obtain ⟨h, hdriven, hend⟩ := Option.map_eq_some_iff.mp run
  obtain ⟨hfirst, hsecond, hran⟩ : h.listener? "ScoreboardCore" = none ∧ h.listener? "Second" = some 1 ∧
      h.runs 1 = [(⟨"Alice", "tri_tQaBe_AAAAAA", 3⟩, "greet")] := by
    simpa using hend
  obtain ⟨down, hdriven, hused⟩ := Option.bind_eq_some_iff.mp hdriven
  obtain ⟨bound, hdriven, hdown⟩ := Option.bind_eq_some_iff.mp hdriven
  obtain ⟨created, hcreated, hbound⟩ := Option.bind_eq_some_iff.mp hdriven
  obtain ⟨past, trace⟩ := (((steps_of_drive hcreated).trans (steps_of_drive hbound)).trans
    (steps_of_drive hdown)).trans (steps_of_drive hused)
  exact ⟨past, h, trace, othersSpared_of_trace trace, hfirst, hsecond, hran⟩

/-- Two engines of one owner: the newer one listens and its trigger is bound, the older one is torn down, and no
line reaches the newer one any more. -/
theorem detaches_newer : ∃ before down after, Steps (start 0 [] {} {}) before ∧
    before.listener? "ScoreboardCore" = some 1 ∧ before.isAlive 1 ∧
      (before.bound? 1 "tri_tQaBe_AAAAAA").isSome ∧ before.drive 50 (.shutDown 0) = some down ∧
        down.listener? "ScoreboardCore" = none ∧ down.isAlive 1 ∧
          down.drive 50 (.emit ["[Alice: Triggered [tri_tQaBe_AAAAAA] (set value to 3)]"]) = some after ∧
            after.history.filterMap (Event.heardBy? 1) = [] := by
  let greet := Request.operate 1 (.bind ⟨"demo", "demo"⟩ { id := "greet" })
  let use := Request.emit ["[Alice: Triggered [tri_tQaBe_AAAAAA] (set value to 3)]"]
  have run : (((start 0 [] {} {}).drive 50 (.create {})).bind (drive 50 · greet)).bind (fun before =>
      (before.drive 50 (.shutDown 0)).bind fun down => (down.drive 50 use).map fun after =>
        ((before.listener? "ScoreboardCore", before.isAlive 1, (before.bound? 1 "tri_tQaBe_AAAAAA").isSome),
          (down.listener? "ScoreboardCore", down.isAlive 1), after.history.filterMap (Event.heardBy? 1))) =
            some ((some 1, true, true), (none, true), []) := by decide +kernel
  obtain ⟨before, hdriven, run⟩ := Option.bind_eq_some_iff.mp run
  obtain ⟨down, hdown, run⟩ := Option.bind_eq_some_iff.mp run
  obtain ⟨after, hused, hend⟩ := Option.map_eq_some_iff.mp run
  obtain ⟨⟨hlistens, halive, hbound⟩, ⟨hgone, hstill⟩, hdeaf⟩ :
      (before.listener? "ScoreboardCore" = some 1 ∧ before.isAlive 1 ∧
        (before.bound? 1 "tri_tQaBe_AAAAAA").isSome) ∧
          (down.listener? "ScoreboardCore" = none ∧ down.isAlive 1) ∧
            after.history.filterMap (Event.heardBy? 1) = [] := by simpa only [Prod.mk.injEq] using hend
  obtain ⟨created, hcreated, hgreeted⟩ := Option.bind_eq_some_iff.mp hdriven
  exact ⟨before, down, after, (steps_of_drive hcreated).trans (steps_of_drive hgreeted), hlistens, halive, hbound,
    hdown, hgone, hstill, hused, hdeaf⟩

end Scoreboard.Host
