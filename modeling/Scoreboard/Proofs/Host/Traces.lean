import Mathlib.Tactic.Abel
import Scoreboard.Proofs.Host.Engines

/-!
# What a trace adds up to

What a turn does, summed up over a trace: the journal holds the deeds of the turns taken and no others
(`Trace.history_eq`), and work is neither lost nor done twice: the turns of a kind that nobody asks for,
those taken and those that wait, are the ones that the turns taken have left (`Trace.conservation`). So
every wait for a reply goes back to a turn that has sent commands (`Trace.asked`).
-/

namespace Scoreboard.Host

namespace Taken

/-- The deeds of a turn that is taken. -/
def deeds (s : Taken) : List Event := s.host.deeds s.turn

/-- The work that a turn leaves that is taken. -/
def leaves (s : Taken) : List Turn := s.host.leaves s.turn

/-- The stretch that a turn is that is taken. -/
def stretch? (s : Taken) : Option (Origin × Nat × Outcome) := s.host.stretch? s.turn

end Taken

/-! ### One step -/

/-- A step that is a turn: before it there was one task more. -/
theorem Step.of_some {h h' : Host} {s : Taken} (step : Step h (some s) h') :
    h' = s.host.perform s.turn ∧ s.host.history = h.history ∧
      (∀ i, s.host.memory? i = h.memory? i) ∧
        h.agenda = ([s.turn].filter Turn.isWork : List Turn) + s.host.agenda := by
  cases step with
  | @turn before after t mem _ =>
    refine ⟨rfl, rfl, fun _ => rfl, ?_⟩
    have perm : (h.tasks.map Task.turn).Perm (t.turn :: (before ++ after).map Task.turn) := by
      rw [mem, List.map_append, List.map_cons, List.map_append]
      exact List.perm_middle
    have perm := perm.filter Turn.isWork
    rw [agenda, agenda, Multiset.coe_add, Multiset.coe_eq_coe, ← List.filter_append]
    exact perm

/-- To take a task off leaves the engines, and the time. -/
theorem Step.engines_of_some {h h' : Host} {s : Taken} (step : Step h (some s) h') :
    s.host.engines = h.engines ∧ s.host.now = h.now := by
  cases step with
  | turn _ _ => exact ⟨rfl, rfl⟩

/-- A step that is no turn changes no engine. -/
theorem Step.engines_of_none {h h' : Host} (step : Step h none h') : h'.engines = h.engines := by
  cases step <;> rfl

/-- Time does not go back in a step. -/
theorem Step.now_le {h h' : Host} {taken : Option Taken} (step : Step h taken h') : h.now ≤ h'.now := by
  cases step with
  | turn _ _ =>
    rw [now_perform]
  | pass later _ => exact later
  | _ => exact Nat.le_refl _

/-- A step that is no turn adds at most something asked for in the foreground. -/
theorem Step.of_none {h h' : Host} (step : Step h none h') :
    h'.history = h.history ∧ (∀ i, h'.memory? i = h.memory? i) ∧
      (h'.agenda = h.agenda ∨ ∃ request, h'.agenda = .begin .foreground request ::ₘ h.agenda) := by
  cases step with
  | pass _ _ => exact ⟨rfl, fun _ => rfl, .inl rfl⟩
  | respond _ => exact ⟨rfl, fun _ => rfl, .inl rfl⟩
  | delay _ => exact ⟨rfl, fun _ => rfl, .inl rfl⟩
  | ask request =>
    have hadds := adds_schedule h h.now (.begin .foreground request) rfl
    exact ⟨hadds.history, fun _ => rfl, .inr ⟨request, hadds.agenda⟩⟩

/-- A step without a turn leaves no wait for a reply. -/
theorem Step.resume_mem_agenda {h h' : Host} (step : Step h none h') {origin : Origin} {i : Nat}
    {stage : Stage} {reply : String} (hmem : .resume origin i stage reply ∈ h'.agenda) :
    .resume origin i stage reply ∈ h.agenda := by
  obtain ⟨_, _, hagenda | ⟨request, hagenda⟩⟩ := step.of_none
  · rwa [hagenda] at hmem
  · rw [hagenda, Multiset.mem_cons] at hmem
    exact hmem.resolve_left (by simp)

/-! ### A whole trace -/

variable {latency : Nat} {rules : List Rule} {draws : Draws} {config : Config} {h h' : Host}
  {past : List Taken} {s : Taken}

/-- A trace can be cut at each of its turns. -/
theorem Trace.cut {a : Host} {recent older : List Taken} (trace : Trace a past h)
    (hpast : past = recent ++ s :: older) :
    ∃ before after, Trace a older before ∧ Step before (some s) after ∧ Trace after recent h := by
  induction trace generalizing recent with
  | refl => exact absurd hpast (by simp)
  | @tail past h h' taken trace step ih =>
    cases taken with
    | none =>
      obtain ⟨before, after, hbefore, hstep, hafter⟩ := ih hpast
      exact ⟨before, after, hbefore, hstep, hafter.tail step⟩
    | some last =>
      -- either the last turn is meant, or one of those before it
      cases recent with
      | nil =>
        obtain ⟨rfl, rfl⟩ := List.cons.inj hpast
        exact ⟨h, h', trace, step, .refl⟩
      | cons last' recent =>
        obtain ⟨rfl, rfl⟩ := List.cons.inj hpast
        obtain ⟨before, after, hbefore, hstep, hafter⟩ := ih rfl
        exact ⟨before, after, hbefore, hstep, hafter.tail step⟩

/-- What holds of new engines and is kept by every step holds of an engine in every trace. -/
theorem Trace.engine_induction {i : Nat} {P : List Taken → Host → Engine → Prop}
    (new : ∀ past h config, P past h { config })
    (none : ∀ {past h h' e}, Step h none h' → P past h e → P past h' e)
    (turn : ∀ {past h h' s e e'}, Trace (start latency rules draws config) past h → Step h (some s) h' →
      h.engines[i]? = some e → h'.engines[i]? = some e' → P past h e → P (s :: past) h' e')
    (trace : Trace (start latency rules draws config) past h) {e : Engine} (he : h.engines[i]? = some e) :
    P past h e := by
  -- an engine is there from the start, is new with this turn, or was there before it
  induction trace generalizing e with
  | refl =>
    match i with
    | 0 =>
      cases he
      exact new _ _ _
    | i + 1 => cases he
  | @tail past h h' taken trace step ih =>
    cases taken with
    | none =>
      rw [step.engines_of_none] at he
      exact none step (ih he)
    | some s =>
      rcases hbefore : h.engines[i]? with _ | before
      · -- there was no engine, so this is a new one
        rw [← step.engines_of_some.1] at hbefore
        obtain hnone | ⟨config, hnew⟩ := getElem?_perform_of_none hbefore s.turn
        · rw [← step.of_some.1, he] at hnone
          cases hnone
        · rw [← step.of_some.1, he] at hnew
          cases hnew
          exact new _ _ _
      · exact turn trace step hbefore he (ih hbefore)

/-- An engine stays, set to the same, and neither its teardown nor its release is undone. -/
theorem Trace.exists_engine {a : Host} {i : Nat} {e : Engine} (trace : Trace a past h)
    (he : a.engines[i]? = some e) : ∃ e', h.engines[i]? = some e' ∧ e'.config = e.config ∧
      (e.isShutDown → e'.isShutDown) ∧ (e'.isHeld → e.isHeld) := by
  induction trace with
  | refl => exact ⟨e, he, rfl, id, id⟩
  | @tail past h h' taken trace step ih =>
    obtain ⟨e', he', hconfig, hdown, hheld⟩ := ih
    cases taken with
    | none =>
      rw [← step.engines_of_none] at he'
      exact ⟨e', he', hconfig, hdown, hheld⟩
    | some s =>
      rw [← step.engines_of_some.1] at he'
      obtain ⟨e'', he'', hconfig', -, hdown', hheld'⟩ := exists_perform he' s.turn
      rw [← step.of_some.1] at he''
      exact ⟨e'', he'', hconfig'.trans hconfig, hdown' ∘ hdown, hheld ∘ hheld'⟩

/-- An engine does not go away. -/
theorem Trace.isSome_engine {a : Host} {i : Nat} (trace : Trace a past h) (known : (a.engines[i]?).isSome) :
    (h.engines[i]?).isSome := by
  obtain ⟨e, he⟩ := Option.isSome_iff_exists.mp known
  obtain ⟨e', he', -⟩ := trace.exists_engine he
  exact Option.isSome_iff_exists.mpr ⟨e', he'⟩

/-- What every turn keeps of what an engine remembers, any number of steps keep. -/
theorem Steps.of_memory? {i : Nat} {P : Option Engine → Prop}
    (turn : ∀ (h : Host) t, P (h.memory? i) → P ((h.perform t).memory? i)) (steps : Steps h h')
    (before : P (h.memory? i)) : P (h'.memory? i) := by
  obtain ⟨recent, later⟩ := steps
  induction later with
  | refl => exact before
  | @tail recent h' h'' taken later step ih =>
    cases taken with
    | none =>
      rw [step.of_none.2.1]
      exact ih
    | some s =>
      obtain ⟨rfl, -, memory, -⟩ := step.of_some
      rw [← memory] at ih
      exact turn s.host s.turn ih

theorem Trace.now_le {a : Host} (trace : Trace a past h) : a.now ≤ h.now := by
  induction trace with
  | refl => exact Nat.le_refl _
  | tail _ step ih => exact Nat.le_trans ih step.now_le

/-- A turn is taken no later than now. -/
theorem Trace.now_le_of_mem {a : Host} (trace : Trace a past h) (hs : s ∈ past) : s.host.now ≤ h.now := by
  obtain ⟨recent, older, hpast⟩ := List.append_of_mem hs
  obtain ⟨before, after, -, step, later⟩ := trace.cut hpast
  rw [step.engines_of_some.2]
  exact Nat.le_trans step.now_le later.now_le

/-- The deeds in the journal are those of the turns taken, in order, after the ones that were there. -/
theorem Trace.history_eq {a : Host} (trace : Trace a past h) :
    h.history = past.flatMap Taken.deeds ++ a.history := by
  induction trace with
  | refl => rfl
  | @tail past h h' taken trace step ih =>
    -- only a turn adds deeds
    cases taken with
    | none => exact step.of_none.1.trans ih
    | some s =>
      obtain ⟨rfl, history, _, _⟩ := step.of_some
      rw [(adds_perform s.host s.turn).history, history, ih, ← List.append_assoc]
      rfl

/-- A kind of work that only a turn can leave. -/
structure Left {β : Type} (kind : Turn → Option β) : Prop where
  attend : ∀ i, kind (.attend i) = none
  foreground : ∀ request, kind (.begin .foreground request) = none

/-- Work of a kind that only turns leave is done once or waits. -/
theorem Trace.conservation {β : Type} {kind : Turn → Option β} (left : Left kind) {a : Host}
    (trace : Trace a past h) :
    ((past.filterMap (kind ·.turn) : List β) : Multiset β) + h.agenda.filterMap kind =
      ((past.flatMap Taken.leaves).filterMap kind : List β) + a.agenda.filterMap kind := by
  induction trace with
  | refl => rfl
  | @tail past h h' taken trace step ih =>
    cases taken with
    | none =>
      -- what is asked for in the foreground is not of the kind
      obtain hagenda | ⟨request, hagenda⟩ := step.of_none.2.2
      · rw [hagenda]
        exact ih
      · rw [hagenda, Multiset.filterMap_cons_none _ _ (left.foreground request)]
        exact ih
    | some s =>
      obtain ⟨rfl, _, _, hagenda⟩ := step.of_some
      -- the turn taken has left the agenda, if it was work
      have hturn : h.agenda.filterMap kind =
          ([s.turn].filterMap kind : List β) + s.host.agenda.filterMap kind := by
        rw [hagenda, Multiset.filterMap_add, Multiset.filterMap_coe]
        congr 2
        cases s.turn with
        | attend i => simp [Turn.isWork, left.attend]
        | _ => rfl
      have hadds := agenda_perform s.host s.turn
      have hpast : ((some s).toList ++ past).filterMap (kind ·.turn) =
          [s.turn].filterMap kind ++ past.filterMap (kind ·.turn) := by
        cases hk : kind s.turn <;> simp [hk]
      have hleaves : (((some s).toList ++ past).flatMap Taken.leaves).filterMap kind =
          (s.host.leaves s.turn).filterMap kind ++ (past.flatMap Taken.leaves).filterMap kind := by
        simp [Taken.leaves]
      rw [hadds, Multiset.filterMap_add, Multiset.filterMap_coe, hpast, hleaves, ← Multiset.coe_add,
        ← Multiset.coe_add, add_assoc, add_assoc, ← ih, hturn]
      abel

/-- A trace from the start has no deeds and no work but those of its turns. -/
theorem Trace.conservation_of_start {β : Type} {kind : Turn → Option β} (left : Left kind)
    (trace : Trace (start latency rules draws config) past h) :
    ((past.filterMap (kind ·.turn) : List β) : Multiset β) + h.agenda.filterMap kind =
      ((past.flatMap Taken.leaves).filterMap kind : List β) := by
  have h := trace.conservation left
  rwa [show (start latency rules draws config).agenda = 0 from rfl, Multiset.filterMap_zero,
    add_zero] at h

/-- From the start, the journal has the deeds of the turns taken and no others. -/
theorem Trace.history_of_start (trace : Trace (start latency rules draws config) past h) :
    h.history = past.flatMap Taken.deeds := by
  have h := trace.history_eq
  rwa [show (start latency rules draws config).history = [] from rfl, List.append_nil] at h

/-- Work that is handed on by stretches only: it is enough to know which stretch hands on which. -/
theorem filterMap_leaves_of_stretch {β : Type} (kind : Turn → Option β)
    (wake : ∀ origin, kind (.wake origin) = none)
    (beginning : ∀ origin request, kind (.begin origin request) = none) {s : Taken} {left : Option β}
    (only : ∀ origin i o t b, s.stretch? = some (origin, i, o) → t ∈ s.host.handsOn origin i o →
      kind t = some b → left = some b)
    (all : ∀ b, left = some b → ∃ origin i o, s.stretch? = some (origin, i, o) ∧
      (s.host.handsOn origin i o).filterMap kind = [b]) :
    s.leaves.filterMap kind = left.toList := by
  have hheard := filterMap_dispatching kind s.host s.turn fun f => beginning .line _
  have hfollow := filterMap_follow kind wake (fun _ _ => beginning _ _) (fun _ => beginning _ _)
    s.host s.turn
  have hleaves : s.leaves.filterMap kind =
      (s.stretch?.elim [] fun r => s.host.handsOn r.1 r.2.1 r.2.2).filterMap kind := by
    rw [Taken.leaves, leaves, List.filterMap_append, List.filterMap_append, hheard, hfollow,
      List.nil_append, List.append_nil]
    rfl
  rw [hleaves]
  -- a turn that leaves no such work must not be a stretch that hands it on
  cases hleft : left with
  | none =>
    rcases hs : s.stretch? with _ | ⟨origin, i, o⟩
    · rfl
    · rw [Option.elim_some, Option.toList_none, List.filterMap_eq_nil_iff]
      intro t ht
      rcases hk : kind t with _ | b
      · rfl
      · have hb := only origin i o t b hs ht hk
        rw [hleft] at hb
        cases hb
  | some b =>
    obtain ⟨origin, i, o, hs, hb⟩ := all b hleft
    rw [hs, Option.elim_some, hb]
    rfl

/-- Deeds other than hearing a fire are those of the stretch and the turn itself. -/
theorem filterMap_deeds {β : Type} (kind : Event → Option β)
    (accepted : ∀ i fire, kind (.accepted i fire) = none) (s : Taken) :
    s.deeds.filterMap kind = (s.stretch?.elim [] fun r => s.host.sends r.1 r.2.1 r.2.2).filterMap kind ++
      (mark s.turn).filterMap kind := by
  have hheard : ((s.host.heard s.turn).map Event.hearing).reverse.filterMap kind = [] := by
    rw [List.filterMap_eq_nil_iff]
    intro event hevent
    obtain ⟨f, _, rfl⟩ := List.mem_map.mp (List.mem_reverse.mp hevent)
    exact accepted f.1 f.2
  rw [Taken.deeds, deeds, List.append_assoc, List.filterMap_append, List.filterMap_append, hheard,
    List.nil_append]
  rfl

/-- A stretch has no deed but to send something. -/
theorem filterMap_sends {β : Type} (kind : Event → Option β)
    (sent : ∀ i origin stage commands reply, kind (.sent i origin stage commands reply) = none)
    (s : Taken) :
    (s.stretch?.elim [] fun r => s.host.sends r.1 r.2.1 r.2.2).filterMap kind = [] := by
  rcases s.stretch? with _ | ⟨origin, i, o⟩
  · rfl
  · rw [Option.elim_some]
    unfold sends
    split
    · exact List.filterMap_cons_none (sent i origin _ _ _)
    · rfl

/-! ### Engines that are at work exist -/

/-- An engine that remembers something does so after every turn. -/
theorem isSome_memory?_perform {h : Host} {i : Nat} (known : (h.memory? i).isSome) (t : Turn) :
    ((h.perform t).memory? i).isSome := by
  have recalls := recalls_perform h t i
  generalize (h.perform t).memory? i = remembered at recalls
  cases recalls with
  | same elsewhere => exact known
  | _ => rfl

/-- A turn leaves a wait for a reply exactly if it is a stretch that sends something, and waits at the stage that
goes with it. -/
theorem resume_mem_leaves {h : Host} {t : Turn} {origin : Origin} {i : Nat} {stage : Stage}
    {reply : String} : .resume origin i stage reply ∈ h.leaves t ↔
      ∃ o commands, h.stretch? t = some (origin, i, o) ∧ o.next = .send commands stage ∧
        reply = h.console.respond (Command.batch commands) := by
  -- what is heard leaves dispatches, and what follows a turn by itself is no wait for a reply
  have hheard : .resume origin i stage reply ∉ ((h.heard t).map Turn.dispatching).reverse := by
    intro hmem
    obtain ⟨f, _, hf⟩ := List.mem_map.mp (List.mem_reverse.mp hmem)
    cases hf
  have hfollow : .resume origin i stage reply ∉ h.follow t := by
    unfold follow
    split
    · simp
    · simp
    · split <;> simp
    · simp
  rw [leaves, List.mem_append, List.mem_append, or_iff_left hfollow, or_iff_right hheard]
  constructor
  · intro hmem
    rcases hs : h.stretch? t with _ | ⟨origin', j, o⟩
    · rw [hs] at hmem
      cases hmem
    · rw [hs, Option.elim_some] at hmem
      obtain ⟨rfl, rfl, commands, hn, hreply⟩ := resume_mem_handsOn.mp hmem
      exact ⟨o, commands, rfl, hn, hreply⟩
  · rintro ⟨o, commands, hs, hn, hreply⟩
    rw [hs, Option.elim_some]
    exact resume_mem_handsOn.mpr ⟨rfl, rfl, commands, hn, hreply⟩

/-- What a turn sends is what its stretch sends. -/
theorem sent_mem_deeds {s : Taken} {origin : Origin} {i : Nat} {stage : Stage} {commands : List Command}
    {reply : String} : .sent i origin stage commands reply ∈ s.deeds ↔
      ∃ o, s.stretch? = some (origin, i, o) ∧ o.next = .send commands stage ∧
        reply = s.host.console.respond (Command.batch commands) := by
  -- neither to hear a fire nor the mark of a turn is to send something
  have hheard : .sent i origin stage commands reply ∉ ((s.host.heard s.turn).map Event.hearing).reverse := by
    intro hmem
    obtain ⟨f, _, hf⟩ := List.mem_map.mp (List.mem_reverse.mp hmem)
    cases hf
  have hmark : .sent i origin stage commands reply ∉ mark s.turn := by
    unfold mark
    split <;> simp
  rw [Taken.deeds, deeds, List.mem_append, List.mem_append, or_iff_left hmark, or_iff_right hheard]
  constructor
  · intro hmem
    rcases hs : s.stretch? with _ | ⟨origin', j, o⟩
    · rw [Taken.stretch?] at hs
      rw [hs] at hmem
      cases hmem
    · rw [Taken.stretch?] at hs
      rw [hs, Option.elim_some] at hmem
      obtain ⟨rfl, rfl, hn, hreply⟩ := sent_mem_sends.mp hmem
      exact ⟨o, rfl, hn, hreply⟩
  · rintro ⟨o, hs, hn, hreply⟩
    rw [Taken.stretch?] at hs
    rw [hs, Option.elim_some]
    exact sent_mem_sends.mpr ⟨rfl, rfl, hn, hreply⟩

/-- A wait for a reply after a turn is left by the turn or was there. -/
theorem resume_mem_agenda_perform {h : Host} {t : Turn} {origin : Origin} {i : Nat} {stage : Stage}
    {reply : String} (hmem : .resume origin i stage reply ∈ (h.perform t).agenda) :
    .resume origin i stage reply ∈ h.leaves t ∨ .resume origin i stage reply ∈ h.agenda := by
  rw [agenda_perform h t, Multiset.mem_add, Multiset.mem_coe] at hmem
  exact hmem

/-- A wait for a reply is that of an engine that exists, and a turn has left it. -/
theorem Trace.waits (trace : Trace (start latency rules draws config) past h) {origin : Origin} {i : Nat}
    {stage : Stage} {reply : String} (hmem : .resume origin i stage reply ∈ h.agenda) :
    (h.memory? i).isSome ∧ ∃ s ∈ past, .resume origin i stage reply ∈ s.leaves := by
  -- engines do not go away, so the one that has asked is still there
  induction trace with
  | refl => exact absurd hmem (Multiset.notMem_zero _)
  | @tail past h h' taken trace step ih =>
    cases taken with
    | none =>
      rw [step.of_none.2.1]
      exact ih (step.resume_mem_agenda hmem)
    | some s =>
      obtain ⟨rfl, _, memory, hagenda⟩ := step.of_some
      -- the turn is a stretch of the engine and leaves the wait, or the wait was there
      obtain hleaves | hmem := resume_mem_agenda_perform hmem
      · obtain ⟨o, commands, hs, -, -⟩ := resume_mem_leaves.mp hleaves
        rw [memory?_perform_of_stretch hs, if_pos rfl]
        exact ⟨rfl, s, List.mem_cons_self, hleaves⟩
      · have hbefore : .resume origin i stage reply ∈ h.agenda := by
          rw [hagenda]
          exact Multiset.mem_add.mpr (.inr hmem)
        obtain ⟨known, s', hs', hleaves⟩ := ih hbefore
        rw [← memory] at known
        exact ⟨isSome_memory?_perform known s.turn, s', List.mem_cons_of_mem s hs', hleaves⟩

/-- A reply that is taken has been waited for. -/
theorem Trace.asked (trace : Trace (start latency rules draws config) past h)
    (step : Step h (some s) h') {origin : Origin} {i : Nat} {stage : Stage} {reply : String}
    (hturn : s.turn = .resume origin i stage reply) :
    (s.host.memory? i).isSome ∧ ∃ s' ∈ past, .resume origin i stage reply ∈ s'.leaves := by
  obtain ⟨-, -, memory, hagenda⟩ := step.of_some
  rw [memory]
  apply trace.waits
  rw [hagenda, hturn, Multiset.mem_add]
  exact .inl (by simp [Turn.isWork])

/-- A reply that has been taken had been waited for. -/
theorem Trace.asked_of_mem (trace : Trace (start latency rules draws config) past h) (hs : s ∈ past)
    {origin : Origin} {i : Nat} {stage : Stage} {reply : String}
    (hturn : s.turn = .resume origin i stage reply) :
    (s.host.memory? i).isSome ∧ ∃ s' ∈ past, .resume origin i stage reply ∈ s'.leaves := by
  obtain ⟨recent, older, rfl⟩ := List.append_of_mem hs
  obtain ⟨before, after, earlier, step, -⟩ := trace.cut rfl
  obtain ⟨known, s', hs', hleaves⟩ := earlier.asked step hturn
  exact ⟨known, s', List.mem_append_right recent (List.mem_cons_of_mem s hs'), hleaves⟩

/-- A reply that is taken is one that the journal has with the commands that it answers. -/
theorem Trace.sent_of_step (trace : Trace (start latency rules draws config) past h)
    (step : Step h (some s) h') {origin : Origin} {i : Nat} {stage : Stage} {reply : String}
    (hturn : s.turn = .resume origin i stage reply) :
    ∃ commands, .sent i origin stage commands reply ∈ h.history := by
  obtain ⟨-, s', hs', hleaves⟩ := trace.asked step hturn
  obtain ⟨o, commands, hs, hn, hreply⟩ := resume_mem_leaves.mp hleaves
  refine ⟨commands, ?_⟩
  rw [trace.history_of_start]
  exact List.mem_flatMap.mpr ⟨s', hs', sent_mem_deeds.mpr ⟨o, hs, hn, hreply⟩⟩

/-- Counting of a kind over a trace, where each turn has one of it at most. -/
theorem filterMap_flatMap_toList {α β γ : Type} {f : α → List β} {k : β → Option γ} {g : α → Option γ}
    {l : List α} (hfg : ∀ a ∈ l, (f a).filterMap k = (g a).toList) :
    (l.flatMap f).filterMap k = l.filterMap g := by
  induction l with
  | nil => rfl
  | cons a l ih =>
    have hl := ih fun b hb => hfg b (List.mem_cons_of_mem a hb)
    rw [List.flatMap_cons, List.filterMap_append, hfg a List.mem_cons_self, hl]
    cases hg : g a <;> simp [hg]

end Scoreboard.Host
