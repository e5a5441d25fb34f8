import Scoreboard.Proofs.Engine.Stats
import Scoreboard.Proofs.Host.Dialogues
import Scoreboard.Proofs.Host.Processors
import Scoreboard.Proofs.Registrations
import Scoreboard.Proofs.TriggerNames

/-!
# The counters of an engine add up

Main statement (`statsConserved_of_trace`): in every trace, in every state between two turns, each counter of an
engine is the number of the things that it counts, held to 64 bits (`StatsConserved`). Commands are counted when
they go out, so their counter is the number of batches that the console has received from the engine. Triggers,
fires and single scores are counted when the reply is there, so their counters fall behind by what still waits for
a reply, and catch up when nothing is under way.

A counter goes up in the stretches of its engine only, by as much as the stretch counts (`begin_stats`,
`resume_stats`); `Trace.counter` sums this up over a trace. What is then left is to compare the replies taken with
the commands sent, which are the conservation laws of the kinds of waits.
-/

namespace Scoreboard

/-- Whether the console is asked to forget its commands. -/
def Event.forgets : Event → Bool
  | .begun _ .forget => true
  | _ => false

/-- The call for a single score that has sent its command, with the reply to it. -/
def Event.reading? (i : Nat) : Event → Option Reading
  | .sent j origin (.readingScore player objective) _ reply =>
    if j = i then some ⟨origin, player, objective, reply⟩ else none
  | _ => none

/-- The call for a single score that waits for its reply. -/
def Awaited.reading? (i : Nat) : Awaited → Option Reading
  | ⟨j, origin, .readingScore player objective, reply⟩ =>
    if j = i then some ⟨origin, player, objective, reply⟩ else none
  | _ => none

namespace Turn

/-- Whether a turn makes the console forget what it has been told. -/
def forgets : Turn → Bool
  | .begin _ .forget => true
  | _ => false

/-- Whether a turn goes on with something that an engine has begun. -/
def isUnderWay (i : Nat) : Turn → Bool
  | .resume _ j _ _ | .call j _ _ => j = i
  | _ => false

end Turn

namespace Host

/-- The names that calls of an engine wait to be answered with. -/
def namesAwaited (h : Host) (i : Nat) : Multiset String :=
  (h.agenda.filterMap (Turn.naming? i)).bind fun call => call.2

/-- The counters of an engine are the numbers of what they count, held to 64 bits. -/
structure StatsConserved (i : Nat) (past : List Taken) (h : Host) (e : Engine) : Prop where
  /-- The console has received what engines have sent, since it was last asked to forget. -/
  received : h.console.told =
    (h.history.takeWhile fun event => !event.forgets).filterMap Event.text?
  /-- What the engine has sent is counted, a batch once. -/
  commands : e.stats.commandsIssued = UInt64.ofNat (h.history.filterMap (Event.textBy? i)).length
  fullSyncs : e.stats.fullSyncs =
    UInt64.ofNat ((h.history.filterMap (Event.textBy? i)).count "scoreboard players list")
  objectives : e.stats.objectivesRegistered = UInt64.ofNat e.objectives.length
  /-- A bound trigger is counted, or its call still waits for the reply. -/
  triggers : e.stats.triggersRegistered + UInt64.ofNat (h.namesAwaited i).card = UInt64.ofNat e.triggers.size
  /-- The fire of a bound trigger that has been looked up is counted, or the trigger is still being enabled. -/
  fires : e.stats.triggersFired + UInt64.ofNat (h.agenda.filterMap (Turn.enablingOf? i)).card =
    UInt64.ofNat ((lookups i past).filterMap Lookup.found?).length
  /-- A single score that has been asked for is counted, or its call still waits for the reply. -/
  readings : e.stats.singleSyncs + UInt64.ofNat (h.agenda.filterMap (Turn.reading? i)).card =
    UInt64.ofNat (h.history.filterMap (Event.reading? i)).length
  /-- With nothing of the engine under way the counters have caught up, that of the fires with the runs of
  callbacks. -/
  quiet : (∀ t ∈ h.tasks, t.turn.isUnderWay i = false) →
    e.stats.triggersRegistered = UInt64.ofNat e.triggers.size ∧
      e.stats.triggersFired = UInt64.ofNat ((lookups i past).filterMap Lookup.found?).length ∧
        e.stats.triggersFired = UInt64.ofNat (h.history.filterMap (Event.ranFor? i)).length ∧
          e.stats.singleSyncs = UInt64.ofNat (h.history.filterMap (Event.reading? i)).length

/-! ### What the console has received -/

/-- The texts in a turn's deeds are those that its stretch sends. -/
theorem filterMap_deeds_text? (s : Taken) :
    s.deeds.filterMap Event.text? = s.stretch?.elim [] fun r => r.2.2.next.text?.toList := by
  rw [filterMap_deeds_of_sent Event.text? (fun _ _ => rfl) (fun _ _ => rfl) (fun _ _ _ => rfl)]
  rcases s.stretch? with _ | ⟨origin, i, o⟩
  · rfl
  · simp only [Option.elim_some, sends]
    cases o.next <;> rfl

/-- A turn tells the console what it sends, or has it forget everything. -/
theorem told_perform (s : Taken) : (s.host.perform s.turn).console.told =
    if s.turn.forgets then [] else s.deeds.filterMap Event.text? ++ s.host.console.told := by
  obtain ⟨h, t⟩ := s
  have told : ∀ text? : Option String, (text?.elim h.console fun text => (h.console.run text).1).told =
      text?.toList ++ h.console.told := by
    intro text?
    cases text? <;> rfl
  have hsent : ((h.stretch? t).bind fun r => r.2.2.next.text?).toList =
      (h.stretch? t).elim [] fun r => r.2.2.next.text?.toList := by
    cases h.stretch? t <;> rfl
  rw [filterMap_deeds_text?, console_perform]
  show _ = if t.forgets then [] else (h.stretch? t).elim [] _ ++ h.console.told
  rw [← hsent]
  -- only a stretch tells the console something, and only the request to forget takes something away
  cases t with
  | begin origin request =>
    cases request with
    | operate i operation => exact told _
    | shutDown i =>
      rw [consoleAfter]
      split
      · rfl
      · split <;> rfl
    | _ => rfl
  | resume origin i stage reply => exact told _
  | _ => rfl

theorem forgets_of_mem_deeds {s : Taken} {event : Event} (hmem : event ∈ s.deeds) (forgets : event.forgets) :
    s.turn.forgets ∧ s.deeds = [event] := by
  rw [Taken.deeds, deeds, List.mem_append, List.mem_append] at hmem
  -- to hear or to send is not to forget, and the mark of a turn is its only one
  obtain (hheard | hsent) | hmark := hmem
  · obtain ⟨f, -, rfl⟩ := List.mem_map.mp (List.mem_reverse.mp hheard)
    cases forgets
  · rcases hs : s.host.stretch? s.turn with _ | ⟨origin, i, o⟩
    · rw [hs] at hsent
      cases hsent
    · rw [hs, Option.elim_some, sends] at hsent
      split at hsent
      · rw [List.mem_singleton.mp hsent] at forgets
        cases forgets
      · cases hsent
  · obtain ⟨h, t⟩ := s
    unfold mark at hmark
    split at hmark
    · rename_i origin request ht
      rw [List.mem_singleton.mp hmark] at forgets ⊢
      cases request with
      | forget =>
        cases ht
        exact ⟨rfl, rfl⟩
      | _ => cases forgets
    · rw [List.mem_singleton.mp hmark] at forgets
      cases forgets
    · cases hmark

/-! ### Counting over a trace -/

section

variable {latency : Nat} {rules : List Rule} {draws : Draws} {config : Config} {h h' : Host}
  {past : List Taken} {s : Taken} {i : Nat} {e : Engine}

theorem Step.told_of_none (step : Step h none h') : h'.console.told = h.console.told := by
  cases step <;> rfl

/-- The console has been told the texts of the journal, up to the last time that it has been made to forget. -/
theorem Trace.told_eq (trace : Trace (start latency rules draws config) past h) : h.console.told =
    (h.history.takeWhile fun event => !event.forgets).filterMap Event.text? := by
  induction trace with
  | refl => rfl
  | @tail past h h' taken trace step ih =>
    cases taken with
    | none => rw [step.told_of_none, step.of_none.1, ih]
    | some s =>
      obtain ⟨rfl, history, -, -⟩ := step.of_some
      rw [told_perform, (adds_perform s.host s.turn).history, history, step.console_of_some, ih]
      show _ = ((s.deeds ++ h.history).takeWhile _).filterMap _
      -- forgetting leaves nothing, and is where the journal is cut
      by_cases hforgets : s.turn.forgets
      · obtain ⟨origin, hturn⟩ : ∃ origin, s.turn = .begin origin .forget := by
          unfold Turn.forgets at hforgets
          split at hforgets
          · exact ⟨_, ‹_›⟩
          · cases hforgets
        have hdeeds : s.deeds = [.begun origin .forget] := by
          rw [Taken.deeds, hturn]
          rfl
        rw [if_pos hforgets, hdeeds]
        rfl
      · rw [if_neg hforgets, List.takeWhile_append_of_pos, List.filterMap_append]
        intro event hevent
        by_contra hno
        exact hforgets (forgets_of_mem_deeds hevent (by simpa using hno)).1

/-- After a stretch an engine has the statistics that the stretch leaves it. -/
theorem stats_perform_of_stretch {origin : Origin} {o : Outcome} (hs : s.stretch? = some (origin, i, o)) :
    (s.host.perform s.turn).stats i = o.engine.stats := by
  rw [stats_eq_memory?, memory?_perform_of_stretch hs, if_pos rfl]
  rfl

/-- A new engine has counted nothing yet. -/
theorem stats_perform_of_other (elsewhere : ∀ origin o, s.stretch? ≠ some (origin, i, o)) :
    (s.host.perform s.turn).stats i = s.host.stats i := by
  have recalls := recalls_perform s.host s.turn i
  rw [stats_eq_memory?, stats_eq_memory?]
  generalize (s.host.perform s.turn).memory? i = remembered at recalls
  cases recalls with
  | begun he hturn => exact absurd (stretch?_eq_some_iff.mpr ⟨_, he, .inl ⟨_, hturn, rfl⟩⟩) (elsewhere _ _)
  | resumed he hturn => exact absurd (stretch?_eq_some_iff.mpr ⟨_, he, .inr ⟨_, _, hturn, rfl⟩⟩) (elsewhere _ _)
  | created config absent =>
    rw [absent]
    rfl
  | same _ => rfl

/-- A counter that each stretch of an engine moves on by the number of certain things is the number of all of
them, if no other turn has any. -/
theorem Trace.counter {α : Type} (counter : Stats → UInt64) (things : Taken → List α) (zero : counter {} = 0)
    (begun : ∀ (s : Taken) origin operation (e : Engine), s.turn = .begin origin (.operate i operation) →
      s.stretch? = some (origin, i, (e.begin operation s.host.draws).1) →
        counter (e.begin operation s.host.draws).1.engine.stats =
          counter e.stats + UInt64.ofNat (things s).length)
    (resumed : ∀ (s : Taken) origin stage reply (e : Engine), s.turn = .resume origin i stage reply →
      s.stretch? = some (origin, i, e.resume stage reply) →
        counter (e.resume stage reply).engine.stats = counter e.stats + UInt64.ofNat (things s).length)
    (elsewhere : ∀ s : Taken, (∀ origin o, s.stretch? ≠ some (origin, i, o)) →
      (∀ origin stage reply, s.turn ≠ .resume origin i stage reply) → things s = [])
    (trace : Trace (start latency rules draws config) past h) :
    counter (h.stats i) = UInt64.ofNat (past.flatMap things).length := by
  induction trace with
  | refl =>
    match i with
    | 0 => exact zero
    | i + 1 => exact zero
  | @tail past h h' taken trace step ih =>
    cases taken with
    | none => rw [stats_eq_memory?, step.of_none.2.1, ← stats_eq_memory?, ih, Option.toList_none, List.nil_append]
    | some s =>
      obtain ⟨rfl, -, memory, -⟩ := step.of_some
      have hbefore : s.host.stats i = h.stats i := by
        rw [stats_eq_memory?, memory, ← stats_eq_memory?]
      rw [Option.toList_some, List.singleton_append, List.flatMap_cons, List.length_append, UInt64.ofNat_add,
        UInt64.add_comm, ← ih, ← hbefore]
      -- a stretch of the engine counts its own, and a turn of others counts nothing
      by_cases hs : ∃ origin o, s.stretch? = some (origin, i, o)
      · obtain ⟨origin, o, hs⟩ := hs
        rw [stats_perform_of_stretch hs]
        obtain ⟨e, he, ⟨operation, hturn, rfl⟩ | ⟨stage, reply, hturn, rfl⟩⟩ := stretch?_eq_some_iff.mp hs
        · rw [begun s origin operation e hturn hs, stats_eq he]
        · rw [resumed s origin stage reply e hturn hs, stats_eq he]
      · have hs : ∀ origin o, s.stretch? ≠ some (origin, i, o) := fun origin o heq => hs ⟨origin, o, heq⟩
        -- a reply for this engine would find it, and be a stretch of it
        have hnone : things s = [] := by
          refine elsewhere s hs fun origin stage reply hturn => ?_
          obtain ⟨e, he⟩ := exists_of_memory? (trace.asked step hturn).1
          exact hs origin _ (stretch?_eq_some_iff.mpr ⟨e, he, .inr ⟨_, _, hturn, rfl⟩⟩)
        rw [stats_perform_of_other hs, hnone]
        exact (UInt64.add_zero _).symm

theorem length_sent {origin : Origin} {o : Outcome} (hs : s.stretch? = some (origin, i, o)) :
    (s.sent i).length = o.next.batches := by
  rw [sent_of_stretch hs, if_pos rfl]
  cases o.next <;> rfl

/-- The counter of commands is the number of texts that the engine has sent. -/
theorem Trace.commandsIssued_eq (trace : Trace (start latency rules draws config) past h) (i : Nat) :
    (h.stats i).commandsIssued = UInt64.ofNat (h.history.filterMap (Event.textBy? i)).length := by
  rw [trace.history_of_start, List.filterMap_flatMap]
  refine trace.counter Stats.commandsIssued (Taken.sent i) rfl ?_ ?_ fun s hs _ => sent_eq_nil hs
  · intro s origin operation e _ hs
    rw [length_sent hs, e.begin_stats operation s.host.draws]
  · intro s origin stage reply e _ hs
    rw [length_sent hs, e.resume_stats stage reply]

/-- The list of players is asked for by the stretch that begins a full synchronisation. -/
theorem count_sent_of_begin {origin : Origin} {operation : Operation}
    (hs : s.stretch? = some (origin, i, (e.begin operation s.host.draws).1)) :
    (s.sent i).count "scoreboard players list" = operation.fullSyncs := by
  rw [sent_of_stretch hs, if_pos rfl]
  -- a batch reads like the question for players only if it is just this
  by_cases hop : operation = .sync
  · subst hop
    have htext : (e.begin .sync s.host.draws).1.next.text? = some (Command.batch [.listPlayers]) := rfl
    rw [htext]
    decide
  · have hnone : operation.fullSyncs = 0 := by
      cases operation with
      | sync => exact absurd rfl hop
      | _ => rfl
    rw [hnone, List.count_eq_zero]
    intro hmem
    rcases hn : (e.begin operation s.host.draws).1.next with ⟨commands, stage⟩ | _ | _ | _
    · rw [hn, Next.text?, Option.toList_some, List.mem_singleton] at hmem
      rw [Command.batch_eq_listPlayers_iff.mp hmem.symm] at hn
      exact hop (Engine.begin_eq_send_iff.mp hn).listing
    all_goals
      rw [hn] at hmem
      cases hmem

/-- Going on with an operation never asks for the players. -/
theorem count_sent_of_resume {origin : Origin} {stage : Stage} {reply : String}
    (hs : s.stretch? = some (origin, i, e.resume stage reply)) :
    (s.sent i).count "scoreboard players list" = 0 := by
  rw [sent_of_stretch hs, if_pos rfl, List.count_eq_zero]
  intro hmem
  rcases hn : (e.resume stage reply).next with ⟨commands, stage'⟩ | _ | _ | _
  · rw [hn, Next.text?, Option.toList_some, List.mem_singleton] at hmem
    rw [Command.batch_eq_listPlayers_iff.mp hmem.symm] at hn
    exact Engine.Continues.listing (Engine.resume_eq_send_iff.mp hn)
  all_goals
    rw [hn] at hmem
    cases hmem

/-- The counter of full synchronisations is the number of times that the players have been asked for. -/
theorem Trace.fullSyncs_eq (trace : Trace (start latency rules draws config) past h) (i : Nat) :
    (h.stats i).fullSyncs =
      UInt64.ofNat ((h.history.filterMap (Event.textBy? i)).count "scoreboard players list") := by
  rw [trace.history_of_start, List.filterMap_flatMap, List.count_eq_length_filter, List.filter_flatMap]
  refine trace.counter Stats.fullSyncs (fun s => (s.sent i).filter (· == "scoreboard players list")) rfl ?_ ?_ ?_
  · intro s origin operation e _ hs
    rw [← List.count_eq_length_filter, count_sent_of_begin hs, e.begin_stats operation s.host.draws]
  · intro s origin stage reply e _ hs
    rw [← List.count_eq_length_filter, count_sent_of_resume hs, e.resume_stats stage reply]
    exact (UInt64.add_zero _).symm
  · intro s hs _
    rw [sent_eq_nil hs]
    rfl

/-- A counter that goes up when the reply to a wait of a certain kind is taken, and then by the number of the
things that were waited for. -/
theorem Trace.counter_of_kind {α β : Type} (counter : Stats → UInt64) (kind : Turn → Option β)
    (things : β → List α) (zero : counter {} = 0) (begun : ∀ origin request, kind (.begin origin request) = none)
    (same : ∀ (e : Engine) operation draws, counter (e.begin operation draws).1.engine.stats = counter e.stats)
    (resumed : ∀ (e : Engine) origin stage reply, counter (e.resume stage reply).engine.stats =
      counter e.stats + UInt64.ofNat ((kind (.resume origin i stage reply)).toList.flatMap things).length)
    (only : ∀ t b, kind t = some b → ∃ origin stage reply, t = .resume origin i stage reply)
    (trace : Trace (start latency rules draws config) past h) :
    counter (h.stats i) = UInt64.ofNat ((past.filterMap (Taken.turn · |> kind)).flatMap things).length := by
  rw [List.filterMap_eq_flatMap_toList, List.flatMap_assoc]
  refine trace.counter counter (fun s => (kind s.turn).toList.flatMap things) zero ?_ ?_ ?_
  · intro s origin operation e hturn _
    rw [same, hturn, begun]
    exact (UInt64.add_zero _).symm
  · intro s origin stage reply e hturn _
    rw [resumed e origin, hturn]
  · intro s _ hne
    rcases hk : kind s.turn with _ | b
    · rfl
    · obtain ⟨origin, stage, reply, hturn⟩ := only s.turn b hk
      exact absurd hturn (hne _ _ _)

/-! ### Triggers -/

/-- Inserting new names one after another makes a table larger by their number. -/
theorem Table.size_foldl_insert {ν : Type} {bindings : List (String × ν)} (nodup : (bindings.map (·.1)).Nodup)
    {t : Table ν} (absent : ∀ b ∈ bindings, t.get? b.1 = none) :
    (bindings.foldl (fun t b => t.insert b.1 b.2) t).size = t.size + bindings.length := by
  have hfresh : ∀ b ∈ bindings, b.1 ∉ t.keys := fun b hb => Table.notMem_keys_iff.mpr (absent b hb)
  have hkeys := congrArg List.length (Table.keys_foldl_insert nodup hfresh)
  simpa [Table.keys, Table.size] using hkeys

/-- Every name that a call has chosen is an entry of its own. -/
theorem Trace.size_triggers (trace : Trace (start latency rules draws config) past h) (i : Nat) :
    (h.triggers i).size = ((registrations i past).flatMap Registration.names).length := by
  induction trace with
  | refl =>
    match i with
    | 0 => rfl
    | i + 1 => rfl
  | @tail past h h' taken trace step ih =>
    cases taken with
    | none =>
      rw [triggers_eq_memory?, step.of_none.2.1, ← triggers_eq_memory?, ih]
      rfl
    | some s =>
      obtain ⟨rfl, -, memory, -⟩ := step.of_some
      have hbefore : s.host.triggers i = h.triggers i := by
        rw [triggers_eq_memory?, memory, ← triggers_eq_memory?]
      rw [Option.toList_some, List.singleton_append]
      -- the table grows by the names that a turn chooses, which it did not have before
      rcases hr : s.registration? i with _ | r
      · have hsame : registrations i (s :: past) = registrations i past := List.filterMap_cons_none hr
        rw [triggers_perform_of_none hr, hbefore, ih, hsame]
      · have hcons : registrations i (s :: past) = r :: registrations i past := List.filterMap_cons_some hr
        obtain ⟨hlength, hnodup, hfree⟩ := registration_spec hr
        have hkeys : (r.names.zip r.callbacks).map (·.1) = r.names :=
          List.map_fst_zip (Nat.le_of_eq hlength)
        rw [triggers_perform_of_some hr, Table.size_foldl_insert (by rw [hkeys]; exact hnodup), hbefore, ih, hcons,
          List.flatMap_cons, List.length_append, List.length_zip, ← hlength, Nat.min_self, Nat.add_comm]
        rintro ⟨name, callback⟩ hb
        rw [← bound?_eq_get?]
        exact hfree name (List.of_mem_zip hb).1

/-- The counter of triggers is the number of names in the replies taken to their batches. -/
theorem Trace.triggersRegistered_eq (trace : Trace (start latency rules draws config) past h) (i : Nat) :
    (h.stats i).triggersRegistered =
      UInt64.ofNat ((past.filterMap (Taken.turn · |>.naming? i)).flatMap Prod.snd).length := by
  refine trace.counter_of_kind Stats.triggersRegistered (Turn.naming? i) Prod.snd rfl (fun _ _ => rfl)
    (fun e operation draws => by rw [e.begin_stats operation draws]) ?_ ?_
  · intro e origin stage reply
    rw [e.resume_stats stage reply]
    cases stage with
    | binding names single => simp [Turn.naming?, Stage.triggers]
    | _ => rfl
  · rintro t ⟨origin, names⟩ hk
    obtain ⟨single, reply, hturn⟩ := naming?_eq_some_iff.mp hk
    exact ⟨_, _, _, hturn⟩

/-- The names that have been answered and those that are waited for are all the names bound. -/
theorem Trace.length_named (trace : Trace (start latency rules draws config) past h) (i : Nat) :
    ((past.filterMap (Taken.turn · |>.naming? i)).flatMap Prod.snd).length + (h.namesAwaited i).card =
      (h.triggers i).size := by
  have answered := returned?_add_naming? trace i
  have hreturned : past.filterMap (Taken.returned? i) = past.filterMap fun s => s.turn.naming? i :=
    List.filterMap_congr fun s hs => returned?_eq trace hs i
  rw [hreturned] at answered
  have hnames := congrArg (fun calls => (Multiset.bind calls fun call => (call.2 : Multiset String)).card) answered
  simp only [Multiset.add_bind, Multiset.coe_bind, List.flatMap_map, Multiset.card_add, Multiset.coe_card] at hnames
  rw [trace.size_triggers]
  exact hnames

/-! ### Fires and readings -/

/-- The counter of fires is the number of replies taken to enabling a trigger. -/
theorem Trace.triggersFired_eq (trace : Trace (start latency rules draws config) past h) (i : Nat) :
    (h.stats i).triggersFired = UInt64.ofNat (past.filterMap (Taken.turn · |>.enablingOf? i)).length := by
  rw [← List.flatMap_singleton' (past.filterMap _)]
  refine trace.counter_of_kind Stats.triggersFired (Turn.enablingOf? i) ([·]) rfl (fun _ _ => rfl)
    (fun e operation draws => by rw [e.begin_stats operation draws]) ?_ ?_
  · intro e origin stage reply
    rw [e.resume_stats stage reply]
    cases stage with
    | enabling fire callback => simp [Turn.enablingOf?, Stage.fires]
    | _ => rfl
  · rintro t ⟨fire, callback⟩ hk
    obtain ⟨origin, reply, hturn⟩ := Turn.enablingOf?_eq_some_iff.mp hk
    exact ⟨_, _, _, hturn⟩

/-- The counter of single readings is the number of replies taken to them. -/
theorem Trace.singleSyncs_eq (trace : Trace (start latency rules draws config) past h) (i : Nat) :
    (h.stats i).singleSyncs = UInt64.ofNat (past.filterMap (Taken.turn · |>.reading? i)).length := by
  rw [← List.flatMap_singleton' (past.filterMap _)]
  refine trace.counter_of_kind Stats.singleSyncs (Turn.reading? i) ([·]) rfl (fun _ _ => rfl)
    (fun e operation draws => by rw [e.begin_stats operation draws]) ?_ ?_
  · intro e origin stage reply
    rw [e.resume_stats stage reply]
    cases stage with
    | readingScore player objective => simp [Turn.reading?, Stage.readings]
    | _ => rfl
  · intro t r hk
    exact ⟨_, _, _, reading?_eq_some_iff.mp hk⟩

theorem Turn.reading?_eq (i : Nat) (t : Turn) : t.reading? i = t.awaited?.bind (Awaited.reading? i) := by
  cases t with
  | resume origin j stage reply => cases stage <;> rfl
  | _ => rfl

theorem Event.reading?_eq (i : Nat) (event : Event) :
    event.reading? i = event.awaited?.bind (Awaited.reading? i) := by
  cases event with
  | sent j origin stage commands reply => cases stage <;> rfl
  | _ => rfl

/-- The commands for single scores get their replies, or wait for them. -/
theorem Trace.readings_eq (trace : Trace (start latency rules draws config) past h) (i : Nat) :
    (past.filterMap (Taken.turn · |>.reading? i)).length + (h.agenda.filterMap (Turn.reading? i)).card =
      (h.history.filterMap (Event.reading? i)).length := by
  have hreplies := congrArg (Multiset.filterMap (Awaited.reading? i)) trace.replies
  rw [Multiset.filterMap_add, Multiset.filterMap_coe, Multiset.filterMap_coe, Multiset.filterMap_filterMap,
    List.filterMap_filterMap, List.filterMap_filterMap] at hreplies
  simp only [← Turn.reading?_eq, ← Event.reading?_eq] at hreplies
  have hcard := congrArg Multiset.card hreplies
  rwa [Multiset.card_add, Multiset.coe_card, Multiset.coe_card] at hcard

/-! ### All counters -/

/-- With nothing of an engine under way there is none of its waits and callbacks on the agenda. -/
theorem filterMap_agenda_of_quiet {β : Type} {kind : Turn → Option β}
    (quiet : ∀ t ∈ h.tasks, t.turn.isUnderWay i = false) (only : ∀ t b, kind t = some b → t.isUnderWay i) :
    h.agenda.filterMap kind = 0 := by
  refine filterMap_agenda_eq_zero fun t ht => ?_
  rcases hk : kind t.turn with _ | b
  · rfl
  · have hbusy := only _ b hk
    rw [quiet t ht] at hbusy
    cases hbusy

/-- In every trace, in every state, the counters of an engine are the numbers of what they count. -/
theorem statsConserved_of_trace (trace : Trace (start latency rules draws config) past h)
    (he : h.engines[i]? = some e) : StatsConserved i past h e := by
  have hstats : h.stats i = e.stats := by
    rw [stats, he]
    rfl
  have htriggers : h.triggers i = e.triggers := by
    rw [triggers, he]
    rfl
  have hcommands := trace.commandsIssued_eq i
  have hsyncs := trace.fullSyncs_eq i
  have hregistered := trace.triggersRegistered_eq i
  have hfired := trace.triggersFired_eq i
  have hread := trace.singleSyncs_eq i
  rw [hstats] at hcommands hsyncs hregistered hfired hread
  have hnamed := trace.length_named i
  rw [htriggers] at hnamed
  have hfound := congrArg Multiset.card (found?_eq trace i)
  have hcalled := congrArg Multiset.card (enablingOf?_eq trace i)
  have hreadings := trace.readings_eq i
  rw [Multiset.card_add, Multiset.coe_card, Multiset.coe_card] at hfound hcalled
  have triggers : e.stats.triggersRegistered + UInt64.ofNat (h.namesAwaited i).card =
      UInt64.ofNat e.triggers.size := by rw [hregistered, ← UInt64.ofNat_add, hnamed]
  have fires : e.stats.triggersFired + UInt64.ofNat (h.agenda.filterMap (Turn.enablingOf? i)).card =
      UInt64.ofNat ((lookups i past).filterMap Lookup.found?).length := by
    rw [hfired, ← UInt64.ofNat_add, hfound]
  have readings : e.stats.singleSyncs + UInt64.ofNat (h.agenda.filterMap (Turn.reading? i)).card =
      UInt64.ofNat (h.history.filterMap (Event.reading? i)).length := by
    rw [hread, ← UInt64.ofNat_add, hreadings]
  -- at rest, none of the four kinds of turns is left
  refine ⟨trace.told_eq, hcommands, hsyncs, trace.counted he, triggers, fires, readings, fun quiet => ?_⟩
  have hnaming : h.agenda.filterMap (Turn.naming? i) = 0 := by
    refine filterMap_agenda_of_quiet quiet ?_
    rintro t ⟨origin, names⟩ hk
    obtain ⟨single, reply, rfl⟩ := naming?_eq_some_iff.mp hk
    exact decide_eq_true rfl
  have henabling : h.agenda.filterMap (Turn.enablingOf? i) = 0 := by
    refine filterMap_agenda_of_quiet quiet ?_
    rintro t ⟨fire, callback⟩ hk
    obtain ⟨origin, reply, rfl⟩ := Turn.enablingOf?_eq_some_iff.mp hk
    exact decide_eq_true rfl
  have hcalls : h.agenda.filterMap (Turn.callOf? i) = 0 := by
    refine filterMap_agenda_of_quiet quiet ?_
    rintro t ⟨fire, callback⟩ hk
    rw [Turn.callOf?_eq_some_iff.mp hk]
    exact decide_eq_true rfl
  have hreading : h.agenda.filterMap (Turn.reading? i) = 0 := by
    refine filterMap_agenda_of_quiet quiet ?_
    intro t r hk
    rw [reading?_eq_some_iff.mp hk]
    exact decide_eq_true rfl
  rw [namesAwaited, hnaming] at triggers
  rw [henabling] at fires
  rw [hreading] at readings
  rw [hcalls, Multiset.card_zero, Nat.add_zero] at hcalled
  exact ⟨by simpa using triggers, by simpa using fires, by rw [hfired, hcalled], by simpa using readings⟩

end

/-- A run in which an objective is added, a trigger bound and used, and all scores of a player read. -/
theorem statsConserved_of_one_fire : ∃ past h e,
    Trace (start 0 [.toStart "scoreboard players list" "There are 1 tracked entity/entities: Alice"] {} {}) past h ∧
      h.engines[0]? = some e ∧ StatsConserved 0 past h e ∧ e.stats = ⟨1, 1, 1, 1, 0, 5⟩ := by
  let rules := [Rule.toStart "scoreboard players list" "There are 1 tracked entity/entities: Alice"]
  let ensure := Request.operate 0 (.ensure ⟨"demo", "demo"⟩ "kills" "dummy" "Kills")
  let greet := Request.operate 0 (.bind ⟨"demo", "demo"⟩ { id := "greet" })
  let use := Request.emit ["[Alice: Triggered [tri_tQaBe_AAAAAA] (set value to 3)]"]
  let sync := Request.operate 0 .sync
  have run : (((((start 0 rules {} {}).drive 50 ensure).bind (drive 50 · greet)).bind (drive 50 · use)).bind
      (drive 50 · sync)).map (fun h => h.engines[0]?.map Engine.stats) = some (some ⟨1, 1, 1, 1, 0, 5⟩) := by
    decide +kernel
  obtain ⟨h, hdriven, hengine⟩ := Option.map_eq_some_iff.mp run
  obtain ⟨e, he, hstats⟩ := Option.map_eq_some_iff.mp hengine
  obtain ⟨used, hused, hsynced⟩ := Option.bind_eq_some_iff.mp hdriven
  obtain ⟨bound, hbound, hused⟩ := Option.bind_eq_some_iff.mp hused
  obtain ⟨ensured, hensured, hbound⟩ := Option.bind_eq_some_iff.mp hbound
  obtain ⟨past, trace⟩ := (((steps_of_drive hensured).trans (steps_of_drive hbound)).trans
    (steps_of_drive hused)).trans (steps_of_drive hsynced)
  exact ⟨past, h, e, trace, he, statsConserved_of_trace trace he, hstats⟩

end Host

end Scoreboard
