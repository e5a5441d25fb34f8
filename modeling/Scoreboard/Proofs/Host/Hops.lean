import Scoreboard.Proofs.Dispatch
import Scoreboard.Proofs.TriggerNames

/-!
# Fires on their way

A fire goes through an engine in three hops, and at any time some fires are at each of them: they wait for
their lookup (`waiting`), for the reply to enabling their trigger (`enabling`), or for the run of their callback
(`calling`). From any point of a trace on, what is at a hop or comes to it goes on from there or is there at
the end (`Trace.hopped`). Where nothing is on its way at the end, all of it has gone through (`Hopped.ran`), and
with it every fire of a trigger that was bound at the first of the two points (`Trace.ran_of_bound`).
-/

namespace Scoreboard.Host

/-- The fires that wait for their lookup. -/
def waiting (h : Host) (i : Nat) : Multiset Fire := h.agenda.filterMap (Turn.waitingFor? i)

/-- The fires whose trigger is being enabled, with the callbacks found. -/
def enabling (h : Host) (i : Nat) : Multiset (Fire × Callback) := h.agenda.filterMap (Turn.enablingOf? i)

/-- The fires handed to callbacks that have not run yet. -/
def calling (h : Host) (i : Nat) : Multiset (Fire × Callback) := h.agenda.filterMap (Turn.callOf? i)

/-- Whether a fire of an engine is on its way. -/
def isHopping (h : Host) (i : Nat) : Bool := h.tasks.any (·.turn.isHop i)

/-- The runs of an engine's callbacks, with the fires. -/
def ran (i : Nat) (past : List Taken) : Multiset (Fire × Callback) :=
  (past.filterMap (·.turn.callOf? i) : List _)

/-- What has become of an engine's fires between two points of a trace. -/
structure Hopped (i : Nat) (a : Host) (recent : List Taken) (h : Host) : Prop where
  /-- What has waited for its lookup or has been heard since is looked up or still waits. -/
  looked : ((recent.flatMap (Taken.heardBy i) : List Fire) : Multiset Fire) + a.waiting i =
    (lookups i recent).filterMap Lookup.ofLine? + h.waiting i
  /-- What has waited for a reply or has been found bound since has got its reply or still waits. -/
  replied : (((lookups i recent).filterMap Lookup.found? : List _) : Multiset (Fire × Callback)) + a.enabling i =
    recent.filterMap (·.turn.enablingOf? i) + h.enabling i
  /-- What has been handed to a callback or has got its reply since has run or is about to. -/
  called : ((recent.filterMap (·.turn.enablingOf? i) : List _) : Multiset (Fire × Callback)) + a.calling i =
    ran i recent + h.calling i

variable {latency : Nat} {rules : List Rule} {draws : Draws} {config : Config} {a h h' : Host}
  {older recent : List Taken} {s : Taken} {i : Nat} {name : String} {callback : Callback}

/-! ### Counting -/

/-- In every trace each hop ends with what the next one begins with, and nothing is lost in between. -/
theorem Trace.hopped (earlier : Trace (start latency rules draws config) older a) (later : Trace a recent h)
    (i : Nat) : Hopped i a recent h where
  -- each of the three equations is the conservation of one kind of turns: left at the start or in the meantime,
  -- taken or still there
  looked := by
    have hc := later.conservation (Turn.left_waitingFor? i)
    rw [List.filterMap_flatMap] at hc
    simp only [filterMap_leaves_waitingFor?] at hc
    have hlooked : (lookups i recent).filterMap Lookup.ofLine? = recent.filterMap (·.turn.waitingFor? i) := by
      rw [lookups, List.filterMap_filterMap]
      exact List.filterMap_congr fun s _ => (waitingFor?_turn i s).symm
    rw [hlooked]
    exact hc.symm
  replied := by
    have hc := later.conservation (Turn.left_enablingOf? i)
    have hfound : (lookups i recent).filterMap Lookup.found? =
        recent.filterMap fun s => (s.lookup? i).bind Lookup.found? := List.filterMap_filterMap
    rw [filterMap_flatMap_toList fun s _ => filterMap_leaves_enablingOf? i s] at hc
    rw [hfound]
    exact hc.symm
  called := by
    have hc := later.conservation (Turn.left_callOf? i)
    -- the reply finds its engine, which existed when the command was sent
    have hknown : ∀ s ∈ recent, s.leaves.filterMap (Turn.callOf? i) = (s.turn.enablingOf? i).toList := by
      intro s hs
      apply filterMap_leaves_callOf?
      intro origin stage reply hturn
      exact ((earlier.trans later).asked_of_mem (List.mem_append_left older hs) hturn).1
    rw [filterMap_flatMap_toList hknown] at hc
    exact hc.symm

/-- What hops from a state on depends on its agenda alone. -/
theorem Hopped.of_agenda (hopped : Hopped i a recent h) (agenda : h'.agenda = a.agenda) : Hopped i h' recent h where
  looked := by
    rw [waiting, agenda]
    exact hopped.looked
  replied := by
    rw [enabling, agenda]
    exact hopped.replied
  called := by
    rw [calling, agenda]
    exact hopped.called

/-- Without a fire between two hops there is none at any of the three places. -/
theorem waiting_of_not_isHopping (quiet : ¬h.isHopping i) :
    h.waiting i = 0 ∧ h.enabling i = 0 ∧ h.calling i = 0 := by
  have hidle : ∀ t ∈ h.tasks, t.turn.waitingFor? i = none ∧ t.turn.enablingOf? i = none ∧
      t.turn.callOf? i = none := by
    intro t ht
    have hno : ¬t.turn.isHop i := fun hop => quiet (List.any_eq_true.mpr ⟨t, ht, hop⟩)
    simp only [Turn.isHop, Bool.or_eq_true, Option.isSome_iff_ne_none, not_or, not_not] at hno
    exact ⟨hno.1.1, hno.1.2, hno.2⟩
  exact ⟨filterMap_agenda_eq_zero fun t ht => (hidle t ht).1,
    filterMap_agenda_eq_zero fun t ht => (hidle t ht).2.1,
    filterMap_agenda_eq_zero fun t ht => (hidle t ht).2.2⟩

/-- With no fire on its way at the end, what was on its way or has come since has gone through every hop. -/
theorem Hopped.ran (hopped : Hopped i a recent h) (quiet : ¬h.isHopping i) :
    ((recent.flatMap (Taken.heardBy i) : List Fire) : Multiset Fire) + a.waiting i =
        (lookups i recent).filterMap Lookup.ofLine? ∧
      (((lookups i recent).filterMap Lookup.found? : List _) : Multiset (Fire × Callback)) + a.enabling i +
        a.calling i = Host.ran i recent := by
  obtain ⟨hwaiting, henabling, hcalling⟩ := waiting_of_not_isHopping quiet
  have looked := hopped.looked
  have replied := hopped.replied
  have called := hopped.called
  rw [hwaiting, add_zero] at looked
  rw [henabling, add_zero] at replied
  rw [hcalling, add_zero] at called
  exact ⟨looked, by rw [replied, called]⟩

/-! ### Triggers that are bound -/

/-- A turn leaves a bound trigger its callback. -/
theorem bound?_perform (bound : s.host.bound? i name = some callback) :
    (s.host.perform s.turn).bound? i name = some callback := by
  rcases hr : s.registration? i with _ | r
  · rw [bound?_perform_of_none hr, bound]
  · have hother : name ∉ r.names := by
      intro hmem
      rw [(registration_spec hr).2.2 name hmem] at bound
      cases bound
    rw [(bound?_perform_of_some hr).2 name hother, bound]

/-- A name that is bound keeps its callback. -/
theorem Steps.bound? (steps : Steps h h') (bound : h.bound? i name = some callback) :
    h'.bound? i name = some callback := by
  rw [bound?_eq_memory?] at bound ⊢
  refine steps.of_memory? (P := fun m => (m.bind (·.triggers.get? name)) = some callback)
    (fun h t bound => ?_) bound
  rw [← bound?_eq_memory?] at bound ⊢
  exact bound?_perform (s := ⟨h, t⟩) bound

/-- A name bound at the beginning of a trace is bound to the same callback at each of its turns. -/
theorem Trace.bound?_of_mem (trace : Trace a recent h) (hs : s ∈ recent)
    (bound : a.bound? i name = some callback) : s.host.bound? i name = some callback := by
  obtain ⟨newer, between, rfl⟩ := List.append_of_mem hs
  obtain ⟨before, after, earlier, step, -⟩ := trace.cut rfl
  rw [bound?_eq_memory?, step.of_some.2.2.1, ← bound?_eq_memory?]
  exact Steps.bound? ⟨_, earlier⟩ bound

/-- A lookup finds the callback of a trigger that was bound before. -/
theorem Trace.callback_of_bound (trace : Trace a recent h) {l : Lookup} (hl : l ∈ lookups i recent)
    (bound : a.bound? i l.fire.trigger = some callback) : l.callback = some callback := by
  obtain ⟨s, hs, hlookup⟩ := List.mem_filterMap.mp hl
  unfold Taken.lookup? at hlookup
  split at hlookup
  · split at hlookup
    · cases hlookup
      exact trace.bound?_of_mem hs bound
    · cases hlookup
  · cases hlookup

/-- The fires among some whose trigger is bound, with the callbacks. -/
def boundAmong (h : Host) (i : Nat) (fires : Multiset Fire) : Multiset (Fire × Callback) :=
  fires.filterMap fun fire => (h.bound? i fire.trigger).map (fire, ·)

theorem boundAmong_of_memory? (memory : h'.memory? i = h.memory? i) (fires : Multiset Fire) :
    h'.boundAmong i fires = h.boundAmong i fires := by
  simp only [boundAmong, bound?_eq_memory?, memory]

/-- Of the lookups for lines, those of bound triggers are among those that have found a callback. -/
theorem sublist_found? {ls : List Lookup}
    (bound : ∀ l ∈ ls, ∀ callback, a.bound? i l.fire.trigger = some callback → l.callback = some callback) :
    ((ls.filterMap Lookup.ofLine?).filterMap fun fire => (a.bound? i fire.trigger).map (fire, ·)).Sublist
      (ls.filterMap Lookup.found?) := by
  induction ls with
  | nil => exact .slnil
  | cons l ls ih =>
    have hrest := ih fun l' hl' => bound l' (List.mem_cons_of_mem l hl')
    have hmore := hrest.trans ((List.sublist_cons_self l ls).filterMap Lookup.found?)
    -- a lookup for a line finds the callback that was bound from the start, any other one only adds to the right
    by_cases hline : l.origin = .line
    · rw [List.filterMap_cons_some (b := l.fire) (by simp [Lookup.ofLine?, hline])]
      rcases hb : a.bound? i l.fire.trigger with _ | callback
      · rw [List.filterMap_cons_none (by simp [hb])]
        exact hmore
      · have hcallback := bound l List.mem_cons_self callback hb
        rw [List.filterMap_cons_some (b := (l.fire, callback)) (by simp [hb]),
          List.filterMap_cons_some (b := (l.fire, callback)) (by simp [Lookup.found?, hcallback])]
        exact hrest.cons_cons _
    · rw [List.filterMap_cons_none (by simp [Lookup.ofLine?, hline])]
      exact hmore

/-- With no fire on its way at the end, every fire that was waiting or has been heard since, of a trigger that was
bound, has found its callback. -/
theorem Trace.found_of_bound (later : Trace a recent h) (hopped : Hopped i a recent h) (quiet : ¬h.isHopping i) :
    a.boundAmong i ((recent.flatMap (Taken.heardBy i) : List Fire) + a.waiting i) ≤
      (lookups i recent).filterMap Lookup.found? := by
  have hle := sublist_found? fun l (hl : l ∈ lookups i recent) callback => later.callback_of_bound hl
  rw [boundAmong, (hopped.ran quiet).1, Multiset.filterMap_coe]
  exact Multiset.coe_le.mpr hle.subperm

/-- With no fire on its way at the end, it has had its callback run. -/
theorem Trace.ran_of_bound (earlier : Trace (start latency rules draws config) older a)
    (later : Trace a recent h) (quiet : ¬h.isHopping i) :
    a.boundAmong i ((recent.flatMap (Taken.heardBy i) : List Fire) + a.waiting i) ≤ ran i recent := by
  have hopped := earlier.hopped later i
  rw [← (hopped.ran quiet).2, add_assoc]
  exact (later.found_of_bound hopped quiet).trans (Multiset.le_add_right _ _)

/-- The triggers that are enabled again are those of the lookups that have found a callback. -/
theorem enabled_eq (i : Nat) (recent : List Taken) : (recent.flatMap Taken.deeds).filterMap (Event.enabled? i) =
    ((lookups i recent).filterMap Lookup.found?).map fun f => "scoreboard players enable @a " ++ f.1.trigger := by
  rw [filterMap_flatMap_toList fun s _ => filterMap_deeds_enabled? i s, lookups, List.filterMap_filterMap,
    List.map_filterMap]

end Scoreboard.Host
