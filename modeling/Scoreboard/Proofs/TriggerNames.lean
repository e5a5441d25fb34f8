import Mathlib.Data.Multiset.Bind
import Scoreboard.Proofs.Engine.Triggers
import Scoreboard.Proofs.Host.Traces

/-!
# Trigger names are unique and bound for good

A call that binds callbacks chooses names and binds them in one stretch, then waits for the triggers to be
made, and is answered with the names. Main statement (`namesKept_of_trace`): in every trace, whatever the
draws and however the calls overlap, no name is chosen twice, every call gets one name for each callback
or still waits for its answer, and every name chosen so far is bound to the callback it was chosen for
(`NamesKept`). A trace can always go on, so that is how it stays.

The invariant that carries this (`Kept`) speaks of the names from the moment they are bound, which is
before anybody has been answered: a name of a later call is free when it is chosen, so it differs from all
the names that are bound.
-/

namespace Scoreboard

/-- A call that binds callbacks: for whom, the callbacks, and the names they are bound to. -/
structure Registration where
  origin : Origin
  callbacks : List Callback
  names : List String

/-- The names that an answer gives. -/
def Answer.names : Answer → List String
  | .text name => [name]
  | .texts names => names
  | _ => []

/-- Whether an operation binds callbacks. -/
def Operation.binds : Operation → Bool
  | .bind .. | .bindAll .. => true
  | _ => false

/-- The answer that an operation ends with, if it ends. -/
def Next.answer? : Next → Option Answer
  | .done answer => some answer
  | _ => none

/-- The names that a call of an engine waits to be answered with. -/
def Turn.naming? (i : Nat) : Turn → Option (Origin × List String)
  | .resume origin j (.binding names _) _ => if j = i then some (origin, names) else none
  | _ => none

namespace Host

namespace Taken

/-- The call whose callbacks a turn has bound in an engine. -/
def registration? (i : Nat) (s : Taken) : Option Registration :=
  match s.turn with
  | .begin origin (.operate j operation) =>
    if j = i then s.stretch?.bind fun r => r.2.2.next.names?.map (⟨origin, operation.callbacks, ·⟩)
    else none
  | _ => none

/-- Whom a turn has answered with names that it waited for, and with which. -/
def returned? (i : Nat) (s : Taken) : Option (Origin × List String) :=
  match s.turn with
  | .resume origin j (.binding _ _) _ =>
    if j = i then s.stretch?.bind fun r => r.2.2.next.answer?.map fun answer => (origin, answer.names)
    else none
  | _ => none

end Taken

/-- The calls that have bound callbacks in an engine, the newest first. -/
def registrations (i : Nat) (past : List Taken) : List Registration :=
  past.filterMap (Taken.registration? i)

/-- The names that an engine has chosen so far are no two the same, and bound. -/
structure Kept (i : Nat) (past : List Taken) (h : Host) : Prop where
  distinct : ((registrations i past).flatMap Registration.names).Nodup
  one_each : ∀ r ∈ registrations i past, r.names.length = r.callbacks.length
  bound : ∀ r ∈ registrations i past, ∀ b ∈ r.names.zip r.callbacks, h.bound? i b.1 = some b.2

/-- Every call gets names of its own, one for each callback, and they stay bound. -/
structure NamesKept (i : Nat) (past : List Taken) (h : Host) : Prop extends Kept i past h where
  /-- Each call is answered with its names, or waits for that. -/
  answered : ((past.filterMap (Taken.returned? i) : List _) : Multiset (Origin × List String)) +
    h.agenda.filterMap (Turn.naming? i) = (registrations i past).map fun r => (r.origin, r.names)
  /-- The names in all the answers are no two the same. -/
  returned : ((past.filterMap (Taken.returned? i)).flatMap Prod.snd).Nodup
  /-- A call on an engine that exists binds its callbacks, or has none and is answered so at once, or
  looks for a free name for ever. -/
  called : ∀ s ∈ past, ∀ origin operation o, s.turn = .begin origin (.operate i operation) →
    s.stretch? = some (origin, i, o) → operation.binds →
      (s.registration? i).isSome ∨ operation.callbacks = [] ∧ o.next = .done (.texts []) ∨
        o.next = .endless

/-- Of two lists of one length, every element has its counterpart. -/
theorem exists_mem_zip {α β : Type} {as : List α} {bs : List β} {a : α} (same : as.length = bs.length)
    (h : a ∈ as) : ∃ b, (a, b) ∈ as.zip bs := by
  have hfst : a ∈ (as.zip bs).map Prod.fst := by
    rw [List.map_fst_zip (Nat.le_of_eq same)]
    exact h
  obtain ⟨⟨_, b⟩, hb, rfl⟩ := List.mem_map.mp hfst
  exact ⟨b, hb⟩

/-! ### One turn -/

/-- A turn is a registration just if it begins an operation of the engine that chooses names. -/
theorem registration?_eq_some_iff {i : Nat} {s : Taken} {r : Registration} :
    s.registration? i = some r ↔ ∃ e operation, s.turn = .begin r.origin (.operate i operation) ∧
      s.host.engines[i]? = some e ∧ r.callbacks = operation.callbacks ∧
        (e.begin operation s.host.draws).1.next.names? = some r.names := by
  obtain ⟨h, t⟩ := s
  constructor
  · intro hr
    unfold Taken.registration? at hr
    split at hr
    · rename_i origin j operation ht
      split at hr
      · rename_i hj
        obtain ⟨⟨origin', k, o⟩, hs, hr⟩ := Option.bind_eq_some_iff.mp hr
        obtain ⟨names, hnames, rfl⟩ := Option.map_eq_some_iff.mp hr
        cases ht
        subst hj
        obtain ⟨e, he, hs⟩ := Option.map_eq_some_iff.mp hs
        cases hs
        exact ⟨e, operation, rfl, he, rfl, hnames⟩
      · cases hr
    · cases hr
  · rintro ⟨e, operation, rfl, he, hcallbacks, hnames⟩
    obtain ⟨origin, callbacks, names⟩ := r
    have hcallbacks : callbacks = operation.callbacks := hcallbacks
    subst hcallbacks
    simp [Taken.registration?, Taken.stretch?, stretch?, he, hnames]

/-- The names chosen in a registration are distinct, were free, and there is one for each callback. -/
theorem registration_spec {i : Nat} {s : Taken} {r : Registration} (hr : s.registration? i = some r) :
    r.names.length = r.callbacks.length ∧ r.names.Nodup ∧
      ∀ name ∈ r.names, s.host.bound? i name = none := by
  obtain ⟨e, operation, -, he, hcallbacks, hnames⟩ := registration?_eq_some_iff.mp hr
  obtain ⟨hlength, hnodup, hfree⟩ := Engine.names_of_begin hnames
  refine ⟨by rw [hlength, hcallbacks], hnodup, fun name hname => ?_⟩
  rw [bound?, he, Option.bind_some, hfree name hname]

/-- A registration binds its names one after the other. -/
theorem triggers_perform_of_some {i : Nat} {s : Taken} {r : Registration} (hr : s.registration? i = some r) :
    (s.host.perform s.turn).triggers i =
      (r.names.zip r.callbacks).foldl (fun t b => t.insert b.1 b.2) (s.host.triggers i) := by
  obtain ⟨e, operation, hturn, he, hcallbacks, hnames⟩ := registration?_eq_some_iff.mp hr
  have hs : s.host.stretch? s.turn = some (r.origin, i, (e.begin operation s.host.draws).1) :=
    stretch?_eq_some_iff.mpr ⟨e, he, .inl ⟨operation, hturn, rfl⟩⟩
  have htriggers := (e.begin_changes operation s.host.draws).2.2
  rw [hnames, Option.getD_some, ← hcallbacks] at htriggers
  rw [triggers_eq_memory?, memory?_perform_of_stretch hs, if_pos rfl, triggers_eq he]
  exact htriggers

/-- No other turn binds or unbinds anything. -/
theorem triggers_perform_of_none {i : Nat} {s : Taken} (hr : s.registration? i = none) :
    (s.host.perform s.turn).triggers i = s.host.triggers i := by
  have recalls := recalls_perform s.host s.turn i
  rw [triggers_eq_memory?]
  generalize (s.host.perform s.turn).memory? i = remembered at recalls
  cases recalls with
  | @begun e origin operation he hturn =>
    -- names chosen would make the turn a registration
    have hnames : (e.begin operation s.host.draws).1.next.names? = none := by
      rcases hnames : (e.begin operation s.host.draws).1.next.names? with _ | names
      · rfl
      · have hsome : s.registration? i = some ⟨origin, operation.callbacks, names⟩ :=
          registration?_eq_some_iff.mpr ⟨e, operation, hturn, he, rfl, hnames⟩
        rw [hr] at hsome
        cases hsome
    show (e.begin operation s.host.draws).1.engine.triggers = _
    rw [(e.begin_changes operation s.host.draws).2.2, hnames, triggers_eq he]
    rfl
  | @resumed e origin stage reply he hturn =>
    show (e.resume stage reply).engine.triggers = _
    rw [(e.resume_changes stage reply).2.2, triggers_eq he]
  | created config absent =>
    rw [triggers_eq_memory?, absent]
    rfl
  | same elsewhere => exact (triggers_eq_memory? s.host i).symm

/-- After a registration its names are bound, and all others are as before. -/
theorem bound?_perform_of_some {i : Nat} {s : Taken} {r : Registration} (hr : s.registration? i = some r) :
    (∀ b ∈ r.names.zip r.callbacks, (s.host.perform s.turn).bound? i b.1 = some b.2) ∧
      ∀ name, name ∉ r.names → (s.host.perform s.turn).bound? i name = s.host.bound? i name := by
  obtain ⟨hlength, hnodup, -⟩ := registration_spec hr
  have hkeys : (r.names.zip r.callbacks).map (·.1) = r.names :=
    List.map_fst_zip (Nat.le_of_eq hlength)
  constructor
  -- no name comes twice, so none is overwritten
  · rintro ⟨name, callback⟩ hb
    rw [bound?_eq_get?, triggers_perform_of_some hr]
    exact Table.get?_foldl_insert_of_mem (by rw [hkeys]; exact hnodup) hb _
  · intro name hname
    rw [bound?_eq_get?, triggers_perform_of_some hr,
      Table.get?_foldl_insert_of_notMem (by rw [hkeys]; exact hname), bound?_eq_get?]

/-- A turn that is no registration leaves all bindings as they are. -/
theorem bound?_perform_of_none {i : Nat} {s : Taken} (hr : s.registration? i = none) (name : String) :
    (s.host.perform s.turn).bound? i name = s.host.bound? i name := by
  rw [bound?_eq_get?, triggers_perform_of_none hr, bound?_eq_get?]

/-! ### Answers -/

variable {latency : Nat} {rules : List Rule} {draws : Draws} {config : Config} {h : Host}
  {past : List Taken}

theorem left_naming? (i : Nat) : Left (Turn.naming? i) := ⟨fun _ => rfl, fun _ => rfl⟩

/-- Which turns take the reply to a registration. -/
theorem naming?_eq_some_iff {i : Nat} {t : Turn} {origin : Origin} {names : List String} :
    t.naming? i = some (origin, names) ↔
      ∃ single reply, t = .resume origin i (.binding names single) reply := by
  unfold Turn.naming?
  split
  · rename_i origin' j names' single reply
    constructor
    · intro h
      split at h
      · rename_i hj
        cases h
        exact ⟨single, reply, by rw [hj]⟩
      · cases h
    · rintro ⟨_, _, h⟩
      cases h
      simp
  · rename_i hne
    constructor
    · intro h
      cases h
    · rintro ⟨single, reply, rfl⟩
      exact absurd rfl (hne origin i names single reply)

/-- A registration leaves the wait for its answer, and no other turn leaves one. -/
theorem filterMap_leaves_naming? (i : Nat) (s : Taken) :
    s.leaves.filterMap (Turn.naming? i) =
      ((s.registration? i).map fun r => (r.origin, r.names)).toList := by
  apply filterMap_leaves_of_stretch (Turn.naming? i) (fun _ => rfl) (fun _ _ => rfl)
  · rintro origin j o t ⟨origin', names⟩ hs ht hk
    obtain ⟨single, reply, rfl⟩ := naming?_eq_some_iff.mp hk
    obtain ⟨rfl, rfl, commands, hn, -⟩ := resume_mem_handsOn.mp ht
    obtain ⟨e, he, ⟨operation, hturn, rfl⟩ | ⟨stage, reply', -, rfl⟩⟩ := stretch?_eq_some_iff.mp hs
    · have hnames := Engine.names?_eq_some_iff.mpr ⟨commands, single, hn⟩
      have hr : s.registration? i = some ⟨origin', operation.callbacks, names⟩ :=
        registration?_eq_some_iff.mpr ⟨e, operation, hturn, he, rfl, hnames⟩
      rw [hr]
      rfl
    · exact absurd (Engine.resume_eq_send_iff.mp hn) Engine.Continues.binding
  · rintro b hb
    obtain ⟨r, hr, rfl⟩ := Option.map_eq_some_iff.mp hb
    obtain ⟨e, operation, hturn, he, -, hnames⟩ := registration?_eq_some_iff.mp hr
    obtain ⟨commands, single, hn⟩ := Engine.names?_eq_some_iff.mp hnames
    refine ⟨r.origin, i, (e.begin operation s.host.draws).1,
      stretch?_eq_some_iff.mpr ⟨e, he, .inl ⟨operation, hturn, rfl⟩⟩, ?_⟩
    simp [handsOn, hn, Turn.naming?]

/-- A single name that is waited for is the only one: its call had one callback. -/
theorem length_of_single {h : Host} {t : Turn} {origin : Origin} {i : Nat} {names : List String}
    {reply : String} (hmem : .resume origin i (.binding names true) reply ∈ h.leaves t) :
    names.length = 1 := by
  obtain ⟨o, commands, hs, hn, -⟩ := resume_mem_leaves.mp hmem
  obtain ⟨e, -, ⟨operation, -, rfl⟩ | ⟨stage, reply', -, rfl⟩⟩ := stretch?_eq_some_iff.mp hs
  · obtain ⟨⟨plugin, draws', free⟩, hsingle⟩ := (Engine.begin_eq_send_iff.mp hn).binding
    rw [Trigger.length_allocateMany free, hsingle rfl]
  · exact absurd (Engine.resume_eq_send_iff.mp hn) Engine.Continues.binding

/-- What a turn returns are just the names in the reply that it takes. -/
theorem returned?_eq (trace : Trace (start latency rules draws config) past h) {s : Taken} (hs : s ∈ past)
    (i : Nat) : s.returned? i = s.turn.naming? i := by
  unfold Taken.returned? Turn.naming?
  split
  · rename_i origin j names single reply hturn
    split
    · rename_i hj
      subst hj
      obtain ⟨hknown, s', -, hleaves⟩ := trace.asked_of_mem hs hturn
      obtain ⟨e, he⟩ := exists_of_memory? hknown
      have hstretch : s.stretch? = some (origin, j, e.resume (.binding names single) reply) :=
        stretch?_eq_some_iff.mpr ⟨e, he, .inr ⟨_, _, hturn, rfl⟩⟩
      -- a single name is answered as itself, which loses none only because there is no other
      have hnames : Answer.names (if single then .text (names.headD "") else .texts names) = names := by
        cases single with
        | false => rfl
        | true =>
          obtain ⟨name, rfl⟩ := List.length_eq_one_iff.mp (length_of_single hleaves)
          rfl
      rw [hstretch, Option.bind_some]
      simp only [Engine.resume, Engine.resumeBind, Next.answer?, Option.map_some, hnames]
    · rfl
  · rfl

/-- A call that is to bind callbacks does so, or has none, or finds no free name. -/
theorem binds_cases {e : Engine} {operation : Operation} {draws : Draws} (hbinds : operation.binds) :
    (∃ names, (e.begin operation draws).1.next.names? = some names) ∨
      operation.callbacks = [] ∧ (e.begin operation draws).1.next = .done (.texts []) ∨
        (e.begin operation draws).1.next = .endless := by
  cases operation with
  | bind plugin callback =>
    simp only [Engine.begin, Engine.beginBind]
    split
    · exact .inl ⟨_, rfl⟩
    · exact .inr (.inr rfl)
  | bindAll plugin callbacks =>
    cases callbacks with
    | nil => exact .inr (.inl ⟨rfl, rfl⟩)
    | cons callback callbacks =>
      simp only [Engine.begin, Engine.beginBind]
      split
      · exact .inl ⟨_, rfl⟩
      · exact .inr (.inr rfl)
  | _ => cases hbinds

/-! ### The whole trace -/

/-- Names bound by one turn more: they are free, so they differ from all that are bound. -/
theorem Kept.perform {i : Nat} {past : List Taken} {s : Taken} (kept : Kept i past s.host) :
    Kept i (s :: past) (s.host.perform s.turn) := by
  -- a turn without names changes nothing, and a registration adds new ones only
  rcases hr : s.registration? i with _ | r
  · have hsame : registrations i (s :: past) = registrations i past := List.filterMap_cons_none hr
    constructor
    · rw [hsame]
      exact kept.distinct
    · rw [hsame]
      exact kept.one_each
    · intro r hmem b hb
      rw [hsame] at hmem
      rw [bound?_perform_of_none hr]
      exact kept.bound r hmem b hb
  · have hcons : registrations i (s :: past) = r :: registrations i past := List.filterMap_cons_some hr
    obtain ⟨hlength, hnodup, hfree⟩ := registration_spec hr
    obtain ⟨hnew, hold⟩ := bound?_perform_of_some hr
    -- a name bound before is not among the new ones, which were free
    have hother : ∀ r' ∈ registrations i past, ∀ b ∈ r'.names.zip r'.callbacks, b.1 ∉ r.names := by
      intro r' hr' b hb hmem
      have hbound := kept.bound r' hr' b hb
      rw [hfree b.1 hmem] at hbound
      cases hbound
    constructor
    · rw [hcons, List.flatMap_cons]
      refine List.nodup_append.mpr ⟨hnodup, kept.distinct, ?_⟩
      intro name hname name' hname' heq
      subst heq
      obtain ⟨r', hr', hmem⟩ := List.mem_flatMap.mp hname'
      obtain ⟨callback, hb⟩ := exists_mem_zip (kept.one_each r' hr') hmem
      exact hother r' hr' _ hb hname
    · rw [hcons, List.forall_mem_cons]
      exact ⟨hlength, kept.one_each⟩
    · rw [hcons, List.forall_mem_cons]
      refine ⟨hnew, fun r' hr' b hb => ?_⟩
      rw [hold b.1 (hother r' hr' b hb)]
      exact kept.bound r' hr' b hb

theorem Kept.of_memory? {i : Nat} {past : List Taken} {h h' : Host} (kept : Kept i past h)
    (same : h'.memory? i = h.memory? i) : Kept i past h' := by
  refine ⟨kept.distinct, kept.one_each, fun r hr b hb => ?_⟩
  rw [bound?_eq_memory?, same, ← bound?_eq_memory?]
  exact kept.bound r hr b hb

/-- Names are kept in every trace. -/
theorem Trace.kept (trace : Trace (start latency rules draws config) past h) (i : Nat) : Kept i past h := by
  induction trace with
  | refl => exact ⟨List.nodup_nil, by simp [registrations], by simp [registrations]⟩
  | @tail past h h' taken trace step ih =>
    cases taken with
    | none => exact ih.of_memory? (step.of_none.2.1 i)
    | some s =>
      obtain ⟨rfl, _, memory, _⟩ := step.of_some
      have hbefore : Kept i past s.host := ih.of_memory? (memory i)
      exact hbefore.perform

/-- Names that a call has bound are answered, or the call waits for that. -/
theorem returned?_add_naming? (trace : Trace (start latency rules draws config) past h) (i : Nat) :
    ((past.filterMap (Taken.returned? i) : List _) : Multiset (Origin × List String)) +
      h.agenda.filterMap (Turn.naming? i) = (registrations i past).map fun r => (r.origin, r.names) := by
  have hreturned : past.filterMap (Taken.returned? i) = past.filterMap fun s => s.turn.naming? i := by
    apply List.filterMap_congr
    intro s hs
    exact returned?_eq trace hs i
  have hleft : past.filterMap (fun s => (s.registration? i).map fun r => (r.origin, r.names)) =
      (registrations i past).map fun r => (r.origin, r.names) := by
    rw [registrations, List.map_filterMap]
  have hc := trace.conservation_of_start (left_naming? i)
  rw [filterMap_flatMap_toList fun s _ => filterMap_leaves_naming? i s, hleft] at hc
  rw [hreturned, hc]

/-- What becomes of a call when it begins. -/
theorem registration?_of_binds {i : Nat} {s : Taken} {origin : Origin} {operation : Operation} {o : Outcome}
    (hturn : s.turn = .begin origin (.operate i operation)) (hs : s.stretch? = some (origin, i, o))
    (hbinds : operation.binds) :
    (s.registration? i).isSome ∨ operation.callbacks = [] ∧ o.next = .done (.texts []) ∨
      o.next = .endless := by
  obtain ⟨e, he, ⟨operation', hturn', rfl⟩ | ⟨stage, reply, hturn', -⟩⟩ := stretch?_eq_some_iff.mp hs
  · rw [hturn] at hturn'
    cases hturn'
    obtain ⟨names, hnames⟩ | hempty | hendless := binds_cases hbinds
    · left
      have hr : s.registration? i = some ⟨origin, operation.callbacks, names⟩ :=
        registration?_eq_some_iff.mpr ⟨e, operation, hturn, he, rfl, hnames⟩
      rw [hr]
      rfl
    · exact .inr (.inl hempty)
    · exact .inr (.inr hendless)
  · rw [hturn] at hturn'
    cases hturn'

/-- In every trace, the names of triggers are unique and stay bound. -/
theorem namesKept_of_trace (trace : Trace (start latency rules draws config) past h) (i : Nat) :
    NamesKept i past h := by
  have kept := trace.kept i
  have answered := returned?_add_naming? trace i
  refine { kept with answered := answered, returned := ?_, called := ?_ }
  · -- the names answered are some of those chosen
    have hnames := congrArg (Multiset.bind · fun a => (a.2 : Multiset String)) answered
    simp only [Multiset.add_bind, Multiset.coe_bind, List.flatMap_map] at hnames
    have hdistinct : (((registrations i past).flatMap Registration.names : List String) :
      Multiset String).Nodup := kept.distinct
    rw [← hnames] at hdistinct
    exact (Multiset.nodup_add.mp hdistinct).1
  · intro s _ origin operation o hturn hs hbinds
    exact registration?_of_binds hturn hs hbinds

/-- A run with two calls and draws that repeat: the second call passes over the name that is taken. -/
theorem namesKept_of_two_calls : ∃ past h, Trace (start 0 [] ⟨[7, 7], 0⟩ {}) past h ∧
    NamesKept 0 past h ∧
      h.engines.map (·.triggers.keys) = [["tri_tQaBe_AAAABw", "tri_tQaBe_AAAAAA"]] := by
  let bind (id : String) := Request.operate 0 (.bind ⟨"demo", "demo"⟩ { id })
  have run : (((start 0 [] ⟨[7, 7], 0⟩ {}).drive 50 (bind "first")).bind
      (drive 50 · (bind "second"))).map (fun h => h.engines.map (·.triggers.keys)) =
        some [["tri_tQaBe_AAAABw", "tri_tQaBe_AAAAAA"]] := by decide +kernel
  obtain ⟨h, hdriven, hkeys⟩ := Option.map_eq_some_iff.mp run
  obtain ⟨bound, hfirst, hsecond⟩ := Option.bind_eq_some_iff.mp hdriven
  obtain ⟨past, trace⟩ := (steps_of_drive hfirst).trans (steps_of_drive hsecond)
  exact ⟨past, h, trace, namesKept_of_trace trace 0, hkeys⟩

end Host

end Scoreboard
