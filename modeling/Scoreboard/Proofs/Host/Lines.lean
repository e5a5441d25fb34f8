import Scoreboard.Proofs.Host.Views

/-!
# What console lines add

A line that the console puts out reaches the engines that listen and that somebody holds on to
(`listeners`); an engine that has not been shut down takes it for the fire it tells of (`hears?`). For
each such fire there is a deed in the journal and a dispatch among the work (`adds_emits`), in the order
of the lines and, for one line, of the engines that listen.

Taking a line for a fire keeps the engine alive that was alive before, and no other, so who listens is
the same from the first line of a turn to the last.
-/

namespace Scoreboard

/-- The work that a fire heard by an engine leaves. -/
def Turn.dispatching (f : Nat × Fire) : Turn := .begin .line (.operate f.1 (.dispatch f.2))

/-- The deed that a fire heard by an engine is. -/
def Event.hearing (f : Nat × Fire) : Event := .accepted f.1 f.2

namespace Host

/-- The fire that an engine takes a line for. -/
def hears? (h : Host) (i : Nat) (line : String) : Option Fire :=
  match h.engines[i]? with
  | some e => if e.isShutDown then none else Fire.ofLine? line
  | none => none

/-- The engines that a line of the console reaches. -/
def listeners (h : Host) : List Nat := h.console.serving.filter (h.isAlive ·)

/-- The fires that some engines take a line for. -/
def firesOf (h : Host) (engines : List Nat) (line : String) : List (Nat × Fire) :=
  engines.flatMap fun i => (h.hears? i line).toList.map (i, ·)

/-- The fires that lines of the console are taken for. -/
def fires (h : Host) (lines : List String) : List (Nat × Fire) := lines.flatMap (h.firesOf h.listeners)

/-- What fires heard one after the other add: each is to be dispatched at once. -/
def AddsFires (h h' : Host) (fs : List (Nat × Fire)) : Prop :=
  h.Adds h' (fs.map Event.hearing).reverse (fs.map fun f => ⟨h.now, .dispatching f⟩).reverse

theorem AddsFires.refl (h : Host) : h.AddsFires h [] := Adds.refl h

/-- Fires heard one after the other add up, the newest first, and all are due at the same time. -/
theorem AddsFires.trans {a b c : Host} {fs gs : List (Nat × Fire)} (hab : a.AddsFires b fs)
    (hbc : b.AddsFires c gs) : a.AddsFires c (fs ++ gs) := by
  have h := Adds.trans hab hbc
  -- no time has passed for the later fires
  rw [hab.now] at h
  rw [← List.reverse_append, ← List.map_append, ← List.reverse_append, ← List.map_append] at h
  exact h

/-! ### Same engines, same console -/

theorem Beside.engines {h h' : Host} (hh : h.Beside h') : h'.engines = h.engines := by
  obtain ⟨_, _, rfl⟩ := hh
  rfl

theorem Beside.console {h h' : Host} (hh : h.Beside h') : h'.console = h.console := by
  obtain ⟨_, _, rfl⟩ := hh
  rfl

theorem Beside.draws {h h' : Host} (hh : h.Beside h') : h'.draws = h.draws := by
  obtain ⟨_, _, rfl⟩ := hh
  rfl

theorem Beside.latency {h h' : Host} (hh : h.Beside h') : h'.latency = h.latency := by
  obtain ⟨_, _, rfl⟩ := hh
  rfl

theorem Beside.hears? {h h' : Host} (hh : h.Beside h') (i : Nat) (line : String) :
    h'.hears? i line = h.hears? i line := by
  rw [Host.hears?, hh.engines, Host.hears?]

theorem Beside.firesOf {h h' : Host} (hh : h.Beside h') (engines : List Nat) (line : String) :
    h'.firesOf engines line = h.firesOf engines line := by
  simp only [Host.firesOf, hh.hears?]

theorem Beside.listeners {h h' : Host} (hh : h.Beside h') (alive : ∀ i, h'.isAlive i = h.isAlive i) :
    h'.listeners = h.listeners := by
  simp only [Host.listeners, hh.console, alive]

/-! ### One line, one engine -/

/-- An engine that is shown a line leaves it to a later turn to do something about it. -/
theorem beside_offer (h : Host) (i : Nat) (line : String) : h.Beside (h.offer i line) := by
  unfold offer
  split
  · split
    · exact .refl h
    · exact (beside_note h i _).trans ⟨_, _, rfl⟩
  · exact .refl h

/-- An engine that takes a line for a fire adds the fire. That its value has been clamped is a note beside it. -/
theorem addsFires_offer (h : Host) (i : Nat) (line : String) :
    h.AddsFires (h.offer i line) (h.firesOf [i] line) := by
  have hears : h.firesOf [i] line = (h.hears? i line).toList.map (i, ·) := by simp [firesOf]
  rw [hears]
  unfold offer
  split
  · rename_i e l he hl
    -- there is an engine and a fire, which is not taken after the teardown
    have hfire : Fire.ofLine? line = some l.fire := by simp [Fire.ofLine?, hl]
    split
    · rename_i hdown
      simp only [hears?, he, hdown, if_true]
      exact AddsFires.refl h
    · rename_i hdown
      simp only [hears?, he, hdown, hfire, Bool.false_eq_true, if_false]
      have hnote := adds_note h i ((l.amount.filter (·.exceedsInt32)).toList.map .clamped)
      have hrecord := hnote.trans (adds_record _ (.accepted i l.fire) rfl)
      rw [hnote.now]
      exact hrecord.trans (adds_schedule _ h.now (.dispatching (i, l.fire)) rfl)
  · rename_i hnone
    -- there is no engine, or the line tells of no fire
    have hears : h.hears? i line = none := by
      unfold hears?
      split
      · rename_i e he
        have hl : FireLine.read? line.toList = none := by
          cases hl : FireLine.read? line.toList with
          | none => rfl
          | some l => exact absurd hl (hnone e l he)
        simp [Fire.ofLine?, hl]
      · rfl
    rw [hears]
    exact AddsFires.refl h

/-- An engine that takes a line for a fire is kept alive by the dispatch, and was alive before. -/
theorem isAlive_offer {h : Host} {i : Nat} (alive : h.isAlive i) (line : String) (j : Nat) :
    (h.offer i line).isAlive j = h.isAlive j := by
  -- the dispatch is the only task added, and it holds on to engine `i`
  have htasks : ∀ notes : List Note, (h.note i notes).tasks = h.tasks := by
    intro notes
    induction notes generalizing h with
    | nil => rfl
    | cons note notes ih => exact ih (h := h.record (.noted i note)) alive
  have hengines := (beside_offer h i line).engines
  unfold isAlive
  rw [hengines]
  unfold offer
  split
  · split
    · rfl
    · have hnote := htasks
      simp only [schedule, record, hnote, List.any_append, List.any_cons, List.any_nil, Bool.or_false]
      by_cases hj : j = i
      · subst hj
        rw [isAlive] at alive
        simp only [alive, ← Bool.or_assoc, Bool.true_or]
      · simp [Turn.engine?, Request.engine?, Ne.symm hj]
  · rfl

/-! ### Lines of the console -/

/-- Serving a line to some engines. -/
theorem serve_spec (line : String) (engines : List Nat) (h : Host) :
    let served := engines.foldl (fun h i => if h.isAlive i then h.offer i line else h) h
    h.Beside served ∧ (∀ j, served.isAlive j = h.isAlive j) ∧
      h.AddsFires served (h.firesOf (engines.filter (h.isAlive ·)) line) := by
  induction engines generalizing h with
  | nil => exact ⟨.refl h, fun _ => rfl, AddsFires.refl h⟩
  | cons i engines ih =>
    by_cases alive : h.isAlive i
    · obtain ⟨hbeside, halive, hadds⟩ := ih (h.offer i line)
      have hoffer := beside_offer h i line
      have same := isAlive_offer alive line
      simp only [List.foldl_cons, alive, if_true, List.filter_cons]
      refine ⟨hoffer.trans hbeside, fun j => (halive j).trans (same j), ?_⟩
      -- the engines served later are alive before this one is served or not at all
      have hrest : (h.offer i line).firesOf (engines.filter ((h.offer i line).isAlive ·)) line =
          h.firesOf (engines.filter (h.isAlive ·)) line := by
        rw [hoffer.firesOf]
        simp only [same]
      rw [hrest] at hadds
      have hcons : h.firesOf (i :: engines.filter (h.isAlive ·)) line =
          h.firesOf [i] line ++ h.firesOf (engines.filter (h.isAlive ·)) line := by
        simp [firesOf]
      rw [hcons]
      exact (addsFires_offer h i line).trans hadds
    · simp only [List.foldl_cons, alive, Bool.false_eq_true, if_false, List.filter_cons]
      exact ih h

/-- A line of the console leaves all engines as they are. -/
theorem beside_emit (h : Host) (line : String) : h.Beside (h.emit line) :=
  (serve_spec line h.console.serving h).1

/-- A line of the console keeps alive who was alive, and nobody else. -/
theorem isAlive_emit (h : Host) (line : String) (j : Nat) : (h.emit line).isAlive j = h.isAlive j :=
  (serve_spec line h.console.serving h).2.1 j

/-- A line of the console adds a fire for each engine it reaches that takes it for one. -/
theorem addsFires_emit (h : Host) (line : String) :
    h.AddsFires (h.emit line) (h.firesOf h.listeners line) :=
  (serve_spec line h.console.serving h).2.2

theorem beside_emits (h : Host) (lines : List String) : h.Beside (lines.foldl emit h) := by
  induction lines generalizing h with
  | nil => exact .refl h
  | cons line lines ih => exact (beside_emit h line).trans (ih _)

/-- Lines of the console add the fires of each line in turn: who listens to the first listens to the last. -/
theorem adds_emits (h : Host) (lines : List String) :
    h.AddsFires (lines.foldl emit h) (h.fires lines) := by
  induction lines generalizing h with
  | nil => exact AddsFires.refl h
  | cons line lines ih =>
    have hbeside := beside_emit h line
    -- the later lines are heard as they would be without the first
    have hfires : (h.emit line).fires lines = h.fires lines := by
      rw [fires, fires, hbeside.listeners (isAlive_emit h line)]
      congr 1
      funext line'
      exact hbeside.firesOf _ _
    have hrest := ih (h.emit line)
    rw [hfires] at hrest
    exact (addsFires_emit h line).trans hrest

end Host

end Scoreboard
