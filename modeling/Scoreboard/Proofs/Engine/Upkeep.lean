import Scoreboard.Proofs.Command
import Scoreboard.Proofs.Engine.Triggers

/-!
# Batches that make and remove triggers

A batch of commands makes the triggers that a call has bound, or it removes the objectives that a listing
has shown to be stale. What their lines say about a trigger (`Command.isAbout`): where triggers are made the
last line about each of them enables it and no line is about another one (`find?_triggerCommands`), and where
objectives are removed only those have a line that are stale (`Continues.removing`, `find?_removals`).
-/

namespace Scoreboard

namespace Command

/-- Whether a line adds, enables or removes a trigger. -/
def isAbout (name line : String) : Bool :=
  line = (addTrigger name).text || line = (enableTrigger name).text ||
    line = (removeObjective name).text

theorem isAbout_addTrigger (name other : String) :
    isAbout name (addTrigger other).text = decide (other = name) := by
  simp [isAbout, text_addTrigger, text_enableTrigger, text_removeObjective, ← String.toList_inj]

theorem isAbout_enableTrigger (name other : String) :
    isAbout name (enableTrigger other).text = decide (other = name) := by
  simp [isAbout, text_addTrigger, text_enableTrigger, text_removeObjective, ← String.toList_inj]

theorem isAbout_removeObjective (name other : String) :
    isAbout name (removeObjective other).text = decide (other = name) := by
  simp [isAbout, text_addTrigger, text_enableTrigger, text_removeObjective, ← String.toList_inj]

theorem newline_notMem_addTrigger {name : String} (h : '\n' ∉ name.toList) :
    '\n' ∉ (addTrigger name).text.toList := by
  simpa [text_addTrigger] using h

theorem newline_notMem_enableTrigger {name : String} (h : '\n' ∉ name.toList) :
    '\n' ∉ (enableTrigger name).text.toList := by
  simpa [text_enableTrigger] using h

theorem newline_notMem_removeObjective {name : String} (h : '\n' ∉ name.toList) :
    '\n' ∉ (removeObjective name).text.toList := by
  simpa [text_removeObjective] using h

end Command

namespace Engine

open Command

variable {names : List String} {name : String}

/-! ### Making triggers -/

theorem mem_triggerCommands {command : Command} :
    command ∈ triggerCommands names ↔
      ∃ name ∈ names, command = .addTrigger name ∨ command = .enableTrigger name := by
  simp [triggerCommands]

/-- The last line about a name in such a batch lets players use it. -/
theorem find?_texts_triggerCommands (names : List String) (name : String) :
    ((triggerCommands names).map text).reverse.find? (isAbout name) =
      if name ∈ names then some (enableTrigger name).text else none := by
  induction names with
  | nil => rfl
  | cons first names ih =>
    have hcons : ((triggerCommands (first :: names)).map text).reverse =
        ((triggerCommands names).map text).reverse ++ [(enableTrigger first).text, (addTrigger first).text] := by
      simp [triggerCommands]
    rw [hcons, List.find?_append, ih]
    by_cases hmem : name ∈ names
    · rw [if_pos hmem, if_pos (List.mem_cons_of_mem first hmem)]
      rfl
    · rw [if_neg hmem, Option.none_or]
      by_cases hfirst : first = name
      · subst hfirst
        simp [isAbout_enableTrigger]
      · simp [isAbout_enableTrigger, isAbout_addTrigger, hfirst, hmem, Ne.symm hfirst]

/-- The last line about a trigger in the batch that makes it and others enables it. -/
theorem find?_triggerCommands (unbroken : ∀ name ∈ names, '\n' ∉ name.toList) (name : String) :
    (lines (batch (triggerCommands names))).reverse.find? (isAbout name) =
      if name ∈ names then some (enableTrigger name).text else none := by
  cases names with
  | nil =>
    -- nothing is sent for no names, and an empty text has one line, which is about no trigger
    simp [triggerCommands, batch, lines, isAbout, text_addTrigger, text_enableTrigger,
      text_removeObjective, ← String.toList_inj]
  | cons first names =>
    have ne : triggerCommands (first :: names) ≠ [] := List.cons_ne_nil _ _
    rw [lines_batch ne, find?_texts_triggerCommands]
    intro command hcommand
    obtain ⟨name, hname, rfl | rfl⟩ := mem_triggerCommands.mp hcommand
    · exact newline_notMem_addTrigger (unbroken name hname)
    · exact newline_notMem_enableTrigger (unbroken name hname)

/-- An operation that waits for names to be made has sent the batch for them. -/
theorem Opens.makes {e : Engine} {operation : Operation} {draws : Draws} {commands : List Command}
    {single : Bool} (opens : e.Opens draws operation commands (.binding names single)) :
    commands = triggerCommands names := by
  cases opens with
  | bind free => rfl
  | bindAll free => rfl

/-- Names of triggers have no line break: they are made of the symbols of base64. -/
theorem newline_notMem_of_begin {e : Engine} {operation : Operation} {draws : Draws}
    (h : (e.begin operation draws).1.next.names? = some names) : ∀ name ∈ names, '\n' ∉ name.toList := by
  obtain ⟨commands, single, h⟩ := names?_eq_some_iff.mp h
  obtain ⟨⟨plugin, draws', free⟩, _⟩ := (begin_eq_send_iff.mp h).binding
  exact fun name hname => (Trigger.plain_of_mem_allocateMany free hname).2

/-! ### Removing objectives -/

theorem Opens.removing {e : Engine} {operation : Operation} {draws : Draws} {commands : List Command}
    {count : Nat} {starting : Bool} :
    ¬e.Opens draws operation commands (.removing count starting) := by
  intro opens
  cases opens

/-- What is removed is what a listing has named and is stale. -/
theorem Continues.removing {e : Engine} {reply : String} {waiting : Stage} {commands : List Command}
    {count : Nat} {starting : Bool} (continues : e.Continues reply waiting commands (.removing count starting)) :
    waiting = .listingObjectives starting ∧ ∃ names, Reply.objectives? reply = some names ∧
      commands = (names.filter e.isStale).map .removeObjective ∧ names.filter e.isStale ≠ [] := by
  cases continues with
  | @remove _ names listed stale => exact ⟨rfl, names, listed, rfl, stale⟩

/-- A name is stale if it is a generated one and not bound. -/
theorem isStale_eq_true_iff {e : Engine} :
    e.isStale name = true ↔ Trigger.isGenerated name = true ∧ e.triggers.get? name = none := by
  rw [isStale, Table.contains, Bool.and_eq_true, Bool.not_eq_true', Option.isSome_eq_false_iff,
    Option.isNone_iff_eq_none]

/-- A batch that removes objectives has no line about another one. -/
theorem find?_removals (ne : names ≠ []) (unbroken : ∀ name ∈ names, '\n' ∉ name.toList)
    (h : name ∉ names) :
    (lines (batch (names.map .removeObjective))).reverse.find? (isAbout name) = none := by
  have hlines : lines (batch (names.map .removeObjective)) =
      names.map fun other => (removeObjective other).text := by
    rw [lines_batch (by simpa using ne), List.map_map]
    · rfl
    · intro command hcommand
      obtain ⟨other, hother, rfl⟩ := List.mem_map.mp hcommand
      exact newline_notMem_removeObjective (unbroken other hother)
  rw [hlines, List.find?_eq_none]
  intro line hline
  obtain ⟨other, hother, rfl⟩ := List.mem_map.mp (List.mem_reverse.mp hline)
  rw [isAbout_removeObjective, decide_eq_true_eq]
  rintro rfl
  exact h hother

end Engine

end Scoreboard
