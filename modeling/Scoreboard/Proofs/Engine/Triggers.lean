import Scoreboard.Proofs.Engine.Changes
import Scoreboard.Proofs.Engine.Stretch
import Scoreboard.Proofs.Trigger

/-!
# The names that an engine binds

The stretch from the beginning of an operation is the only one that binds triggers. The names are free when
they are bound, no two of them are the same, and there is one for each callback (`names_of_begin`).
-/

namespace Scoreboard

namespace Engine

variable {e : Engine} {names : List String} {commands : List Command} {single : Bool}

/-- Which stretches bind names: those that go on to wait for their triggers to be made. -/
theorem names?_eq_some_iff {next : Next} :
    next.names? = some names ↔ ∃ commands single, next = .send commands (.binding names single) := by
  unfold Next.names?
  split
  · simp
  · rename_i hne
    constructor
    · intro h
      cases h
    · rintro ⟨commands, single, rfl⟩
      exact absurd rfl (hne commands names single)

/-- A wait for new triggers comes from names chosen for the callbacks of the operation. -/
theorem Opens.binding {operation : Operation} {draws : Draws}
    (opens : e.Opens draws operation commands (.binding names single)) :
    (∃ (plugin : Plugin) (draws' : Draws),
      Trigger.allocateMany plugin.namespaceToken operation.callbacks.length e.triggers.keys draws =
        some (names, draws')) ∧ (single → operation.callbacks.length = 1) := by
  cases opens with
  | bind free => exact ⟨⟨_, _, free⟩, fun _ => rfl⟩
  | bindAll free => exact ⟨⟨_, _, free⟩, fun h => by cases h⟩

theorem Continues.binding {reply : String} {waiting : Stage} :
    ¬e.Continues reply waiting commands (.binding names single) := by
  intro continues
  cases continues

/-- The names that an operation binds are one for each callback, distinct, and free. -/
theorem names_of_begin {operation : Operation} {draws : Draws}
    (h : (e.begin operation draws).1.next.names? = some names) :
    names.length = operation.callbacks.length ∧ names.Nodup ∧
      ∀ name ∈ names, e.triggers.get? name = none := by
  obtain ⟨commands, single, h⟩ := names?_eq_some_iff.mp h
  obtain ⟨⟨plugin, draws', free⟩, _⟩ := (begin_eq_send_iff.mp h).binding
  refine ⟨Trigger.length_allocateMany free, Trigger.nodup_allocateMany free, fun name hname => ?_⟩
  exact Table.notMem_keys_iff.mp (Trigger.allocateMany_fresh free name hname)

end Engine

end Scoreboard
