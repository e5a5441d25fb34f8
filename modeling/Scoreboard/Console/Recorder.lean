import Scoreboard.Console

/-!
# Recorders

A recorder is a processor that keeps what it is served. After that it may remove an owner's processor
and register a new recorder, to any depth.
-/

namespace Scoreboard

/-- A processor that records lines. -/
inductive Recorder where
  /-- Records under `id`, then removes the processor of one owner, then registers a recorder. -/
  | mk (id : String) (removes : Option String) (registers : Option (String × Recorder))
  deriving Inhabited

/-- A line as it was recorded. -/
structure Recorded where
  id : String
  line : String
  /-- Whether the line was kept from the operator's screen. -/
  suppressed : Bool
  deriving DecidableEq, Repr

namespace Recorder

/-- The name under which a recorder records. -/
def id : Recorder → String
  | mk id _ _ => id

/-- What a recorder does about who is served after it has recorded a line. -/
def rearrangements : Recorder → List (Rearrangement Recorder)
  | mk _ removes registers =>
    removes.toList.map .unregister ++ registers.toList.map fun (owner, recorder) => .register owner recorder

/-- A recorder does the same whatever the line is. -/
def react : Reaction Recorder := fun delivery _ => delivery.processor.rearrangements

end Recorder

/-- Serves a line to the recorders registered when it comes in, and says what they record. -/
def Console.record (c : Console Recorder) (line : String) (suppressed : Bool) :
    List Recorded × Console Recorder :=
  let (deliveries, c) := c.serve Recorder.react line suppressed c.serving
  (deliveries.map fun d => ⟨d.processor.id, d.line, d.suppressed⟩, c)

end Scoreboard
