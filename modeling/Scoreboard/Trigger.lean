import Scoreboard.Plugin

/-!
# Trigger names

A trigger objective is named after its plugin's namespace and a random word. Names are drawn until one
is free; every candidate uses up one draw. The draws given come first, then a fixed sequence that
visits every word once before it repeats, so a search among fewer names than there are words ends.
-/

namespace Scoreboard

/-- Where random words come from: those given, then a fixed sequence. -/
structure Draws where
  given : List UInt32 := []
  /-- How many words of the fixed sequence have been used. -/
  used : Nat := 0
  deriving DecidableEq, Repr

namespace Draws

/-- The `k`-th word of the fixed sequence. -/
def fallback (k : Nat) : UInt32 := UInt32.ofNat (k * 2654435761)

/-- The next word, and the draws after it. -/
def next : Draws → UInt32 × Draws
  | ⟨w :: ws, k⟩ => (w, ⟨ws, k⟩)
  | ⟨[], k⟩ => (fallback k, ⟨[], k + 1⟩)

end Draws

namespace Trigger

/-- What every generated trigger name starts with. -/
def family : String := "tri_"

/-- The trigger name for a namespace token and a word. -/
def name (token : String) (word : UInt32) : String :=
  family ++ token ++ "_" ++ String.ofList (Base64.encodeWord word)

/-- Whether an objective name belongs to the generated triggers. -/
def isGenerated (objective : String) : Bool :=
  family.toList.isPrefixOf objective.toList

/-- The first free name among the next `n` draws. -/
def search (token : String) (taken : List String) : Nat → Draws → Option (String × Draws)
  | 0, _ => none
  | n + 1, draws =>
    let (word, draws) := draws.next
    let candidate := name token word
    if candidate ∈ taken then search token taken n draws else some (candidate, draws)

/-- The first free name. More words of the fixed sequence than there are names taken are looked at,
and names of different words differ, so none is missed while the namespace is not full. -/
def allocate (token : String) (taken : List String) (draws : Draws) : Option (String × Draws) :=
  search token taken (draws.given.length + taken.length + 1) draws

/-- The first free names, one for each of `n` bindings: a name is taken once it is chosen. -/
def allocateMany (token : String) :
    Nat → List String → Draws → Option (List String × Draws)
  | 0, _, draws => some ([], draws)
  | n + 1, taken, draws => do
    let (name, draws) ← allocate token taken draws
    let (names, draws) ← allocateMany token n (name :: taken) draws
    return (name :: names, draws)

end Trigger

end Scoreboard
