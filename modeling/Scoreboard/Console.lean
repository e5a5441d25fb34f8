import Scoreboard.Table

/-!
# The console

A console keeps every command it was told, answers each through a reply function that can be replaced,
and serves console lines to the processors registered with it, one to an owner.

Which processors a line is served to is fixed when the line comes in (`serving`): a processor that
registers or removes others while it is served (`serve`) changes who is served the next line, not this
one.
-/

namespace Scoreboard

/-- A canned reply. -/
inductive Rule where
  /-- For one command. -/
  | toCommand (command reply : String)
  /-- For every command that starts with a text. -/
  | toStart (start reply : String)
  deriving DecidableEq, Repr

/-- Whether a text starts with another. -/
def startsWith (s start : String) : Bool := start.toList.isPrefixOf s.toList

namespace Rule

/-- The reply of a rule that fits a command. -/
def reply? (command : String) : Rule → Option String
  | toCommand c reply => if command = c then some reply else none
  | toStart start reply => if startsWith command start then some reply else none

/-- The reply of the first rule that fits, else the empty reply. -/
def respond (rules : List Rule) (command : String) : String :=
  (rules.findSome? (reply? command)).getD ""

end Rule

/-- A console whose processors are of type `π`. -/
structure Console (π : Type) where
  respond : String → String := fun _ => ""
  /-- The commands told so far, the newest first. -/
  told : List String := []
  processors : Table π := {}

/-- What can be done about who is served. -/
inductive Rearrangement (π : Type) where
  /-- Registers a processor, in place of the owner's earlier one. -/
  | register (owner : String) (processor : π)
  /-- Removes an owner's processor. -/
  | unregister (owner : String)

/-- A line as a processor is served it. -/
structure Delivery (π : Type) where
  processor : π
  line : String
  /-- Whether the line was kept from the operator's screen. -/
  suppressed : Bool
  deriving DecidableEq, Repr

/-- What processors do about who is served when a line is delivered, given the console as they find it. -/
abbrev Reaction (π : Type) := Delivery π → Console π → List (Rearrangement π)

namespace Console

variable {π : Type}

/-- Tells the console a command and takes its reply. -/
def run (c : Console π) (command : String) : Console π × String :=
  ({ c with told := command :: c.told }, c.respond command)

/-- The commands told so far, in order. -/
def commands (c : Console π) : List String := c.told.reverse

/-- The commands told so far that start with a text. -/
def commandsStarting (c : Console π) (start : String) : List String :=
  c.commands.filter (startsWith · start)

/-- Forgets the commands told so far. -/
def forget (c : Console π) : Console π := { c with told := [] }

/-- Replaces the reply function. -/
def respondWith (c : Console π) (respond : String → String) : Console π := { c with respond }

/-- Registers a processor, in place of the owner's earlier one. -/
def register (c : Console π) (owner : String) (processor : π) : Console π :=
  { c with processors := c.processors.insert owner processor }

/-- Removes an owner's processor. -/
def unregister (c : Console π) (owner : String) : Console π :=
  { c with processors := c.processors.erase owner }

/-- Does something about who is served. -/
def rearrange (c : Console π) : Rearrangement π → Console π
  | .register owner processor => c.register owner processor
  | .unregister owner => c.unregister owner

/-- Whether an owner has a processor. -/
def hasProcessor (c : Console π) (owner : String) : Bool := c.processors.contains owner

/-- The processors that a line coming in now is served to. -/
def serving (c : Console π) : List π := c.processors.values

/-- Serves a line to processors, one after the other. What one of them does is done before the next one is
served. -/
def serve (react : Reaction π) (line : String) (suppressed : Bool) :
    List π → Console π → List (Delivery π) × Console π
  | [], c => ([], c)
  | processor :: others, c =>
    let delivery : Delivery π := ⟨processor, line, suppressed⟩
    let (deliveries, c) := serve react line suppressed others ((react delivery c).foldl rearrange c)
    (delivery :: deliveries, c)

/-- The console as a diagnostic shows it. -/
def describe (c : Console π) : String :=
  "MemoryConsole \x7b commands: " ++ toString c.told.length ++ ", processors: " ++
    toString c.processors.size ++ " \x7d"

end Console

end Scoreboard
