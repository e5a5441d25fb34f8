import Scoreboard.Logging.Directive

/-!
# Log filters

A filter is written as directives between commas. Of the directives that are for an event, one that names
its field comes before one that names nothing, and a later one before an earlier one.
-/

namespace Scoreboard

/-- The least level that is let through; nothing is, if there is none. -/
structure Filter where
  least : Option Level
  deriving DecidableEq, Repr

namespace Filter

/-- Whether an event of a level is let through. -/
def passes (f : Filter) (level : Level) : Bool :=
  match f.least with
  | some least => least.rank ≤ level.rank
  | none => false

/-- The directive that decides about the events logged here. -/
def decisive? (directives : List Directive) : Option Directive :=
  let candidates := directives.filter Directive.isForMessages
  match (candidates.filter fun d => d.field.isSome).getLast? with
  | some d => some d
  | none => candidates.getLast?

/-- The filter of directives, with the least level for the case that there are none. -/
def ofDirectives (fallback : Option Level) (directives : List Directive) : Filter :=
  if directives = [] then ⟨fallback⟩ else ⟨(decisive? directives).bind Directive.least⟩

/-- The directives between commas, as they are written; empty ones are passed over. -/
def pieces (text : String) : List (List Char) := (text.toList.splitOn ',').filter (· ≠ [])

/-- The filter that a text describes, if every directive can be read. Without any, nothing is let
through. -/
def parse (text : String) : Except DirectiveError Filter :=
  (ofDirectives none) <$> (pieces text).mapM Directive.read

/-- Whether reading has ended inside a character. -/
def endsInside : Except DirectiveError Directive → Bool
  | .error .insideCharacter => true
  | _ => false

/-- The filter of those directives of a text that are well-formed. Without any, errors are let through.
There is no filter if the reading of a directive ends inside a character. -/
def parseLenient? (text : String) : Option Filter :=
  let readings := (pieces text).map Directive.read
  if readings.any endsInside then none
  else some (ofDirectives (some .error) (readings.filterMap Except.toOption))

end Filter

end Scoreboard
