import Scoreboard.Logging.Filter
import Scoreboard.Settings
import Scoreboard.Text.Quoted

/-!
# The process log

A process sets up its log once. The filter is the one that the environment asks for, if it asks for one
that can be read, else the level of the settings.
-/

namespace Scoreboard

/-- An event that is logged. -/
structure LogEvent where
  level : Level
  message : String
  deriving DecidableEq, Repr

/-- A character of a message in a plain line. The control characters that a terminal may take for
instructions are written as code points. -/
def LogEvent.plainChar (c : Char) : List Char :=
  match c with
  | '\x07' => "\\x07".toList
  | '\x08' => "\\x08".toList
  | '\x0c' => "\\x0c".toList
  | '\x1b' => "\\x1b".toList
  | '\x7f' => "\\x7f".toList
  | c =>
    if 0x80 ≤ c.toNat && c.toNat ≤ 0x9F then
      ['\\', 'u', '\x7b'] ++ Text.hexadecimal c.toNat ++ ['\x7d']
    else
      [c]

/-- An event as a plain line: the level to the right of five characters, then the message. -/
def LogEvent.plain (e : LogEvent) : String :=
  let label := e.level.label
  String.ofList (List.replicate (5 - label.length) ' ') ++ label ++ " " ++
    String.ofList (e.message.toList.flatMap plainChar)

/-- An event as it stands among the plain lines, of which its message may fill several. A line ends with
a line feed, or with a carriage return and a line feed. -/
def LogEvent.plainLines (e : LogEvent) : List String :=
  (e.plain.toList.splitOn '\n').map fun line =>
    String.ofList (if line.getLast? = some '\r' then line.dropLast else line)

/-- A log that has been set up. -/
structure Log where
  filter : Filter
  json : Bool
  deriving DecidableEq, Repr

namespace Log

/-- The filter for settings and for what the environment asks for. There is none if the reading of a
directive ends inside a character. -/
def filter? (s : LogSettings) (environment : Option String) : Option Filter :=
  match environment.map Filter.parse with
  | some (.ok f) => some f
  | some (.error .insideCharacter) => none
  | some (.error .malformed) | none => Filter.parseLenient? s.level

/-- Why a log is not set up. -/
inductive SetUpError where
  /-- It has been set up before. -/
  | present
  /-- There is no filter. The process ends. -/
  | noFilter
  deriving DecidableEq, Repr

/-- Sets up the log of a process, which can be done once only. -/
def setUp (before : Option Log) (s : LogSettings) (environment : Option String) :
    Except SetUpError Log :=
  match filter? s environment, before with
  | none, _ => .error .noFilter
  | some f, none => .ok ⟨f, s.json⟩
  | some _, some _ => .error .present

/-- The events that a log puts out. -/
def output (l : Log) (events : List LogEvent) : List LogEvent :=
  events.filter fun e => l.filter.passes e.level

end Log

end Scoreboard
