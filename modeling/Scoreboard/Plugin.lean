import Scoreboard.Encoding.Base64
import Scoreboard.Encoding.XXH64

/-!
# Plugins and their namespaces

Every objective of a plugin carries a short token in front, computed from the plugin's stable name.
The token is a function of the name alone, so objectives keep their names over restarts without a
stored table.
-/

namespace Scoreboard

/-- A plugin: its stable name, and the name shown in diagnostics. -/
structure Plugin where
  name : String
  displayName : String := name
  deriving DecidableEq, Repr

namespace Plugin

/-- The token of a word: the first five of its six base64 symbols, which leave out its two lowest
bits. -/
def tokenOfWord (w : UInt32) : String := String.ofList ((Base64.encodeWord w).take 5)

/-- The namespace token of a stable name, from the low word of the name's hash. -/
def token (name : String) : String :=
  tokenOfWord (XXH64.hash 0 name.toUTF8.toList).toUInt32

/-- The plugin's namespace token. -/
def namespaceToken (p : Plugin) : String := token p.name

/-- An objective's name on the server, from its name within the plugin. -/
def objectiveName (p : Plugin) (logical : String) : String :=
  p.namespaceToken ++ "_" ++ logical

end Plugin

end Scoreboard
