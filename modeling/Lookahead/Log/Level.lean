import Lookahead.Text.Lowercase

/-!
# Log levels

How much a log tells: errors only, warnings too, information too, or everything.
-/

namespace Lookahead

/-- A level of logging. -/
inductive LogLevel where
  | error | warning | info | debug
deriving DecidableEq, Repr

namespace LogLevel

/-- The levels, most urgent first. -/
def all : List LogLevel := [error, warning, info, debug]

/-- The number of more urgent levels. -/
def rank : LogLevel → Nat
  | error => 0 | warning => 1 | info => 2 | debug => 3

/-- A log kept up to level `limit` holds events of this level. -/
def within (level limit : LogLevel) : Bool := level.rank ≤ limit.rank

/-- A level as events show it. -/
def text : LogLevel → String
  | error => "ERROR" | warning => "WARN" | info => "INFO" | debug => "DEBUG"

/-- The name of a level in settings. -/
def name : LogLevel → String
  | error => "error" | warning => "warning" | info => "info" | debug => "debug"

/-- The level of that name. -/
def ofName? (s : String) : Option LogLevel := all.find? (·.name == s)

/-- The words a level can be given by. -/
def words : LogLevel → List String
  | error => ["error", "0"]
  | warning => ["warning", "warn", "1"]
  | info => ["info", "2"]
  | debug => ["debug", "3"]

/-- The level given by a word, in capitals or not. -/
def ofWord? (s : String) : Option LogLevel := all.find? (·.words.contains (Text.lowercase s))

end LogLevel

end Lookahead
