import Lookahead.Log.Level
import Lookahead.Text.Decimal
import Lookahead.Text.Json

/-!
# Preferences

What a user may choose.  Each choice has a variable of the environment that sets it, and a value
that holds when the variable is not set or makes no sense.
-/

namespace Lookahead

/-- The variables of an environment. -/
abbrev Environment := List (String × String)

/-- Choices on loading files. -/
structure FilePreferences where
  /-- Only files with a source extension are loaded. -/
  requireExtension : Bool
  /-- Logs tell size and speed. -/
  performance : Bool
deriving DecidableEq, Repr

/-- Choices on scanning. -/
structure ScanPreferences where
  /-- Tokens and comments are counted by kind. -/
  detailed : Bool
  /-- Messages tell lines and columns. -/
  positions : Bool
deriving DecidableEq, Repr

/-- Choices on parsing. -/
structure ParsePreferences where
  /-- Steps are recorded. -/
  recordTrace : Bool
  /-- The width of a trace's columns. -/
  columnWidth : Nat
deriving DecidableEq, Repr

/-- Choices on logging. -/
structure LogPreferences where
  /-- Events are written as objects. -/
  structured : Bool
  /-- Events are written to the console. -/
  console : Bool
  /-- The level up to which events are logged. -/
  level : LogLevel
  /-- Errors are reported at the end. -/
  report : Bool
  /-- Events tell the file they are about. -/
  fileContext : Bool
deriving DecidableEq, Repr

/-- All choices. -/
structure Preferences where
  files : FilePreferences
  scan : ScanPreferences
  parse : ParsePreferences
  log : LogPreferences
deriving DecidableEq, Repr

namespace Environment

/-- The truth value of a variable. -/
def bool? (env : Environment) (name : String) : Option Bool :=
  match env.lookup name with
  | some "true" => some true
  | some "false" => some false
  | _ => none

/-- The number a variable holds. -/
def nat? (env : Environment) (name : String) : Option Nat :=
  (env.lookup name).bind fun s => Text.readNat? Text.greatest64 s.toList

/-- The log level a variable names. -/
def level? (env : Environment) (name : String) : Option LogLevel :=
  (env.lookup name).bind LogLevel.ofWord?

end Environment

namespace Preferences

/-- The variables that set preferences. -/
def variableNames : List String :=
  ["JLS_REQUIRE_SOURCE_EXTENSION", "JLS_ENABLE_PERFORMANCE_LOGGING",
   "JLS_LEXICAL_DETAILED_METRICS", "JLS_LEXICAL_INCLUDE_POSITIONS", "JLS_SYNTAX_RECORD_TRACE",
   "JLS_SYNTAX_TRACE_COLUMN_WIDTH", "JLS_LOGGING_USE_STRUCTURED", "JLS_LOGGING_ENABLE_CONSOLE",
   "JLS_LOGGING_MIN_LEVEL", "JLS_LOGGING_CARGO_STYLE", "JLS_LOGGING_INCLUDE_FILE_CONTEXT"]

/-- The preferences that an environment sets. -/
def ofEnvironment (env : Environment) : Preferences where
  files :=
    { requireExtension := (env.bool? "JLS_REQUIRE_SOURCE_EXTENSION").getD false
      performance := (env.bool? "JLS_ENABLE_PERFORMANCE_LOGGING").getD true }
  scan :=
    { detailed := (env.bool? "JLS_LEXICAL_DETAILED_METRICS").getD true
      positions := (env.bool? "JLS_LEXICAL_INCLUDE_POSITIONS").getD true }
  parse :=
    { recordTrace := (env.bool? "JLS_SYNTAX_RECORD_TRACE").getD true
      columnWidth := (env.nat? "JLS_SYNTAX_TRACE_COLUMN_WIDTH").getD 40 }
  log :=
    { structured := (env.bool? "JLS_LOGGING_USE_STRUCTURED").getD false
      console := (env.bool? "JLS_LOGGING_ENABLE_CONSOLE").getD false
      level := (env.level? "JLS_LOGGING_MIN_LEVEL").getD .info
      report := (env.bool? "JLS_LOGGING_CARGO_STYLE").getD true
      fileContext := (env.bool? "JLS_LOGGING_INCLUDE_FILE_CONTEXT").getD true }

/-- The preferences of an empty environment. -/
def standard : Preferences := ofEnvironment []

/-- The preferences as an object. -/
def toJson (p : Preferences) : Json :=
  .obj
    [("file_processor", .obj
      [("require_source_extension", p.files.requireExtension),
       ("enable_performance_logging", p.files.performance)]),
     ("lexical", .obj
      [("collect_detailed_metrics", p.scan.detailed),
       ("include_position_in_errors", p.scan.positions)]),
     ("syntax", .obj
      [("record_trace", p.parse.recordTrace), ("trace_column_width", p.parse.columnWidth)]),
     ("logging", .obj
      [("use_structured_logging", p.log.structured),
       ("enable_console_logging", p.log.console),
       ("min_log_level", p.log.level.name),
       ("enable_cargo_style_output", p.log.report),
       ("include_file_context", p.log.fileContext)])]

end Preferences

/-- Objects and a report on one console would run into each other. -/
def LogPreferences.problem? (p : LogPreferences) : Option String :=
  if p.structured && p.report then
    some "Structured logging and cargo-style output cannot both be enabled"
  else none

end Lookahead
