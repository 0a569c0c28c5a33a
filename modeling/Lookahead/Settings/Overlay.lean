import Lookahead.Diagnostic.Code
import Lookahead.Settings.Preferences
import Lookahead.Toml.Reader

/-!
# Preferences from a file

A preferences file is a TOML text with a table for each group of choices.  What it sets counts, what
it leaves out stays as it was, and keys it does not know are passed over.  A group may also be given
as an array, whose items set the choices in their order; a date in the place of a group sets none.
-/

namespace Lookahead

/-- A preferences file that cannot be used. -/
inductive PreferencesError where
  | unreadable (path reason : String)
  | malformed
deriving DecidableEq, Repr

namespace PreferencesError

/-- The wording of the error. -/
def message : PreferencesError → String
  | unreadable path reason => s!"Cannot read configuration file '{path}': {reason}"
  | malformed => "Invalid configuration: malformed preferences"

/-- The diagnostic code of the error. -/
def code (_ : PreferencesError) : Code := .configuration

end PreferencesError

namespace Preferences

/-- A truth value. -/
def bool? : Toml → Option Bool
  | .bool b => some b
  | _ => none

/-- A number that is not negative. -/
def nat? : Toml → Option Nat
  | .int n => if 0 ≤ n then some n.toNat else none
  | _ => none

/-- A log level: its name, alone or as the key of an empty table or array. -/
def level? : Toml → Option LogLevel
  | .str s => LogLevel.ofName? s
  | .table _ [(name, .table _ [])] | .table _ [(name, .arr [])] => LogLevel.ofName? name
  | _ => none

/-- The values of a group, in the order of its keys: those set, from a table or an array. -/
def group? (keys : List String) : Toml → Option (List (Option Toml))
  | .table _ fs => some (keys.map fun key => Toml.get? key fs)
  | .arr items => some (keys.mapIdx fun i _ => items[i]?)
  | .tables rows =>
    some (keys.mapIdx fun i _ => rows.reverse[i]?.map fun row => .table .named row)
  | .moment => some (keys.map fun _ => none)
  | _ => none

/-- A choice that stays as it was unless a value is set, which must then make sense. -/
def choose {α : Type} (read : Toml → Option α) (was : α) : Option Toml → Option α
  | none => some was
  | some v => read v

/-- The preferences with those of a preferences file on top. -/
def override (p : Preferences) (fs : Toml.Fields) : Option Preferences := do
  let group := fun name keys => match Toml.get? name fs with
    | none => some (keys.map fun _ => none)
    | some v => group? keys v
  let files ← do
    let [a, b] ← group "file_processor" ["require_source_extension", "enable_performance_logging"]
      | none
    some (FilePreferences.mk (← choose bool? p.files.requireExtension a)
      (← choose bool? p.files.performance b))
  let scan ← do
    let [a, b] ← group "lexical" ["collect_detailed_metrics", "include_position_in_errors"] | none
    some (ScanPreferences.mk (← choose bool? p.scan.detailed a) (← choose bool? p.scan.positions b))
  let parse ← do
    let [a, b] ← group "syntax" ["record_trace", "trace_column_width"] | none
    some (ParsePreferences.mk (← choose bool? p.parse.recordTrace a)
      (← choose nat? p.parse.columnWidth b))
  let log ← do
    let [a, b, c, d, e] ← group "logging"
      ["use_structured_logging", "enable_console_logging", "min_log_level",
       "enable_cargo_style_output", "include_file_context"] | none
    some (LogPreferences.mk (← choose bool? p.log.structured a) (← choose bool? p.log.console b)
      (← choose level? p.log.level c) (← choose bool? p.log.report d)
      (← choose bool? p.log.fileContext e))
  some { files, scan, parse, log }

/-- The preferences with those of a preferences file's text on top. -/
def readOver (p : Preferences) (text : String) : Except PreferencesError Preferences :=
  match (Toml.read? text).bind p.override with
  | some p => .ok p
  | none => .error .malformed

end Preferences

end Lookahead
