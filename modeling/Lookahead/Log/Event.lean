import Lookahead.Diagnostic.Code
import Lookahead.Log.Level
import Lookahead.Log.Timestamp
import Lookahead.Text.Json
import Lookahead.Text.Position

/-!
# Events

What a log holds.  An event has a level, a code, a message, perhaps a place in a source, and a
context: values under keys, the later of two values under one key counting.  It is written as a line
or as a JSON object.
-/

namespace Lookahead

/-- Values under keys, in the order of keys. -/
abbrev LogContext := List (String × String)

namespace LogContext

/-- Put a value under a key. -/
def set (key value : String) : LogContext → LogContext
  | [] => [(key, value)]
  | (k, v) :: rest =>
    if key = k then (k, value) :: rest
    else if key < k then (key, value) :: (k, v) :: rest
    else (k, v) :: set key value rest

/-- Put several values, one after the other. -/
def setAll (c : LogContext) (values : List (String × String)) : LogContext :=
  values.foldl (fun c (key, value) => c.set key value) c

end LogContext

/-- An entry of a log. -/
structure LogEvent where
  timestamp : Timestamp
  level : LogLevel
  code : String
  message : String
  span : Option Span
  context : LogContext
deriving DecidableEq, Repr

namespace LogEvent

/-- An error. -/
def error (now : Timestamp) (code message : String) : LogEvent :=
  ⟨now, .error, code, message, none, []⟩

/-- A warning. -/
def warning (now : Timestamp) (message : String) : LogEvent :=
  ⟨now, .warning, "W000", message, none, []⟩

/-- A piece of information. -/
def info (now : Timestamp) (message : String) : LogEvent :=
  ⟨now, .info, "I000", message, none, []⟩

/-- A success. -/
def success (now : Timestamp) (code message : String) : LogEvent :=
  ⟨now, .info, code, message, none, []⟩

/-- A detail. -/
def debug (now : Timestamp) (message : String) : LogEvent :=
  ⟨now, .debug, "D000", message, none, []⟩

/-- The event with values put into its context. -/
def withContext (e : LogEvent) (values : List (String × String)) : LogEvent :=
  { e with context := e.context.setAll values }

/-- The event is an error. -/
def isError (e : LogEvent) : Bool := e.level == .error

/-- The event is a warning. -/
def isWarning (e : LogEvent) : Bool := e.level == .warning

/-- What is known of the event's code. -/
def codeInfo (e : LogEvent) : CodeInfo := .ofText e.code

/-- The event as a line. -/
def text (e : LogEvent) : String :=
  let place := match e.span with
    | some s => s!" at {s.start.text}"
    | none => ""
  s!"[{e.level.text}] {e.code} - {e.message}{place}"

/-- What the object of an error tells of its code. -/
def errorFields (info : CodeInfo) : Json :=
  .obj [("description", info.description), ("recommended_action", info.advice),
    ("recoverable", info.recoverable), ("requires_halt", info.halts)]

/-- The ends of a span. -/
def spanFields (s : Span) : Json :=
  .obj [("end_column", s.stop.column), ("end_line", s.stop.line),
    ("start_column", s.start.column), ("start_line", s.start.line)]

/-- The event as an object, its fields in the order of their names. -/
def toJson (e : LogEvent) : Json :=
  let context := if e.context.isEmpty then none
    else some (Json.obj (e.context.map fun (k, v) => (k, .str v)))
  let fields : List (String × Option Json) :=
    [("category", some e.codeInfo.category), ("code", some e.code), ("context", context),
     ("error_metadata", if e.isError then some (errorFields e.codeInfo) else none),
     ("level", some e.level.text), ("message", some e.message),
     ("severity", some e.codeInfo.severity.text), ("span", e.span.map spanFields),
     ("timestamp", some e.timestamp.text)]
  .obj (fields.filterMap fun (key, value) => value.map (key, ·))

/-- The event as a line of a log, which may be one of objects. -/
def line (structured : Bool) (e : LogEvent) : String :=
  if structured then e.toJson.compact else e.text

end LogEvent

end Lookahead
