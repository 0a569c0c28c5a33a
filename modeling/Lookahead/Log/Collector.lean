import Lookahead.Files.Path
import Lookahead.Log.Event

/-!
# Collected errors

The events of a run, kept file by file in the order of paths.  Of each file a bounded number is
kept; the first that is too many is replaced by a warning, and later ones are dropped.
-/

namespace Lookahead

/-- The events kept of a file. -/
structure FileEvents where
  path : Path
  events : Array LogEvent
deriving Repr

namespace FileEvents

/-- The most events kept of a file. -/
def limit : Nat := 1000

/-- The warning that stands for events that are not kept. -/
def overflow (now : Timestamp) : LogEvent :=
  .warning now s!"Too many events for file (limit: {limit})"

/-- Keep one more event of the file. -/
def record (f : FileEvents) (e : LogEvent) : FileEvents :=
  if f.events.size < limit then { f with events := f.events.push e }
  else if f.events.size = limit then { f with events := f.events.push (overflow e.timestamp) }
  else f

/-- An event kept is an error. -/
def hasErrors (f : FileEvents) : Bool := f.events.any LogEvent.isError

/-- An event kept is a warning. -/
def hasWarnings (f : FileEvents) : Bool := f.events.any LogEvent.isWarning

end FileEvents

/-- The events of files, in the order of their paths. -/
structure Collector where
  files : List FileEvents
deriving Repr

/-- Counts over the files of a collector. -/
structure CollectorSummary where
  files : Nat
  successful : Nat
  failed : Nat
  withWarnings : Nat
  errors : Nat
  warnings : Nat
deriving DecidableEq, Repr

namespace Collector

/-- Nothing collected. -/
def empty : Collector := ⟨[]⟩

/-- Keep an event of a file among files in order. -/
def recordIn (p : Path) (e : LogEvent) : List FileEvents → List FileEvents
  | [] => [FileEvents.record ⟨p, #[]⟩ e]
  | f :: rest =>
    if p.same f.path then f.record e :: rest
    else if p.lt f.path then FileEvents.record ⟨p, #[]⟩ e :: f :: rest
    else f :: recordIn p e rest

/-- Keep an event of a file. -/
def record (C : Collector) (p : Path) (e : LogEvent) : Collector := ⟨recordIn p e C.files⟩

/-- The events kept of a file. -/
def eventsOf (C : Collector) (p : Path) : List LogEvent :=
  match C.files.find? (p.same ·.path) with
  | some f => f.events.toList
  | none => []

/-- The errors kept of a file. -/
def errorsOf (C : Collector) (p : Path) : List LogEvent := (C.eventsOf p).filter LogEvent.isError

/-- The number of events kept, of all files, that are of a kind. -/
def count (C : Collector) (kind : LogEvent → Bool) : Nat :=
  C.files.foldr (fun f n => f.events.countP kind + n) 0

/-- A file with errors has failed; one without, but with warnings, has those; others succeeded. -/
def summary (C : Collector) : CollectorSummary where
  files := C.files.length
  successful := C.files.countP fun f => !f.hasErrors && !f.hasWarnings
  failed := C.files.countP FileEvents.hasErrors
  withWarnings := C.files.countP fun f => !f.hasErrors && f.hasWarnings
  errors := C.count LogEvent.isError
  warnings := C.count LogEvent.isWarning

end Collector

end Lookahead
