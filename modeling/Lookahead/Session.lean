import Lookahead.Files.FileTree
import Lookahead.Log.Clip
import Lookahead.Log.MemoryLog
import Lookahead.Log.Report
import Lookahead.Settings.Preferences
import Lookahead.Text.Blank

/-!
# Sessions

What a run of the program reads and changes: the files, the console, the log and the collected
errors.  Work is written as `Logged` computations, which tell what they do as they go; an event goes
to every sink of the log at once, so a log file grows while the run reads files.

A file that is worked on is the session's context.  How it shows depends on what is told: errors and
successes carry its path and number, information its path, if the preferences ask for it; warnings
and details carry its path always.  An error in a context is collected under its file.
-/

namespace Lookahead

/-- The file that is worked on, and its number. -/
structure FileContext where
  path : Path
  id : Nat
deriving DecidableEq, Repr

/-- Where events go. -/
inductive Sink where
  | memory
  | console (structured : Bool)
  | file (path : Path) (structured : Bool)
deriving DecidableEq, Repr

/-- The state of a run. -/
structure Session where
  /-- The choices on logging that are in force. -/
  preferences : LogPreferences
  sinks : List Sink
  /-- The level up to which events reach the sinks. -/
  level : LogLevel
  now : Timestamp
  context : Option FileContext
  memory : MemoryLog
  collector : Collector
  files : FileTree
  out : String
  err : String

/-- A computation in a session. -/
abbrev Logged := StateM Session

namespace Session

/-- A session with a log in memory that keeps all events. -/
def inMemory (preferences : LogPreferences) (files : FileTree) : Session where
  preferences
  sinks := [.memory]
  level := .debug
  now := .epoch
  context := none
  memory := .empty
  collector := .empty
  files
  out := ""
  err := ""

/-- Write a text to the console. -/
def printText (s : Session) (text : String) : Session := { s with out := s.out ++ text }

/-- Write a line to the console. -/
def printLine (s : Session) (line : String) : Session := (s.printText line).printText "\n"

/-- Write a line to the console's error output. -/
def printError (s : Session) (line : String) : Session := { s with err := s.err ++ line ++ "\n" }

/-- Write an event to a sink.  A log file that cannot be written is passed over. -/
def write (e : LogEvent) (s : Session) : Sink → Session
  | .memory => { s with memory := s.memory.log e }
  | .console structured =>
    if e.isError then s.printError (e.line structured) else s.printLine (e.line structured)
  | .file path structured =>
    match s.files.append path (e.line structured ++ "\n") with
    | .ok files => { s with files }
    | .error _ => s

/-- Write an event to all sinks, if the log goes up to its level. -/
def emit (s : Session) (e : LogEvent) : Session :=
  if e.level.within s.level then s.sinks.foldl (write e) s else s

/-- What the context adds to errors and successes. -/
def fileAndId (s : Session) : List (String × String) :=
  match s.context with
  | some c =>
    if s.preferences.fileContext then [("file", c.path), ("file_id", toString c.id)] else []
  | none => []

/-- What the context adds to information. -/
def fileIfWanted (s : Session) : List (String × String) :=
  match s.context with
  | some c => if s.preferences.fileContext then [("file", c.path)] else []
  | none => []

/-- What the context adds to warnings and details. -/
def fileAlways (s : Session) : List (String × String) :=
  match s.context with
  | some c => [("file", c.path)]
  | none => []

/-- Keep an error for the report, if a file is worked on. -/
def collect (s : Session) (e : LogEvent) : Session :=
  match s.context with
  | some c => { s with collector := s.collector.record c.path e }
  | none => s

/-- Tell an error. -/
def error (code : Code) (message : String) (context : List (String × String) := [])
    (span : Option Span := none) : Logged Unit :=
  modify fun s =>
    let e := LogEvent.error s.now code.text (clipMessage message)
    let e := { (e.withContext context).withContext s.fileAndId with span }
    (s.emit e).collect e

/-- Tell a success. -/
def success (code : Code) (message : String) (context : List (String × String) := []) :
    Logged Unit :=
  modify fun s =>
    let e := LogEvent.success s.now code.text (clipMessage message)
    s.emit ((e.withContext context).withContext s.fileAndId)

/-- Tell a piece of information. -/
def info (message : String) (context : List (String × String) := []) : Logged Unit :=
  modify fun s =>
    let e := LogEvent.info s.now (clipMessage message)
    s.emit ((e.withContext context).withContext s.fileIfWanted)

/-- Tell a warning. -/
def warning (message : String) (context : List (String × String) := []) : Logged Unit :=
  modify fun s =>
    s.emit (((LogEvent.warning s.now message).withContext context).withContext s.fileAlways)

/-- Tell a detail, if the preferences ask for details. -/
def debug (message : String) (context : List (String × String) := []) : Logged Unit :=
  modify fun s =>
    if LogLevel.debug.within s.preferences.level then
      s.emit (((LogEvent.debug s.now message).withContext context).withContext s.fileAlways)
    else s

/-- Work on a file. -/
def withFile {α : Type} (path : Path) (id : Nat) (work : Logged α) : Logged α := do
  modify fun s => { s with context := some ⟨path, id⟩ }
  let a ← work
  modify fun s => { s with context := none }
  return a

/-- Print a line. -/
def print (line : String) : Logged Unit := modify fun s => s.printLine line

/-- Print lines. -/
def printAll (lines : List String) : Logged Unit :=
  modify fun s => lines.foldl printLine s

/-- Print a text as it is. -/
def put (text : String) : Logged Unit := modify fun s => s.printText text

/-- Print a line to the error output. -/
def complain (line : String) : Logged Unit := modify fun s => s.printError line

/-- Report the collected errors, if the preferences ask for it and there is something to report. -/
def reportErrors : Logged Unit :=
  modify fun s =>
    let report := s.collector.report
    if s.preferences.report && !report.toList.all Text.isBlank then s.printError report else s

end Session

end Lookahead
