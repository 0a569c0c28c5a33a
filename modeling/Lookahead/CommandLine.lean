import Lookahead.Analysis.Check
import Lookahead.Batch.Run
import Lookahead.CommandLine.Help
import Lookahead.CommandLine.Show
import Lookahead.Settings.Overlay

/-!
# The command line

A run of the program: from its arguments, the environment, standard input and the files to what it
prints, what it leaves in the files, and whether it succeeds.  Preferences come first, then the log,
then the check of the stages, and then the input, which is standard input, a file or a directory.
-/

namespace Lookahead

/-- What a run of the program starts from. -/
structure Invocation where
  /-- What the program was called as. -/
  program : String
  arguments : List String
  environment : Environment
  input : Input
  /-- The number of threads the machine runs at once. -/
  available : Nat
  now : Timestamp
  files : FileTree

namespace Invocation

/-- The argument that stands for standard input. -/
def inputArgument : String := "-"

/-- A run that may give up, with what it says then. -/
abbrev Attempt := ExceptT (List String) Logged

/-- The session a run begins with, in which nothing is logged yet. -/
def session (i : Invocation) : Session :=
  { Session.inMemory (Preferences.ofEnvironment i.environment).log i.files with
    sinks := [], now := i.now }

/-- The preferences of a run: those of the environment, with those of a file on top. -/
def preferences (i : Invocation) (o : Options) : Attempt Preferences := do
  let p := Preferences.ofEnvironment i.environment
  let p ← match o.preferencesPath with
    | none => pure p
    | some path =>
      let content := (← get).files.readText path
      match content.mapError fun fault => PreferencesError.unreadable path fault.text with
      | .error e => throw [s!"Error: {e.message}"]
      | .ok text =>
        match p.readOver text with
        | .error e => throw [s!"Error: {e.message}"]
        | .ok p => pure p
  return if o.trace then { p with parse := { p.parse with recordTrace := true } } else p

/-- Make sure that there is a file to write the log to. -/
def openLog (path : Path) : Attempt Unit := do
  match (← get).files.touch path with
  | .ok files => modify fun s => { s with files }
  | .error fault => throw [s!"Error: {fault.details}"]

/-- Begin to log. -/
def startLog (p : LogPreferences) (logPath : Option Path) : Attempt Unit := do
  if let some problem := p.problem? then throw [s!"Error: {Text.quoted problem}"]
  logPath.forM openLog
  let console := if p.console then [Sink.console p.structured] else []
  let file := logPath.toList.map (Sink.file · p.structured)
  modify fun s => { s with preferences := p, level := p.level, sinks := console ++ file }
  modify fun s =>
    s.emit (.success s.now Code.initialized.text "Global logging system initialized")

/-- Analyse what the first argument names; true if it is clean. -/
def analyze (i : Invocation) (o : Options) (p : Preferences) (input : String) : Logged Bool := do
  let files := (← get).files
  if input == inputArgument then
    Analysis.report o p.parse.columnWidth (← (Analysis.ofInput p i.input).run)
  else if files.isFile input then
    let result ← if o.fromListing then Analysis.ofListing p input else Analysis.ofFile p input 0
    Analysis.report o p.parse.columnWidth result
  else if files.isDirectory input then
    let choices := { o.batch with preferences := p }
    unless o.quiet do Session.printAll (Batch.announcement choices input)
    Batch.report (← choices.run input)
  else
    Session.complain "Error: Input must be a source file, a directory, or '-' for stdin"
    Session.complain s!"  Input: {input}"
    return false

/-- Set up a run and analyse its input; true if it is clean. -/
def attempt (i : Invocation) (input : String) (options : List String) : Attempt Bool := do
  let standard := Options.standard i.available (.ofEnvironment i.environment)
  let (o, warnings) := standard.takeUp [] options
  for w in warnings do
    Session.complain s!"Warning: {w}"
  let p ← i.preferences o
  startLog p.log o.logPath
  checkStages.adapt fun problem => [s!"Error: {Text.quoted problem}"]
  i.analyze o p input

/-- Run the program; true if it succeeds. -/
def run (i : Invocation) : Logged Bool := do
  match i.arguments with
  | [] =>
    (Help.usage i.program).forM Session.complain
    return false
  | "--help" :: _ =>
    Session.printAll (Help.lines i.program i.available)
    return true
  | input :: options =>
    match ← (i.attempt input options).run with
    | .ok clean => return clean
    | .error lines =>
      lines.forM Session.complain
      return false

/-- The exit status and the session at the end of a run. -/
def result (i : Invocation) : UInt32 × Session :=
  let (clean, s) := i.run.run i.session
  (if clean then 0 else 1, s)

end Invocation

end Lookahead
