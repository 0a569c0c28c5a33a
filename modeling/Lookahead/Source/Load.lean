import Lookahead.Session
import Lookahead.Source

/-!
# Loading sources

A source comes from a file or from standard input.  Loading a file asks the system for its place,
for its size and for its text, and checks it in between: that it is not too large, that it has a
source extension if one is asked for, and that it has few enough lines.  Whatever fails is told
before the loading is given up, as the checks are and as the faults are that the system meets.  An
empty file is loaded with a warning.
-/

namespace Lookahead

/-- A computation in a session that may give up on a source. -/
abbrev Loading := ExceptT SourceError Logged

/-- What standard input delivers: bytes, and the fault that it breaks off with, if it does. -/
structure Input where
  bytes : ByteArray
  fault? : Option FileFault := none

namespace Input

instance : Coe ByteArray Input := ⟨fun bytes => { bytes }⟩

/-- An input that ends at once. -/
def empty : Input := { bytes := .empty }

/-- The first bytes of an input, no more than a number of them.  A fault that lies behind them is
not met. -/
def take (i : Input) (count : Nat) : Except FileFault ByteArray :=
  match i.fault? with
  | some fault => if i.bytes.size < count then .error fault else .ok (i.bytes.extract 0 count)
  | none => .ok (i.bytes.extract 0 count)

end Input

namespace Source

/-- Tell why a source cannot be loaded, and give up. -/
def refuse {α : Type} (e : SourceError) (message : String)
    (context : List (String × String) := []) : Loading α := do
  Session.error e.code message context
  throw e

/-! ### Files -/

/-- Find the place of the file that a path leads to. -/
def resolve (path : Path) : Loading (List String) := do
  if path == "" then refuse (.badPath path) "Empty file path provided"
  let files := (← get).files
  if !files.has path then refuse (.notFound path) "File not found" [("path", path)]
  if !files.isFile path then refuse (.badPath path) "Path is not a file" [("path", path)]
  match files.resolve path with
  | .ok place => return place
  | .error fault =>
    refuse (.unreadable s!"Failed to resolve path '{path}': {fault.text}")
      "Failed to canonicalize path" [("path", path), ("io_error", fault.text)]

/-- Go on with what the system gives of the file at a place, which is called `path`; if that is a
fault, tell so and give up. -/
def orRefuse {α : Type} (message : String) (path : Path) (place : List String)
    (r : Except FileFault α) : Loading α :=
  match r with
  | .ok a => return a
  | .error fault =>
    let e := SourceError.ofFault (FileTree.absolute place) fault
    refuse e message [("file", path), ("error", e.message)]

/-- What is known of the file at a place, which is called `path`, before it is read. -/
def inspect (path : Path) (place : List String) : Loading FileInfo := do
  let files := (← get).files
  let size ← orRefuse "Failed to read file metadata" path place (files.sizeAt place)
  return .ofPath (FileTree.absolute place) size

/-- Check size and extension of a file that is called `path`. -/
def check (prefs : FilePreferences) (path : Path) (info : FileInfo) : Loading Unit := do
  if sizeLimit < info.size then
    refuse (.tooLarge info.size sizeLimit) "File exceeds compile-time maximum size limit"
      [("file", path), ("size_human", FileInfo.sizeText info.size),
       ("limit_human", FileInfo.sizeText sizeLimit)]
  if info.size = 0 then Session.warning "File is empty" [("file", path)]
  if prefs.requireExtension && !info.isSource then
    refuse (.badExtension info.extension?) "File does not have a source extension"
      [("file", path), ("extension", info.extension?.getD "none"),
       ("accepted", ", ".intercalate Path.sourceExtensions)]

/-- Read the file at a place, which is called `path`. -/
def readAt (path : Path) (place : List String) : Loading String := do
  let files := (← get).files
  orRefuse "Failed to read file" path place (files.readTextAt place)

/-- Tell that a source was loaded. -/
def tellLoaded (prefs : FilePreferences) (path : Path) (s : Source) : Logged Unit :=
  let duration := Text.fixedFloat 2 (Text.millisecondsOf s.duration)
  if prefs.performance then
    Session.success .fileLoaded "File processed successfully with performance metrics"
      [("file", path), ("size_bytes", toString s.info.size),
       ("size_human", FileInfo.sizeText s.info.size), ("lines", toString s.info.lines),
       ("chars", toString s.charCount), ("duration_ms", duration),
       ("chars_per_ms", Text.fixedFloat 2 s.rate), ("is_large_file", toString s.info.isLarge)]
  else
    Session.success .fileLoaded "File processed successfully"
      [("file", path), ("lines", toString s.info.lines), ("duration_ms", duration)]

/-- Make a source of a text, which is called `path`, if it has few enough lines. -/
def finish (prefs : FilePreferences) (path : Path) (info : FileInfo) (text : String) :
    Loading Source := do
  let lines := Text.lineCount text.toList
  if lineLimit < lines then
    refuse (.tooManyLines lines lineLimit) "File exceeds maximum line count for analysis"
      [("file", path), ("lines", toString lines), ("max_lines", toString lineLimit)]
  let s : Source := { text, info := { info with lines }, duration := 0 }
  tellLoaded prefs path s
  return s

/-- Load a file. -/
def load (prefs : FilePreferences) (path : Path) : Loading Source := do
  Session.debug "Starting file processing" [("file", path)]
  let place ← resolve path
  let info ← inspect path place
  check prefs path info
  let text ← readAt path place
  finish prefs path info text

/-! ### Standard input -/

/-- Read standard input.  Of an input that is too large no more is read than shows that. -/
def readBytes (input : Input) : Loading ByteArray :=
  match input.take (sizeLimit + 1) with
  | .ok bytes => return bytes
  | .error fault =>
    let e := SourceError.ofFault standardInput fault
    refuse e "Failed to read standard input" [("error", e.message)]

/-- The text of standard input. -/
def decode (bytes : ByteArray) : Loading String :=
  match String.fromUTF8? bytes with
  | some text => return text
  | none => refuse (.notText standardInput) "Invalid UTF-8 on standard input"

/-- Load standard input. -/
def readInput (prefs : FilePreferences) (input : Input) : Loading Source := do
  let bytes ← readBytes input
  let info := FileInfo.ofPath standardInput bytes.size
  if sizeLimit < info.size then
    refuse (.tooLarge info.size sizeLimit) "Standard input exceeds maximum size"
      [("limit_bytes", toString sizeLimit)]
  if info.size = 0 then Session.warning "Standard input is empty"
  let text ← decode bytes
  finish prefs standardInput info text

end Source

end Lookahead
