import Lookahead.CommandLine
import Std.Time.DateTime.Timestamp

/-!
# The program

Gathers what a run starts from, runs it, and puts what the run has printed and written in its place.
-/

namespace Lookahead

namespace Program

/-- A fault that the system reports. -/
def faultOf : IO.Error → FileFault
  | .noFileOrDirectory .. => .notFound
  | .permissionDenied _ number words => .system number.toNat FileFault.deniedKind words
  | .resourceBusy number words => .system number.toNat "ResourceBusy" words
  | .timeExpired number words => .system number.toNat "TimedOut" words
  | .hardwareFault number words | .otherError number words | .resourceVanished number words
  | .unsupportedOperation number words | .illegalOperation number words
  | .unsatisfiedConstraints number words | .protocolError number words
  | .interrupted _ number words | .invalidArgument _ number words
  | .resourceExhausted _ number words | .inappropriateType _ number words
  | .alreadyExists _ number words | .noSuchThing _ number words =>
    .system number.toNat "Uncategorized" words
  | .unexpectedEof | .userError _ => .system 5 "Uncategorized" "Input/output error"

/-- All that is left of a stream, behind what is held. -/
partial def readAll (stream : IO.FS.Stream) (held : ByteArray) : IO Input := do
  match ← (stream.read 65536).toBaseIO with
  | .error e => return { bytes := held, fault? := some (faultOf e) }
  | .ok bytes => if bytes.isEmpty then return held else readAll stream (held ++ bytes)

/-- The file at a path, which may be refused when it is read. -/
def readFile (path : String) : IO FileContent := do
  match ← (IO.FS.readBinFile path).toBaseIO with
  | .ok bytes => return bytes
  | .error e =>
    let place ← IO.FS.realPath path
    return .refused .read (faultOf e) (← place.metadata).byteSize.toNat

/-- What a path leads to.  In directories only sources are read, other files are taken for empty. -/
partial def readNode (path : String) (always : Bool) : IO FileNode := do
  let place ← IO.FS.realPath path
  if ← place.isDir then
    let entries ← place.readDir
    return .dir (← entries.toList.mapM fun e => do
      return (e.fileName, ← readNode e.path.toString false))
  else if always || Path.isSource path then return .file (← readFile path)
  else return .file .empty

/-- The places that a path passes, the last of which it leads to; each step up undoes one down. -/
def placesFrom (place : List String) : List String → List (List String)
  | [] => [place]
  | s :: rest =>
    place :: placesFrom (if s == ".." then place.dropLast else place ++ [s]) rest

/-- The places that a path passes. -/
def placesOf (home : List String) (p : Path) : List (List String) :=
  placesFrom (if p.isAbsolute then [] else home) (FileTree.components p)

/-- Put a place into a tree, with all the directories on the way to it. -/
def gatherDirectory (t : FileTree) (place : List String) : IO FileTree := do
  let mut t := t
  for n in [0 : place.length + 1] do
    let names := place.take n
    if (t.root.get? names).isNone then
      if let .ok found ← (IO.FS.realPath (FileTree.absolute names)).toBaseIO then
        if ← found.isDir then t := { t with root := FileNode.set (.dir []) names t.root }
  return t

/-- Put into a tree what a path leads to, with all the directories it passes. -/
def gather (t : FileTree) (places : List (List String)) : IO FileTree := do
  let t ← places.foldlM gatherDirectory t
  let names := places.getLastD []
  match ← (readNode (FileTree.absolute names) true).toBaseIO with
  | .ok n => return { t with root := FileNode.set n names t.root }
  | .error _ => return t

/-- Write the file under a list of names if it is not what it was. -/
def keep (before after : FileTree) (names : List String) : IO Unit :=
  match before.root.get? names, after.root.get? names with
  | some (.file (.bytes was)), some (.file (.bytes held)) =>
    if was.data == held.data then pure () else IO.FS.writeBinFile (FileTree.absolute names) held
  | none, some (.file (.bytes held)) => do
    IO.FS.createDirAll (FileTree.absolute names.dropLast)
    IO.FS.writeBinFile (FileTree.absolute names) held
  | _, _ => pure ()

/-- The number of threads of a machine that does not tell. -/
def availableThreads : Nat := 4

/-- What a run with these arguments starts from. -/
def invocation (arguments home : List String) : IO Invocation := do
  let environment ← Preferences.variableNames.filterMapM fun name => do
    return (← IO.getEnv name).map (name, ·)
  let input ← if arguments.head? == some Invocation.inputArgument then
      readAll (← IO.getStdin) .empty
    else pure Input.empty
  let files ← (arguments.map (placesOf home)).foldlM gather ⟨.dir [], home⟩
  let now ← Std.Time.Timestamp.now
  let nanos := now.toNanosecondsSinceUnixEpoch.val
  return {
    program := (← IO.appPath).toString, arguments, environment, input
    available := availableThreads, files
    now := ⟨nanos.fdiv 1000000000, (nanos.fmod 1000000000).toNat⟩ }

end Program

end Lookahead

open Lookahead in
/-- Run the program. -/
def main (arguments : List String) : IO UInt32 := do
  let home := FileTree.components (← IO.FS.realPath ".").toString
  let i ← Program.invocation arguments home
  let (status, s) := i.result
  for p in arguments do
    Program.keep i.files s.files ((Program.placesOf home p).getLastD [])
  IO.print s.out
  IO.eprint s.err
  return status
