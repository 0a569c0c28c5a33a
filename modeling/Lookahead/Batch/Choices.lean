import Lookahead.Diagnostic.Code
import Lookahead.Files.Path
import Lookahead.Settings.Preferences

/-!
# Choices for batches

What a user may choose for the analysis of a directory, and why there may be no such analysis.
-/

namespace Lookahead

/-- How the files of a directory are picked and analysed. -/
structure BatchChoices where
  /-- The most workers, before it is brought within bounds. -/
  maxThreads : Nat
  /-- Directories in the directory are searched too. -/
  recursive : Bool
  /-- The number of files to stop the search at. -/
  maxFiles : Option Nat
  /-- Each file is announced on the console. -/
  progress : Bool
  /-- Nothing is analysed after a file that is not clean. -/
  failFast : Bool
  /-- The extensions of files to pick. -/
  extensions : List String
  preferences : Preferences

namespace BatchChoices

/-- The most workers of a batch. -/
def threadLimit : Nat := 16

/-- The most files of a batch. -/
def fileLimit : Nat := 10000

/-- The most workers of a batch whose number is not chosen. -/
def defaultThreads : Nat := 8

/-- The choices of a user who makes none, on a machine that runs `available` threads at once. -/
def standard (available : Nat) (preferences : Preferences) : BatchChoices where
  maxThreads := min available defaultThreads
  recursive := true
  maxFiles := none
  progress := false
  failFast := false
  extensions := Path.sourceExtensions
  preferences

/-- The number of workers. -/
def threads (c : BatchChoices) : Nat := max 1 (min c.maxThreads threadLimit)

/-- A file of that path is picked: it has one of the extensions, capital or small. -/
def picks (c : BatchChoices) (p : Path) : Bool :=
  match p.extension? with
  | some ext => c.extensions.any (·.toLower == ext.toLower)
  | none => false

/-- What batches are capable of, on a machine that runs `available` threads at once. -/
def capabilities (available : Nat) : String :=
  s!"Batch processor: {min available threadLimit} of {threadLimit} threads, "
    ++ s!"up to {fileLimit} files, extensions " ++ ", ".intercalate Path.sourceExtensions

end BatchChoices

/-- Why a directory is not analysed. -/
inductive BatchError where
  | directoryNotFound (path : String)
  | noFiles (path : String)
  | tooManyFiles (count limit : Nat)
  | unreadable (reason : String)
  | worker (reason : String)
deriving DecidableEq, Repr

namespace BatchError

/-- The wording of a batch error. -/
def message : BatchError → String
  | directoryNotFound path => s!"Directory not found: {path}"
  | noFiles path => s!"No source files found in directory: {path}"
  | tooManyFiles count limit => s!"Too many files found: {count} (max: {limit})"
  | unreadable reason => s!"IO error during directory traversal: {reason}"
  | worker reason => s!"Worker thread error: {reason}"

/-- The diagnostic code of a batch error. -/
def code : BatchError → Code
  | directoryNotFound _ | unreadable _ => .directoryRead
  | noFiles _ => .noFilesFound
  | tooManyFiles .. => .tooManyFiles
  | worker _ => .internalError

end BatchError

end Lookahead
