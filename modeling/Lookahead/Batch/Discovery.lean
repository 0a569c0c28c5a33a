import Lookahead.Batch.Choices
import Lookahead.Session

/-!
# The files of a batch

The files that are picked from a directory, found by a walk that takes entries by name and goes into
a directory where it meets it.  A walk stops at the file that fills the number of files asked for,
and passes over entries whose paths are too long to be followed.
-/

namespace Lookahead

/-! ### Trees in order -/

namespace FileNode

/-- Entries in the order of their names. -/
def byName (entries : List (String × FileNode)) : List (String × FileNode) :=
  entries.mergeSort fun a b => decide (a.1 ≤ b.1)

mutual

/-- The tree with the entries of every directory in the order of their names. -/
def inOrder : FileNode → FileNode
  | file content => file content
  | dir entries => dir (byName (entriesInOrder entries))

/-- Entries as they are, each of them in order. -/
def entriesInOrder : List (String × FileNode) → List (String × FileNode)
  | [] => []
  | (name, n) :: rest => (name, n.inOrder) :: entriesInOrder rest

end

end FileNode

/-! ### Walks -/

/-- How far a walk has come. -/
structure Walk where
  /-- The files found, latest first. -/
  found : List Path
  count : Nat
  /-- The walk is over. -/
  stopped : Bool

namespace Walk

/-- The beginning of a walk. -/
def start : Walk := ⟨[], 0, false⟩

/-- Add a file, which may be the last one asked for. -/
def add (c : BatchChoices) (p : Path) (w : Walk) : Walk where
  found := p :: w.found
  count := w.count + 1
  stopped := match c.maxFiles with
    | some limit => limit ≤ w.count + 1
    | none => false

mutual

/-- Walk over what an entry of a directory is. -/
def visit (c : BatchChoices) (p : Path) : FileNode → Walk → Walk
  | .file _, w => if c.picks p then w.add c p else w
  | .dir entries, w => if c.recursive then visitAll c p entries w else w

/-- Walk over the entries of a directory. -/
def visitAll (c : BatchChoices) (dir : Path) : List (String × FileNode) → Walk → Walk
  | [], w => w
  | (name, n) :: rest, w =>
    if w.stopped then w
    else
      let p := dir.join name
      visitAll c dir rest (if FileTree.fits p then visit c p n w else w)

end

end Walk

/-! ### Discovery -/

namespace BatchChoices

/-- Tell why there is nothing to analyse, and give up. -/
def refuse {α : Type} (e : BatchError) (message : String) (context : List (String × String)) :
    ExceptT BatchError Logged α := do
  Session.error e.code message context
  throw e

/-- Walk over a directory. -/
def walk (c : BatchChoices) (dir : Path) : ExceptT BatchError Logged (List Path) := do
  match (← get).files.node dir with
  | .ok (.dir entries) =>
    let w := Walk.visitAll c dir (FileNode.byName (FileNode.entriesInOrder entries)) .start
    if w.stopped then
      Session.warning "Reached maximum file limit"
        [("files_found", toString w.count), ("limit", toString (c.maxFiles.getD w.count))]
    return w.found.reverse
  | _ => refuse (.directoryNotFound dir) "Batch input is not a directory" [("path", dir)]

/-- The files to analyse in a directory, in the order of their paths. -/
def discover (c : BatchChoices) (dir : Path) : ExceptT BatchError Logged (List Path) := do
  Session.info "Starting file discovery"
    [("directory", dir), ("recursive", toString c.recursive)]
  let files ← c.walk dir
  if files.isEmpty then
    refuse (.noFiles dir) "No source files found"
      [("directory", dir), ("extensions", ", ".intercalate c.extensions)]
  if fileLimit < files.length then
    refuse (.tooManyFiles files.length fileLimit) "Too many files for one batch"
      [("count", toString files.length), ("max", toString fileLimit)]
  let files := files.mergeSort Path.le
  Session.success .fileValidated "File discovery completed"
    [("files_found", toString files.length), ("directory", dir)]
  return files

end BatchChoices

end Lookahead
