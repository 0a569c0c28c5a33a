import Lookahead.Files.FileFault
import Lookahead.Files.Path

/-!
# File trees

A tree of files and directories, with the directory that relative paths start from.  A path is
followed one name at a time (`FileTree.locate`), and every step leads from a directory: a path
through a missing name, or on from a file, leads nowhere.  Files may be there and yet not be read:
the system may refuse any access to one (`FileContent`).
-/

namespace Lookahead

/-! ### Files -/

/-- What the system is asked of a file, in the order in which it is asked. -/
inductive FileAccess where
  /-- Its path from the root. -/
  | resolve
  /-- Its size. -/
  | inspect
  /-- Its bytes. -/
  | read
deriving DecidableEq, Repr

/-- The place of an access in the order. -/
def FileAccess.rank : FileAccess → Nat
  | resolve => 0
  | inspect => 1
  | read => 2

/-- What there is of a file: its bytes, unless the system refuses it from some access on.  A file
that is refused is not written, either. -/
inductive FileContent where
  | bytes (held : ByteArray)
  | refused (first : FileAccess) (fault : FileFault) (size : Nat)
deriving Inhabited

namespace FileContent

instance : Coe ByteArray FileContent := ⟨bytes⟩

/-- A file that holds nothing. -/
def empty : FileContent := bytes .empty

/-- The fault that an access to the file meets. -/
def fault? : FileContent → FileAccess → Option FileFault
  | bytes _, _ => none
  | refused first fault _, access => if first.rank ≤ access.rank then some fault else none

/-- The number of bytes. -/
def size (c : FileContent) : Except FileFault Nat :=
  match c.fault? .inspect, c with
  | some fault, _ => .error fault
  | none, bytes held => .ok held.size
  | none, refused _ _ size => .ok size

/-- The bytes. -/
def read : FileContent → Except FileFault ByteArray
  | bytes held => .ok held
  | refused _ fault _ => .error fault

/-- The text that the bytes are. -/
def readText (c : FileContent) : Except FileFault String := do
  match String.fromUTF8? (← c.read) with
  | some s => .ok s
  | none => .error .notText

end FileContent

/-! ### Trees -/

/-- A file or a directory. -/
inductive FileNode where
  | file (content : FileContent)
  | dir (entries : List (String × FileNode))
deriving Inhabited

namespace FileNode

/-- The entry of a name among entries. -/
def find? (name : String) (entries : List (String × FileNode)) : Option FileNode :=
  entries.lookup name

/-- The node under a list of names. -/
def get? : FileNode → List String → Option FileNode
  | n, [] => some n
  | file _, _ :: _ => none
  | dir entries, name :: names => (find? name entries).bind (·.get? names)

/-- Entries with one replaced, or added behind the others. -/
def setEntry (name : String) (n : FileNode) : List (String × FileNode) → List (String × FileNode)
  | [] => [(name, n)]
  | (other, m) :: rest =>
    if other == name then (name, n) :: rest else (other, m) :: setEntry name n rest

/-- The tree with a node under a list of names, whose directories are made where there are none. -/
def set (new : FileNode) : List String → FileNode → FileNode
  | [], _ => new
  | name :: names, dir entries =>
    dir (setEntry name (set new names ((find? name entries).getD (dir []))) entries)
  | name :: names, file _ => dir [(name, set new names (dir []))]

end FileNode

/-- All files, and the directory relative paths start from. -/
structure FileTree where
  root : FileNode
  home : List String

namespace FileTree

/-- No files, in a root directory. -/
def empty : FileTree := ⟨.dir [], []⟩

/-- The most bytes of a name. -/
def nameLimit : Nat := 255

/-- The most bytes of a path. -/
def pathLimit : Nat := 4095

/-- The path is short enough. -/
def fits (p : Path) : Bool := p.utf8ByteSize ≤ pathLimit

/-- What keeps a path from leading anywhere at all. -/
def pathFault? (p : Path) : Option FileFault :=
  if p == "" then some .notFound
  else if p.toList.contains '\x00' then some .nulInPath
  else if fits p then none
  else some .nameTooLong

/-- Follow one segment from a place given by its names. -/
def follow (t : FileTree) (place : List String) (s : String) : Except FileFault (List String) :=
  match t.root.get? place with
  | none => .error .notFound
  | some (.file _) => .error .notDirectory
  | some (.dir entries) =>
    if s == "" || s == "." then .ok place
    else if s == ".." then .ok place.dropLast
    else if s.utf8ByteSize > nameLimit then .error .nameTooLong
    else if (FileNode.find? s entries).isSome then .ok (place ++ [s])
    else .error .notFound

/-- The names from the root to what a path leads to. -/
def locate (t : FileTree) (p : Path) : Except FileFault (List String) :=
  match pathFault? p with
  | some fault => .error fault
  | none => p.segments.foldlM t.follow (if p.isAbsolute then [] else t.home)

/-- The path from the root. -/
def absolute (names : List String) : Path := "/" ++ "/".intercalate names

/-- What a path leads to. -/
def node (t : FileTree) (p : Path) : Except FileFault FileNode := do
  match t.root.get? (← t.locate p) with
  | some n => .ok n
  | none => .error .notFound

/-- The path leads somewhere. -/
def has (t : FileTree) (p : Path) : Bool := (t.node p).isOk

/-- The path leads to a file. -/
def isFile (t : FileTree) (p : Path) : Bool :=
  match t.node p with
  | .ok (.file _) => true
  | _ => false

/-- The path leads to a directory. -/
def isDirectory (t : FileTree) (p : Path) : Bool :=
  match t.node p with
  | .ok (.dir _) => true
  | _ => false

/-- The place of the file that a path leads to. -/
def resolve (t : FileTree) (p : Path) : Except FileFault (List String) := do
  let place ← t.locate p
  match t.root.get? place with
  | some (.file content) =>
    match content.fault? .resolve with
    | some fault => .error fault
    | none => .ok place
  | some (.dir _) => .ok place
  | none => .error .notFound

/-- The file at a place. -/
def contentAt (t : FileTree) (place : List String) : Except FileFault FileContent :=
  match t.root.get? place with
  | some (.file content) => .ok content
  | some (.dir _) => .error .isDirectory
  | none => .error .notFound

/-- The size of the file at a place. -/
def sizeAt (t : FileTree) (place : List String) : Except FileFault Nat := do
  (← t.contentAt place).size

/-- The text of the file at a place. -/
def readTextAt (t : FileTree) (place : List String) : Except FileFault String := do
  (← t.contentAt place).readText

/-- The text of a file. -/
def readText (t : FileTree) (p : Path) : Except FileFault String := do
  t.readTextAt (← t.locate p)

/-- The names a path is made of. -/
def components (p : Path) : List String := p.segments.filter fun s => s != "" && s != "."

/-- The place a file is written to: all that is before the last segment leads to a directory, and
the last is a name that has no slash behind it and is not the name of a directory, nor of a file
that is refused. -/
def placeForWriting (t : FileTree) (p : Path) : Except FileFault (List String) := do
  match pathFault? p with
  | some fault => .error fault
  | none =>
    let segments := (p.segments.reverse.dropWhile (· == "")).reverse
    let parent ← segments.dropLast.foldlM t.follow (if p.isAbsolute then [] else t.home)
    let last := segments.getLast?.getD ""
    match t.root.get? parent with
    | some (.dir entries) =>
      if p.toList.getLast? == some '/' || last == "." || last == ".." then .error .isDirectory
      else if last.utf8ByteSize > nameLimit then .error .nameTooLong
      else
        match FileNode.find? last entries with
        | some (.dir _) => .error .isDirectory
        | some (.file (.refused _ fault _)) => .error fault
        | some (.file (.bytes _)) | none => .ok (parent ++ [last])
    | some (.file _) => .error .notDirectory
    | none => .error .notFound

/-- The tree with other bytes in a place. -/
def put (t : FileTree) (place : List String) (bytes : ByteArray) : FileTree :=
  { t with root := FileNode.set (.file bytes) place t.root }

/-- Write a file anew. -/
def write (t : FileTree) (p : Path) (s : String) : Except FileFault FileTree := do
  return t.put (← t.placeForWriting p) s.toUTF8

/-- Write behind what a file holds, which is nothing if it is new. -/
def append (t : FileTree) (p : Path) (s : String) : Except FileFault FileTree := do
  let place ← t.placeForWriting p
  let held := match t.root.get? place with
    | some (.file (.bytes held)) => held
    | _ => .empty
  return t.put place (held ++ s.toUTF8)

/-- Make one directory, by the names that lead to it. -/
def makeDirectory (t : FileTree) (place : List String) (s : String) :
    Except FileFault (FileTree × List String) :=
  match t.follow place s with
  | .ok place' => .ok (t, place')
  | .error .notFound =>
    .ok ({ t with root := FileNode.set (.dir []) (place ++ [s]) t.root }, place ++ [s])
  | .error e => .error e

/-- Make the directories a file's path leads through, where there are none. -/
def makeParents (t : FileTree) (p : Path) : Except FileFault FileTree := do
  if p.toList.contains '\x00' then .error .nulInPath
  else if !fits p.parent then .error .nameTooLong
  else
    let start := if p.isAbsolute then [] else t.home
    let (t, place) ←
      (components p).dropLast.foldlM (fun (t, place) s => t.makeDirectory place s) (t, start)
    match t.root.get? place with
    | some (.file _) => .error .alreadyThere
    | _ => .ok t

/-- Make sure that there is a file, whose directories are made where there are none. -/
def touch (t : FileTree) (p : Path) : Except FileFault FileTree := do
  (← t.makeParents p).append p ""

end FileTree

end Lookahead
