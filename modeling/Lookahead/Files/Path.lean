import Lookahead.Text.Lowercase

/-!
# Paths

A path is a text of names parted by slashes.  Its parts leave out what does not matter: repeated and
trailing slashes, and dots that stand for the directory itself, but for one at the very front.
Paths are put in order part by part, so that a directory's files stay together.
-/

namespace Lookahead

/-- A path as it is written. -/
abbrev Path := String

namespace Path

/-- A part of a path. -/
inductive Part where
  | root
  /-- The directory itself, at the front of a path. -/
  | here
  | parent
  | name (s : String)
deriving DecidableEq, Repr

namespace Part

/-- The place of a part's sort in the order. -/
def rank : Part → Nat
  | root => 0 | here => 1 | parent => 2 | name _ => 3

/-- The order of parts: by sort, and names by their characters. -/
def lt : Part → Part → Bool
  | name s, name t => s < t
  | p, q => p.rank < q.rank

end Part

/-- A list cut at a separator; there is always one piece more than separators. -/
def splitFrom (piece : List Char) (done : List (List Char)) (sep : Char) :
    List Char → List (List Char)
  | [] => (piece.reverse :: done).reverse
  | c :: cs =>
    if c = sep then splitFrom [] (piece.reverse :: done) sep cs
    else splitFrom (c :: piece) done sep cs

/-- The texts between the slashes of a path. -/
def segments (p : Path) : List String := (splitFrom [] [] '/' p.toList).map String.ofList

/-- The path starts at the root of all files. -/
def isAbsolute (p : Path) : Bool := p.toList.head? == some '/'

/-- The part a segment stands for behind the first one. -/
def part? (s : String) : Option Part :=
  if s == "" || s == "." then none
  else if s == ".." then some .parent
  else some (.name s)

/-- The parts of a path. -/
def parts (p : Path) : List Part :=
  let names := p.segments.filterMap part?
  if p.isAbsolute then .root :: names
  else if p.segments.head? == some "." then .here :: names
  else names

/-- A path without its last part, and without slashes and dots that stand for nothing behind it. -/
def parent (p : Path) : Path :=
  let idle := fun s => s == "" || s == "."
  "/".intercalate ((p.segments.reverse.dropWhile idle).tail.dropWhile idle).reverse

/-- The order of lists of parts: by the first that differ. -/
def partsLt : List Part → List Part → Bool
  | _, [] => false
  | [], _ :: _ => true
  | p :: ps, q :: qs => p.lt q || (p == q && partsLt ps qs)

/-- A path comes before another. -/
def lt (p q : Path) : Bool := partsLt p.parts q.parts

/-- A path does not come after another. -/
def le (p q : Path) : Bool := !q.lt p

/-- Two ways to write one path. -/
def same (p q : Path) : Bool := p.parts == q.parts

/-- The last part, if it is a name. -/
def fileName? (p : Path) : Option String :=
  match p.parts.getLast? with
  | some (.name s) => some s
  | _ => none

/-- What stands behind the last dot of a name, unless the name begins with that dot. -/
def extensionOf? (name : String) : Option String :=
  match (splitFrom [] [] '.' name.toList).reverse with
  | last :: before :: rest =>
    if rest.isEmpty && before.isEmpty then none else some (String.ofList last)
  | _ => none

/-- The extension of the file a path names. -/
def extension? (p : Path) : Option String := p.fileName?.bind extensionOf?

/-- The path of an entry of a directory. -/
def join (dir : Path) (name : String) : Path :=
  if dir == "" then name
  else if dir.toList.getLast? == some '/' then dir ++ name
  else dir ++ "/" ++ name

/-- The extensions of source files. -/
def sourceExtensions : List String := ["java", "txt"]

/-- The path names a source file, by its extension in small letters. -/
def isSource (p : Path) : Bool :=
  match p.extension? with
  | some ext => sourceExtensions.contains (Text.lowercase ext)
  | none => false

end Path

end Lookahead
