import Lookahead.Files.Path
import Lookahead.Source.SourceError
import Lookahead.Text.Binary
import Lookahead.Text.Blank
import Lookahead.Text.Line

/-!
# Sources

A source is a text with what is known of the file it was loaded from.  A source has a bounded size
and a bounded number of lines.
-/

namespace Lookahead

/-- What is known of a file. -/
structure FileInfo where
  path : Path
  size : Nat
  /-- The extension in small letters. -/
  extension? : Option String
  lines : Nat
  isSource : Bool
deriving DecidableEq, Repr

namespace FileInfo

/-- The size from which on a file is large. -/
def largeSize : Nat := 1000000

/-- The units of sizes, each 1024 of the one before. -/
def units : List String := ["KB", "MB", "GB"]

/-- A size of `n` units, each `unit` bytes, in the largest unit of which there is a whole one. -/
def sizeIn (n unit : Nat) : List String → String
  | [] => ""
  | [name] => s!"{Text.fixedQuotient 2 n unit} {name}"
  | name :: larger =>
    if n < 1024 * unit then s!"{Text.fixedQuotient 2 n unit} {name}"
    else sizeIn n (1024 * unit) larger

/-- A size for a reader. -/
def sizeText (bytes : Nat) : String :=
  let n := Text.nearestSignificant bytes
  if n < 1024 then s!"{bytes} B" else sizeIn n 1024 units

/-- The file is large. -/
def isLarge (f : FileInfo) : Bool := largeSize < f.size

/-- What a path and a size tell of a file. -/
def ofPath (path : Path) (size : Nat) : FileInfo where
  path
  size
  extension? := path.extension?.map Text.lowercase
  lines := 0
  isSource := path.isSource

end FileInfo

/-- A loaded text. -/
structure Source where
  text : String
  info : FileInfo
  /-- How long loading took, in nanoseconds. -/
  duration : Nat
deriving Repr

namespace Source

/-- The most bytes of a source. -/
def sizeLimit : Nat := 10000000

/-- The most lines of a source. -/
def lineLimit : Nat := 200000

/-- What standard input is called. -/
def standardInput : Path := "<stdin>"

/-- The number of characters. -/
def charCount (s : Source) : Nat := s.text.length

/-- Nothing but blanks. -/
def isBlank (s : Source) : Bool := s.text.toList.all Text.isBlank

/-- Characters loaded a millisecond. -/
def rate (s : Source) : Float :=
  let ms := Text.millisecondsOf s.duration
  if ms > 0.0 then s.charCount.toUInt64.toFloat / ms else 0.0

/-- A text that was not loaded from a file. -/
def ofText (text : String) (origin : String) : Source where
  text
  info :=
    { path := origin, size := text.utf8ByteSize, extension? := none,
      lines := Text.lineCount text.toList, isSource := false }
  duration := 0

end Source

end Lookahead
