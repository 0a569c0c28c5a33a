/-!
# File faults

What keeps files from being read or written.  The system numbers most faults and has words for
them; the others are found in a path or in a file's bytes.
-/

namespace Lookahead

/-- What keeps a path from being read or written. -/
inductive FileFault where
  | notFound
  | denied
  | alreadyThere
  | notDirectory
  | isDirectory
  | nameTooLong
  /-- Any other fault that the system numbers, with its kind and its words. -/
  | system (number : Nat) (kind words : String)
  | nulInPath
  | notText
deriving DecidableEq, Repr

namespace FileFault

/-- The kind of the faults that are told apart as missing permission. -/
def deniedKind : String := "PermissionDenied"

/-- The kind of the faults that are told apart as bytes that are no text. -/
def notTextKind : String := "InvalidData"

/-- The number, kind and words of a fault that the system numbers. -/
def systemError? : FileFault → Option (Nat × String × String)
  | notFound => some (2, "NotFound", "No such file or directory")
  | denied => some (13, deniedKind, "Permission denied")
  | alreadyThere => some (17, "AlreadyExists", "File exists")
  | notDirectory => some (20, "NotADirectory", "Not a directory")
  | isDirectory => some (21, "IsADirectory", "Is a directory")
  | nameTooLong => some (36, "InvalidFilename", "File name too long")
  | system number kind words => some (number, kind, words)
  | nulInPath | notText => none

/-- The kind of a fault. -/
def kind (f : FileFault) : String :=
  match f.systemError? with
  | some (_, kind, _) => kind
  | none => if f = nulInPath then "InvalidInput" else notTextKind

/-- A fault in words. -/
def text (f : FileFault) : String :=
  match f.systemError? with
  | some (n, _, words) => s!"{words} (os error {n})"
  | none =>
    if f = nulInPath then "file name contained an unexpected NUL byte"
    else "stream did not contain valid UTF-8"

/-- A fault in full detail. -/
def details (f : FileFault) : String :=
  match f.systemError? with
  | some (n, kind, words) =>
    s!"Os \x7b code: {n}, kind: {kind}, message: \"{words}\" \x7d"
  | none => s!"Error \x7b kind: {f.kind}, message: \"{f.text}\" \x7d"

end FileFault

end Lookahead
