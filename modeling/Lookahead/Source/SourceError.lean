import Lookahead.Diagnostic.Code
import Lookahead.Files.FileFault
import Lookahead.Text.Quoted

/-!
# Loading errors

Why a source cannot be loaded.
-/

namespace Lookahead

/-- What keeps a source from being loaded. -/
inductive SourceError where
  | notFound (path : String)
  | badExtension (extension? : Option String)
  | tooLarge (size limit : Nat)
  | denied (path : String)
  | notText (path : String)
  | unreadable (reason : String)
  | badPath (path : String)
  | tooManyLines (lines limit : Nat)
deriving DecidableEq, Repr

namespace SourceError

/-- An extension in quotes, if there is one. -/
def extensionText : Option String → String
  | some ext => s!"Some({Text.quoted ext})"
  | none => "None"

/-- The loading error that a fault at the file of a path makes. -/
def ofFault (path : String) (f : FileFault) : SourceError :=
  if f.kind = FileFault.deniedKind then denied path
  else if f.kind = FileFault.notTextKind then notText path
  else unreadable s!"'{path}': {f.text}"

/-- The wording of a loading error. -/
def message : SourceError → String
  | notFound path => s!"File not found: {path}"
  | badExtension ext =>
    s!"Invalid file extension: expected .java or .txt, found {extensionText ext}"
  | tooLarge size limit => s!"File too large: {size} bytes (max: {limit})"
  | denied path => s!"Permission denied: {path}"
  | notText path => s!"Invalid UTF-8 encoding in file: {path}"
  | unreadable reason => s!"I/O error reading file: {reason}"
  | badPath path => s!"Invalid file path: {path}"
  | tooManyLines lines limit => s!"File exceeds maximum line count: {lines} (max: {limit})"

/-- The diagnostic code of a loading error. -/
def code : SourceError → Code
  | notFound _ => .fileNotFound
  | badExtension _ => .invalidExtension
  | tooLarge .. => .fileTooLarge
  | denied _ => .permissionDenied
  | notText _ => .invalidEncoding
  | unreadable _ => .readFailure
  | badPath _ => .invalidPath
  | tooManyLines .. => .tooManyLines

end SourceError

end Lookahead
