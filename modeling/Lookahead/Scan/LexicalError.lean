import Lookahead.Diagnostic.Code
import Lookahead.Text.Position

/-!
# Lexical errors

Text that is no token.  An error never stops a scan: it is recorded with its place, and the scan
goes on behind it.
-/

namespace Lookahead

/-- What is wrong with a stretch of text. -/
inductive LexicalErrorKind where
  /-- No token begins like this. -/
  | invalidLexeme
  /-- A string that its line does not close. -/
  | unterminatedString
  /-- A comment that the source does not close. -/
  | unterminatedComment
deriving DecidableEq, Repr

namespace LexicalErrorKind

/-- The kinds of lexical error. -/
def all : List LexicalErrorKind := [invalidLexeme, unterminatedString, unterminatedComment]

/-- The kind in words. -/
def text : LexicalErrorKind → String
  | invalidLexeme => "invalid lexeme"
  | unterminatedString => "unterminated string literal"
  | unterminatedComment => "unterminated block comment"

/-- The kind as a name. -/
def name : LexicalErrorKind → String
  | invalidLexeme => "invalid_lexeme"
  | unterminatedString => "unterminated_string"
  | unterminatedComment => "unterminated_block_comment"

/-- The diagnostic code of a kind. -/
def code : LexicalErrorKind → Code
  | invalidLexeme => .invalidLexeme
  | unterminatedString => .unterminatedString
  | unterminatedComment => .unterminatedComment

end LexicalErrorKind

/-- A lexical error and where it is. -/
structure LexicalError where
  kind : LexicalErrorKind
  lexeme : String
  span : Span
deriving DecidableEq, Repr

namespace LexicalError

/-- The most characters of a lexeme that a message shows. -/
def shownLength : Nat := 64

/-- The lexeme as messages show it: a long one loses its end to three dots. -/
def shownLexeme (e : LexicalError) : String :=
  if e.lexeme.length ≤ shownLength then e.lexeme
  else String.ofList (e.lexeme.toList.take (shownLength - 3)) ++ "..."

/-- The line the error is on. -/
def line (e : LexicalError) : Nat := e.span.start.line

/-- The column the error starts in. -/
def column (e : LexicalError) : Nat := e.span.start.column

/-- The wording of a lexical error. -/
def message (e : LexicalError) : String :=
  s!"line {e.line}: '{e.shownLexeme}' - {e.kind.text}"

end LexicalError

end Lookahead
