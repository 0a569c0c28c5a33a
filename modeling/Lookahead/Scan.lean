import Lookahead.Scan.IdentifierTable
import Lookahead.Scan.Piece
import Lookahead.Text.Line

/-!
# Scans

The scan of a source: its tokens, its identifiers, its lexical errors and a tally.  A scanner takes
the text piece by piece.  It keeps the position it has come to, and every piece is read by its rule:
blanks and comments are passed over, a token is emitted, an identifier is entered in the table
before, and a fault is added to the errors.  None of that stops the scan.

* `Scanner.readAll_eq`: the text is read as the pieces it is cut into.
-/

namespace Lookahead

/-- Counts of what a scan found, apart from tokens and errors only on request. -/
structure Tally where
  tokens : Nat
  errors : Nat
  lines : Nat
  keywords : Nat
  identifiers : Nat
  operators : Nat
  delimiters : Nat
  strings : Nat
  ints : Nat
  floats : Nat
  lineComments : Nat
  blockComments : Nat
deriving DecidableEq, Repr

namespace Tally

/-- Nothing counted. -/
def zero : Tally := ⟨0, 0, 0, 0, 0, 0, 0, 0, 0, 0, 0, 0⟩

/-- Count a token under its kind. -/
def addKind (t : Tally) : TokenKind → Tally
  | .keyword => { t with keywords := t.keywords + 1 }
  | .identifier => { t with identifiers := t.identifiers + 1 }
  | .operator => { t with operators := t.operators + 1 }
  | .delimiter => { t with delimiters := t.delimiters + 1 }
  | .stringLiteral => { t with strings := t.strings + 1 }
  | .intLiteral => { t with ints := t.ints + 1 }
  | .floatLiteral => { t with floats := t.floats + 1 }

/-- Count a token, under its kind only if `detailed`. -/
def addToken (detailed : Bool) (t : Tally) (kind : TokenKind) : Tally :=
  let t := { t with tokens := t.tokens + 1 }
  if detailed then t.addKind kind else t

/-- Count a line comment, if `detailed`. -/
def addLineComment (detailed : Bool) (t : Tally) : Tally :=
  if detailed then { t with lineComments := t.lineComments + 1 } else t

/-- Count a block comment, if `detailed`. -/
def addBlockComment (detailed : Bool) (t : Tally) : Tally :=
  if detailed then { t with blockComments := t.blockComments + 1 } else t

end Tally

/-- What a scan yields. -/
structure Scan where
  tokens : List Token
  identifiers : IdentifierTable
  errors : List LexicalError
  tally : Tally
deriving Repr

/-! ### Scanners -/

/-- How far a scan has come, and what it has found. -/
structure Scanner where
  position : Position
  /-- The tokens, latest first. -/
  tokens : List Token
  identifiers : IdentifierTable
  /-- The errors, latest first. -/
  errors : List LexicalError
  tally : Tally
deriving Repr

namespace Scanner

/-- A scan that has not begun. -/
def start : Scanner := ⟨.start, [], .empty, [], .zero⟩

/-- Pass over characters. -/
def advance (s : Scanner) (cs : List Char) : Scanner :=
  { s with position := s.position.after cs }

/-- The span of the next characters. -/
def spanOf (s : Scanner) (cs : List Char) : Span := ⟨s.position, s.position.after cs⟩

/-- Take characters for a token. -/
def emit (detailed : Bool) (s : Scanner) (category : Terminal) (kind : TokenKind)
    (cs : List Char) : Scanner :=
  { s.advance cs with
    tally := s.tally.addToken detailed kind
    tokens := ⟨category, kind, String.ofList cs, s.spanOf cs⟩ :: s.tokens }

/-- Enter a name among the identifiers, on the line that the scan has come to. -/
def enter (s : Scanner) (cs : List Char) : Scanner :=
  { s with identifiers := s.identifiers.insert (String.ofList cs) s.position.line }

/-- Add an error. -/
def fail (s : Scanner) (e : LexicalError) : Scanner := { s with errors := e :: s.errors }

/-- Read a piece by its rule.  A word that is not reserved is entered among the identifiers before
it is emitted; a comment that is left open is an error at the end of the source. -/
def read (detailed : Bool) (s : Scanner) (p : Piece) : Scanner :=
  let cs := p.chars
  match p.kind with
  | .blank => s.advance cs
  | .lineComment => { s.advance cs with tally := s.tally.addLineComment detailed }
  | .blockComment => { s.advance cs with tally := s.tally.addBlockComment detailed }
  | .token .identifier .identifier => (s.enter cs).emit detailed .identifier .identifier cs
  | .token category kind => s.emit detailed category kind cs
  | .fault .unterminatedComment =>
    let s := s.advance cs
    s.fail ⟨.unterminatedComment, "/*", ⟨s.position, s.position⟩⟩
  | .fault kind => (s.advance cs).fail ⟨kind, String.ofList cs, s.spanOf cs⟩

/-- Read a text: its first piece, then what is left behind that. -/
def readAll (detailed : Bool) (s : Scanner) : List Char → Scanner
  | [] => s
  | c :: cs => readAll detailed (s.read detailed (Piece.first c cs)) (Piece.rest c cs)
termination_by cs => cs.length
decreasing_by simp only [Piece.rest, List.length_drop, List.length_cons]; omega

theorem readAll_eq (detailed : Bool) (cs : List Char) :
    ∀ s : Scanner, s.readAll detailed cs = (Piece.cut cs).foldl (read detailed) s :=
  Piece.cut_induction
    (P := fun cs ps => ∀ s : Scanner, s.readAll detailed cs = ps.foldl (read detailed) s)
    (fun s => by rw [readAll]; rfl)
    (fun c cs ih s => by rw [readAll, ih, List.foldl_cons]) cs

/-- The tally of a source of so many lines. -/
def totals (s : Scanner) (lines : Nat) : Tally :=
  { s.tally with lines, errors := s.errors.length }

end Scanner

/-! ### Scans -/

namespace Scan

/-- A scan that found nothing. -/
def empty : Scan := ⟨[], .empty, [], .zero⟩

/-- The scan of a list of characters. -/
def ofChars (detailed : Bool) (cs : List Char) : Scan :=
  let s := Scanner.start.readAll detailed cs
  { tokens := s.tokens.reverse
    identifiers := s.identifiers
    errors := s.errors.reverse
    tally := s.totals (Text.lineCount cs) }

/-- The scan of a source. -/
def ofSource (detailed : Bool) (source : String) : Scan := ofChars detailed source.toList

/-- Some text was no token. -/
def hasErrors (s : Scan) : Bool := !s.errors.isEmpty

/-- The line of the last token. -/
def lastLine? (s : Scan) : Option Nat := s.tokens.getLast?.map Token.line

/-- The number of tokens of a kind. -/
def countKind (s : Scan) (kind : TokenKind) : Nat := s.tokens.countP (·.kind == kind)

/-- The number of literals. -/
def countLiterals (s : Scan) : Nat := s.tokens.countP (·.kind.isLiteral)

end Scan

end Lookahead
