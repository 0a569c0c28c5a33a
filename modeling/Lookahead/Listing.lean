import Lookahead.Parse.InputSymbol
import Lookahead.Text.Decimal
import Lookahead.Text.Pad

/-!
# Listings

The written form of a scan, which a later parse can take up again.  A listing has three sections,
each under a header: the tokens, a line each, the identifiers, and the lexical errors.  Only the
lines of the first section are read back; of each, the line number and the fourth field, which names
the terminal.  A text without the first header is read as tokens throughout.
-/

namespace Lookahead

/-- What keeps a listing from being read or written. -/
inductive ListingError where
  | malformedLine (listingLine : Nat) (content : String)
  | unknownCategory (listingLine : Nat) (category : String)
  /-- The file cannot be read or written, for the reason given. -/
  | access (path reason : String)
deriving DecidableEq, Repr

namespace ListingError

/-- The wording of a listing error. -/
def message : ListingError → String
  | malformedLine n content => s!"Malformed token line {n}: '{content}'"
  | unknownCategory n category => s!"Unknown token category '{category}' on listing line {n}"
  | access path reason => s!"Cannot access token listing '{path}': {reason}"

/-- The diagnostic code of a listing error. -/
def code : ListingError → Code
  | malformedLine .. => .malformedLine
  | unknownCategory .. => .unknownCategory
  | access .. => .listingAccess

end ListingError

namespace Listing

/-- The header of the tokens. -/
def tokensHeader : String := "=== Recognized Tokens ==="

/-- The header of the identifiers. -/
def identifiersHeader : String := "=== Symbol Table ==="

/-- The header of the lexical errors. -/
def errorsHeader : String := "=== Lexical Errors ==="

/-- What a line of the first and the last section begins with. -/
def lineWord : String := "Line"

/-- The width of a line number. -/
def lineWidth : Nat := 3

/-- The width of a kind, and of a category. -/
def fieldWidth : Nat := 15

/-- A token's line: line number, kind, category and lexeme. -/
def tokenLine (t : Token) : String :=
  s!"{lineWord} {Text.padLeft lineWidth (toString t.line)}: "
    ++ s!"{Text.padRight fieldWidth t.kind.text} {Text.padRight fieldWidth t.category.text} "
    ++ s!"{t.lexeme}\n"

/-- An identifier's line. -/
def identifierLine (name : String) : String := s!"  {name}\n"

/-- A lexical error's line. -/
def errorLine (e : LexicalError) : String :=
  s!"{lineWord} {Text.padLeft lineWidth (toString e.line)}: '{e.lexeme}' - {e.kind.text}\n"

/-- A section: its header and its lines. -/
def sectionText (header : String) (lines : List String) : String :=
  lines.foldl (· ++ ·) (header ++ "\n")

/-- The listing of a scan. -/
def render (s : Scan) : String :=
  "\n".intercalate
    [sectionText tokensHeader (s.tokens.map tokenLine),
     sectionText identifiersHeader (s.identifiers.names.map identifierLine),
     sectionText errorsHeader (s.errors.map errorLine)]

/-- Read the line of a token, which is trimmed: number and category. -/
def readLine (n : Nat) (line : List Char) : Except ListingError InputSymbol :=
  let malformed := ListingError.malformedLine n (String.ofList line)
  match Text.fields line with
  | word :: number :: _ :: category :: _ :: _ =>
    if String.ofList word != lineWord || number.getLast? != some ':' then .error malformed
    else
      match Text.readNat? Text.greatest32 number.dropLast with
      | none => .error malformed
      | some sourceLine =>
        match Terminal.ofText? (String.ofList category) with
        | none | some .endMark => .error (.unknownCategory n (String.ofList category))
        | some a => .ok ⟨a, some sourceLine⟩
  | _ => .error malformed

/-- Read trimmed lines from number `n` on, in a section of tokens or not; `done` holds the symbols
read, latest first. -/
def readLines (n : Nat) (inTokens : Bool) (done : List InputSymbol) :
    List (List Char) → Except ListingError (List InputSymbol)
  | [] => .ok done.reverse
  | line :: rest =>
    if ['=', '=', '='].isPrefixOf line then
      readLines (n + 1) (String.ofList line == tokensHeader) done rest
    else if inTokens && lineWord.toList.isPrefixOf line then
      match readLine n line with
      | .error e => .error e
      | .ok s => readLines (n + 1) inTokens (s :: done) rest
    else readLines (n + 1) inTokens done rest

/-- Read the parser input that a listing holds. -/
def read (content : String) : Except ListingError (List InputSymbol) :=
  let lines := (Text.lines content.toList).map Text.trimBlanks
  readLines 1 (!lines.any (String.ofList · == tokensHeader)) [] lines

end Listing

end Lookahead
