import Lookahead.Grammar.Terminal
import Lookahead.Text.Position

/-!
# Tokens

A token is a lexeme with its place in the source, the terminal it stands for, and its kind, which
tells literals apart that are one terminal to the parser.
-/

namespace Lookahead

/-- What a token is. -/
inductive TokenKind where
  | keyword | identifier | operator | delimiter | stringLiteral | intLiteral | floatLiteral
deriving DecidableEq, Repr

namespace TokenKind

/-- The kinds, in the order they are counted. -/
def all : List TokenKind :=
  [keyword, identifier, operator, delimiter, stringLiteral, intLiteral, floatLiteral]

/-- The name of a kind. -/
def text : TokenKind → String
  | keyword => "KEYWORD"
  | identifier => "IDENTIFIER"
  | operator => "OPERATOR"
  | delimiter => "DELIMITER"
  | stringLiteral => "STRING_LITERAL"
  | intLiteral => "NUMBER_INT"
  | floatLiteral => "NUMBER_FLOAT"

/-- The kind of that name. -/
def ofText? (s : String) : Option TokenKind := all.find? (·.text == s)

/-- The kind of every token of a terminal with a fixed spelling. -/
def ofTerminal? : Terminal → Option TokenKind
  | .keyword _ => some keyword
  | .operator _ => some operator
  | .delimiter _ => some delimiter
  | _ => none

/-- Numbers and strings. -/
def isLiteral : TokenKind → Bool
  | stringLiteral | intLiteral | floatLiteral => true
  | _ => false

end TokenKind

/-- A lexeme of the source, classified. -/
structure Token where
  category : Terminal
  kind : TokenKind
  lexeme : String
  span : Span
deriving DecidableEq, Repr

namespace Token

/-- The line a token starts on. -/
def line (t : Token) : Nat := t.span.start.line

/-- A token as it is shown. -/
def text (t : Token) : String := s!"{t.kind.text} '{t.lexeme}' ({t.category.text})"

end Token

end Lookahead
