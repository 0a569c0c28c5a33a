import Lookahead.Scan

/-!
# Scans as objects

The parts of a scan as JSON objects, for reports that other programs read.
-/

namespace Lookahead

/-- A position as an object. -/
def Position.toJson (p : Position) : Json :=
  .obj [("offset", p.offset), ("line", p.line), ("column", p.column)]

/-- A span as an object. -/
def Span.toJson (s : Span) : Json := .obj [("start", s.start.toJson), ("end", s.stop.toJson)]

/-- A token as an object. -/
def Token.toJson (t : Token) : Json :=
  .obj [("span", t.span.toJson), ("category", t.category.text), ("kind", t.kind.text),
    ("lexeme", t.lexeme)]

/-- A lexical error as an object. -/
def LexicalError.toJson (e : LexicalError) : Json :=
  .obj [("span", e.span.toJson), ("lexeme", e.lexeme), ("kind", e.kind.name)]

/-- A tally as an object. -/
def Tally.toJson (t : Tally) : Json :=
  .obj [("total_tokens", t.tokens), ("error_count", t.errors), ("lines", t.lines),
    ("keywords", t.keywords), ("identifiers", t.identifiers), ("operators", t.operators),
    ("delimiters", t.delimiters), ("string_literals", t.strings), ("int_literals", t.ints),
    ("float_literals", t.floats), ("line_comments", t.lineComments),
    ("block_comments", t.blockComments)]

end Lookahead
