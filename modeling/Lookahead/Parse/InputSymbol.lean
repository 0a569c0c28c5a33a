import Lookahead.Scan

/-!
# Parser input

The parser reads terminals only; each may come with the line it was scanned on, for messages.
-/

namespace Lookahead

/-- A terminal of the parser's input, with its line if it is known. -/
structure InputSymbol where
  category : Terminal
  line : Option Nat
deriving DecidableEq, Repr

namespace InputSymbol

/-- What the parser reads of a token. -/
def ofToken (t : Token) : InputSymbol := ⟨t.category, some t.line⟩

/-- A symbol as it is shown: its name, and its line if it has one. -/
def text (s : InputSymbol) : String :=
  match s.line with
  | some line => s!"{s.category.text}@{line}"
  | none => s.category.text

/-- The end marker behind an input, on the line of the last symbol. -/
def endOf (input : List InputSymbol) : InputSymbol := ⟨.endMark, input.getLast?.bind line⟩

end InputSymbol

/-- What the parser reads of a scan. -/
def Scan.symbols (s : Scan) : List InputSymbol := s.tokens.map .ofToken

end Lookahead
