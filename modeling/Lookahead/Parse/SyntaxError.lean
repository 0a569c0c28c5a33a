import Lookahead.Diagnostic.Code
import Lookahead.Grammar.Rule

/-!
# Syntax errors

Why a parse rejects its input.  The first error ends the parse.
-/

namespace Lookahead

/-- The cause of a rejection. -/
inductive SyntaxError where
  /-- The terminal on the stack is not the one in the input. -/
  | mismatch (expected found : Terminal) (position : Nat) (line : Option Nat)
  /-- The table has no body for the non-terminal under the lookahead. -/
  | noProduction (expanded : NonTerminal) (lookahead : Terminal) (position : Nat)
      (line : Option Nat)
  /-- An expansion would make the stack too high. -/
  | stackDepth (depth limit : Nat)
  /-- The table is no table. -/
  | grammar (e : GrammarError)
  /-- The parser was used wrongly, or went wrong itself. -/
  | internal (reason : String)
deriving DecidableEq, Repr

namespace GrammarError

/-- The diagnostic code of a grammar error. -/
def code : GrammarError → Code
  | conflict .. => .tableConflict
  | inconsistent .. => .tableInconsistent

end GrammarError

namespace SyntaxError

/-- A place in the input, in words. -/
def placeText (position : Nat) : Option Nat → String
  | some line => s!"line {line}, input symbol {position}"
  | none => s!"input symbol {position}"

/-- The wording of a syntax error. -/
def message : SyntaxError → String
  | mismatch expected found position line =>
    s!"expected '{expected.text}' but found '{found.text}' at {placeText position line}"
  | noProduction A a position line =>
    s!"no production for {A.text} with lookahead '{a.text}' at {placeText position line}"
  | stackDepth depth limit => s!"parse stack depth {depth} exceeds limit {limit}"
  | grammar e => s!"invalid parse table: {e.message}"
  | internal reason => s!"internal parser error: {reason}"

/-- The diagnostic code of a syntax error. -/
def code : SyntaxError → Code
  | mismatch .. => .terminalMismatch
  | noProduction .. => .noProduction
  | stackDepth .. => .stackDepth
  | grammar e => e.code
  | internal _ => .internalParserError

/-- The place in the input of the symbol at fault. -/
def position? : SyntaxError → Option Nat
  | mismatch _ _ position _ | noProduction _ _ position _ => some position
  | _ => none

/-- The line of the symbol at fault. -/
def line? : SyntaxError → Option Nat
  | mismatch _ _ _ line | noProduction _ _ _ line => line
  | _ => none

/-- The symbol at fault. -/
def found? : SyntaxError → Option Terminal
  | mismatch _ found _ _ => some found
  | noProduction _ found _ _ => some found
  | _ => none

/-- The input is at fault, not the parser or its table. -/
def isInputRejection : SyntaxError → Bool
  | mismatch .. | noProduction .. => true
  | _ => false

end SyntaxError

end Lookahead
