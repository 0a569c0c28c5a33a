import Lookahead.Grammar.Terminal

/-!
# Symbols

The non-terminals of the grammar, and the symbols its right-hand sides are made of: terminals and
non-terminals.
-/

namespace Lookahead

/-- Non-terminals. -/
inductive NonTerminal where
  /-- A list of statements, the start symbol. -/
  | statements
  /-- One statement. -/
  | statement
  /-- The brackets of an array type, if any. -/
  | arraySuffix
  /-- A modifier. -/
  | modifier
  /-- What a declaration declares. -/
  | declared
  /-- A control statement. -/
  | control
  /-- The inside of a block. -/
  | block
  /-- What follows the first statements of a block. -/
  | blockRest
  /-- An expression. -/
  | expression
  /-- What follows the first operand of an expression. -/
  | expressionRest
  /-- The elements of an array literal. -/
  | elements
  /-- What follows the first element. -/
  | elementsRest
  /-- The arguments of a call. -/
  | arguments
  /-- What follows the first argument. -/
  | argumentsRest
deriving DecidableEq, Repr

namespace NonTerminal

/-- The non-terminals in the order they are shown in. -/
def all : List NonTerminal :=
  [statements, statement, arraySuffix, modifier, declared, control, block, blockRest,
   expression, expressionRest, elements, elementsRest, arguments, argumentsRest]

/-- The place of a non-terminal in the order of non-terminals. -/
def rank (A : NonTerminal) : Nat := all.idxOf A

/-- A non-terminal's letter; a prime marks the rest of a list. -/
def text : NonTerminal → String
  | statements => "S" | statement => "U" | arraySuffix => "T'" | modifier => "M"
  | declared => "K" | control => "C" | block => "H" | blockRest => "H'"
  | expression => "G" | expressionRest => "G'" | elements => "I" | elementsRest => "I'"
  | arguments => "A" | argumentsRest => "A'"

/-- The non-terminal named `s`. -/
def ofText? (s : String) : Option NonTerminal := all.find? (·.text == s)

/-- What every program derives from. -/
def start : NonTerminal := statements

theorem mem_all (A : NonTerminal) : A ∈ all := by cases A <;> decide

theorem ofText?_text (A : NonTerminal) : ofText? A.text = some A := by
  cases A <;> decide +kernel
end NonTerminal

/-- A symbol of a right-hand side. -/
inductive Symbol where
  | terminal (t : Terminal)
  | nonTerminal (A : NonTerminal)
deriving DecidableEq, Repr

instance : Coe Terminal Symbol := ⟨.terminal⟩

instance : Coe NonTerminal Symbol := ⟨.nonTerminal⟩

instance : Coe Keyword Symbol := ⟨fun k => .terminal k⟩

instance : Coe Operator Symbol := ⟨fun o => .terminal o⟩

instance : Coe Delimiter Symbol := ⟨fun d => .terminal d⟩

namespace Symbol

/-- A symbol's name. -/
def text : Symbol → String
  | terminal t => t.text
  | nonTerminal A => A.text

/-- The symbol named `s`; a non-terminal's name comes first. -/
def ofText? (s : String) : Option Symbol :=
  (NonTerminal.ofText? s).map nonTerminal <|> (Terminal.ofText? s).map terminal

end Symbol

/-- A right-hand side as it is shown: its symbols in a row, or `ε`. -/
def bodyText (body : List Symbol) : String :=
  if body.isEmpty then "ε" else " ".intercalate (body.map Symbol.text)

end Lookahead
