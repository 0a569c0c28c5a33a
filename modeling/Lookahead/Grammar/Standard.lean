import Lookahead.Grammar.Table

/-!
# The language

The grammar of the language as a list of rules, and its parse table.  A program is a list of
statements; a statement is a class, a control statement, an expression or a variable.  Where the
grammar is ambiguous, as with a list of statements inside another, the inner list takes all it can.
-/

namespace Lookahead

open Keyword Operator Delimiter NonTerminal

/-- The words a class begins with. -/
def modifiers : List Terminal := [public_, private_, protected_, static, final, abstract_]

/-- The terminals a control statement begins with. -/
def controlStarts : List Terminal :=
  [if_, while_, do_, for_, break_, continue_, return_, try_, throw, openBrace]

/-- The terminals a statement begins with. -/
def statementStarts : List Terminal :=
  modifiers ++ ([int, boolean, Terminal.identifier] : List Terminal) ++ controlStarts

/-- The terminals an expression begins with. -/
def expressionStarts : List Terminal :=
  [Terminal.identifier, Terminal.number, openParen, Operator.not, minus, plus, openBrace]

/-- The operators that join an expression to another, or assign it. -/
def binaryOperators : List Operator :=
  [assign, plusAssign, minusAssign, starAssign, slashAssign, plus, minus, star, slash,
   Operator.eq, Operator.ne, Operator.gt, Operator.lt, Operator.ge, Operator.le,
   Operator.and, Operator.or]

/-- A rule picked under the terminal its body begins with. -/
def Rule.startingWith (A : NonTerminal) (a : Terminal) (rest : List Symbol) : Rule :=
  ⟨A, [a], a :: rest⟩

/-- The rules of the language. -/
def standardRules : List Rule :=
  [⟨statements, statementStarts, [statement, statements]⟩,
   ⟨statements, [closeBrace, Terminal.endMark], []⟩,

   ⟨statement, modifiers,
    [modifier, declared, Terminal.identifier, openBrace, block, closeBrace]⟩,
   ⟨statement, controlStarts, [control]⟩,
   ⟨statement, [Terminal.identifier], [expression, semicolon]⟩,
   Rule.startingWith statement int
    [arraySuffix, Terminal.identifier, assign, expression, semicolon],
   Rule.startingWith statement boolean
    [arraySuffix, Terminal.identifier, assign, expression, semicolon],

   Rule.startingWith arraySuffix openBracket [closeBracket],
   ⟨arraySuffix, [Terminal.identifier], []⟩]
  ++ modifiers.map (.startingWith modifier · []) ++
  [Rule.startingWith declared class_ [],
   Rule.startingWith declared interface [],

   Rule.startingWith control if_ [openParen, expression, closeParen, statements],
   Rule.startingWith control while_ [openParen, expression, closeParen, statements],
   Rule.startingWith control do_
    [statements, while_, openParen, expression, closeParen, semicolon],
   Rule.startingWith control for_
    [openParen, expression, semicolon, expression, semicolon, expression, closeParen, statements],
   Rule.startingWith control break_ [semicolon],
   Rule.startingWith control continue_ [semicolon],
   Rule.startingWith control return_ [expression, semicolon],
   Rule.startingWith control try_
    [openBrace, block, closeBrace,
     catch_, openParen, Terminal.identifier, closeParen, openBrace, block, closeBrace,
     finally_, openBrace, block, closeBrace],
   Rule.startingWith control throw [expression, semicolon],
   Rule.startingWith control openBrace [block, closeBrace],

   ⟨block, statementStarts, [statements, blockRest]⟩,
   ⟨block, [closeBrace], []⟩,
   ⟨blockRest, statementStarts, [statements, blockRest]⟩,
   ⟨blockRest, [closeBrace], []⟩,

   Rule.startingWith expression Terminal.identifier [expressionRest],
   Rule.startingWith expression Terminal.number [expressionRest],
   Rule.startingWith expression openParen [expression, closeParen, expressionRest],
   Rule.startingWith expression Operator.not [expression],
   Rule.startingWith expression minus [expression],
   Rule.startingWith expression plus [expression],
   Rule.startingWith expression openBrace [elements, closeBrace]]
  ++ binaryOperators.map (.startingWith expressionRest · [expression]) ++
  [Rule.startingWith expressionRest increment [],
   Rule.startingWith expressionRest decrement [],
   Rule.startingWith expressionRest openParen [NonTerminal.arguments, closeParen],
   ⟨expressionRest, [semicolon, closeParen, comma, closeBracket, Terminal.endMark], []⟩,

   Rule.startingWith elements Terminal.number [elementsRest],
   Rule.startingWith elementsRest comma [Terminal.number, elementsRest],
   ⟨elementsRest, [closeBrace], []⟩,

   ⟨NonTerminal.arguments, expressionStarts, [expression, argumentsRest]⟩,
   ⟨NonTerminal.arguments, [closeParen], []⟩,
   Rule.startingWith argumentsRest comma [expression, argumentsRest],
   ⟨argumentsRest, [closeParen], []⟩]

theorem standardRules_distinct : (claims standardRules).Nodup :=
  nodup_claims (by decide +kernel) (by decide +kernel)

/-- The parse table of the language. -/
def Table.standard : Table := ⟨standardRules, standardRules_distinct⟩

end Lookahead
