import Lookahead.Grammar.Table
import Lookahead.Parse.InputSymbol
import Lookahead.Parse.SyntaxError

/-!
# The predictive machine

A configuration is a stack of symbols and the input ahead.  A terminal on top is read off the input;
a non-terminal is replaced by the body that the table picks under the next input symbol.  The end
marker lies at the bottom of the stack and behind the input, and reading it is acceptance.

* `Stack.height_eq`: a stack knows its height.
* `Config.step` says what comes of a configuration: a move to another one, or the end of the run.
-/

namespace Lookahead

/-- A stack of symbols, top first. -/
structure Stack where
  symbols : List Symbol
  height : Nat
  height_eq : height = symbols.length
deriving DecidableEq, Repr

namespace Stack

/-- The stack of these symbols. -/
def ofList (symbols : List Symbol) : Stack := ⟨symbols, symbols.length, rfl⟩

/-- Put a body on top, its first symbol uppermost. -/
def push (s : Stack) (body : List Symbol) : Stack :=
  ⟨body ++ s.symbols, body.length + s.height, by rw [List.length_append, s.height_eq]⟩

/-- The stack without its top. -/
def pop (s : Stack) : Stack := ⟨s.symbols.tail, s.height - 1, by rw [List.length_tail, s.height_eq]⟩

@[simp] theorem symbols_push (s : Stack) (body : List Symbol) :
    (s.push body).symbols = body ++ s.symbols := rfl

@[simp] theorem symbols_pop (s : Stack) : s.pop.symbols = s.symbols.tail := rfl

end Stack

/-- What a machine does without ending its run. -/
inductive Move where
  | consume (a : Terminal)
  | expand (A : NonTerminal) (body : List Symbol)
deriving DecidableEq, Repr

/-- A machine in mid-run: its stack, the symbols it has not read and the end marker behind them, and
how many it has read. -/
structure Config where
  stack : Stack
  ahead : List InputSymbol
  final : InputSymbol
  cursor : Nat
deriving DecidableEq, Repr

/-- What comes of a configuration. -/
inductive Outcome where
  | moved (m : Move) (next : Config)
  /-- An expansion was picked that does not fit on the stack. -/
  | overflow (A : NonTerminal) (body : List Symbol) (depth : Nat)
  | accepted
  | rejected (e : SyntaxError)
deriving DecidableEq, Repr

namespace Config

/-- The greatest height of a stack. -/
def depthLimit : Nat := 100000

/-- The machine before its first move. -/
def initial (input : List InputSymbol) : Config where
  stack := .ofList [.nonTerminal .start, .terminal .endMark]
  ahead := input
  final := .endOf input
  cursor := 0

/-- The next symbol of the input. -/
def current (c : Config) : InputSymbol := c.ahead.headD c.final

/-- The configuration behind the next symbol, which is also on top of the stack. -/
def advance (c : Config) : Config :=
  { c with stack := c.stack.pop, ahead := c.ahead.tail, cursor := c.cursor + 1 }

/-- The configuration with the top of the stack replaced. -/
def replace (c : Config) (body : List Symbol) : Config :=
  { c with stack := c.stack.pop.push body }

/-- What comes of a configuration, by the top of its stack and the next symbol. -/
def step (T : Table) (c : Config) : Outcome :=
  match c.stack.symbols with
  | [] => .rejected (.internal "parse stack emptied before end of input")
  | .terminal a :: _ =>
    if a = c.current.category then
      if a = .endMark then .accepted else .moved (.consume a) c.advance
    else .rejected (.mismatch a c.current.category c.cursor c.current.line)
  | .nonTerminal A :: _ =>
    match T.body? A c.current.category with
    | none => .rejected (.noProduction A c.current.category c.cursor c.current.line)
    | some body =>
      let depth := body.length + c.stack.pop.height
      if depthLimit < depth then .overflow A body depth
      else .moved (.expand A body) (c.replace body)

end Config

end Lookahead
