import Lookahead.Grammar.Standard
import Lookahead.Parse.Machine
import Lookahead.Parse.Trace

/-!
# Parsing

A run of the machine over an input, from `Config.initial` on, with the expansions it made and, if
asked for, a trace of its steps.  A run is given a number of moves, more than any run that ends can
make (`Table.moves`); one that uses them up is undecided.  An end marker inside the input is refused
before the first move.
-/

namespace Lookahead

/-- An expansion that a run made. -/
structure Expansion where
  expanded : NonTerminal
  body : List Symbol
deriving DecidableEq, Repr

/-- An expansion as it is shown. -/
def Expansion.text (e : Expansion) : String := Action.expansionText e.expanded e.body

/-- How a run ends. -/
inductive Verdict where
  | accepted
  | rejected (e : SyntaxError)
  /-- The moves ran out. -/
  | undecided
deriving DecidableEq, Repr

/-- What a run yields. -/
structure Run where
  verdict : Verdict
  trace : Trace
  expansions : Array Expansion
deriving Repr

namespace Run

/-- A run that has made no move. -/
def start (input : List InputSymbol) : Run where
  verdict := .undecided
  trace := .start (input.map InputSymbol.category ++ [.endMark])
  expansions := #[]

/-- The input is accepted. -/
def isAccepted (r : Run) : Bool := r.verdict == .accepted

/-- Why the input is rejected. -/
def error? (r : Run) : Option SyntaxError :=
  match r.verdict with
  | .rejected e => some e
  | _ => none

/-- Change the trace, if the run keeps one. -/
def traced (recording : Bool) (change : Trace → Trace) (r : Run) : Run :=
  if recording then { r with trace := change r.trace } else r

/-- Note a move that was made in a configuration. -/
def note (recording : Bool) (r : Run) (c : Config) : Move → Run
  | .consume a => r.traced recording (·.record ⟨c.stack.symbols, c.cursor, .consume a⟩)
  | .expand A body =>
    { r with expansions := r.expansions.push ⟨A, body⟩ }.traced recording
      (·.record ⟨c.stack.symbols, c.cursor, .expand A body⟩)

/-- End a run in acceptance. -/
def accept (recording : Bool) (r : Run) (c : Config) : Run :=
  { r with verdict := .accepted }.traced recording
    (·.conclude ⟨c.stack.symbols, c.cursor, .accept⟩)

/-- End a run in rejection, with the stack as it is. -/
def reject (recording : Bool) (r : Run) (stack : List Symbol) (cursor : Nat) (e : SyntaxError) :
    Run :=
  { r with verdict := .rejected e }.traced recording
    (·.conclude ⟨stack, cursor, .reject e.message⟩)

end Run

/-- Go on from a configuration for at most `n` moves. -/
def Config.run (T : Table) (recording : Bool) : Nat → Config → Run → Run
  | 0, _, r => r
  | n + 1, c, r =>
    match c.step T with
    | .moved m next => next.run T recording n (r.note recording c m)
    | .overflow A body depth =>
      (r.note recording c (.expand A body)).reject recording c.stack.pop.symbols c.cursor
        (.stackDepth depth depthLimit)
    | .accepted => r.accept recording c
    | .rejected e => r.reject recording c.stack.symbols c.cursor e

namespace Table

/-- The length of the longest body. -/
def longestBody (T : Table) : Nat := (T.rules.map (·.body.length)).foldl max 0

/-- More moves than a run on `n` symbols can make and still end.  Under one lookahead a non-terminal
that vanishes does so in a tree no deeper than there are non-terminals, and one that comes back has
to leave a symbol on the stack. -/
def moves (T : Table) (n : Nat) : Nat :=
  let depth := NonTerminal.all.length
  (n + 2) * (Config.depthLimit + 2) * (depth * T.longestBody + 1) *
    Nat.pow (T.longestBody + 1) depth

/-- Parse an input, which holds no end marker, for at most `moves` moves. -/
def runFor (T : Table) (recording : Bool) (moves : Nat) (input : List InputSymbol) : Run :=
  match input.findIdx? (·.category == .endMark) with
  | some position =>
    (Run.start input).reject recording [] position
      (.internal s!"end marker inside input at symbol {position}")
  | none => (Config.initial input).run T recording moves (.start input)

/-- Parse an input, which holds no end marker. -/
def run (T : Table) (recording : Bool) (input : List InputSymbol) : Run :=
  T.runFor recording (T.moves input.length) input

end Table

/-- Parse an input by the grammar of the language. -/
def parse (recording : Bool) (input : List InputSymbol) : Run := Table.standard.run recording input

end Lookahead
