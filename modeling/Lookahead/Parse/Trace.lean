import Lookahead.Grammar.Symbol
import Lookahead.Text.Json
import Lookahead.Text.Pad

/-!
# Traces

The record of a parse, move by move: the stack and the place in the input as they were before the
move, and what was done.  A trace keeps a bounded number of moves (`Trace.record`), and the last
step, which tells the verdict, in any case (`Trace.conclude`).
-/

namespace Lookahead

/-- What a parser does at a step. -/
inductive Action where
  /-- Read a terminal that is on the stack. -/
  | consume (a : Terminal)
  /-- Replace a non-terminal by a body. -/
  | expand (A : NonTerminal) (body : List Symbol)
  | accept
  | reject (reason : String)
deriving DecidableEq, Repr

namespace Action

/-- An expansion as it is shown. -/
def expansionText (A : NonTerminal) (body : List Symbol) : String := s!"{A.text} -> {bodyText body}"

/-- An action in words. -/
def text : Action → String
  | consume a => s!"match '{a.text}'"
  | expand A body => expansionText A body
  | accept => "ACCEPT"
  | reject reason => s!"REJECT: {reason}"

/-- The action replaces a non-terminal. -/
def isExpand : Action → Bool
  | expand .. => true
  | _ => false

/-- The action as fields of an object. -/
def fields : Action → List (String × Json)
  | consume a => [("action", "match"), ("terminal", a.text)]
  | expand A body =>
    [("action", "expand"), ("non_terminal", A.text),
     ("production", .arr (body.map fun X => .str X.text))]
  | accept => [("action", "accept")]
  | reject reason => [("action", "reject"), ("reason", reason)]

end Action

/-- A step of a parse: stack, top first, and place in the input before it, and what was done. -/
structure TraceStep where
  stack : List Symbol
  cursor : Nat
  action : Action
deriving DecidableEq, Repr

namespace TraceStep

/-- The stack's symbols by name, bottom first. -/
def stackNames (s : TraceStep) : List String := s.stack.reverse.map Symbol.text

/-- The step as an object. -/
def toJson (s : TraceStep) : Json :=
  .obj (("stack", .arr (s.stackNames.map .str)) :: ("cursor", (s.cursor : Json)) :: s.action.fields)

end TraceStep

/-- The recorded steps of a parse of an input, which ends with the end marker. -/
structure Trace where
  input : List Terminal
  steps : Array TraceStep
  /-- Steps were left out. -/
  truncated : Bool
deriving Repr

namespace Trace

/-- The most moves that a trace keeps. -/
def stepLimit : Nat := 200000

/-- A trace without steps. -/
def start (input : List Terminal) : Trace := ⟨input, #[], false⟩

/-- Keep a move if there is room. -/
def record (t : Trace) (s : TraceStep) : Trace :=
  if t.steps.size < stepLimit then { t with steps := t.steps.push s }
  else { t with truncated := true }

/-- Keep the last step. -/
def conclude (t : Trace) (s : TraceStep) : Trace := { t with steps := t.steps.push s }

/-- The input not yet read at a step. -/
def remaining (t : Trace) (s : TraceStep) : List Terminal := t.input.drop s.cursor

/-- The number of expansions recorded. -/
def expansions (t : Trace) : Nat := t.steps.countP (·.action.isExpand)

/-- A line of the table: two columns of a width, and an action. -/
def rowText (width : Nat) (stack input action : String) : String :=
  s!"{Text.padRight width stack} {Text.padRight width input} {action}\n"

/-- The trace as a table of stacks, inputs and actions. -/
def table (t : Trace) (width : Nat) : String :=
  let rows := t.steps.map fun s =>
    rowText width (" ".intercalate s.stackNames)
      (" ".intercalate ((t.remaining s).map Terminal.text)) s.action.text
  let tail := if t.truncated then s!"... trace truncated after {t.steps.size} steps\n" else ""
  rows.foldl (· ++ ·) (rowText width "STACK" "INPUT" "ACTION") ++ tail

/-- The greatest width of a column. -/
def widthLimit : Nat := 65535

/-- The table, unless its columns are too wide. -/
def render? (t : Trace) (width : Nat) : Option String :=
  if width ≤ widthLimit then some (t.table width) else none

/-- The trace as an object. -/
def toJson (t : Trace) : Json :=
  .obj [("input", .arr (t.input.map fun a => .str a.text)),
    ("steps", .arr (t.steps.toList.map TraceStep.toJson)), ("truncated", t.truncated)]

end Trace

end Lookahead
