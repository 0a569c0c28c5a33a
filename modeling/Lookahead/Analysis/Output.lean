import Lookahead.Analysis
import Lookahead.Scan.Record

/-!
# Analyses as objects

The report of an analysis that other programs read.  The error of a rejection and the trace are
fields only where there is one to tell.
-/

namespace Lookahead

/-- An expansion as an object. -/
def Expansion.toJson (e : Expansion) : Json :=
  .obj [("non_terminal", e.expanded.text), ("production", .arr (e.body.map fun X => .str X.text))]

/-- A field, if there is a value for it. -/
def Json.fieldOf {α : Type} (name : String) (f : α → Json) : Option α → List (String × Json)
  | some a => [(name, f a)]
  | none => []

/-- What a report tells of a rejection: line and place only if they are known. -/
def SyntaxError.report (e : SyntaxError) : Json :=
  .obj (List.flatten
    [[("code", e.code.text), ("message", e.message)],
     Json.fieldOf "line" (fun n : Nat => n) e.line?,
     Json.fieldOf "position" (fun n : Nat => n) e.position?])

namespace Analysis

/-- The report of an analysis, with its trace or without. -/
def toJson (withTrace : Bool) (a : Analysis) : Json :=
  .obj (List.flatten
    [[("file", a.info.path), ("accepted", a.isAccepted),
      ("tokens", .arr (a.scan.tokens.map Token.toJson)),
      ("identifiers", a.scan.identifiers.toJson),
      ("lexical_errors", .arr (a.scan.errors.map LexicalError.toJson)),
      ("metrics", a.scan.tally.toJson)],
     Json.fieldOf "syntax_error" SyntaxError.report a.run.error?,
     [("productions_applied", a.run.expansions.size),
      ("productions", .arr (a.run.expansions.toList.map Expansion.toJson))],
     Json.fieldOf "trace" Trace.toJson (if withTrace then some a.run.trace else none)])

end Analysis

end Lookahead
