import Lookahead.Listing
import Lookahead.Parse
import Lookahead.Source

/-!
# Analyses

What becomes of an input that can be loaded: the scan of its text and the parse of the tokens, or,
for a listing, the parse alone.  Lexical errors and rejection are results; only an input that cannot
be loaded has no analysis.  An analysis is clean if the input is accepted without a lexical error.
-/

namespace Lookahead

/-- The scan and the parse of an input. -/
structure Analysis where
  info : FileInfo
  /-- The scan, which is empty for a listing. -/
  scan : Scan
  run : Run
  /-- The input was a listing. -/
  fromListing : Bool
  /-- How long loading, scanning and parsing took, in nanoseconds. -/
  duration : Nat
deriving Repr

namespace Analysis

/-- The parser accepts the tokens. -/
def isAccepted (a : Analysis) : Bool := a.run.isAccepted

/-- The input is accepted and has no lexical errors. -/
def isClean (a : Analysis) : Bool := a.isAccepted && !a.scan.hasErrors

/-- The number of tokens: of a listing those that the parser was given. -/
def tokenCount (a : Analysis) : Nat :=
  if a.fromListing then a.run.trace.input.length - 1 else a.scan.tokens.length

end Analysis

/-- Why an input has no analysis. -/
inductive AnalysisError where
  | loading (e : SourceError)
  | listing (e : ListingError)
  | internal (reason : String)
deriving DecidableEq, Repr

namespace AnalysisError

/-- The wording of an analysis error. -/
def message : AnalysisError → String
  | loading e => s!"File processing failed: {e.message}"
  | listing e => s!"Token listing could not be used: {e.message}"
  | internal reason => s!"Pipeline error: {reason}"

/-- The diagnostic code of an analysis error. -/
def code : AnalysisError → Code
  | loading e => e.code
  | listing e => e.code
  | internal _ => .internalError

end AnalysisError

end Lookahead
