import Lookahead.Analysis
import Lookahead.Text.Binary

/-!
# Totals

Counts over a list of analyses, and the rates they give.
-/

namespace Lookahead

/-- The quotient of two numbers, zero if there is nothing to divide by. -/
def rateOf (part whole : Nat) : Float :=
  if whole = 0 then 0.0 else part.toUInt64.toFloat / whole.toUInt64.toFloat

/-- Counts over analyses. -/
structure Totals where
  accepted : Nat
  rejected : Nat
  withLexicalErrors : Nat
  lexicalErrors : Nat
  tokens : Nat
  bytes : Nat
  /-- In nanoseconds. -/
  duration : Nat
deriving DecidableEq, Repr

namespace Totals

/-- The sum of a number over a list of analyses. -/
def sum (of : Analysis → Nat) (as : List Analysis) : Nat := as.foldr (fun a n => of a + n) 0

/-- The totals of a list of analyses. -/
def of (as : List Analysis) : Totals where
  accepted := as.countP Analysis.isAccepted
  rejected := as.countP (!·.isAccepted)
  withLexicalErrors := as.countP (·.scan.hasErrors)
  lexicalErrors := sum (·.scan.errors.length) as
  tokens := sum Analysis.tokenCount as
  bytes := sum (·.info.size) as
  duration := sum (·.duration) as

/-- The number of files. -/
def files (t : Totals) : Nat := t.accepted + t.rejected

/-- The part of the files that is accepted. -/
def acceptanceRate (t : Totals) : Float := rateOf t.accepted t.files

/-- The time a file took, in whole nanoseconds. -/
def average (t : Totals) : Nat := t.duration / t.files

/-- Tokens a second. -/
def tokenRate (t : Totals) : Float :=
  let seconds := Text.secondsOf t.duration
  if seconds > 0.0 then t.tokens.toUInt64.toFloat / seconds else 0.0

end Totals

end Lookahead
