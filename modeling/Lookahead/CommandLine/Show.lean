import Lookahead.Analysis.Output
import Lookahead.Batch.Outcome
import Lookahead.CommandLine.Options
import Lookahead.Listing.File

/-!
# Showing results

What is printed of an analysis and of a batch.  A result is clean, and the program succeeds, if the
input or every file of the batch is accepted without lexical errors.
-/

namespace Lookahead

/-! ### One input -/

namespace Analysis

/-- A verdict as it is printed. -/
def verdictText (v : Verdict) : String :=
  match v with
  | .accepted => "ACCEPT"
  | .rejected e => s!"REJECT: {e.message}"
  | .undecided => "UNDECIDED"

/-- Print listing, trace and verdict, as far as they are asked for.  False if the columns of the
trace are too wide, and then nothing behind it is printed. -/
def print (o : Options) (width : Nat) (a : Analysis) : Logged Bool := do
  if !o.quiet && !a.fromListing then Session.print (Listing.render a.scan)
  if o.trace then
    match a.run.trace.render? width with
    | some table => Session.print table
    | none =>
      Session.complain s!"FAILED: a trace column has at most {Trace.widthLimit} characters"
      return false
  Session.print (verdictText a.run.verdict)
  if a.scan.hasErrors then
    Session.print s!"{a.scan.errors.length} lexical error(s) in {a.info.path}"
  return true

/-- Write the listing if that is asked for; false if it cannot be written. -/
def writeListing (o : Options) (a : Analysis) : Logged Bool := do
  match o.listingPath with
  | none => return true
  | some path =>
    if a.fromListing then
      Session.complain "Warning: --tokens-out ignored for a token listing input"
      return true
    match ← (Listing.write path a.scan).run with
    | .ok _ => return true
    | .error e =>
      Session.complain s!"FAILED: {e.message}"
      return false

/-- Show what became of an input; true if it is clean. -/
def report (o : Options) (width : Nat) (r : Except AnalysisError Analysis) : Logged Bool := do
  match r with
  | .error e =>
    Session.complain s!"FAILED: {e.message}"
    Session.reportErrors
    return false
  | .ok a =>
    unless ← a.writeListing o do return false
    if o.json then Session.print (a.toJson o.trace).pretty
    else
      unless ← a.print o width do return false
    Session.reportErrors
    return a.isClean

end Analysis

/-! ### Batches -/

namespace Batch

/-- Why a file is rejected. -/
def rejectionText (a : Analysis) : String :=
  match a.run.verdict with
  | .accepted => s!"{a.scan.errors.length} lexical error(s)"
  | v => Analysis.verdictText v

/-- Files with what is said of each, under a header, if there are any. -/
def filesText {α : Type} (header : String) (say : α → String) (files : List (Path × α)) :
    List String :=
  if files.isEmpty then []
  else "" :: header :: files.map fun (path, a) => s!"  {path}: {say a}"

/-- The batch, a line each. -/
def lines (b : Batch) : List String :=
  let tokens := b.totals.tokens
  ["", "Batch Processing Summary:",
   s!"  Files discovered: {b.discovered}",
   s!"  Files processed: {b.processed}",
   s!"  Accepted: {b.accepted.length} ({b.acceptedPercent}%)",
   s!"  Rejected: {b.rejected.length}",
   s!"  Failed: {b.failed.length}",
   s!"  Total time: {b.secondsText}s"]
  ++ (if tokens > 0 then
        [s!"  Tokens: {tokens} ({Text.fixedFloat 0 b.totals.tokenRate} tokens/sec)"] else [])
  ++ filesText "Rejected Files:" rejectionText b.rejected
  ++ filesText "Failed Files:" AnalysisError.message b.failed

/-- What is announced of a batch. -/
def announcement (c : BatchChoices) (dir : Path) : List String :=
  [s!"Starting batch processing: {dir}",
   s!"Configuration: {c.maxThreads} threads, recursive={c.recursive}, fail_fast={c.failFast}"]
  ++ match c.maxFiles with
    | some n => [s!"File limit: {n} files maximum"]
    | none => []

/-- Show what became of a batch; true if all its files are clean. -/
def report (r : Except BatchError Batch) : Logged Bool := do
  match r with
  | .ok b =>
    Session.printAll b.lines
    Session.reportErrors
    return b.allAccepted
  | .error e =>
    Session.complain s!"Batch processing failed: {e.message}"
    Session.reportErrors
    return false

end Batch

end Lookahead
