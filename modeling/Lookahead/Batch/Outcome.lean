import Lookahead.Analysis.Totals
import Lookahead.Batch.Choices

/-!
# Outcomes of batches

What became of the files of a batch.  A file is accepted if its analysis is clean, rejected if it
has another analysis, and failed if it has none; a batch has a list for each, and counts the files.
-/

namespace Lookahead

/-- What became of a file. -/
structure FileOutcome where
  path : Path
  result : Except AnalysisError Analysis

/-- The file is accepted without lexical errors. -/
def FileOutcome.isClean (o : FileOutcome) : Bool :=
  match o.result with
  | .ok a => a.isClean
  | .error _ => false

/-- What became of the files of a batch. -/
structure Batch where
  /-- The clean analyses. -/
  accepted : List (Path × Analysis)
  /-- The analyses that are not clean. -/
  rejected : List (Path × Analysis)
  /-- The files without an analysis. -/
  failed : List (Path × AnalysisError)
  /-- The number of files that were analysed or failed. -/
  processed : Nat
  /-- The number of files that were to be analysed. -/
  discovered : Nat
  /-- In nanoseconds. -/
  duration : Nat

namespace Batch

/-- A batch of no files. -/
def empty : Batch := ⟨[], [], [], 0, 0, 0⟩

/-- A batch of files that are to be analysed. -/
def start (discovered : Nat) : Batch := { empty with discovered }

/-- Add the analysis of a file, and say whether it is clean. -/
def addResult (b : Batch) (path : Path) (a : Analysis) : Batch × Bool :=
  let b := { b with processed := b.processed + 1 }
  if a.isClean then ({ b with accepted := b.accepted ++ [(path, a)] }, true)
  else ({ b with rejected := b.rejected ++ [(path, a)] }, false)

/-- Add a file without an analysis. -/
def addFailure (b : Batch) (path : Path) (e : AnalysisError) : Batch :=
  { b with failed := b.failed ++ [(path, e)], processed := b.processed + 1 }

/-- Add what became of a file, and say whether it is clean. -/
def record (b : Batch) (o : FileOutcome) : Batch × Bool :=
  match o.result with
  | .ok a => b.addResult o.path a
  | .error e => (b.addFailure o.path e, false)

/-- Add what became of a file. -/
def add (b : Batch) (o : FileOutcome) : Batch := (b.record o).1

/-- Add the files of another batch. -/
def merge (b other : Batch) : Batch :=
  { b with
    accepted := b.accepted ++ other.accepted
    rejected := b.rejected ++ other.rejected
    failed := b.failed ++ other.failed
    processed := b.processed + other.processed }

/-- The files of each list in the order of paths. -/
def sorted (b : Batch) : Batch :=
  { b with
    accepted := b.accepted.mergeSort fun p q => p.1.le q.1
    rejected := b.rejected.mergeSort fun p q => p.1.le q.1
    failed := b.failed.mergeSort fun p q => p.1.le q.1 }

/-- No file was rejected, and none failed. -/
def allAccepted (b : Batch) : Bool := b.rejected.isEmpty && b.failed.isEmpty

/-- The part of the files that is accepted. -/
def acceptanceRate (b : Batch) : Float := rateOf b.accepted.length b.processed

/-- The accepted part in percent. -/
def acceptedPercent (b : Batch) : String := Text.fixedFloat 1 (b.acceptanceRate * 100.0)

/-- The time the batch took, in seconds. -/
def secondsText (b : Batch) : String := Text.fixedFloat 2 (Text.secondsOf b.duration)

/-- The totals of the analyses. -/
def totals (b : Batch) : Totals := .of ((b.accepted ++ b.rejected).map Prod.snd)

/-- The batch in one line. -/
def summary (b : Batch) : String :=
  s!"Batch processing completed: {b.processed} files processed, "
    ++ s!"{b.accepted.length} accepted ({b.acceptedPercent}%), {b.rejected.length} rejected, "
    ++ s!"{b.failed.length} failed, {b.secondsText}s total"

end Batch

end Lookahead
