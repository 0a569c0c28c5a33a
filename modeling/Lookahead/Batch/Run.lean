import Lookahead.Analysis.Stages
import Lookahead.Batch.Discovery
import Lookahead.Batch.Outcome
import Lookahead.Batch.Share

/-!
# Running batches

The files of a directory are analysed one after the other, or by several workers, whose results are
put in order at the end.  Workers share nothing but the results; here they take turns, a share at a
time.
-/

namespace Lookahead

namespace BatchChoices

/-- Analyse files, each announced before, and add what becomes of them to a batch.  If that is asked
for, the first that is not clean is the last, and is given back. -/
def analyzeEach (c : BatchChoices) (announce : Path → Nat → Logged Unit) (b : Batch) :
    List (Path × Nat) → Logged (Batch × Option Path)
  | [] => return (b, none)
  | (path, id) :: rest => do
    announce path id
    let (b, clean) := b.record ⟨path, ← Analysis.ofFile c.preferences path id⟩
    if c.failFast && !clean then return (b, some path)
    analyzeEach c announce b rest

/-- Tell how a batch went. -/
def tell (threads : Nat) (b : Batch) : Logged Unit :=
  Session.success .batchCompleted "Batch processing completed"
    [("files_processed", toString b.processed), ("accepted", toString b.accepted.length),
     ("rejected", toString b.rejected.length), ("failed", toString b.failed.length),
     ("threads_used", toString threads),
     ("duration_ms", Text.fixedFloat 2 (Text.millisecondsOf b.duration))]

/-! ### One after the other -/

/-- Announce a file on the console. -/
def announce (c : BatchChoices) (count : Nat) (path : Path) (id : Nat) : Logged Unit :=
  if c.progress then Session.print s!"Processing file {id + 1} of {count}: {path}" else pure ()

/-- Analyse the files of a directory one after the other. -/
def runInTurn (c : BatchChoices) (dir : Path) : ExceptT BatchError Logged Batch := do
  Session.info "Starting sequential batch processing" [("directory", dir)]
  let files ← c.discover dir
  let (b, fault?) ←
    c.analyzeEach (c.announce files.length) (.start files.length) files.zipIdx
  if let some path := fault? then
    Session.warning "Fail-fast mode enabled, stopping batch processing" [("file", path)]
  tell 1 b
  return b

/-! ### By workers -/

/-- Analyse the files of rounds, and add the results of each round to a batch, up to the first round
with a file that is not clean if that is asked for. -/
def analyzeRounds (c : BatchChoices) (b : Batch) : List (List (Share Path)) → Logged Batch
  | [] => return b
  | shares :: rest => do
    let (results, fault?) ←
      c.analyzeEach (fun _ _ => pure ()) .empty (shares.flatMap Share.numbered)
    let b := b.merge results
    if fault?.isSome then
      Session.warning "Fail-fast mode enabled, stopping batch processing"
      return b
    analyzeRounds c b rest

/-- Analyse the files of a directory by several workers. -/
def runByWorkers (c : BatchChoices) (dir : Path) : ExceptT BatchError Logged Batch := do
  Session.info "Starting parallel batch processing"
    [("directory", dir), ("max_threads", toString c.threads)]
  let files ← c.discover dir
  Session.debug "Parallel processing configuration"
    [("total_files", toString files.length),
     ("chunk_size", toString (Share.roundSize files.length c.threads)),
     ("threads", toString c.threads)]
  let b ← c.analyzeRounds (.start files.length) (Share.rounds c.threads files)
  let b := b.sorted
  tell c.threads b
  return b

/-- Analyse the files of a directory. -/
def run (c : BatchChoices) (dir : Path) : Logged (Except BatchError Batch) :=
  if c.threads = 1 then (c.runInTurn dir).run else (c.runByWorkers dir).run

end BatchChoices

end Lookahead
