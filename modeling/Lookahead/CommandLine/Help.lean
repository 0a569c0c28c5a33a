import Lookahead.Analysis.Check
import Lookahead.Batch.Choices

/-!
# Help

What the program says of itself: how it is called, its options, and what it is capable of.
-/

namespace Lookahead

namespace Help

/-- The version of the program. -/
def version : String := "0.1.0"

/-- How the program is called, for a user who called it without an input. -/
def usage (program : String) : List String :=
  [s!"Usage: {program} <file|directory|-> [options]",
   s!"       {program} --help"]

/-- The calls of the program. -/
def calls (program : String) : List String :=
  ["USAGE:",
   s!"    {program} <file> [options]               # Scan and parse one file",
   s!"    {program} - [options]                    # Scan and parse standard input",
   s!"    {program} <directory> [options]          # Process a directory"]

/-- The options. -/
def options : List String :=
  ["OPTIONS:",
   "    --help              Show this help message",
   "    --trace             Print the parse trace",
   "    --json              Print the result as JSON",
   "    --tokens-out FILE   Write the token listing to FILE",
   "    --from-tokens       Treat <file> as a token listing and only parse it",
   "    --config FILE       Load runtime preferences from a TOML file",
   "    --log-file FILE     Also write log events to FILE",
   "    --sequential        Force sequential processing (no parallelism)",
   "    --threads N         Set maximum number of threads (default: auto)",
   "    --no-recursive      Don't search subdirectories",
   "    --max-files N       Limit maximum files to process",
   "    --fail-fast         Stop at the first file that is not accepted",
   "    --quiet             Suppress the token listing and progress output"]

/-- What the exit status tells. -/
def exitStatus : List String :=
  ["EXIT STATUS:",
   "    0 when every input is accepted without lexical errors, 1 otherwise"]

/-- Examples of calls. -/
def examples (program : String) : List String :=
  ["EXAMPLES:",
   s!"    {program} Main.java --trace               # Listing, trace and verdict",
   s!"    {program} Main.java --tokens-out tok.txt  # Save the token listing",
   s!"    {program} tok.txt --from-tokens           # Parse a saved listing",
   s!"    {program} src/ --threads 4 --fail-fast    # Batch with early exit"]

/-- The help, on a machine that runs `available` threads at once. -/
def lines (program : String) (available : Nat) : List String :=
  [s!"JLS Compiler v{version}",
   "Lexical scanner and LL(1) predictive parser for a Java-like language", ""]
  ++ calls program ++ [""] ++ options ++ [""] ++ exitStatus ++ [""] ++ examples program
  ++ ["", "PIPELINE CAPABILITIES:"] ++ capabilityLines.map ("    " ++ ·)
  ++ ["", "BATCH PROCESSING CAPABILITIES:", s!"    {BatchChoices.capabilities available}"]

end Help

end Lookahead
