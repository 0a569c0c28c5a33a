import Lookahead.Analysis.Stages
import Lookahead.Grammar.First

/-!
# The check before a run

Before the program analyses anything it tells its limits and checks that every cell of its parse
table predicts well.
-/

namespace Lookahead

/-- The number of stages of an analysis. -/
def stageCount : Nat := 3

/-- Check the rules of the language against the first sets they give. -/
def checkRules : ExceptT String Logged Unit := do
  Session.debug "Validating grammar table"
  match mispredictions standardRules with
  | e :: _ =>
    Session.error e.code "Parse table inconsistent with grammar" [("error", e.message)]
    throw (SyntaxError.grammar e).message
  | [] =>
    Session.success .tableVerified "Parse table verified"
      [("entries", toString Table.standard.size), ("max_stack_depth", toString Config.depthLimit)]

/-- Tell the limits and check the parse table. -/
def checkStages : ExceptT String Logged Unit := do
  Session.debug "Validating pipeline configuration"
  Session.debug "File processor compile-time configuration loaded"
    [("max_file_size", toString Source.sizeLimit),
     ("large_file_threshold", toString FileInfo.largeSize),
     ("max_line_count", toString Source.lineLimit)]
  Session.debug "Lexical limits initialized"
    [("max_lexeme_display_length", toString LexicalError.shownLength),
     ("max_logged_errors", toString Scan.toldErrors)]
  Session.debug "Syntax limits initialized"
    [("max_stack_depth", toString Config.depthLimit),
     ("max_trace_steps", toString Trace.stepLimit)]
  checkRules
  Session.success .initialized "Pipeline validation succeeded"
    [("stages_validated", toString stageCount)]

/-- What the program can do, a line each. -/
def capabilityLines : List String :=
  ["Java-subset front end:",
   s!"- Pipeline Stages: {stageCount}",
   s!"- Terminals: {Terminal.all.length}",
   s!"- Non-terminals: {NonTerminal.all.length}",
   s!"- Parse Table Entries: {Table.standard.size}",
   s!"- Max File Size: {Source.sizeLimit / (1024 * 1024)} MB",
   s!"- Max Stack Depth: {Config.depthLimit}",
   s!"- Max Trace Steps: {Trace.stepLimit}",
   "- Supported Extensions: " ++ ", ".intercalate Path.sourceExtensions]

/-- What the program can do, in one line. -/
def capabilitySummary : String :=
  s!"{stageCount}-stage LL(1) front end, {Table.standard.size} table entries, extensions: "
    ++ ", ".intercalate Path.sourceExtensions

end Lookahead
