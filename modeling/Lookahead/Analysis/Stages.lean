import Lookahead.Analysis
import Lookahead.Source.Load

/-!
# Analysing in a session

An input is loaded, scanned and parsed, and every stage tells how it went.  A scan tells a bounded
number of its errors one by one, and how many more there are.
-/

namespace Lookahead

/-! ### Scanning -/

namespace Scan

/-- The most lexical errors that are told one by one. -/
def toldErrors : Nat := 50

/-- Tell a lexical error of a file. -/
def tellError (prefs : ScanPreferences) (path : Path) (e : LexicalError) : Logged Unit :=
  let message :=
    if prefs.positions then s!"{e.kind.text} at line {e.line}, column {e.column}" else e.kind.text
  Session.error e.kind.code message [("lexeme", e.shownLexeme), ("file", path)] (some e.span)

/-- Scan a source. -/
def ofLoaded (prefs : ScanPreferences) (source : Source) : Logged Scan := do
  let path := source.info.path
  Session.debug "Starting lexical analysis"
    [("file", path), ("char_count", toString source.charCount),
     ("line_count", toString source.info.lines)]
  let s := ofSource prefs.detailed source.text
  for e in s.errors.take toldErrors do
    tellError prefs path e
  if toldErrors < s.errors.length then
    Session.warning "Further lexical errors not logged"
      [("suppressed", toString (s.errors.length - toldErrors)), ("file", path)]
  Session.success .scanned "Lexical analysis completed"
    [("duration_ms", Text.fixedFloat 3 (Text.millisecondsOf 0)), ("file", path),
     ("tokens", toString s.tokens.length), ("identifiers", toString s.identifiers.size),
     ("errors", toString s.errors.length)]
  unless s.hasErrors do
    Session.success .scannedCleanly "No lexical errors" [("file", path)]
  return s

/-! ### Parsing -/

/-- Tell how a run on `tokens` tokens ended. -/
def tellVerdict (tokens : Nat) (r : Run) : Logged Unit :=
  match r.verdict with
  | .accepted =>
    Session.success .inputAccepted "Input accepted"
      [("tokens", toString tokens), ("productions", toString r.expansions.size)]
  | .rejected e =>
    Session.error e.code "Input rejected"
      [("error", e.message), ("productions", toString r.expansions.size)]
  | .undecided => pure ()

/-- Parse the tokens of a scan. -/
def parse (prefs : ParsePreferences) (s : Scan) : Logged Run := do
  Session.debug "Starting syntax analysis" [("tokens", toString s.tokens.length)]
  let r := Lookahead.parse prefs.recordTrace s.symbols
  tellVerdict s.tokens.length r
  if r.trace.truncated then
    Session.warning "Parse trace truncated" [("limit", toString Trace.stepLimit)]
  return r

end Scan

/-! ### Analyses -/

namespace Analysis

/-- Tell how an analysis ended. -/
def tell (a : Analysis) : Logged Unit :=
  let duration := Text.fixedFloat 2 (Text.millisecondsOf a.duration)
  if a.isClean then
    Session.success .completed "Input accepted"
      [("file", a.info.path), ("tokens", toString a.tokenCount),
       ("identifiers", toString a.scan.identifiers.size), ("duration_ms", duration)]
  else
    Session.info "Input not accepted"
      [("file", a.info.path), ("accepted", toString a.isAccepted),
       ("lexical_errors", toString a.scan.errors.length), ("duration_ms", duration)]

/-- Scan and parse a source. -/
def ofSource (prefs : Preferences) (source : Source) : Logged Analysis := do
  let scan ← Scan.ofLoaded prefs.scan source
  let run ← scan.parse prefs.parse
  let a : Analysis := { info := source.info, scan, run, fromListing := false,
                        duration := source.duration }
  a.tell
  return a

/-- Scan and parse a text that was not loaded. -/
def ofText (prefs : Preferences) (text origin : String) : Logged Analysis :=
  ofSource prefs (.ofText text origin)

/-- Load a source, then scan and parse it. -/
def ofLoading (prefs : Preferences) (loading : Loading Source) :
    ExceptT AnalysisError Logged Analysis := do
  ofSource prefs (← loading.adapt AnalysisError.loading)

/-- Load, scan and parse standard input. -/
def ofInput (prefs : Preferences) (input : Input) : ExceptT AnalysisError Logged Analysis :=
  ofLoading prefs (Source.readInput prefs.files input)

/-- Load, scan and parse a file, which has the number `id`. -/
def ofFile (prefs : Preferences) (path : Path) (id : Nat) :
    Logged (Except AnalysisError Analysis) :=
  Session.withFile path id do
    Session.info "Starting file processing pipeline" [("file", path)]
    (ofLoading prefs (Source.load prefs.files path)).run

/-- Read a listing that is loaded as a source. -/
def readListing (path : Path) (source : Source) :
    ExceptT AnalysisError Logged (List InputSymbol) :=
  match Listing.read source.text with
  | .ok symbols => return symbols
  | .error e => do
    Session.error e.code "Token listing rejected" [("file", path), ("error", e.message)]
    throw (.listing e)

/-- How listings are loaded: whatever their extension. -/
def listingPreferences : FilePreferences := { requireExtension := false, performance := true }

/-- Load and parse a listing. -/
def ofListing (prefs : Preferences) (path : Path) : Logged (Except AnalysisError Analysis) :=
  Session.withFile path 0 <| ExceptT.run do
    Session.info "Parsing token listing" [("file", path)]
    let source ← (Source.load listingPreferences path).adapt AnalysisError.loading
    let symbols ← readListing path source
    let a : Analysis :=
      { info := source.info, scan := .empty,
        run := Lookahead.parse prefs.parse.recordTrace symbols, fromListing := true, duration := 0 }
    a.tell
    return a

end Analysis

end Lookahead
