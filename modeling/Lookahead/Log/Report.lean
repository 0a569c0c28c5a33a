import Lookahead.Log.Collector

/-!
# Error reports

What was collected, for a reader: file by file its errors with their context and advice, then its
warnings, and the totals at the end.
-/

namespace Lookahead

namespace Collector

/-- The place of an event in a file. -/
def placeText (p : Path) (e : LogEvent) : String :=
  match e.span with
  | some s => s!" --> {p}:{s.start.text}"
  | none => ""

/-- The context of an error, without what tells the file. -/
def contextText (e : LogEvent) : String :=
  let shown := e.context.filter fun (key, _) => key != "file" && key != "file_id"
  if shown.isEmpty then ""
  else shown.foldl (fun out (key, value) => out ++ s!"  = {key}: {value}\n") "  |\n"

/-- An error with all there is to say about it. -/
def errorText (p : Path) (e : LogEvent) : String :=
  let info := e.codeInfo
  let advice :=
    if info.advice == CodeInfo.unlisted.advice then "" else s!"  = help: {info.advice}\n"
  s!"error[{e.code}]: {e.message}{placeText p e}\n"
    ++ s!"  = severity: {info.severity.text}, category: {info.category}\n"
    ++ contextText e ++ advice

/-- A warning. -/
def warningText (p : Path) (e : LogEvent) : String :=
  s!"warning[{e.code}]: {e.message}{placeText p e}\n"

/-- The errors and warnings of a file, if it has any. -/
def fileText (f : FileEvents) : String :=
  if f.hasErrors || f.hasWarnings then
    let errors := (f.events.toList.filter LogEvent.isError).map (errorText f.path)
    let warnings := (f.events.toList.filter LogEvent.isWarning).map (warningText f.path)
    (errors ++ warnings).foldl (· ++ ·) s!"Checking {f.path}...\n" ++ "\n"
  else ""

/-- The report of all files. -/
def report (C : Collector) : String :=
  let s := C.summary
  (C.files.map fileText).foldl (· ++ ·) ""
    ++ (if s.errors > 0 then s!"\nTotal errors: {s.errors}\n" else "")
    ++ (if s.warnings > 0 then s!"Total warnings: {s.warnings}\n" else "")

end Collector

end Lookahead
