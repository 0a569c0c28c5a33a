import Lookahead.Proofs.Moves

/-!
# Lines and the parser

The symbols of an input may come with the lines they stand on.  The parser shows them in its errors
and makes nothing else of them: on an input of which no line is known it comes to the same verdict
by the same moves, but for the lines in the verdict and the wording of the rejection that a trace
ends with.

* `Config.step_withoutLine`: a step makes nothing of lines.
* `Table.runFor_bare`: nor does a run.
* `Table.runFor_of_categories_eq`: runs on inputs of the same terminals are the same, but for lines.
-/

namespace Lookahead

/-- The verdict on an input of which no line is known. -/
def Verdict.withoutLine : Verdict → Verdict
  | .rejected e => .rejected e.withoutLine
  | v => v

/-- The symbol without its line. -/
def InputSymbol.withoutLine (s : InputSymbol) : InputSymbol := ⟨s.category, none⟩

namespace Config

/-- The configuration on an input of which no line is known. -/
def withoutLine (c : Config) : Config :=
  { c with ahead := c.ahead.map .withoutLine, final := c.final.withoutLine }

theorem current_withoutLine (c : Config) : c.withoutLine.current = c.current.withoutLine := by
  rw [current, current, withoutLine]
  cases c.ahead <;> rfl

theorem advance_withoutLine (c : Config) : c.withoutLine.advance = c.advance.withoutLine := by
  simp [advance, withoutLine, List.map_tail]

end Config

/-- What comes of a configuration on an input of which no line is known. -/
def Outcome.withoutLine : Outcome → Outcome
  | .moved m next => .moved m next.withoutLine
  | .rejected e => .rejected e.withoutLine
  | o => o

/-- A step makes nothing of lines. -/
theorem Config.step_withoutLine (T : Table) (c : Config) :
    c.withoutLine.step T = (c.step T).withoutLine := by
  have hcategory : c.withoutLine.current.category = c.current.category := by
    rw [current_withoutLine]
    rfl
  have hline : c.withoutLine.current.line = none := by
    rw [current_withoutLine]
    rfl
  have hstack : c.withoutLine.stack = c.stack := rfl
  have hcursor : c.withoutLine.cursor = c.cursor := rfl
  rw [step, step, hcategory, hline, hstack, hcursor]
  split
  · rfl
  · split
    · split
      · rfl
      · rw [advance_withoutLine]
        rfl
    · rfl
  · split
    · rfl
    · dsimp only
      split <;> rfl

/-! ### Traces without the words of a rejection -/

/-- The action but for the words of a rejection. -/
def Action.wordless : Action → Action
  | .reject _ => .reject ""
  | a => a

/-- The step but for the words of a rejection. -/
def TraceStep.wordless (s : TraceStep) : TraceStep := { s with action := s.action.wordless }

namespace Trace

/-- The trace but for the words of a rejection. -/
def wordless (t : Trace) : Trace := { t with steps := t.steps.map .wordless }

theorem wordless_record (t : Trace) (s : TraceStep) :
    (t.record s).wordless = t.wordless.record s.wordless := by
  rw [record, record, wordless, wordless, Array.size_map]
  split
  · rw [Array.map_push]
  · rfl

theorem wordless_conclude (t : Trace) (s : TraceStep) :
    (t.conclude s).wordless = t.wordless.conclude s.wordless := by
  rw [conclude, conclude, wordless, wordless, Array.map_push]

end Trace

namespace Run

/-- The run on an input of which no line is known, but for the words of its rejection. -/
def withoutLine (r : Run) : Run := ⟨r.verdict.withoutLine, r.trace.wordless, r.expansions⟩

variable (recording : Bool)

theorem withoutLine_note (r : Run) (c : Config) (m : Move) :
    (r.note recording c m).withoutLine = r.withoutLine.note recording c m := by
  cases recording with
  | false => cases m <;> rfl
  | true =>
    cases m <;> rw [note, note, traced, traced, if_pos rfl, if_pos rfl, withoutLine,
      Trace.wordless_record] <;> rfl

theorem withoutLine_accept (r : Run) (c : Config) :
    (r.accept recording c).withoutLine = r.withoutLine.accept recording c := by
  cases recording with
  | false => rfl
  | true =>
    rw [accept, accept, traced, traced, if_pos rfl, if_pos rfl, withoutLine,
      Trace.wordless_conclude]
    rfl

/-- Rejections that differ in their lines end runs alike. -/
theorem withoutLine_reject {r r' : Run} (hr : r'.withoutLine = r.withoutLine) (stack : List Symbol)
    (cursor : Nat) {e e' : SyntaxError} (he : e'.withoutLine = e.withoutLine) :
    (r'.reject recording stack cursor e').withoutLine =
      (r.reject recording stack cursor e).withoutLine := by
  obtain ⟨-, htrace, hexpansions⟩ := Run.mk.inj hr
  cases recording with
  | false => exact Run.mk.injEq .. ▸ ⟨congrArg Verdict.rejected he, htrace, hexpansions⟩
  | true =>
    rw [reject, reject, traced, traced, if_pos rfl, if_pos rfl, withoutLine, withoutLine,
      Trace.wordless_conclude, Trace.wordless_conclude, htrace]
    exact Run.mk.injEq .. ▸ ⟨congrArg Verdict.rejected he, rfl, hexpansions⟩

end Run

/-! ### Runs -/

/-- A run makes nothing of lines but in the wording of its verdict. -/
theorem Config.run_withoutLine (T : Table) (recording : Bool) (n : Nat) (c : Config) {r r' : Run}
    (hr : r'.withoutLine = r.withoutLine) :
    (c.withoutLine.run T recording n r').withoutLine = (c.run T recording n r).withoutLine := by
  induction n generalizing c r r' with
  | zero => exact hr
  | succ n ih =>
    have hnote : ∀ m, (r'.note recording c.withoutLine m).withoutLine =
        (r.note recording c m).withoutLine := by
      intro m
      rw [Run.withoutLine_note, Run.withoutLine_note, hr]
      cases m <;> rfl
    rw [Config.run, Config.run, step_withoutLine]
    cases c.step T with
    | moved m next => exact ih next (hnote m)
    | overflow A body depth => exact Run.withoutLine_reject recording (hnote _) _ _ rfl
    | accepted =>
      change (Run.accept recording r' c.withoutLine).withoutLine = _
      rw [Run.withoutLine_accept, Run.withoutLine_accept, hr]
      rfl
    | rejected e =>
      refine Run.withoutLine_reject recording hr _ _ ?_
      cases e <;> rfl

namespace Table

variable {T : Table} {recording : Bool} {n : Nat} {input input' : List InputSymbol}

/-- **The parser makes nothing of lines** but in the wording of its errors. -/
theorem runFor_bare : (T.runFor recording n (bare (input.map InputSymbol.category))).withoutLine =
    (T.runFor recording n input).withoutLine := by
  have hbare : bare (input.map InputSymbol.category) = input.map .withoutLine := List.map_map
  have hfind : (input.map InputSymbol.withoutLine).findIdx? (·.category == .endMark) =
      input.findIdx? (·.category == .endMark) := by
    rw [List.findIdx?_map]
    rfl
  have hstart : Run.start (input.map .withoutLine) = .start input := by
    rw [Run.start, List.map_map]
    rfl
  rw [hbare, runFor, runFor, hfind, hstart]
  cases input.findIdx? (·.category == .endMark) with
  | some p => rfl
  | none =>
    have hinitial : Config.initial (input.map .withoutLine) =
        (Config.initial input).withoutLine := by
      simp [Config.initial, Config.withoutLine, InputSymbol.endOf, InputSymbol.withoutLine,
        Option.bind_map, Function.comp_def]
    simp only [hinitial]
    exact Config.run_withoutLine T recording n _ rfl

/-- Runs on inputs of the same terminals are the same, but for lines. -/
theorem runFor_of_categories_eq (T : Table) (recording : Bool) (n : Nat)
    {input input' : List InputSymbol}
    (h : input'.map InputSymbol.category = input.map InputSymbol.category) :
    (T.runFor recording n input').withoutLine = (T.runFor recording n input).withoutLine := by
  rw [← runFor_bare, h, runFor_bare]

end Table

/-- Inputs of the same terminals get the same verdict, but for lines, by the same expansions. -/
theorem parse_of_categories_eq (recording : Bool) {input input' : List InputSymbol}
    (h : input'.map InputSymbol.category = input.map InputSymbol.category) :
    (parse recording input').verdict.withoutLine = (parse recording input).verdict.withoutLine ∧
      (parse recording input').expansions = (parse recording input).expansions := by
  have hlength : input'.length = input.length := by
    simpa using congrArg List.length h
  obtain ⟨hverdict, -, hexpansions⟩ :=
    Run.mk.inj (Table.standard.runFor_of_categories_eq recording
      (Table.standard.moves input.length) h)
  rw [parse, parse, Table.run, Table.run, hlength]
  exact ⟨hverdict, hexpansions⟩

end Lookahead
