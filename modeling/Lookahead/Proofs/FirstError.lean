import Lookahead.Proofs.Lines

/-!
# The first error

A run that rejects a symbol has read what stands in front of it and seen the symbol, and nothing
else of the input.  So every input that begins in the same way is rejected at the same place for the
same reason, after the same expansions, and what goes on behind the symbol is of no account.  Nor
are the lines that the symbols stand on.

* `Config.of_rejected`: a rejection tells the place, the terminal and the line of the next symbol.
* `Table.moves_of_take_eq`: the same moves lead to the symbol at fault on every such input.
* `Table.runFor_of_moves`: moves to a configuration that is rejected make a run that rejects.
* `Table.runFor_of_take_eq`: every such input is rejected, by all runs that are long enough.
-/

namespace Lookahead

open Keyword Delimiter

/-- A rejection of the input tells the place, the terminal and the line of the next symbol. -/
theorem Config.of_rejected {T : Table} {c : Config} {e : SyntaxError}
    (h : c.step T = .rejected e) (he : e.isInputRejection) :
    e.position? = some c.cursor ∧ e.found? = some c.current.category ∧
      e.line? = c.current.line := by
  rcases step_rejected h with ⟨_, _, -, -, rfl⟩ | ⟨_, _, -, -, rfl⟩ | ⟨-, rfl⟩
  · exact ⟨rfl, rfl, rfl⟩
  · exact ⟨rfl, rfl, rfl⟩
  · cases he

/-- Inputs that begin with the same terminals have the same one at each place up to there. -/
theorem Config.terminalAt_eq_of_take_eq {input input' : List InputSymbol} {p i : Nat}
    (h : (input'.map InputSymbol.category).take (p + 1) =
      (input.map InputSymbol.category).take (p + 1)) (hi : i ≤ p) :
    terminalAt input' i = terminalAt input i := by
  have hlt : i < p + 1 := Nat.lt_succ_of_le hi
  have htake : ∀ l : List Terminal, l.getD i .endMark = (l.take (p + 1)).getD i .endMark :=
    fun l => by rw [List.getD_eq_getElem?_getD, List.getD_eq_getElem?_getD,
      List.getElem?_take_of_lt hlt]
  rw [terminalAt, terminalAt, htake, h, ← htake]

namespace Table

variable {T : Table} {recording : Bool} {n : Nat} {input : List InputSymbol} {steps : List Step}
  {d : Config}

/-- Moves to a configuration that is rejected make a run that rejects, if it may make one more. -/
theorem runFor_of_moves (hin : ∀ s ∈ input, s.category ≠ .endMark)
    (hm : Moves T (.initial input) steps d) {e : SyntaxError} (hd : d.step T = .rejected e)
    (hn : steps.length < n) :
    (T.runFor recording n input).verdict = .rejected e ∧
      (T.runFor recording n input).expansions.toList = expansions steps := by
  obtain ⟨k, rfl⟩ := Nat.exists_eq_add_of_lt hn
  rw [runFor_eq hin, Nat.add_assoc, hm.run_eq, Config.run, hd]
  refine ⟨Run.verdict_reject .., ?_⟩
  rw [Run.expansions_reject]
  exact Run.expansions_noteAll recording (.start input) steps

/-- A run that rejects its input makes moves to a configuration that is rejected. -/
theorem moves_of_inputRejection (hin : ∀ s ∈ input, s.category ≠ .endMark) {e : SyntaxError}
    (h : (T.runFor recording n input).verdict = .rejected e) (he : e.isInputRejection) :
    ∃ steps d, Moves T (.initial input) steps d ∧ d.step T = .rejected e ∧
      (T.runFor recording n input).expansions.toList = expansions steps := by
  obtain ⟨steps, d, hm, ⟨hd, hx, -⟩ | ⟨_, _, _, -, rfl, -⟩⟩ := runFor_rejected hin h
  · exact ⟨steps, d, hm, hd, hx⟩
  · cases he

/-- A run that is decided may make more than the moves that lead on. -/
theorem lt_of_decided (hin : ∀ s ∈ input, s.category ≠ .endMark)
    (hm : Moves T (.initial input) steps d)
    (h : (T.runFor recording n input).verdict ≠ .undecided) : steps.length < n := by
  rw [runFor_eq hin] at h
  exact Nat.lt_of_not_le fun hle => h (hm.verdict_run recording hle (.start input))

/-- **On an input of the same terminals up to the symbol at fault** the same moves lead to a
configuration that is rejected for the same reason. -/
theorem moves_of_take_eq {input' : List InputSymbol} {e : SyntaxError}
    (hm : Moves T (.initial input) steps d) (hd : d.step T = .rejected e)
    (h : (input'.map InputSymbol.category).take (d.cursor + 1) =
      (input.map InputSymbol.category).take (d.cursor + 1)) :
    ∃ steps' d' e', Moves T (.initial input') steps' d' ∧ d'.step T = .rejected e' ∧
      e'.withoutLine = e.withoutLine ∧ steps'.map Prod.snd = steps.map Prod.snd := by
  have w := hm.within (Config.within_initial input)
  have agree : ∀ i ≤ d.cursor, Config.terminalAt input' i = Config.terminalAt input i :=
    fun i hi => Config.terminalAt_eq_of_take_eq h hi
  obtain ⟨steps', d', hm', hstack, hcursor, hmoves⟩ :=
    hm.mirror (Config.within_initial input) (Config.within_initial input') rfl rfl agree
  have w' := hm'.within (Config.within_initial input')
  have hcategory : d'.current.category = d.current.category := by
    rw [w.category_eq, w'.category_eq, hcursor, agree _ (Nat.le_refl _)]
  obtain ⟨e', hd', hline⟩ := Config.step_rejected_of_eq hd hstack hcategory hcursor
  exact ⟨steps', d', e', hm', hd', hline, hmoves⟩

/-- **Such an input is rejected** in that way by every run that may make as many moves, and by every
run that is decided. -/
theorem runFor_of_take_eq {input' : List InputSymbol} {e : SyntaxError}
    (hm : Moves T (.initial input) steps d) (hd : d.step T = .rejected e)
    (hn : steps.length < n) (hin' : ∀ s ∈ input', s.category ≠ .endMark)
    (h : (input'.map InputSymbol.category).take (d.cursor + 1) =
      (input.map InputSymbol.category).take (d.cursor + 1))
    {recording' : Bool} {n' : Nat}
    (hn' : n ≤ n' ∨ (T.runFor recording' n' input').verdict ≠ .undecided) :
    ∃ e', (T.runFor recording' n' input').verdict = .rejected e' ∧
      e'.withoutLine = e.withoutLine ∧
      (T.runFor recording' n' input').expansions.toList = expansions steps := by
  obtain ⟨steps', d', e', hm', hd', hline, hmoves⟩ := moves_of_take_eq hm hd h
  have hlength : steps'.length = steps.length := by
    rw [← List.length_map (f := Prod.snd), hmoves, List.length_map]
  have hlt : steps'.length < n' := by
    rcases hn' with hn' | hdecided
    · exact hlength ▸ Nat.lt_of_lt_of_le hn hn'
    · exact lt_of_decided hin' hm' hdecided
  obtain ⟨hverdict, hx⟩ := runFor_of_moves hin' hm' hd' hlt
  exact ⟨e', hverdict, hline, hx.trans (expansions_of_moves_eq hmoves)⟩

end Table

/-- **A rejection is decided at the symbol at fault.**  If a run rejects a symbol of the input, or
the end of it, then the error tells the symbol's place, terminal and line, and at the end the line
of the last symbol.  Every input of the same terminals up to there is rejected at the same place
for the same reason by the same expansions: by a run that may make as many moves, and by every run
that is decided.  Inputs of the same terminals throughout, whatever lines they stand on, make the
same run, with the same trace, but for the line in the error and its wording. -/
theorem rejection_local (T : Table) :
    (∀ (recording : Bool) (n : Nat) (input : List InputSymbol) (e : SyntaxError),
      (∀ s ∈ input, s.category ≠ .endMark) →
      (T.runFor recording n input).verdict = .rejected e → e.isInputRejection →
      ∃ p, e.position? = some p ∧ p ≤ input.length ∧
        (∀ s, input[p]? = some s → e.found? = some s.category ∧ e.line? = s.line) ∧
        (p = input.length →
          e.found? = some .endMark ∧ e.line? = input.getLast?.bind InputSymbol.line) ∧
        ∀ input' : List InputSymbol, (∀ s ∈ input', s.category ≠ .endMark) →
          (input'.map InputSymbol.category).take (p + 1) =
            (input.map InputSymbol.category).take (p + 1) →
          ∀ recording' n', n ≤ n' ∨ (T.runFor recording' n' input').verdict ≠ .undecided →
            ∃ e', (T.runFor recording' n' input').verdict = .rejected e' ∧
              e'.withoutLine = e.withoutLine ∧
              (T.runFor recording' n' input').expansions =
                (T.runFor recording n input).expansions) ∧
    ∀ (recording : Bool) (n : Nat) (input input' : List InputSymbol),
      input'.map InputSymbol.category = input.map InputSymbol.category →
      let r := T.runFor recording n input
      let r' := T.runFor recording n input'
      r'.verdict.withoutLine = r.verdict.withoutLine ∧ r'.expansions = r.expansions ∧
        r'.trace.input = r.trace.input ∧ r'.trace.truncated = r.trace.truncated ∧
        r'.trace.steps.map TraceStep.wordless = r.trace.steps.map TraceStep.wordless := by
  refine ⟨fun recording n input e hin h he => ?_, fun recording n input input' hcat => ?_⟩
  · obtain ⟨steps, d, hm, hd, hx⟩ := Table.moves_of_inputRejection hin h he
    have w := hm.within (Config.within_initial input)
    have hdecided : (T.runFor recording n input).verdict ≠ .undecided := h ▸ Verdict.noConfusion
    have hlt : steps.length < n := Table.lt_of_decided hin hm hdecided
    obtain ⟨hplace, hfound, hline⟩ := Config.of_rejected hd he
    refine ⟨d.cursor, hplace, w.cursor_le, fun s hs => ?_, fun hend => ?_, ?_⟩
    · rw [w.current_of_getElem? hs] at hfound hline
      exact ⟨hfound, hline⟩
    · rw [w.current_of_cursor_eq hend] at hfound hline
      exact ⟨hfound, hline⟩
    · intro input' hin' hfront recording' n' hn'
      obtain ⟨e', hverdict, hline', hx'⟩ := Table.runFor_of_take_eq hm hd hlt hin' hfront hn'
      exact ⟨e', hverdict, hline', Array.toList_inj.1 (hx'.trans hx.symm)⟩
  · obtain ⟨hverdict, htrace, hexpansions⟩ :=
      Run.mk.inj (T.runFor_of_categories_eq recording n hcat)
    obtain ⟨hinput, hsteps, htruncated⟩ := Trace.mk.inj htrace
    exact ⟨hverdict, hexpansions, hinput, htruncated, hsteps⟩

/-- What follows a loop without its condition makes no difference to the error. -/
theorem rejection_local_loop :
    let input : List InputSymbol := [⟨while_, some 1⟩, ⟨semicolon, some 2⟩, ⟨semicolon, some 3⟩]
    let input' : List InputSymbol := [⟨while_, some 8⟩, ⟨semicolon, none⟩]
    (∀ s ∈ input, s.category ≠ .endMark) ∧ (∀ s ∈ input', s.category ≠ .endMark) ∧
    (Table.standard.runFor true 9 input).verdict =
      .rejected (.mismatch openParen semicolon 1 (some 2)) ∧
    (input'.map InputSymbol.category).take 2 = (input.map InputSymbol.category).take 2 ∧
    ∃ e', (Table.standard.runFor false 9 input').verdict = .rejected e' ∧
      e'.withoutLine = .mismatch openParen semicolon 1 none := by
  intro input input'
  have hin : ∀ s ∈ input, s.category ≠ .endMark := by decide
  have hin' : ∀ s ∈ input', s.category ≠ .endMark := by decide
  have hrej : (Table.standard.runFor true 9 input).verdict =
      .rejected (.mismatch openParen semicolon 1 (some 2)) := by
    decide +kernel
  obtain ⟨p, hp, -, -, -, hlocal⟩ := (rejection_local Table.standard).1 true 9 input _ hin hrej rfl
  obtain rfl := Option.some.inj hp
  obtain ⟨e', he', hline, -⟩ := hlocal input' hin' rfl false 9 (.inl (Nat.le_refl _))
  exact ⟨hin, hin', hrej, rfl, e', he', hline⟩

end Lookahead
