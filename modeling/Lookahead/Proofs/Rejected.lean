import Lookahead.Proofs.Accepted
import Lookahead.Proofs.DoFreeRules

/-!
# Rejected symbols

A parse without a `do` in its input rejects the first symbol that no text of the language has there,
but for one cause: where a statement may begin, the table has no cell for the terminals that only an
expression begins with (`SyntaxError.missesStatement`).

* `Config.Viable`: if the stack can spell what has not been read, so it can after every move, unless
  a block is begun where an array literal stands (`Config.ArrayTaken`).
* `rejected_of_inLanguage`: no text of the language goes on like a rejected input, but for that cause.
* `inLanguage_of_rejected`: what stands in front of a rejected symbol begins a text of the language.
* `parse_rejects_earliest`: both in one.
-/

namespace Lookahead

open Keyword Operator Delimiter NonTerminal

/-- The table has no cell for a statement that begins with this terminal, although an expression
does. -/
def SyntaxError.missesStatement : SyntaxError → Bool
  | .noProduction A a _ _ => A ∈ statementPlaces && a ∈ bareStarts
  | _ => false

theorem SyntaxError.missesStatement_noProduction {A : NonTerminal} {a : Terminal} {p : Nat}
    {line : Option Nat} : (SyntaxError.noProduction A a p line).missesStatement ↔
      A ∈ statementPlaces ∧ a ∈ bareStarts := by
  rw [missesStatement, Bool.and_eq_true, decide_eq_true_eq, decide_eq_true_eq]

theorem SyntaxError.missesStatement_iff (e : SyntaxError) {p : Nat} (hp : e.position? = some p) :
    e.missesStatement ↔
      ∃ A a line, e = .noProduction A a p line ∧ A ∈ statementPlaces ∧ a ∈ bareStarts := by
  constructor
  · intro h
    cases e with
    | noProduction A a q line =>
      obtain rfl := Option.some.inj hp
      exact ⟨A, a, line, rfl, missesStatement_noProduction.1 h⟩
    | _ => cases h
  · rintro ⟨A, a, line, rfl, hA⟩
    exact missesStatement_noProduction.2 hA

theorem SyntaxError.missesStatement_withoutLine (e : SyntaxError) :
    e.withoutLine.missesStatement = e.missesStatement := by
  cases e <;> rfl

/-! ### What can still be completed -/

namespace Config

/-- The stack can spell what has not been read, without `do` loops. -/
structure Viable (c : Config) : Prop where
  spells : Spells doFreeRules c.stack.symbols c.unread
  fits : trailing.Fits c.stack.symbols

/-- The elements of an array are about to be read in a block. -/
inductive ArrayTaken (c : Config) : Prop where
  | atControl (rest : List Symbol) (v : List Terminal)
      (hs : c.stack.symbols = .nonTerminal control :: rest)
      (hu : c.unread = .delimiter openBrace :: .number :: v)
  | atBrace (rest : List Symbol) (v : List Terminal)
      (hs : c.stack.symbols = .terminal openBrace :: .nonTerminal block :: rest)
      (hu : c.unread = .delimiter openBrace :: .number :: v)
  | atBlock (rest : List Symbol) (v : List Terminal)
      (hs : c.stack.symbols = .nonTerminal block :: rest)
      (hu : c.unread = Terminal.number :: v)

variable {input : List InputSymbol} {c d : Config}

theorem Within.category_of_unread (w : c.Within input) {a : Terminal} {v : List Terminal}
    (h : c.unread = a :: v) : c.current.category = a := by
  rw [w.unread_eq] at h
  exact (List.cons.inj h).1

namespace Viable

/-- A move leaves what can be completed so, unless it takes an array literal for a block. -/
theorem of_moved (w : c.Within input) (h : c.Viable) {m : Move}
    (hm : c.step Table.standard = .moved m d) : d.Viable ∨ d.ArrayTaken := by
  obtain ⟨hs, hf⟩ := h
  rcases step_moved hm with ⟨a, rest, hst, ha, hne, -, rfl⟩ | ⟨A, rest, body, hst, hb, -, -, rfl⟩
  · rw [hst] at hs hf
    obtain ⟨v, hv, hr⟩ := hs.of_terminal
    refine .inl ⟨?_, ?_⟩
    · rw [symbols_advance hst, w.unread_advance (ha ▸ hne), hv]
      exact hr
    · rw [symbols_advance hst]
      exact hf.tail
  · rw [w.unread_eq, hst] at hs
    rw [hst] at hf
    have hu : (c.replace body).unread = c.current.category :: c.unread.tail := w.unread_eq
    rcases hs.predicted_or hf with ⟨body', hp, hr, hfit⟩ | ⟨hA, ha⟩ | ⟨rfl, ha, v, hv⟩
    · obtain rfl := Option.some.inj (hb.symm.trans hp)
      refine .inl ⟨?_, ?_⟩
      · rw [symbols_replace hst, hu]
        exact hr
      · rw [symbols_replace hst]
        exact hfit
    · rw [body?_bareStarts A hA _ ha] at hb
      cases hb
    · have hcontrol : Table.standard.body? statement openBrace = some [.nonTerminal control] := by
        decide
      rw [ha, hcontrol] at hb
      obtain rfl := Option.some.inj hb
      rw [ha, hv] at hu
      exact .inr (.atControl rest v (symbols_replace hst _) hu)

/-- What can be completed is rejected only for want of a cell for a statement. -/
theorem of_rejected (w : c.Within input) (h : c.Viable) {e : SyntaxError}
    (he : c.step Table.standard = .rejected e) : e.missesStatement := by
  obtain ⟨hs, hf⟩ := h
  rw [w.unread_eq] at hs
  rcases step_rejected he with ⟨a, rest, hst, hne, -⟩ | ⟨A, rest, hst, hb, rfl⟩ | ⟨hst, -⟩
  · rw [hst] at hs
    obtain ⟨v, hv, -⟩ := hs.of_terminal
    exact absurd (List.cons.inj hv).1 hne
  · rw [hst] at hs hf
    rcases hs.predicted_or hf with ⟨body, hp, -, -⟩ | ⟨hA, ha⟩ | ⟨rfl, ha, -⟩
    · rw [hb] at hp
      cases hp
    · exact SyntaxError.missesStatement_noProduction.2 ⟨hA, ha⟩
    · rw [ha] at hb
      exact absurd hb (by decide)
  · rw [hst] at hs
    cases hs.of_nil

end Viable

namespace ArrayTaken

theorem of_moved (w : c.Within input) (h : c.ArrayTaken) {m : Move}
    (hm : c.step Table.standard = .moved m d) : d.ArrayTaken := by
  have hcontrol : Table.standard.body? control openBrace =
      some [.terminal openBrace, .nonTerminal block, .terminal closeBrace] := by
    decide
  have hblock : Table.standard.body? block .number = none := by decide
  cases h with
  | atControl rest v hs hu =>
    obtain ⟨body, hb, rfl⟩ := step_moved_nonTerminal hm hs
    rw [w.category_of_unread hu, hcontrol] at hb
    obtain rfl := Option.some.inj hb
    exact .atBrace _ v (symbols_replace hs _) hu
  | atBrace rest v hs hu =>
    obtain ⟨ha, hne, rfl⟩ := step_moved_terminal hm hs
    refine .atBlock rest v (symbols_advance hs) ?_
    rw [w.unread_advance (ha ▸ hne), hu, List.tail_cons]
  | atBlock rest v hs hu =>
    obtain ⟨body, hb, -⟩ := step_moved_nonTerminal hm hs
    rw [w.category_of_unread hu, hblock] at hb
    cases hb

/-- In the block the first element is rejected, for want of a cell for a statement. -/
theorem of_rejected (w : c.Within input) (h : c.ArrayTaken) {e : SyntaxError}
    (he : c.step Table.standard = .rejected e) : e.missesStatement := by
  cases h with
  | atControl rest v hs hu =>
    obtain ⟨hb, -⟩ := step_rejected_nonTerminal he hs
    rw [w.category_of_unread hu] at hb
    exact absurd hb (by decide)
  | atBrace rest v hs hu =>
    exact absurd (w.category_of_unread hu) (step_rejected_terminal he hs)
  | atBlock rest v hs hu =>
    obtain ⟨-, rfl⟩ := step_rejected_nonTerminal he hs
    rw [w.category_of_unread hu, SyntaxError.missesStatement_noProduction]
    decide

end ArrayTaken

end Config

/-- Moves leave what can be completed so, unless an array literal is taken for a block. -/
theorem Moves.viable {input : List InputSymbol} {c d : Config} {steps : List Step}
    (hm : Moves Table.standard c steps d) (w : c.Within input) (h : c.Viable ∨ c.ArrayTaken) :
    d.Viable ∨ d.ArrayTaken := by
  induction hm with
  | refl => exact h
  | more hs _ ih =>
    refine ih (Moves.within (.more hs (.refl _)) w) ?_
    rcases h with h | h
    · exact h.of_moved w hs
    · exact .inr (h.of_moved w hs)

/-! ### In front of the rejected symbol, and with it -/

/-- Where a statement may begin, an expression may, with every terminal that it begins with. -/
theorem Spells.exists_bare {A : NonTerminal} {a : Terminal} (hA : A ∈ statementPlaces)
    (ha : a ∈ bareStarts) (s : List Symbol) :
    ∃ v, Spells doFreeRules (.nonTerminal A :: s) (a :: v) := by
  have hfirst : ∀ a ∈ bareStarts, ∃ r ∈ doFreeRules, r.lhs = expression ∧
      r.body.head? = some (.terminal a) := by
    decide
  have hexpr : ∀ t, ∃ v, Spells doFreeRules (.nonTerminal expression :: t) (a :: v) := by
    intro t
    obtain ⟨r, hr, hl, hb⟩ := hfirst a ha
    obtain ⟨body, hb⟩ := List.head?_eq_some_iff.1 hb
    obtain ⟨v, hv⟩ := exists_text (body ++ t)
    refine ⟨v, hl ▸ .expand hr ?_⟩
    rw [hb]
    exact .read a hv
  have hstatement : ∀ t, ∃ v, Spells doFreeRules (.nonTerminal statement :: t) (a :: v) := by
    intro t
    obtain ⟨v, hv⟩ := hexpr (.terminal semicolon :: t)
    exact ⟨v, .expand (r := .expressionStatement) (by decide) hv⟩
  have hstatements : ∀ t, ∃ v, Spells doFreeRules (.nonTerminal statements :: t) (a :: v) := by
    intro t
    obtain ⟨v, hv⟩ := hstatement (.nonTerminal statements :: t)
    exact ⟨v, .expand (r := ⟨statements, statementStarts, [statement, statements]⟩)
      (by decide) hv⟩
  obtain ⟨v, hv⟩ := hstatements (.nonTerminal blockRest :: s)
  simp only [statementPlaces, List.mem_cons, List.not_mem_nil, or_false] at hA
  rcases hA with rfl | rfl | rfl | rfl
  · exact hstatements s
  · exact hstatement s
  · exact ⟨v, .expand (r := ⟨block, statementStarts, [statements, blockRest]⟩)
      (by decide) hv⟩
  · exact ⟨v, .expand (r := ⟨blockRest, statementStarts, [statements, blockRest]⟩)
      (by decide) hv⟩

section

variable {input : List InputSymbol} {d : Config} {steps : List Step}

/-- What has been read, and what the stack spells behind it, is a text of the language. -/
theorem Moves.inLanguage (hm : Moves Table.standard (.initial input) steps d)
    {front : List Symbol} (ha : d.Above front) {v : List Terminal}
    (hv : Spells doFreeRules front v) :
    InLanguage standardRules ((input.map InputSymbol.category).take d.cursor ++ v) := by
  obtain ⟨front', ha', hr⟩ := hm.replays_initial standard_endFree
  obtain rfl : front' = front :=
    List.append_cancel_right (ha'.symbols_eq.symm.trans ha.symbols_eq)
  have hd := (hv.mono fun r hr => (mem_doFreeRules.1 hr).1).derives
  rw [InLanguage, List.map_append]
  exact hr.derives.trans (hd.append_left _)

/-- **In front of a rejected symbol** begins a text of the language. -/
theorem inLanguage_of_rejected (hm : Moves Table.standard (.initial input) steps d) :
    ∃ v, InLanguage standardRules ((input.map InputSymbol.category).take d.cursor ++ v) := by
  obtain ⟨front, ha, -⟩ := hm.replays_initial standard_endFree
  obtain ⟨v, hv⟩ := Spells.exists_text front
  exact ⟨v, hm.inLanguage ha hv⟩

/-- **With a rejected symbol** no text of the language begins: if one has the same terminals up to
there, and can do without `do` loops, then a cell for a statement is missing. -/
theorem missesStatement_of_spells (hm : Moves Table.standard (.initial input) steps d)
    {e : SyntaxError} (hd : d.step Table.standard = .rejected e) {text : List Terminal}
    (hs : Spells doFreeRules [.nonTerminal .start] text)
    (agree : ∀ i ≤ d.cursor, text.getD i .endMark = Config.terminalAt input i) :
    e.missesStatement := by
  have hviable : (Config.initial (bare text)).Viable := by
    refine ⟨?_, ⟨⟨.terminal .endMark, by decide, [], rfl⟩, trivial⟩⟩
    rw [Config.unread, Config.initial, category_bare]
    exact hs.append (Spells.terminals _ [.endMark])
  have w₀ := Config.within_initial input
  have w₁ := Config.within_initial (bare text)
  have hagree : ∀ i ≤ d.cursor, Config.terminalAt (bare text) i = Config.terminalAt input i :=
    fun i hi => (Config.terminalAt_bare text i).trans (agree i hi)
  -- The moves are made on that text as well, and there the rejected symbol can be completed.
  obtain ⟨steps', d', hm', hst, hcur, -⟩ := hm.mirror w₀ w₁ rfl rfl hagree
  have w' := hm'.within w₁
  have hcat : d'.current.category = d.current.category := by
    rw [(hm.within w₀).category_eq, w'.category_eq, hcur, hagree _ (Nat.le_refl _)]
  obtain ⟨e', he', hline⟩ := Config.step_rejected_of_eq hd hst hcat hcur
  have hmiss : e'.missesStatement := by
    rcases hm'.viable w₁ (.inl hviable) with h | h
    · exact h.of_rejected w' he'
    · exact h.of_rejected w' he'
  rw [← e.missesStatement_withoutLine, ← hline, e'.missesStatement_withoutLine]
  exact hmiss

theorem Config.of_missesStatement {e : SyntaxError} (hd : d.step Table.standard = .rejected e)
    (he : e.missesStatement) : ∃ A rest, d.stack.symbols = .nonTerminal A :: rest ∧
      A ∈ statementPlaces ∧ d.current.category ∈ bareStarts := by
  rcases Config.step_rejected hd with ⟨_, _, -, -, rfl⟩ | ⟨A, rest, hst, -, rfl⟩ | ⟨-, rfl⟩
  · cases he
  · exact ⟨A, rest, hst, SyntaxError.missesStatement_noProduction.1 he⟩
  · cases he

/-- Where a cell for a statement is missing, the rejected symbol begins one all the same. -/
theorem inLanguage_of_missesStatement (hm : Moves Table.standard (.initial input) steps d)
    {e : SyntaxError} (hd : d.step Table.standard = .rejected e) (he : e.missesStatement) :
    ∃ v, InLanguage standardRules
      ((input.map InputSymbol.category).take d.cursor ++ d.current.category :: v) := by
  obtain ⟨front, ha, -⟩ := hm.replays_initial standard_endFree
  obtain ⟨A, rest, hst, hA, hbare⟩ := Config.of_missesStatement hd he
  obtain ⟨front, rfl, -⟩ := ha.cons_of_symbols hst (by simp)
  obtain ⟨v, hv⟩ := Spells.exists_bare hA hbare front
  exact ⟨v, hm.inLanguage ha hv⟩

end

/-! ### Parses -/

section

variable {recording : Bool} {input : List InputSymbol}

/-- A parse that rejects a symbol makes moves up to the symbol. -/
theorem moves_of_rejected (hin : ∀ s ∈ input, s.category ≠ .endMark) {e : SyntaxError} {p : Nat}
    (h : (parse recording input).verdict = .rejected e) (hp : e.position? = some p) :
    ∃ steps d, Moves Table.standard (.initial input) steps d ∧
      d.step Table.standard = .rejected e ∧ d.cursor = p := by
  obtain ⟨steps, d, hm, ⟨hd, -⟩ | ⟨_, _, _, -, rfl, -⟩⟩ := Table.runFor_rejected hin h
  · refine ⟨steps, d, hm, hd, ?_⟩
    rcases Config.step_rejected hd with ⟨_, _, -, -, rfl⟩ | ⟨_, _, -, -, rfl⟩ | ⟨-, rfl⟩
    · exact Option.some.inj hp
    · exact Option.some.inj hp
    · cases hp
  · cases hp

/-- **The rejected symbol is the first that is wrong.**  Let a parse reject the symbol at a place of
an input that has no `do`.  What stands in front of the place begins a text of the language.  What
ends with the symbol begins one only if the symbol begins an expression where a statement may begin,
and the table has no cell for it.  If the place is the end of the input, the input is not in the
language. -/
theorem parse_rejects_earliest (hin : ∀ s ∈ input, s.category ≠ .endMark)
    (hdo : .keyword do_ ∉ input.map InputSymbol.category) {e : SyntaxError} {p : Nat}
    (h : (parse recording input).verdict = .rejected e) (hp : e.position? = some p) :
    p ≤ input.length ∧
    (∃ v, InLanguage standardRules ((input.map InputSymbol.category).take p ++ v)) ∧
    (p < input.length →
      ((∃ v, InLanguage standardRules ((input.map InputSymbol.category).take (p + 1) ++ v)) ↔
        ∃ A a line, e = .noProduction A a p line ∧ A ∈ statementPlaces ∧ a ∈ bareStarts)) ∧
    (p = input.length → ¬ InLanguage standardRules (input.map InputSymbol.category)) := by
  have hlen : (input.map InputSymbol.category).length = input.length := List.length_map _
  obtain ⟨steps, d, hm, hd, rfl⟩ := moves_of_rejected hin h hp
  have w := hm.within (Config.within_initial input)
  refine ⟨w.cursor_le, inLanguage_of_rejected hm, fun hlt => ⟨?_, ?_⟩, fun hend hL => ?_⟩
  · rintro ⟨v, hL⟩
    have hdo' : .keyword do_ ∉ (input.map InputSymbol.category).take (d.cursor + 1) :=
      fun h => hdo (List.mem_of_mem_take h)
    obtain ⟨v', hs⟩ := (inLanguage_iff_spells.1 hL).without_loops hdo'
    refine (e.missesStatement_iff hp).1 (missesStatement_of_spells hm hd hs fun i hi => ?_)
    rw [Config.terminalAt, List.getD_eq_getElem?_getD, List.getD_eq_getElem?_getD,
      List.getElem?_append_left (by rw [List.length_take]; omega),
      List.getElem?_take_of_lt (by omega)]
  · intro hmiss
    obtain ⟨v, hv⟩ := inLanguage_of_missesStatement hm hd ((e.missesStatement_iff hp).2 hmiss)
    have hget : (input.map InputSymbol.category)[d.cursor] = d.current.category := by
      rw [w.category_eq, Config.terminalAt, List.getD_eq_getElem?_getD,
        List.getElem?_eq_getElem, Option.getD_some]
    rw [List.take_succ_eq_append_getElem (hlen ▸ hlt), hget]
    exact ⟨v, by rwa [List.append_assoc]⟩
  · have hs := (inLanguage_iff_spells.1 hL).without_do hdo
    have hmiss := missesStatement_of_spells hm hd hs fun i _ => rfl
    obtain ⟨-, -, -, -, hbare⟩ := Config.of_missesStatement hd hmiss
    have hfinal : d.current.category = .endMark := by
      rw [w.category_eq, Config.terminalAt, List.getD_eq_getElem?_getD,
        List.getElem?_eq_none (by omega), Option.getD_none]
    rw [hfinal] at hbare
    exact absurd hbare (by decide +kernel)

end

/-- Of an assignment without a value, the semicolon is rejected: nothing goes on with it. -/
theorem parse_rejects_earliest_assignment :
    let text := [Terminal.identifier, assign, semicolon]
    let error := SyntaxError.noProduction expression semicolon 2 none
    (∀ s ∈ bare text, s.category ≠ .endMark) ∧ .keyword do_ ∉ text ∧
    (parse false (bare text)).verdict = .rejected error ∧ error.position? = some 2 ∧
    (∃ v, InLanguage standardRules (text.take 2 ++ v)) ∧
    ¬ ∃ v, InLanguage standardRules (text ++ v) := by
  intro text error
  have hin : ∀ s ∈ bare text, s.category ≠ .endMark := by decide
  have hdo : .keyword do_ ∉ text := by decide
  have hrej : (parse false (bare text)).verdict = .rejected error := by decide +kernel
  have h := parse_rejects_earliest hin (by rwa [category_bare]) hrej rfl
  rw [category_bare] at h
  obtain ⟨-, hfront, hwith, -⟩ := h
  refine ⟨hin, hdo, hrej, rfl, hfront, fun hL => ?_⟩
  obtain ⟨A, a, line, he, hA, -⟩ := (hwith (by decide)).1 hL
  obtain ⟨rfl, -⟩ := SyntaxError.noProduction.inj he
  exact absurd hA (by decide)

/-- A number where a statement may begin is rejected, although statements begin with one. -/
theorem not_rejects_earliest :
    ¬ ∀ (recording : Bool) (input : List InputSymbol), (∀ s ∈ input, s.category ≠ .endMark) →
      .keyword do_ ∉ input.map InputSymbol.category → ∀ e p,
      (parse recording input).verdict = .rejected e → e.position? = some p →
      (∃ v, InLanguage standardRules ((input.map InputSymbol.category).take p ++ v)) ∧
      (p < input.length →
        ¬ ∃ v, InLanguage standardRules ((input.map InputSymbol.category).take (p + 1) ++ v)) ∧
      (p = input.length → ¬ InLanguage standardRules (input.map InputSymbol.category)) := by
  intro h
  let input := bare [Terminal.number, semicolon]
  have hin : ∀ s ∈ input, s.category ≠ .endMark := by decide
  have hrej : (parse false input).verdict =
      .rejected (.noProduction statements .number 0 none) := by
    decide +kernel
  obtain ⟨steps, d, hm, hd, hcur⟩ := moves_of_rejected hin hrej rfl
  obtain ⟨v, hL⟩ := inLanguage_of_missesStatement hm hd (by decide +kernel)
  have hnumber : d.current.category = .number := by
    rw [(hm.within (Config.within_initial input)).category_eq, hcur]
    rfl
  rw [hcur, hnumber] at hL
  exact (h false input hin (by decide) _ 0 hrej rfl).2.1 (by decide) ⟨v, hL⟩

end Lookahead
