import Lookahead.Parse

/-!
# Moves in a row

A run makes moves until a configuration from which there is none.  `Moves T c steps d` says that
the machine of `T` goes from `c` to `d` by `steps`, each a configuration and the move made in it.

* `Config.step_moved`: what a move is, by the top of the stack.
* `Config.run_eq`: a run is moves in a row, noted one by one, and what comes of the configuration
  they lead to, unless its number of moves is used up.
* `Moves.within`: moves read the input from front to back.
* `Moves.mirror`: moves are made on every input that begins as far as they read it.
* `Moves.unique`: there is one configuration at which they come to an end.
-/

namespace Lookahead

/-- An input of which no line is known. -/
def bare (text : List Terminal) : List InputSymbol := text.map (⟨·, none⟩)

@[simp] theorem category_bare (text : List Terminal) :
    (bare text).map InputSymbol.category = text := by
  rw [bare, List.map_map]
  exact List.map_id text

/-- A configuration and the move made in it. -/
abbrev Step := Config × Move

/-- The moves of `steps` lead from one configuration to another. -/
inductive Moves (T : Table) : Config → List Step → Config → Prop where
  | refl (c : Config) : Moves T c [] c
  | more {c d e : Config} {m : Move} {steps : List Step}
      (h : c.step T = .moved m d) (t : Moves T d steps e) : Moves T c ((c, m) :: steps) e

namespace Move

/-- The expansion that a move makes. -/
def expansion? : Move → Option Expansion
  | .consume _ => none
  | .expand A body => some ⟨A, body⟩

/-- The terminal that a move reads. -/
def terminal? : Move → Option Terminal
  | .consume a => some a
  | .expand .. => none

end Move

/-- The expansions of moves in a row. -/
def expansions (steps : List Step) : List Expansion := steps.filterMap (·.2.expansion?)

theorem expansions_of_moves_eq {steps steps' : List Step}
    (h : steps'.map Prod.snd = steps.map Prod.snd) : expansions steps' = expansions steps := by
  have hmap : ∀ l : List Step, expansions l = (l.map Prod.snd).filterMap Move.expansion? :=
    fun l => by rw [List.filterMap_map]; rfl
  rw [hmap, hmap, h]

/-- The terminals that moves in a row read. -/
def reads (steps : List Step) : List Terminal := steps.filterMap (·.2.terminal?)

section

variable (c : Config) (a : Terminal) (A : NonTerminal) (body : List Symbol) (steps : List Step)

@[simp] theorem expansions_nil : expansions [] = [] := rfl

@[simp] theorem expansions_consume :
    expansions ((c, .consume a) :: steps) = expansions steps := rfl

@[simp] theorem expansions_expand :
    expansions ((c, .expand A body) :: steps) = ⟨A, body⟩ :: expansions steps := rfl

@[simp] theorem reads_nil : reads [] = [] := rfl

@[simp] theorem reads_consume : reads ((c, .consume a) :: steps) = a :: reads steps := rfl

@[simp] theorem reads_expand : reads ((c, .expand A body) :: steps) = reads steps := rfl

/-- Each move reads a terminal or makes an expansion. -/
theorem length_eq_expansions_add_reads :
    steps.length = (expansions steps).length + (reads steps).length := by
  induction steps with
  | nil => rfl
  | cons s steps ih =>
    obtain ⟨c, a | ⟨A, body⟩⟩ := s
    · rw [expansions_consume, reads_consume, List.length_cons, List.length_cons, ih, Nat.add_assoc]
    · rw [expansions_expand, reads_expand, List.length_cons, List.length_cons, ih,
        Nat.add_right_comm]

end

/-! ### What comes of a configuration -/

namespace Config

/-- There is no move from the configuration. -/
def Halts (T : Table) (c : Config) : Prop := ∀ m next, c.step T ≠ .moved m next

/-- **A move.**  A terminal on top is read off the input; a non-terminal is replaced by the body
that the table picks, which fits on the stack. -/
theorem step_moved {T : Table} {c d : Config} {m : Move} (h : c.step T = .moved m d) :
    (∃ a rest, c.stack.symbols = .terminal a :: rest ∧ c.current.category = a ∧ a ≠ .endMark ∧
      m = .consume a ∧ d = c.advance) ∨
    ∃ A rest body, c.stack.symbols = .nonTerminal A :: rest ∧
      T.body? A c.current.category = some body ∧ body.length + rest.length ≤ depthLimit ∧
      m = .expand A body ∧ d = c.replace body := by
  unfold step at h
  split at h
  · cases h
  · rename_i a rest hs
    split at h
    · rename_i ha
      split at h
      · cases h
      · rename_i hne
        cases h
        exact .inl ⟨a, rest, hs, ha.symm, hne, rfl, rfl⟩
    · cases h
  · rename_i A rest hs
    split at h
    · cases h
    · rename_i body hb
      simp only at h
      split at h
      · cases h
      · rename_i hd
        cases h
        rw [Stack.height_eq, Stack.symbols_pop, hs, List.tail_cons, Nat.not_lt] at hd
        exact .inr ⟨A, rest, body, hs, hb, hd, rfl, rfl⟩

/-- **Acceptance**: the end marker is on top of the stack and next in the input. -/
theorem step_accepted {T : Table} {c : Config} (h : c.step T = .accepted) :
    ∃ rest, c.stack.symbols = .terminal .endMark :: rest ∧ c.current.category = .endMark := by
  unfold step at h
  split at h
  · cases h
  · rename_i a rest hs
    split at h
    · rename_i ha
      split at h
      · rename_i he
        subst he
        exact ⟨rest, hs, ha.symm⟩
      · cases h
    · cases h
  · split at h
    · cases h
    · simp only at h
      split at h <;> cases h

/-- **Overflow**: the body picked for the non-terminal on top does not fit on the stack. -/
theorem step_overflow {T : Table} {c : Config} {A : NonTerminal} {body : List Symbol} {depth : Nat}
    (h : c.step T = .overflow A body depth) :
    ∃ rest, c.stack.symbols = .nonTerminal A :: rest ∧ T.body? A c.current.category = some body ∧
      depth = body.length + rest.length ∧ depthLimit < depth := by
  unfold step at h
  split at h
  · cases h
  · split at h
    · split at h <;> cases h
    · cases h
  · rename_i B rest hs
    split at h
    · cases h
    · rename_i b hb
      simp only at h
      split at h
      · rename_i hd
        cases h
        have hpop : c.stack.pop.height = rest.length := by
          rw [Stack.height_eq, Stack.symbols_pop, hs, List.tail_cons]
        exact ⟨rest, hs, hb, by rw [hpop], hd⟩
      · cases h

/-- **Rejection**: the terminal on top is not the next one, or the table has no body for the
non-terminal on top, or nothing is left on the stack. -/
theorem step_rejected {T : Table} {c : Config} {e : SyntaxError} (h : c.step T = .rejected e) :
    (∃ a rest, c.stack.symbols = .terminal a :: rest ∧ c.current.category ≠ a ∧
      e = .mismatch a c.current.category c.cursor c.current.line) ∨
    (∃ A rest, c.stack.symbols = .nonTerminal A :: rest ∧ T.body? A c.current.category = none ∧
      e = .noProduction A c.current.category c.cursor c.current.line) ∨
    c.stack.symbols = [] ∧ e = .internal "parse stack emptied before end of input" := by
  unfold step at h
  split at h
  · rename_i hs
    cases h
    exact .inr (.inr ⟨hs, rfl⟩)
  · rename_i a rest hs
    split at h
    · split at h <;> cases h
    · rename_i ha
      cases h
      exact .inl ⟨a, rest, hs, fun e => ha e.symm, rfl⟩
  · rename_i A rest hs
    split at h
    · rename_i hb
      cases h
      exact .inr (.inl ⟨A, rest, hs, hb, rfl⟩)
    · simp only at h
      split at h <;> cases h

/-- A move at a terminal reads it. -/
theorem step_moved_terminal {T : Table} {c d : Config} {m : Move} {a : Terminal}
    {rest : List Symbol} (h : c.step T = .moved m d)
    (hs : c.stack.symbols = .terminal a :: rest) :
    c.current.category = a ∧ a ≠ .endMark ∧ d = c.advance := by
  rcases step_moved h with ⟨_, _, hst, ha, hne, -, rfl⟩ | ⟨_, _, _, hst, -⟩
  · obtain ⟨hX, -⟩ := List.cons.inj (hst.symm.trans hs)
    obtain rfl := Symbol.terminal.inj hX
    exact ⟨ha, hne, rfl⟩
  · exact absurd (List.cons.inj (hst.symm.trans hs)).1 Symbol.noConfusion

/-- A move at a non-terminal puts the body in its place that the table has for it. -/
theorem step_moved_nonTerminal {T : Table} {c d : Config} {m : Move} {A : NonTerminal}
    {rest : List Symbol} (h : c.step T = .moved m d)
    (hs : c.stack.symbols = .nonTerminal A :: rest) :
    ∃ body, T.body? A c.current.category = some body ∧ d = c.replace body := by
  rcases step_moved h with ⟨_, _, hst, -⟩ | ⟨_, _, body, hst, hb, -, -, rfl⟩
  · exact absurd (List.cons.inj (hst.symm.trans hs)).1 Symbol.noConfusion
  · obtain ⟨hX, -⟩ := List.cons.inj (hst.symm.trans hs)
    obtain rfl := Symbol.nonTerminal.inj hX
    exact ⟨body, hb, rfl⟩

/-- A terminal is rejected only for another one. -/
theorem step_rejected_terminal {T : Table} {c : Config} {e : SyntaxError} {a : Terminal}
    {rest : List Symbol} (h : c.step T = .rejected e)
    (hs : c.stack.symbols = .terminal a :: rest) : c.current.category ≠ a := by
  rcases step_rejected h with ⟨_, _, hst, hne, -⟩ | ⟨_, _, hst, -⟩ | ⟨hst, -⟩
  · obtain ⟨hX, -⟩ := List.cons.inj (hst.symm.trans hs)
    exact Symbol.terminal.inj hX ▸ hne
  · exact absurd (List.cons.inj (hst.symm.trans hs)).1 Symbol.noConfusion
  · exact absurd (hst.symm.trans hs).symm (List.cons_ne_nil _ _)

/-- A non-terminal is rejected for want of a body. -/
theorem step_rejected_nonTerminal {T : Table} {c : Config} {e : SyntaxError} {A : NonTerminal}
    {rest : List Symbol} (h : c.step T = .rejected e)
    (hs : c.stack.symbols = .nonTerminal A :: rest) :
    T.body? A c.current.category = none ∧
      e = .noProduction A c.current.category c.cursor c.current.line := by
  rcases step_rejected h with ⟨_, _, hst, -⟩ | ⟨_, _, hst, hb, rfl⟩ | ⟨hst, -⟩
  · exact absurd (List.cons.inj (hst.symm.trans hs)).1 Symbol.noConfusion
  · obtain ⟨hX, -⟩ := List.cons.inj (hst.symm.trans hs)
    obtain rfl := Symbol.nonTerminal.inj hX
    exact ⟨hb, rfl⟩
  · exact absurd (hst.symm.trans hs).symm (List.cons_ne_nil _ _)

theorem symbols_advance {c : Config} {X : Symbol} {rest : List Symbol}
    (hs : c.stack.symbols = X :: rest) : c.advance.stack.symbols = rest := by
  rw [advance, Stack.symbols_pop, hs, List.tail_cons]

theorem symbols_replace {c : Config} {X : Symbol} {rest : List Symbol}
    (hs : c.stack.symbols = X :: rest) (body : List Symbol) :
    (c.replace body).stack.symbols = body ++ rest := by
  rw [replace, Stack.symbols_push, Stack.symbols_pop, hs, List.tail_cons]

/-- A terminal on top that is next in the input is read. -/
theorem step_consume {T : Table} {c : Config} {a : Terminal} {rest : List Symbol}
    (hs : c.stack.symbols = .terminal a :: rest) (ha : c.current.category = a)
    (hne : a ≠ .endMark) : c.step T = .moved (.consume a) c.advance := by
  rw [step, hs]
  simp only [ha, if_true, if_neg hne]

/-- A body that the table has for the non-terminal on top, and that fits, takes its place. -/
theorem step_expand {T : Table} {c : Config} {A : NonTerminal} {rest body : List Symbol}
    (hs : c.stack.symbols = .nonTerminal A :: rest)
    (hb : T.body? A c.current.category = some body) (hd : body.length + rest.length ≤ depthLimit) :
    c.step T = .moved (.expand A body) (c.replace body) := by
  have hh : body.length + c.stack.pop.height ≤ depthLimit := by
    rw [Stack.height_eq, Stack.symbols_pop, hs, List.tail_cons]
    exact hd
  rw [step, hs]
  simp only [hb, if_neg (Nat.not_lt.2 hh)]

/-- What becomes of a configuration depends on its stack and on the next terminal. -/
theorem step_moved_of_eq {T : Table} {c c' d : Config} {m : Move} (h : c.step T = .moved m d)
    (hs : c'.stack = c.stack) (hc : c'.current.category = c.current.category) :
    ∃ d', c'.step T = .moved m d' ∧ d'.stack = d.stack ∧
      (c'.cursor = c.cursor → d'.cursor = d.cursor) := by
  rcases step_moved h with
    ⟨a, rest, hst, ha, hne, rfl, rfl⟩ | ⟨A, rest, body, hst, hb, hd, rfl, rfl⟩
  · refine ⟨c'.advance, step_consume (hs ▸ hst) (hc ▸ ha) hne, ?_, fun e => ?_⟩
    · rw [advance, advance, hs]
    · rw [advance, advance, e]
  · refine ⟨c'.replace body, step_expand (hs ▸ hst) (hc ▸ hb) hd, ?_, fun e => e⟩
    rw [replace, replace, hs]

end Config

namespace SyntaxError

/-- The error on an input of which no line is known. -/
def withoutLine : SyntaxError → SyntaxError
  | mismatch expected found position _ => .mismatch expected found position none
  | noProduction A a position _ => .noProduction A a position none
  | e => e

end SyntaxError

/-- Why a configuration is rejected depends on its stack, on the next terminal and on its place. -/
theorem Config.step_rejected_of_eq {T : Table} {c c' : Config} {e : SyntaxError}
    (h : c.step T = .rejected e) (hs : c'.stack = c.stack)
    (hc : c'.current.category = c.current.category) (hcur : c'.cursor = c.cursor) :
    ∃ e', c'.step T = .rejected e' ∧ e'.withoutLine = e.withoutLine := by
  rcases step_rejected h with ⟨a, rest, hst, hne, rfl⟩ | ⟨A, rest, hst, hb, rfl⟩ | ⟨hst, rfl⟩
  · refine ⟨.mismatch a c'.current.category c'.cursor c'.current.line, ?_, ?_⟩
    · rw [step, hs, hst]
      simp only [if_neg (hc ▸ hne.symm)]
    · simp only [SyntaxError.withoutLine, hc, hcur]
  · refine ⟨.noProduction A c'.current.category c'.cursor c'.current.line, ?_, ?_⟩
    · rw [step, hs, hst]
      simp only [hc, hb]
    · simp only [SyntaxError.withoutLine, hc, hcur]
  · exact ⟨.internal "parse stack emptied before end of input", by rw [step, hs, hst], rfl⟩

/-! ### The place in the input -/

namespace Config

/-- The configuration is one of a run over `input`: what lies ahead is what has not been read. -/
structure Within (input : List InputSymbol) (c : Config) : Prop where
  cursor_le : c.cursor ≤ input.length
  ahead_eq : c.ahead = input.drop c.cursor
  final_eq : c.final = .endOf input

/-- The terminals not yet read, with the end marker behind them. -/
def unread (c : Config) : List Terminal := c.ahead.map InputSymbol.category ++ [.endMark]

/-- The terminal at a place of an input; behind its last symbol there are end markers. -/
def terminalAt (input : List InputSymbol) (i : Nat) : Terminal :=
  (input.map InputSymbol.category).getD i .endMark

theorem terminalAt_bare (text : List Terminal) (i : Nat) :
    terminalAt (bare text) i = text.getD i .endMark := by
  rw [terminalAt, category_bare]

theorem within_initial (input : List InputSymbol) : (initial input).Within input :=
  ⟨Nat.zero_le _, rfl, rfl⟩

namespace Within

variable {input : List InputSymbol} {c : Config}

/-- The next terminal is the one at the cursor, or the end marker. -/
theorem category_current (w : c.Within input) :
    c.current.category = ((input.map InputSymbol.category).drop c.cursor).headD .endMark := by
  rw [Config.current, w.ahead_eq, w.final_eq, ← List.map_drop]
  cases input.drop c.cursor <;> rfl

/-- In front of the end, the next symbol is the one at the cursor. -/
theorem current_of_getElem? (w : c.Within input) {s : InputSymbol}
    (hs : input[c.cursor]? = some s) : c.current = s := by
  rw [current, w.ahead_eq, List.headD_eq_head?_getD, List.head?_drop, hs]
  rfl

/-- At the end, the next symbol is the end marker. -/
theorem current_of_cursor_eq (w : c.Within input) (h : c.cursor = input.length) :
    c.current = .endOf input := by
  rw [current, w.ahead_eq, w.final_eq, h, List.drop_length]
  rfl

/-- The next symbol is the one at the cursor of the input with the end marker behind it. -/
theorem current_eq (w : c.Within input) :
    (input ++ [.endOf input])[c.cursor]? = some c.current := by
  rcases Nat.lt_or_eq_of_le w.cursor_le with hlt | heq
  · have hs := List.getElem?_eq_getElem hlt
    rw [List.getElem?_append_left hlt, hs, w.current_of_getElem? hs]
  · rw [w.current_of_cursor_eq heq, heq, List.getElem?_concat_length]

theorem category_eq (w : c.Within input) : c.current.category = terminalAt input c.cursor := by
  rw [w.category_current, terminalAt, List.headD_eq_head?_getD, List.head?_drop,
    List.getD_eq_getElem?_getD]

theorem unread_eq (w : c.Within input) :
    c.unread = c.current.category :: c.unread.tail := by
  rw [unread, current, w.final_eq]
  cases c.ahead <;> rfl

/-- Behind the last symbol only the end marker is not yet read. -/
theorem unread_of_cursor_eq (w : c.Within input) (h : c.cursor = input.length) :
    c.unread = [.endMark] := by
  rw [unread, w.ahead_eq, h, List.drop_length]
  rfl

/-- If the next terminal is not the end marker, there is a symbol ahead. -/
theorem cursor_lt (w : c.Within input) (h : c.current.category ≠ .endMark) :
    c.cursor < input.length := by
  refine Nat.lt_of_not_le fun hge => h ?_
  rw [Config.current, w.ahead_eq, List.drop_eq_nil_of_le hge, w.final_eq]
  rfl

/-- If no symbol of the input is an end marker, one comes behind the last symbol only. -/
theorem cursor_eq (w : c.Within input) (hin : ∀ s ∈ input, s.category ≠ .endMark)
    (h : c.current.category = .endMark) : c.cursor = input.length := by
  refine Nat.le_antisymm w.cursor_le (Nat.le_of_not_lt fun hlt => ?_)
  rw [Config.current, w.ahead_eq, List.drop_eq_getElem_cons hlt] at h
  exact hin _ (List.getElem_mem hlt) h

theorem advance (w : c.Within input) (h : c.current.category ≠ .endMark) :
    c.advance.Within input := by
  refine ⟨w.cursor_lt h, ?_, w.final_eq⟩
  rw [Config.advance, w.ahead_eq, List.tail_drop]

theorem unread_advance (w : c.Within input) (h : c.current.category ≠ .endMark) :
    c.advance.unread = c.unread.tail := by
  have hlt := w.cursor_lt h
  simp only [Config.unread, Config.advance, w.ahead_eq, List.drop_eq_getElem_cons hlt,
    List.tail_cons, List.map_cons, List.cons_append]

end Within

end Config

namespace Moves

variable {T : Table} {c d e : Config}

theorem within {input : List InputSymbol} {steps : List Step} (h : Moves T c steps d)
    (w : c.Within input) : d.Within input := by
  induction h with
  | refl => exact w
  | more h _ ih =>
    rcases Config.step_moved h with ⟨a, _, -, ha, hne, -, rfl⟩ | ⟨_, _, _, -, -, -, -, rfl⟩
    · exact ih (w.advance (ha ▸ hne))
    · exact ih ⟨w.cursor_le, w.ahead_eq, w.final_eq⟩

/-- Moves read as many terminals as the cursor advances. -/
theorem cursor_eq {steps : List Step} (h : Moves T c steps d) :
    d.cursor = c.cursor + (reads steps).length := by
  induction h with
  | refl => rfl
  | more h _ ih =>
    rcases Config.step_moved h with ⟨a, _, -, -, -, rfl, rfl⟩ | ⟨_, _, _, -, -, -, rfl, rfl⟩
    · rw [ih, reads_consume, List.length_cons, Config.advance, Nat.add_right_comm, Nat.add_assoc]
    · exact ih

/-- What moves read is the front of what was not yet read. -/
theorem unread_eq {input : List InputSymbol} {steps : List Step} (h : Moves T c steps d)
    (w : c.Within input) : c.unread = reads steps ++ d.unread := by
  induction h with
  | refl => rfl
  | more h t ih =>
    have w' := Moves.within (.more h (.refl _)) w
    rcases Config.step_moved h with ⟨a, _, -, ha, hne, rfl, rfl⟩ | ⟨_, _, _, -, -, -, rfl, rfl⟩
    · rw [reads_consume, List.cons_append, ← ih w', w.unread_advance (ha ▸ hne), ← ha]
      exact w.unread_eq
    · exact ih w'

/-- **Moves from the beginning to acceptance read the whole input.** -/
theorem reads_eq {input : List InputSymbol} {steps : List Step}
    (h : Moves T (.initial input) steps d) (hin : ∀ s ∈ input, s.category ≠ .endMark)
    (hd : d.step T = .accepted) :
    reads steps = input.map InputSymbol.category ∧ d.cursor = input.length := by
  have w := h.within (Config.within_initial input)
  obtain ⟨_, _, hmark⟩ := Config.step_accepted hd
  have hcursor := w.cursor_eq hin hmark
  have hread := h.unread_eq (Config.within_initial input)
  rw [w.unread_of_cursor_eq hcursor] at hread
  exact ⟨(List.append_cancel_right hread).symm, hcursor⟩

/-- **Moves depend on what has been read and the next terminal alone**: the same are made as well
on another input that has the same terminals up to there. -/
theorem mirror {input input' : List InputSymbol} {c c' d : Config} {steps : List Step}
    (h : Moves T c steps d) (w : c.Within input) (w' : c'.Within input')
    (hs : c'.stack = c.stack) (hc : c'.cursor = c.cursor)
    (agree : ∀ i ≤ d.cursor, Config.terminalAt input' i = Config.terminalAt input i) :
    ∃ steps' d', Moves T c' steps' d' ∧ d'.stack = d.stack ∧ d'.cursor = d.cursor ∧
      steps'.map Prod.snd = steps.map Prod.snd := by
  induction h generalizing c' with
  | refl => exact ⟨[], c', .refl c', hs, hc, rfl⟩
  | @more c d e m steps h t ih =>
    have hle : c.cursor ≤ e.cursor := by
      rw [Moves.cursor_eq (.more h t)]
      exact Nat.le_add_right _ _
    have hcat : c'.current.category = c.current.category := by
      rw [w.category_eq, w'.category_eq, hc, agree _ hle]
    obtain ⟨d', hd', hs', hc'⟩ := Config.step_moved_of_eq h hs hcat
    obtain ⟨steps', e', ht, he, hcur, hmoves⟩ :=
      ih (Moves.within (.more h (.refl d)) w) (Moves.within (.more hd' (.refl d')) w') hs' (hc' hc)
        agree
    exact ⟨_, e', .more hd' ht, he, hcur, congrArg (m :: ·) hmoves⟩

/-- **A run has one end**: moves from a configuration to one from which there is none are the same
moves. -/
theorem unique {d' : Config} {steps steps' : List Step} (h : Moves T c steps d)
    (h' : Moves T c steps' d') (hd : d.Halts T) (hd' : d'.Halts T) : steps = steps' ∧ d = d' := by
  induction h generalizing steps' with
  | refl =>
    cases h' with
    | refl => exact ⟨rfl, rfl⟩
    | more hs _ => exact absurd hs (hd _ _)
  | more hs _ ih =>
    cases h' with
    | refl => exact absurd hs (hd' _ _)
    | more hs' t =>
      obtain ⟨rfl, rfl⟩ := Outcome.moved.inj (hs.symm.trans hs')
      obtain ⟨rfl, rfl⟩ := ih t hd
      exact ⟨rfl, rfl⟩

end Moves

/-! ### Runs -/

namespace Run

/-- Note moves in a row. -/
def noteAll (recording : Bool) (r : Run) (steps : List Step) : Run :=
  steps.foldl (fun r s => r.note recording s.1 s.2) r

/-- End a run by what came of a configuration. -/
def conclude (recording : Bool) (r : Run) (c : Config) : Outcome → Run
  | .moved .. => r
  | .overflow A body depth =>
    (r.note recording c (.expand A body)).reject recording c.stack.pop.symbols c.cursor
      (.stackDepth depth Config.depthLimit)
  | .accepted => r.accept recording c
  | .rejected e => r.reject recording c.stack.symbols c.cursor e

variable (recording : Bool)

theorem traced_eq (r : Run) (change : Trace → Trace) :
    ∃ t, r.traced recording change = { r with trace := t } := by
  cases recording
  · exact ⟨r.trace, rfl⟩
  · exact ⟨change r.trace, rfl⟩

@[simp] theorem verdict_traced (r : Run) (change : Trace → Trace) :
    (r.traced recording change).verdict = r.verdict := by
  obtain ⟨t, h⟩ := r.traced_eq recording change
  rw [h]

@[simp] theorem expansions_traced (r : Run) (change : Trace → Trace) :
    (r.traced recording change).expansions = r.expansions := by
  obtain ⟨t, h⟩ := r.traced_eq recording change
  rw [h]

@[simp] theorem expansions_note_expand (r : Run) (c : Config) (A : NonTerminal)
    (body : List Symbol) :
    (r.note recording c (.expand A body)).expansions = r.expansions.push ⟨A, body⟩ :=
  expansions_traced ..

@[simp] theorem verdict_accept (r : Run) (c : Config) :
    (r.accept recording c).verdict = .accepted := verdict_traced ..

@[simp] theorem expansions_accept (r : Run) (c : Config) :
    (r.accept recording c).expansions = r.expansions := expansions_traced ..

theorem back?_accept (r : Run) (c : Config) :
    (r.accept true c).trace.steps.back? = some ⟨c.stack.symbols, c.cursor, .accept⟩ :=
  Array.back?_push ..

section

variable (r : Run) (stack : List Symbol) (cursor : Nat) (e : SyntaxError)

@[simp] theorem verdict_reject : (r.reject recording stack cursor e).verdict = .rejected e :=
  verdict_traced ..

@[simp] theorem expansions_reject :
    (r.reject recording stack cursor e).expansions = r.expansions := expansions_traced ..

theorem back?_reject :
    (r.reject true stack cursor e).trace.steps.back? = some ⟨stack, cursor, .reject e.message⟩ :=
  Array.back?_push ..

end

theorem verdict_noteAll (r : Run) (steps : List Step) :
    (r.noteAll recording steps).verdict = r.verdict := by
  induction steps generalizing r with
  | nil => rfl
  | cons s steps ih =>
    obtain ⟨c, m⟩ := s
    rw [noteAll, List.foldl_cons]
    refine (ih _).trans ?_
    cases m <;> exact verdict_traced ..

theorem expansions_noteAll (r : Run) (steps : List Step) :
    (r.noteAll recording steps).expansions.toList =
      r.expansions.toList ++ Lookahead.expansions steps := by
  induction steps generalizing r with
  | nil => exact (List.append_nil _).symm
  | cons s steps ih =>
    obtain ⟨c, m⟩ := s
    rw [noteAll, List.foldl_cons]
    refine (ih _).trans ?_
    cases m <;> simp [note]

end Run

/-- **A run is moves in a row**, and what comes of the configuration they lead to; one that makes
as many moves as it may stays undecided. -/
theorem Config.run_eq (T : Table) (recording : Bool) (n : Nat) (c : Config) (r : Run) :
    ∃ steps d, Moves T c steps d ∧
      (steps.length = n ∧ c.run T recording n r = r.noteAll recording steps ∨
        steps.length < n ∧ (∀ m next, d.step T ≠ .moved m next) ∧
          c.run T recording n r = (r.noteAll recording steps).conclude recording d (d.step T)) := by
  -- Induction on the number of moves, as the run itself goes.
  induction n generalizing c r with
  | zero => exact ⟨[], c, .refl c, .inl ⟨rfl, rfl⟩⟩
  | succ n ih =>
    cases hs : c.step T with
    | moved m next =>
      obtain ⟨steps, d, hm, h⟩ := ih next (r.note recording c m)
      refine ⟨(c, m) :: steps, d, .more hs hm, ?_⟩
      rw [Config.run, hs]
      rcases h with ⟨hl, he⟩ | ⟨hl, hd, he⟩
      · exact .inl ⟨congrArg (· + 1) hl, he⟩
      · exact .inr ⟨Nat.succ_lt_succ hl, hd, he⟩
    | _ =>
      refine ⟨[], c, .refl c, .inr ⟨Nat.succ_pos n, ?_, ?_⟩⟩
      · intro m next h
        rw [hs] at h
        cases h
      · rw [Config.run, hs]
        rfl

/-- A run that makes moves in a row goes on from where they lead to. -/
theorem Moves.run_eq {T : Table} {c d : Config} {steps : List Step} (h : Moves T c steps d)
    (recording : Bool) (n : Nat) (r : Run) :
    c.run T recording (steps.length + n) r = d.run T recording n (r.noteAll recording steps) := by
  induction h generalizing r with
  | refl => rw [List.length_nil, Nat.zero_add]; rfl
  | more h t ih =>
    rw [List.length_cons, Nat.add_right_comm, Config.run, h]
    exact ih _

/-- A run that may make no more than these moves stays undecided. -/
theorem Moves.verdict_run {T : Table} {c d : Config} {steps : List Step} (h : Moves T c steps d)
    (recording : Bool) {n : Nat} (hn : n ≤ steps.length) (r : Run) :
    (c.run T recording n r).verdict = r.verdict := by
  induction h generalizing n r with
  | refl => rw [Nat.le_zero.1 hn]; rfl
  | @more c d e m steps h t ih =>
    cases n with
    | zero => rfl
    | succ n =>
      rw [Config.run, h]
      exact (ih (Nat.le_of_succ_le_succ hn) _).trans (Run.verdict_noteAll recording r [(c, m)])

namespace Table

variable {T : Table} {recording : Bool} {n : Nat} {input : List InputSymbol}

theorem runFor_eq (hin : ∀ s ∈ input, s.category ≠ .endMark) :
    T.runFor recording n input = (Config.initial input).run T recording n (.start input) := by
  have : input.findIdx? (·.category == .endMark) = none := by
    rw [List.findIdx?_eq_none_iff]
    exact fun s hs => beq_false_of_ne (hin s hs)
  rw [runFor, this]

/-- An undecided run makes all the moves it may. -/
theorem runFor_undecided (hin : ∀ s ∈ input, s.category ≠ .endMark)
    (h : (T.runFor recording n input).verdict = .undecided) :
    ∃ steps d, Moves T (.initial input) steps d ∧ steps.length = n ∧
      (T.runFor recording n input).expansions.toList = expansions steps := by
  rw [runFor_eq hin] at h ⊢
  obtain ⟨steps, d, hm, ⟨hl, he⟩ | ⟨-, hd, he⟩⟩ :=
    Config.run_eq T recording n (.initial input) (.start input)
  · exact ⟨steps, d, hm, hl, by rw [he, Run.expansions_noteAll]; rfl⟩
  · rw [he] at h
    cases hs : d.step T with
    | moved m next => exact absurd hs (hd m next)
    | _ => rw [hs] at h; simp [Run.conclude] at h

/-- **A run that ends** makes moves to a configuration from which there is none, and ends by what
comes of that. -/
theorem runFor_ended (hin : ∀ s ∈ input, s.category ≠ .endMark)
    (hend : (T.runFor recording n input).verdict ≠ .undecided) :
    ∃ steps d, Moves T (.initial input) steps d ∧ d.Halts T ∧
      T.runFor recording n input =
        ((Run.start input).noteAll recording steps).conclude recording d (d.step T) := by
  rw [runFor_eq hin] at hend ⊢
  obtain ⟨steps, d, hm, ⟨-, he⟩ | ⟨-, hd, he⟩⟩ :=
    Config.run_eq T recording n (.initial input) (.start input)
  · rw [he, Run.verdict_noteAll] at hend
    exact absurd rfl hend
  · exact ⟨steps, d, hm, hd, he⟩

/-- **An accepting run** leads to a configuration in which the end marker is read, which is recorded
last. -/
theorem runFor_accepted (hin : ∀ s ∈ input, s.category ≠ .endMark)
    (h : (T.runFor recording n input).verdict = .accepted) :
    ∃ steps d, Moves T (.initial input) steps d ∧ d.step T = .accepted ∧
      (T.runFor recording n input).expansions.toList = expansions steps ∧
      (recording = true → (T.runFor recording n input).trace.steps.back? =
        some ⟨d.stack.symbols, d.cursor, .accept⟩) := by
  obtain ⟨steps, d, hm, hd, he⟩ := runFor_ended hin fun hu => Verdict.noConfusion (h.symm.trans hu)
  rw [he] at h ⊢
  cases hs : d.step T with
  | moved m next => exact absurd hs (hd m next)
  | accepted =>
    refine ⟨steps, d, hm, hs, ?_, ?_⟩
    · rw [Run.conclude, Run.expansions_accept]
      exact Run.expansions_noteAll recording (.start input) steps
    · rintro rfl
      exact Run.back?_accept ..
  | _ => rw [hs] at h; simp [Run.conclude] at h

/-- **A rejecting run** leads to a configuration that is rejected or in which the stack overflows.
What is recorded last is the stack and the place in the input; at an overflow the stack has lost its
top by then, and the body that does not fit is among the expansions. -/
theorem runFor_rejected (hin : ∀ s ∈ input, s.category ≠ .endMark) {e : SyntaxError}
    (h : (T.runFor recording n input).verdict = .rejected e) :
    ∃ steps d, Moves T (.initial input) steps d ∧
      (d.step T = .rejected e ∧
          (T.runFor recording n input).expansions.toList = expansions steps ∧
          (recording = true → (T.runFor recording n input).trace.steps.back? =
            some ⟨d.stack.symbols, d.cursor, .reject e.message⟩) ∨
        ∃ A body depth, d.step T = .overflow A body depth ∧
          e = .stackDepth depth Config.depthLimit ∧
          (T.runFor recording n input).expansions.toList = expansions steps ++ [⟨A, body⟩] ∧
          (recording = true → (T.runFor recording n input).trace.steps.back? =
            some ⟨d.stack.pop.symbols, d.cursor, .reject e.message⟩)) := by
  obtain ⟨steps, d, hm, hd, he⟩ := runFor_ended hin fun hu => Verdict.noConfusion (h.symm.trans hu)
  rw [he] at h ⊢
  have hx := Run.expansions_noteAll recording (.start input) steps
  refine ⟨steps, d, hm, ?_⟩
  cases hs : d.step T with
  | moved m next => exact absurd hs (hd m next)
  | accepted => rw [hs] at h; simp [Run.conclude] at h
  | rejected e' =>
    rw [hs] at h
    obtain rfl : e' = e := Verdict.rejected.inj ((Run.verdict_reject ..).symm.trans h)
    refine .inl ⟨rfl, ?_, ?_⟩
    · rw [Run.conclude, Run.expansions_reject]
      exact hx
    · rintro rfl
      exact Run.back?_reject ..
  | overflow A body depth =>
    rw [hs] at h
    obtain rfl : _ = e := Verdict.rejected.inj ((Run.verdict_reject ..).symm.trans h)
    refine .inr ⟨A, body, depth, rfl, rfl, ?_, ?_⟩
    · rw [Run.conclude, Run.expansions_reject, Run.expansions_note_expand, Array.toList_push]
      exact congrArg (· ++ [_]) hx
    · rintro rfl
      exact Run.back?_reject ..

end Table

end Lookahead
