import Lookahead.Proofs.EndMark
import Lookahead.Proofs.Leftmost
import Lookahead.Proofs.Traces

/-!
# How runs end

A run that ends does so at the one configuration that its moves lead to and from which there is none
(`Moves.unique`).  What the run reports is compared with what was done up to there: the last step of
its trace with the stack of that configuration, its expansions with those of the moves.

* `rejected_reports_iff`: a rejection reports what was done, unless the stack overflows.
* `Moves.count_endMark`: end markers come on the stack from bodies, and none is taken off it.
* `accepted_exhausts`: acceptance has read the whole input, and leaves the end marker alone on the
  stack unless some body put another one there.
-/

namespace Lookahead

open Keyword Operator Delimiter NonTerminal

/-! ### On top of the stack -/

/-- The symbol that an action is about, which is on top of the stack. -/
def Action.symbol? : Action → Option Symbol
  | consume a => some a
  | expand A _ => some A
  | accept => some (.terminal .endMark)
  | reject _ => none

/-- The symbol on top of the stack that an error names. -/
def SyntaxError.symbol? : SyntaxError → Option Symbol
  | mismatch expected .. => some expected
  | noProduction A .. => some A
  | _ => none

/-- The stack of a step has the symbol on top that the action is about. -/
def TraceStep.OnTop (s : TraceStep) : Prop :=
  ∀ X, s.action.symbol? = some X → s.stack.head? = some X

/-- All steps of the trace do. -/
def Trace.OnTop (t : Trace) : Prop := ∀ s ∈ t.steps.toList, s.OnTop

namespace TraceStep.OnTop

variable {T : Table} {c d : Config}

theorem of_moved {m : Move} (h : c.step T = .moved m d) : (ofStep (c, m)).OnTop := by
  intro X hX
  rcases Config.step_moved h with
    ⟨a, rest, hs, -, -, rfl, -⟩ | ⟨A, rest, body, hs, -, -, rfl, -⟩
  · rw [ofStep, hs]
    exact hX
  · rw [ofStep, hs]
    exact hX

theorem of_overflow {A : NonTerminal} {body : List Symbol} {depth : Nat}
    (h : c.step T = .overflow A body depth) : (ofStep (c, .expand A body)).OnTop := by
  intro X hX
  obtain ⟨rest, hs, -⟩ := Config.step_overflow h
  rw [ofStep, hs]
  exact hX

theorem of_accepted (h : c.step T = .accepted) :
    (⟨c.stack.symbols, c.cursor, .accept⟩ : TraceStep).OnTop := by
  intro X hX
  obtain ⟨rest, hs, -⟩ := Config.step_accepted h
  rw [hs]
  exact hX

/-- An error names the symbol on top by itself, if it does (`Config.Based.head?_of_rejected`). -/
theorem reject (stack : List Symbol) (cursor : Nat) (reason : String) :
    (⟨stack, cursor, .reject reason⟩ : TraceStep).OnTop := fun _ hX => nomatch hX

end TraceStep.OnTop

namespace Trace.OnTop

variable {t : Trace} {s : TraceStep}

theorem conclude (h : t.OnTop) (hs : s.OnTop) : (t.conclude s).OnTop := by
  intro x hx
  rw [Trace.conclude, Array.toList_push] at hx
  rcases List.mem_append.1 hx with hx | hx
  · exact h x hx
  · exact List.mem_singleton.1 hx ▸ hs

theorem record (h : t.OnTop) (hs : s.OnTop) : (t.record s).OnTop := by
  rw [Trace.record]
  split
  · exact h.conclude hs
  · exact h

theorem note {r : Run} (h : r.trace.OnTop) {c : Config} {m : Move}
    (hm : (TraceStep.ofStep (c, m)).OnTop) : (r.note true c m).trace.OnTop := by
  cases m <;> exact h.record hm

end Trace.OnTop

/-- **Every step that a run records is about the symbol on top of its stack.** -/
theorem Config.onTop_run (T : Table) (n : Nat) (c : Config) {r : Run} (h : r.trace.OnTop) :
    (c.run T true n r).trace.OnTop := by
  induction n generalizing c r with
  | zero => exact h
  | succ n ih =>
    rw [run]
    cases hs : c.step T with
    | moved m next => exact ih next (h.note (.of_moved hs))
    | overflow A body depth =>
      exact (h.note (.of_overflow hs)).conclude (.reject _ _ _)
    | accepted => exact h.conclude (.of_accepted hs)
    | rejected e => exact h.conclude (.reject _ _ _)

theorem Table.onTop_runFor (T : Table) (n : Nat) {input : List InputSymbol}
    (hin : ∀ s ∈ input, s.category ≠ .endMark) : (T.runFor true n input).trace.OnTop := by
  rw [runFor_eq hin]
  exact Config.onTop_run T n _ fun s hs => absurd hs List.not_mem_nil

/-! ### Rejection -/

/-- A rejecting run reports what was done by moves of `steps` to `d`, where they end: the last step
holds the stack of `d`, and the expansions are those of the moves, whose bodies were all put on the
stack. -/
structure Run.Reports (T : Table) (input : List InputSymbol) (e : SyntaxError) (r : Run)
    (steps : List Step) (d : Config) : Prop where
  moves : Moves T (.initial input) steps d
  halts : d.Halts T
  last_eq : r.trace.steps.back? = some ⟨d.stack.symbols, d.cursor, .reject e.message⟩
  expansions_eq : r.expansions.toList = Lookahead.expansions steps

namespace Config

variable {T : Table} {c : Config}

theorem halts_of_overflow {A : NonTerminal} {body : List Symbol} {depth : Nat}
    (h : c.step T = .overflow A body depth) : c.Halts T := fun _ _ hm =>
  nomatch h.symm.trans hm

theorem halts_of_rejected {e : SyntaxError} (h : c.step T = .rejected e) : c.Halts T :=
  fun _ _ hm => nomatch h.symm.trans hm

/-- A configuration is rejected for the symbol on top of its stack. -/
theorem Based.head?_of_rejected {e : SyntaxError} (b : c.Based) (h : c.step T = .rejected e) :
    ∃ X, e.symbol? = some X ∧ c.stack.symbols.head? = some X := by
  rcases step_rejected h with ⟨a, rest, hs, -, rfl⟩ | ⟨A, rest, hs, -, rfl⟩ | ⟨hs, -⟩
  · exact ⟨a, rfl, by rw [hs, List.head?_cons]⟩
  · exact ⟨A, rfl, by rw [hs, List.head?_cons]⟩
  · exact absurd hs b.symbols_ne_nil

theorem step_ne_rejected_stackDepth (depth limit : Nat) :
    c.step T ≠ .rejected (.stackDepth depth limit) := by
  intro h
  rcases step_rejected h with ⟨_, _, -, -, e⟩ | ⟨_, _, -, -, e⟩ | ⟨-, e⟩ <;> cases e

/-- A body that does not fit on the stack overflows it. -/
theorem step_eq_overflow {A : NonTerminal} {rest body : List Symbol}
    (hs : c.stack.symbols = .nonTerminal A :: rest)
    (hb : T.body? A c.current.category = some body) (hd : depthLimit < body.length + rest.length) :
    c.step T = .overflow A body (body.length + rest.length) := by
  have hh : c.stack.pop.height = rest.length := by
    rw [Stack.height_eq, Stack.symbols_pop, hs, List.tail_cons]
  rw [step, hs]
  simp only [hb, hh, if_pos hd]

end Config

namespace Table

variable {T : Table} {n : Nat} {input : List InputSymbol}

/-- A run whose stack overflows ends where a body does not fit.  The last step holds what is below
the non-terminal, and the body is listed as if it had been put there. -/
theorem runFor_stackDepth (hin : ∀ s ∈ input, s.category ≠ .endMark) {depth limit : Nat}
    (h : (T.runFor true n input).verdict = .rejected (.stackDepth depth limit)) :
    ∃ steps d A body below, Moves T (.initial input) steps d ∧ d.Halts T ∧
      d.stack.symbols = .nonTerminal A :: below ∧ T.body? A d.current.category = some body ∧
      depth = body.length + below.length ∧ limit = Config.depthLimit ∧ limit < depth ∧
      (T.runFor true n input).trace.steps.back? =
        some ⟨below, d.cursor, .reject (SyntaxError.stackDepth depth limit).message⟩ ∧
      (T.runFor true n input).expansions.toList = expansions steps ++ [⟨A, body⟩] := by
  obtain ⟨steps, d, hm, ⟨hd, -⟩ | ⟨A, body, _, hd, he, hx, hlast⟩⟩ := runFor_rejected hin h
  · exact absurd hd (Config.step_ne_rejected_stackDepth depth limit)
  · cases he
    obtain ⟨below, hs, hb, hdepth, hlimit⟩ := Config.step_overflow hd
    have hlast := hlast rfl
    rw [Stack.symbols_pop, hs, List.tail_cons] at hlast
    exact ⟨steps, d, A, body, below, hm, Config.halts_of_overflow hd, hs, hb, hdepth, rfl, hlimit,
      hlast, hx⟩

/-- A run whose stack overflows does not report what was done: its moves end in one configuration,
and the stack that is recorded is not the one there. -/
theorem not_reports_of_stackDepth (hin : ∀ s ∈ input, s.category ≠ .endMark) {depth limit : Nat}
    (h : (T.runFor true n input).verdict = .rejected (.stackDepth depth limit)) :
    ¬ ∃ steps d, (T.runFor true n input).Reports T input (.stackDepth depth limit) steps d := by
  rintro ⟨steps', d', hr⟩
  obtain ⟨steps, d, A, body, below, hm, hd, hs, -, -, -, -, hlast, -⟩ := runFor_stackDepth hin h
  obtain ⟨-, rfl⟩ := hm.unique hr.moves hd hr.halts
  have hstack : below = d.stack.symbols :=
    congrArg TraceStep.stack (Option.some.inj (hlast.symm.trans hr.last_eq))
  exact List.cons_ne_self _ _ (hs.symm.trans hstack.symm)

/-- A run that rejects without overflowing the stack reports what was done. -/
theorem exists_reports (hin : ∀ s ∈ input, s.category ≠ .endMark) {e : SyntaxError}
    (h : (T.runFor true n input).verdict = .rejected e)
    (he : ∀ depth limit, e ≠ .stackDepth depth limit) :
    ∃ steps d, (T.runFor true n input).Reports T input e steps d ∧
      ∃ X, e.symbol? = some X ∧ d.stack.symbols.head? = some X := by
  obtain ⟨steps, d, hm, ⟨hd, hx, hlast⟩ | ⟨_, _, depth, -, he', -⟩⟩ := runFor_rejected hin h
  · exact ⟨steps, d, ⟨hm, Config.halts_of_rejected hd, hlast rfl, hx⟩,
      (hm.based (Config.based_initial input)).head?_of_rejected hd⟩
  · exact absurd he' (he depth _)

end Table

/-- **A rejecting run reports what was done, unless its stack overflows.**  Take any table, an input
without end marker and a run with recording that rejects it.  Unless the error is an overflow, the
last step holds the stack of the configuration in which the run fails, with the symbol on top that
the error names, and the expansions are those of the moves that lead there.  At an overflow neither
is so: the last step holds what is left below the non-terminal, and behind the expansions that were
made stands one whose body was never put on the stack.  Every other step recorded has the symbol it
is about on top of its stack, and without recording the run lists the same expansions. -/
theorem rejected_reports_iff (T : Table) (n : Nat) {input : List InputSymbol}
    (hin : ∀ s ∈ input, s.category ≠ .endMark) {e : SyntaxError}
    (h : (T.runFor true n input).verdict = .rejected e) :
    let r := T.runFor true n input
    ((∃ steps d, r.Reports T input e steps d) ↔ ∀ depth limit, e ≠ .stackDepth depth limit) ∧
    (∀ steps d, r.Reports T input e steps d →
      ∃ X, e.symbol? = some X ∧ d.stack.symbols.head? = some X) ∧
    (∀ depth limit, e = .stackDepth depth limit →
      ∃ steps d A body below, Moves T (.initial input) steps d ∧ d.Halts T ∧
        d.stack.symbols = .nonTerminal A :: below ∧ T.body? A d.current.category = some body ∧
        depth = body.length + below.length ∧ limit = Config.depthLimit ∧ limit < depth ∧
        r.trace.steps.back? = some ⟨below, d.cursor, .reject e.message⟩ ∧
        r.expansions.toList = expansions steps ++ [⟨A, body⟩]) ∧
    (∀ s ∈ r.trace.steps.toList, s.OnTop) ∧
    (T.runFor false n input).expansions = r.expansions := by
  intro r
  have hover : (∃ steps d, r.Reports T input e steps d) →
      ∀ depth limit, e ≠ .stackDepth depth limit := by
    rintro hr depth limit rfl
    exact Table.not_reports_of_stackDepth hin h hr
  refine ⟨⟨hover, fun he => ?_⟩, fun steps d hr => ?_, ?_, Table.onTop_runFor T n hin, ?_⟩
  · obtain ⟨steps, d, hr, -⟩ := Table.exists_reports hin h he
    exact ⟨steps, d, hr⟩
  · obtain ⟨steps', d', hr', hX⟩ := Table.exists_reports hin h (hover ⟨steps, d, hr⟩)
    obtain ⟨-, rfl⟩ := hr'.moves.unique hr.moves hr'.halts hr.halts
    exact hX
  · rintro depth limit rfl
    exact Table.runFor_stackDepth hin h
  · have hsame : (T.runFor false n input).untraced = r.untraced := (Table.runFor_untraced true).symm
    exact (congrArg Run.expansions hsame :)

/-- What is reported of `x = ;`. -/
theorem rejected_reports_assignment :
    let input := bare [.identifier, assign, semicolon]
    let e := SyntaxError.noProduction expression semicolon 2 none
    let r := Table.standard.runFor true 20 input
    (∀ s ∈ input, s.category ≠ .endMark) ∧ r.verdict = .rejected e ∧
    ∃ steps d, r.Reports Table.standard input e steps d ∧
      d.stack.symbols.head? = some (.nonTerminal expression) := by
  intro input e r
  have hin : ∀ s ∈ input, s.category ≠ .endMark := by decide
  have hrej : r.verdict = .rejected e := by decide +kernel
  obtain ⟨hiff, htop, -⟩ := rejected_reports_iff Table.standard 20 hin hrej
  obtain ⟨steps, d, hr⟩ := hiff.2 fun _ _ => SyntaxError.noConfusion
  obtain ⟨X, hX, hhead⟩ := htop steps d hr
  exact ⟨hin, hrej, steps, d, hr, hhead.trans hX.symm⟩

/-- The table with one body, which the start symbol has under an identifier. -/
def Table.single (body : List Symbol) : Table :=
  ⟨[⟨.start, [.identifier], body⟩], by simp [claims, Rule.claims]⟩

/-- A body as long as a stack may be high does not fit above the end marker. -/
theorem Table.runFor_single {body : List Symbol} (h : Config.depthLimit ≤ body.length) :
    ((single body).runFor true 1 (bare [.identifier])).verdict =
      .rejected (.stackDepth (body.length + 1) Config.depthLimit) := by
  have hbody : (single body).body? .start .identifier = some body :=
    (single body).body?_eq_some_iff.2 ⟨_, List.mem_singleton_self _, by simp [Rule.mem_claims], rfl⟩
  have hs : (Config.initial (bare [.identifier])).stack.symbols =
      [.nonTerminal .start, .terminal .endMark] := rfl
  have hstep : (Config.initial (bare [.identifier])).step (single body) =
      .overflow .start body (body.length + 1) :=
    Config.step_eq_overflow hs hbody (Nat.lt_succ_of_le h)
  rw [runFor_eq (by decide), Config.run, hstep]
  exact Run.verdict_reject ..

/-- Nothing is reported of what was done if the first body does not fit. -/
theorem not_rejected_reports :
    ¬ ∀ (T : Table) (n : Nat) (input : List InputSymbol) (e : SyntaxError),
      (∀ s ∈ input, s.category ≠ .endMark) → (T.runFor true n input).verdict = .rejected e →
      ∃ steps d, (T.runFor true n input).Reports T input e steps d := by
  intro h
  have hin : ∀ s ∈ bare [.identifier], s.category ≠ .endMark := by decide
  have hbody : Config.depthLimit ≤
      (List.replicate Config.depthLimit (Symbol.terminal .identifier)).length :=
    Nat.le_of_eq List.length_replicate.symm
  have hrej := Table.runFor_single hbody
  exact Table.not_reports_of_stackDepth hin hrej (h _ 1 _ _ hin hrej)

/-! ### Acceptance -/

/-- **End markers come on the stack from bodies, and none is taken off it** by a move: reading one
ends the run. -/
theorem Moves.count_endMark {T : Table} {c d : Config} {steps : List Step} (h : Moves T c steps d) :
    d.stack.symbols.count (.terminal .endMark) = c.stack.symbols.count (.terminal .endMark) +
      ((expansions steps).flatMap Expansion.body).count (.terminal .endMark) := by
  induction h with
  | refl => rfl
  | more h _ ih =>
    rcases Config.step_moved h with
      ⟨a, rest, hs, -, hne, rfl, rfl⟩ | ⟨A, rest, body, hs, -, -, rfl, rfl⟩
    · rw [ih, Config.symbols_advance hs, hs, expansions_consume,
        List.count_cons_of_ne fun e => hne (Symbol.terminal.inj e)]
    · rw [ih, Config.symbols_replace hs, hs, expansions_expand, List.flatMap_cons,
        List.count_append, List.count_append, List.count_cons_of_ne Symbol.noConfusion,
        Nat.add_comm (List.count _ body), Nat.add_assoc]

/-- What lies below the end marker that a run accepts at is nothing, exactly if no body that the run
used mentions the end marker. -/
theorem Moves.below_eq_nil_iff {T : Table} {input : List InputSymbol} {steps : List Step}
    {d : Config} {below : List Symbol} (h : Moves T (.initial input) steps d)
    (hs : d.stack.symbols = .terminal .endMark :: below) :
    below = [] ↔ ∀ x ∈ expansions steps, Symbol.terminal .endMark ∉ x.body := by
  have hcount := h.count_endMark
  have hone : (Config.initial input).stack.symbols.count (.terminal .endMark) = 1 := rfl
  rw [hs, List.count_cons_self, hone, Nat.add_comm 1] at hcount
  have hbodies : (∀ x ∈ expansions steps, Symbol.terminal .endMark ∉ x.body) ↔
      below.count (.terminal .endMark) = 0 := by
    rw [Nat.succ.inj hcount, List.count_eq_zero, List.mem_flatMap]
    exact ⟨fun h ⟨x, hx, hm⟩ => h x hx hm, fun h x hx hm => h ⟨x, hx, hm⟩⟩
  rw [hbodies, List.count_eq_zero]
  refine ⟨fun h => h ▸ List.not_mem_nil, fun hnot => ?_⟩
  -- The end marker at the bottom would be below.
  have hbased := h.based (Config.based_initial input)
  rw [Config.Based, hs] at hbased
  cases below with
  | nil => rfl
  | cons X rest =>
    rw [List.getLast?_cons_cons] at hbased
    exact absurd (List.mem_of_getLast? hbased) hnot

/-- The body of an expansion that moves make is one that the table has for its non-terminal. -/
theorem Moves.exists_body? {T : Table} {c d : Config} {steps : List Step} (h : Moves T c steps d)
    {x : Expansion} (hx : x ∈ expansions steps) : ∃ a, T.body? x.expanded a = some x.body := by
  induction h with
  | refl => exact absurd hx List.not_mem_nil
  | more h _ ih =>
    rcases Config.step_moved h with ⟨_, _, -, -, -, rfl, -⟩ | ⟨A, _, body, -, hb, -, rfl, -⟩
    · exact ih hx
    · rcases List.mem_cons.1 hx with rfl | hx
      · exact ⟨_, hb⟩
      · exact ih hx

/-- **Acceptance exhausts the input, and the stack unless a body mentions the end marker.**  Take
the table of any list of rules, an input without end marker and a run that accepts it.  In the
configuration in which it does so, which is the one recorded last, the whole input has been read and
the end marker is on top of the stack.  Nothing lies below it exactly if none of the expansions of
the run has a body that mentions the end marker; so it is if no rule does. -/
theorem accepted_exhausts {rules : List Rule} {T : Table} (hT : Table.ofRules? rules = .ok T)
    (n : Nat) {input : List InputSymbol} (hin : ∀ s ∈ input, s.category ≠ .endMark)
    (h : (T.runFor true n input).verdict = .accepted) :
    let r := T.runFor true n input
    ∃ steps d below, Moves T (.initial input) steps d ∧ d.step T = .accepted ∧
      reads steps = input.map InputSymbol.category ∧ d.cursor = input.length ∧
      d.stack.symbols = .terminal .endMark :: below ∧
      r.trace.steps.back? = some ⟨.terminal .endMark :: below, input.length, .accept⟩ ∧
      r.expansions.toList = expansions steps ∧
      (below = [] ↔ ∀ x ∈ r.expansions.toList, Symbol.terminal .endMark ∉ x.body) ∧
      ((∀ rule ∈ rules, Symbol.terminal .endMark ∉ rule.body) → below = []) := by
  intro r
  obtain ⟨steps, d, hm, hd, hx, hlast⟩ := Table.runFor_accepted hin h
  obtain ⟨hreads, hcursor⟩ := hm.reads_eq hin hd
  obtain ⟨below, hs, -⟩ := Config.step_accepted hd
  have hbelow := hm.below_eq_nil_iff hs
  refine ⟨steps, d, below, hm, hd, hreads, hcursor, hs, ?_, hx, hx ▸ hbelow, fun hfree => ?_⟩
  · rw [← hs, ← hcursor]
    exact hlast rfl
  · have hends : T.EndFree := fun rule hrule =>
      hfree rule (Table.ofRules?_eq_ok_iff.1 hT ▸ hrule)
    -- The bodies that the run used are those of rules.
    refine hbelow.2 fun x hx => ?_
    obtain ⟨a, hpick⟩ := hm.exists_body? hx
    exact hends.not_mem_body hpick

/-- A block is accepted with nothing below the end marker: no rule of the language mentions it. -/
theorem accepted_exhausts_block :
    let input := bare [openBrace, break_, semicolon, closeBrace]
    let r := Table.standard.runFor true 20 input
    Table.ofRules? standardRules = .ok Table.standard ∧ (∀ s ∈ input, s.category ≠ .endMark) ∧
    r.verdict = .accepted ∧
    r.trace.steps.back? = some ⟨[.terminal .endMark], 4, .accept⟩ := by
  intro input r
  have hT : Table.ofRules? standardRules = .ok Table.standard := Table.ofRules?_eq_ok_iff.2 rfl
  have hin : ∀ s ∈ input, s.category ≠ .endMark := by decide
  have hacc : r.verdict = .accepted := by decide +kernel
  obtain ⟨_, _, below, -, -, -, -, -, hlast, -, -, hfree⟩ := accepted_exhausts hT 20 hin hacc
  obtain rfl := hfree standard_endFree
  exact ⟨hT, hin, hacc, hlast⟩

/-- One rule, whose body goes on behind an end marker. -/
def markedRules : List Rule :=
  [⟨.start, [.identifier], [.terminal .identifier, .terminal .endMark, .terminal .identifier]⟩]

/-- A table that has a body with an end marker inside accepts with symbols left below it. -/
theorem not_accepted_exhausts :
    ¬ ∀ (rules : List Rule) (T : Table) (n : Nat) (input : List InputSymbol),
      Table.ofRules? rules = .ok T → (∀ s ∈ input, s.category ≠ .endMark) →
      (T.runFor true n input).verdict = .accepted →
      (T.runFor true n input).trace.steps.back? =
        some ⟨[.terminal .endMark], input.length, .accept⟩ := by
  intro h
  let T : Table := ⟨markedRules, by decide⟩
  have hT : Table.ofRules? markedRules = .ok T := Table.ofRules?_eq_ok_iff.2 rfl
  have hlast : (T.runFor true 3 (bare [.identifier])).trace.steps.back? ≠
      some ⟨[.terminal .endMark], 1, .accept⟩ := by
    decide +kernel
  exact hlast (h markedRules T 3 (bare [.identifier]) hT (by decide) (by decide +kernel))

end Lookahead
