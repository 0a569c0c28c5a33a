import Lookahead.Grammar.Derivation
import Lookahead.Proofs.Moves

/-!
# The expansions of a run

The expansions that a run makes are a leftmost derivation: what has been read, followed by the
stack, top first, is a sentential form, and each expansion replaces its leftmost non-terminal
(`Replays`).  This holds of every table none of whose bodies mentions the end marker, which then
lies at the bottom of the stack and nowhere else (`Config.Above`).

* `Moves.replays`: moves replay their expansions.
* `run_replays`: the expansions of an accepting run derive its input; those of a run that rejects a
  symbol derive what was read before it, followed by the stack.
* `inLanguage_of_accepted`: what a table accepts is in the language of its rules.
-/

namespace Lookahead

open Operator Delimiter NonTerminal

/-- The expansions `es` lead from one sentential form to another, each made of the leftmost
non-terminal, by the body that the table has for it under the next terminal: the one of `text`
behind the terminals in front of the non-terminal, or the end marker. -/
inductive Replays (T : Table) (text : List Terminal) :
    List Symbol → List Expansion → List Symbol → Prop where
  | refl (form : List Symbol) : Replays T text form [] form
  | more {front : List Terminal} {A : NonTerminal} {body back form : List Symbol}
      {es : List Expansion} (read : front <+: text)
      (pick : T.body? A ((text.drop front.length).headD .endMark) = some body)
      (rest : Replays T text (front.map .terminal ++ (body ++ back)) es form) :
      Replays T text (front.map .terminal ++ .nonTerminal A :: back) (⟨A, body⟩ :: es) form

/-- A replay is a derivation by the rules of the table. -/
theorem Replays.derives {T : Table} {text : List Terminal} {s t : List Symbol}
    {es : List Expansion} (h : Replays T text s es t) : Derives T.rules s t := by
  induction h with
  | refl => exact .refl _
  | more _ pick _ ih =>
    obtain ⟨r, hr, hc, rfl⟩ := T.body?_eq_some_iff.1 pick
    obtain ⟨rfl, -⟩ := Rule.mem_claims.1 hc
    exact .more (.replace hr _ _) ih

/-- No body of the table mentions the end marker. -/
def Table.EndFree (T : Table) : Prop := ∀ r ∈ T.rules, Symbol.terminal .endMark ∉ r.body

theorem Table.EndFree.not_mem_body {T : Table} (hT : T.EndFree) {A : NonTerminal} {a : Terminal}
    {body : List Symbol} (h : T.body? A a = some body) : Symbol.terminal .endMark ∉ body := by
  obtain ⟨r, hr, -, rfl⟩ := T.body?_eq_some_iff.1 h
  exact hT r hr

theorem standard_endFree : Table.standard.EndFree := by
  unfold Table.EndFree
  decide +kernel

/-! ### The bottom of the stack -/

namespace Config

/-- The symbols above the end marker, which is at the bottom of the stack and nowhere else. -/
structure Above (c : Config) (front : List Symbol) : Prop where
  symbols_eq : c.stack.symbols = front ++ [.terminal .endMark]
  not_mem : Symbol.terminal .endMark ∉ front

theorem above_initial (input : List InputSymbol) :
    (initial input).Above [.nonTerminal .start] :=
  ⟨rfl, by simp⟩

namespace Above

variable {T : Table} {c d : Config} {front : List Symbol} {m : Move}

/-- A terminal other than the end marker, or a non-terminal, is on top of what lies above. -/
theorem cons_of_symbols {X : Symbol} {rest : List Symbol} (ha : c.Above front)
    (hs : c.stack.symbols = X :: rest) (hX : X ≠ .terminal .endMark) :
    ∃ front', front = X :: front' ∧ rest = front' ++ [.terminal .endMark] := by
  rw [ha.symbols_eq] at hs
  cases front with
  | nil => exact absurd (List.cons.inj hs).1.symm hX
  | cons Y front' =>
    obtain ⟨rfl, rfl⟩ := List.cons.inj hs
    exact ⟨front', rfl, rfl⟩

/-- Only the bottom is left when the end marker is on top. -/
theorem eq_nil {rest : List Symbol} (ha : c.Above front)
    (hs : c.stack.symbols = .terminal .endMark :: rest) : front = [] := by
  rw [ha.symbols_eq] at hs
  cases front with
  | nil => rfl
  | cons Y front' =>
    obtain ⟨rfl, -⟩ := List.cons.inj hs
    exact absurd List.mem_cons_self ha.not_mem

theorem ne_nil (ha : c.Above front) : c.stack.symbols ≠ [] := by
  rw [ha.symbols_eq]
  simp

theorem advance {a : Terminal} {rest : List Symbol} (ha : c.Above (.terminal a :: rest)) :
    c.advance.Above rest :=
  ⟨symbols_advance ha.symbols_eq, fun h => ha.not_mem (.tail _ h)⟩

theorem replace {A : NonTerminal} {rest body : List Symbol} (ha : c.Above (.nonTerminal A :: rest))
    (hb : Symbol.terminal .endMark ∉ body) : (c.replace body).Above (body ++ rest) := by
  refine ⟨?_, fun h => ?_⟩
  · exact (symbols_replace ha.symbols_eq body).trans (List.append_assoc ..).symm
  · rcases List.mem_append.1 h with h | h
    · exact hb h
    · exact ha.not_mem (.tail _ h)

/-- A move, by what lies above the bottom. -/
theorem moved (hT : T.EndFree) (ha : c.Above front) (h : c.step T = .moved m d) :
    (∃ a rest, front = .terminal a :: rest ∧ c.current.category = a ∧ a ≠ .endMark ∧
      m = .consume a ∧ d = c.advance ∧ d.Above rest) ∨
    ∃ A rest body, front = .nonTerminal A :: rest ∧ T.body? A c.current.category = some body ∧
      m = .expand A body ∧ d = c.replace body ∧ d.Above (body ++ rest) := by
  rcases step_moved h with ⟨a, _, hs, hc, hne, rfl, rfl⟩ | ⟨A, _, body, hs, hb, -, rfl, rfl⟩
  · obtain ⟨rest, rfl, -⟩ := ha.cons_of_symbols hs (by simpa using hne)
    exact .inl ⟨a, rest, rfl, hc, hne, rfl, rfl, ha.advance⟩
  · obtain ⟨rest, rfl, -⟩ := ha.cons_of_symbols hs (by simp)
    exact .inr ⟨A, rest, body, rfl, hb, rfl, rfl, ha.replace (hT.not_mem_body hb)⟩

end Above

end Config

/-! ### Replaying moves -/

/-- **Moves replay their expansions.**  What has been read and the stack above its bottom are one
sentential form, which reading a terminal leaves as it is. -/
theorem Moves.replays {T : Table} (hT : T.EndFree) {input : List InputSymbol} {c d : Config}
    {steps : List Step} {front : List Symbol} (h : Moves T c steps d) (w : c.Within input)
    (ha : c.Above front) :
    ∃ front', d.Above front' ∧
      Replays T (input.map InputSymbol.category)
        (((input.map InputSymbol.category).take c.cursor).map .terminal ++ front)
        (expansions steps)
        (((input.map InputSymbol.category).take d.cursor).map .terminal ++ front') := by
  -- Induction on the moves: one that reads leaves the form as it is, one that expands replaces the
  -- leftmost non-terminal of it.
  induction h generalizing front with
  | refl => exact ⟨front, ha, .refl _⟩
  | @more c d e m steps h t ih =>
    have w' := Moves.within (.more h (.refl d)) w
    rcases ha.moved hT h with
      ⟨a, rest, rfl, hc, hne, rfl, rfl, ha'⟩ | ⟨A, rest, body, rfl, hb, rfl, rfl, ha'⟩
    · obtain ⟨front', hf, hr⟩ := ih w' ha'
      refine ⟨front', hf, ?_⟩
      have hlt : c.cursor < (input.map InputSymbol.category).length := by
        rw [List.length_map]
        exact w.cursor_lt (hc ▸ hne)
      have hget : (input.map InputSymbol.category)[c.cursor] = a := by
        rw [← hc, w.category_current, List.drop_eq_getElem_cons hlt, List.headD_cons]
      have htake : (input.map InputSymbol.category).take c.advance.cursor =
          (input.map InputSymbol.category).take c.cursor ++ [a] := by
        rw [Config.advance, List.take_succ_eq_append_getElem hlt, hget]
      rw [htake, List.map_append, List.append_assoc] at hr
      exact hr
    · obtain ⟨front', hf, hr⟩ := ih w' ha'
      refine ⟨front', hf, .more (List.take_prefix _ _) ?_ hr⟩
      rw [List.length_take, List.length_map, Nat.min_eq_left w.cursor_le, ← w.category_current]
      exact hb

/-- Moves from the beginning replay their expansions from the start symbol. -/
theorem Moves.replays_initial {T : Table} (hT : T.EndFree) {input : List InputSymbol}
    {d : Config} {steps : List Step} (h : Moves T (.initial input) steps d) :
    ∃ front, d.Above front ∧
      Replays T (input.map InputSymbol.category) [.nonTerminal .start] (expansions steps)
        (((input.map InputSymbol.category).take d.cursor).map .terminal ++ front) :=
  h.replays hT (Config.within_initial input) (Config.above_initial input)

/-- A configuration from which a run over `input` accepts has read all of it, and nothing but the
end marker is left on its stack. -/
theorem Config.Above.of_accepted {T : Table} {input : List InputSymbol} {c : Config}
    {front : List Symbol} (hin : ∀ s ∈ input, s.category ≠ .endMark) (w : c.Within input)
    (ha : c.Above front) (h : c.step T = .accepted) : front = [] ∧ c.cursor = input.length := by
  obtain ⟨rest, hs, hc⟩ := Config.step_accepted h
  exact ⟨ha.eq_nil hs, w.cursor_eq hin hc⟩

/-- The expansions of an accepting run derive its input. -/
theorem replays_of_accepted {T : Table} (hT : T.EndFree) {recording : Bool} {n : Nat}
    {input : List InputSymbol} (hin : ∀ s ∈ input, s.category ≠ .endMark)
    (h : (T.runFor recording n input).verdict = .accepted) :
    Replays T (input.map InputSymbol.category) [.nonTerminal .start]
      (T.runFor recording n input).expansions.toList
      ((input.map InputSymbol.category).map .terminal) := by
  obtain ⟨steps, d, hm, hd, he, -⟩ := Table.runFor_accepted hin h
  obtain ⟨front, ha, hr⟩ := hm.replays_initial hT
  obtain ⟨rfl, hc⟩ := ha.of_accepted hin (hm.within (Config.within_initial input)) hd
  rw [hc, List.take_of_length_le (by simp), List.append_nil] at hr
  rw [he]
  exact hr

/-- **The expansions of a run are a leftmost derivation**, for every table whose bodies do not
mention the end marker, every input without one and every number of moves.  If the run accepts,
they derive the input from the start symbol.  If it rejects the symbol at a position, they derive
what is in front of the position, followed by the stack above its bottom: the stack of the last
configuration, which is the one recorded with the rejection. -/
theorem run_replays {T : Table} (hT : T.EndFree) (recording : Bool) (n : Nat)
    {input : List InputSymbol} (hin : ∀ s ∈ input, s.category ≠ .endMark) :
    ((T.runFor recording n input).verdict = .accepted →
      Replays T (input.map InputSymbol.category) [.nonTerminal .start]
        (T.runFor recording n input).expansions.toList
        ((input.map InputSymbol.category).map .terminal)) ∧
    ∀ e p, (T.runFor recording n input).verdict = .rejected e → e.position? = some p →
      ∃ steps d stack, Moves T (.initial input) steps d ∧ d.step T = .rejected e ∧
        d.stack.symbols = stack ++ [.terminal .endMark] ∧
        (recording = true → (T.runFor recording n input).trace.steps.back? =
          some ⟨stack ++ [.terminal .endMark], p, .reject e.message⟩) ∧
        p ≤ input.length ∧
        Replays T (input.map InputSymbol.category) [.nonTerminal .start]
          (T.runFor recording n input).expansions.toList
          (((input.map InputSymbol.category).take p).map .terminal ++ stack) := by
  refine ⟨replays_of_accepted hT hin, fun e p h hp => ?_⟩
  obtain ⟨steps, d, hm, ⟨hd, he, hrec⟩ | ⟨A, body, depth, -, rfl, -⟩⟩ :=
    Table.runFor_rejected hin h
  · have w := hm.within (Config.within_initial input)
    obtain ⟨stack, ha, hr⟩ := hm.replays_initial hT
    have hcur : d.cursor = p := by
      rcases Config.step_rejected hd with
        ⟨_, _, -, -, rfl⟩ | ⟨_, _, -, -, rfl⟩ | ⟨hs, -⟩
      · exact Option.some.inj hp
      · exact Option.some.inj hp
      · exact absurd hs ha.ne_nil
    refine ⟨steps, d, stack, hm, hd, ha.symbols_eq, fun hr => ?_, hcur ▸ w.cursor_le, ?_⟩
    · rw [hrec hr, ha.symbols_eq, hcur]
    · rw [he, ← hcur]
      exact hr
  · cases hp

/-- Of `x = 1 ;` the expansions derive all, of `x = ;` what is in front of the semicolon. -/
theorem run_replays_assignment :
    let whole := [Terminal.identifier, assign, .number, semicolon]
    let cut := [Terminal.identifier, assign, semicolon]
    Table.standard.EndFree ∧
    Replays Table.standard whole [.nonTerminal .start]
      (Table.standard.runFor true 20 (bare whole)).expansions.toList (whole.map .terminal) ∧
    ∃ stack,
      (Table.standard.runFor true 20 (bare cut)).trace.steps.back? =
        some ⟨stack ++ [.terminal .endMark], 2,
          .reject (SyntaxError.noProduction expression semicolon 2 none).message⟩ ∧
      Replays Table.standard cut [.nonTerminal .start]
        (Table.standard.runFor true 20 (bare cut)).expansions.toList
        (.terminal .identifier :: .terminal assign :: stack) := by
  intro whole cut
  have hwhole : ∀ s ∈ bare whole, s.category ≠ .endMark := by decide
  have hcut : ∀ s ∈ bare cut, s.category ≠ .endMark := by decide
  have hacc : (Table.standard.runFor true 20 (bare whole)).verdict = .accepted := by
    decide +kernel
  have hrej : (Table.standard.runFor true 20 (bare cut)).verdict =
      .rejected (.noProduction expression semicolon 2 none) := by
    decide +kernel
  have hr := (run_replays standard_endFree true 20 hwhole).1 hacc
  obtain ⟨_, _, stack, -, -, -, htrace, -, hs⟩ :=
    (run_replays standard_endFree true 20 hcut).2 _ 2 hrej rfl
  rw [category_bare] at hr hs
  exact ⟨standard_endFree, hr, stack, htrace rfl, hs⟩

/-- **What a table accepts is in the language of its rules.** -/
theorem inLanguage_of_accepted {T : Table} (hT : T.EndFree) {recording : Bool} {n : Nat}
    {input : List InputSymbol} (hin : ∀ s ∈ input, s.category ≠ .endMark)
    (h : (T.runFor recording n input).verdict = .accepted) :
    InLanguage T.rules (input.map InputSymbol.category) :=
  (replays_of_accepted hT hin h).derives

end Lookahead
