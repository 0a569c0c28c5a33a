import Lookahead.Proofs.Moves

/-!
# The work of a run

A *tariff* sets a charge on every symbol of a stack and a price on every expansion.  On top of the
charge of its stack, a configuration keeps a reserve for what the symbol on top can still cost
before the next terminal is read.  A tariff covers a table when the reserve of a non-terminal pays
for the body put in its place; then moves cost no more than a fixed amount for each terminal read
(`Tariff.Covers.moves`).

Two tariffs cover the table of the language.  Under one the charge is the height of the stack, under
the other the non-terminals on the stack pay for the expansions.  So a parse ends after work that is
linear in the length of its input (`parse_work`).
-/

namespace Lookahead

open Keyword Delimiter

/-- Charges on symbols and a price for expansions. -/
structure Tariff where
  /-- The price of an expansion. -/
  expansion : Nat
  /-- The charge of a terminal on the stack. -/
  terminal : Nat
  /-- The charge of a non-terminal on the stack. -/
  nonTerminal : Nat
  /-- What a non-terminal that does not vanish can add before a terminal is read. -/
  growth : NonTerminal → Nat
  /-- The most that can be added before a terminal is read. -/
  most : Nat

namespace Tariff

/-- The charge of a symbol. -/
def ofSymbol (t : Tariff) : Symbol → Nat
  | .terminal _ => t.terminal
  | .nonTerminal _ => t.nonTerminal

/-- The charge of a stack. -/
def charge (t : Tariff) : List Symbol → Nat
  | [] => 0
  | X :: s => t.ofSymbol X + t.charge s

/-- The reserve of a stack under a lookahead.  Below a non-terminal that vanishes anything may
come. -/
def reserve (t : Tariff) (T : Table) (a : Terminal) : List Symbol → Nat
  | [] | .terminal _ :: _ => 0
  | .nonTerminal A :: _ => if T.body? A a = some [] then t.most else t.growth A

/-- The reserve of a non-terminal pays for the expansion made of it. -/
structure Covers (t : Tariff) (T : Table) : Prop where
  growth_le : ∀ A, t.growth A ≤ t.most
  expansion_le : t.expansion ≤ t.nonTerminal
  pays : ∀ r ∈ T.rules, ∀ a ∈ r.lookaheads, r.body ≠ [] →
    t.expansion + t.charge r.body + t.reserve T a r.body ≤ t.nonTerminal + t.growth r.lhs

/-- The charge of a configuration's stack with its reserve. -/
def total (t : Tariff) (T : Table) (c : Config) : Nat :=
  t.charge c.stack.symbols + t.reserve T c.current.category c.stack.symbols

variable {t : Tariff} {T : Table}

@[simp] theorem charge_cons (X : Symbol) (s : List Symbol) :
    t.charge (X :: s) = t.ofSymbol X + t.charge s := rfl

@[simp] theorem charge_append (s s' : List Symbol) :
    t.charge (s ++ s') = t.charge s + t.charge s' := by
  induction s with
  | nil => exact (Nat.zero_add _).symm
  | cons X s ih => rw [List.cons_append, charge_cons, charge_cons, ih, Nat.add_assoc]

theorem reserve_append_of_ne_nil {a : Terminal} {s : List Symbol} (h : s ≠ [])
    (rest : List Symbol) : t.reserve T a (s ++ rest) = t.reserve T a s := by
  obtain ⟨X, s, rfl⟩ := List.exists_cons_of_ne_nil h
  cases X <;> rfl

theorem total_eq {c : Config} {s : List Symbol} (hs : c.stack.symbols = s) :
    t.total T c = t.charge s + t.reserve T c.current.category s := by
  rw [total, hs]

/-- The total after an expansion, under the same lookahead. -/
theorem total_replace {c : Config} {X : Symbol} {rest : List Symbol}
    (hs : c.stack.symbols = X :: rest) (body : List Symbol) :
    t.total T (c.replace body) =
      t.charge (body ++ rest) + t.reserve T c.current.category (body ++ rest) :=
  total_eq (Config.symbols_replace hs body)

namespace Covers

theorem reserve_le (k : t.Covers T) (a : Terminal) (s : List Symbol) :
    t.reserve T a s ≤ t.most := by
  unfold reserve
  split
  · exact Nat.zero_le _
  · exact Nat.zero_le _
  · split
    · exact Nat.le_refl _
    · exact k.growth_le _

/-- **An expansion is paid for** by the charge and the reserve of the non-terminal. -/
theorem expand (k : t.Covers T) {A : NonTerminal} {a : Terminal} {body : List Symbol}
    (h : T.body? A a = some body) (rest : List Symbol) :
    t.expansion + t.charge (body ++ rest) + t.reserve T a (body ++ rest) ≤
      t.charge (.nonTerminal A :: rest) + t.reserve T a (.nonTerminal A :: rest) := by
  have hk := k.expansion_le
  rw [charge_append, charge_cons, ofSymbol, reserve, h]
  by_cases hb : body = []
  -- What vanishes leaves its whole reserve to the symbol below.
  · subst hb
    have hr := k.reserve_le a rest
    rw [if_pos rfl, List.nil_append, charge]
    omega
  · obtain ⟨r, hr, hc, rfl⟩ := T.body?_eq_some_iff.1 h
    obtain ⟨rfl, ha⟩ := Rule.mem_claims.1 hc
    have hp := k.pays r hr a ha hb
    rw [if_neg (by simpa using hb), reserve_append_of_ne_nil hb]
    omega

/-- **Moves cost a fixed amount for each terminal read.** -/
theorem moves (k : t.Covers T) {c d : Config} {steps : List Step} (h : Moves T c steps d) :
    t.expansion * (expansions steps).length + t.total T d + t.terminal * (reads steps).length ≤
      t.total T c + t.most * (reads steps).length := by
  induction h with
  | refl => simp
  | @more c d e m steps h _ ih =>
    rcases Config.step_moved h with
      ⟨a, rest, hs, -, -, rfl, rfl⟩ | ⟨A, rest, body, hs, hb, -, rfl, rfl⟩
    · have hr := k.reserve_le c.advance.current.category rest
      rw [total_eq (Config.symbols_advance hs)] at ih
      rw [expansions_consume, reads_consume, List.length_cons, total_eq hs, charge_cons, ofSymbol,
        reserve, Nat.mul_succ, Nat.mul_succ]
      omega
    · have hx := k.expand hb rest
      rw [total_replace hs] at ih
      rw [expansions_expand, reads_expand, List.length_cons, Nat.mul_succ, total_eq hs]
      omega

end Covers

end Tariff

/-! ### The tariffs of the language -/

namespace Tariff

/-- The charge is the height of the stack, and expansions are free. -/
def height : Tariff where
  expansion := 0
  terminal := 1
  nonTerminal := 1
  most := 16
  growth
    | .block | .blockRest => 16
    | .statements => 15
    | .statement | .control => 14
    | .arguments => 4
    | .expression => 3
    | .expressionRest | .elementsRest | .argumentsRest => 2
    | .arraySuffix | .elements => 1
    | .modifier | .declared => 0

/-- The non-terminals on the stack pay for the expansions. -/
def work : Tariff where
  expansion := 1
  terminal := 0
  nonTerminal := 1
  most := 9
  growth
    | .block | .blockRest => 9
    | .statements => 7
    | .statement => 5
    | .control | .arguments => 4
    | .expression | .argumentsRest => 2
    | .expressionRest | .elements | .elementsRest => 1
    | .arraySuffix | .modifier | .declared => 0

theorem height_covers : height.Covers Table.standard where
  growth_le A := by cases A <;> decide
  expansion_le := by decide
  pays := by decide +kernel

theorem work_covers : work.Covers Table.standard where
  growth_le A := by cases A <;> decide
  expansion_le := by decide
  pays := by decide +kernel

theorem charge_height (s : List Symbol) : height.charge s = s.length := by
  induction s with
  | nil => rfl
  | cons X s ih =>
    rw [charge_cons, ih, List.length_cons, Nat.add_comm]
    cases X <;> rfl

end Tariff

/-! ### Parses -/

/-- Moves from the beginning by the table of the language: at most ten expansions, and nine for
each terminal read, of which there are no more than the input has. -/
theorem Moves.expansions_le {input : List InputSymbol} {d : Config} {steps : List Step}
    (h : Moves Table.standard (.initial input) steps d) :
    (expansions steps).length + Tariff.work.total Table.standard d ≤ 10 + 9 * d.cursor := by
  have hm := Tariff.work_covers.moves h
  have hr := Tariff.work_covers.reserve_le (Config.initial input).current.category
    (Config.initial input).stack.symbols
  have hc : Tariff.work.charge (Config.initial input).stack.symbols = 1 := rfl
  have hcur : d.cursor = 0 + (reads steps).length := h.cursor_eq
  rw [Tariff.total_eq (c := Config.initial input) rfl, hc] at hm
  simp only [Tariff.work] at hm hr ⊢
  omega

/-- What the moves of a run have cost, and what its configuration can still cost. -/
theorem Moves.work_le {input : List InputSymbol} {d : Config} {steps : List Step}
    (h : Moves Table.standard (.initial input) steps d) :
    (expansions steps).length + Tariff.work.total Table.standard d ≤ 10 + 9 * input.length ∧
      (reads steps).length ≤ input.length := by
  have he := h.expansions_le
  have hc := (h.within (Config.within_initial input)).cursor_le
  have hcur : d.cursor = 0 + (reads steps).length := h.cursor_eq
  omega

/-- The stack of a configuration in a run, with its reserve. -/
theorem Moves.height_le {input : List InputSymbol} {d : Config} {steps : List Step}
    (h : Moves Table.standard (.initial input) steps d) :
    Tariff.height.total Table.standard d ≤ 15 * d.cursor + 18 := by
  have hm := Tariff.height_covers.moves h
  have hr := Tariff.height_covers.reserve_le (Config.initial input).current.category
    (Config.initial input).stack.symbols
  have hc : Tariff.height.charge (Config.initial input).stack.symbols = 2 := rfl
  have hcur : d.cursor = 0 + (reads steps).length := h.cursor_eq
  rw [Tariff.total_eq (c := Config.initial input) rfl, hc] at hm
  simp only [Tariff.height] at hm hr ⊢
  omega

/-- A stack about to be made is as low as the one it comes from. -/
theorem Moves.pushed_le {input : List InputSymbol} {d : Config} {steps : List Step}
    (h : Moves Table.standard (.initial input) steps d) {A : NonTerminal}
    {rest body : List Symbol} (hs : d.stack.symbols = .nonTerminal A :: rest)
    (hb : Table.standard.body? A d.current.category = some body) :
    (body ++ rest).length ≤ 15 * d.cursor + 18 := by
  have hx := Tariff.height_covers.expand hb rest
  have ht := h.height_le
  rw [Tariff.total_eq hs] at ht
  rw [Tariff.charge_height] at hx
  omega

theorem longestBody_standard : Table.standard.longestBody = 15 := by decide +kernel

/-- There are moves enough for every run by the table of the language. -/
theorem lt_moves_standard (n : Nat) : 10 + 10 * n < Table.standard.moves n := by
  have hlen : NonTerminal.all.length = 14 := rfl
  simp only [Table.moves, longestBody_standard, hlen, Config.depthLimit, Nat.pow_eq]
  omega

/-- **A parse ends.** -/
theorem parse_decided (recording : Bool) {input : List InputSymbol}
    (hin : ∀ s ∈ input, s.category ≠ .endMark) : (parse recording input).verdict ≠ .undecided := by
  intro h
  obtain ⟨steps, d, hm, hl, -⟩ := Table.runFor_undecided hin h
  obtain ⟨he, hr⟩ := hm.work_le
  have hlen := length_eq_expansions_add_reads steps
  have hlt := lt_moves_standard input.length
  omega

/-- A short input does not overflow the stack. -/
theorem not_overflowed_of_length_le (recording : Bool) {input : List InputSymbol}
    (hin : ∀ s ∈ input, s.category ≠ .endMark) (hlen : input.length ≤ 6665) (depth limit : Nat) :
    (parse recording input).verdict ≠ .rejected (.stackDepth depth limit) := by
  intro h
  obtain ⟨steps, d, hm, ⟨hd, -, -⟩ | ⟨A, body, height, hd, -, -⟩⟩ := Table.runFor_rejected hin h
  · rcases Config.step_rejected hd with ⟨_, _, -, -, h⟩ | ⟨_, _, -, -, h⟩ | ⟨-, h⟩ <;> cases h
  · obtain ⟨rest, hs, hb, hheight, hlimit⟩ := Config.step_overflow hd
    have hp := hm.pushed_le hs hb
    have hc := (hm.within (Config.within_initial input)).cursor_le
    rw [List.length_append, ← hheight] at hp
    rw [Config.depthLimit] at hlimit
    omega

/-- The expansions of a parse are those of its moves, and one that overflows the stack behind
them. -/
theorem size_expansions_le (recording : Bool) {input : List InputSymbol}
    (hin : ∀ s ∈ input, s.category ≠ .endMark) :
    (parse recording input).expansions.size ≤ 16 * (input.length + 1) + 1 := by
  rw [← Array.length_toList, parse, Table.run]
  cases hv : (parse recording input).verdict with
  | undecided => exact absurd hv (parse_decided recording hin)
  | accepted =>
    obtain ⟨steps, d, hm, -, hx, -⟩ := Table.runFor_accepted hin hv
    have hwork := hm.work_le.1
    rw [hx]
    omega
  | rejected e =>
    obtain ⟨steps, d, hm, ⟨-, hx, -⟩ | ⟨A, body, depth, hd, -, hx, -⟩⟩ :=
      Table.runFor_rejected hin hv
    · have hwork := hm.work_le.1
      rw [hx]
      omega
    · -- the body that does not fit is paid for by the reserve that is left
      obtain ⟨rest, hs, hb, -, -⟩ := Config.step_overflow hd
      have hp := Tariff.work_covers.expand hb rest
      have hwork := hm.work_le.1
      rw [Tariff.total_eq hs] at hwork
      have hone : Tariff.work.expansion = 1 := rfl
      rw [hx, List.length_append, List.length_singleton]
      omega

/-- **The work of a parse is linear** in the number `n` of symbols of its input.  The run ends.
It makes at most `16 (n + 1) + 1` expansions, also counting one that overflows the stack, and reads
at most `n` terminals before the end marker.  In each of its configurations the stack, and the one
about to be made from it, have at most `15 cursor + 18` symbols; so an input of at most 6665 symbols
does not overflow the stack. -/
theorem parse_work (recording : Bool) {input : List InputSymbol}
    (hin : ∀ s ∈ input, s.category ≠ .endMark) :
    (parse recording input).verdict ≠ .undecided ∧
    (parse recording input).expansions.size ≤ 16 * (input.length + 1) + 1 ∧
    (∀ steps d, Moves Table.standard (.initial input) steps d →
      (expansions steps).length ≤ 16 * (input.length + 1) + 1 ∧
      (reads steps).length ≤ input.length ∧
      steps.length ≤ 16 * (input.length + 1) + 1 + input.length ∧
      d.stack.height ≤ 15 * d.cursor + 18 ∧
      ∀ A rest body, d.stack.symbols = .nonTerminal A :: rest →
        Table.standard.body? A d.current.category = some body →
          (body ++ rest).length ≤ 15 * d.cursor + 18) ∧
    (input.length ≤ 6665 → ∀ depth limit,
      (parse recording input).verdict ≠ .rejected (.stackDepth depth limit)) := by
  refine ⟨parse_decided recording hin, size_expansions_le recording hin, fun steps d hm => ?_,
    not_overflowed_of_length_le recording hin⟩
  obtain ⟨he, hr⟩ := hm.work_le
  have hlen := length_eq_expansions_add_reads steps
  have hh := hm.height_le
  rw [Tariff.total, Tariff.charge_height] at hh
  refine ⟨by omega, hr, by omega, ?_, fun A rest body hs hb => hm.pushed_le hs hb⟩
  rw [d.stack.height_eq]
  omega

/-- The bounds for a loop that has another one inside, begun and not completed. -/
theorem parse_work_loops :
    let input := bare [while_, openParen, .identifier, closeParen, do_, break_, semicolon]
    (∀ s ∈ input, s.category ≠ .endMark) ∧
    (parse false input).verdict ≠ .undecided ∧ (parse false input).expansions.size ≤ 129 ∧
    ∀ depth limit, (parse false input).verdict ≠ .rejected (.stackDepth depth limit) := by
  intro input
  have hin : ∀ s ∈ input, s.category ≠ .endMark := by decide
  obtain ⟨hd, hx, -, ho⟩ := parse_work false hin
  exact ⟨hin, hd, hx, ho (by decide)⟩

end Lookahead
