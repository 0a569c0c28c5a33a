import Lookahead.Proofs.AcceptedRules

/-!
# The rules without `do` loops

What the grammar derives without a `do` is what its rules derive without the one for `do` loops
(`doFreeRules`).  Not all of it is accepted: the table has no cell for a statement that begins with
one of `bareStarts`, and under an opening brace it picks a block, never an array literal.

* `Spells.exists_text`: every sequence of symbols spells something.
* `Spells.without_loops`: what a text begins with can be completed without `do` loops if there is
  no `do` in it.
* `Spells.predicted_or`: but for the two places named above, the body picked under the next terminal
  spells all that its non-terminal spells there.
-/

namespace Lookahead

open Keyword Operator Delimiter NonTerminal

/-- The rules of the language without loops that have their condition behind them. -/
def doFreeRules : List Rule := standardRules.filter (· ≠ .doLoop)

theorem mem_doFreeRules {r : Rule} : r ∈ doFreeRules ↔ r ∈ standardRules ∧ r ≠ .doLoop := by
  rw [doFreeRules, List.mem_filter, decide_eq_true_eq]

theorem doFreeRules_listStatements : ListStatements doFreeRules where
  nothing := by decide
  goesOn := by decide
  bodies := by decide
  ofStatements := by decide
  ofBlockRest := by decide

/-! ### Completion -/

/-- How many rules at most are needed, one inside the other, to spell something. -/
def NonTerminal.height : NonTerminal → Nat
  | statement | expression | elements => 1
  | _ => 0

theorem exists_lower_body : ∀ A ∈ NonTerminal.all, ∃ r ∈ doFreeRules, r.lhs = A ∧
    ∀ B ∈ NonTerminal.all, .nonTerminal B ∈ r.body → B.height < A.height := by
  decide

namespace Spells

variable {s : List Symbol} {w v : List Terminal}

theorem exists_of_height (n : Nat) : ∀ A : NonTerminal, A.height < n →
    ∃ w, Spells doFreeRules [.nonTerminal A] w := by
  -- Induction on the height: the symbols of a lower body spell something.
  induction n with
  | zero => exact fun A h => absurd h (Nat.not_lt_zero _)
  | succ n ih =>
    intro A hA
    obtain ⟨r, hr, rfl, hlow⟩ := exists_lower_body A A.mem_all
    have hbody : ∃ w, Spells doFreeRules r.body w := by
      refine exists_of_each fun X hX => ?_
      cases X with
      | terminal a => exact ⟨[a], .read a .nil⟩
      | nonTerminal B =>
        exact ih B (Nat.lt_of_lt_of_le (hlow B B.mem_all hX) (Nat.le_of_lt_succ hA))
    obtain ⟨w, hw⟩ := hbody
    exact ⟨w, .expand hr (by rwa [List.append_nil])⟩

/-- **Every sequence of symbols spells something.** -/
theorem exists_text (s : List Symbol) : ∃ w, Spells doFreeRules s w := by
  refine exists_of_each fun X _ => ?_
  cases X with
  | terminal a => exact ⟨[a], .read a .nil⟩
  | nonTerminal A => exact exists_of_height (A.height + 1) A (Nat.lt_succ_self _)

/-- **What a text begins with** can be completed without `do` loops if there is no `do` in it. -/
theorem without_loops (h : Spells standardRules s (w ++ v)) (hdo : .keyword do_ ∉ w) :
    ∃ v', Spells doFreeRules s (w ++ v') := by
  generalize hu : w ++ v = u at h
  -- Induction on the spelling, as long as something is left of the beginning.
  induction h generalizing w with
  | nil =>
    obtain ⟨rfl, -⟩ := List.append_eq_nil_iff.1 hu
    exact ⟨[], .nil⟩
  | @read s u a h ih =>
    rcases List.append_eq_cons_iff.1 hu with ⟨rfl, -⟩ | ⟨w, rfl, rfl⟩
    · exact exists_text _
    · obtain ⟨v', hv⟩ := ih (fun h => hdo (.tail _ h)) rfl
      exact ⟨v', .read a hv⟩
  | @expand r s u hr h ih =>
    rcases w with _ | ⟨a, w⟩
    · exact exists_text _
    · have hne : r ≠ .doLoop := by
        rintro rfl
        obtain ⟨u, rfl, -⟩ := of_terminal h
        obtain ⟨rfl, -⟩ := List.cons.inj hu
        exact hdo List.mem_cons_self
      obtain ⟨v', hv⟩ := ih hdo hu
      exact ⟨v', .expand (mem_doFreeRules.2 ⟨hr, hne⟩) hv⟩

end Spells

/-! ### What is predicted -/

/-- The terminals that an expression begins with and no statement in the table. -/
def bareStarts : List Terminal := expressionStarts.filter (· ∉ statementStarts)

/-- The non-terminals in whose place a statement may begin. -/
def statementPlaces : List NonTerminal := [statements, statement, block, blockRest]

/-- What the non-terminals begin with when an expression is a statement whatever it begins with. -/
def leadingAny : Starts where
  vanishes := leading.vanishes
  first A := leading.first A ++ if A ∈ statementPlaces then bareStarts else []

/-- What stands behind the non-terminals then. -/
def trailingAny : Neighbours where
  next := trailing.next
  follow A :=
    trailing.follow A ++ if A ∈ [statements, statement, control] then bareStarts else []

theorem leadingAny_closed : leadingAny.Closed doFreeRules where
  vanishes := by decide
  first := by decide

theorem trailingAny_closed : trailingAny.Closed leadingAny doFreeRules where
  body := by decide
  follow A := by cases A <;> decide

theorem body?_bareStarts : ∀ A ∈ statementPlaces, ∀ a ∈ bareStarts,
    Table.standard.body? A a = none := by
  decide

/-- A body is picked under each terminal that it begins with, but for expressions as statements. -/
theorem body?_of_mem_leadingAny : ∀ r ∈ doFreeRules, ∀ a ∈ leadingAny.firsts r.body,
    Table.standard.body? r.lhs a = some r.body ∨ (r.lhs ∈ statementPlaces ∧ a ∈ bareStarts) ∨
      r = .expressionStatement ∧ a = openBrace := by
  have hall : ∀ r ∈ doFreeRules, ∀ a ∈ leadingAny.firsts r.body, a ∈ r.lookaheads ∨
      (r.lhs ∈ statementPlaces ∧ a ∈ bareStarts) ∨ r = .expressionStatement ∧ a = openBrace := by
    decide
  intro r hr a ha
  refine (hall r hr a ha).imp_left fun hlook => ?_
  exact Table.standard.body?_eq_some_iff.2
    ⟨r, (mem_doFreeRules.1 hr).1, Rule.mem_claims.2 ⟨rfl, hlook⟩, rfl⟩

/-- The same as `body?_of_mem_follow`, but for expressions as statements. -/
theorem body?_of_mem_trailingAny : ∀ r ∈ doFreeRules, leadingAny.allVanish r.body →
    ∀ a ∈ trailingAny.follow r.lhs,
      Table.standard.body? r.lhs a = some r.body ∨ (r.lhs ∈ statementPlaces ∧ a ∈ bareStarts) ∨
      (r.lhs = statements ∧ r.body = [] ∧ a ∈ acceptedStarts ∧
        Table.standard.body? r.lhs a = some [.nonTerminal statement, .nonTerminal statements]) ∨
      a = closeBrace ∧ r.body = [.nonTerminal statements, .nonTerminal blockRest] ∧
        Table.standard.body? r.lhs a = some [] := by
  decide

/-- An opening brace is the first of an expression only if a number is behind it. -/
theorem Spells.of_arrayLiteral {s : List Symbol} {v : List Terminal}
    (h : Spells doFreeRules (.nonTerminal expression :: s) (.delimiter openBrace :: v)) :
    ∃ v', v = .number :: v' := by
  have hall : ∀ r ∈ doFreeRules, r.lhs = expression →
      (.delimiter openBrace ∈ leadingAny.firsts r.body →
        r.body = [.terminal openBrace, .nonTerminal elements, .terminal closeBrace]) ∧
      leadingAny.allVanish r.body = false := by
    decide
  obtain ⟨r, hr, hl, hb⟩ := h.of_nonTerminal
  obtain ⟨hbrace, hv⟩ := hall r hr hl
  rcases Starts.mem_firsts_append.1 (leadingAny_closed.mem_firsts hb) with ha | ⟨hv', -⟩
  · rw [hbrace ha] at hb
    obtain ⟨v', hv', hs⟩ := hb.of_terminal
    obtain ⟨-, rfl⟩ := List.cons.inj hv'
    have hel : ∀ r ∈ doFreeRules, r.lhs = elements →
        r.body = [.terminal .number, .nonTerminal elementsRest] := by
      decide
    obtain ⟨r', hr', hl', hb'⟩ := hs.of_nonTerminal
    rw [hel r' hr' hl'] at hb'
    obtain ⟨v', hv', -⟩ := hb'.of_terminal
    exact ⟨v', hv'⟩
  · rw [hv] at hv'
    cases hv'

/-- **The body picked under the next terminal** spells all that its non-terminal spells there, unless
the terminal begins an expression where a statement may begin: then the table picks no body, or a
block for the elements of an array. -/
theorem Spells.predicted_or {A : NonTerminal} {a : Terminal} {s : List Symbol} {v : List Terminal}
    (h : Spells doFreeRules (.nonTerminal A :: s) (a :: v))
    (hf : trailing.Fits (.nonTerminal A :: s)) :
    (∃ body, Table.standard.body? A a = some body ∧ Spells doFreeRules (body ++ s) (a :: v) ∧
      trailing.Fits (body ++ s)) ∨
    (A ∈ statementPlaces ∧ a ∈ bareStarts) ∨
    A = statement ∧ a = openBrace ∧ ∃ v', v = .number :: v' := by
  have k := doFreeRules_listStatements
  have hany : trailingAny.Fits (.nonTerminal A :: s) := hf.of_next rfl
  obtain ⟨r, hr, rfl, hb⟩ := of_nonTerminal h
  have hfit : trailing.Fits (r.body ++ s) :=
    (hany.append (trailingAny_closed.body r hr)).of_next rfl
  rcases Starts.mem_firsts_append.1 (leadingAny_closed.mem_firsts hb) with ha | ⟨hv, ha⟩
  · rcases body?_of_mem_leadingAny r hr a ha with hp | hbare | ⟨rfl, rfl⟩
    · exact .inl ⟨r.body, hp, hb, hfit⟩
    · exact .inr (.inl hbare)
    · exact .inr (.inr ⟨rfl, rfl, of_arrayLiteral hb⟩)
  · rcases body?_of_mem_trailingAny r hr hv a (trailingAny_closed.mem_follow hany ha) with
      hp | hbare | ⟨hs, he, hstart, hp⟩ | ⟨rfl, he, hp⟩
    · exact .inl ⟨r.body, hp, hb, hfit⟩
    · exact .inr (.inl hbare)
    · rw [he] at hb
      rw [hs] at hf hp ⊢
      exact .inl ⟨_, hp, statement_statements k hb rfl hstart hf, hf.append (by decide)⟩
    · rw [he] at hb
      have hno : .delimiter closeBrace ∉ leadingAny.first statement ∧
          leadingAny.vanishes statement = false := by
        decide
      exact .inl ⟨[], hp, hb.vanish k leadingAny_closed (by decide) rfl hno, hf.tail⟩

end Lookahead
