import Lookahead.Grammar.Standard
import Lookahead.Proofs.Neighbours

/-!
# The rules of the accepted language

What a parse accepts, told by rules without lookaheads (`acceptedRules`).  It is not all that the
grammar derives.

* A `do` loop is never completed: the list of statements inside takes the `while` behind it for one
  more statement.
* An expression is a statement only if it begins with an identifier; a statement list does not go on
  under any other terminal of an expression.

With these two gone from the rules the grammar is still ambiguous, since lists of statements stand
right behind each other.  A predictive parse gives all statements to the first of them, and loses no
text by it (`Spells.statement_cons`, `Spells.vanish`): a body picked under the next terminal spells
all that its non-terminal spells there (`Spells.predicted`).
-/

namespace Lookahead

open Keyword Operator Delimiter NonTerminal

/-- A loop with its condition behind it. -/
def Rule.doLoop : Rule :=
  .startingWith control do_ [statements, while_, openParen, expression, closeParen, semicolon]

/-- An expression as a statement. -/
def Rule.expressionStatement : Rule :=
  ⟨statement, [Terminal.identifier], [expression, semicolon]⟩

/-- An expression that begins with an identifier, as a statement. -/
def Rule.identifierStatement : Rule :=
  .startingWith statement Terminal.identifier [expressionRest, semicolon]

/-- The rules of the language, with an identifier in front of every expression statement. -/
def identifierLedRules : List Rule :=
  .identifierStatement :: standardRules.filter (· ≠ .expressionStatement)

/-- These rules without loops that have their condition behind them. -/
def acceptedRules : List Rule := identifierLedRules.filter (· ≠ .doLoop)

theorem doLoop_mem : Rule.doLoop ∈ standardRules := by decide

theorem expressionStatement_mem : Rule.expressionStatement ∈ standardRules := by decide

theorem mem_acceptedRules {r : Rule} :
    r ∈ acceptedRules ↔ r = .identifierStatement ∨
      r ∈ standardRules ∧ r ≠ .expressionStatement ∧ r ≠ .doLoop := by
  have hne : Rule.identifierStatement ≠ .doLoop := by decide
  rw [acceptedRules, identifierLedRules, List.mem_filter, List.mem_cons, List.mem_filter]
  grind

/-- The loops that begin with `do` are of no use for a text without one. -/
theorem Spells.without_do {rules : List Rule} {s : List Symbol} {w : List Terminal}
    (h : Spells rules s w) (hdo : .keyword do_ ∉ w) :
    Spells (rules.filter (· ≠ .doLoop)) s w := by
  induction h with
  | nil => exact .nil
  | read a _ ih => exact .read a (ih fun h => hdo (.tail _ h))
  | @expand r s w hr h ih =>
    refine .expand (List.mem_filter.2 ⟨hr, decide_eq_true fun he => ?_⟩) (ih hdo)
    subst he
    obtain ⟨v, rfl, -⟩ := Spells.of_terminal h
    exact hdo List.mem_cons_self

/-! ### What stands where -/

/-- The terminals that a list of statements goes on under, without loops that begin with `do`. -/
def acceptedStarts : List Terminal := statementStarts.filter (· ≠ .keyword do_)

/-- What the non-terminals begin with, by the rules of the accepted language. -/
def leading : Starts where
  vanishes
    | statements | arraySuffix | block | blockRest | expressionRest | elementsRest
    | NonTerminal.arguments | argumentsRest => true
    | statement | modifier | declared | NonTerminal.control | expression | elements => false
  first
    | statements | statement | block | blockRest => acceptedStarts
    | NonTerminal.control => controlStarts.filter (· ≠ .keyword do_)
    | arraySuffix => [openBracket]
    | modifier => modifiers
    | declared => [class_, interface]
    | expression | NonTerminal.arguments => expressionStarts
    | expressionRest =>
      binaryOperators.map .operator ++ ([increment, decrement, openParen] : List Terminal)
    | elements => [Terminal.number]
    | elementsRest | argumentsRest => [comma]

/-- What stands behind the non-terminals on the stack of a parse. -/
def trailing : Neighbours where
  next
    | statements => [statements, blockRest, closeBrace, Terminal.endMark]
    | statement | NonTerminal.control => [statements]
    | modifier => [declared]
    | arraySuffix | declared => [Terminal.identifier]
    | block | blockRest | elements | elementsRest => [closeBrace]
    | expression | expressionRest => [semicolon, closeParen, argumentsRest]
    | NonTerminal.arguments | argumentsRest => [closeParen]
  follow
    | statements | statement | NonTerminal.control =>
      acceptedStarts ++ ([closeBrace, Terminal.endMark] : List Terminal)
    | modifier => [class_, interface]
    | arraySuffix | declared => [Terminal.identifier]
    | block | blockRest | elements | elementsRest => [closeBrace]
    | expression | expressionRest => [semicolon, closeParen, comma]
    | NonTerminal.arguments | argumentsRest => [closeParen]

theorem leading_closed : leading.Closed acceptedRules where
  vanishes := by decide
  first := by decide

theorem trailing_closed : trailing.Closed leading acceptedRules where
  body := by decide
  follow A := by cases A <;> decide

/-- A body is picked under each terminal that it begins with. -/
theorem body?_of_mem_firsts : ∀ r ∈ acceptedRules, r ≠ .identifierStatement →
    ∀ a ∈ leading.firsts r.body, Table.standard.body? r.lhs a = some r.body := by
  have hall : ∀ r ∈ acceptedRules, r ≠ .identifierStatement →
      ∀ a ∈ leading.firsts r.body, a ∈ r.lookaheads := by decide
  intro r hr hne a ha
  obtain ⟨hmem, -⟩ := (mem_acceptedRules.1 hr).resolve_left hne
  exact Table.standard.body?_eq_some_iff.2
    ⟨r, hmem, Rule.mem_claims.2 ⟨rfl, hall r hr hne a ha⟩, rfl⟩

/-- Where more than one body can vanish, the empty one is picked, unless a statement begins. -/
theorem body?_of_mem_follow : ∀ r ∈ acceptedRules, leading.allVanish r.body →
    ∀ a ∈ trailing.follow r.lhs,
      Table.standard.body? r.lhs a = some r.body ∨
      (r.lhs = statements ∧ r.body = [] ∧ a ∈ acceptedStarts ∧
        Table.standard.body? r.lhs a = some [.nonTerminal statement, .nonTerminal statements]) ∨
      a = closeBrace ∧ r.body = [.nonTerminal statements, .nonTerminal blockRest] ∧
        Table.standard.body? r.lhs a = some [] := by
  decide

/-! ### Lists of statements -/

/-- The non-terminals for lists of statements. -/
def statementLists : List Symbol := [statements, block, blockRest]

/-- Rules make lists of statements as those of the language do. -/
structure ListStatements (rules : List Rule) : Prop where
  nothing : ⟨statements, [closeBrace, Terminal.endMark], []⟩ ∈ rules
  goesOn : ⟨blockRest, statementStarts, [.nonTerminal statements, .nonTerminal blockRest]⟩ ∈ rules
  bodies : ∀ r ∈ rules, .nonTerminal r.lhs ∈ statementLists →
    r.body = [.nonTerminal statement, .nonTerminal statements] ∨ r.body = [] ∨
      r.body = [.nonTerminal statements, .nonTerminal blockRest]
  ofStatements : ∀ r ∈ rules, r.lhs = statements →
    r.body = [.nonTerminal statement, .nonTerminal statements] ∨ r.body = []
  ofBlockRest : ∀ r ∈ rules, r.lhs = blockRest →
    r.body = [.nonTerminal statements, .nonTerminal blockRest] ∨ r.body = []

theorem acceptedRules_listStatements : ListStatements acceptedRules where
  nothing := by decide
  goesOn := by decide
  bodies := by decide
  ofStatements := by decide
  ofBlockRest := by decide

namespace Spells

variable {rules : List Rule} {s : List Symbol} {w : List Terminal} {a : Terminal}

/-- An empty list of statements can be put anywhere. -/
theorem statements_cons (k : ListStatements rules) (h : Spells rules s w) :
    Spells rules (.nonTerminal statements :: s) w :=
  .expand k.nothing h

/-- A block goes on with more statements. -/
theorem blockRest_cons (k : ListStatements rules)
    (h : Spells rules (.nonTerminal statements :: .nonTerminal blockRest :: s) w) :
    Spells rules (.nonTerminal blockRest :: s) w :=
  .expand k.goesOn h

/-- **Where a statement begins**, what may stand behind a list of statements spells a statement with
the same behind it. -/
theorem statement_cons (k : ListStatements rules) (h : Spells rules s w) (hw : w.head? = some a)
    (ha : a ≠ closeBrace ∧ a ≠ .endMark) (hf : trailing.Fits (.nonTerminal statements :: s)) :
    Spells rules (.nonTerminal statement :: s) w := by
  -- Induction on the spelling: the first list that is not empty begins with the statement.
  induction h with
  | nil => cases hw
  | @read s w b h _ =>
    obtain ⟨X, hX, t, ht⟩ := hf.head
    obtain ⟨rfl, -⟩ := List.cons.inj ht
    obtain rfl := Option.some.inj hw
    have hb : b = closeBrace ∨ b = .endMark := by simpa [trailing] using hX
    rcases hb with rfl | rfl
    · exact absurd rfl ha.1
    · exact absurd rfl ha.2
  | @expand r s w hr h ih =>
    obtain ⟨X, hX, t, ht⟩ := hf.head
    obtain ⟨rfl, -⟩ := List.cons.inj ht
    have hlhs : r.lhs = statements ∨ r.lhs = blockRest := by
      simpa [trailing] using hX
    rcases hlhs with hs | hs
    · rw [hs] at hf ⊢
      rcases k.ofStatements r hr hs with hb | hb
      · rw [hb] at h
        exact h
      · rw [hb] at h ih
        exact (ih hw hf.tail).back (s := [_]) fun _ => statements_cons k
    · rw [hs] at hf ⊢
      rcases k.ofBlockRest r hr hs with hb | hb
      · rw [hb] at ih
        have hfit : trailing.Fits (.nonTerminal statements :: .nonTerminal statements ::
            .nonTerminal blockRest :: s) := by
          refine ⟨⟨_, ?_, _, rfl⟩, ⟨_, ?_, _, rfl⟩, hf.tail⟩ <;> decide
        exact (ih hw hfit).back (s := [_]) fun _ => blockRest_cons k
      · rw [hb] at h
        obtain ⟨X, hX, t, rfl⟩ := hf.tail.head
        obtain rfl : X = .terminal closeBrace := by simpa [trailing] using hX
        obtain ⟨v, rfl, -⟩ := of_terminal h
        obtain rfl := Option.some.inj hw
        exact absurd rfl ha.1

/-- Where the table has a statement, what stands behind a list of statements can be spelled as one
more of them and a list. -/
theorem statement_statements (k : ListStatements rules) (h : Spells rules s w)
    (hw : w.head? = some a) (ha : a ∈ acceptedStarts)
    (hf : trailing.Fits (.nonTerminal statements :: s)) :
    Spells rules ([.nonTerminal statement, .nonTerminal statements] ++ s) w := by
  have hne : ∀ b ∈ acceptedStarts, b ≠ closeBrace ∧ b ≠ .endMark := by decide
  exact (statement_cons k h hw (hne a ha) hf).back (s := [_]) fun _ => statements_cons k

/-- **Where no statement begins**, lists of statements spell nothing. -/
theorem vanish (k : ListStatements rules) {S : Starts} (hS : S.Closed rules)
    {lists : List Symbol} (h : Spells rules (lists ++ s) w)
    (hl : ∀ X ∈ lists, X ∈ statementLists) (hw : w.head? = some a)
    (ha : a ∉ S.first statement ∧ S.vanishes statement = false) : Spells rules s w := by
  generalize hu : lists ++ s = u at h
  -- Induction on the spelling, over all that is left of the lists.
  induction h generalizing lists with
  | nil =>
    obtain ⟨-, rfl⟩ := List.append_eq_nil_iff.1 hu
    exact .nil
  | @read u w b h _ =>
    rcases List.append_eq_cons_iff.1 hu with ⟨rfl, rfl⟩ | ⟨lists', rfl, -⟩
    · exact .read b h
    · exact absurd (hl _ List.mem_cons_self) (by simp [statementLists])
  | @expand r u w hr h ih =>
    rcases List.append_eq_cons_iff.1 hu with ⟨rfl, rfl⟩ | ⟨lists', rfl, rfl⟩
    · exact .expand hr h
    · have hl' : ∀ X ∈ lists', X ∈ statementLists := fun X hX => hl X (.tail _ hX)
      rcases k.bodies r hr (hl _ List.mem_cons_self) with hb | hb | hb
      · rw [hb] at h
        obtain ⟨v, rfl⟩ := List.head?_eq_some_iff.1 hw
        rcases Starts.mem_firsts_nonTerminal.1 (hS.mem_firsts h) with hfirst | ⟨hv, -⟩
        · exact absurd hfirst ha.1
        · rw [ha.2] at hv
          cases hv
      · rw [hb] at ih
        exact ih hl' hw rfl
      · rw [hb] at ih
        have hbody : ∀ X ∈ ([statements, blockRest] : List Symbol), X ∈ statementLists := by
          decide
        exact ih (fun X hX => (List.mem_append.1 hX).elim (hbody X) (hl' X)) hw
          (List.append_assoc ..)

/-- **The body picked under the next terminal** spells all that its non-terminal spells there. -/
theorem predicted {A : NonTerminal} {v : List Terminal}
    (h : Spells acceptedRules (.nonTerminal A :: s) (a :: v))
    (hf : trailing.Fits (.nonTerminal A :: s)) :
    ∃ body, Table.standard.body? A a = some body ∧ Spells acceptedRules (body ++ s) (a :: v) ∧
      trailing.Fits (body ++ s) := by
  have k := acceptedRules_listStatements
  obtain ⟨r, hr, rfl, hb⟩ := of_nonTerminal h
  have hfit := hf.append (trailing_closed.body r hr)
  rcases Starts.mem_firsts_append.1 (leading_closed.mem_firsts hb) with ha | ⟨hv, ha⟩
  · by_cases hid : r = .identifierStatement
    -- The table expands to the expression first, and then to the identifier.
    · subst hid
      obtain rfl : a = .identifier := List.mem_singleton.1 ha
      have hr : Rule.startingWith expression Terminal.identifier [.nonTerminal expressionRest] ∈
          acceptedRules := by
        decide
      exact ⟨[.nonTerminal expression, semicolon], by decide, .expand hr hb,
        hf.append (by decide)⟩
    · exact ⟨r.body, body?_of_mem_firsts r hr hid a ha, hb, hfit⟩
  · rcases body?_of_mem_follow r hr hv a (trailing_closed.mem_follow hf ha) with
      hp | ⟨hs, he, hstart, hp⟩ | ⟨rfl, he, hp⟩
    · exact ⟨r.body, hp, hb, hfit⟩
    · rw [he] at hb
      rw [hs] at hf hp ⊢
      exact ⟨_, hp, statement_statements k hb rfl hstart hf, hf.append (by decide)⟩
    · rw [he] at hb
      exact ⟨[], hp, hb.vanish k leading_closed (by decide) rfl (by decide), hf.tail⟩

end Spells

end Lookahead
