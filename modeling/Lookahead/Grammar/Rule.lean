import Lookahead.Grammar.Symbol

/-!
# Rules

A rule puts a right-hand side in the place of a non-terminal, and lists the lookaheads under which a
predictive parser picks it.  A rule *claims* the cells it is picked in: pairs of its left-hand side
with one of its lookaheads.
-/

namespace Lookahead

/-- A cell of a parse table: a non-terminal on top of the stack and the next input terminal. -/
abbrev Cell := NonTerminal × Terminal

/-- A cell as it is shown. -/
def cellText (c : Cell) : String := s!"M[{c.1.text}, {c.2.text}]"

/-- A grammar rule with the lookaheads that predict it. -/
structure Rule where
  lhs : NonTerminal
  lookaheads : List Terminal
  body : List Symbol
deriving DecidableEq, Repr

namespace Rule

/-- The cells a rule is picked in. -/
def claims (r : Rule) : List Cell := r.lookaheads.map (r.lhs, ·)

/-- The rule is picked in this cell. -/
def covers (r : Rule) (c : Cell) : Bool := r.lhs == c.1 && r.lookaheads.contains c.2

theorem mem_claims {r : Rule} {c : Cell} : c ∈ r.claims ↔ r.lhs = c.1 ∧ c.2 ∈ r.lookaheads := by
  obtain ⟨A, a⟩ := c
  simp only [claims, List.mem_map, Prod.mk.injEq]
  exact ⟨fun ⟨_, hb, hA, h⟩ => ⟨hA, h ▸ hb⟩, fun ⟨hA, hb⟩ => ⟨a, hb, hA, rfl⟩⟩

theorem covers_iff {r : Rule} {c : Cell} : r.covers c ↔ c ∈ r.claims := by
  simp [covers, mem_claims]

/-- The right-hand side as it is shown. -/
def bodyText (r : Rule) : String := Lookahead.bodyText r.body

end Rule

/-- The cells claimed by a list of rules, in rule order and then lookahead order. -/
def claims (rules : List Rule) : List Cell := rules.flatMap Rule.claims

/-- No cell is claimed twice if no rule has a lookahead twice, and no two rules of a non-terminal
have one in common. -/
theorem nodup_claims {rules : List Rule} (h : ∀ r ∈ rules, r.lookaheads.Nodup)
    (hpairs : rules.Pairwise fun r s => r.lhs = s.lhs → ∀ a ∈ r.lookaheads, a ∉ s.lookaheads) :
    (claims rules).Nodup := by
  refine List.pairwise_flatMap.2 ⟨fun r hr => ?_, hpairs.imp fun {r s} hrs => ?_⟩
  · exact List.pairwise_map.2 ((h r hr).imp fun hne heq => hne (congrArg Prod.snd heq))
  · rintro c hc _ hd rfl
    obtain ⟨hlhs, ha⟩ := Rule.mem_claims.1 hc
    obtain ⟨hlhs', ha'⟩ := Rule.mem_claims.1 hd
    exact hrs (hlhs.trans hlhs'.symm) _ ha ha'

/-- What is wrong with a list of rules. -/
inductive GrammarError where
  /-- Two rules claim the cell, or one rule claims it twice. -/
  | conflict (cell : Cell)
  /-- The body predicted in the cell cannot begin with the cell's lookahead. -/
  | inconsistent (cell : Cell) (body : String)
deriving DecidableEq, Repr

namespace GrammarError

/-- The cell at fault. -/
def cell : GrammarError → Cell
  | conflict c => c
  | inconsistent c _ => c

/-- The wording of a grammar error. -/
def message : GrammarError → String
  | conflict c => s!"Parse table conflict: {cellText c} has more than one production"
  | inconsistent c body =>
    s!"Parse table entry {cellText c} -> {body} cannot begin with '{c.2.text}'"

end GrammarError

end Lookahead
