import Lookahead.Grammar.Cells

/-!
# Parse tables

A predictive parse table holds at most one body a cell.  It is a list of rules that fill its cells
(`Cells.ofRules?`), so no two of them claim the same cell.

* `Table.ofRules?_eq_ok_iff`: a list of rules makes the table of these rules, or none.
* `Table.body?_eq_some_iff`: the body of a cell is that of the rule that claims it.
* `Table.body?_eq_lookup`: it is the body that the cell was filled with.
-/

namespace Lookahead

/-- A parse table: rules with pairwise distinct claims. -/
structure Table where
  rules : List Rule
  distinct : (claims rules).Nodup

namespace Table

/-- The table of a list of rules, unless a cell is claimed twice. -/
def ofRules? (rules : List Rule) : Except GrammarError Table :=
  match h : Cells.ofRules? rules with
  | .ok _ => .ok ⟨rules, (Cells.ofRules?_eq_ok_iff.1 h).2⟩
  | .error e => .error e

/-- The filled cells with their bodies. -/
def cells (T : Table) : Cells := (fillings T.rules).reverse

/-- The body to expand a non-terminal with under a lookahead. -/
def body? (T : Table) (A : NonTerminal) (a : Terminal) : Option (List Symbol) :=
  (T.rules.find? (·.covers (A, a))).map Rule.body

/-- The lookaheads under which a non-terminal can be expanded, in the order of terminals. -/
def expected (T : Table) (A : NonTerminal) : List Terminal :=
  let cells := T.cells
  Terminal.all.filter fun a => (cells.lookup (A, a)).isSome

/-- The filled cells with their bodies, in the order of cells. -/
def entries (T : Table) : Cells := T.cells.inOrder

/-- The number of filled cells. -/
def size (T : Table) : Nat := T.cells.length

theorem ofRules?_eq_ok_iff {rules : List Rule} {T : Table} :
    ofRules? rules = .ok T ↔ T.rules = rules := by
  unfold ofRules?
  constructor
  · intro h
    split at h
    · cases h
      rfl
    · cases h
  · rintro rfl
    split
    · rfl
    · next h =>
      rw [Cells.ofRules?_eq_ok_iff.2 ⟨rfl, T.distinct⟩] at h
      cases h

/-- The cells of a table are those that its rules fill. -/
theorem ofRules?_rules (T : Table) : Cells.ofRules? T.rules = .ok T.cells :=
  Cells.ofRules?_eq_ok_iff.2 ⟨rfl, T.distinct⟩

theorem claimed_cells (T : Table) : T.cells.claimed = (claims T.rules).reverse := by
  rw [cells, Cells.claimed, List.map_reverse, map_fst_fillings]

theorem nodup_claimed_cells (T : Table) : T.cells.claimed.Nodup := by
  rw [claimed_cells, (List.reverse_perm _).nodup_iff]
  exact T.distinct

theorem body?_eq_some_iff (T : Table) {A : NonTerminal} {a : Terminal} {body : List Symbol} :
    T.body? A a = some body ↔ ∃ r ∈ T.rules, (A, a) ∈ r.claims ∧ r.body = body := by
  obtain ⟨rules, hd⟩ := T
  simp only [body?, Option.map_eq_some_iff]
  induction rules with
  | nil => simp
  | cons r rules ih =>
    have hd' : (r.claims ++ claims rules).Nodup := hd
    have ⟨_, hd₂, hsep⟩ := List.nodup_append.1 hd'
    by_cases h : r.covers (A, a)
    · simp only [List.find?_cons, h, List.mem_cons]
      constructor
      · rintro ⟨_, ⟨⟩, rfl⟩
        exact ⟨r, .inl rfl, Rule.covers_iff.1 h, rfl⟩
      · rintro ⟨s, rfl | hs, hc, rfl⟩
        · exact ⟨s, rfl, rfl⟩
        · exact absurd rfl
            (hsep _ (Rule.covers_iff.1 h) _ (List.mem_flatMap.2 ⟨s, hs, hc⟩))
    · simp only [List.find?_cons, h, List.mem_cons]
      rw [ih hd₂]
      constructor
      · rintro ⟨s, hs, hc⟩
        exact ⟨s, .inr hs, hc⟩
      · rintro ⟨s, rfl | hs, hc⟩
        · exact absurd (Rule.covers_iff.2 hc.1) h
        · exact ⟨s, hs, hc⟩

/-- The body that is found among the rules is the one that its cell was filled with. -/
theorem body?_eq_lookup (T : Table) (A : NonTerminal) (a : Terminal) :
    T.body? A a = T.cells.lookup (A, a) := by
  refine Option.ext fun body => ?_
  rw [body?_eq_some_iff, Cells.lookup_eq_some_iff T.nodup_claimed_cells, cells, List.mem_reverse,
    mem_fillings]

end Table

end Lookahead
