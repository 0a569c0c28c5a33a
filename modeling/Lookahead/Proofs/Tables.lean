import Lookahead.Grammar.Table
import Mathlib.Data.List.Nodup
import Mathlib.Data.Prod.Lex

/-!
# Tables and their views

A list of rules makes a table exactly if no cell is claimed twice, and all that can be asked of a
table is one and the same function: the body of a cell, the number of filled cells, the list of
them, and the lookaheads of a non-terminal.

* `cellLt_iff`: cells are ordered by a key, which tells them apart.
* `Table.ofRules?_eq_error_iff`: the first claim that repeats an earlier one is reported.
* `Table.pairwise_entries`, `Table.mem_entries`: the list of filled cells.
* `Table.views_agree`: all views of a table.
-/

namespace Lookahead

/-! ### The order of cells -/

theorem Terminal.rank_injective : Function.Injective Terminal.rank := fun a _ h =>
  (List.idxOf_inj (mem_all a)).1 h

theorem NonTerminal.rank_injective : Function.Injective NonTerminal.rank := fun A _ h =>
  (List.idxOf_inj (mem_all A)).1 h

/-- What a cell is ordered by. -/
def cellKey (c : Cell) : Nat ×ₗ Nat := toLex (c.1.rank, c.2.rank)

theorem cellKey_injective : Function.Injective cellKey := by
  rintro ⟨A, a⟩ ⟨B, b⟩ h
  obtain ⟨hA, ha⟩ := Prod.mk.inj (toLex.injective h)
  exact Prod.ext (NonTerminal.rank_injective hA) (Terminal.rank_injective ha)

theorem cellLt_iff (c d : Cell) : cellLt c d = true ↔ cellKey c < cellKey d := by
  simp [cellLt, cellKey, Prod.Lex.toLex_lt_toLex]

theorem not_cellLt_iff (c d : Cell) : (!cellLt d c) = true ↔ cellKey c ≤ cellKey d := by
  rw [Bool.not_eq_true', ← Bool.not_eq_true, cellLt_iff, not_lt]

namespace Cells

theorem perm_inOrder (cells : Cells) : cells.inOrder.Perm cells := List.mergeSort_perm _ _

/-- Cells that are not filled twice come in a strict order. -/
theorem pairwise_inOrder {cells : Cells} (h : cells.claimed.Nodup) :
    cells.inOrder.Pairwise fun d e => cellLt d.1 e.1 := by
  refine (pairwise_mergeSort_ne (fun d e f hde hef => ?_) (fun d e => ?_) h).imp ?_
  · rw [not_cellLt_iff] at hde hef ⊢
    exact hde.trans hef
  · rw [Bool.or_eq_true, not_cellLt_iff, not_cellLt_iff]
    exact le_total _ _
  · rintro d e ⟨hde, hne⟩
    rw [not_cellLt_iff] at hde
    rw [cellLt_iff]
    exact lt_of_le_of_ne hde fun hkey => hne (cellKey_injective hkey)

/-- The order of cells does not depend on the order they are given in. -/
theorem inOrder_eq_of_perm {cells others : Cells} (h : cells.claimed.Nodup)
    (hperm : others.Perm cells) : others.inOrder = cells.inOrder := by
  have h' : others.claimed.Nodup := (hperm.map Prod.fst).nodup_iff.2 h
  refine List.Perm.eq_of_pairwise (fun d e _ _ hde hed => ?_) (pairwise_inOrder h')
    (pairwise_inOrder h) (((perm_inOrder others).trans hperm).trans (perm_inOrder cells).symm)
  rw [cellLt_iff] at hde hed
  exact absurd hde hed.asymm

end Cells

namespace Table

variable {rules : List Rule}

/-- Rules make a table if their claims are pairwise distinct. -/
theorem exists_ofRules?_iff : (∃ T, ofRules? rules = .ok T) ↔ (claims rules).Nodup := by
  constructor
  · rintro ⟨T, hT⟩
    exact ofRules?_eq_ok_iff.1 hT ▸ T.distinct
  · exact fun h => ⟨⟨rules, h⟩, ofRules?_eq_ok_iff.2 rfl⟩

/-- **The cell that is reported** is the first that repeats an earlier claim. -/
theorem ofRules?_eq_error_iff {e : GrammarError} :
    ofRules? rules = .error e ↔ ∃ front c back, claims rules = front ++ c :: back ∧
      front.Nodup ∧ c ∈ front ∧ e = .conflict c := by
  rw [← Cells.ofRules?_eq_error_iff]
  unfold ofRules?
  split
  · next h =>
    refine ⟨nofun, fun he => ?_⟩
    rw [h] at he
    cases he
  · next h =>
    rw [h, Except.error.injEq, Except.error.injEq]

theorem mem_claims {c : Cell} : c ∈ claims rules ↔ ∃ r ∈ rules, c ∈ r.claims := List.mem_flatMap

/-- Only one rule claims a cell. -/
theorem filter_covers (h : (claims rules).Nodup) {r : Rule} (hr : r ∈ rules) {c : Cell}
    (hc : c ∈ r.claims) : rules.filter (·.covers c) = [r] := by
  induction rules with
  | nil => exact absurd hr List.not_mem_nil
  | cons s rules ih =>
    have h' : (s.claims ++ claims rules).Nodup := h
    obtain ⟨-, hrest, hsep⟩ := List.nodup_append.1 h'
    rcases List.mem_cons.1 hr with rfl | hr
    · have hnone : rules.filter (·.covers c) = [] := List.filter_eq_nil_iff.2 fun t ht hcovers =>
        hsep c hc c (mem_claims.2 ⟨t, ht, Rule.covers_iff.1 hcovers⟩) rfl
      rw [List.filter_cons, if_pos (Rule.covers_iff.2 hc), hnone]
    · have hs : ¬ s.covers c := fun hcovers =>
        hsep c (Rule.covers_iff.1 hcovers) c (mem_claims.2 ⟨r, hr, hc⟩) rfl
      rw [List.filter_cons, if_neg hs, ih hrest hr]

variable (T : Table) {A : NonTerminal} {a : Terminal} {body : List Symbol} {c : Cell}

/-- **A cell has the body of the one rule that claims it.** -/
theorem body?_eq_some_iff_filter : T.body? A a = some body ↔
    ∃ r, T.rules.filter (·.covers (A, a)) = [r] ∧ r.body = body := by
  rw [body?_eq_some_iff]
  constructor
  · exact fun ⟨r, hr, hc, hb⟩ => ⟨r, filter_covers T.distinct hr hc, hb⟩
  · rintro ⟨r, hr, hb⟩
    obtain ⟨hmem, hcovers⟩ := List.mem_filter.1 (hr ▸ List.mem_singleton_self r)
    exact ⟨r, hmem, Rule.covers_iff.1 hcovers, hb⟩

/-- A cell has no body if no rule claims it. -/
theorem body?_eq_none_iff : T.body? A a = none ↔ (A, a) ∉ claims T.rules := by
  rw [body?_eq_lookup, ← Option.not_isSome_iff_eq_none, Cells.lookup_isSome_iff, claimed_cells,
    List.mem_reverse]

theorem size_eq : T.size = (claims T.rules).length := by
  rw [size, cells, List.length_reverse, ← map_fst_fillings, List.length_map]

theorem mem_entries : (c, body) ∈ T.entries ↔ T.body? c.1 c.2 = some body := by
  rw [body?_eq_lookup, Cells.lookup_eq_some_iff T.nodup_claimed_cells]
  exact (Cells.perm_inOrder T.cells).mem_iff

theorem mem_claimed_entries : c ∈ T.entries.claimed ↔ c ∈ claims T.rules := by
  have hreverse : c ∈ claims T.rules ↔ c ∈ T.cells.claimed := by
    rw [claimed_cells, List.mem_reverse]
  rw [hreverse]
  exact ((Cells.perm_inOrder T.cells).map Prod.fst).mem_iff

/-- **The lookaheads of a non-terminal** are those under which it has a filled cell. -/
theorem expected_eq (A : NonTerminal) :
    T.expected A = Terminal.all.filter fun a => (A, a) ∈ T.entries.claimed := by
  refine List.filter_congr fun a _ => ?_
  rw [Bool.eq_iff_iff, Cells.lookup_isSome_iff, decide_eq_true_eq, mem_claimed_entries,
    claimed_cells, List.mem_reverse]

/-- **Tables are exact, and all views of a table agree.**  A list of rules makes a table exactly if
no cell is claimed twice, be it by one rule or for the same body; else the first claim that repeats
an earlier one is reported, in the order of rules and then of lookaheads.  The cells of the table are
those that were filled claim by claim, and what a cell was filled with is its body: that of the one
rule that claims it, and none if no rule does; the size is the number of claims; the list of filled
cells has each claimed cell with its body, in strictly increasing order, in whatever order the cells
are kept; and the lookaheads of a non-terminal are those of its filled cells, in the order of
terminals. -/
theorem views_agree (rules : List Rule) :
    ((∃ T, ofRules? rules = .ok T) ↔ (claims rules).Nodup) ∧
    (∀ e, ofRules? rules = .error e ↔ ∃ front c back, claims rules = front ++ c :: back ∧
      front.Nodup ∧ c ∈ front ∧ e = .conflict c) ∧
    ∀ T, ofRules? rules = .ok T →
      Cells.ofRules? rules = .ok T.cells ∧
      (∀ A a, T.body? A a = T.cells.lookup (A, a)) ∧
      (∀ A a body, T.body? A a = some body ↔
        ∃ r, rules.filter (·.covers (A, a)) = [r] ∧ r.body = body) ∧
      (∀ A a, T.body? A a = none ↔ (A, a) ∉ claims rules) ∧
      T.size = (claims rules).length ∧
      (∀ c body, (c, body) ∈ T.entries ↔ T.body? c.1 c.2 = some body) ∧
      (T.entries.Pairwise fun d e => cellLt d.1 e.1) ∧
      (∀ cells : Cells, cells.Perm T.cells → cells.inOrder = T.entries) ∧
      ∀ A, T.expected A = Terminal.all.filter fun a => (A, a) ∈ T.entries.claimed := by
  refine ⟨exists_ofRules?_iff, fun _ => ofRules?_eq_error_iff, fun T hT => ?_⟩
  obtain rfl := ofRules?_eq_ok_iff.1 hT
  exact ⟨T.ofRules?_rules, T.body?_eq_lookup, fun _ _ _ => T.body?_eq_some_iff_filter,
    fun _ _ => T.body?_eq_none_iff, T.size_eq, fun _ _ => T.mem_entries,
    Cells.pairwise_inOrder T.nodup_claimed_cells,
    fun _ => Cells.inOrder_eq_of_perm T.nodup_claimed_cells, T.expected_eq⟩

/-- The empty suffix, and a pair of brackets. -/
def suffixRules : List Rule :=
  [⟨.arraySuffix, [Delimiter.openBracket],
     [.terminal Delimiter.openBracket, .terminal Delimiter.closeBracket]⟩,
   ⟨.arraySuffix, [.identifier], []⟩]

/-- The table of suffixes, and the cell that is reported if its rules are given twice. -/
theorem views_agree_suffixRules :
    (∃ T, ofRules? suffixRules = .ok T ∧
      T.body? .arraySuffix Delimiter.openBracket =
        some [.terminal Delimiter.openBracket, .terminal Delimiter.closeBracket] ∧
      T.body? .arraySuffix Delimiter.semicolon = none ∧ T.size = 2 ∧
      Cells.ofRules? suffixRules = .ok T.cells ∧
      Cells.inOrder T.cells.reverse = T.entries) ∧
    ofRules? (suffixRules ++ suffixRules) =
      .error (.conflict (.arraySuffix, Delimiter.openBracket)) := by
  obtain ⟨hok, -, hviews⟩ := views_agree suffixRules
  obtain ⟨T, hT⟩ := hok.2 (by decide)
  obtain ⟨hcells, -, hbody, hnone, hsize, -, -, hperm, -⟩ := hviews T hT
  refine ⟨⟨T, hT, (hbody _ _ _).2 ⟨_, rfl, rfl⟩, (hnone _ _).2 (by decide), hsize, hcells,
    hperm _ (List.reverse_perm _)⟩, ?_⟩
  exact ((views_agree (suffixRules ++ suffixRules)).2.1 _).2
    ⟨claims suffixRules, _, _, rfl, by decide, by decide, rfl⟩

end Table

end Lookahead
