import Lookahead.Entries
import Lookahead.Grammar.Rule

/-!
# Filling the cells of a table

A list of rules fills the cells that its rules claim with their bodies, rule by rule and lookahead
by lookahead.  A cell that is filled already is refused, whatever its body.

* `Cells.ofRules?_eq_ok_iff`: the cells are filled exactly if the claims are pairwise distinct.
* `Cells.ofRules?_eq_error_iff`: else the first claim that repeats an earlier one is refused.
-/

namespace Lookahead

/-- Filled cells with their bodies, latest first. -/
abbrev Cells := List (Cell × List Symbol)

/-- The order of cells: by non-terminal, and then by terminal. -/
def cellLt (c d : Cell) : Bool :=
  c.1.rank < d.1.rank || c.1.rank == d.1.rank && c.2.rank < d.2.rank

/-- The cells that a rule claims, with its body. -/
def Rule.fillings (r : Rule) : Cells := r.claims.map (·, r.body)

/-- The cells claimed by a list of rules with their bodies, in rule order and then lookahead
order. -/
def fillings (rules : List Rule) : Cells := rules.flatMap Rule.fillings

theorem map_fst_fillings (rules : List Rule) : (fillings rules).map Prod.fst = claims rules := by
  have hrule : ∀ r : Rule, r.fillings.map Prod.fst = r.claims := fun r => by
    rw [Rule.fillings, List.map_map]
    exact List.map_id _
  simp only [fillings, claims, List.map_flatMap, hrule]

theorem mem_fillings {rules : List Rule} {c : Cell} {body : List Symbol} :
    (c, body) ∈ fillings rules ↔ ∃ r ∈ rules, c ∈ r.claims ∧ r.body = body := by
  simp only [fillings, Rule.fillings, List.mem_flatMap, List.mem_map, Prod.mk.injEq]
  exact ⟨fun ⟨r, hr, _, hc, rfl, hb⟩ => ⟨r, hr, hc, hb⟩,
    fun ⟨r, hr, hc, hb⟩ => ⟨r, hr, c, hc, rfl, hb⟩⟩

namespace Cells

variable {cells filled : Cells} {c : Cell} {body : List Symbol}

/-- The cells without their bodies. -/
def claimed (cells : Cells) : List Cell := cells.map Prod.fst

theorem nodup_claimed_nil : (claimed []).Nodup := List.nodup_nil

/-- Filled cells in the order of cells. -/
def inOrder (cells : Cells) : Cells := cells.mergeSort fun d e => !cellLt e.1 d.1

theorem lookup_isSome_iff : (cells.lookup c).isSome ↔ c ∈ cells.claimed := by
  simp [List.lookup_isSome_iff, claimed]

/-- A cell has the body that it was filled with, if no cell was filled twice. -/
theorem lookup_eq_some_iff (h : cells.claimed.Nodup) :
    cells.lookup c = some body ↔ (c, body) ∈ cells := lookup_eq_some_iff_of_nodup h

/-- Fill a cell, which must be free. -/
def fill (cells : Cells) (c : Cell) (body : List Symbol) : Except GrammarError Cells :=
  if (cells.lookup c).isSome then .error (.conflict c) else .ok ((c, body) :: cells)

theorem fill_of_not_mem (h : c ∉ cells.claimed) : cells.fill c body = .ok ((c, body) :: cells) :=
  if_neg (mt lookup_isSome_iff.1 h)

theorem fill_of_mem (h : c ∈ cells.claimed) : cells.fill c body = .error (.conflict c) :=
  if_pos (lookup_isSome_iff.2 h)

/-- Fill the cells that a rule claims. -/
def fillRule (cells : Cells) (r : Rule) : Except GrammarError Cells :=
  r.claims.foldlM (fun cells c => fill cells c r.body) cells

/-- The cells that a list of rules fills, unless one of them is claimed twice. -/
def ofRules? (rules : List Rule) : Except GrammarError Cells := rules.foldlM fillRule []

/-- Fill cells one after the other. -/
def fillEach (es : Cells) (cells : Cells) : Except GrammarError Cells :=
  es.foldlM (fun cells e => fill cells e.1 e.2) cells

/-- Rule by rule, the claims of all rules are filled in their order. -/
theorem ofRules?_eq (rules : List Rule) : ofRules? rules = fillEach (fillings rules) [] := by
  have hrules : ∀ cells : Cells, rules.foldlM fillRule cells = fillEach (fillings rules) cells := by
    induction rules with
    | nil => exact fun _ => rfl
    | cons r rules ih =>
      intro cells
      have hrule : fillRule cells r = fillEach r.fillings cells := by
        rw [fillEach, Rule.fillings, List.foldlM_map]
        rfl
      rw [List.foldlM_cons, fillings, List.flatMap_cons, fillEach, List.foldlM_append, hrule]
      exact congrArg (fillEach r.fillings cells >>= ·) (funext ih)
  exact hrules []

/-- Filling succeeds if no cell is claimed that was filled before. -/
theorem fillEach_eq_ok_iff {es : Cells} (h : cells.claimed.Nodup) :
    fillEach es cells = .ok filled ↔ filled = es.reverse ++ cells ∧ filled.claimed.Nodup := by
  induction es generalizing cells with
  | nil =>
    refine ⟨?_, fun ⟨he, _⟩ => he ▸ rfl⟩
    rintro ⟨⟩
    exact ⟨rfl, h⟩
  | cons e es ih =>
    rw [fillEach, List.foldlM_cons, List.reverse_cons, List.append_assoc]
    by_cases he : e.1 ∈ cells.claimed
    · rw [fill_of_mem he]
      refine ⟨nofun, fun ⟨hf, hn⟩ => ?_⟩
      rw [hf, claimed, List.map_append, List.nodup_append] at hn
      exact absurd he (List.nodup_cons.1 hn.2.1).1
    · rw [fill_of_not_mem he]
      have h' : (claimed (e :: cells)).Nodup := List.nodup_cons.2 ⟨he, h⟩
      exact ih h'

/-- Filling fails at the first cell that was filled before. -/
theorem fillEach_eq_error_iff {es : Cells} {err : GrammarError} (h : cells.claimed.Nodup) :
    fillEach es cells = .error err ↔ ∃ front e back, es = front ++ e :: back ∧
      (claimed (front.reverse ++ cells)).Nodup ∧ e.1 ∈ claimed (front.reverse ++ cells) ∧
      err = .conflict e.1 := by
  induction es generalizing cells with
  | nil =>
    refine ⟨nofun, fun ⟨front, e, back, hes, _⟩ => ?_⟩
    exact absurd hes.symm (List.append_ne_nil_of_right_ne_nil front (List.cons_ne_nil e back))
  | cons e es ih =>
    have hnext : ∀ front : Cells, (e :: front).reverse ++ cells = front.reverse ++ e :: cells :=
      fun front => by rw [List.reverse_cons, List.append_assoc, List.singleton_append]
    rw [fillEach, List.foldlM_cons]
    by_cases he : e.1 ∈ cells.claimed
    · rw [fill_of_mem he]
      constructor
      · rintro ⟨⟩
        exact ⟨[], e, es, rfl, h, he, rfl⟩
      · rintro ⟨_ | ⟨x, front⟩, y, back, hes, hn, -, rfl⟩
        · obtain ⟨rfl, -⟩ := List.cons.inj hes
          rfl
        · obtain ⟨rfl, -⟩ := List.cons.inj hes
          rw [hnext, claimed, List.map_append, List.nodup_append] at hn
          exact absurd he (List.nodup_cons.1 hn.2.1).1
    · rw [fill_of_not_mem he]
      have h' : (claimed (e :: cells)).Nodup := List.nodup_cons.2 ⟨he, h⟩
      refine (ih h').trans ?_
      constructor
      · rintro ⟨front, y, back, rfl, hrest⟩
        exact ⟨e :: front, y, back, rfl, by rwa [hnext]⟩
      · rintro ⟨_ | ⟨x, front⟩, y, back, hes, hn, hy, rfl⟩
        · obtain ⟨rfl, -⟩ := List.cons.inj hes
          exact absurd hy he
        · obtain ⟨rfl, rfl⟩ := List.cons.inj hes
          rw [hnext] at hn hy
          exact ⟨front, y, back, rfl, hn, hy, rfl⟩

/-- **The cells are filled** if no cell is claimed twice. -/
theorem ofRules?_eq_ok_iff {rules : List Rule} :
    ofRules? rules = .ok filled ↔ filled = (fillings rules).reverse ∧ (claims rules).Nodup := by
  rw [ofRules?_eq, fillEach_eq_ok_iff nodup_claimed_nil, List.append_nil]
  refine and_congr_right fun hf => ?_
  rw [hf, claimed, List.map_reverse, map_fst_fillings, (List.reverse_perm _).nodup_iff]

/-- **A cell is refused** if it is the first that repeats an earlier claim. -/
theorem ofRules?_eq_error_iff {rules : List Rule} {err : GrammarError} :
    ofRules? rules = .error err ↔ ∃ front c back, claims rules = front ++ c :: back ∧
      front.Nodup ∧ c ∈ front ∧ err = .conflict c := by
  have hkeys : ∀ front : Cells, claimed (front.reverse ++ []) = (front.map Prod.fst).reverse :=
    fun front => by rw [List.append_nil, claimed, List.map_reverse]
  rw [ofRules?_eq, fillEach_eq_error_iff nodup_claimed_nil, ← map_fst_fillings]
  constructor
  · rintro ⟨front, e, back, hes, hn, he, rfl⟩
    rw [hkeys, (List.reverse_perm _).nodup_iff] at hn
    rw [hkeys, List.mem_reverse] at he
    refine ⟨front.map Prod.fst, e.1, back.map Prod.fst, ?_, hn, he, rfl⟩
    rw [hes, List.map_append, List.map_cons]
  · rintro ⟨_, _, _, hclaims, hn, he, rfl⟩
    obtain ⟨front, rest, hes, rfl, hrest⟩ := List.map_eq_append_iff.1 hclaims
    obtain ⟨e, back, rfl, rfl, -⟩ := List.map_eq_cons_iff.1 hrest
    rw [← (List.reverse_perm _).nodup_iff, ← hkeys] at hn
    rw [← List.mem_reverse, ← hkeys] at he
    exact ⟨front, e, back, hes, hn, he, rfl⟩

end Cells

end Lookahead
