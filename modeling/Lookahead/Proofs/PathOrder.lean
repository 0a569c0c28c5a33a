import Lookahead.Files.Path
import Mathlib.Data.List.Lex
import Mathlib.Data.Prod.Lex
import Mathlib.Data.String.Basic

/-!
# The order of paths

Paths are ordered as lists of keys, one a part: the sort of the part, and its name if it has one.
So the order is linear but for different ways to write one path.

* `Path.le_iff`: a path does not come after another exactly if its keys do not.
* `Path.parts_eq_of_le`: paths neither of which comes after the other have the same parts.
-/

namespace Lookahead

namespace Path

namespace Part

/-- What a part is ordered by. -/
def key : Part → Nat ×ₗ String
  | root => toLex (0, "")
  | here => toLex (1, "")
  | parent => toLex (2, "")
  | name s => toLex (3, s)

theorem key_injective : Function.Injective key := by
  intro p q h
  cases p <;> cases q <;> simp_all [key]

theorem lt_iff (p q : Part) : p.lt q = true ↔ p.key < q.key := by
  cases p <;> cases q <;> simp [lt, rank, key, Prod.Lex.toLex_lt_toLex]

end Part

theorem partsLt_iff (ps qs : List Part) :
    partsLt ps qs = true ↔ ps.map Part.key < qs.map Part.key := by
  induction ps generalizing qs with
  | nil => cases qs <;> simp [partsLt]
  | cons p ps ih =>
    cases qs with
    | nil => simp [partsLt]
    | cons q qs =>
      simp [partsLt, List.cons_lt_cons_iff, Part.lt_iff, Part.key_injective.eq_iff, ih]

/-- What a path is ordered by. -/
def key (p : Path) : List (Nat ×ₗ String) := p.parts.map Part.key

theorem le_iff (p q : Path) : p.le q = true ↔ p.key ≤ q.key := by
  rw [le, Bool.not_eq_true', ← Bool.not_eq_true, lt, partsLt_iff, not_lt]
  rfl

theorem le_total (p q : Path) : (p.le q || q.le p) = true := by
  rw [Bool.or_eq_true, le_iff, le_iff]
  exact Std.le_total

theorem le_trans (p q r : Path) (hpq : p.le q = true) (hqr : q.le r = true) : p.le r = true := by
  rw [le_iff] at hpq hqr ⊢
  exact hpq.trans hqr

/-- Paths neither of which comes after the other are ways to write one path. -/
theorem parts_eq_of_le {p q : Path} (hpq : p.le q = true) (hqp : q.le p = true) :
    p.parts = q.parts := by
  rw [le_iff] at hpq hqp
  exact List.map_injective_iff.2 Part.key_injective (hpq.antisymm hqp)

end Path

end Lookahead
