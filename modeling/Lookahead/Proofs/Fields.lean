import Lookahead.Proofs.LexicalRules
import Lookahead.Text.Decimal
import Lookahead.Text.Line

/-!
# Lines and fields read back

Texts that are put together from lines, fields and numbers give them back when they are cut at line
ends (`lines_flatMap`), at blanks (`fields_cons`) and read as decimals (`readNat?_toDigits`).
-/

namespace Lookahead.Text

/-! ### Lines -/

theorem linesFrom_flatMap (done : List (List Char)) {ls : List (List Char)}
    (h : ∀ l ∈ ls, '\n' ∉ l) :
    linesFrom done (ls.flatMap (· ++ ['\n'])) = done.reverse ++ ls.map dropReturn := by
  induction ls generalizing done with
  | nil => simp [linesFrom]
  | cons l ls ih =>
    obtain ⟨hl, hls⟩ := List.forall_mem_cons.1 h
    have hall : ∀ c ∈ l, (c != '\n') := fun c hc => bne_iff_ne.2 (ne_of_mem_of_not_mem hc hl)
    have hmem : '\n' ∈ (l :: ls).flatMap (· ++ ['\n']) := by simp
    have hcut : (l :: ls).flatMap (· ++ ['\n']) = l ++ '\n' :: ls.flatMap (· ++ ['\n']) := by simp
    rw [linesFrom, dif_pos hmem, hcut, takeWhile_eq hall (stops_cons.2 rfl),
      List.dropWhile_append_of_pos hall, List.dropWhile_cons_of_neg (by decide), List.tail_cons,
      ih _ hls]
    simp

/-- A text made of lines, each behind it a newline, has these lines. -/
theorem lines_flatMap {ls : List (List Char)} (h : ∀ l ∈ ls, '\n' ∉ l) :
    lines (ls.flatMap (· ++ ['\n'])) = ls.map dropReturn :=
  linesFrom_flatMap [] h

/-! ### Blanks at the ends -/

/-- A text with no blank at either end. -/
theorem trimBlanks_eq {cs : List Char} (hfirst : Stops isBlank cs)
    (hlast : Stops isBlank cs.reverse) : trimBlanks cs = cs := by
  rw [trimBlanks, dropWhile_eq hfirst, dropWhile_eq hlast, List.reverse_reverse]

theorem trimBlanks_concat (cs : List Char) {c : Char} (hc : isBlank c) :
    trimBlanks (cs ++ [c]) = trimBlanks cs := by
  rw [trimBlanks, trimBlanks, List.dropWhile_append, List.dropWhile_cons_of_pos hc]
  split
  · next h => rw [List.isEmpty_iff.1 h]; rfl
  · rw [List.reverse_concat, List.dropWhile_cons_of_pos hc]

/-- The return of a line end is a blank like others. -/
theorem trimBlanks_dropReturn (cs : List Char) : trimBlanks (dropReturn cs) = trimBlanks cs := by
  rw [dropReturn]
  split
  · next h =>
    obtain ⟨init, rfl⟩ := List.getLast?_eq_some_iff.1 h
    rw [List.dropLast_concat, trimBlanks_concat _ rfl]
  · rfl

/-- A trimmed text begins like the text from its first character that is no blank on. -/
theorem trimBlanks_isPrefix (cs : List Char) : trimBlanks cs <+: cs.dropWhile isBlank := by
  rw [trimBlanks, ← List.reverse_suffix, List.reverse_reverse]
  exact List.dropWhile_suffix _

/-! ### Fields -/

theorem fieldsFrom_eq (field : List Char) (done : List (List Char)) (cs : List Char) :
    fieldsFrom field done cs = done.reverse ++ fieldsFrom field [] cs := by
  induction cs generalizing field done with
  | nil => simp only [fieldsFrom]; split <;> simp
  | cons c cs ih =>
    simp only [fieldsFrom]
    split
    · split
      · exact ih _ _
      · rw [ih _ (_ :: done), ih _ [_], List.reverse_cons, List.append_assoc]
        rfl
    · exact ih _ _

theorem fieldsFrom_append {w : List Char} (hw : ∀ c ∈ w, isBlank c = false) (field : List Char)
    (done : List (List Char)) (cs : List Char) :
    fieldsFrom field done (w ++ cs) = fieldsFrom (w.reverse ++ field) done cs := by
  induction w generalizing field with
  | nil => rfl
  | cons c w ih =>
    obtain ⟨hc, hw⟩ := List.forall_mem_cons.1 hw
    rw [List.cons_append, fieldsFrom, if_neg (Bool.eq_false_iff.1 hc), ih hw, List.reverse_cons,
      List.append_assoc]
    rfl

/-- A field at the front, up to a blank. -/
theorem fields_cons {w : List Char} (hne : w ≠ []) (hw : ∀ c ∈ w, isBlank c = false) {b : Char}
    (hb : isBlank b) (cs : List Char) : fields (w ++ b :: cs) = w :: fields cs := by
  rw [fields, fieldsFrom_append hw, fieldsFrom, if_pos hb, fieldsFrom_eq]
  simp [hne, fields]

/-- Blanks at the front are in no field. -/
theorem fields_blanks {bs : List Char} (hbs : ∀ b ∈ bs, isBlank b) (cs : List Char) :
    fields (bs ++ cs) = fields cs := by
  induction bs with
  | nil => rfl
  | cons b bs ih =>
    obtain ⟨hb, hbs⟩ := List.forall_mem_cons.1 hbs
    rw [List.cons_append, fields, fieldsFrom, if_pos hb]
    exact ih hbs

theorem fieldsFrom_ne_nil {field : List Char} {done : List (List Char)} {cs : List Char}
    (h : done ≠ [] ∨ field ≠ [] ∨ ∃ c ∈ cs, isBlank c = false) : fieldsFrom field done cs ≠ [] := by
  induction cs generalizing field done with
  | nil =>
    rw [fieldsFrom]
    split
    · next hempty => simpa [List.isEmpty_iff.1 hempty] using h
    · simp
  | cons c cs ih =>
    rw [fieldsFrom]
    split
    · next hblank =>
      refine ih ?_
      split
      · next hempty =>
        simp [List.isEmpty_iff.1 hempty, hblank] at h
        simpa using h
      · exact .inl (List.cons_ne_nil _ _)
    · exact ih (.inr (.inl (List.cons_ne_nil _ _)))

/-- A text that is not all blanks has a field. -/
theorem fields_ne_nil {cs : List Char} {c : Char} (hc : c ∈ cs) (h : isBlank c = false) :
    fields cs ≠ [] :=
  fieldsFrom_ne_nil (.inr (.inr ⟨c, hc, h⟩))

/-! ### Numbers -/

theorem isDigit_of_mem_toDigits {n : Nat} {c : Char} (h : c ∈ Nat.toDigits 10 n) : isDigit c := by
  have := Nat.isDigit_of_mem_toDigits (by decide) (by decide) h
  simpa [Char.isDigit, isDigit, Char.le_def] using this

/-- A number that is not too great is read as it was written. -/
theorem readNat?_toDigits {greatest n : Nat} (h : n ≤ greatest) :
    readNat? greatest (Nat.toDigits 10 n) = some n := by
  have hvalue : digitsValue (Nat.toDigits 10 n) = n :=
    Nat.ofDigitChars_toDigits (by decide) (by decide)
  have hplus : dropPlus (Nat.toDigits 10 n) = Nat.toDigits 10 n := by
    unfold dropPlus
    split
    · next heq =>
      exact absurd (isDigit_of_mem_toDigits (heq ▸ List.mem_cons_self)) (by decide)
    · rfl
  have hall : (Nat.toDigits 10 n).all isDigit :=
    List.all_eq_true.2 fun c hc => isDigit_of_mem_toDigits hc
  have hmin : min (greatest + 1) n = n := Nat.min_eq_right (Nat.le_succ_of_le h)
  simp [readNat?, hplus, digitsUpTo_eq, hvalue, hall, hmin, h,
    Nat.toDigits_ne_nil]

end Lookahead.Text
