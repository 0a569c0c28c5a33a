import Lookahead.Proofs.Scanning

/-!
# Where pieces stand

A placed piece is a part of the source, read by one of the lexical rules, and its span reaches from
the position behind the text before it to the position behind itself (`Placed.reads_of_mem`).
Tokens and errors are such pieces (`Scan.exists_of_mem_tokens`, `Scan.exists_of_mem_errors`), and
tokens are on lines of the source (`Scan.line_bounds`).

* `Position.line_after`: a line for every newline.
* `Text.count_lt_lineCount`: what stands behind some newlines stands on a line of the text.
-/

namespace Lookahead

open Piece Text

theorem Position.line_after (p : Position) (cs : List Char) :
    (p.after cs).line = p.line + cs.count '\n' := by
  induction cs generalizing p with
  | nil => rfl
  | cons c cs ih =>
    rw [after_cons, ih, step]
    by_cases hc : c = '\n'
    · subst hc; simp [Nat.add_comm, Nat.add_left_comm]
    · simp [hc]

namespace Text

theorem fst_foldl_countLine (cs : List Char) (n : Nat) (b : Bool) :
    (cs.foldl countLine (n, b)).1 = n + cs.count '\n' := by
  induction cs generalizing n b with
  | nil => rfl
  | cons c cs ih =>
    rw [List.foldl_cons, countLine]
    by_cases hc : c = '\n'
    · rw [if_pos hc, ih, hc, List.count_cons_self, Nat.add_right_comm, Nat.add_assoc]
    · rw [if_neg hc, ih, List.count_cons_of_ne hc]

theorem count_lt_lineCount (as : List Char) {bs : List Char} (h : bs ≠ []) :
    as.count '\n' < lineCount (as ++ bs) := by
  have hended := fst_foldl_countLine as 0 false
  rw [lineCount, List.foldl_append]
  rcases hfold : as.foldl countLine (0, false) with ⟨n, begun⟩
  rw [hfold, Nat.zero_add] at hended
  by_cases hline : '\n' ∈ bs
  · have hbehind := fst_foldl_countLine bs n begun
    have hpos := List.count_pos_iff.2 hline
    dsimp only
    split <;> omega
  · rw [foldl_countLine_of_ne hline]
    simp [h]
    omega

end Text

/-- **A placed piece is read by one of the rules**, where the text before it ends. -/
theorem Placed.reads_of_mem (cs : List Char) : ∀ p : Position, ∀ q ∈ placeFrom [] p (cut cs),
    ∃ as c w r, cs = as ++ c :: (w ++ r) ∧ Reads q.piece.kind c w r ∧ q.piece.chars = c :: w ∧
      q.span = ⟨p.after as, p.after (as ++ c :: w)⟩ := by
  refine reads_induction (P := fun cs ps => ∀ p : Position, ∀ q ∈ placeFrom [] p ps,
    ∃ as c w r, cs = as ++ c :: (w ++ r) ∧ Reads q.piece.kind c w r ∧ q.piece.chars = c :: w ∧
      q.span = ⟨p.after as, p.after (as ++ c :: w)⟩)
    (fun p q hq => (List.not_mem_nil hq).elim) (fun k c w r h ih p q hq => ?_) cs
  rw [placeFrom_cons] at hq
  rcases List.mem_cons.1 hq with rfl | hq
  · exact ⟨[], c, w, r, rfl, h, rfl, rfl⟩
  · obtain ⟨as, d, v, s, rfl, hreads, hchars, hspan⟩ := ih _ q hq
    refine ⟨c :: w ++ as, d, v, s, by simp, hreads, hchars, ?_⟩
    rw [hspan, ← Position.after_append, ← Position.after_append, List.append_assoc]

namespace Scan

variable {detailed : Bool} {cs : List Char}

/-- A token is a piece of the source. -/
theorem exists_of_mem_tokens {t : Token} (h : t ∈ (ofChars detailed cs).tokens) :
    ∃ as c w r, cs = as ++ c :: (w ++ r) ∧ Reads (.token t.category t.kind) c w r ∧
      t.lexeme = String.ofList (c :: w) ∧
        t.span = ⟨Position.start.after as, Position.start.after (as ++ c :: w)⟩ := by
  obtain ⟨q, hq, ht⟩ := mem_tokens_iff.1 h
  obtain ⟨as, c, w, r, hcs, hreads, hchars, hspan⟩ := Placed.reads_of_mem cs .start q hq
  unfold Placed.token? at ht
  split at ht
  · next hkind =>
    cases ht
    exact ⟨as, c, w, r, hcs, hkind ▸ hreads, congrArg String.ofList hchars, hspan⟩
  · cases ht

/-- The line of a token is one of the source. -/
theorem line_bounds {t : Token} (h : t ∈ (ofChars detailed cs).tokens) :
    1 ≤ t.line ∧ t.line ≤ lineCount cs := by
  obtain ⟨as, c, w, r, rfl, -, -, hspan⟩ := exists_of_mem_tokens h
  have hline : t.line = 1 + as.count '\n' := by
    rw [Token.line, hspan]
    exact Position.line_after .start as
  have hlt := count_lt_lineCount as (List.cons_ne_nil c (w ++ r))
  omega

/-- An error is a piece of the source; of a comment left open it shows the first two characters. -/
theorem exists_of_mem_errors {e : LexicalError} (h : e ∈ (ofChars detailed cs).errors) :
    ∃ as c w r, cs = as ++ c :: (w ++ r) ∧ Reads (.fault e.kind) c w r ∧
      (e.kind ≠ .unterminatedComment ∧ e.lexeme = String.ofList (c :: w) ∨
        e.kind = .unterminatedComment ∧ e.lexeme = "/*") := by
  obtain ⟨q, hq, he⟩ := mem_errors_iff.1 h
  obtain ⟨as, c, w, r, hcs, hreads, hchars, -⟩ := Placed.reads_of_mem cs .start q hq
  unfold Placed.error? at he
  split at he
  · next hkind =>
    cases he
    exact ⟨as, c, w, r, hcs, hkind ▸ hreads, .inr ⟨rfl, rfl⟩⟩
  · next hne hkind =>
    cases he
    exact ⟨as, c, w, r, hcs, hkind ▸ hreads, .inl ⟨hne, congrArg String.ofList hchars⟩⟩
  · cases he

end Scan

end Lookahead
