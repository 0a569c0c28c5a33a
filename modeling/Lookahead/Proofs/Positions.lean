import Lookahead.Proofs.Counters
import Lookahead.Proofs.Newline
import Lookahead.Proofs.Partition
import Lookahead.Source

/-!
# Positions

The positions of a scan are those that a reader of the source counts: the bytes before, the newlines
before, and the characters behind the last of them (`Position.Ends`).  So the tokens of a source are
in order by line, and on one line by column (`Scan.positions_exact`).

* `Position.column_after`: columns count from the last newline.
* `Counters.shows_after`: 32 bits hold the line and the column of what is short enough.
-/

namespace Lookahead

open Piece Text

/-- Of two texts that one text begins with, the one of no more bytes is a part of the other. -/
theorem prefix_of_byteCount_le {as bs cs : List Char} (ha : as <+: cs) (hb : bs <+: cs)
    (h : byteCount as ≤ byteCount bs) : as <+: bs := by
  rcases List.prefix_or_prefix_of_prefix ha hb with hab | ⟨rest, rfl⟩
  · exact hab
  · have hrest : byteCount rest = 0 := by
      rw [byteCount_append] at h
      omega
    obtain rfl : rest = [] := Classical.byContradiction fun hne =>
      Nat.ne_of_gt (byteCount_pos hne) hrest
    exact ⟨[], by simp⟩

/-! ### Exact positions -/

namespace Position

/-- The position is where some front part of the source ends. -/
def Exact (p : Position) (source : String) : Prop :=
  ∃ before behind, source = before ++ behind ∧ p.Ends before

theorem exact_after {source : String} {as : List Char} (h : as <+: source.toList) :
    (start.after as).Exact source := by
  obtain ⟨bs, h⟩ := h
  refine ⟨String.ofList as, String.ofList bs, String.toList_injective (by simp [h]), ?_⟩
  have := ends_after (String.ofList as)
  rwa [String.toList_ofList] at this

end Position

/-! ### Tokens in order -/

theorem Placed.exact_of_mem {source : String} {q : Placed} (h : q ∈ ofText source.toList) :
    q.span.start.Exact source ∧ q.span.stop.Exact source := by
  obtain ⟨as, c, w, r, hcs, -, -, hspan⟩ := reads_of_mem source.toList .start q h
  rw [hspan]
  exact ⟨Position.exact_after ⟨_, hcs.symm⟩, Position.exact_after ⟨r, by simp [hcs]⟩⟩

namespace Scan

variable {detailed : Bool} {cs : List Char} {t : Token}

/-- A token takes a column for each of its characters, and no line. -/
theorem token_columns (h : t ∈ (ofChars detailed cs).tokens) :
    t.span.stop.line = t.span.start.line ∧
      t.span.start.column < t.span.stop.column := by
  obtain ⟨as, c, w, r, -, hreads, -, hspan⟩ := exists_of_mem_tokens h
  have hstop : t.span.stop = t.span.start.after (c :: w) := by
    rw [hspan, ← Position.after_append]
  have hline : t.span.stop.line = t.span.start.line := by
    rw [hstop, Position.line_after, List.count_eq_zero.2 hreads.token_text.1, Nat.add_zero]
  refine ⟨hline, ?_⟩
  rw [hstop] at hline ⊢
  rw [Position.column_after_of_line_eq hline, List.length_cons]
  omega

/-- Between a token and any later one lies a text, empty or not. -/
theorem pairwise_after (detailed : Bool) (cs : List Char) :
    (ofChars detailed cs).tokens.Pairwise fun a b =>
      ∃ mid, b.span.start = a.span.stop.after mid := by
  refine (pairwise_tokens detailed cs).imp_of_mem fun ha hb hab => ?_
  obtain ⟨as, c, w, r, hcs, -, -, ha⟩ := exists_of_mem_tokens ha
  obtain ⟨bs, d, v, s, hcs', -, -, hb⟩ := exists_of_mem_tokens hb
  have hle : byteCount (as ++ c :: w) ≤ byteCount bs := by
    rw [Span.Before, ha, hb, Position.offset_after, Position.offset_after] at hab
    exact Nat.le_of_add_le_add_left hab
  obtain ⟨mid, hmid⟩ := prefix_of_byteCount_le ⟨r, by rw [hcs]; simp⟩ ⟨_, hcs'.symm⟩ hle
  exact ⟨mid, by rw [ha, hb, ← Position.after_append, hmid]⟩

/-- Where the tokens and errors of a source are. -/
structure Located (s : Scan) (source : String) : Prop where
  tokens_exact : ∀ t ∈ s.tokens, t.span.start.Exact source ∧ t.span.stop.Exact source
  errors_exact : ∀ e ∈ s.errors, e.span.start.Exact source ∧ e.span.stop.Exact source
  lines_ordered : s.tokens.Pairwise fun a b => a.line ≤ b.line
  line_bounds : ∀ t ∈ s.tokens, 1 ≤ t.line ∧ t.line ≤ s.tally.lines
  one_line : ∀ t ∈ s.tokens, t.span.stop.line = t.span.start.line
  columns_ordered : s.tokens.Pairwise fun a b =>
    a.line = b.line → a.span.start.column < b.span.start.column

/-- **The positions of a scan are exact.**  So tokens are in order by line, and on one line by
column; each is on one line, and that is a line of the source. -/
theorem located (detailed : Bool) (source : String) :
    (ofSource detailed source).Located source where
  tokens_exact t ht := by
    obtain ⟨q, hq, ht⟩ := mem_tokens_iff.1 ht
    exact Placed.span_of_token? ht ▸ Placed.exact_of_mem hq
  errors_exact e he := by
    obtain ⟨q, hq, he⟩ := mem_errors_iff.1 he
    obtain ⟨hstart, hstop⟩ := Placed.exact_of_mem hq
    rcases Placed.span_of_error? he with h | h
    · exact h ▸ ⟨hstart, hstop⟩
    · exact h ▸ ⟨hstop, hstop⟩
  lines_ordered := (pairwise_after detailed source.toList).imp_of_mem fun ha _ hab => by
    obtain ⟨mid, hmid⟩ := hab
    rw [Token.line, Token.line, hmid, Position.line_after, (token_columns ha).1]
    exact Nat.le_add_right _ _
  line_bounds t ht := by
    exact Scan.line_bounds ht
  one_line t ht := (token_columns ht).1
  columns_ordered := (pairwise_after detailed source.toList).imp_of_mem fun ha _ hab hline => by
    obtain ⟨mid, hmid⟩ := hab
    obtain ⟨hstop, hlt⟩ := token_columns ha
    -- between the two there is no newline
    rw [Token.line, Token.line, ← hstop, hmid] at hline
    rw [hmid, Position.column_after_of_line_eq hline.symm]
    exact Nat.lt_add_right _ hlt

/-- **The positions of a scan are exact, and 32 bits hold them.**  For a source within the size
limit, counters of 32 bits show the line and the column at the end of every front part of it, and so
those of all positions that tokens and errors have. -/
theorem positions_exact (detailed : Bool) {source : String}
    (hsize : source.utf8ByteSize ≤ Source.sizeLimit) :
    (ofSource detailed source).Located source ∧
      ∀ (before behind : String) (p : Position), source = before ++ behind → p.Ends before →
        (Counters.start.after before.toList).Shows p := by
  refine ⟨located detailed source, Counters.count_of_lt ?_⟩
  rw [Source.sizeLimit] at hsize
  rw [UInt32.size]
  omega

/-- Where tokens begin, behind a comment of two lines, and behind a carriage return. -/
theorem positions_exact_comment :
    let source := "é /*\n*/ x\r\n;"
    source.utf8ByteSize ≤ Source.sizeLimit ∧ (ofSource false source).Located source ∧
    (∀ (before behind : String) (p : Position), source = before ++ behind → p.Ends before →
      (Counters.start.after before.toList).Shows p) ∧
    (ofSource false source).tokens.map (·.span.start) = [⟨0, 1, 1⟩, ⟨9, 2, 4⟩, ⟨12, 3, 1⟩] := by
  intro source
  have hsize : source.utf8ByteSize ≤ Source.sizeLimit := by decide +kernel
  obtain ⟨hlocated, hshows⟩ := positions_exact false hsize
  exact ⟨hsize, hlocated, hshows, by decide +kernel⟩

end Scan

end Lookahead
