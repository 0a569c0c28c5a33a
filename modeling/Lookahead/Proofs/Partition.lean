import Lookahead.Proofs.Scanning
import Lookahead.Proofs.Slices

/-!
# A scan parts its source

Tokens and errors mark stretches of the source (`Scan.extents`).  Between them stands nothing but
white space and comments (`Gap`): marked and unmarked stretches in a row are the source (`Tiled`),
and every span cuts its lexeme out of it.

* `tiled_placeFrom`: pieces laid out from a position on tile their text.
* `errors_placeFrom`: an unclosed comment is the last of the errors.
* `Scan.partitions_source`: the whole of it, for every source.
-/

namespace Lookahead

open Piece Text

/-! ### Gaps and extents -/

/-- White space and closed comments; `behind` is what the source goes on with. -/
inductive Gap : List Char → List Char → Prop
  | nil {behind : List Char} : Gap [] behind
  | blank {c : Char} {t behind : List Char} (hc : isBlank c) (ht : Gap t behind) :
    Gap (c :: t) behind
  /-- A line comment reaches to a newline, or to the end of the source. -/
  | lineComment {body t behind : List Char} (hbody : '\n' ∉ body)
    (hstop : Stops (· != '\n') (t ++ behind)) (ht : Gap t behind) :
    Gap ('/' :: '/' :: body ++ t) behind
  /-- A block comment reaches to the first `*/` behind its opening. -/
  | blockComment {body t behind : List Char} (hbody : NoClose body) (ht : Gap t behind) :
    Gap ('/' :: '*' :: (body ++ ['*', '/']) ++ t) behind

/-- A lexeme and where it stands, be it a token's or an error's. -/
structure Extent where
  lexeme : String
  span : Span
deriving DecidableEq, Repr

/-- The text of a source from the byte offset `p` on is gaps and the given extents by turns.  It is
`unclosed` if the last gap ends with a comment that nothing closes. -/
inductive Tiled : Nat → List Char → List Extent → (unclosed : Bool) → Prop
  | last {p : Nat} {gap : List Char} (hgap : Gap gap []) : Tiled p gap [] false
  | unclosed {p : Nat} {gap body : List Char} (hgap : Gap gap ('/' :: '*' :: body))
    (hbody : NoClose body) : Tiled p (gap ++ '/' :: '*' :: body) [] true
  | more {p : Nat} {gap cs : List Char} {e : Extent} {es : List Extent} {unclosed : Bool}
    (hgap : Gap gap (e.lexeme.toList ++ cs)) (hne : e.lexeme.toList ≠ [])
    (hstart : e.span.start.offset = p + byteCount gap)
    (hstop : e.span.stop.offset = e.span.start.offset + byteCount e.lexeme.toList)
    (hrest : Tiled e.span.stop.offset cs es unclosed) :
    Tiled p (gap ++ (e.lexeme.toList ++ cs)) (e :: es) unclosed

namespace Tiled

/-- What stands before a text and makes its first gap longer. -/
theorem prepend {g cs : List Char} {p q : Nat} {es : List Extent} {unclosed : Bool}
    (hg : ∀ t behind, t ++ behind = cs → Gap t behind → Gap (g ++ t) behind)
    (hq : q = p + byteCount g) (h : Tiled q cs es unclosed) : Tiled p (g ++ cs) es unclosed := by
  cases h with
  | last hgap => exact .last (hg _ _ (List.append_nil _) hgap)
  | unclosed hgap hbody =>
    rw [← List.append_assoc]
    exact .unclosed (hg _ _ rfl hgap) hbody
  | more hgap hne hstart hstop hrest =>
    rw [← List.append_assoc]
    refine .more (hg _ _ rfl hgap) hne ?_ hstop hrest
    rw [hstart, hq, byteCount_append, Nat.add_assoc]

/-- A marked stretch before a text. -/
theorem mark {p : Position} {w cs : List Char} {es : List Extent} {unclosed : Bool} (hw : w ≠ [])
    (h : Tiled (p.after w).offset cs es unclosed) :
    Tiled p.offset (w ++ cs) (⟨String.ofList w, ⟨p, p.after w⟩⟩ :: es) unclosed := by
  have hlist : (String.ofList w).toList = w := String.toList_ofList
  have hmore : Tiled p.offset ([] ++ ((String.ofList w).toList ++ cs))
      (⟨String.ofList w, ⟨p, p.after w⟩⟩ :: es) unclosed :=
    .more (e := ⟨String.ofList w, ⟨p, p.after w⟩⟩) .nil (by rwa [hlist]) rfl
      (by rw [hlist]; exact p.offset_after w) h
  rwa [hlist] at hmore

/-- A marked stretch is a part of the text, as long as its lexeme. -/
theorem exists_parts {p : Nat} {cs : List Char} {es : List Extent} {unclosed : Bool}
    (h : Tiled p cs es unclosed) {e : Extent} (he : e ∈ es) :
    e.lexeme.toList ≠ [] ∧ ∃ as bs, cs = as ++ e.lexeme.toList ++ bs ∧
      e.span.start.offset = p + byteCount as ∧
        e.span.stop.offset = p + byteCount (as ++ e.lexeme.toList) := by
  induction h with
  | last | unclosed => cases he
  | @more p gap cs d es _ _ hne hstart hstop _ ih =>
    rcases List.mem_cons.1 he with rfl | he
    · refine ⟨hne, gap, cs, (List.append_assoc ..).symm, hstart, ?_⟩
      rw [hstop, hstart, byteCount_append, Nat.add_assoc]
    · obtain ⟨hne, as, bs, rfl, h₁, h₂⟩ := ih he
      refine ⟨hne, gap ++ (d.lexeme.toList ++ as), bs, by simp, ?_, ?_⟩
      · rw [h₁, hstop, hstart, byteCount_append, byteCount_append]; omega
      · rw [h₂, hstop, hstart]; simp only [byteCount_append]; omega

theorem start_lt_stop {p : Nat} {cs : List Char} {es : List Extent} {unclosed : Bool}
    (h : Tiled p cs es unclosed) {e : Extent} (he : e ∈ es) :
    e.span.start.offset < e.span.stop.offset := by
  obtain ⟨hne, as, -, -, hstart, hstop⟩ := h.exists_parts he
  have := byteCount_pos hne
  rw [hstart, hstop, byteCount_append]
  omega

end Tiled

/-! ### Pieces in their places -/

/-- The piece is a comment that nothing closes. -/
def Piece.isOpen (p : Piece) : Bool := p.kind == .fault .unterminatedComment

namespace Placed

/-- The stretch that a placed piece marks, if it is a token or an error of its own text. -/
def extent? (p : Placed) : Option Extent :=
  match p.piece.kind with
  | .token _ _ | .fault .invalidLexeme | .fault .unterminatedString =>
    some ⟨String.ofList p.piece.chars, p.span⟩
  | _ => none

/-- **Pieces laid out from a position on tile their text.** -/
theorem tiled_placeFrom (cs : List Char) : ∀ p : Position,
    Tiled p.offset cs ((placeFrom [] p (cut cs)).filterMap extent?) ((cut cs).any isOpen) := by
  refine reads_induction (P := fun cs ps => ∀ p : Position,
    Tiled p.offset cs ((placeFrom [] p ps).filterMap extent?) (ps.any isOpen))
    (fun p => .last .nil) (fun k c w r h ih p => ?_) cs
  have hrest := ih (p.after (c :: w))
  rw [placeFrom_cons, List.any_cons]
  -- Blanks and comments make the gap before the rest longer; any other piece is marked.
  cases h with
  | blank hc =>
    exact hrest.prepend (g := [c]) (fun t behind _ ht => .blank hc ht) (p.offset_after _)
  | @lineComment body _ hbody hstop =>
    exact hrest.prepend (g := '/' :: '/' :: body)
      (fun t behind hcs ht => .lineComment hbody (hcs ▸ hstop) ht) (p.offset_after _)
  | @blockComment body _ hbody =>
    exact hrest.prepend (g := '/' :: '*' :: (body ++ ['*', '/']))
      (fun t behind _ ht => .blockComment hbody ht) (p.offset_after _)
  | @openComment body hbody =>
    rw [List.append_nil, cut_nil]
    exact (.unclosed .nil hbody : Tiled p.offset ([] ++ '/' :: '*' :: body) [] true)
  | _ => exact hrest.mark (List.cons_ne_nil _ _)

/-- An unclosed comment is the last of the errors, and stands at the end of the text. -/
theorem errors_placeFrom (cs : List Char) : ∀ p : Position,
    (placeFrom [] p (cut cs)).filterMap error? =
      ((placeFrom [] p (cut cs)).filterMap error?).filter (·.kind != .unterminatedComment) ++
        if (cut cs).any isOpen then [⟨.unterminatedComment, "/*", ⟨p.after cs, p.after cs⟩⟩]
        else [] := by
  refine reads_induction (P := fun cs ps => ∀ p : Position, (placeFrom [] p ps).filterMap error? =
    ((placeFrom [] p ps).filterMap error?).filter (·.kind != .unterminatedComment) ++
      if ps.any isOpen then [⟨.unterminatedComment, "/*", ⟨p.after cs, p.after cs⟩⟩] else [])
    (fun p => rfl) (fun k c w r h ih p => ?_) cs
  have hrest := ih (p.after (c :: w))
  rw [← Position.after_append] at hrest
  rw [placeFrom_cons, List.any_cons]
  -- Nothing is left behind an open comment; before one, errors are kept as they are.
  cases h with
  | openComment hbody => simp [placeFrom, error?, isOpen]
  | openString | invalid => exact congrArg (List.cons _) hrest
  | _ => exact hrest

end Placed

/-- One span ends before another one begins. -/
def Span.Before (a b : Span) : Prop := a.stop.offset ≤ b.start.offset

namespace Placed

/-- A piece stands behind all pieces before it. -/
theorem pairwise_placeFrom (ps : List Piece) (p : Position) :
    (∀ q ∈ placeFrom [] p ps,
      p.offset ≤ q.span.start.offset ∧ q.span.start.offset ≤ q.span.stop.offset) ∧
      (placeFrom [] p ps).Pairwise fun a b =>
        a.span.Before b.span ∧ b.span.start.offset ≤ b.span.stop.offset := by
  induction ps generalizing p with
  | nil => exact ⟨fun _ h => (List.not_mem_nil h).elim, .nil⟩
  | cons a ps ih =>
    obtain ⟨hle, hpw⟩ := ih (p.after a.chars)
    have hoff := p.offset_after a.chars
    rw [placeFrom_cons]
    refine ⟨List.forall_mem_cons.2 ⟨⟨Nat.le_refl _, ?_⟩, fun q hq => ?_⟩,
      List.pairwise_cons.2 ⟨hle, hpw⟩⟩
    · exact hoff ▸ Nat.le_add_right _ _
    · obtain ⟨h₁, h₂⟩ := hle q hq
      exact ⟨by omega, h₂⟩

variable {p : Placed}

theorem span_of_extent? {e : Extent} (h : p.extent? = some e) : e.span = p.span := by
  unfold extent? at h
  split at h <;> cases h <;> rfl

theorem span_of_token? {t : Token} (h : p.token? = some t) : t.span = p.span := by
  unfold token? at h
  split at h <;> cases h
  rfl

theorem span_of_error? {e : LexicalError} (h : p.error? = some e) :
    e.span = p.span ∨ e.span = ⟨p.span.stop, p.span.stop⟩ := by
  unfold error? at h
  split at h <;> cases h
  · exact .inr rfl
  · exact .inl rfl

end Placed

/-! ### What a scan marks -/

/-- What a token marks. -/
def Token.extent (t : Token) : Extent := ⟨t.lexeme, t.span⟩

/-- What an error marks. -/
def LexicalError.extent (e : LexicalError) : Extent := ⟨e.lexeme, e.span⟩

namespace Scan

/-- The errors that mark a stretch of the source: all but an unclosed comment. -/
def markedErrors (s : Scan) : List LexicalError :=
  s.errors.filter (·.kind != .unterminatedComment)

/-- What tokens and errors mark, by start offset. -/
def extents (s : Scan) : List Extent :=
  (s.tokens.map Token.extent ++ s.markedErrors.map LexicalError.extent).mergeSort
    fun a b => a.span.start.offset ≤ b.span.start.offset

/-- The scan marks its source from one end to the other, each stretch once. -/
structure Partitions (s : Scan) (source : String) : Prop where
  /-- What is not marked is white space and comments; a comment is left open just if there is an
  error that says so. -/
  tiled : Tiled 0 source.toList s.extents (s.errors.any (·.kind == .unterminatedComment))
  nonempty : ∀ e ∈ s.extents, e.span.start.offset < e.span.stop.offset
  slices : ∀ e ∈ s.extents, e.span.slice? source = some e.lexeme
  extents_apart : s.extents.Pairwise fun a b => a.span.Before b.span
  tokens_apart : s.tokens.Pairwise fun a b => a.span.Before b.span
  errors_apart : s.errors.Pairwise fun a b => a.span.Before b.span
  unclosed : ∀ e ∈ s.errors, e.kind = .unterminatedComment →
    s.errors = s.markedErrors ++ [e] ∧ e.lexeme = "/*" ∧ e.span.start = e.span.stop ∧
      e.span.stop.offset = source.utf8ByteSize

/-- Tokens and marked errors together are what the pieces mark. -/
theorem perm_extents (ps : List Placed) : (ps.filterMap Placed.extent?).Perm
    ((ps.filterMap Placed.token?).map Token.extent ++
      ((ps.filterMap Placed.error?).filter (·.kind != .unterminatedComment)).map
        LexicalError.extent) := by
  induction ps with
  | nil => exact .nil
  | cons p ps ih =>
    obtain ⟨⟨kind, chars⟩, span⟩ := p
    cases kind with
    | blank | lineComment | blockComment => exact ih
    | token => exact ih.cons _
    | fault k =>
      cases k with
      | unterminatedComment => exact ih
      | invalidLexeme | unterminatedString => exact (ih.cons _).trans List.perm_middle.symm

/-- What pieces mark stands one behind the other. -/
theorem pairwise_extent? (cs : List Char) :
    ((Placed.ofText cs).filterMap Placed.extent?).Pairwise fun a b => a.span.Before b.span :=
  (Placed.pairwise_placeFrom (cut cs) .start).2.filterMap _ fun a b hab d hd e he => by
    rw [Placed.span_of_extent? hd, Placed.span_of_extent? he]
    exact hab.1

theorem tiled_ofText (cs : List Char) :
    Tiled 0 cs ((Placed.ofText cs).filterMap Placed.extent?) ((cut cs).any isOpen) :=
  Placed.tiled_placeFrom cs .start

/-- What a scan marks is what its pieces mark, in their order. -/
theorem extents_ofChars (detailed : Bool) (cs : List Char) :
    (ofChars detailed cs).extents = (Placed.ofText cs).filterMap Placed.extent? := by
  -- no two stretches begin at one place, so there is one way to order them
  have hlt : ((Placed.ofText cs).filterMap Placed.extent?).Pairwise
      fun a b => a.span.start.offset < b.span.start.offset :=
    (pairwise_extent? cs).imp_of_mem fun ha _ hab =>
      Nat.lt_of_lt_of_le ((tiled_ofText cs).start_lt_stop ha) hab
  have hperm : (ofChars detailed cs).extents.Perm
      ((Placed.ofText cs).filterMap Placed.extent?) := by
    rw [extents, markedErrors, tokens_ofChars, errors_ofChars]
    exact (List.mergeSort_perm _ _).trans (perm_extents _).symm
  have hne : (ofChars detailed cs).extents.Pairwise
      fun a b => a.span.start.offset ≠ b.span.start.offset :=
    hperm.symm.pairwise (hlt.imp Nat.ne_of_lt) Ne.symm
  have hle : (ofChars detailed cs).extents.Pairwise
      fun a b => decide (a.span.start.offset ≤ b.span.start.offset) = true :=
    List.pairwise_mergeSort (by simp; omega) (by simp; omega) _
  refine List.Perm.eq_of_pairwise (fun a b _ _ hab hba => ?_)
    (hle.imp₂ (fun a b hab hne => ?_) hne) hlt hperm
  · exact absurd hab (Nat.lt_asymm hba)
  · exact Nat.lt_of_le_of_ne (of_decide_eq_true hab) hne

/-- No error but the last is an unclosed comment, and that only if the last piece is one. -/
theorem errors_eq_append (detailed : Bool) (cs : List Char) :
    (ofChars detailed cs).errors = (ofChars detailed cs).markedErrors ++
      if (cut cs).any isOpen then
        [⟨.unterminatedComment, "/*", ⟨Position.start.after cs, Position.start.after cs⟩⟩]
      else [] := by
  rw [markedErrors, errors_ofChars]
  exact Placed.errors_placeFrom cs .start

theorem any_unterminatedComment (detailed : Bool) (cs : List Char) :
    (ofChars detailed cs).errors.any (·.kind == .unterminatedComment) = (cut cs).any isOpen := by
  have hmarked : (ofChars detailed cs).markedErrors.any (·.kind == .unterminatedComment) = false :=
    List.any_eq_false.2 fun e he => by simpa using (List.mem_filter.1 he).2
  rw [errors_eq_append, List.any_append, hmarked, Bool.false_or]
  cases (cut cs).any isOpen <;> rfl

/-- An unclosed comment is reported last, without a lexeme of its own, at the end of the source. -/
theorem unclosed_last {detailed : Bool} {cs : List Char} {e : LexicalError}
    (he : e ∈ (ofChars detailed cs).errors) (hkind : e.kind = .unterminatedComment) :
    (ofChars detailed cs).errors = (ofChars detailed cs).markedErrors ++ [e] ∧
      e = ⟨.unterminatedComment, "/*", ⟨Position.start.after cs, Position.start.after cs⟩⟩ := by
  have hopen : (cut cs).any isOpen := by
    rw [← any_unterminatedComment detailed]
    exact List.any_eq_true.2 ⟨e, he, by simp [hkind]⟩
  have herrors := errors_eq_append detailed cs
  rw [if_pos hopen] at herrors
  rcases List.mem_append.1 (herrors ▸ he) with hmarked | hlast
  · simpa [hkind] using (List.mem_filter.1 hmarked).2
  · obtain rfl := List.mem_singleton.1 hlast
    exact ⟨herrors, rfl⟩

theorem pairwise_tokens (detailed : Bool) (cs : List Char) :
    (ofChars detailed cs).tokens.Pairwise fun a b => a.span.Before b.span := by
  rw [tokens_ofChars]
  refine (Placed.pairwise_placeFrom (cut cs) .start).2.filterMap _ fun a b hab t ht u hu => ?_
  rw [Placed.span_of_token? ht, Placed.span_of_token? hu]
  exact hab.1

theorem pairwise_errors (detailed : Bool) (cs : List Char) :
    (ofChars detailed cs).errors.Pairwise fun a b => a.span.Before b.span := by
  rw [errors_ofChars]
  refine (Placed.pairwise_placeFrom (cut cs) .start).2.filterMap _ fun a b hab d hd e he => ?_
  obtain ⟨hbefore, hle⟩ := hab
  have hstop : d.span.stop = a.span.stop := by
    rcases Placed.span_of_error? hd with h | h <;> rw [h]
  rw [Span.Before, hstop]
  rcases Placed.span_of_error? he with h | h <;> rw [h]
  · exact hbefore
  · exact Nat.le_trans hbefore hle

/-- **A scan parts its source**: its tokens and errors mark disjoint stretches of it, in order, and
what they leave is white space and comments. -/
theorem partitions_source (detailed : Bool) (source : String) :
    (ofSource detailed source).Partitions source := by
  have htiled := tiled_ofText source.toList
  have hextents : (ofSource detailed source).extents = _ := extents_ofChars detailed source.toList
  refine ⟨?tiled, fun e he => ?nonempty, fun e he => ?slices, ?extents,
    pairwise_tokens detailed source.toList, pairwise_errors detailed source.toList,
    fun e he hkind => ?unclosed⟩
  case tiled => rwa [hextents, ofSource, any_unterminatedComment]
  case nonempty => exact htiled.start_lt_stop (hextents ▸ he)
  case slices =>
    obtain ⟨-, as, bs, hsource, hstart, hstop⟩ := htiled.exists_parts (hextents ▸ he)
    have := Span.slice?_of_append bs (hstart.trans (Nat.zero_add _)) (hstop.trans (Nat.zero_add _))
    rwa [← hsource, String.ofList_toList, String.ofList_toList] at this
  case extents => exact hextents ▸ pairwise_extent? source.toList
  case unclosed =>
    obtain ⟨herrors, rfl⟩ := unclosed_last he hkind
    refine ⟨herrors, rfl, rfl, ?_⟩
    rw [Position.offset_after, utf8ByteSize_eq]
    exact Nat.zero_add _

end Scan

end Lookahead
