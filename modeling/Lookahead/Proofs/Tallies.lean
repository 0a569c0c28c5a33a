import Lookahead.Entries
import Lookahead.Proofs.Identifiers
import Lookahead.Proofs.Relayout
import Lookahead.Proofs.TokenClasses

/-!
# Tallies

A scan keeps identifiers and counts beside its tokens and errors.  They are kept piece by piece, and
yet tell no more than the tokens and the errors do at the end: the table has the lexemes of the
identifiers, and each counter is the length of a list, or of a part of it.

* `IdentifierTable.tells_identifiersOf`: what a table of identifiers tells of tokens.
* `Tally.counter_ofPieces`: a counter that some pieces raise by one counts those pieces.
* `Tally.ofPieces_false`: without details a tally is the same, but for them.
* `Scan.derived_from_tokens`: identifiers and tally of a source.
-/

namespace Lookahead

/-! ### Identifiers -/

/-- The token is an identifier of that name. -/
def Token.isNamed (name : String) (t : Token) : Bool := t.kind == .identifier && t.lexeme == name

namespace IdentifierTable

/-- A table has the identifiers among tokens: the name of each once, in the order of their code
points, how often it occurs, and the line it occurs on first. -/
structure Tells (T : IdentifierTable) (tokens : List Token) : Prop where
  sorted : T.Sorted
  names : ∀ name, name ∈ T.names ↔ ∃ t ∈ tokens, t.kind = .identifier ∧ t.lexeme = name
  occurrences : ∀ name e, (name, e) ∈ T.entries → e.occurrences = tokens.countP (·.isNamed name)
  firstLine : ∀ name e, (name, e) ∈ T.entries →
    (tokens.find? (·.isNamed name)).map Token.line = some e.firstLine
  total : T.occurrences = tokens.countP (·.kind == .identifier)

theorem entryOf?_eq_some_iff {lines : List Nat} {e : IdentifierEntry} :
    Scan.entryOf? lines = some e ↔
      lines.head? = some e.firstLine ∧ lines.length = e.occurrences := by
  obtain ⟨firstLine, occurrences⟩ := e
  cases lines <;> simp [Scan.entryOf?]

/-- Tokens add to the occurrences of a table as many as are identifiers. -/
theorem occurrences_foldl (tokens : List Token) (T : IdentifierTable) :
    (tokens.foldl (fun T t => if t.kind = .identifier then T.insert t.lexeme t.line else T)
      T).occurrences = T.occurrences + tokens.countP (·.kind == .identifier) := by
  induction tokens generalizing T with
  | nil => rfl
  | cons t ts ih =>
    rw [List.foldl_cons, ih, List.countP_cons]
    by_cases ht : t.kind = .identifier
    · simp only [occurrences_insert, ht, beq_self_eq_true, if_true]
      omega
    · simp only [if_neg ht, beq_eq_false_iff_ne.2 ht, Bool.false_eq_true, if_false, Nat.add_zero]

/-- **What a table of identifiers tells of tokens.** -/
theorem tells_identifiersOf (tokens : List Token) : (Scan.identifiersOf tokens).Tells tokens := by
  have hsorted := Scan.sorted_identifiersOf tokens
  have hnodup : ((Scan.identifiersOf tokens).entries.map Prod.fst).Nodup :=
    List.Pairwise.imp (fun hlt => String.ne_of_lt hlt) hsorted
  -- what stands in the table under a name is told by the lines of its tokens
  have hentry : ∀ name e, (name, e) ∈ (Scan.identifiersOf tokens).entries →
      (Scan.linesOf name tokens).head? = some e.firstLine ∧
        (Scan.linesOf name tokens).length = e.occurrences := fun name e he => by
    rw [← entryOf?_eq_some_iff, ← Scan.get?_identifiersOf]
    exact (lookup_eq_some_iff_of_nodup hnodup).2 he
  refine ⟨hsorted, Scan.mem_names_iff tokens, fun name e he => ?_, fun name e he => ?_, ?_⟩
  · rw [← (hentry name e he).2, Scan.linesOf, List.length_map, List.countP_eq_length_filter]
    rfl
  · rw [← (hentry name e he).1, Scan.linesOf, List.head?_map, List.head?_filter]
    rfl
  · rw [Scan.identifiersOf, occurrences_foldl]
    exact Nat.zero_add _

end IdentifierTable

/-! ### Counters -/

namespace Piece

/-- The kind of token that a piece is. -/
def tokenKind? (p : Piece) : Option TokenKind :=
  match p.kind with
  | .token _ kind => some kind
  | _ => none

end Piece

namespace Placed

/-- There are as many tokens of some kinds as pieces that are such tokens. -/
theorem countP_tokens (q : TokenKind → Bool) (p : Position) (ps : List Piece) :
    ((placeFrom [] p ps).filterMap token?).countP (fun t => q t.kind) =
      ps.countP fun a => a.tokenKind?.any q := by
  induction ps generalizing p with
  | nil => rfl
  | cons a ps ih =>
    obtain ⟨kind, chars⟩ := a
    rw [placeFrom_cons, List.filterMap_cons, List.countP_cons]
    cases kind with
    | token => rw [← ih]; exact List.countP_cons
    | _ => exact ih _

/-- There are as many errors as pieces that are one. -/
theorem length_errors (p : Position) (ps : List Piece) :
    ((placeFrom [] p ps).filterMap error?).length = ps.countP Piece.isFault := by
  induction ps generalizing p with
  | nil => rfl
  | cons a ps ih =>
    obtain ⟨kind, chars⟩ := a
    rw [placeFrom_cons, List.filterMap_cons, List.countP_cons]
    cases kind with
    | fault k => cases k <;> exact congrArg (· + 1) (ih _)
    | _ => exact ih _

end Placed

namespace Tally

variable {detailed : Bool}

/-- **A counter that some pieces raise by one** counts those pieces. -/
theorem counter_ofPieces {f : Tally → Nat} {q : Piece → Bool} {lines : Nat}
    (hzero : f { zero with lines } = 0)
    (hadd : ∀ t p, f (add detailed t p) = f t + if q p then 1 else 0) (ps : List Piece) :
    f (ofPieces detailed lines ps) = ps.countP q := by
  have hfold : ∀ t : Tally, f (ps.foldl (add detailed) t) = f t + ps.countP q := by
    induction ps with
    | nil => exact fun t => rfl
    | cons p ps ih =>
      intro t
      rw [List.foldl_cons, ih, hadd, List.countP_cons]
      omega
  rw [ofPieces, hfold, hzero, Nat.zero_add]

theorem tokens_ofPieces (lines : Nat) (ps : List Piece) :
    (ofPieces detailed lines ps).tokens = ps.countP fun p => p.tokenKind?.any fun _ => true := by
  refine counter_ofPieces (f := tokens) rfl (fun t p => ?_) ps
  obtain ⟨kind, chars⟩ := p
  cases kind with
  | blank | fault => rfl
  | lineComment | blockComment => cases detailed <;> rfl
  | token _ k => cases detailed <;> cases k <;> rfl

theorem errors_ofPieces (lines : Nat) (ps : List Piece) :
    (ofPieces detailed lines ps).errors = ps.countP Piece.isFault := by
  refine counter_ofPieces (f := errors) rfl (fun t p => ?_) ps
  obtain ⟨kind, chars⟩ := p
  cases kind with
  | blank | fault => rfl
  | lineComment | blockComment => cases detailed <;> rfl
  | token _ k => cases detailed <;> cases k <;> rfl

/-- The counter of a kind of token. -/
def ofKind (t : Tally) : TokenKind → Nat
  | .keyword => t.keywords
  | .identifier => t.identifiers
  | .operator => t.operators
  | .delimiter => t.delimiters
  | .stringLiteral => t.strings
  | .intLiteral => t.ints
  | .floatLiteral => t.floats

theorem ofKind_ofPieces (kind : TokenKind) (lines : Nat) (ps : List Piece) :
    (ofPieces true lines ps).ofKind kind = ps.countP fun p => p.tokenKind?.any (· == kind) := by
  refine counter_ofPieces (f := (ofKind · kind)) (by cases kind <;> rfl) (fun t p => ?_) ps
  obtain ⟨sort, chars⟩ := p
  cases sort with
  | blank | fault | lineComment | blockComment => cases kind <;> rfl
  | token _ k => cases k <;> cases kind <;> rfl

/-- A tally without details. -/
def coarse (t : Tally) : Tally :=
  { zero with tokens := t.tokens, errors := t.errors, lines := t.lines }

/-- **Without details a tally is the same**, but for them. -/
theorem ofPieces_false (lines : Nat) (ps : List Piece) :
    ofPieces false lines ps = (ofPieces true lines ps).coarse := by
  have hstep : ∀ (t : Tally) (p : Piece), add false t.coarse p = (add true t p).coarse := by
    rintro t ⟨kind, chars⟩
    cases kind with
    | token _ k => cases k <;> rfl
    | _ => rfl
  have hfold : ∀ t : Tally, ps.foldl (add false) t.coarse = (ps.foldl (add true) t).coarse := by
    induction ps with
    | nil => exact fun t => rfl
    | cons p ps ih =>
      intro t
      rw [List.foldl_cons, hstep, ih, List.foldl_cons]
  exact hfold { zero with lines }

end Tally

/-! ### Scans -/

namespace Scan

/-- A name of the table is the lexeme of an identifier: it stands in the source as a word of its
own, which is not reserved. -/
theorem word_of_mem_names {detailed : Bool} {cs : List Char} {name : String}
    (h : name ∈ (ofChars detailed cs).identifiers.names) :
    ⟨.token .identifier .identifier, name.toList⟩ ∈ Piece.cut cs ∧
      ∀ k : Keyword, k.text ≠ name := by
  obtain ⟨t, ht, hkind, rfl⟩ := mem_names_ofChars.1 h
  obtain ⟨-, c, w, r, -, hreads, hlexeme, -⟩ := exists_of_mem_tokens ht
  obtain ⟨hform, -⟩ := hreads.token_classified (hlexeme ▸ String.toList_ofList)
  rw [Token.WellFormed, hkind] at hform
  -- the piece that is the token
  have hcontent : t.content ∈ (Piece.cut cs).filterMap Piece.content? :=
    map_content_tokens detailed cs ▸ List.mem_map_of_mem ht
  obtain ⟨⟨kind, chars⟩, hp, hpiece⟩ := List.mem_filterMap.1 hcontent
  refine ⟨?_, hform.2.2⟩
  cases kind with
  | token category kind =>
    obtain ⟨rfl, rfl, hchars⟩ :
        category = t.category ∧ kind = t.kind ∧ String.ofList chars = t.lexeme := by
      simpa [Piece.content?, Token.content] using hpiece
    rw [hform.1, hkind] at hp
    rwa [← hchars, String.toList_ofList]
  | _ => cases hpiece

/-- Literals are strings and numbers. -/
theorem countLiterals_eq (s : Scan) : s.countLiterals =
    s.countKind .stringLiteral + s.countKind .intLiteral + s.countKind .floatLiteral := by
  obtain ⟨tokens, identifiers, errors, tally⟩ := s
  simp only [countLiterals, countKind]
  induction tokens with
  | nil => rfl
  | cons t ts ih =>
    simp only [List.countP_cons, ih]
    cases t.kind <;> simp [TokenKind.isLiteral] <;> omega

theorem tokens_tally (detailed : Bool) (cs : List Char) :
    (ofChars detailed cs).tally.tokens = (ofChars detailed cs).tokens.length := by
  have htokens := Placed.countP_tokens (fun _ => true) .start (Piece.cut cs)
  rw [List.countP_true] at htokens
  rw [tally_ofChars, Tally.tokens_ofPieces, ← htokens, tokens_ofChars, Placed.ofText]

theorem errors_tally (detailed : Bool) (cs : List Char) :
    (ofChars detailed cs).tally.errors = (ofChars detailed cs).errors.length := by
  rw [tally_ofChars, Tally.errors_ofPieces, errors_ofChars, Placed.ofText, Placed.length_errors]

theorem ofKind_tally (cs : List Char) (kind : TokenKind) :
    (ofChars true cs).tally.ofKind kind = (ofChars true cs).countKind kind := by
  rw [tally_ofChars, Tally.ofKind_ofPieces, countKind, tokens_ofChars, Placed.ofText,
    Placed.countP_tokens (· == kind)]

/-- **Without details a text is scanned** as with them, but for the tally. -/
theorem ofChars_false (cs : List Char) : ofChars false cs =
    { ofChars true cs with tally := (ofChars true cs).tally.coarse } := by
  have htokens : (ofChars false cs).tokens = (ofChars true cs).tokens := by
    rw [tokens_ofChars, tokens_ofChars]
  have hidentifiers : (ofChars false cs).identifiers = (ofChars true cs).identifiers := by
    rw [identifiers_ofChars, identifiers_ofChars, htokens]
  have herrors : (ofChars false cs).errors = (ofChars true cs).errors := by
    rw [errors_ofChars, errors_ofChars]
  have htally : (ofChars false cs).tally = (ofChars true cs).tally.coarse := by
    rw [tally_ofChars, tally_ofChars, Tally.ofPieces_false]
  dsimp only
  rw [← htokens, ← hidentifiers, ← herrors, ← htally]

/-- **Identifiers and tally are derived from tokens and errors.**  Without details the scan of a
source is the same, but for the counters that are details, and these are zero.  The table has the
lexemes of the identifiers, in order, with their numbers and first lines; none of them is reserved,
and each stands in the source as a word, not in a comment, a string or an error.  The tally counts
tokens and errors, and, with details, tokens of each kind. -/
theorem derived_from_tokens (source : String) :
    ofSource false source =
      { ofSource true source with tally := (ofSource true source).tally.coarse } ∧
    let s := ofSource true source
    s.identifiers.Tells s.tokens ∧
    (∀ name ∈ s.identifiers.names,
      ⟨.token .identifier .identifier, name.toList⟩ ∈ Piece.cut source.toList ∧
      ∀ k : Keyword, k.text ≠ name) ∧
    s.tally.tokens = s.tokens.length ∧ s.tally.errors = s.errors.length ∧
    (∀ kind, s.tally.ofKind kind = s.countKind kind) ∧
    s.tally.strings + s.tally.ints + s.tally.floats = s.countLiterals := by
  refine ⟨ofChars_false source.toList, ?_, fun name h => word_of_mem_names h, tokens_tally _ _,
    errors_tally _ _, ofKind_tally _, ?_⟩
  · rw [ofSource, identifiers_ofChars]
    exact IdentifierTable.tells_identifiersOf _
  · rw [countLiterals_eq, ofSource, ← ofKind_tally, ← ofKind_tally, ← ofKind_tally]
    rfl

end Scan

end Lookahead
