import Lookahead.Proofs.LexicalRules
import Lookahead.Scan

/-!
# What a scan has found

What a scanner holds is told by the pieces it has read.  Each piece has its place, behind those
before it (`Placed.placeFrom`); tokens and errors are the placed pieces of those two sorts, in
order, and the counts are those of the pieces.  Identifiers are entered while the text is read, each
by the rule for words, and yet the table is the one that the finished tokens give
(`Scan.identifiersOf`): no other rule emits a token of that kind.

* `Placed.placeFrom_cons`: a piece ends where the next one begins.
* `Scanner.tokens_read` and its like: what one piece adds to what a scanner holds.
* `Scanner.tokens_foldl` and its like: what a scanner holds behind some pieces.
* `Scan.tokens_ofChars` and its like: what the scan of a text has.
-/

namespace Lookahead

open Piece

/-! ### Places -/

/-- A piece and where it stands. -/
structure Placed where
  piece : Piece
  span : Span
deriving DecidableEq, Repr

namespace Placed

/-- Place pieces one behind the other from `p` on, behind those of `done`, latest first. -/
def placeFrom (done : List Placed) (p : Position) : List Piece → List Placed
  | [] => done.reverse
  | piece :: rest =>
    let q := p.after piece.chars
    placeFrom (⟨piece, ⟨p, q⟩⟩ :: done) q rest

/-- The pieces of a text in their places. -/
def ofText (cs : List Char) : List Placed := placeFrom [] .start (Piece.cut cs)

theorem placeFrom_eq (done : List Placed) (p : Position) (ps : List Piece) :
    placeFrom done p ps = done.reverse ++ placeFrom [] p ps := by
  induction ps generalizing done p with
  | nil => simp [placeFrom]
  | cons a ps ih => simp only [placeFrom]; rw [ih, ih [_]]; simp

theorem placeFrom_cons (p : Position) (a : Piece) (ps : List Piece) :
    placeFrom [] p (a :: ps) =
      ⟨a, ⟨p, p.after a.chars⟩⟩ :: placeFrom [] (p.after a.chars) ps := by
  rw [placeFrom, placeFrom_eq]; rfl

/-- The token a placed piece is. -/
def token? (p : Placed) : Option Token :=
  match p.piece.kind with
  | .token category kind => some ⟨category, kind, String.ofList p.piece.chars, p.span⟩
  | _ => none

/-- The error a placed piece is.  An unclosed comment is reported at the end of the source. -/
def error? (p : Placed) : Option LexicalError :=
  match p.piece.kind with
  | .fault .unterminatedComment => some ⟨.unterminatedComment, "/*", ⟨p.span.stop, p.span.stop⟩⟩
  | .fault kind => some ⟨kind, String.ofList p.piece.chars, p.span⟩
  | _ => none

end Placed

/-! ### Counts -/

namespace Tally

/-- Count a piece; kinds of tokens and comments only if `detailed`. -/
def add (detailed : Bool) (t : Tally) (p : Piece) : Tally :=
  match p.kind with
  | .blank => t
  | .lineComment => t.addLineComment detailed
  | .blockComment => t.addBlockComment detailed
  | .token _ kind => t.addToken detailed kind
  | .fault _ => { t with errors := t.errors + 1 }

/-- The tally of a text cut into pieces. -/
def ofPieces (detailed : Bool) (lines : Nat) (ps : List Piece) : Tally :=
  ps.foldl (add detailed) { zero with lines }

end Tally

/-- The identifiers among tokens. -/
def Scan.identifiersOf (tokens : List Token) : IdentifierTable :=
  tokens.foldl (fun T t => if t.kind = .identifier then T.insert t.lexeme t.line else T) .empty

/-! ### What a piece adds -/

namespace Scanner

variable (detailed : Bool) (s : Scanner) (p : Piece)

/-- The piece in the place that a scanner reads it in. -/
def placed : Placed := ⟨p, s.spanOf p.chars⟩

theorem position_read : (s.read detailed p).position = s.position.after p.chars := by
  obtain ⟨kind, cs⟩ := p
  cases kind with
  | token category kind => cases category <;> cases kind <;> rfl
  | fault kind => cases kind <;> rfl
  | _ => rfl

theorem tokens_read :
    (s.read detailed p).tokens = (s.placed p).token?.toList ++ s.tokens := by
  obtain ⟨kind, cs⟩ := p
  cases kind with
  | token category kind => cases category <;> cases kind <;> rfl
  | fault kind => cases kind <;> rfl
  | _ => rfl

theorem errors_read :
    (s.read detailed p).errors = (s.placed p).error?.toList ++ s.errors := by
  obtain ⟨kind, cs⟩ := p
  cases kind with
  | token category kind => cases category <;> cases kind <;> rfl
  | fault kind => cases kind <;> rfl
  | _ => rfl

theorem totals_read (lines : Nat) :
    (s.read detailed p).totals lines = (s.totals lines).add detailed p := by
  obtain ⟨kind, cs⟩ := p
  cases kind with
  | blank => rfl
  | lineComment | blockComment => cases detailed <;> rfl
  | token category kind => cases detailed <;> cases category <;> cases kind <;> rfl
  | fault kind => cases kind <;> rfl

/-- A word that is an identifier is entered as the token that it is; no other piece is entered. -/
theorem identifiers_read (hp : ∀ category, p.kind = .token category .identifier →
      category = .identifier) :
    (s.read detailed p).identifiers = (s.placed p).token?.toList.foldl
      (fun T t => if t.kind = .identifier then T.insert t.lexeme t.line else T) s.identifiers := by
  obtain ⟨kind, cs⟩ := p
  cases kind with
  | token category kind =>
    cases kind with
    | identifier =>
      obtain rfl := hp category rfl
      rfl
    | _ => cases category <;> rfl
  | fault kind => cases kind <;> rfl
  | _ => rfl

/-! ### What some pieces add -/

theorem tokens_foldl (ps : List Piece) (s : Scanner) :
    (ps.foldl (read detailed) s).tokens.reverse =
      s.tokens.reverse ++ (Placed.placeFrom [] s.position ps).filterMap Placed.token? := by
  induction ps generalizing s with
  | nil => exact (List.append_nil _).symm
  | cons p ps ih =>
    rw [List.foldl_cons, ih, tokens_read, position_read, Placed.placeFrom_cons, List.filterMap_cons]
    cases h : (s.placed p).token? <;> rw [placed, spanOf] at h <;> simp [h]

theorem errors_foldl (ps : List Piece) (s : Scanner) :
    (ps.foldl (read detailed) s).errors.reverse =
      s.errors.reverse ++ (Placed.placeFrom [] s.position ps).filterMap Placed.error? := by
  induction ps generalizing s with
  | nil => exact (List.append_nil _).symm
  | cons p ps ih =>
    rw [List.foldl_cons, ih, errors_read, position_read, Placed.placeFrom_cons, List.filterMap_cons]
    cases h : (s.placed p).error? <;> rw [placed, spanOf] at h <;> simp [h]

theorem totals_foldl (lines : Nat) (ps : List Piece) (s : Scanner) :
    (ps.foldl (read detailed) s).totals lines = ps.foldl (Tally.add detailed) (s.totals lines) := by
  induction ps generalizing s with
  | nil => rfl
  | cons p ps ih => rw [List.foldl_cons, List.foldl_cons, ih, totals_read]

/-- What is entered piece by piece is what the tokens of the pieces give. -/
theorem identifiers_foldl {ps : List Piece} (hps : ∀ p ∈ ps, ∀ category,
      p.kind = .token category .identifier → category = .identifier) (s : Scanner) :
    (ps.foldl (read detailed) s).identifiers =
      ((Placed.placeFrom [] s.position ps).filterMap Placed.token?).foldl
        (fun T t => if t.kind = .identifier then T.insert t.lexeme t.line else T)
        s.identifiers := by
  induction ps generalizing s with
  | nil => rfl
  | cons p ps ih =>
    obtain ⟨hp, hps⟩ := List.forall_mem_cons.1 hps
    rw [List.foldl_cons, ih hps, identifiers_read detailed s p hp, position_read,
      Placed.placeFrom_cons, List.filterMap_cons]
    cases h : (s.placed p).token? <;> rw [placed, spanOf] at h <;> simp [h]

end Scanner

/-! ### What the scan of a text has -/

/-- Only the rule for words emits identifiers. -/
theorem Piece.category_of_mem_cut (cs : List Char) : ∀ p ∈ cut cs, ∀ category,
    p.kind = .token category .identifier → category = .identifier := by
  refine reads_induction (P := fun _ ps => ∀ p ∈ ps, ∀ category,
    p.kind = .token category .identifier → category = .identifier)
    (fun p hp => (List.not_mem_nil hp).elim) (fun k c w r h ih => ?_) cs
  refine List.forall_mem_cons.2 ⟨fun category hk => ?_, ih⟩
  cases (show k = _ from hk)
  cases h
  rfl

namespace Scan

variable (detailed : Bool) (cs : List Char)

/-- **The tokens of a text** are its pieces of that sort. -/
theorem tokens_ofChars :
    (ofChars detailed cs).tokens = (Placed.ofText cs).filterMap Placed.token? := by
  rw [ofChars, Scanner.readAll_eq]
  exact Scanner.tokens_foldl detailed (cut cs) .start

/-- **The errors of a text** are its pieces of that sort. -/
theorem errors_ofChars :
    (ofChars detailed cs).errors = (Placed.ofText cs).filterMap Placed.error? := by
  rw [ofChars, Scanner.readAll_eq]
  exact Scanner.errors_foldl detailed (cut cs) .start

variable {detailed cs} in
theorem mem_tokens_iff {t : Token} :
    t ∈ (ofChars detailed cs).tokens ↔ ∃ q ∈ Placed.ofText cs, q.token? = some t := by
  rw [tokens_ofChars, List.mem_filterMap]

variable {detailed cs} in
theorem mem_errors_iff {e : LexicalError} :
    e ∈ (ofChars detailed cs).errors ↔ ∃ q ∈ Placed.ofText cs, q.error? = some e := by
  rw [errors_ofChars, List.mem_filterMap]

/-- **The identifiers that are entered while a text is read** are those among its tokens. -/
theorem identifiers_ofChars :
    (ofChars detailed cs).identifiers = identifiersOf (ofChars detailed cs).tokens := by
  rw [tokens_ofChars, ofChars, Scanner.readAll_eq]
  exact Scanner.identifiers_foldl detailed (category_of_mem_cut cs) .start

/-- **The tally of a text** counts its lines and its pieces. -/
theorem tally_ofChars :
    (ofChars detailed cs).tally = Tally.ofPieces detailed (Text.lineCount cs) (cut cs) := by
  rw [ofChars, Scanner.readAll_eq]
  exact Scanner.totals_foldl detailed _ (cut cs) .start

end Scan

end Lookahead
