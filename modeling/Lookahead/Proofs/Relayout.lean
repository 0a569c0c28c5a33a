import Lookahead.Proofs.Lines
import Lookahead.Proofs.Places

/-!
# Layout

Where a token ends is told by the characters behind it, and a blank ends every token where it ended
before.  So tokens written one behind the other, with blanks in between, are scanned back as they
were, whatever stood between them in the source that they come from.

* `Piece.Reads.before_blank`: a token in front of a blank is the token that it was.
* `Piece.tokens_layOut`: the pieces of tokens written one behind the other.
* `Scan.relaid_tokens`: the tokens of a source survive another layout, and so does the verdict on
  them.
-/

namespace Lookahead

open Piece Text

/-! ### Separators -/

/-- What may stand between two tokens: blanks, and one at least. -/
structure Separator where
  text : String
  ne_empty : text ≠ ""
  blank : ∀ c ∈ text.toList, isBlank c

/-- The `i`-th separator is written behind the `i`-th lexeme, but for the last. -/
def layOut (sep : Nat → Separator) : List String → String
  | [] => ""
  | [l] => l
  | l :: m :: ls => l ++ (sep 0).text ++ layOut (fun i => sep (i + 1)) (m :: ls)

namespace Text

/-- A blank ends a run of a class that holds no blanks. -/
theorem Stops.of_blank {p : Char → Bool} {cs : List Char} (h : Stops (!isBlank ·) cs)
    (hp : ∀ c, isBlank c → p c = false) : Stops p cs := fun c hc =>
  hp c (by simpa using h c hc)

end Text

theorem Separator.stops (s : Separator) (cs : List Char) :
    Stops (!isBlank ·) (s.text.toList ++ cs) := by
  intro c hc
  cases hs : s.text.toList with
  | nil => exact absurd (String.toList_eq_nil_iff.1 hs) s.ne_empty
  | cons d ds =>
    rw [hs, List.cons_append, List.head?_cons, Option.some.injEq] at hc
    have hd := s.blank d (hs ▸ List.mem_cons_self)
    simp [← hc, hd]

/-! ### Pieces -/

/-- What a token is, apart from its place. -/
def Token.content (t : Token) : Terminal × TokenKind × String := (t.category, t.kind, t.lexeme)

/-- The token is one of some text. -/
def Token.Scannable (t : Token) : Prop :=
  ∃ c w r, t.lexeme = String.ofList (c :: w) ∧ Reads (.token t.category t.kind) c w r

theorem Operator.leading?_chars : ∀ o ∈ all, leading? o.chars = some o := by
  decide

namespace Piece

/-- What the token is that a piece is. -/
def content? (p : Piece) : Option (Terminal × TokenKind × String) :=
  match p.kind with
  | .token a k => some (a, k, String.ofList p.chars)
  | _ => none

/-- The piece is a fault. -/
def isFault (p : Piece) : Bool :=
  match p.kind with
  | .fault _ => true
  | _ => false

/-- **A blank ends a token** where it ended before, and so does the end of the text. -/
theorem Reads.before_blank {a : Terminal} {k : TokenKind} {c : Char} {w r : List Char}
    (h : Reads (.token a k) c w r) {r' : List Char} (hr' : Stops (!isBlank ·) r') :
    Reads (.token a k) c w r' := by
  have hword : Stops isWordPart r' := hr'.of_blank fun _ => isWordPart_of_isBlank
  have hdigit : Stops isDigit r' := hr'.of_blank fun d hd =>
    Bool.eq_false_iff.2 fun hdigit => Bool.false_ne_true ((plain_of_isDigit hdigit).1.symm.trans hd)
  cases h with
  | string hinside => exact .string hinside
  | keyword hc hw hr hk => exact .keyword hc hw hword hk
  | identifier hc hw hr hk => exact .identifier hc hw hword hk
  | @operator o _ _ _ ho hlead hr =>
    refine .operator ho ?_ fun _ => hr'.of_blank fun d hd => ?_
    · rw [← List.cons_append, ← ho, Operator.leading?_append_of_stops _ hr',
        Operator.leading?_chars o o.mem_all]
    · rw [Bool.or_eq_false_iff, beq_eq_false_iff_ne, beq_eq_false_iff_ne]
      constructor <;> rintro rfl <;> exact absurd hd (by decide)
  | delimiter hd => exact .delimiter hd
  | int hc hw hr hpoint =>
    -- a point would be no blank
    refine .int hc hw hdigit fun r hr => ?_
    rw [hr, stops_cons] at hr'
    exact absurd hr' (by decide)
  | float hc hw hv hr => exact .float hc hw hv hdigit

theorem cut_blanks {bs : List Char} (h : ∀ c ∈ bs, isBlank c) (cs : List Char) :
    cut (bs ++ cs) = bs.map (fun c => ⟨.blank, [c]⟩) ++ cut cs := by
  induction bs with
  | nil => rfl
  | cons b bs ih =>
    obtain ⟨hb, hbs⟩ := List.forall_mem_cons.1 h
    have hread : cut (b :: ([] ++ (bs ++ cs))) = ⟨.blank, [b]⟩ :: cut (bs ++ cs) :=
      (Reads.blank hb).cut_eq
    rw [List.nil_append, ih hbs] at hread
    exact hread

/-- A token in front of a blank, or of the end of a text, is cut off first. -/
theorem cut_token {t : Token} (ht : t.Scannable) {r : List Char} (hr : Stops (!isBlank ·) r) :
    cut (t.lexeme.toList ++ r) = ⟨.token t.category t.kind, t.lexeme.toList⟩ :: cut r := by
  obtain ⟨c, w, _, hlexeme, hreads⟩ := ht
  rw [hlexeme, String.toList_ofList]
  exact (hreads.before_blank hr).cut_eq

/-- **Tokens written one behind the other** are the tokens of what is written, and none of it is a
fault. -/
theorem tokens_layOut {ts : List Token} (h : ∀ t ∈ ts, t.Scannable) (sep : Nat → Separator) :
    (cut (layOut sep (ts.map Token.lexeme)).toList).filterMap content? = ts.map Token.content ∧
      ∀ p ∈ cut (layOut sep (ts.map Token.lexeme)).toList, p.isFault = false := by
  -- Induction on the tokens, as they are written: one, or one with a separator behind it.
  induction ts generalizing sep with
  | nil => simp [layOut]
  | cons t ts ih =>
    obtain ⟨ht, hts⟩ := List.forall_mem_cons.1 h
    cases ts with
    | nil =>
      have hcut := cut_token ht stops_nil
      rw [List.append_nil, cut_nil] at hcut
      rw [List.map_singleton, layOut, hcut]
      simp [content?, isFault, Token.content]
    | cons u us =>
      obtain ⟨hcontent, hfault⟩ := ih hts fun i => sep (i + 1)
      rw [List.map_cons, List.map_cons, layOut, String.toList_append, String.toList_append,
        List.append_assoc, cut_token ht ((sep 0).stops _), cut_blanks (sep 0).blank, ← List.map_cons]
      constructor
      · rw [List.filterMap_cons_some (b := t.content) (by simp [content?, Token.content]),
          List.filterMap_append, hcontent, List.filterMap_map]
        simp [content?]
      · intro p hp
        rcases List.mem_cons.1 hp with rfl | hp
        · rfl
        · rcases List.mem_append.1 hp with hp | hp
          · obtain ⟨c, -, rfl⟩ := List.mem_map.1 hp
            rfl
          · exact hfault p hp

end Piece

/-! ### Tokens in their places -/

namespace Placed

theorem map_piece_placeFrom (p : Position) (ps : List Piece) :
    (placeFrom [] p ps).map piece = ps := by
  induction ps generalizing p with
  | nil => rfl
  | cons a ps ih => rw [placeFrom_cons, List.map_cons, ih]

theorem map_content_token? (p : Placed) : p.token?.map Token.content = p.piece.content? := by
  obtain ⟨⟨kind, chars⟩, span⟩ := p
  cases kind <;> rfl

theorem isFault_of_error? {p : Placed} {e : LexicalError} (h : p.error? = some e) :
    p.piece.isFault := by
  obtain ⟨⟨kind, chars⟩, span⟩ := p
  cases kind with
  | fault => rfl
  | _ => cases h

end Placed

namespace Scan

theorem map_content_tokens (detailed : Bool) (cs : List Char) :
    (ofChars detailed cs).tokens.map Token.content = (cut cs).filterMap content? := by
  have hmap := Placed.map_piece_placeFrom .start (cut cs)
  conv => rhs; rw [← hmap, List.filterMap_map]
  rw [tokens_ofChars]
  refine (List.map_filterMap ..).trans (congrArg (List.filterMap · _) ?_)
  exact funext Placed.map_content_token?

theorem errors_eq_nil {detailed : Bool} {cs : List Char} (h : ∀ p ∈ cut cs, p.isFault = false) :
    (ofChars detailed cs).errors = [] := by
  refine List.eq_nil_iff_forall_not_mem.2 fun e he => ?_
  obtain ⟨q, hq, he⟩ := mem_errors_iff.1 he
  have hpiece : q.piece ∈ cut cs := by
    rw [← Placed.map_piece_placeFrom .start (cut cs)]
    exact List.mem_map_of_mem hq
  exact Bool.false_ne_true ((h _ hpiece).symm.trans (Placed.isFault_of_error? he))

end Scan

namespace Scan

theorem scannable_of_mem_tokens {detailed : Bool} {source : String} {t : Token}
    (h : t ∈ (ofSource detailed source).tokens) : t.Scannable := by
  obtain ⟨-, c, w, r, -, hreads, hlexeme, -⟩ := exists_of_mem_tokens h
  exact ⟨c, w, r, hlexeme, hreads⟩

/-- **Tokens survive another layout.**  Written one behind the other, with any blanks in between,
the tokens of a source are scanned back without an error, and the parser's verdict is the one on
the source, but for the lines that it names. -/
theorem relaid_tokens (detailed recording : Bool) (source : String) (sep : Nat → Separator) :
    let s := ofSource detailed source
    let t := ofSource detailed (layOut sep (s.tokens.map Token.lexeme))
    t.errors = [] ∧ t.tokens.map Token.content = s.tokens.map Token.content ∧
      (parse recording t.symbols).verdict.withoutLine =
          (parse recording s.symbols).verdict.withoutLine ∧
        (parse recording t.symbols).expansions = (parse recording s.symbols).expansions := by
  intro s t
  have hscannable : ∀ u ∈ s.tokens, u.Scannable := fun _ => scannable_of_mem_tokens
  obtain ⟨hcontent, hfault⟩ := tokens_layOut hscannable sep
  have htokens : t.tokens.map Token.content = s.tokens.map Token.content :=
    (map_content_tokens detailed _).trans hcontent
  have hcategories : t.symbols.map InputSymbol.category = s.symbols.map InputSymbol.category := by
    have := congrArg (List.map Prod.fst) htokens
    simpa [symbols, InputSymbol.ofToken, Token.content, Function.comp_def] using this
  exact ⟨errors_eq_nil hfault, htokens, parse_of_categories_eq recording hcategories⟩

/-- Signs that only their own characters told apart, a line each. -/
theorem relaid_tokens_signs :
    let lines : Nat → Separator := fun _ => ⟨"\n", by decide, by simp [isBlank_newline]⟩
    let s := ofSource false "x+++y"
    let t := ofSource false (layOut lines (s.tokens.map Token.lexeme))
    layOut lines (s.tokens.map Token.lexeme) = "x\n++\n+\ny" ∧
      t.errors = [] ∧ t.tokens.map Token.content = s.tokens.map Token.content := by
  intro lines s t
  obtain ⟨herrors, htokens, -⟩ := relaid_tokens false false "x+++y" lines
  exact ⟨by decide +kernel, herrors, htokens⟩

end Scan

end Lookahead
