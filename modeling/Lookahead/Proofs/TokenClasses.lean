import Lookahead.Proofs.Places
import Lookahead.Proofs.Slices

/-!
# Token classes

What a token is, said of its lexeme and category alone (`Token.WellFormed`), and where it ends, said
of what the source goes on with (`Token.Maximal`).  The two together are the lexical rules for
tokens (`Piece.reads_token_iff`), so the tokens of a source have both (`Scan.tokens_classified`).

* `Operator.leading?_eq_some_iff`: the operator found is the longest that the text begins with.
-/

namespace Lookahead

open Piece Text

/-! ### Words and digits -/

/-- A character that words begin with, and behind it others that they go on with. -/
def Word (cs : List Char) : Prop := ∃ c w, cs = c :: w ∧ isWordStart c ∧ ∀ d ∈ w, isWordPart d

/-- One digit or more, and nothing else. -/
def Digits (cs : List Char) : Prop := cs ≠ [] ∧ ∀ c ∈ cs, isDigit c

/-! ### Fixed spellings -/

namespace Keyword

theorem ofText?_text (k : Keyword) : ofText? k.text = some k := by
  have hall : ∀ k ∈ all, ofText? k.text = some k := by decide +kernel
  exact hall k (mem_all k)

theorem ofText?_eq_some_iff {s : String} {k : Keyword} : ofText? s = some k ↔ k.text = s := by
  refine ⟨fun h => ?_, fun h => h ▸ ofText?_text k⟩
  exact eq_of_beq (List.find?_some (p := fun k : Keyword => k.text == s) h)

theorem ofText?_eq_none_iff {s : String} : ofText? s = none ↔ ∀ k : Keyword, k.text ≠ s := by
  simp [Option.eq_none_iff_forall_ne_some, ofText?_eq_some_iff]

theorem word_text (k : Keyword) : Word k.text.toList := by
  have hall : all.all fun k =>
      k.text.toList.head?.any isWordStart && k.text.toList.tail.all isWordPart := by
    decide +kernel
  have hk := List.all_eq_true.1 hall k (mem_all k)
  cases hcw : k.text.toList with
  | nil => simp [hcw] at hk
  | cons c w =>
    rw [hcw, List.head?_cons, List.tail_cons, Option.any_some, Bool.and_eq_true] at hk
    exact ⟨c, w, rfl, hk.1, List.all_eq_true.1 hk.2⟩

end Keyword

namespace Delimiter

theorem ofChar?_char (d : Delimiter) : ofChar? d.char = some d := by
  have hall : ∀ d ∈ all, ofChar? d.char = some d := by decide
  exact hall d (mem_all d)

theorem text_eq (d : Delimiter) : d.text = String.ofList [d.char] :=
  String.toList_injective (by simp [text])

end Delimiter

namespace Operator

/-- Longer operators are tried first. -/
theorem all_sorted : all.Pairwise fun o p => p.chars.length ≤ o.chars.length := by decide

theorem chars_injective {o p : Operator} (h : o.chars = p.chars) : o = p := by
  have hall : ∀ o ∈ all, ∀ p ∈ all, o.chars = p.chars → o = p := by decide
  exact hall o o.mem_all p p.mem_all h

/-- The operator found in front of a text is no shorter than any other there. -/
theorem le_of_leading? {cs : List Char} {o p : Operator} (h : leading? cs = some o)
    (hp : p.chars <+: cs) : p.chars.length ≤ o.chars.length := by
  obtain ⟨-, as, bs, hall, hbefore⟩ := List.find?_eq_some_iff_append.1 h
  have hmem : p ∈ as ++ o :: bs := hall ▸ p.mem_all
  have hsorted := List.pairwise_append.1 (hall ▸ all_sorted)
  rcases List.mem_append.1 hmem with hp' | hp'
  · -- what is tried before `o` is not in front of the text
    have := hbefore p hp'
    rw [List.isPrefixOf_iff_prefix.2 hp] at this
    cases this
  · rcases List.mem_cons.1 hp' with rfl | hp'
    · exact Nat.le_refl _
    · exact List.rel_of_pairwise_cons hsorted.2.1 hp'

/-- **The operator found in front of a text is the longest there.** -/
theorem leading?_eq_some_iff {cs : List Char} {o : Operator} : leading? cs = some o ↔
    o.chars <+: cs ∧ ∀ p : Operator, p.chars <+: cs → p.chars.length ≤ o.chars.length := by
  refine ⟨fun h => ⟨leading?_isPrefix h, fun _ => le_of_leading? h⟩, fun ⟨ho, hlongest⟩ => ?_⟩
  cases hp : leading? cs with
  | none =>
    exact absurd (List.isPrefixOf_iff_prefix.2 ho) (List.find?_eq_none.1 hp o o.mem_all)
  | some p =>
    have hprefix := leading?_isPrefix hp
    have hlength := Nat.le_antisymm (hlongest p hprefix) (le_of_leading? hp ho)
    have hchars := (List.prefix_of_prefix_length_le hprefix ho (Nat.le_of_eq hlength)).eq_of_length
    exact congrArg some (chars_injective (hchars hlength))

end Operator

/-! ### What tokens are -/

namespace Token

/-- The lexeme is one of the kind of the token, and the category goes with it. -/
def WellFormed (t : Token) : Prop :=
  match t.kind with
  | .keyword => ∃ k : Keyword, t.category = k ∧ k.text = t.lexeme
  | .operator => ∃ o : Operator, t.category = o ∧ o.text = t.lexeme
  | .delimiter => ∃ d : Delimiter, t.category = d ∧ d.text = t.lexeme
  | .identifier => t.category = .identifier ∧ Word t.lexeme.toList ∧
      ∀ k : Keyword, k.text ≠ t.lexeme
  | .stringLiteral => t.category = .literal ∧
      ∃ inside, t.lexeme.toList = '"' :: (inside ++ ['"']) ∧ '"' ∉ inside ∧ '\n' ∉ inside
  | .intLiteral => t.category = .number ∧ Digits t.lexeme.toList
  | .floatLiteral => t.category = .number ∧
      ∃ whole decimals, t.lexeme.toList = whole ++ '.' :: decimals ∧ Digits whole ∧ Digits decimals

/-- The source does not go on, behind the token, as the token could. -/
def Maximal (t : Token) (behind : List Char) : Prop :=
  match t.kind with
  | .keyword | .identifier => Stops isWordPart behind
  | .operator =>
    (∀ o : Operator, o.chars <+: t.lexeme.toList ++ behind → o.chars.length ≤ t.lexeme.length) ∧
      (t.category = Operator.slash → Stops (fun c => c == '/' || c == '*') behind)
  | .intLiteral => Stops isDigit behind ∧ ∀ r, behind = '.' :: r → Stops isDigit r
  | .floatLiteral => Stops isDigit behind
  | .delimiter | .stringLiteral => True

end Token

namespace Piece

variable {t : Token} {c : Char} {w r : List Char}

/-- What is read as a token is well formed and maximal. -/
theorem Reads.token_classified (h : Reads (.token t.category t.kind) c w r)
    (ht : t.lexeme.toList = c :: w) : t.WellFormed ∧ t.Maximal r := by
  obtain ⟨category, kind, lexeme, span⟩ := t
  dsimp only at h ht
  have hlexeme : String.ofList (c :: w) = lexeme := ht ▸ String.ofList_toList
  cases h with
  | @string inside _ hinside =>
    have hne : ∀ d ∈ inside, d ≠ '"' ∧ d ≠ '\n' := fun d hd => by simpa using hinside d hd
    exact ⟨⟨rfl, inside, ht, fun hd => (hne _ hd).1 rfl, fun hd => (hne _ hd).2 rfl⟩, trivial⟩
  | @keyword _ _ _ k hc hw hr hk =>
    exact ⟨⟨k, rfl, (Keyword.ofText?_eq_some_iff.1 hk).trans hlexeme⟩, hr⟩
  | identifier hc hw hr hk =>
    exact ⟨⟨rfl, ⟨c, w, ht, hc, hw⟩, hlexeme ▸ Keyword.ofText?_eq_none_iff.1 hk⟩, hr⟩
  | @operator o _ _ _ ho hlead hr =>
    obtain ⟨-, hlongest⟩ := Operator.leading?_eq_some_iff.1 hlead
    refine ⟨⟨o, rfl, (congrArg String.ofList ho).trans hlexeme⟩, fun p hp => ?_, fun hslash => ?_⟩
    · dsimp only at hp ⊢
      rw [ht] at hp
      rw [← String.length_toList, ht, ← ho]
      exact hlongest p hp
    · exact hr (Terminal.operator.inj hslash)
  | @delimiter d _ _ hd =>
    obtain rfl := Delimiter.char_of_ofChar? hd
    exact ⟨⟨d, rfl, d.text_eq.trans hlexeme⟩, trivial⟩
  | int hc hw hr hpoint =>
    exact ⟨⟨rfl, ht ▸ ⟨List.cons_ne_nil _ _, List.forall_mem_cons.2 ⟨hc, hw⟩⟩⟩, hr, hpoint⟩
  | @float _ d w v _ hc hw hv hr =>
    exact ⟨⟨rfl, c :: w, d :: v, ht, ⟨List.cons_ne_nil _ _, List.forall_mem_cons.2 ⟨hc, hw⟩⟩,
      List.cons_ne_nil _ _, hv⟩, hr⟩

/-- A lexeme that is well formed and maximal is read as the token. -/
theorem Reads.of_classified (ht : t.lexeme.toList = c :: w) (hform : t.WellFormed)
    (hmax : t.Maximal r) : Reads (.token t.category t.kind) c w r := by
  obtain ⟨category, kind, lexeme, span⟩ := t
  dsimp only [Token.WellFormed, Token.Maximal] at ht hform hmax
  have hlexeme : String.ofList (c :: w) = lexeme := ht ▸ String.ofList_toList
  cases kind with
  | keyword =>
    obtain ⟨k, rfl, hk⟩ := hform
    obtain ⟨c', w', hcw, hc, hw⟩ := k.word_text
    obtain ⟨rfl, rfl⟩ := List.cons.inj (ht.symm.trans (hk ▸ hcw))
    exact .keyword hc hw hmax (Keyword.ofText?_eq_some_iff.2 (hk.trans hlexeme.symm))
  | identifier =>
    obtain ⟨rfl, ⟨c', w', hcw, hc, hw⟩, hk⟩ := hform
    obtain ⟨rfl, rfl⟩ := List.cons.inj (ht.symm.trans hcw)
    exact .identifier hc hw hmax (Keyword.ofText?_eq_none_iff.2 (hlexeme ▸ hk))
  | operator =>
    obtain ⟨o, rfl, ho⟩ := hform
    have hchars : o.chars = c :: w := String.ofList_injective (ho.trans hlexeme.symm)
    refine .operator hchars (Operator.leading?_eq_some_iff.2 ⟨⟨r, ?_⟩, fun p hp => ?_⟩) ?_
    · rw [hchars, List.cons_append]
    · rw [hchars, ← ht, String.length_toList]
      exact hmax.1 p (by rwa [ht])
    · rintro rfl
      exact hmax.2 rfl
  | delimiter =>
    obtain ⟨d, rfl, hd⟩ := hform
    have hchar : [d.char] = c :: w :=
      String.ofList_injective ((d.text_eq.symm.trans hd).trans hlexeme.symm)
    obtain ⟨rfl, rfl⟩ := List.cons.inj hchar
    exact .delimiter d.ofChar?_char
  | stringLiteral =>
    obtain ⟨rfl, inside, hstring, hquote, hline⟩ := hform
    obtain ⟨rfl, rfl⟩ := List.cons.inj (ht.symm.trans hstring)
    refine .string fun d hd => ?_
    rw [Bool.and_eq_true, bne_iff_ne, bne_iff_ne]
    exact ⟨ne_of_mem_of_not_mem hd hquote, ne_of_mem_of_not_mem hd hline⟩
  | intLiteral =>
    obtain ⟨rfl, -, hdigits⟩ := hform
    obtain ⟨hc, hw⟩ := List.forall_mem_cons.1 (ht ▸ hdigits)
    exact .int hc hw hmax.1 hmax.2
  | floatLiteral =>
    obtain ⟨rfl, whole, decimals, hfloat, ⟨hwhole, hw⟩, hdecimals, hv⟩ := hform
    obtain ⟨c', w', rfl⟩ := List.exists_cons_of_ne_nil hwhole
    obtain ⟨d, v, rfl⟩ := List.exists_cons_of_ne_nil hdecimals
    obtain ⟨rfl, rfl⟩ := List.cons.inj (ht.symm.trans hfloat)
    obtain ⟨hc, hw⟩ := List.forall_mem_cons.1 hw
    exact .float hc hw hv hmax

/-- **The lexical rules for tokens**, said of the token and of what stands behind it. -/
theorem reads_token_iff (ht : t.lexeme.toList = c :: w) :
    Reads (.token t.category t.kind) c w r ↔ t.WellFormed ∧ t.Maximal r :=
  ⟨fun h => h.token_classified ht, fun ⟨hform, hmax⟩ => .of_classified ht hform hmax⟩

end Piece

/-- **Every token is well formed, classified as its lexeme demands, and maximal.**  Each token of a
source is a part of it, between the byte offsets of its span; the end marker is none of them; the
lexeme is one of the kind of the token, with the category that goes with it; and what the source
goes on with does not continue it. -/
theorem Scan.tokens_classified (detailed : Bool) (source : String) {t : Token}
    (h : t ∈ (ofSource detailed source).tokens) :
    t.category ≠ .endMark ∧ t.WellFormed ∧
    ∃ before behind : String, source = before ++ t.lexeme ++ behind ∧
      t.span.start.offset = before.utf8ByteSize ∧
      t.span.stop.offset = (before ++ t.lexeme).utf8ByteSize ∧ t.Maximal behind.toList := by
  obtain ⟨as, c, w, r, hsource, hreads, hlexeme, hspan⟩ := exists_of_mem_tokens h
  have ht : t.lexeme.toList = c :: w := hlexeme ▸ String.toList_ofList
  obtain ⟨hform, hmax⟩ := (reads_token_iff ht).1 hreads
  refine ⟨hreads.category_ne, hform, String.ofList as, String.ofList r, ?_, ?_, ?_, ?_⟩
  · refine String.toList_injective ?_
    simp [hsource, ht]
  · rw [hspan, Position.offset_after, utf8ByteSize_eq, String.toList_ofList]
    exact Nat.zero_add _
  · rw [hspan, Position.offset_after, utf8ByteSize_eq, String.toList_append, String.toList_ofList,
      ht]
    exact Nat.zero_add _
  · rwa [String.toList_ofList]

/-- An operator of two characters, between a word and a number with a point. -/
theorem Scan.tokens_classified_comparison :
    let t : Token := ⟨.operator .ge, .operator, ">=", ⟨⟨2, 1, 3⟩, ⟨4, 1, 5⟩⟩⟩
    t ∈ (ofSource false "a >=2.5").tokens ∧ t.WellFormed ∧
    ∃ before behind : String, "a >=2.5" = before ++ ">=" ++ behind ∧
      t.Maximal behind.toList := by
  intro t
  have ht : t ∈ (ofSource false "a >=2.5").tokens := by decide +kernel
  obtain ⟨-, hform, before, behind, hsource, -, -, hmax⟩ := tokens_classified false "a >=2.5" ht
  exact ⟨ht, hform, before, behind, hsource, hmax⟩

end Lookahead
