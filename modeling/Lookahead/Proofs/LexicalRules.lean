import Lookahead.Scan.Piece

/-!
# The lexical rules

What the pieces of a source are, said of the text of a piece and of what stands behind it
(`Piece.Reads`).  The scan reads by these rules and by no others: its first piece is read by one of
them (`Piece.reads_first`), and whatever is read by one of them is its first piece
(`Piece.Reads.cut_eq`).  What holds of a text and its pieces is shown along the rules
(`Piece.reads_induction`).

Each rule says what the characters of the piece are and, where the piece could be longer, that the
text does not go on so (`Text.Stops`).
-/

namespace Lookahead

/-! ### Runs of characters -/

namespace Text

/-- The text does not go on with a character of the class. -/
def Stops (p : Char → Bool) (cs : List Char) : Prop := ∀ c, cs.head? = some c → p c = false

variable {p : Char → Bool} {w cs : List Char}

theorem stops_nil : Stops p [] := fun _ h => by cases h

theorem stops_cons {c : Char} : Stops p (c :: cs) ↔ p c = false := by
  simp [Stops]

/-- A run is at the front of a text if its characters are in the class and the text does not go on
with one. -/
theorem takeWhile_eq (hw : ∀ c ∈ w, p c) (h : Stops p cs) : (w ++ cs).takeWhile p = w := by
  rw [List.takeWhile_append_of_pos hw]
  cases cs with
  | nil => simp
  | cons c cs => simp [stops_cons.1 h]

theorem dropWhile_eq (h : Stops p cs) : cs.dropWhile p = cs := by
  cases cs with
  | nil => rfl
  | cons c cs => rw [List.dropWhile_cons_of_neg (Bool.eq_false_iff.1 (stops_cons.1 h))]

/-- A text begins with a run, which stops at what is left. -/
theorem exists_run (p : Char → Bool) (cs : List Char) :
    ∃ w rest, cs = w ++ rest ∧ (∀ c ∈ w, p c) ∧ Stops p rest := by
  induction cs with
  | nil => exact ⟨[], [], rfl, fun _ h => (List.not_mem_nil h).elim, stops_nil⟩
  | cons c cs ih =>
    by_cases hc : p c
    · obtain ⟨w, rest, rfl, hw, hr⟩ := ih
      refine ⟨c :: w, rest, rfl, fun d hd => ?_, hr⟩
      rcases List.mem_cons.1 hd with rfl | hd
      · exact hc
      · exact hw d hd
    · exact ⟨[], c :: cs, rfl, fun _ h => (List.not_mem_nil h).elim,
        stops_cons.2 (Bool.eq_false_iff.2 hc)⟩

end Text

open Text

/-! ### Where tokens begin -/

namespace CharRanges

/-- The code points of a class, one by one. -/
def codePoints (rs : CharRanges) : List Nat := rs.flatMap fun r => List.range' r.1 (r.2 + 1 - r.1)

theorem mem_codePoints {rs : CharRanges} {n : Nat} (h : rs.has n) : n ∈ rs.codePoints := by
  induction rs with
  | nil => cases h
  | cons r rs ih =>
    rw [has] at h
    rw [codePoints, List.flatMap_cons, List.mem_append, List.mem_range'_1]
    split at h
    · cases h
    · rcases Bool.or_eq_true_iff.1 h with hle | h
      · have := of_decide_eq_true hle
        exact .inl (by omega)
      · exact .inr (ih h)

end CharRanges

/-- No blank is in a word. -/
theorem isWordPart_of_isBlank {c : Char} (h : isBlank c) : isWordPart c = false := by
  have hall : ∀ n ∈ blankRanges.codePoints,
      alphabeticRanges.has n = false ∧ numericRanges.has n = false ∧ n ≠ '_'.toNat := by
    decide +kernel
  obtain ⟨ha, hn, hu⟩ := hall c.toNat (CharRanges.mem_codePoints h)
  rw [isWordPart, isAlphanumeric, isAlphabetic, isNumeric, ha, hn, Bool.false_or, Bool.false_or,
    beq_eq_false_iff_ne]
  rintro rfl
  exact hu rfl

theorem isWordPart_of_isWordStart {c : Char} (h : isWordStart c) : isWordPart c := by
  rw [isWordPart, isAlphanumeric]
  rcases Bool.or_eq_true_iff.1 h with h | h <;> simp [h]

theorem isBlank_of_isWordPart {c : Char} (h : isWordPart c) : isBlank c = false :=
  Bool.eq_false_iff.2 fun hblank => Bool.eq_false_iff.1 (isWordPart_of_isBlank hblank) h

/-- A digit is no blank, and no word, operator, delimiter or string begins with it. -/
theorem plain_of_isDigit {c : Char} (h : isDigit c) :
    isBlank c = false ∧ isWordStart c = false ∧ Delimiter.ofChar? c = none ∧ c ≠ '"' ∧
      ∀ o ∈ Operator.all, c ∉ o.chars := by
  have hall : ∀ n ∈ List.range' 48 10, isBlank (.ofNat n) = false ∧
      isWordStart (.ofNat n) = false ∧ Delimiter.ofChar? (.ofNat n) = none ∧ .ofNat n ≠ '"' ∧
        ∀ o ∈ Operator.all, .ofNat n ∉ o.chars := by
    decide +kernel
  simp only [isDigit, Bool.and_eq_true, decide_eq_true_eq, Char.le_def, UInt32.le_iff_toNat_le] at h
  have hn : c.toNat ∈ List.range' 48 10 := List.mem_range'_1.2 ⟨h.1, Nat.lt_succ_of_le h.2⟩
  exact Char.ofNat_toNat c ▸ hall c.toNat hn

/-- No blank is in an operator, and no word or string begins with an operator. -/
theorem plain_of_operator {o : Operator} {c : Char} (hc : c ∈ o.chars) :
    isBlank c = false ∧ isWordStart c = false ∧ c ≠ '"' := by
  have hall : Operator.all.all fun o => o.chars.all fun c =>
      !isBlank c && !isWordStart c && c != '"' := by
    decide +kernel
  have := List.all_eq_true.1 (List.all_eq_true.1 hall o o.mem_all) c hc
  simpa [and_assoc] using this

/-- No word, operator or string begins with a delimiter, and no delimiter is blank. -/
theorem plain_of_delimiter : ∀ d ∈ Delimiter.all, isBlank d.char = false ∧
    isWordStart d.char = false ∧ d.char ≠ '"' ∧ ∀ o ∈ Operator.all, d.char ∉ o.chars := by
  decide +kernel

namespace Operator

theorem chars_ne_nil : ∀ o ∈ all, o.chars ≠ [] := by decide

theorem leading?_isPrefix {cs : List Char} {o : Operator} (h : leading? cs = some o) :
    o.chars <+: cs := by
  rw [leading?] at h
  have : o.chars.isPrefixOf cs := List.find?_some (p := fun o : Operator => o.chars.isPrefixOf cs) h
  exact List.isPrefixOf_iff_prefix.1 this

/-- No operator is at the front of a text that begins with a character of none. -/
theorem leading?_cons_of_not_mem {c : Char} (hc : ∀ o ∈ all, c ∉ o.chars) (cs : List Char) :
    leading? (c :: cs) = none := by
  rw [leading?, List.find?_eq_none]
  intro o ho hp
  obtain ⟨d, t, hd⟩ := List.exists_cons_of_ne_nil (chars_ne_nil o ho)
  have hpre := List.isPrefixOf_iff_prefix.1 hp
  rw [hd, List.cons_prefix_cons] at hpre
  exact hc o ho (hd ▸ hpre.1 ▸ List.mem_cons_self)

/-- Which operator a text begins with is told by what stands in front of a character of none. -/
theorem leading?_append_cons {c : Char} (hc : ∀ o ∈ all, c ∉ o.chars) (cs b : List Char) :
    leading? (cs ++ c :: b) = leading? cs := by
  rw [leading?, leading?, ← List.head?_filter, ← List.head?_filter]
  congr 1
  refine List.filter_congr fun o ho => ?_
  rw [Bool.eq_iff_iff, List.isPrefixOf_iff_prefix, List.isPrefixOf_iff_prefix]
  refine ⟨fun h => ?_, fun h => h.trans (List.prefix_append _ _)⟩
  rcases Nat.le_total o.chars.length cs.length with hle | hlt
  · exact List.prefix_of_prefix_length_le h (List.prefix_append _ _) hle
  · -- an operator that reached `c` would hold it
    by_cases heq : o.chars.length = cs.length
    · exact List.prefix_of_prefix_length_le h (List.prefix_append _ _) (Nat.le_of_eq heq)
    · have hcs : cs ++ [c] <+: o.chars :=
        List.prefix_of_prefix_length_le ⟨b, by simp⟩ h (by simp; omega)
      exact absurd (hcs.subset (by simp)) (hc o ho)

/-- A blank tells which operator stands before it. -/
theorem leading?_append_of_stops (cs : List Char) {r : List Char} (hr : Stops (!isBlank ·) r) :
    leading? (cs ++ r) = leading? cs := by
  cases r with
  | nil => rw [List.append_nil]
  | cons c r =>
    have hc : isBlank c = true := by simpa using stops_cons.1 hr
    exact leading?_append_cons
      (fun o _ hm => Bool.false_ne_true ((plain_of_operator hm).1.symm.trans hc)) cs r

theorem slash_or_slashAssign :
    ∀ o ∈ all, o.chars.head? = some '/' → o = slash ∨ o = slashAssign := by
  decide

end Operator

theorem Delimiter.char_of_ofChar? {c : Char} {d : Delimiter} (h : ofChar? c = some d) :
    d.char = c := by
  rw [ofChar?] at h
  have : (d.char == c) = true := List.find?_some (p := fun d : Delimiter => d.char == c) h
  exact eq_of_beq this

/-! ### Where a comment closes -/

namespace Piece

/-- No comment closes in the text. -/
def NoClose (cs : List Char) : Prop := ¬ ['*', '/'] <:+: cs

theorem noClose_nil : NoClose [] := by
  simp [NoClose]

theorem noClose_cons {c : Char} {cs : List Char} :
    NoClose (c :: cs) ↔ ¬ (c = '*' ∧ cs.head? = some '/') ∧ NoClose cs := by
  rw [NoClose, NoClose, List.infix_cons_iff, not_or, List.cons_prefix_cons]
  cases cs with
  | nil => simp
  | cons d cs => simp [List.cons_prefix_cons, @eq_comm _ '*', @eq_comm _ '/']

/-- A text closes a comment for a first time, or it closes none. -/
theorem exists_close (cs : List Char) :
    (∃ body r, cs = body ++ '*' :: '/' :: r ∧ NoClose body) ∨ NoClose cs := by
  induction cs with
  | nil => exact .inr noClose_nil
  | cons c cs ih =>
    by_cases hc : c = '*' ∧ cs.head? = some '/'
    · obtain ⟨rfl, hcs⟩ := hc
      obtain ⟨r, rfl⟩ := List.head?_eq_some_iff.1 hcs
      exact .inl ⟨[], r, rfl, noClose_nil⟩
    · rcases ih with ⟨body, r, rfl, hbody⟩ | hcs
      · refine .inl ⟨c :: body, r, rfl, noClose_cons.2 ⟨?_, hbody⟩⟩
        rintro ⟨rfl, hhead⟩
        obtain ⟨t, rfl⟩ := List.head?_eq_some_iff.1 hhead
        exact hc ⟨rfl, rfl⟩
      · exact .inr (noClose_cons.2 ⟨hc, hcs⟩)

theorem closeFrom_cons {c : Char} {cs : List Char} (h : ¬ (c = '*' ∧ cs.head? = some '/'))
    (n : Nat) : closeFrom n (c :: cs) = closeFrom (n + 1) cs := by
  rw [closeFrom.eq_3]
  rintro t rfl rfl
  exact h ⟨rfl, rfl⟩

theorem closeFrom_of_noClose {cs : List Char} (h : NoClose cs) (n : Nat) :
    closeFrom n cs = none := by
  induction cs generalizing n with
  | nil => rfl
  | cons c cs ih =>
    obtain ⟨hc, hcs⟩ := noClose_cons.1 h
    rw [closeFrom_cons hc, ih hcs]

theorem closeFrom_append {body : List Char} (h : NoClose body) (n : Nat) (r : List Char) :
    closeFrom n (body ++ '*' :: '/' :: r) = some (n + body.length + 2) := by
  induction body generalizing n with
  | nil => rfl
  | cons c body ih =>
    obtain ⟨hc, hbody⟩ := noClose_cons.1 h
    rw [List.cons_append, closeFrom_cons, ih hbody, List.length_cons]
    · congr 1; omega
    · -- the star of the closing `*/` is no slash
      rintro ⟨rfl, hhead⟩
      cases body with
      | nil => simp at hhead
      | cons d body => exact hc ⟨rfl, hhead⟩

/-! ### The rules -/

/-- A piece of a kind that begins with a character, goes on with `w`, and has `r` behind it. -/
inductive Reads : PieceKind → Char → List Char → List Char → Prop
  | blank {c : Char} {r : List Char} (hc : isBlank c) : Reads .blank c [] r
  | lineComment {body r : List Char} (hbody : '\n' ∉ body) (hr : Stops (· != '\n') r) :
    Reads .lineComment '/' ('/' :: body) r
  | blockComment {body r : List Char} (hbody : NoClose body) :
    Reads .blockComment '/' ('*' :: (body ++ ['*', '/'])) r
  | openComment {body : List Char} (hbody : NoClose body) :
    Reads (.fault .unterminatedComment) '/' ('*' :: body) []
  | string {inside r : List Char} (hinside : ∀ d ∈ inside, (d != '"' && d != '\n')) :
    Reads (.token .literal .stringLiteral) '"' (inside ++ ['"']) r
  /-- The carriage returns that end the line are left out. -/
  | openString {inside r : List Char} {n : Nat} (hinside : ∀ d ∈ inside, (d != '"' && d != '\n'))
    (hlast : inside.getLast? ≠ some '\r') (hr : Stops (· != '\n') r) :
    Reads (.fault .unterminatedString) '"' inside (List.replicate n '\r' ++ r)
  | keyword {c : Char} {w r : List Char} {k : Keyword} (hc : isWordStart c)
    (hw : ∀ d ∈ w, isWordPart d) (hr : Stops isWordPart r)
    (hk : Keyword.ofText? (String.ofList (c :: w)) = some k) : Reads (.token k .keyword) c w r
  | identifier {c : Char} {w r : List Char} (hc : isWordStart c) (hw : ∀ d ∈ w, isWordPart d)
    (hr : Stops isWordPart r) (hk : Keyword.ofText? (String.ofList (c :: w)) = none) :
    Reads (.token .identifier .identifier) c w r
  | operator {o : Operator} {c : Char} {w r : List Char} (ho : o.chars = c :: w)
    (hlead : Operator.leading? (c :: (w ++ r)) = some o)
    (hr : o = .slash → Stops (fun d => d == '/' || d == '*') r) : Reads (.token o .operator) c w r
  | delimiter {d : Delimiter} {c : Char} {r : List Char} (hd : Delimiter.ofChar? c = some d) :
    Reads (.token d .delimiter) c [] r
  | int {c : Char} {w r : List Char} (hc : isDigit c) (hw : ∀ d ∈ w, isDigit d)
    (hr : Stops isDigit r) (hpoint : ∀ r', r = '.' :: r' → Stops isDigit r') :
    Reads (.token .number .intLiteral) c w r
  | float {c d : Char} {w v r : List Char} (hc : isDigit c) (hw : ∀ d ∈ w, isDigit d)
    (hv : ∀ e ∈ d :: v, isDigit e) (hr : Stops isDigit r) :
    Reads (.token .number .floatLiteral) c (w ++ '.' :: d :: v) r
  /-- No other rule applies to the text up to the next blank. -/
  | invalid {c : Char} {w r : List Char} (hw : ∀ d ∈ c :: w, (!isBlank d))
    (hr : Stops (!isBlank ·) r) (hquote : c ≠ '"') (hword : isWordStart c = false)
    (hop : Operator.leading? (c :: w) = none) (hdel : Delimiter.ofChar? c = none)
    (hdigit : isDigit c = false) : Reads (.fault .invalidLexeme) c w r

/-! ### What pieces are -/

theorem Reads.category_ne {a : Terminal} {k : TokenKind} {c : Char} {w r : List Char}
    (h : Reads (.token a k) c w r) : a ≠ .endMark := by
  cases h <;> exact Terminal.noConfusion

theorem Reads.isWordStart {a : Terminal} {c : Char} {w r : List Char}
    (h : Reads (.token a .identifier) c w r) : isWordStart c := by
  cases h with
  | identifier hc => exact hc

/-- A token is on one line and does not end with a blank: a string ends with its quote, and other
tokens have no blank at all. -/
theorem Reads.token_text {a : Terminal} {k : TokenKind} {c : Char} {w r : List Char}
    (h : Reads (.token a k) c w r) :
    '\n' ∉ c :: w ∧ ∃ v d, c :: w = v ++ [d] ∧ isBlank d = false := by
  have hsolid : (∀ d ∈ c :: w, isBlank d = false) →
      '\n' ∉ c :: w ∧ ∃ v d, c :: w = v ++ [d] ∧ isBlank d = false := fun hall =>
    ⟨fun hmem => Bool.false_ne_true ((hall _ hmem).symm.trans isBlank_newline),
      (c :: w).dropLast, (c :: w).getLast (List.cons_ne_nil _ _),
      (List.dropLast_concat_getLast _).symm, hall _ (List.getLast_mem _)⟩
  cases h with
  | @string inside _ hinside =>
    refine ⟨fun hmem => ?_, '"' :: inside, '"', rfl, rfl⟩
    rcases List.mem_cons.1 hmem with h | h
    · cases h
    · rcases List.mem_append.1 h with h | h
      · simpa using hinside _ h
      · cases List.mem_singleton.1 h
  | keyword hc hw | identifier hc hw =>
    refine hsolid (List.forall_mem_cons.2 ⟨?_, fun d hd => isBlank_of_isWordPart (hw d hd)⟩)
    exact isBlank_of_isWordPart (isWordPart_of_isWordStart hc)
  | @operator o _ _ _ ho =>
    exact hsolid fun d hd => (plain_of_operator (ho ▸ hd)).1
  | @delimiter d _ _ hd =>
    refine hsolid fun e he => ?_
    rw [List.mem_singleton.1 he, ← Delimiter.char_of_ofChar? hd]
    exact (plain_of_delimiter d d.mem_all).1
  | int hc hw =>
    exact hsolid (List.forall_mem_cons.2
      ⟨(plain_of_isDigit hc).1, fun d hd => (plain_of_isDigit (hw d hd)).1⟩)
  | float hc hw hv =>
    refine hsolid (List.forall_mem_cons.2 ⟨(plain_of_isDigit hc).1, fun d hd => ?_⟩)
    rcases List.mem_append.1 hd with hd | hd
    · exact (plain_of_isDigit (hw d hd)).1
    · rcases List.mem_cons.1 hd with rfl | hd
      · rfl
      · exact (plain_of_isDigit (hv d hd)).1

/-- A fault is on one line, too, if it is no open comment. -/
theorem Reads.fault_text {k : LexicalErrorKind} {c : Char} {w r : List Char}
    (h : Reads (.fault k) c w r) (hk : k ≠ .unterminatedComment) : '\n' ∉ c :: w := by
  intro hmem
  cases h with
  | openComment => exact hk rfl
  | openString hinside =>
    rcases List.mem_cons.1 hmem with h | h
    · cases h
    · simpa using hinside _ h
  | invalid hw => simpa [isBlank_newline] using hw _ hmem

/-! ### Reading and scanning -/

theorem runLength_append {p : Char → Bool} {w r : List Char} (hw : ∀ d ∈ w, p d) (hr : Stops p r) :
    runLength p (w ++ r) = w.length := by
  rw [runLength, takeWhile_eq hw hr]

theorem lead_of_isWordStart {c : Char} (hc : isWordStart c) (cs : List Char) :
    lead c cs = leadWord c cs := by
  have hblank : isBlank c = false := isBlank_of_isWordPart (isWordPart_of_isWordStart hc)
  have hslash : c ≠ '/' := by rintro rfl; exact absurd hc (by decide)
  have hquote : c ≠ '"' := by rintro rfl; exact absurd hc (by decide)
  simp [lead, hblank, hslash, hquote, hc]

theorem lead_of_sign {c : Char} {cs : List Char} (hblank : isBlank c = false)
    (hword : isWordStart c = false) (hquote : c ≠ '"')
    (hcomment : c = '/' → Stops (fun d => d == '/' || d == '*') cs) :
    lead c cs = leadSign c cs := by
  have hline : ¬ (c = '/' ∧ cs.head? = some '/') := fun h => by
    simpa using hcomment h.1 _ h.2
  have hblock : ¬ (c = '/' ∧ cs.head? = some '*') := fun h => by
    simpa using hcomment h.1 _ h.2
  simp [lead, hblank, hword, hquote, hline, hblock]

theorem lead_of_isDigit {c : Char} (hc : isDigit c) (cs : List Char) :
    lead c cs = leadNumber cs := by
  obtain ⟨hblank, hword, hdel, hquote, hop⟩ := plain_of_isDigit hc
  rw [lead_of_sign hblank hword hquote (by rintro rfl; exact absurd hc (by decide)), leadSign,
    Operator.leading?_cons_of_not_mem hop, hdel]
  simp [hc]

theorem leadString_close {inside : List Char} (h : ∀ d ∈ inside, (d != '"' && d != '\n'))
    (r : List Char) :
    leadString (inside ++ '"' :: r) = (.token .literal .stringLiteral, inside.length + 1) := by
  rw [leadString, takeWhile_eq h (stops_cons.2 (by decide))]
  simp

theorem leadString_open {inside r : List Char} {n : Nat}
    (h : ∀ d ∈ inside, (d != '"' && d != '\n')) (hlast : inside.getLast? ≠ some '\r')
    (hr : Stops (· != '\n') r) :
    leadString (inside ++ (List.replicate n '\r' ++ r)) =
      (.fault .unterminatedString, inside.length) := by
  have hall : ∀ d ∈ inside ++ List.replicate n '\r', (d != '"' && d != '\n') := fun d hd => by
    rcases List.mem_append.1 hd with hd | hd
    · exact h d hd
    · rw [List.eq_of_mem_replicate hd]; rfl
  have hstop : Stops (fun d => d != '"' && d != '\n') r := fun d hd => by simp [hr d hd]
  have hquote : r.head? ≠ some '"' := fun hd => by simpa using hr _ hd
  have hdrop : inside.reverse.dropWhile (· == '\r') = inside.reverse := by
    refine dropWhile_eq fun d hd => beq_eq_false_iff_ne.2 ?_
    rintro rfl
    exact hlast (List.head?_reverse ▸ hd)
  rw [leadString, ← List.append_assoc, takeWhile_eq hall hstop]
  simp [hquote, hdrop, List.dropWhile_append_of_pos]

theorem leadNumber_int {w r : List Char} (hw : ∀ d ∈ w, isDigit d) (hr : Stops isDigit r)
    (hpoint : ∀ r', r = '.' :: r' → Stops isDigit r') :
    leadNumber (w ++ r) = (.token .number .intLiteral, w.length) := by
  rw [leadNumber, runLength_append hw hr, List.drop_left]
  split
  · next r' =>
    have : runLength isDigit r' = 0 := runLength_append (w := []) (by simp) (hpoint r' rfl)
    simp [this]
  · simp

theorem leadNumber_float {w v r : List Char} {d : Char} (hw : ∀ d ∈ w, isDigit d)
    (hv : ∀ e ∈ d :: v, isDigit e) (hr : Stops isDigit r) :
    leadNumber (w ++ '.' :: (d :: v ++ r)) =
      (.token .number .floatLiteral, (w ++ '.' :: d :: v).length) := by
  have hdecimals : runLength isDigit (d :: (v ++ r)) = v.length + 1 := runLength_append hv hr
  rw [leadNumber, runLength_append hw (stops_cons.2 (by decide)), List.drop_left]
  simp [hdecimals]
  exact Nat.add_right_comm _ _ _

/-- What is read at the front of a text is its first piece. -/
theorem Reads.lead_eq {k : PieceKind} {c : Char} {w r : List Char} (h : Reads k c w r) :
    lead c (w ++ r) = (k, w.length) := by
  have hslash : isBlank '/' = false := rfl
  -- Each rule says enough of its piece to settle the tests that are made before it.
  cases h with
  | blank hc => simp [lead, hc]
  | @lineComment body _ hbody hr =>
    have hall : ∀ d ∈ '/' :: body, (d != '\n') := fun d hd => by
      rcases List.mem_cons.1 hd with rfl | hd
      · rfl
      · exact bne_iff_ne.2 (ne_of_mem_of_not_mem hd hbody)
    rw [lead, runLength_append hall hr]
    simp [hslash]
  | @blockComment body _ hbody =>
    simp [lead, hslash, closeFrom_append hbody]
    omega
  | openComment hbody => simp [lead, hslash, closeFrom_of_noClose hbody]
  | string hinside =>
    have hquote : isBlank '"' = false := rfl
    simp [lead, hquote, leadString_close hinside]
  | openString hinside hlast hr =>
    have hquote : isBlank '"' = false := rfl
    simp [lead, hquote, leadString_open hinside hlast hr]
  | keyword hc hw hr hk => rw [lead_of_isWordStart hc, leadWord, takeWhile_eq hw hr, hk]
  | identifier hc hw hr hk => rw [lead_of_isWordStart hc, leadWord, takeWhile_eq hw hr, hk]
  | @operator o _ _ _ ho hlead hr =>
    obtain ⟨hblank, hword, hquote⟩ := plain_of_operator (ho ▸ List.mem_cons_self : c ∈ o.chars)
    have hcomment : c = '/' → Stops (fun d => d == '/' || d == '*') (w ++ r) := by
      rintro rfl
      -- a slash alone could begin a comment, but for what stands behind it
      rcases Operator.slash_or_slashAssign o o.mem_all (by rw [ho]; rfl) with rfl | rfl
      · cases ho; exact hr rfl
      · cases ho; exact stops_cons.2 rfl
    rw [lead_of_sign hblank hword hquote hcomment, leadSign, hlead]
    simp [ho]
  | @delimiter d _ _ hd =>
    obtain rfl := Delimiter.char_of_ofChar? hd
    obtain ⟨hblank, hword, hquote, hop⟩ := plain_of_delimiter d d.mem_all
    have hcomment : d.char = '/' → Stops (fun d => d == '/' || d == '*') r := fun h =>
      absurd (h ▸ List.mem_cons_self) (hop .slash (Operator.mem_all _))
    rw [List.nil_append, lead_of_sign hblank hword hquote hcomment, leadSign,
      Operator.leading?_cons_of_not_mem hop, hd]
    rfl
  | int hc hw hr hpoint => rw [lead_of_isDigit hc, leadNumber_int hw hr hpoint]
  | float hc hw hv hr =>
    rw [lead_of_isDigit hc, List.append_assoc, List.cons_append, leadNumber_float hw hv hr]
  | invalid hw hr hquote hword hop hdel hdigit =>
    have hblank := Bool.not_eq_true' _ ▸ hw _ List.mem_cons_self
    have hcomment : c = '/' → Stops (fun d => d == '/' || d == '*') (w ++ r) := by
      rintro rfl
      -- a slash would be an operator
      exact absurd (List.isPrefixOf_iff_prefix.2 ⟨w, rfl⟩)
        (List.find?_eq_none.1 hop .slash (Operator.mem_all _))
    have hlead : Operator.leading? (c :: (w ++ r)) = none :=
      (Operator.leading?_append_of_stops (c :: w) hr).trans hop
    rw [lead_of_sign hblank hword hquote hcomment, leadSign, hlead, hdel]
    simp [hdigit, runLength_append (fun d hd => hw d (List.mem_cons_of_mem _ hd)) hr]

/-! ### Every text is read -/

theorem exists_reads_comment {cs : List Char} (h : ¬ Stops (fun d => d == '/' || d == '*') cs) :
    ∃ k w r, cs = w ++ r ∧ Reads k '/' w r := by
  cases cs with
  | nil => exact absurd stops_nil h
  | cons d cs =>
    rw [stops_cons, Bool.not_eq_false, Bool.or_eq_true, beq_iff_eq, beq_iff_eq] at h
    rcases h with rfl | rfl
    · obtain ⟨body, r, rfl, hbody, hr⟩ := exists_run (· != '\n') cs
      exact ⟨_, '/' :: body, r, rfl, .lineComment (fun h => by simpa using hbody _ h) hr⟩
    · rcases exists_close cs with ⟨body, r, rfl, hbody⟩ | hcs
      · exact ⟨_, '*' :: (body ++ ['*', '/']), r, by simp, .blockComment hbody⟩
      · exact ⟨_, '*' :: cs, [], by simp, .openComment hcs⟩

/-- A text and the carriage returns it ends with. -/
theorem exists_returns (cs : List Char) :
    ∃ inside n, cs = inside ++ List.replicate n '\r' ∧ inside.getLast? ≠ some '\r' := by
  obtain ⟨u, v, huv, hu, hv⟩ := exists_run (· == '\r') cs.reverse
  have hrep : u = List.replicate u.length '\r' :=
    List.eq_replicate_iff.2 ⟨rfl, fun d hd => eq_of_beq (hu d hd)⟩
  refine ⟨v.reverse, u.length, ?_, fun h => ?_⟩
  · rw [← List.reverse_reverse cs, huv, List.reverse_append, hrep]
    simp
  · rw [List.getLast?_reverse] at h
    exact absurd (hv _ h) (by decide)

theorem exists_reads_string (cs : List Char) : ∃ k w r, cs = w ++ r ∧ Reads k '"' w r := by
  obtain ⟨w, rest, rfl, hw, hrest⟩ := exists_run (fun d => d != '"' && d != '\n') cs
  by_cases hquote : rest.head? = some '"'
  · obtain ⟨r, rfl⟩ := List.head?_eq_some_iff.1 hquote
    exact ⟨_, w ++ ['"'], r, by simp, .string hw⟩
  · obtain ⟨inside, n, rfl, hlast⟩ := exists_returns w
    have hline : Stops (· != '\n') rest := fun d hd => by
      have hne : d ≠ '"' := fun h => hquote (h ▸ hd)
      simpa [hne] using hrest d hd
    exact ⟨_, inside, List.replicate n '\r' ++ rest, List.append_assoc ..,
      .openString (fun d hd => hw d (List.mem_append_left _ hd)) hlast hline⟩

theorem exists_reads_word {c : Char} (hc : isWordStart c) (cs : List Char) :
    ∃ k w r, cs = w ++ r ∧ Reads k c w r := by
  obtain ⟨w, r, rfl, hw, hr⟩ := exists_run isWordPart cs
  cases hk : Keyword.ofText? (String.ofList (c :: w)) with
  | some k => exact ⟨_, w, r, rfl, .keyword hc hw hr hk⟩
  | none => exact ⟨_, w, r, rfl, .identifier hc hw hr hk⟩

theorem exists_reads_number {c : Char} (hc : isDigit c) (cs : List Char) :
    ∃ k w r, cs = w ++ r ∧ Reads k c w r := by
  obtain ⟨w, rest, rfl, hw, hrest⟩ := exists_run isDigit cs
  -- a point belongs to the number if a digit is behind it
  by_cases hpoint : ∀ r, rest = '.' :: r → Stops isDigit r
  · exact ⟨_, w, rest, rfl, .int hc hw hrest hpoint⟩
  · rw [Classical.not_forall] at hpoint
    obtain ⟨r, hr⟩ := hpoint
    rw [Classical.not_imp] at hr
    obtain ⟨rfl, hr⟩ := hr
    obtain ⟨v, r, rfl, hv, hstop⟩ := exists_run isDigit r
    cases v with
    | nil => exact absurd hstop hr
    | cons d v => exact ⟨_, w ++ '.' :: d :: v, r, by simp, .float hc hw hv hstop⟩

/-- Every text begins with a piece. -/
theorem exists_reads (c : Char) (cs : List Char) : ∃ k w r, cs = w ++ r ∧ Reads k c w r := by
  -- The rules exclude each other, so they can be tried in any order.
  by_cases hblank : isBlank c
  · exact ⟨_, [], cs, rfl, .blank hblank⟩
  by_cases hquote : c = '"'
  · exact hquote ▸ exists_reads_string cs
  by_cases hword : isWordStart c
  · exact exists_reads_word hword cs
  by_cases hdigit : isDigit c
  · exact exists_reads_number hdigit cs
  by_cases hcomment : c = '/' ∧ ¬ Stops (fun d => d == '/' || d == '*') cs
  · exact hcomment.1 ▸ exists_reads_comment hcomment.2
  rw [Bool.not_eq_true] at hblank hword hdigit
  cases hop : Operator.leading? (c :: cs) with
  | some o =>
    obtain ⟨r, hr⟩ := Operator.leading?_isPrefix hop
    obtain ⟨d, w, ho⟩ := List.exists_cons_of_ne_nil (Operator.chars_ne_nil o o.mem_all)
    rw [ho] at hr
    injection hr with hd hcs
    subst hd hcs
    refine ⟨_, w, r, rfl, .operator ho hop ?_⟩
    rintro rfl
    cases ho
    exact Classical.byContradiction fun h => hcomment ⟨rfl, h⟩
  | none =>
    cases hdel : Delimiter.ofChar? c with
    | some d => exact ⟨_, [], cs, rfl, .delimiter hdel⟩
    | none =>
      obtain ⟨w, r, rfl, hw, hr⟩ := exists_run (!isBlank ·) cs
      rw [← List.cons_append, Operator.leading?_append_of_stops _ hr] at hop
      have hall : ∀ d ∈ c :: w, (!isBlank d) := List.forall_mem_cons.2 ⟨by simp [hblank], hw⟩
      exact ⟨_, w, r, rfl, .invalid hall hr hquote hword hop hdel hdigit⟩

/-- The first piece of a text is read by one of the rules. -/
theorem reads_first (c : Char) (cs : List Char) :
    Reads (first c cs).kind c (cs.take (lead c cs).2) (rest c cs) := by
  obtain ⟨k, w, r, rfl, h⟩ := exists_reads c cs
  simpa [first, rest, h.lead_eq] using h

/-- What is read at the front of a text is cut off first. -/
theorem Reads.cut_eq {k : PieceKind} {c : Char} {w r : List Char} (h : Reads k c w r) :
    cut (c :: (w ++ r)) = ⟨k, c :: w⟩ :: cut r := by
  rw [cut_cons]
  simp [first, rest, h.lead_eq]

/-- A property of texts and their pieces holds when it holds of the empty text, and of every text
whose rest, behind a piece read by one of the rules, it holds of. -/
theorem reads_induction {P : List Char → List Piece → Prop} (nil : P [] [])
    (cons : ∀ k c w r, Reads k c w r → P r (cut r) → P (c :: (w ++ r)) (⟨k, c :: w⟩ :: cut r)) :
    ∀ cs, P cs (cut cs) :=
  cut_induction nil fun c cs ih => by
    have h := cons _ _ _ _ (reads_first c cs) ih
    rwa [rest, List.take_append_drop] at h

end Piece

end Lookahead
