import Lookahead.Proofs.Counters
import Lookahead.Proofs.Identifiers
import Lookahead.Proofs.Partition

/-!
# Texts joined by a newline

Nothing but an open comment goes on behind the end of a line.  So a text that leaves no comment open
can be scanned apart from what stands behind a newline: the scan of both is the scan of the one and,
moved down, the scan of the other.

* `Piece.Reads.append_newline`: what ends a piece at the end of a text ends it before a newline.
* `Piece.cut_append_newline`: the pieces of both texts and of the newline between them.
* `Scan.joins_newline`: tokens, errors, identifiers and counts of both.
-/

namespace Lookahead

open Text

/-! ### Pieces -/

namespace Text

theorem Stops.append_cons {p : Char → Bool} {cs : List Char} {c : Char} (h : Stops p cs)
    (hc : p c = false) (b : List Char) : Stops p (cs ++ c :: b) := by
  cases cs with
  | nil => exact stops_cons.2 hc
  | cons d cs => exact stops_cons.2 (stops_cons.1 h)

end Text

namespace Piece

/-- A piece other than an open comment is the same piece when a newline and more text follow. -/
theorem Reads.append_newline {k : PieceKind} {c : Char} {w r : List Char} (h : Reads k c w r)
    (hk : k ≠ .fault .unterminatedComment) (b : List Char) : Reads k c w (r ++ '\n' :: b) := by
  cases h with
  | blank hc => exact .blank hc
  | lineComment hbody hr => exact .lineComment hbody (hr.append_cons rfl b)
  | blockComment hbody => exact .blockComment hbody
  | openComment => exact absurd rfl hk
  | string hinside => exact .string hinside
  | openString hinside hlast hr =>
    rw [List.append_assoc]
    exact .openString hinside hlast (hr.append_cons rfl b)
  | keyword hc hw hr hkey => exact .keyword hc hw (hr.append_cons (by decide +kernel) b) hkey
  | identifier hc hw hr hkey => exact .identifier hc hw (hr.append_cons (by decide +kernel) b) hkey
  | @operator o _ _ _ ho hlead hr =>
    have hnewline : ∀ o ∈ Operator.all, '\n' ∉ o.chars := by decide
    refine .operator ho ?_ fun hslash => (hr hslash).append_cons rfl b
    rw [← List.append_assoc, ← List.cons_append, Operator.leading?_append_cons hnewline, hlead]
  | delimiter hd => exact .delimiter hd
  | int hc hw hr hpoint =>
    -- a point at the end of the text has no digit behind it, and no newline is one
    refine .int hc hw (hr.append_cons rfl b) fun r' hr' => ?_
    cases r with
    | nil => cases hr'
    | cons d r =>
      injection hr' with hd hr'
      exact hr' ▸ (hpoint r (hd ▸ rfl)).append_cons rfl b
  | float hc hw hv hr => exact .float hc hw hv (hr.append_cons rfl b)
  | invalid hw hr hquote hword hop hdel hdigit =>
    exact .invalid hw (hr.append_cons rfl b) hquote hword hop hdel hdigit

/-- **The pieces of two texts with a newline between them** are those of the one, the newline, and
those of the other. -/
theorem cut_append_newline {a : List Char} (h : (cut a).any isOpen = false) (b : List Char) :
    cut (a ++ '\n' :: b) = cut a ++ ⟨.blank, ['\n']⟩ :: cut b := by
  revert h
  -- Along the rules: the last piece meets the newline as it met the end of the text.
  refine reads_induction (P := fun cs ps => ps.any isOpen = false →
    cut (cs ++ '\n' :: b) = ps ++ ⟨.blank, ['\n']⟩ :: cut b) (fun _ => ?_)
    (fun k c w r hreads ih h => ?_) a
  · exact (Reads.blank (r := b) isBlank_newline).cut_eq
  · rw [List.any_cons, Bool.or_eq_false_iff] at h
    have hk : k ≠ .fault .unterminatedComment := by simpa [isOpen] using h.1
    rw [List.cons_append, List.append_assoc, (hreads.append_newline hk b).cut_eq, ih h.2]
    rfl

end Piece

/-! ### Places -/

/-- A position moved on by bytes and down by lines. -/
def Position.shift (bytes lines : Nat) (p : Position) : Position :=
  ⟨p.offset + bytes, p.line + lines, p.column⟩

/-- A span moved. -/
def Span.shift (bytes lines : Nat) (s : Span) : Span :=
  ⟨s.start.shift bytes lines, s.stop.shift bytes lines⟩

/-- A token moved. -/
def Token.shift (bytes lines : Nat) (t : Token) : Token :=
  { t with span := t.span.shift bytes lines }

/-- An error moved. -/
def LexicalError.shift (bytes lines : Nat) (e : LexicalError) : LexicalError :=
  { e with span := e.span.shift bytes lines }

/-- A placed piece moved. -/
def Placed.shift (bytes lines : Nat) (p : Placed) : Placed :=
  { p with span := p.span.shift bytes lines }

namespace Position

variable {bytes lines : Nat}

theorem step_shift (p : Position) (c : Char) :
    (p.shift bytes lines).step c = (p.step c).shift bytes lines := by
  unfold step
  split <;> simp [shift, Nat.add_right_comm]

theorem after_shift (p : Position) (cs : List Char) :
    (p.shift bytes lines).after cs = (p.after cs).shift bytes lines := by
  induction cs generalizing p with
  | nil => rfl
  | cons c cs ih => rw [after_cons, step_shift, ih, after_cons]

/-- A text behind a newline begins in the first column. -/
theorem after_newline (cs : List Char) : start.after (cs ++ ['\n']) =
    start.shift (byteCount cs + 1) (1 + cs.count '\n') := by
  rw [after_append, after_cons, after_nil, step, if_pos rfl, offset_after, line_after]
  have hsize : '\n'.utf8Size = 1 := rfl
  simp [start, shift, hsize, Nat.add_comm]

end Position

namespace Placed

variable {bytes lines : Nat}

theorem placeFrom_append (p : Position) (ps qs : List Piece) :
    placeFrom [] p (ps ++ qs) =
      placeFrom [] p ps ++ placeFrom [] (p.after (ps.flatMap Piece.chars)) qs := by
  induction ps generalizing p with
  | nil => rfl
  | cons a ps ih =>
    rw [List.cons_append, placeFrom_cons, placeFrom_cons, ih, List.flatMap_cons,
      Position.after_append]
    rfl

theorem placeFrom_shift (p : Position) (ps : List Piece) :
    placeFrom [] (p.shift bytes lines) ps = (placeFrom [] p ps).map (shift bytes lines) := by
  induction ps generalizing p with
  | nil => rfl
  | cons a ps ih =>
    rw [placeFrom_cons, placeFrom_cons, Position.after_shift, ih]
    rfl

theorem token?_shift (p : Placed) :
    (p.shift bytes lines).token? = p.token?.map (Token.shift bytes lines) := by
  obtain ⟨⟨kind, chars⟩, span⟩ := p
  cases kind <;> rfl

theorem error?_shift (p : Placed) :
    (p.shift bytes lines).error? = p.error?.map (LexicalError.shift bytes lines) := by
  obtain ⟨⟨kind, chars⟩, span⟩ := p
  cases kind with
  | fault k => cases k <;> rfl
  | _ => rfl

/-- The placed pieces of two texts with a newline between them. -/
theorem ofText_newline {a : List Char} (h : (Piece.cut a).any Piece.isOpen = false)
    (b : List Char) : ofText (a ++ '\n' :: b) = ofText a ++
      ⟨⟨.blank, ['\n']⟩, ⟨Position.start.after a, Position.start.after (a ++ ['\n'])⟩⟩ ::
        (ofText b).map (shift (byteCount a + 1) (1 + a.count '\n')) := by
  rw [ofText, Piece.cut_append_newline h, placeFrom_append, Piece.text_cut, placeFrom_cons,
    ← Position.after_append, Position.after_newline, placeFrom_shift]
  rfl

/-- What is made of each piece but the blanks, and is moved with them. -/
theorem filterMap_ofText_newline {β : Type} {f : Placed → Option β} {g : β → β} {a : List Char}
    (hblank : ∀ cs span, f ⟨⟨.blank, cs⟩, span⟩ = none)
    (hshift : ∀ p, f (p.shift (byteCount a + 1) (1 + a.count '\n')) = (f p).map g)
    (h : (Piece.cut a).any Piece.isOpen = false) (b : List Char) :
    (ofText (a ++ '\n' :: b)).filterMap f =
      (ofText a).filterMap f ++ ((ofText b).filterMap f).map g := by
  rw [ofText_newline h, List.filterMap_append, List.filterMap_cons_none (hblank _ _),
    List.filterMap_map, List.map_filterMap]
  congr 2
  exact funext hshift

end Placed

/-! ### Counts -/

namespace Tally

/-- Counters of two scans taken together. -/
def sum (t u : Tally) : Tally where
  tokens := t.tokens + u.tokens
  errors := t.errors + u.errors
  lines := t.lines + u.lines
  keywords := t.keywords + u.keywords
  identifiers := t.identifiers + u.identifiers
  operators := t.operators + u.operators
  delimiters := t.delimiters + u.delimiters
  strings := t.strings + u.strings
  ints := t.ints + u.ints
  floats := t.floats + u.floats
  lineComments := t.lineComments + u.lineComments
  blockComments := t.blockComments + u.blockComments

theorem add_sum (detailed : Bool) (t u : Tally) (p : Piece) :
    add detailed (t.sum u) p = t.sum (add detailed u p) := by
  obtain ⟨kind, chars⟩ := p
  cases kind with
  | blank | fault => rfl
  | lineComment | blockComment => cases detailed <;> rfl
  | token a k => cases detailed <;> cases k <;> rfl

theorem foldl_add (detailed : Bool) (t u : Tally) (ps : List Piece) :
    ps.foldl (add detailed) (t.sum u) = t.sum (ps.foldl (add detailed) u) := by
  induction ps generalizing u with
  | nil => rfl
  | cons p ps ih => rw [List.foldl_cons, add_sum, ih, List.foldl_cons]

theorem lines_add (detailed : Bool) (t : Tally) (p : Piece) :
    (add detailed t p).lines = t.lines := by
  obtain ⟨kind, chars⟩ := p
  cases kind with
  | blank | fault => rfl
  | lineComment | blockComment => cases detailed <;> rfl
  | token a k => cases detailed <;> cases k <;> rfl

theorem lines_ofPieces (detailed : Bool) (lines : Nat) (ps : List Piece) :
    (ofPieces detailed lines ps).lines = lines := by
  have h : ∀ t : Tally, (ps.foldl (add detailed) t).lines = t.lines := by
    induction ps with
    | nil => exact fun t => rfl
    | cons p ps ih => exact fun t => (ih _).trans (lines_add detailed t p)
  exact h _

/-- What is counted beside lines does not depend on them. -/
theorem ofPieces_eq (detailed : Bool) (lines : Nat) (ps : List Piece) :
    ofPieces detailed lines ps = { zero with lines }.sum (ofPieces detailed 0 ps) :=
  foldl_add detailed { zero with lines } zero ps

/-- What is counted of pieces adds up, but lines are counted apart. -/
theorem ofPieces_append (detailed : Bool) (lines m n : Nat) (ps qs : List Piece) :
    ofPieces detailed lines (ps ++ qs) =
      { (ofPieces detailed m ps).sum (ofPieces detailed n qs) with lines } := by
  have hsum : ofPieces detailed lines (ps ++ qs) =
      (ofPieces detailed lines ps).sum (ofPieces detailed 0 qs) := by
    rw [ofPieces, List.foldl_append]
    exact foldl_add detailed (ofPieces detailed lines ps) zero qs
  rw [hsum, ofPieces_eq detailed lines, ofPieces_eq detailed m, ofPieces_eq detailed n]
  simp [sum, zero, lines_ofPieces]

end Tally

namespace Text

/-- A newline ends a line, and the lines behind it are counted anew. -/
theorem lineCount_newline (a b : List Char) :
    lineCount (a ++ '\n' :: b) = 1 + a.count '\n' + lineCount b := by
  have hfrom : ∀ n, b.foldl countLine (n, false) =
      ((b.foldl countLine (0, false)).1 + n, (b.foldl countLine (0, false)).2) := fun n => by
    induction n with
    | zero => rfl
    | succ n ih => rw [foldl_countLine_succ, ih]; rfl
  have hline : countLine (a.foldl countLine (0, false)) '\n' = (1 + a.count '\n', false) := by
    rw [countLine, if_pos rfl, fst_foldl_countLine, Nat.zero_add, Nat.add_comm]
  simp only [lineCount]
  rw [List.foldl_append, List.foldl_cons, hline, hfrom]
  split <;> simp <;> omega

end Text

/-! ### Scans -/

/-- An entry moved down by lines. -/
def IdentifierEntry.shift (lines : Nat) (e : IdentifierEntry) : IdentifierEntry :=
  { e with firstLine := e.firstLine + lines }

/-- What is kept of a name of two texts: the line in the first one that has it, and how often it
occurs in both. -/
def IdentifierEntry.join? : Option IdentifierEntry → Option IdentifierEntry → Option IdentifierEntry
  | none, e => e
  | some d, none => some d
  | some d, some e => some ⟨d.firstLine, d.occurrences + e.occurrences⟩

namespace Scan

/-- A scan of two texts is the scan of the first and the scan of the second, moved on by bytes and
down by lines. -/
structure Joins (s A B : Scan) (bytes lines : Nat) : Prop where
  tokens : s.tokens = A.tokens ++ B.tokens.map (Token.shift bytes lines)
  errors : s.errors = A.errors ++ B.errors.map (LexicalError.shift bytes lines)
  sorted : s.identifiers.Sorted
  identifiers : ∀ name, s.identifiers.get? name =
    IdentifierEntry.join? (A.identifiers.get? name) ((B.identifiers.get? name).map (.shift lines))
  tally : s.tally = { A.tally.sum B.tally with lines := lines + B.tally.lines }

theorem linesOf_append (name : String) (ts us : List Token) :
    linesOf name (ts ++ us) = linesOf name ts ++ linesOf name us := by
  simp [linesOf]

theorem linesOf_shift (name : String) (bytes lines : Nat) (ts : List Token) :
    linesOf name (ts.map (Token.shift bytes lines)) = (linesOf name ts).map (· + lines) := by
  rw [linesOf, List.filter_map, linesOf, List.map_map, List.map_map]
  rfl

/-- What is kept of a name that stands on some lines and, further down, on others. -/
theorem entryOf?_append (above below : List Nat) (lines : Nat) :
    entryOf? (above ++ below.map (· + lines)) =
      IdentifierEntry.join? (entryOf? above) ((entryOf? below).map (.shift lines)) := by
  cases above with
  | nil => cases below <;> simp [entryOf?, IdentifierEntry.join?, IdentifierEntry.shift]
  | cons l above =>
    cases below with
    | nil => simp [entryOf?, IdentifierEntry.join?]
    | cons m below =>
      simp [entryOf?, IdentifierEntry.join?, IdentifierEntry.shift]
      omega

/-- The scan of two texts with a newline between them, of which the first leaves no comment open. -/
theorem joins_of_closed (detailed : Bool) (a b : String)
    (h : ∀ e ∈ (ofSource detailed a).errors, e.kind ≠ .unterminatedComment) :
    (ofSource detailed (a ++ "\n" ++ b)).Joins (ofSource detailed a) (ofSource detailed b)
      (a.utf8ByteSize + 1) (1 + a.toList.count '\n') := by
  have hlist : (a ++ "\n" ++ b).toList = a.toList ++ '\n' :: b.toList := by simp
  have hopen : (Piece.cut a.toList).any Piece.isOpen = false := by
    rw [← any_unterminatedComment detailed]
    exact List.any_eq_false.2 fun e he => by simpa using h e he
  rw [ofSource, ofSource, ofSource, hlist, utf8ByteSize_eq]
  have htokens : (ofChars detailed (a.toList ++ '\n' :: b.toList)).tokens = _ :=
    (tokens_ofChars detailed _).trans (Placed.filterMap_ofText_newline (f := Placed.token?)
      (fun _ _ => rfl) Placed.token?_shift hopen b.toList)
  have herrors : (ofChars detailed (a.toList ++ '\n' :: b.toList)).errors = _ :=
    (errors_ofChars detailed _).trans (Placed.filterMap_ofText_newline (f := Placed.error?)
      (fun _ _ => rfl) Placed.error?_shift hopen b.toList)
  rw [← tokens_ofChars detailed, ← tokens_ofChars detailed] at htokens
  rw [← errors_ofChars detailed, ← errors_ofChars detailed] at herrors
  refine ⟨htokens, herrors, ?_, fun name => ?_, ?_⟩
  · rw [identifiers_ofChars]
    exact sorted_identifiersOf _
  · rw [identifiers_ofChars, identifiers_ofChars, identifiers_ofChars, get?_identifiersOf,
      get?_identifiersOf, get?_identifiersOf, ← entryOf?_append,
      ← linesOf_shift name (byteCount a.toList + 1), ← linesOf_append, htokens]
  · rw [tally_ofChars, tally_ofChars, tally_ofChars, Piece.cut_append_newline hopen,
      lineCount_newline, Tally.lines_ofPieces]
    exact Tally.ofPieces_append detailed _ _ _ _ (⟨.blank, ['\n']⟩ :: Piece.cut b.toList)

/-- **Texts joined by a newline are scanned apart**, if the first leaves no comment open.  Counters
of 32 bits hold all lines and columns of the whole and of both parts, if the bytes of the whole are
fewer than what such a counter holds at most. -/
theorem joins_newline (detailed : Bool) (a b : String)
    (h : ∀ e ∈ (ofSource detailed a).errors, e.kind ≠ .unterminatedComment) :
    (ofSource detailed (a ++ "\n" ++ b)).Joins (ofSource detailed a) (ofSource detailed b)
        (a.utf8ByteSize + 1) (1 + a.toList.count '\n') ∧
      ((a ++ "\n" ++ b).utf8ByteSize + 1 < UInt32.size →
        Counters.Count (a ++ "\n" ++ b) ∧ Counters.Count a ∧ Counters.Count b) := by
  refine ⟨joins_of_closed detailed a b h, fun hsize => ?_⟩
  refine ⟨Counters.count_of_lt hsize, Counters.count_of_lt ?_, Counters.count_of_lt ?_⟩ <;>
  · rw [String.utf8ByteSize_append, String.utf8ByteSize_append] at hsize
    omega

/-- A string left open, and the return behind it, change nothing on the next line. -/
theorem joins_newline_openString :
    (∀ e ∈ (ofSource true "x \"1\r").errors, e.kind ≠ .unterminatedComment) ∧
      (ofSource true ("x \"1\r" ++ "\n" ++ "7. \"é\"")).Joins (ofSource true "x \"1\r")
        (ofSource true "7. \"é\"") 6 1 ∧
      Counters.Count ("x \"1\r" ++ "\n" ++ "7. \"é\"") := by
  have h : ∀ e ∈ (ofSource true "x \"1\r").errors, e.kind ≠ .unterminatedComment := by
    decide +kernel
  obtain ⟨hjoins, hcount⟩ := joins_newline true _ "7. \"é\"" h
  exact ⟨h, hjoins, (hcount (by decide +kernel)).1⟩

end Scan

end Lookahead
