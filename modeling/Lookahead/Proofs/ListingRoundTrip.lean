import Lookahead.Listing
import Lookahead.Proofs.Fields
import Lookahead.Proofs.Identifiers
import Lookahead.Proofs.Places

/-!
# Listings read back

A listing gives back the parser input of the scan it was written from (`Listing.read_scan`).

* `Listing.toList_render`: a listing is rows of characters, each behind it a newline.
* `Listing.readLine_tokenRow`: the row of a token holds its category and its line.
* `Listing.read_render`: what keeps a scan from being read back is in its lexemes alone.
-/

namespace Lookahead

open Text

namespace Listing

/-! ### Rows -/

/-- The row of a token, without the newline. -/
def tokenRow (t : Token) : List Char :=
  lineWord.toList ++ ' ' :: (List.replicate (lineWidth - (toString t.line).length) ' ' ++
    (Nat.toDigits 10 t.line ++ [':'] ++ ' ' :: (t.kind.text.toList ++
      (List.replicate (fieldWidth - t.kind.text.length) ' ' ++ ' ' :: (t.category.text.toList ++
        (List.replicate (fieldWidth - t.category.text.length) ' ' ++ ' ' :: t.lexeme.toList))))))

/-- The row of an identifier, without the newline. -/
def identifierRow (name : String) : List Char := ' ' :: ' ' :: name.toList

/-- The row of a lexical error, without the newline. -/
def errorRow (e : LexicalError) : List Char :=
  lineWord.toList ++ ' ' :: (List.replicate (lineWidth - (toString e.line).length) ' ' ++
    (Nat.toDigits 10 e.line ++ ':' :: ' ' :: '\'' :: (e.lexeme.toList ++
      '\'' :: ' ' :: '-' :: ' ' :: e.kind.text.toList)))

theorem toList_lineWord : lineWord.toList = ['L', 'i', 'n', 'e'] := rfl

theorem toString_eq (s : String) : toString s = s := rfl

theorem toList_tokenLine (t : Token) : (tokenLine t).toList = tokenRow t ++ ['\n'] := by
  simp [tokenLine, tokenRow, padLeft, padRight, blanks, toString_eq]

theorem toList_identifierLine (name : String) :
    (identifierLine name).toList = identifierRow name ++ ['\n'] := by
  simp [identifierLine, identifierRow, toString_eq]

theorem toList_errorLine (e : LexicalError) : (errorLine e).toList = errorRow e ++ ['\n'] := by
  simp [errorLine, errorRow, padLeft, blanks, toString_eq]

/-- The rows of a listing. -/
def rows (s : Scan) : List (List Char) :=
  tokensHeader.toList :: s.tokens.map tokenRow ++
    [] :: identifiersHeader.toList :: s.identifiers.names.map identifierRow ++
      [] :: errorsHeader.toList :: s.errors.map errorRow

theorem toList_sectionText {α : Type} {line : α → String} {row : α → List Char}
    (h : ∀ a, (line a).toList = row a ++ ['\n']) (header : String) (as : List α) :
    (sectionText header (as.map line)).toList =
      (header.toList :: as.map row).flatMap (· ++ ['\n']) := by
  have hfold : ∀ (start : String), ((as.map line).foldl (· ++ ·) start).toList =
      start.toList ++ (as.map row).flatMap (· ++ ['\n']) := by
    induction as with
    | nil => simp
    | cons a as ih => simp [ih, h]
  rw [sectionText, hfold]
  simp

/-- A listing is its rows, each behind it a newline. -/
theorem toList_render (s : Scan) : (render s).toList = (rows s).flatMap (· ++ ['\n']) := by
  simp [render, rows, toList_sectionText toList_tokenLine,
    toList_sectionText toList_identifierLine, toList_sectionText toList_errorLine]

/-! ### Reading a row -/

/-- A text that keeps its row together: its characters are no blanks. -/
def Solid (cs : List Char) : Prop := cs ≠ [] ∧ ∀ c ∈ cs, isBlank c = false

theorem Solid.newline_not_mem {cs : List Char} (h : Solid cs) : '\n' ∉ cs := fun hmem =>
  Bool.false_ne_true ((h.2 _ hmem).symm.trans isBlank_newline)

theorem solid_iff {cs : List Char} : Solid cs ↔ (!cs.isEmpty && cs.all (!isBlank ·)) = true := by
  simp [Solid]

theorem solid_lineWord : Solid lineWord.toList := solid_iff.2 (by decide)

theorem solid_kind (k : TokenKind) : Solid k.text.toList :=
  solid_iff.2 (by cases k <;> decide +kernel)

theorem solid_category (a : Terminal) : Solid a.text.toList := by
  have hall : Terminal.all.all fun a =>
      !a.text.toList.isEmpty && a.text.toList.all (!isBlank ·) := by
    decide +kernel
  exact solid_iff.2 (List.all_eq_true.1 hall a a.mem_all)

theorem solid_number (n : Nat) : Solid (Nat.toDigits 10 n ++ [':']) := by
  refine ⟨by simp, fun c hc => ?_⟩
  rcases List.mem_append.1 hc with hc | hc
  · exact (plain_of_isDigit (isDigit_of_mem_toDigits hc)).1
  · rw [List.mem_singleton.1 hc]; rfl

/-- A text that keeps its row together, and the blanks that fill its column. -/
theorem fields_padded {w : List Char} (hw : Solid w) (n : Nat) (cs : List Char) :
    fields (w ++ (List.replicate n ' ' ++ ' ' :: cs)) = w :: fields cs := by
  have hblank : isBlank ' ' := rfl
  have hmove : List.replicate n ' ' ++ ' ' :: cs = ' ' :: (List.replicate n ' ' ++ cs) := by
    rw [List.append_cons, ← List.replicate_succ', List.replicate_succ, List.cons_append]
  rw [hmove, fields_cons hw.1 hw.2 hblank,
    fields_blanks fun b hb => List.eq_of_mem_replicate hb ▸ hblank]

end Listing

/-- A token that its row holds: its lexeme is on one line and does not end with a blank. -/
structure Token.Listable (t : Token) : Prop where
  category_ne : t.category ≠ .endMark
  line_le : t.line ≤ greatest32
  newline_not_mem : '\n' ∉ t.lexeme.toList
  last : ∃ w c, t.lexeme.toList = w ++ [c] ∧ isBlank c = false

/-- A scan that a listing holds. -/
structure Scan.Listable (s : Scan) : Prop where
  tokens : ∀ t ∈ s.tokens, t.Listable
  names : ∀ name ∈ s.identifiers.names,
    '\n' ∉ name.toList ∧ Stops (fun c => isBlank c || c == '=') name.toList
  errors : ∀ e ∈ s.errors, '\n' ∉ e.lexeme.toList

namespace Listing

theorem fields_tokenRow (t : Token) : fields (tokenRow t) =
    lineWord.toList :: (Nat.toDigits 10 t.line ++ [':']) :: t.kind.text.toList ::
      t.category.text.toList :: fields t.lexeme.toList := by
  have hblank : isBlank ' ' := rfl
  rw [tokenRow, fields_cons solid_lineWord.1 solid_lineWord.2 hblank,
    fields_blanks fun b hb => List.eq_of_mem_replicate hb ▸ hblank,
    fields_cons (solid_number _).1 (solid_number _).2 hblank, fields_padded (solid_kind _),
    fields_padded (solid_category _)]

/-- **The row of a token holds its category and its line.** -/
theorem readLine_tokenRow {t : Token} (h : t.Listable) (n : Nat) :
    readLine n (tokenRow t) = .ok (.ofToken t) := by
  obtain ⟨w, c, hlexeme, hc⟩ := h.last
  have hne : fields t.lexeme.toList ≠ [] := fields_ne_nil (hlexeme ▸ List.mem_concat_self) hc
  obtain ⟨field, more, hfields⟩ := List.exists_cons_of_ne_nil hne
  rw [readLine, fields_tokenRow, hfields]
  simp [readNat?_toDigits h.line_le, Terminal.ofText?_text]
  split
  · next heq => cases heq
  · next heq => exact absurd (Option.some.inj heq) h.category_ne
  · next heq => cases heq; rfl

/-! ### Reading all rows -/

theorem trimBlanks_tokenRow {t : Token} (h : t.Listable) : trimBlanks (tokenRow t) = tokenRow t := by
  obtain ⟨w, c, hlexeme, hc⟩ := h.last
  have hfirst : Stops isBlank (tokenRow t) := by
    rw [tokenRow, toList_lineWord]
    exact stops_cons.2 rfl
  refine trimBlanks_eq hfirst fun d hd => ?_
  have hlast : (tokenRow t).getLast? = some c := by
    simp [tokenRow, hlexeme, List.getLast?_append, List.getLast?_cons]
  rw [List.head?_reverse, hlast] at hd
  cases hd
  exact hc

/-- Trimmed, no header: what stands first is no equals sign. -/
theorem not_header {row : List Char} (h : Stops (· == '=') (row.dropWhile isBlank)) :
    ['=', '=', '='].isPrefixOf (trimBlanks row) = false := by
  rw [Bool.eq_false_iff]
  intro hheader
  obtain ⟨rest, hrest⟩ := (List.isPrefixOf_iff_prefix.1 hheader).trans (trimBlanks_isPrefix row)
  rw [← hrest] at h
  exact absurd (stops_cons.1 h) (by decide)

/-- The rows of tokens are read one by one. -/
theorem readLines_tokens {ts : List Token} (h : ∀ t ∈ ts, t.Listable) (n : Nat)
    (done : List InputSymbol) (rest : List (List Char)) :
    readLines n true done (ts.map tokenRow ++ rest) =
      readLines (n + ts.length) true ((ts.map InputSymbol.ofToken).reverse ++ done) rest := by
  induction ts generalizing n done with
  | nil => rfl
  | cons t ts ih =>
    obtain ⟨ht, hts⟩ := List.forall_mem_cons.1 h
    have hheader : ['=', '=', '='].isPrefixOf (tokenRow t) = false := by
      rw [tokenRow, toList_lineWord]
      rfl
    have hword : lineWord.toList.isPrefixOf (tokenRow t) = true :=
      List.isPrefixOf_iff_prefix.2 (List.prefix_append _ _)
    rw [List.map_cons, List.cons_append, readLines, hheader, hword, readLine_tokenRow ht]
    simp [ih hts, Nat.add_assoc, Nat.add_comm 1]

/-- Outside the section of tokens, rows are passed over. -/
theorem readLines_skip {ls : List (List Char)} (h : ∀ l ∈ ls, ['=', '=', '='].isPrefixOf l = false)
    (n : Nat) (done : List InputSymbol) (rest : List (List Char)) :
    readLines n false done (ls ++ rest) = readLines (n + ls.length) false done rest := by
  induction ls generalizing n with
  | nil => rfl
  | cons l ls ih =>
    obtain ⟨hl, hls⟩ := List.forall_mem_cons.1 h
    rw [List.cons_append, readLines, hl]
    simp [ih hls, Nat.add_assoc, Nat.add_comm 1]

theorem readLines_header (n : Nat) (inTokens : Bool) (done : List InputSymbol) {header : String}
    (h : ['=', '=', '='].isPrefixOf header.toList) (rest : List (List Char)) :
    readLines n inTokens done (header.toList :: rest) =
      readLines (n + 1) (header == tokensHeader) done rest := by
  rw [readLines, if_pos h, String.ofList_toList]

theorem readLines_empty (n : Nat) (inTokens : Bool) (done : List InputSymbol)
    (rest : List (List Char)) :
    readLines n inTokens done ([] :: rest) = readLines (n + 1) inTokens done rest := by
  have hword : lineWord.toList.isPrefixOf [] = false := rfl
  simp [readLines, hword]

theorem newline_not_mem_number (n : Nat) : '\n' ∉ Nat.toDigits 10 n := fun h =>
  (solid_number n).newline_not_mem (List.mem_append_left _ h)

theorem newline_not_mem_rows {s : Scan} (h : s.Listable) : ∀ row ∈ rows s, '\n' ∉ row := by
  have hword := solid_lineWord.newline_not_mem
  have herrors : ∀ k : LexicalErrorKind, '\n' ∉ k.text.toList := fun k => by cases k <;> decide
  intro row hrow
  simp only [rows, List.mem_append, List.mem_cons, List.mem_map] at hrow
  rcases hrow with ((rfl | ⟨t, ht, rfl⟩) | rfl | rfl | ⟨name, hname, rfl⟩) | rfl | rfl | ⟨e, he, rfl⟩
  · decide
  · simp [tokenRow, hword, newline_not_mem_number, (solid_kind t.kind).newline_not_mem,
      (solid_category t.category).newline_not_mem, (h.tokens t ht).newline_not_mem]
  · exact List.not_mem_nil
  · decide
  · simp [identifierRow, (h.names name hname).1]
  · exact List.not_mem_nil
  · decide
  · simp [errorRow, hword, newline_not_mem_number, h.errors e he, herrors]

theorem not_header_identifierRow {name : String}
    (h : Stops (fun c => isBlank c || c == '=') name.toList) :
    ['=', '=', '='].isPrefixOf (trimBlanks (identifierRow name)) = false := by
  have hblank : isBlank ' ' := rfl
  refine not_header ?_
  rw [identifierRow, List.dropWhile_cons_of_pos hblank, List.dropWhile_cons_of_pos hblank,
    dropWhile_eq fun c hc => (Bool.or_eq_false_iff.1 (h c hc)).1]
  exact fun c hc => (Bool.or_eq_false_iff.1 (h c hc)).2

theorem not_header_errorRow (e : LexicalError) :
    ['=', '=', '='].isPrefixOf (trimBlanks (errorRow e)) = false := by
  have hfirst : ∀ p : Char → Bool, p 'L' = false → Stops p (errorRow e) := fun p hp => by
    rw [errorRow, toList_lineWord]
    exact stops_cons.2 hp
  refine not_header ?_
  rw [dropWhile_eq (hfirst isBlank rfl)]
  exact hfirst _ rfl

/-- The rows of a listing, trimmed. -/
theorem trimmed_rows {s : Scan} (h : s.Listable) : (rows s).map trimBlanks =
    tokensHeader.toList :: (s.tokens.map tokenRow ++
      [] :: identifiersHeader.toList :: ((s.identifiers.names.map identifierRow).map trimBlanks ++
        [] :: errorsHeader.toList :: ((s.errors.map errorRow).map trimBlanks ++ []))) := by
  have htokens : (s.tokens.map tokenRow).map trimBlanks = s.tokens.map tokenRow := by
    rw [List.map_map]
    refine List.map_congr_left fun t ht => ?_
    rw [Function.comp_apply, trimBlanks_tokenRow (h.tokens t ht)]
  rw [rows, List.map_append, List.map_append, List.map_cons, List.map_cons, List.map_cons,
    List.map_cons, List.map_cons, htokens]
  rw [List.append_nil, List.append_assoc]
  rfl

/-- **A scan that a listing holds is read back.** -/
theorem read_render {s : Scan} (h : s.Listable) : read (render s) = .ok s.symbols := by
  have hlines : (lines (render s).toList).map trimBlanks = (rows s).map trimBlanks := by
    rw [toList_render, lines_flatMap (newline_not_mem_rows h), List.map_map]
    refine List.map_congr_left fun row _ => ?_
    rw [Function.comp_apply, trimBlanks_dropReturn]
  have hnames : ∀ row ∈ (s.identifiers.names.map identifierRow).map trimBlanks,
      ['=', '=', '='].isPrefixOf row = false := by
    intro row hrow
    obtain ⟨_, hmem, rfl⟩ := List.mem_map.1 hrow
    obtain ⟨name, hname, rfl⟩ := List.mem_map.1 hmem
    exact not_header_identifierRow (h.names name hname).2
  have herrors : ∀ row ∈ (s.errors.map errorRow).map trimBlanks,
      ['=', '=', '='].isPrefixOf row = false := by
    intro row hrow
    obtain ⟨_, hmem, rfl⟩ := List.mem_map.1 hrow
    obtain ⟨e, -, rfl⟩ := List.mem_map.1 hmem
    exact not_header_errorRow e
  have hidentifiers : (identifiersHeader == tokensHeader) = false := by decide
  have hlexical : (errorsHeader == tokensHeader) = false := by decide
  -- The first header opens the section of tokens, the others close it for good.
  rw [read, hlines, trimmed_rows h]
  rw [readLines_header _ _ _ (by decide), beq_self_eq_true, readLines_tokens h.tokens,
    readLines_empty, readLines_header _ _ _ (by decide), hidentifiers, readLines_skip hnames,
    readLines_empty, readLines_header _ _ _ (by decide), hlexical, readLines_skip herrors]
  simp [readLines, Scan.symbols]

end Listing

/-! ### What a scan lists -/

namespace Scan

variable {detailed : Bool} {cs : List Char}

theorem listable_token (h : lineCount cs ≤ greatest32) {t : Token}
    (ht : t ∈ (ofChars detailed cs).tokens) : t.Listable := by
  obtain ⟨as, c, w, r, -, hreads, hlexeme, -⟩ := exists_of_mem_tokens ht
  obtain ⟨hnewline, v, d, hlast, hd⟩ := hreads.token_text
  refine ⟨hreads.category_ne, Nat.le_trans (line_bounds ht).2 h, ?_, v, d, ?_, hd⟩
  · rwa [hlexeme, String.toList_ofList]
  · rw [hlexeme, String.toList_ofList, hlast]

/-- A scan of a text with no more lines than a listing can number. -/
theorem listable_ofChars (h : lineCount cs ≤ greatest32) : (ofChars detailed cs).Listable := by
  refine ⟨fun t ht => listable_token h ht, fun name hname => ?_, fun e he => ?_⟩
  · obtain ⟨t, ht, hkind, rfl⟩ := mem_names_ofChars.1 hname
    refine ⟨(listable_token h ht).newline_not_mem, ?_⟩
    obtain ⟨as, c, w, r, -, hreads, hlexeme, -⟩ := exists_of_mem_tokens ht
    have hc := (hkind ▸ hreads).isWordStart
    have hequals : c ≠ '=' := by rintro rfl; exact absurd hc (by decide +kernel)
    rw [hlexeme, String.toList_ofList, stops_cons,
      isBlank_of_isWordPart (isWordPart_of_isWordStart hc)]
    simpa using hequals
  · obtain ⟨as, c, w, r, -, hreads, ⟨hkind, hlexeme⟩ | ⟨-, hlexeme⟩⟩ := exists_of_mem_errors he
    · rw [hlexeme, String.toList_ofList]
      exact hreads.fault_text hkind
    · rw [hlexeme]; decide

end Scan

/-- **A listing gives back the parser input of the scan it was written from.** -/
theorem Listing.read_scan (detailed : Bool) (source : String)
    (h : lineCount source.toList < Nat.pow 2 32) :
    read (render (Scan.ofSource detailed source)) = .ok (Scan.ofSource detailed source).symbols :=
  read_render (Scan.listable_ofChars (Nat.le_sub_one_of_lt h))

/-- A string that looks like a header, and an error that looks like a token's line, are told from
both. -/
theorem Listing.read_scan_lookalike :
    lineCount "\"=== Symbol Table ===\"\n\"Line   1: OPERATOR = =\n;".toList < Nat.pow 2 32 ∧
      read (render (Scan.ofSource true
        "\"=== Symbol Table ===\"\n\"Line   1: OPERATOR = =\n;")) =
        .ok [⟨.literal, some 1⟩, ⟨.delimiter .semicolon, some 3⟩] := by
  have hlines : lineCount "\"=== Symbol Table ===\"\n\"Line   1: OPERATOR = =\n;".toList < Nat.pow 2 32 := by
    decide +kernel
  refine ⟨hlines, (read_scan true _ hlines).trans (congrArg Except.ok ?_)⟩
  decide +kernel

end Lookahead
