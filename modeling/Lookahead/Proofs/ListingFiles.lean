import Lookahead.Listing.File
import Lookahead.Proofs.Analyses
import Lookahead.Proofs.ListingRoundTrip
import Lookahead.Proofs.Traces

/-!
# Listings in files

A listing that was written to a file can be analysed in place of the source: the run is the same
(`Analysis.listing_written`).  It is loaded like any source, though, and it has a line for every
token, identifier and error; so it may be too large where the source was not
(`Analysis.crowded_refused`).

* `Listing.lineCount_render`: how many lines a listing has.
* `Listing.shows_written`: a listing that was written is found where it was written to.
* `Analysis.ofListing_shows`: the analysis of a listing that is found.
-/

namespace Lookahead

open Session

namespace Listing

/-- The lines of a listing: three headers, two lines between the sections, and what they hold. -/
def lineTotal (s : Scan) : Nat :=
  s.tokens.length + s.identifiers.size + s.errors.length + 5

theorem lineCount_render {s : Scan} (h : s.Listable) :
    Text.lineCount (render s).toList = lineTotal s := by
  have hrows := Text.lines_flatMap (newline_not_mem_rows h)
  rw [← Text.length_lines, toList_render, hrows, List.length_map]
  simp only [rows, List.length_append, List.length_cons, List.length_map]
  rw [lineTotal, IdentifierTable.size, IdentifierTable.names, List.length_map]
  omega

/-! ### Writing -/

variable {out : Path} {s : Scan} {t u : Session}

theorem run_write {files : FileTree} (h : t.files.write out (render s) = .ok files) :
    (write out s).run t = (.ok (), (Session.success .listingWritten "Token listing written"
      [("path", out), ("tokens", toString s.tokens.length)] { t with files }).2) := by
  rw [write, run_get_bind, h]
  rfl

theorem run_write_error {fault : FileFault} (h : t.files.write out (render s) = .error fault) :
    ((write out s).run t).1 = .error (.access out fault.text) := by
  rw [write, run_get_bind, h]
  rfl

/-- **A listing that was written** is found where it was written to. -/
theorem shows_written (hlog : t.Spares out) (h : (write out s).run t = (.ok (), u)) :
    ∃ place, u.Shows out (some (place, .file (render s).toUTF8)) := by
  cases hwrite : t.files.write out (render s) with
  | error fault =>
    have herror := run_write_error hwrite
    rw [h] at herror
    cases herror
  | ok files =>
    rw [run_write hwrite] at h
    obtain ⟨place, hplace, rfl⟩ := FileTree.write_eq_ok hwrite
    cases h
    exact ⟨place, ((lasting_shows out _).success _
      ⟨FileTree.target_put_self hplace _, hlog.put hplace _⟩).2⟩

end Listing

namespace Analysis

/-- **The analysis of a listing that is found** hangs on its size, its lines and what it is read
as. -/
theorem ofListing_shows (prefs : Preferences) {out : Path} {place : List String} {text : String}
    {u : Session} (h : u.Shows out (some (place, .file text.toUTF8))) :
    (ofListing prefs out u).1 =
      if Source.sizeLimit < text.utf8ByteSize then
        .error (.loading (.tooLarge text.utf8ByteSize Source.sizeLimit))
      else if Source.lineLimit < Text.lineCount text.toList then
        .error (.loading (.tooManyLines (Text.lineCount text.toList) Source.lineLimit))
      else ofListed prefs ⟨text, { FileInfo.ofPath (FileTree.absolute place) text.utf8ByteSize with
        lines := Text.lineCount text.toList }, 0⟩ := by
  have hresult := (ensures_ofListing_target (lasting_shows out _) prefs
    (fun _ hs => hs.target_eq) u h).1
  rw [hresult, Source.ofTarget_file rfl, Source.ofBytes?_toUTF8]
  split
  · rfl
  · split <;> rfl

theorem tokenCount_ofSymbols (prefs : Preferences) (source : Source)
    (symbols : List InputSymbol) : (ofSymbols prefs source symbols).tokenCount = symbols.length := by
  have hinput := Table.standard.input_runFor prefs.parse.recordTrace
    (Table.standard.moves symbols.length) symbols
  have hcount : (ofSymbols prefs source symbols).tokenCount =
      (Lookahead.parse prefs.parse.recordTrace symbols).trace.input.length - 1 := rfl
  rw [hcount, Lookahead.parse, Table.run, hinput]
  simp

/-- What is analysed has a scan that a listing holds. -/
theorem exists_source_of_ofFile {prefs : Preferences} {path : Path} {id : Nat} {s : Session}
    {a : Analysis} (h : (ofFile prefs path id s).1 = .ok a) :
    ∃ source, a = ofScan prefs source ∧ Text.lineCount source.text.toList ≤ Source.lineLimit := by
  obtain ⟨q, hq, hr⟩ := (ensures_ofFile_of_load lasting_true prefs path id
    (Source.ensures_bounded prefs.files path) s trivial).1
  rw [h] at hr
  cases q with
  | error => cases hr
  | ok source =>
    cases hr
    exact ⟨source, rfl, hq source rfl⟩

/-- A text within the bounds is analysed, and its listing is written. -/
theorem exists_written (text : String) (hsize : text.utf8ByteSize ≤ Source.sizeLimit)
    (hlines : Text.lineCount text.toList ≤ Source.lineLimit) :
    let s := Session.inMemory Preferences.standard.log ⟨.dir [("a.java", .file text.toUTF8)], []⟩
    ∃ a t u, ofFile .standard "a.java" 0 s = (.ok a, t) ∧
      (Listing.write "tokens.txt" a.scan).run t = (.ok (), u) ∧ t.Spares "tokens.txt" ∧
      a.scan = Scan.ofSource true text ∧ a.run = Lookahead.parse true a.scan.symbols := by
  intro s
  have hs : Over s.files s := ⟨rfl, by simp [s, inMemory]⟩
  have htarget : s.files.target "a.java" = some (["a.java"], .file text.toUTF8) := rfl
  have hplace : s.files.placeForWriting "tokens.txt" = .ok ["tokens.txt"] := rfl
  obtain ⟨hfile, ht⟩ := ensures_ofFile_target (lasting_over s.files) .standard 0
    (fun t ht => (congrArg (FileTree.target · "a.java") ht.files_eq).trans htarget) s hs
  rw [ofTarget, Source.ofTarget_file rfl, Source.ofBytes?_toUTF8, if_neg (Nat.not_lt.2 hsize),
    if_neg (Nat.not_lt.2 hlines)] at hfile
  have hwrite : (ofFile .standard "a.java" 0 s).2.files.write "tokens.txt"
      (Listing.render (Scan.ofSource true text)) =
        .ok (s.files.put ["tokens.txt"] (Listing.render (Scan.ofSource true text)).toUTF8) := by
    rw [ht.files_eq, FileTree.write, hplace]
    rfl
  exact ⟨_, _, _, Prod.ext hfile rfl, Listing.run_write hwrite, ht.spares, rfl, rfl⟩

/-- **A listing that was written can be analysed in place of the source**, with the same run and the
same number of tokens, if it is itself within the bounds on sources; otherwise it is refused as too
large or as having too many lines. -/
theorem listing_written {prefs : Preferences} {path out : Path} {id : Nat} {s t u : Session}
    {a : Analysis} (hfile : (ofFile prefs path id s).1 = .ok a)
    (hwrite : (Listing.write out a.scan).run t = (.ok (), u)) (hlog : t.Spares out) :
    let size := (Listing.render a.scan).utf8ByteSize
    let lines := Listing.lineTotal a.scan
    (size ≤ Source.sizeLimit → lines ≤ Source.lineLimit →
      ∃ b, (ofListing prefs out u).1 = .ok b ∧ b.run = a.run ∧ b.tokenCount = a.tokenCount) ∧
    (Source.sizeLimit < size →
      (ofListing prefs out u).1 = .error (.loading (.tooLarge size Source.sizeLimit))) ∧
    (size ≤ Source.sizeLimit → Source.lineLimit < lines →
      (ofListing prefs out u).1 = .error (.loading (.tooManyLines lines Source.lineLimit))) := by
  obtain ⟨source, rfl, hsource⟩ := exists_source_of_ofFile hfile
  obtain ⟨place, hshows⟩ := Listing.shows_written hlog hwrite
  have hlistable : (ofScan prefs source).scan.Listable :=
    Scan.listable_ofChars (hsource.trans (by decide))
  have hresult := ofListing_shows prefs hshows
  rw [Listing.lineCount_render hlistable] at hresult
  intro size lines
  refine ⟨fun hsize hlines => ?_, fun hsize => ?_, fun hsize hlines => ?_⟩
  · rw [if_neg (Nat.not_lt.2 hsize), if_neg (Nat.not_lt.2 hlines)] at hresult
    have hread := Listing.read_render hlistable
    rw [ofListed, hread] at hresult
    refine ⟨_, hresult, rfl, (tokenCount_ofSymbols _ _ _).trans ?_⟩
    rw [Scan.symbols, List.length_map]
    rfl
  · rw [hresult, if_pos hsize]
  · rw [hresult, if_neg (Nat.not_lt.2 hsize), if_pos hlines]

/-- A source that is accepted, with a string left open behind its last token. -/
theorem listing_written_openString :
    let text := "i = 1;\n\"x"
    let s := Session.inMemory Preferences.standard.log ⟨.dir [("a.java", .file text.toUTF8)], []⟩
    ∃ a t u, ofFile .standard "a.java" 0 s = (.ok a, t) ∧
      (Listing.write "tokens.txt" a.scan).run t = (.ok (), u) ∧ t.Spares "tokens.txt" ∧
      ∃ b, (ofListing .standard "tokens.txt" u).1 = .ok b ∧ b.run = a.run ∧
        b.tokenCount = a.tokenCount ∧ b.isAccepted = true ∧ a.scan.hasErrors = true := by
  intro text s
  obtain ⟨a, t, u, hfile, hwrite, hlog, hscan, hrun⟩ :=
    exists_written text (by decide +kernel) (by decide +kernel)
  obtain ⟨b, hb, hbrun, hcount⟩ := (listing_written (congrArg Prod.fst hfile) hwrite hlog).1
    (by rw [hscan]; decide +kernel) (by rw [hscan]; decide +kernel)
  refine ⟨a, t, u, hfile, hwrite, hlog, b, hb, hbrun, hcount, ?_, ?_⟩
  · rw [isAccepted, hbrun, hrun, hscan]
    decide +kernel
  · rw [hscan]
    decide +kernel

end Analysis

/-! ### A crowd of errors -/

namespace Listing

/-- A text of characters that begin no token, with a blank behind each. -/
def crowd (n : Nat) : List Char := (List.replicate n ['#', ' ']).flatten

theorem crowd_succ (n : Nat) : crowd (n + 1) = '#' :: ' ' :: crowd n := rfl

theorem cut_crowd_succ (n : Nat) : Piece.cut (crowd (n + 1)) =
    ⟨.fault .invalidLexeme, ['#']⟩ :: ⟨.blank, [' ']⟩ :: Piece.cut (crowd n) := by
  have hfault : Piece.Reads (.fault .invalidLexeme) '#' [] (' ' :: crowd n) :=
    .invalid (List.forall_mem_singleton.2 rfl) (Text.stops_cons.2 rfl) (by decide) (by decide)
      (by decide) (by decide) (by decide)
  have hblank : Piece.Reads .blank ' ' [] (crowd n) := .blank rfl
  rw [crowd_succ]
  exact hfault.cut_eq.trans (congrArg _ hblank.cut_eq)

/-- A crowd has no tokens, and its errors are all listed by the same line. -/
theorem placed_crowd (n : Nat) {p : Position} (hp : p.line = 1) :
    (Placed.placeFrom [] p (Piece.cut (crowd n))).filterMap Placed.token? = [] ∧
      ((Placed.placeFrom [] p (Piece.cut (crowd n))).filterMap Placed.error?).map errorLine =
        List.replicate n "Line   1: '#' - invalid lexeme\n" := by
  induction n generalizing p with
  | zero => simp [crowd, Placed.placeFrom]
  | succ n ih =>
    have hline : ((p.after ['#']).after [' ']).line = 1 := by
      rw [Position.line_after, Position.line_after, hp]
      rfl
    obtain ⟨htokens, herrors⟩ := ih hline
    have herror : errorLine ⟨.invalidLexeme, String.ofList ['#'], ⟨p, p.after ['#']⟩⟩ =
        "Line   1: '#' - invalid lexeme\n" := by
      rw [errorLine, LexicalError.line, hp]
      dsimp only
      decide +kernel
    rw [cut_crowd_succ, Placed.placeFrom_cons, Placed.placeFrom_cons]
    refine ⟨htokens, ?_⟩
    rw [List.replicate_succ, ← herrors, ← herror]
    rfl

theorem utf8ByteSize_foldl_replicate (start line : String) (n : Nat) :
    ((List.replicate n line).foldl (· ++ ·) start).utf8ByteSize =
      start.utf8ByteSize + n * line.utf8ByteSize := by
  induction n generalizing start with
  | zero => simp
  | succ n ih =>
    rw [List.replicate_succ, List.foldl_cons, ih, String.utf8ByteSize_append, Nat.succ_mul]
    omega

theorem utf8ByteSize_render (s : Scan) : (render s).utf8ByteSize =
    (sectionText tokensHeader (s.tokens.map tokenLine)).utf8ByteSize + 1 +
      (sectionText identifiersHeader (s.identifiers.names.map identifierLine)).utf8ByteSize + 1 +
        (sectionText errorsHeader (s.errors.map errorLine)).utf8ByteSize := by
  have hjoin : ∀ a b c : String, ("\n".intercalate [a, b, c]).utf8ByteSize =
      a.utf8ByteSize + 1 + b.utf8ByteSize + 1 + c.utf8ByteSize := by
    intro a b c
    change (a ++ "\n" ++ b ++ "\n" ++ c).utf8ByteSize = _
    simp only [String.utf8ByteSize_append]
    rfl
  exact hjoin _ _ _

/-- The listing of a crowd has a line for each of its errors. -/
theorem render_crowd (detailed : Bool) (n : Nat) :
    lineTotal (Scan.ofChars detailed (crowd n)) = n + 5 ∧
      (render (Scan.ofChars detailed (crowd n))).utf8ByteSize = 31 * n + 72 := by
  obtain ⟨htokens, herrors⟩ := placed_crowd n (p := .start) rfl
  replace htokens : (Scan.ofChars detailed (crowd n)).tokens = [] :=
    (Scan.tokens_ofChars detailed _).trans htokens
  rw [← Placed.ofText, ← Scan.errors_ofChars detailed] at herrors
  have hidentifiers : (Scan.ofChars detailed (crowd n)).identifiers = .empty := by
    rw [Scan.identifiers_ofChars, htokens]
    rfl
  constructor
  · have hlength := congrArg List.length herrors
    rw [List.length_map, List.length_replicate] at hlength
    rw [lineTotal, htokens, hidentifiers, hlength]
    exact congrArg (· + 5) (Nat.zero_add n)
  · have htokensSection : (sectionText tokensHeader ([].map tokenLine)).utf8ByteSize = 26 := by
      decide +kernel
    have hnamesSection : (sectionText identifiersHeader
        (IdentifierTable.empty.names.map identifierLine)).utf8ByteSize = 21 := by
      decide +kernel
    have hheader : (errorsHeader ++ "\n").utf8ByteSize = 23 := by decide +kernel
    have hline : "Line   1: '#' - invalid lexeme\n".utf8ByteSize = 31 := by decide +kernel
    rw [utf8ByteSize_render, htokens, hidentifiers, herrors, htokensSection, hnamesSection,
      sectionText, utf8ByteSize_foldl_replicate, hheader, hline]
    omega

theorem utf8ByteSize_crowd (n : Nat) : (String.ofList (crowd n)).utf8ByteSize = 2 * n := by
  induction n with
  | zero => rfl
  | succ n ih =>
    have hcons : crowd (n + 1) = ['#', ' '] ++ crowd n := rfl
    have hpair : (String.ofList ['#', ' ']).utf8ByteSize = 2 := by decide +kernel
    rw [hcons, String.ofList_append, String.utf8ByteSize_append, ih, hpair]
    omega

theorem lineCount_crowd (n : Nat) : Text.lineCount (crowd n) ≤ 1 := by
  have hnewline : '\n' ∉ crowd n := by
    rw [crowd, List.mem_flatten]
    rintro ⟨cs, hcs, hmem⟩
    rw [List.eq_of_mem_replicate hcs] at hmem
    exact absurd hmem (by decide)
  rw [Text.lineCount, Text.foldl_countLine_of_ne hnewline]
  dsimp only
  split <;> decide

end Listing

namespace Analysis

/-- A crowd is loaded, but its listing is refused for its lines, if it has too many and is not too
large before that. -/
theorem refused_of_crowd (n : Nat) (hrender : 31 * n + 72 ≤ Source.sizeLimit)
    (hlines : Source.lineLimit < n + 5) :
    let text := String.ofList (Listing.crowd n)
    let s := Session.inMemory Preferences.standard.log ⟨.dir [("a.java", .file text.toUTF8)], []⟩
    ∃ a t u, ofFile .standard "a.java" 0 s = (.ok a, t) ∧
      (Listing.write "tokens.txt" a.scan).run t = (.ok (), u) ∧ t.Spares "tokens.txt" ∧
      (ofListing .standard "tokens.txt" u).1 =
        .error (.loading (.tooManyLines (n + 5) Source.lineLimit)) := by
  intro text s
  have htext : text.toList = Listing.crowd n := String.toList_ofList
  have hscan : Scan.ofSource true text = Scan.ofChars true (Listing.crowd n) := by
    rw [Scan.ofSource, htext]
  have htextLines : Text.lineCount text.toList ≤ Source.lineLimit := by
    rw [htext]
    exact (Listing.lineCount_crowd n).trans (by decide)
  obtain ⟨htotal, hsize⟩ := Listing.render_crowd true n
  obtain ⟨a, t, u, hfile, hwrite, hlog, ha, -⟩ := exists_written text
    (by rw [Listing.utf8ByteSize_crowd]; omega) htextLines
  obtain ⟨place, hshows⟩ := Listing.shows_written hlog hwrite
  have hlistable : (Scan.ofSource true text).Listable :=
    Scan.listable_ofChars (htextLines.trans (by decide))
  have hresult := ofListing_shows .standard hshows
  rw [ha, Listing.lineCount_render hlistable, hscan, hsize, htotal,
    if_neg (Nat.not_lt.2 hrender), if_pos hlines] at hresult
  exact ⟨a, t, u, hfile, hwrite, hlog, hresult⟩

/-- A source of one line and 399 992 bytes is analysed and its listing is written, but the listing
is refused for its 200 001 lines. -/
theorem crowded_refused :
    let text := String.ofList (Listing.crowd 199996)
    let s := Session.inMemory Preferences.standard.log ⟨.dir [("a.java", .file text.toUTF8)], []⟩
    ∃ a t u, ofFile .standard "a.java" 0 s = (.ok a, t) ∧
      (Listing.write "tokens.txt" a.scan).run t = (.ok (), u) ∧ t.Spares "tokens.txt" ∧
      (ofListing .standard "tokens.txt" u).1 = .error (.loading (.tooManyLines 200001 200000)) :=
  refused_of_crowd 199996 (by decide) (by decide)

end Analysis

end Lookahead
