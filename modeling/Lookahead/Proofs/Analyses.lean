import Lookahead.Analysis.Stages
import Lookahead.Proofs.Loading

/-!
# What analyses come to

An analysis tells what it does at every stage, and nothing of that has a part in what it comes to:
the scan of a text and the run on its tokens (`Analysis.ofScan`), or the run on what a listing is
read as.

* `Analysis.ensures_ofSource`: the analysis of a source.
* `Analysis.ensures_ofFile_target`, `Analysis.ensures_ofListing_target`: the analyses of files, by
  what their paths lead to.
* `Analysis.ensures_ofFile`, `Analysis.ensures_ofListing`: the analyses of files that can be loaded.
* `Analysis.fixed_ofFile`: over the same files, with no log among them, the analysis of a file is
  always the same.
-/

namespace Lookahead

open Session

variable {P : Session → Prop}

namespace Scan

theorem ensures_ofLoaded (hP : Lasting P) (prefs : ScanPreferences) (source : Source) :
    Ensures P (ofLoaded prefs source) (· = ofSource prefs.detailed source.text) := by
  refine .after hP.debug (.after (.forIn fun e => .after hP.error (.pure rfl))
    (.ite (fun _ => .after hP.warning ?_) fun _ => ?_)) <;>
  exact .after hP.success (.ite (fun _ => .pure rfl) fun _ => .after hP.success (.pure rfl))

theorem ensures_parse (hP : Lasting P) (prefs : ParsePreferences) (s : Scan) :
    Ensures P (s.parse prefs) (· = Lookahead.parse prefs.recordTrace s.symbols) := by
  have hverdict : ∀ r : Run, Ensures P (tellVerdict s.tokens.length r) fun _ => True := by
    intro r
    unfold tellVerdict
    split
    · exact hP.success
    · exact hP.error
    · exact .pure trivial
  exact .after hP.debug (.after (hverdict _)
    (.ite (fun _ => .after hP.warning (.pure rfl)) fun _ => .pure rfl))

end Scan

/-! ### Analyses -/

namespace Analysis

/-- What the analysis of a source comes to. -/
def ofScan (prefs : Preferences) (source : Source) : Analysis :=
  let scan := Scan.ofSource prefs.scan.detailed source.text
  { info := source.info, scan, run := Lookahead.parse prefs.parse.recordTrace scan.symbols,
    fromListing := false, duration := source.duration }

theorem ensures_tell (hP : Lasting P) (a : Analysis) : Ensures P a.tell fun _ => True :=
  .ite (fun _ => hP.success) fun _ => hP.info

/-- **The analysis of a source** is its scan and the run on its tokens. -/
theorem ensures_ofSource (hP : Lasting P) (prefs : Preferences) (source : Source) :
    Ensures P (ofSource prefs source) (· = ofScan prefs source) := by
  refine (Scan.ensures_ofLoaded hP _ _).bind ?_
  rintro _ rfl
  refine (Scan.ensures_parse hP _ _).bind ?_
  rintro _ rfl
  exact .after (ensures_tell hP _) (.pure rfl)

theorem ensures_ofLoading (hP : Lasting P) (prefs : Preferences) {loading : Loading Source}
    {Q : Except SourceError Source → Prop} (h : Ensures P loading.run Q) :
    Ensures P (ofLoading prefs loading).run
      fun r => ∃ q, Q q ∧ r = (q.mapError AnalysisError.loading).map (ofScan prefs) := by
  have hload : Ensures P (loading.adapt AnalysisError.loading).run
      fun r => ∃ q, Q q ∧ r = q.mapError AnalysisError.loading :=
    .adapt (h.mono fun q hq => ⟨q, hq, rfl⟩)
  refine .bindE hload (fun source hsource => ?_) fun e he => ?_
  · obtain ⟨q, hq, hr⟩ := hsource
    refine ((ensures_ofSource hP prefs source).mono fun a ha => ?_).liftE
    exact ⟨q, hq, by rw [← hr, ha]; rfl⟩
  · obtain ⟨q, hq, hr⟩ := he
    exact ⟨q, hq, by rw [← hr]; rfl⟩

/-- The analysis of a file is that of what is loaded. -/
theorem ensures_ofFile_of_load (hP : Lasting P) (prefs : Preferences) (path : Path) (id : Nat)
    {Q : Except SourceError Source → Prop} (h : Ensures P (Source.load prefs.files path).run Q) :
    Ensures P (ofFile prefs path id)
      fun r => ∃ q, Q q ∧ r = (q.mapError AnalysisError.loading).map (ofScan prefs) :=
  hP.ensures_withFile (.after hP.info (ensures_ofLoading hP prefs h))

/-- The analysis of a listing that is read as `symbols`. -/
def ofSymbols (prefs : Preferences) (source : Source) (symbols : List InputSymbol) : Analysis where
  info := source.info
  scan := .empty
  run := Lookahead.parse prefs.parse.recordTrace symbols
  fromListing := true
  duration := 0

/-- What comes of the analysis of a file, by what its path leads to. -/
def ofTarget (prefs : Preferences) (path : Path) (x : Option (List String × Standing)) :
    Except AnalysisError Analysis :=
  ((Source.ofTarget prefs.files path x).mapError AnalysisError.loading).map (ofScan prefs)

/-- **What comes of the analysis of a file** hangs on what its path leads to. -/
theorem ensures_ofFile_target (hP : Lasting P) (prefs : Preferences) {path : Path} (id : Nat)
    {x : Option (List String × Standing)} (hx : ∀ s, P s → s.files.target path = x) :
    Ensures P (ofFile prefs path id) (· = ofTarget prefs path x) := by
  have hload := Source.ensures_load hP prefs.files hx
  refine (ensures_ofFile_of_load hP prefs path id hload).mono ?_
  rintro _ ⟨_, rfl, rfl⟩
  rfl

/-- What comes of the analysis of a source as a listing. -/
def ofListed (prefs : Preferences) (source : Source) : Except AnalysisError Analysis :=
  ((Listing.read source.text).mapError AnalysisError.listing).map (ofSymbols prefs source)

/-- The analysis of a listing is that of what is loaded. -/
theorem ensures_ofListing_of_load (hP : Lasting P) (prefs : Preferences) (path : Path)
    {Q : Except SourceError Source → Prop}
    (h : Ensures P (Source.load listingPreferences path).run Q) :
    Ensures P (ofListing prefs path)
      fun r => ∃ q, Q q ∧ r = (q.mapError AnalysisError.loading).bind (ofListed prefs) := by
  have hload : Ensures P ((Source.load listingPreferences path).adapt AnalysisError.loading).run
      fun r => ∃ q, Q q ∧ r = q.mapError AnalysisError.loading :=
    .adapt (h.mono fun q hq => ⟨q, hq, rfl⟩)
  refine hP.ensures_withFile (.afterE hP.info (.bindE hload (fun source hsource => ?_) ?_))
  · obtain ⟨q, hq, hr⟩ := hsource
    have hread : Ensures P (readListing path source).run
        (· = (Listing.read source.text).mapError AnalysisError.listing) := by
      unfold readListing
      split
      · next h => exact h ▸ .pure rfl
      · next h => exact h ▸ .afterE hP.error (.pure rfl)
    refine .bindE hread (fun symbols h => .afterE (ensures_tell hP _) (.pure ⟨q, hq, ?_⟩))
      fun e h => ⟨q, hq, ?_⟩
    · rw [← hr, Except.bind, ofListed, ← h]
      rfl
    · rw [← hr, Except.bind, ofListed, ← h]
      rfl
  · rintro e ⟨q, hq, hr⟩
    exact ⟨q, hq, by rw [← hr]; rfl⟩

/-- **What comes of the analysis of a listing** hangs on what its path leads to. -/
theorem ensures_ofListing_target (hP : Lasting P) (prefs : Preferences) {path : Path}
    {x : Option (List String × Standing)} (hx : ∀ s, P s → s.files.target path = x) :
    Ensures P (ofListing prefs path) (· =
      ((Source.ofTarget listingPreferences path x).mapError AnalysisError.loading).bind
        (ofListed prefs)) := by
  have hload := Source.ensures_load hP listingPreferences hx
  refine (ensures_ofListing_of_load hP prefs path hload).mono ?_
  rintro _ ⟨_, rfl, rfl⟩
  rfl

/-- **The analysis of a file**, if there is one, is that of a source. -/
theorem ensures_ofFile (prefs : Preferences) (path : Path) (id : Nat) :
    Ensures (fun _ => True) (ofFile prefs path id)
      fun r => ∀ a, r = .ok a → ∃ source, a = ofScan prefs source := by
  have hload := ensures_ofFile_of_load lasting_true prefs path id (Source.ensures_bounded _ path)
  refine hload.mono ?_
  rintro _ ⟨q, -, rfl⟩ a ha
  cases q with
  | error => cases ha
  | ok source => cases ha; exact ⟨source, rfl⟩

/-- **The analysis of a listing**, if there is one, is the run on what a text is read as. -/
theorem ensures_ofListing (prefs : Preferences) (path : Path) :
    Ensures (fun _ => True) (ofListing prefs path) fun r => ∀ a, r = .ok a →
      ∃ content symbols, Listing.read content = .ok symbols ∧
        a.run = Lookahead.parse prefs.parse.recordTrace symbols := by
  have hload := ensures_ofListing_of_load lasting_true prefs path (Source.ensures_bounded _ path)
  refine hload.mono ?_
  rintro _ ⟨q, -, rfl⟩ a ha
  cases q with
  | error => cases ha
  | ok source =>
    change ofListed prefs source = .ok a at ha
    rw [ofListed] at ha
    cases hread : Listing.read source.text with
    | error => rw [hread] at ha; cases ha
    | ok symbols =>
      rw [hread] at ha
      cases ha
      exact ⟨source.text, symbols, hread, rfl⟩

/-- **Over the same files the analysis of a file is the same**, whatever was told before. -/
theorem fixed_ofFile (files : FileTree) (prefs : Preferences) (path : Path) (id : Nat) :
    Fixed (Over files) (ofFile prefs path id) := by
  exact (ensures_ofFile_target (lasting_over files) prefs id fun s hs =>
    congrArg (FileTree.target · path) hs.files_eq).fixed

end Analysis

end Lookahead
