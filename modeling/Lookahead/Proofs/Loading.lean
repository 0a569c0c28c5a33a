import Lookahead.Proofs.Sessions
import Lookahead.Source.Load

/-!
# What loading comes to

What is loaded from a file hangs on what its path leads to, and on what the system refuses of that;
what is loaded from standard input hangs on what it delivers alone.  Telling of it has no part in
either.

* `Source.ofBytes?_eq_ok_iff`: bytes make a source exactly when they are text of few enough lines.
* `Source.ensures_load`: what comes of loading a file.
* `Source.ofTarget_file`: without a demand on its extension, a file is judged by its bytes alone.
* `Source.ofTarget_refused`: why a file that is refused is not loaded.
* `Source.ensures_readInput`: what comes of loading standard input.
* `Source.ensures_bounded`: what is loaded, from wherever, has few enough lines.
-/

namespace Lookahead

open Session

variable {α : Type} {P : Session → Prop}

/-! ### Files at places -/

namespace FileTree

variable {t : FileTree} {p : Path} {names : List String} {content : FileContent}

theorem node_of_target_file (h : t.target p = some (names, .file content)) :
    t.locate p = .ok names ∧ t.node p = .ok (.file content) := by
  obtain ⟨hlocate, hview⟩ := target_eq_some_iff.1 h
  refine ⟨hlocate, ?_⟩
  rw [node, hlocate]
  simp [bind, Except.bind, get?_of_view hview]

theorem node_of_target_directory (h : t.target p = some (names, .directory)) :
    ∃ entries, t.node p = .ok (.dir entries) := by
  obtain ⟨hlocate, hview⟩ := target_eq_some_iff.1 h
  obtain ⟨entries, hentries⟩ := view_eq_directory_iff.1 hview
  refine ⟨entries, ?_⟩
  rw [node, hlocate]
  simp [bind, Except.bind, hentries]

theorem node_of_target_none (h : t.target p = none) : ∃ fault, t.node p = .error fault := by
  rw [node]
  rw [target] at h
  cases hlocate : t.locate p with
  | error fault => exact ⟨fault, rfl⟩
  | ok names =>
    rw [hlocate] at h
    have hnone : t.root.get? names = none := by
      have := Option.map_eq_none_iff.1 h
      exact Option.map_eq_none_iff.1 this
    exact ⟨.notFound, by simp [bind, Except.bind, hnone]⟩

theorem target_of_node (h : t.node p = .ok (.file content)) :
    ∃ names, t.target p = some (names, .file content) := by
  cases htarget : t.target p with
  | none =>
    obtain ⟨_, hnode⟩ := node_of_target_none htarget
    rw [hnode] at h
    cases h
  | some found =>
    obtain ⟨names, x⟩ := found
    cases x with
    | directory =>
      obtain ⟨_, hnode⟩ := node_of_target_directory htarget
      rw [hnode] at h
      cases h
    | file held =>
      rw [(node_of_target_file htarget).2] at h
      cases h
      exact ⟨names, rfl⟩

/-- A path leads somewhere if it has a target. -/
theorem has_of_target {x : Option (List String × Standing)} (h : t.target p = x) :
    t.has p = x.isSome := by
  cases x with
  | none =>
    obtain ⟨_, hnode⟩ := node_of_target_none h
    rw [has, hnode]
    rfl
  | some found =>
    obtain ⟨names, _ | content⟩ := found
    · obtain ⟨_, hnode⟩ := node_of_target_directory h
      rw [has, hnode]
      rfl
    · rw [has, (node_of_target_file h).2]
      rfl

theorem isFile_of_target_file (h : t.target p = some (names, .file content)) :
    t.isFile p = true := by
  rw [isFile, (node_of_target_file h).2]

theorem isFile_of_target_directory (h : t.target p = some (names, .directory)) :
    t.isFile p = false := by
  obtain ⟨_, hnode⟩ := node_of_target_directory h
  rw [isFile, hnode]

theorem resolve_of_target (h : t.target p = some (names, .file content)) :
    t.resolve p = match content.fault? .resolve with
      | some fault => .error fault
      | none => .ok names := by
  obtain ⟨hlocate, hview⟩ := target_eq_some_iff.1 h
  cases hfault : content.fault? .resolve <;>
    simp [resolve, hlocate, bind, Except.bind, get?_of_view hview, hfault]

theorem contentAt_of_view (h : t.view names = some (.file content)) :
    t.contentAt names = .ok content := by
  rw [contentAt, get?_of_view h]

end FileTree

namespace Source

/-! ### What is told of loading -/

theorem ensures_refuse (hP : Lasting P) {e : SourceError} {message : String}
    {context : List (String × String)} :
    Ensures P (refuse e message context : Loading α).run (· = .error e) :=
  .afterE hP.error (.pure rfl)

/-- Behind a refusal nothing is done. -/
theorem ensures_refuse_bind {β : Type} (hP : Lasting P) {e : SourceError} {message : String}
    {context : List (String × String)} {f : α → Loading β} :
    Ensures P (refuse e message context >>= f).run (· = .error e) := by
  refine .bindE (ensures_refuse hP) nofun fun e' he => ?_
  cases he
  rfl

theorem ensures_orRefuse (hP : Lasting P) {message : String} {path : Path} {place : List String}
    {r : Except FileFault α} : Ensures P (orRefuse message path place r).run
      (· = r.mapError (SourceError.ofFault (FileTree.absolute place))) := by
  cases r with
  | ok => exact .pure rfl
  | error => exact ensures_refuse hP

theorem ensures_tellLoaded (hP : Lasting P) (prefs : FilePreferences) (path : Path) (s : Source) :
    Ensures P (tellLoaded prefs path s) fun _ => True :=
  .ite (fun _ => hP.success) fun _ => hP.success

/-- The source that a text makes, if it has few enough lines. -/
def ofLines (info : FileInfo) (text : String) : Except SourceError Source :=
  let lines := Text.lineCount text.toList
  if lineLimit < lines then .error (.tooManyLines lines lineLimit)
  else .ok ⟨text, { info with lines }, 0⟩

theorem ensures_finish (hP : Lasting P) (prefs : FilePreferences) (path : Path) (info : FileInfo)
    (text : String) : Ensures P (finish prefs path info text).run (· = ofLines info text) := by
  unfold finish ofLines
  refine .unlessE (ensures_refuse hP) (fun h => ?_) fun h => ?_
  · rw [if_pos h]
  · rw [if_neg h]
    exact .afterE (ensures_tellLoaded hP prefs path _) (.pure rfl)

/-! ### Files -/

/-- Where the file is that a path leads to, and what there is of it. -/
def resolved (path : Path) :
    Option (List String × Standing) → Except SourceError (List String × FileContent)
  | none => .error (if path = "" then .badPath path else .notFound path)
  | some (_, .directory) => .error (.badPath path)
  | some (place, .file content) =>
    match content.fault? .resolve with
    | some fault => .error (.unreadable s!"Failed to resolve path '{path}': {fault.text}")
    | none => .ok (place, content)

/-- What is known of a file before it is read. -/
def inspected (place : List String) (content : FileContent) : Except SourceError FileInfo :=
  (content.size.mapError (SourceError.ofFault (FileTree.absolute place))).map
    (FileInfo.ofPath (FileTree.absolute place))

/-- Whether a file is read, by what is known of it before. -/
def checked (prefs : FilePreferences) (info : FileInfo) : Except SourceError Unit :=
  if sizeLimit < info.size then .error (.tooLarge info.size sizeLimit)
  else if prefs.requireExtension && !info.isSource then .error (.badExtension info.extension?)
  else .ok ()

/-- What comes of loading the file at a place. -/
def ofContent (prefs : FilePreferences) (place : List String) (content : FileContent) :
    Except SourceError Source := do
  let info ← inspected place content
  checked prefs info
  let text ← content.readText.mapError (SourceError.ofFault (FileTree.absolute place))
  ofLines info text

/-- What comes of loading a file, by what its path leads to. -/
def ofTarget (prefs : FilePreferences) (path : Path) (x : Option (List String × Standing)) :
    Except SourceError Source := do
  let (place, content) ← resolved path x
  ofContent prefs place content

theorem ensures_check (hP : Lasting P) (prefs : FilePreferences) (path : Path) (info : FileInfo) :
    Ensures P (check prefs path info).run (· = checked prefs info) := by
  unfold check
  refine .unlessE (ensures_refuse hP) ?_ ?_
  · intro hsize
    rw [checked, if_pos hsize]
  · intro hsize
    refine .alsoE hP.warning ?_
    rw [checked, if_neg hsize]
    split
    · exact ensures_refuse hP
    · exact .pure rfl

theorem ensures_resolve (hP : Lasting P) {path : Path} {x : Option (List String × Standing)}
    (hx : ∀ s, P s → s.files.target path = x) :
    Ensures P (resolve path).run (· = (resolved path x).map Prod.fst) := by
  -- The empty path leads nowhere in any session, but it takes one to see that.
  suffices h : (path = "" → x = none) →
      Ensures P (resolve path).run (· = (resolved path x).map Prod.fst) by
    intro s hs
    refine h ?_ s hs
    rintro rfl
    exact (hx s hs).symm
  intro hnone
  unfold resolve
  refine .unlessE (ensures_refuse hP) ?_ ?_
  · intro hempty
    rw [beq_iff_eq] at hempty
    rw [hnone hempty, resolved, if_pos hempty]
    rfl
  · intro hempty
    rw [beq_iff_eq] at hempty
    refine .getE fun s hs => ?_
    have htarget := hx s hs
    dsimp only
    rw [FileTree.has_of_target htarget]
    cases x with
    | none =>
      rw [resolved, if_neg hempty]
      exact ensures_refuse_bind hP
    | some found =>
      obtain ⟨place, _ | content⟩ := found
      · rw [FileTree.isFile_of_target_directory htarget]
        exact ensures_refuse_bind hP
      · rw [FileTree.isFile_of_target_file htarget, FileTree.resolve_of_target htarget, resolved]
        cases content.fault? .resolve with
        | some fault => exact ensures_refuse hP
        | none => exact .pure rfl

theorem ensures_inspect (hP : Lasting P) (path : Path) {place : List String}
    {content : FileContent} (hview : ∀ s, P s → s.files.view place = some (.file content)) :
    Ensures P (inspect path place).run (· = inspected place content) := by
  refine .getE fun s hs => ?_
  have hsize : s.files.sizeAt place = content.size := by
    rw [FileTree.sizeAt, FileTree.contentAt_of_view (hview s hs)]
    rfl
  dsimp only
  rw [hsize]
  exact (ensures_orRefuse hP).thenE (g := fun size => .ok _) fun _ _ => .pure rfl

theorem ensures_readAt (hP : Lasting P) (path : Path) {place : List String}
    {content : FileContent} (hview : ∀ s, P s → s.files.view place = some (.file content)) :
    Ensures P (readAt path place).run
      (· = content.readText.mapError (SourceError.ofFault (FileTree.absolute place))) := by
  refine .getE fun s hs => ?_
  have htext : s.files.readTextAt place = content.readText := by
    rw [FileTree.readTextAt, FileTree.contentAt_of_view (hview s hs)]
    rfl
  dsimp only
  rw [htext]
  exact ensures_orRefuse hP

theorem of_resolved {path : Path} {x : Option (List String × Standing)} {place : List String}
    {content : FileContent} (h : resolved path x = .ok (place, content)) :
    x = some (place, .file content) := by
  unfold resolved at h
  split at h
  · cases h
  · cases h
  · split at h
    · cases h
    · cases h
      rfl

/-- **What comes of loading a file** hangs on what its path leads to. -/
theorem ensures_load (hP : Lasting P) (prefs : FilePreferences) {path : Path}
    {x : Option (List String × Standing)} (hx : ∀ s, P s → s.files.target path = x) :
    Ensures P (load prefs path).run (· = ofTarget prefs path x) := by
  have hresolve := ensures_resolve hP hx
  refine .afterE hP.debug ?_
  unfold ofTarget
  cases hfile : resolved path x with
  | error e =>
    rw [hfile] at hresolve
    exact .bindE hresolve nofun fun _ he => by cases he; rfl
  | ok file =>
    obtain ⟨place, content⟩ := file
    rw [hfile] at hresolve
    have hview : ∀ s, P s → s.files.view place = some (.file content) := fun s hs =>
      (FileTree.target_eq_some_iff.1 ((hx s hs).trans (of_resolved hfile))).2
    refine .bindE hresolve (fun _ hplace => ?_) nofun
    cases hplace
    exact (ensures_inspect hP path hview).thenE fun info _ =>
      (ensures_check hP prefs path info).thenE fun _ _ =>
        (ensures_readAt hP path hview).thenE fun text _ => ensures_finish hP prefs path info text

/-- The text of bytes that are few enough, are text and have few enough lines. -/
def ofBytes? (info : FileInfo) (path : String) (bytes : ByteArray) : Except SourceError Source :=
  if sizeLimit < bytes.size then .error (.tooLarge bytes.size sizeLimit)
  else
    match String.fromUTF8? bytes with
    | none => .error (.notText path)
    | some text => ofLines info text

theorem ofBytes?_eq_ok_iff (info : FileInfo) (path : String) (bytes : ByteArray) (s : Source) :
    ofBytes? info path bytes = .ok s ↔
      bytes.size ≤ sizeLimit ∧ Text.lineCount s.text.toList ≤ lineLimit ∧
        String.fromUTF8? bytes = some s.text ∧
        s = ⟨s.text, { info with lines := Text.lineCount s.text.toList }, 0⟩ := by
  simp only [ofBytes?, ofLines]
  constructor
  · intro h
    split at h
    · cases h
    · split at h
      · cases h
      · split at h
        · cases h
        · cases h; simp_all
  · rintro ⟨h₁, h₂, h₃, h₄⟩
    rw [if_neg (Nat.not_lt.2 h₁), h₃]
    simp only [if_neg (Nat.not_lt.2 h₂)]
    rw [← h₄]

/-- **Without a demand on its extension, a file is judged by its bytes alone.** -/
theorem ofTarget_file {prefs : FilePreferences} (h : prefs.requireExtension = false) (path : Path)
    (names : List String) (bytes : ByteArray) :
    ofTarget prefs path (some (names, .file bytes)) =
      ofBytes? (.ofPath (FileTree.absolute names) bytes.size) (FileTree.absolute names) bytes := by
  have hcontent : ofTarget prefs path (some (names, .file bytes)) = ofContent prefs names bytes :=
    rfl
  have hinfo : inspected names bytes = .ok (.ofPath (FileTree.absolute names) bytes.size) := rfl
  rw [hcontent, ofContent, hinfo, ofBytes?]
  simp only [checked, h, bind, Except.bind, FileInfo.ofPath, Bool.false_and]
  by_cases hsize : sizeLimit < bytes.size
  · simp [hsize]
  · cases htext : String.fromUTF8? bytes with
    | none =>
      have hread : FileContent.readText bytes = .error .notText := by
        simp [FileContent.readText, FileContent.read, bind, Except.bind, htext]
      simp [hsize, hread]
      rfl
    | some text =>
      have hread : FileContent.readText bytes = .ok text := by
        simp [FileContent.readText, FileContent.read, bind, Except.bind, htext]
      simp [hsize, hread]
      rfl

/-- **Why a file that is refused is not loaded**: the fault that is met where it is refused first,
unless a check of what is known of the file by then fails before. -/
theorem ofTarget_refused (prefs : FilePreferences) (path : Path) (names : List String)
    (first : FileAccess) (fault : FileFault) (size : Nat) :
    ofTarget prefs path (some (names, .file (.refused first fault size))) =
      match first with
      | .resolve => .error (.unreadable s!"Failed to resolve path '{path}': {fault.text}")
      | .inspect => .error (.ofFault (FileTree.absolute names) fault)
      | .read => (checked prefs (.ofPath (FileTree.absolute names) size)).bind fun _ =>
          .error (.ofFault (FileTree.absolute names) fault) := by
  cases first <;> rfl

/-! ### Standard input -/

/-- What comes of loading standard input. -/
def ofInput (input : Input) : Except SourceError Source := do
  let bytes ← (input.take (sizeLimit + 1)).mapError (SourceError.ofFault standardInput)
  ofBytes? (.ofPath standardInput bytes.size) standardInput bytes

/-- Of bytes that come without a fault the first are read. -/
theorem ofInput_bytes (bytes : ByteArray) :
    ofInput bytes = ofBytes? (.ofPath standardInput (bytes.extract 0 (sizeLimit + 1)).size)
      standardInput (bytes.extract 0 (sizeLimit + 1)) := by
  have htake : Input.take bytes (sizeLimit + 1) = .ok (bytes.extract 0 (sizeLimit + 1)) := rfl
  rw [ofInput, htake]
  rfl

theorem ensures_readBytes (hP : Lasting P) (input : Input) : Ensures P (readBytes input).run
    (· = (input.take (sizeLimit + 1)).mapError (SourceError.ofFault standardInput)) := by
  unfold readBytes
  cases input.take (sizeLimit + 1) with
  | ok => exact .pure rfl
  | error => exact ensures_refuse hP

/-- **What comes of loading standard input** hangs on what it delivers alone. -/
theorem ensures_readInput (hP : Lasting P) (prefs : FilePreferences) (input : Input) :
    Ensures P (readInput prefs input).run (· = ofInput input) := by
  refine (ensures_readBytes hP input).thenE fun bytes _ => ?_
  refine .unlessE (ensures_refuse hP) ?_ ?_
  · intro (hsize : sizeLimit < bytes.size)
    rw [ofBytes?, if_pos hsize]
    rfl
  · intro (hsize : ¬sizeLimit < bytes.size)
    refine .alsoE hP.warning ?_
    rw [ofBytes?, if_neg hsize, decode]
    cases String.fromUTF8? bytes with
    | none => exact ensures_refuse_bind hP
    | some text => exact ensures_finish hP prefs standardInput _ text

/-! ### Texts and bounds -/

/-- The bytes of a text are its text. -/
theorem fromUTF8?_toUTF8 (text : String) : String.fromUTF8? text.toUTF8 = some text := by
  simp only [String.fromUTF8?, String.toUTF8_eq_toByteArray, dif_pos text.isValidUTF8]
  rfl

/-- What the bytes of a text come to, by its size and its lines. -/
theorem ofBytes?_toUTF8 (info : FileInfo) (path text : String) :
    ofBytes? info path text.toUTF8 =
      if sizeLimit < text.utf8ByteSize then .error (.tooLarge text.utf8ByteSize sizeLimit)
      else if lineLimit < Text.lineCount text.toList then
        .error (.tooManyLines (Text.lineCount text.toList) lineLimit)
      else .ok ⟨text, { info with lines := Text.lineCount text.toList }, 0⟩ := by
  rw [ofBytes?, fromUTF8?_toUTF8]
  rfl

theorem lineCount_le_of_ofLines {info : FileInfo} {text : String} {s : Source}
    (h : ofLines info text = .ok s) : Text.lineCount s.text.toList ≤ lineLimit := by
  unfold ofLines at h
  dsimp only at h
  split at h
  · cases h
  · next hlines =>
    cases h
    exact Nat.le_of_not_lt hlines

/-- **What is loaded from a file** has few enough lines, whatever becomes of the file meanwhile. -/
theorem ensures_bounded (prefs : FilePreferences) (path : Path) :
    Ensures (fun _ => True) (load prefs path).run
      fun r => ∀ s, r = .ok s → Text.lineCount s.text.toList ≤ lineLimit := by
  have hany : ∀ {α : Type} (m : Logged α), Ensures (fun _ => True) m fun _ => True :=
    fun _ _ _ => ⟨trivial, trivial⟩
  refine .afterE (hany _) (.bindE (hany _) (fun place _ => .bindE (hany _) (fun info _ =>
    .bindE (hany _) (fun _ _ => .bindE (hany _) (fun text _ => ?_) nofun) nofun) nofun) nofun)
  refine (ensures_finish lasting_true prefs path info text).mono fun _ hr s hs => ?_
  exact lineCount_le_of_ofLines (hr.symm.trans hs)

end Source

end Lookahead
