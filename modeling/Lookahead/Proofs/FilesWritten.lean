import Lookahead.Files.FileTree

/-!
# Files written

What a file tree holds is what stands under each list of names (`FileTree.view`): where a path
leads, and where a file of that path is written, are read off it.  Writing a file changes the view
at one place, and neither makes nor removes a directory or a file that is refused; so all paths lead
where they led, but for those that a file is written to at that place.

* `FileTree.target_eq_file_iff`: a path leads to a file that can be read exactly if that file is the
  one it writes.
* `FileTree.target_put_self`, `FileTree.target_put_of_ne`: where paths lead behind a write.
-/

namespace Lookahead

/-! ### Views -/

/-- What stands at a place of a file tree. -/
inductive Standing where
  | directory
  | file (content : FileContent)

/-- No file can be written in its place: a directory, or a file that is refused. -/
def Standing.Fixed : Standing → Prop
  | directory | file (.refused ..) => True
  | file (.bytes _) => False

namespace FileNode

/-- A node without what is below it. -/
def standing : FileNode → Standing
  | file content => .file content
  | dir _ => .directory

/-- What stands under a list of names. -/
def view (n : FileNode) (names : List String) : Option Standing := (n.get? names).map standing

theorem find?_cons (s name : String) (n : FileNode) (entries : List (String × FileNode)) :
    find? s ((name, n) :: entries) = if s = name then some n else find? s entries := by
  rw [find?, List.lookup_cons]
  by_cases h : s = name
  · simp [h]
  · simp [h, beq_false_of_ne h, find?]

theorem find?_setEntry (name s : String) (n : FileNode) (entries : List (String × FileNode)) :
    find? s (setEntry name n entries) = if s = name then some n else find? s entries := by
  induction entries with
  | nil => rw [setEntry, find?_cons]
  | cons entry entries ih =>
    obtain ⟨other, m⟩ := entry
    rw [setEntry]
    split
    · next h =>
      rw [find?_cons, find?_cons, eq_of_beq h]
      split <;> rfl
    · next h =>
      rw [find?_cons, find?_cons, ih]
      by_cases hs : s = other
      · have hne : s ≠ name := fun hn => h (beq_iff_eq.2 (hs.symm.trans hn))
        rw [if_pos hs, if_pos hs, if_neg hne]
      · rw [if_neg hs, if_neg hs]

@[simp] theorem view_nil_dir (entries : List (String × FileNode)) :
    (dir entries).view [] = some .directory := rfl

@[simp] theorem view_nil_file (content : FileContent) :
    (file content).view [] = some (.file content) := rfl

@[simp] theorem view_cons_file (content : FileContent) (name : String) (names : List String) :
    (file content).view (name :: names) = none := rfl

theorem view_cons_dir (entries : List (String × FileNode)) (name : String) (names : List String) :
    (dir entries).view (name :: names) = (find? name entries).bind (·.view names) := by
  rw [view, get?, Option.map_bind]
  rfl

/-- What stands above anything is a directory. -/
theorem view_of_append {n : FileNode} {names : List String} {s : String} {x : Standing}
    (h : n.view (names ++ [s]) = some x) : n.view names = some .directory := by
  induction names generalizing n with
  | nil =>
    cases n with
    | file => cases h
    | dir => rfl
  | cons name names ih =>
    cases n with
    | file => cases h
    | dir entries =>
      rw [List.cons_append, view_cons_dir] at h
      obtain ⟨m, hm, h⟩ := Option.bind_eq_some_iff.1 h
      rw [view_cons_dir, hm]
      exact ih h

/-- **A file that is written in a directory** stands at its place, and all else stands as it did. -/
theorem view_set {n : FileNode} {parent : List String} {last : String} (content : FileContent)
    (hparent : n.view parent = some .directory)
    (hplace : n.view (parent ++ [last]) ≠ some .directory) (names : List String) :
    (set (file content) (parent ++ [last]) n).view names =
      if names = parent ++ [last] then some (.file content) else n.view names := by
  induction parent generalizing n names with
  | nil =>
    cases n with
    | file => cases hparent
    | dir entries =>
      rw [List.nil_append] at hplace ⊢
      cases names with
      | nil => rfl
      | cons s names =>
        rw [set, set, view_cons_dir, find?_setEntry, view_cons_dir]
        by_cases hs : s = last
        · subst hs
          cases names with
          | nil => simp
          | cons s' names =>
            rw [view_cons_dir] at hplace
            cases hfind : find? s entries with
            | none => simp
            | some m =>
              cases m with
              | file => simp
              | dir => exact absurd (by rw [hfind]; rfl) hplace
        · simp [hs]
  | cons name parent ih =>
    cases n with
    | file => cases hparent
    | dir entries =>
      rw [List.cons_append] at hplace ⊢
      rw [view_cons_dir] at hparent hplace
      obtain ⟨m, hm, hbelow⟩ := Option.bind_eq_some_iff.1 hparent
      replace hplace : m.view (parent ++ [last]) ≠ some .directory := by rwa [hm] at hplace
      cases names with
      | nil => rfl
      | cons s names =>
        rw [set, hm, view_cons_dir, find?_setEntry, view_cons_dir]
        by_cases hs : s = name
        · subst hs
          simpa [hm] using ih hbelow hplace names
        · simp [hs]

end FileNode

/-! ### Paths -/

namespace Path

theorem getLast?_splitFrom_of_ends {sep : Char} {cs : List Char} (h : cs.getLast? = some sep)
    (piece : List Char) (done : List (List Char)) :
    (splitFrom piece done sep cs).getLast? = some [] := by
  induction cs generalizing piece done with
  | nil => cases h
  | cons c cs ih =>
    cases cs with
    | nil =>
      cases h
      simp [splitFrom]
    | cons d cs =>
      rw [List.getLast?_cons_cons] at h
      rw [splitFrom]
      split
      · exact ih h _ _
      · exact ih h _ _

theorem getLast?_splitFrom_ne {sep : Char} {cs piece : List Char} (h : cs.getLast? ≠ some sep)
    (hne : piece ≠ [] ∨ cs ≠ []) (done : List (List Char)) :
    (splitFrom piece done sep cs).getLast? ≠ some [] := by
  induction cs generalizing piece done with
  | nil => simpa [splitFrom] using hne
  | cons c cs ih =>
    have htail : cs.getLast? ≠ some sep := by
      cases cs with
      | nil => exact nofun
      | cons d cs => rwa [List.getLast?_cons_cons] at h
    rw [splitFrom]
    split
    · next hc =>
      refine ih htail (.inr ?_) _
      rintro rfl
      exact h (by simp [hc])
    · exact ih htail (.inl (List.cons_ne_nil _ _)) _

theorem splitFrom_ne_nil (sep : Char) (cs piece : List Char) (done : List (List Char)) :
    splitFrom piece done sep cs ≠ [] := by
  induction cs generalizing piece done with
  | nil => simp [splitFrom]
  | cons c cs ih =>
    rw [splitFrom]
    split
    · exact ih _ _
    · exact ih _ _

theorem segments_ne_nil (p : Path) : p.segments ≠ [] := by
  rw [segments, ne_eq, List.map_eq_nil_iff]
  exact splitFrom_ne_nil _ _ _ _

/-- The last segment is empty only if the path is, or if it ends with a slash. -/
theorem getLast?_segments (p : Path) :
    p.segments.getLast? = some "" ↔ p = "" ∨ p.toList.getLast? = some '/' := by
  have hmap : p.segments.getLast? = some "" ↔
      (splitFrom [] [] '/' p.toList).getLast? = some [] := by
    rw [segments, List.getLast?_map]
    cases (splitFrom [] [] '/' p.toList).getLast? with
    | none => simp
    | some piece => simp [String.ofList_eq_empty_iff]
  rw [hmap]
  by_cases hends : p.toList.getLast? = some '/'
  · exact iff_of_true (getLast?_splitFrom_of_ends hends [] []) (.inr hends)
  · by_cases hempty : p = ""
    · exact iff_of_true (hempty ▸ rfl) (.inl hempty)
    · have hne : p.toList ≠ [] := fun h => hempty (String.toList_eq_nil_iff.1 h)
      exact iff_of_false (getLast?_splitFrom_ne hends (.inr hne) []) (not_or.2 ⟨hempty, hends⟩)

/-- A path that does not end with a slash ends with a name. -/
theorem exists_last_segment {p : Path} (hp : p ≠ "") (h : p.toList.getLast? ≠ some '/') :
    ∃ last, last ≠ "" ∧ p.segments = p.segments.dropLast ++ [last] := by
  have hne := p.segments_ne_nil
  refine ⟨p.segments.getLast hne, fun hlast => ?_, (List.dropLast_concat_getLast hne).symm⟩
  have hlast' := List.getLast?_eq_some_getLast hne
  rw [hlast, getLast?_segments] at hlast'
  exact hlast'.elim hp h

end Path

namespace FileTree

variable {t u : FileTree} {p q : Path} {place names : List String}

/-- What stands under a list of names. -/
def view (t : FileTree) (names : List String) : Option Standing := t.root.view names

/-- Where a path starts. -/
def start (t : FileTree) (p : Path) : List String := if p.isAbsolute then [] else t.home

/-- Where a path leads, and what stands there. -/
def target (t : FileTree) (p : Path) : Option (List String × Standing) :=
  match t.locate p with
  | .ok names => (t.view names).map (names, ·)
  | .error _ => none

theorem view_of_get? {n : FileNode} (h : t.root.get? names = some n) :
    t.view names = some n.standing := congrArg (Option.map _) h

theorem get?_of_view {content : FileContent} (h : t.view names = some (.file content)) :
    t.root.get? names = some (.file content) := by
  obtain ⟨n, hn, hstanding⟩ := Option.map_eq_some_iff.1 h
  cases n with
  | file => cases hstanding; exact hn
  | dir => cases hstanding

theorem view_eq_directory_iff :
    t.view names = some .directory ↔ ∃ entries, t.root.get? names = some (.dir entries) := by
  constructor
  · intro h
    obtain ⟨n, hn, hstanding⟩ := Option.map_eq_some_iff.1 h
    cases n with
    | file => cases hstanding
    | dir entries => exact ⟨entries, hn⟩
  · rintro ⟨entries, h⟩
    exact view_of_get? h

/-- An entry of a directory stands below it. -/
theorem view_concat {entries : List (String × FileNode)}
    (h : t.root.get? place = some (.dir entries)) (s : String) :
    t.view (place ++ [s]) = (FileNode.find? s entries).map FileNode.standing := by
  have hget : t.root.get? (place ++ [s]) = FileNode.find? s entries := by
    generalize t.root = n at h
    induction place generalizing n with
    | nil =>
      cases h
      simp [FileNode.get?]
    | cons name place ih =>
      cases n with
      | file => cases h
      | dir =>
        obtain ⟨m, hm, hbelow⟩ := Option.bind_eq_some_iff.1 h
        simpa [FileNode.get?, hm] using ih m hbelow
  exact congrArg (Option.map _) hget

/-- What one segment does from a directory: an empty one and a dot stay, two dots lead up, and a
name leads down to what stands there. -/
inductive Follows (t : FileTree) (place : List String) : String → List String → Prop
  | stay {s : String} (h : s = "" ∨ s = ".") : Follows t place s place
  | up : Follows t place ".." place.dropLast
  | down {s : String} (hempty : s ≠ "") (hhere : s ≠ ".") (hup : s ≠ "..")
      (hsize : s.utf8ByteSize ≤ nameLimit) (h : t.view (place ++ [s]) ≠ none) :
      Follows t place s (place ++ [s])

/-- A segment is followed only from a directory. -/
theorem follows_of_follow {s : String} (h : t.follow place s = .ok names) :
    t.view place = some .directory ∧ Follows t place s names := by
  rw [follow] at h
  split at h
  · cases h
  · cases h
  · next entries hentries =>
    refine ⟨view_eq_directory_iff.2 ⟨entries, hentries⟩, ?_⟩
    split at h
    · next hs =>
      cases h
      exact .stay (by simpa using hs)
    · next hs =>
      rw [Bool.or_eq_true, not_or, beq_iff_eq, beq_iff_eq] at hs
      split at h
      · next hup =>
        cases h
        exact eq_of_beq hup ▸ .up
      · next hup =>
        split at h
        · cases h
        · next hsize =>
          split at h
          · next hfound =>
            cases h
            refine .down hs.1 hs.2 (fun he => hup (beq_iff_eq.2 he)) (Nat.not_lt.1 hsize) ?_
            rw [view_concat hentries, ne_eq, Option.map_eq_none_iff]
            exact Option.isSome_iff_ne_none.1 hfound
          · cases h

theorem Follows.follow_eq {s : String} (h : Follows t place s names)
    (hplace : t.view place = some .directory) : t.follow place s = .ok names := by
  obtain ⟨entries, hentries⟩ := view_eq_directory_iff.1 hplace
  rw [follow, hentries]
  cases h with
  | stay h => simp [h]
  | up => simp
  | down hempty hhere hup hsize h =>
    rw [view_concat hentries, ne_eq, Option.map_eq_none_iff] at h
    have hfound := Option.isSome_iff_ne_none.2 h
    simp [hempty, hhere, hup, Nat.not_lt.2 hsize, hfound]

/-! #### Paths to directories -/

/-- Two trees that start relative paths at one place, and have the same directories and the same
files that are refused. -/
structure SameFixtures (t u : FileTree) : Prop where
  home : t.home = u.home
  view_iff (names : List String) {x : Standing} (hx : x.Fixed) :
    t.view names = some x ↔ u.view names = some x

theorem SameFixtures.symm (h : SameFixtures t u) : SameFixtures u t :=
  ⟨h.home.symm, fun names _ hx => (h.view_iff names hx).symm⟩

theorem SameFixtures.start_eq (h : SameFixtures t u) (p : Path) : t.start p = u.start p := by
  rw [start, start, h.home]

theorem SameFixtures.directory_iff (h : SameFixtures t u) (names : List String) :
    t.view names = some .directory ↔ u.view names = some .directory := h.view_iff names trivial

/-- A way that ends at a fixture starts at one. -/
theorem fixed_of_foldlM {segments : List String} {from₀ : List String} {x : Standing}
    (hx : x.Fixed) (h : segments.foldlM t.follow from₀ = .ok names)
    (hnames : t.view names = some x) : ∃ y : Standing, y.Fixed ∧ t.view from₀ = some y := by
  cases segments with
  | nil => cases h; exact ⟨x, hx, hnames⟩
  | cons s segments =>
    rw [List.foldlM_cons] at h
    cases hfollow : t.follow from₀ s with
    | error => rw [hfollow] at h; cases h
    | ok next => exact ⟨.directory, trivial, (follows_of_follow hfollow).1⟩

/-- **Ways to fixtures** are the same in trees with the same ones. -/
theorem SameFixtures.foldlM (hsame : SameFixtures t u) {segments : List String}
    {from₀ : List String} {x : Standing} (hx : x.Fixed)
    (h : segments.foldlM t.follow from₀ = .ok names) (hnames : t.view names = some x) :
    segments.foldlM u.follow from₀ = .ok names := by
  induction segments generalizing from₀ with
  | nil => exact h
  | cons s segments ih =>
    rw [List.foldlM_cons] at h ⊢
    cases hfollow : t.follow from₀ s with
    | error => rw [hfollow] at h; cases h
    | ok next =>
      rw [hfollow] at h
      obtain ⟨y, hy, hnext⟩ := fixed_of_foldlM hx h hnames
      obtain ⟨hfrom, hfollows⟩ := follows_of_follow hfollow
      have hfollow' : u.follow from₀ s = .ok next := by
        refine Follows.follow_eq ?_ ((hsame.directory_iff _).1 hfrom)
        cases hfollows with
        | stay hs => exact .stay hs
        | up => exact .up
        | down hempty hhere hup hsize _ =>
          exact .down hempty hhere hup hsize (by rw [(hsame.view_iff _ hy).1 hnext]; exact nofun)
      rw [hfollow']
      exact ih h

/-! #### Paths to files -/

/-- A path that a file can be written under: behind a directory stands a name that is no
fixture's. -/
structure Writes (t : FileTree) (p : Path) (parent : List String) (last : String) : Prop where
  fault : pathFault? p = none
  segments : p.segments = p.segments.dropLast ++ [last]
  way : p.segments.dropLast.foldlM t.follow (t.start p) = .ok parent
  directory : t.view parent = some .directory
  nonempty : last ≠ ""
  here : last ≠ "."
  up : last ≠ ".."
  size : last.utf8ByteSize ≤ nameLimit
  free : ∀ x : Standing, x.Fixed → t.view (parent ++ [last]) ≠ some x

/-- Slashes behind a path are passed over, and here there are none. -/
theorem trimmed_segments {before : List String} {last : String} (h : last ≠ "") :
    ((before ++ [last]).reverse.dropWhile (· == "")).reverse = before ++ [last] := by
  simp [h]

theorem ne_empty_of_pathFault? (h : pathFault? p = none) : p ≠ "" := by
  rintro rfl
  cases h

/-- All that is asked of a path that a file is written under. -/
theorem of_placeForWriting (h : t.placeForWriting p = .ok place) :
    let segments := (p.segments.reverse.dropWhile (· == "")).reverse
    let last := segments.getLast?.getD ""
    pathFault? p = none ∧ p.toList.getLast? ≠ some '/' ∧ last ≠ "." ∧ last ≠ ".." ∧
      last.utf8ByteSize ≤ nameLimit ∧
      ∃ parent entries, segments.dropLast.foldlM t.follow (t.start p) = .ok parent ∧
        t.root.get? parent = some (.dir entries) ∧
        (FileNode.find? last entries = none ∨
          ∃ held : ByteArray, FileNode.find? last entries = some (.file held)) ∧
        place = parent ++ [last] := by
  intro segments last
  rw [placeForWriting] at h
  split at h
  · cases h
  · next hfault =>
    change (segments.dropLast.foldlM t.follow (t.start p) >>= _) = _ at h
    cases hway : segments.dropLast.foldlM t.follow (t.start p) with
    | error => rw [hway] at h; cases h
    | ok parent =>
      rw [hway] at h
      simp only [bind, Except.bind] at h
      split at h
      · next entries hentries =>
        split at h
        · cases h
        · next hends =>
          simp only [Bool.or_eq_true, beq_iff_eq, not_or] at hends
          obtain ⟨⟨hslash, hhere⟩, hup⟩ := hends
          split at h
          · cases h
          · next hsize =>
            split at h
            · cases h
            · cases h
            · next held hheld =>
              cases h
              exact ⟨hfault, hslash, hhere, hup, Nat.not_lt.1 hsize, parent, entries, rfl,
                hentries, .inr ⟨held, hheld⟩, rfl⟩
            · next hnone =>
              cases h
              exact ⟨hfault, hslash, hhere, hup, Nat.not_lt.1 hsize, parent, entries, rfl,
                hentries, .inl hnone, rfl⟩
      · cases h
      · cases h

/-- A file is written behind a directory, under a name that is no fixture's. -/
theorem exists_writes (h : t.placeForWriting p = .ok place) :
    ∃ parent last, t.Writes p parent last ∧ place = parent ++ [last] := by
  obtain ⟨hfault, hslash, hhere, hup, hsize, parent, entries, hway, hentries, hfree, rfl⟩ :=
    of_placeForWriting h
  obtain ⟨last, hlast, hsplit⟩ := Path.exists_last_segment (ne_empty_of_pathFault? hfault) hslash
  rw [hsplit, trimmed_segments hlast] at hway hhere hup hsize hfree ⊢
  rw [List.dropLast_concat] at hway
  rw [List.getLast?_concat, Option.getD_some] at hhere hup hsize hfree ⊢
  refine ⟨parent, last, ⟨hfault, hsplit, hway, view_of_get? hentries, hlast, hhere, hup, hsize,
    fun x hx hview => ?_⟩, rfl⟩
  rw [view_concat hentries] at hview
  rcases hfree with hnone | ⟨held, hheld⟩
  · rw [hnone] at hview
    cases hview
  · rw [hheld] at hview
    cases hview
    exact hx

theorem Writes.placeForWriting_eq {parent : List String} {last : String}
    (h : t.Writes p parent last) : t.placeForWriting p = .ok (parent ++ [last]) := by
  obtain ⟨entries, hentries⟩ := view_eq_directory_iff.1 h.directory
  have hslash : p.toList.getLast? ≠ some '/' := fun hslash => by
    have hlast := (Path.getLast?_segments p).2 (.inr hslash)
    rw [h.segments, List.getLast?_concat] at hlast
    exact h.nonempty (Option.some.inj hlast)
  have hfree : FileNode.find? last entries = none ∨
      ∃ held : ByteArray, FileNode.find? last entries = some (.file held) := by
    have hview := view_concat hentries last
    rcases hfind : FileNode.find? last entries with _ | (_ | _) | _
    · exact .inl rfl
    · exact .inr ⟨_, rfl⟩
    · exact absurd (hview.trans (congrArg _ hfind)) (h.free _ trivial)
    · exact absurd (hview.trans (congrArg _ hfind)) (h.free _ trivial)
  have hway := h.way
  rw [start] at hway
  rw [placeForWriting, h.fault]
  dsimp only
  rw [h.segments, trimmed_segments h.nonempty, List.dropLast_concat, hway]
  simp only [bind, Except.bind, hentries, List.getLast?_concat, Option.getD_some]
  rw [if_neg (by simp [hslash, h.here, h.up]), if_neg (Nat.not_lt.2 h.size)]
  rcases hfree with hnone | ⟨held, hheld⟩
  · rw [hnone]
  · rw [hheld]

theorem placeForWriting_eq_ok_iff : t.placeForWriting p = .ok place ↔
    ∃ parent last, t.Writes p parent last ∧ place = parent ++ [last] := by
  refine ⟨exists_writes, ?_⟩
  rintro ⟨parent, last, h, rfl⟩
  exact h.placeForWriting_eq

theorem SameFixtures.writes (hsame : SameFixtures t u) {parent : List String} {last : String}
    (h : t.Writes p parent last) : u.Writes p parent last :=
  { h with
    way := hsame.start_eq p ▸ hsame.foldlM (x := .directory) trivial h.way h.directory
    directory := (hsame.directory_iff _).1 h.directory
    free := fun x hx hview => h.free x hx ((hsame.view_iff _ hx).2 hview) }

/-- **Files are written in the same places** in trees with the same fixtures. -/
theorem SameFixtures.placeForWriting_iff (hsame : SameFixtures t u) :
    t.placeForWriting p = .ok place ↔ u.placeForWriting p = .ok place := by
  rw [placeForWriting_eq_ok_iff, placeForWriting_eq_ok_iff]
  exact ⟨fun ⟨parent, last, h, he⟩ => ⟨parent, last, hsame.writes h, he⟩,
    fun ⟨parent, last, h, he⟩ => ⟨parent, last, hsame.symm.writes h, he⟩⟩

/-! ### Where paths lead -/

theorem locate_eq_ok_iff : t.locate p = .ok names ↔
    pathFault? p = none ∧ p.segments.foldlM t.follow (t.start p) = .ok names := by
  rw [locate, start]
  cases pathFault? p with
  | some => simp
  | none => simp

theorem target_eq_some_iff {x : Standing} :
    t.target p = some (names, x) ↔ t.locate p = .ok names ∧ t.view names = some x := by
  rw [target]
  cases t.locate p with
  | error => simp
  | ok found =>
    simp only [Option.map_eq_some_iff, Prod.mk.injEq, Except.ok.injEq]
    constructor
    · rintro ⟨_, hx, rfl, rfl⟩
      exact ⟨rfl, hx⟩
    · rintro ⟨rfl, hx⟩
      exact ⟨x, hx, rfl, rfl⟩

/-- Upwards from a directory stands a directory. -/
theorem directory_dropLast (h : t.view names = some .directory) :
    t.view names.dropLast = some .directory := by
  cases hnames : names.getLast? with
  | none =>
    rw [List.getLast?_eq_none_iff] at hnames
    subst hnames
    exact h
  | some last =>
    obtain ⟨before, rfl⟩ := List.getLast?_eq_some_iff.1 hnames
    rw [List.dropLast_concat]
    exact FileNode.view_of_append h

theorem foldlM_concat_iff {before : List String} {last : String} {from₀ : List String} :
    (before ++ [last]).foldlM t.follow from₀ = .ok names ↔
      ∃ parent, before.foldlM t.follow from₀ = .ok parent ∧ t.follow parent last = .ok names := by
  rw [List.foldlM_append]
  cases before.foldlM t.follow from₀ with
  | error => exact iff_of_false nofun nofun
  | ok parent =>
    have hlast : ([last].foldlM t.follow parent) = t.follow parent last := by
      rw [List.foldlM_cons]
      exact bind_pure _
    change [last].foldlM t.follow parent = .ok names ↔ _
    rw [hlast]
    refine ⟨fun h => ⟨parent, rfl, h⟩, ?_⟩
    rintro ⟨_, he, h⟩
    cases he
    exact h

/-- **A path leads to a file that can be read** exactly if that is the file it writes. -/
theorem target_eq_file_iff {bytes : ByteArray} : t.target p = some (names, .file bytes) ↔
    t.placeForWriting p = .ok names ∧ t.view names = some (.file bytes) := by
  rw [target_eq_some_iff, locate_eq_ok_iff, placeForWriting_eq_ok_iff]
  constructor
  · rintro ⟨⟨hfault, hway⟩, hview⟩
    refine ⟨?_, hview⟩
    have hne := p.segments_ne_nil
    have hsplit := (List.dropLast_concat_getLast hne).symm
    generalize p.segments.getLast hne = last at hsplit
    rw [hsplit] at hway
    obtain ⟨parent, hparent, hfollow⟩ := foldlM_concat_iff.1 hway
    obtain ⟨hdirectory, hfollows⟩ := follows_of_follow hfollow
    cases hfollows with
    | stay => rw [hdirectory] at hview; cases hview
    | up => rw [directory_dropLast hdirectory] at hview; cases hview
    | down hempty hhere hup hsize _ =>
      refine ⟨parent, last, ⟨hfault, hsplit, hparent, hdirectory, hempty, hhere, hup, hsize,
        fun x hx h => ?_⟩, rfl⟩
      rw [hview] at h
      cases h
      exact hx
  · rintro ⟨⟨parent, last, h, rfl⟩, hview⟩
    refine ⟨⟨h.fault, ?_⟩, hview⟩
    have hfollow : t.follow parent last = .ok (parent ++ [last]) :=
      (Follows.down h.nonempty h.here h.up h.size (by rw [hview]; exact nofun)).follow_eq
        h.directory
    rw [h.segments]
    exact foldlM_concat_iff.2 ⟨parent, h.way, hfollow⟩

/-- Paths to fixtures lead to them in trees with the same ones. -/
theorem SameFixtures.target_eq (hsame : SameFixtures t u) {x : Standing} (hx : x.Fixed)
    (h : t.target p = some (names, x)) : u.target p = some (names, x) := by
  obtain ⟨hlocate, hview⟩ := target_eq_some_iff.1 h
  obtain ⟨hfault, hway⟩ := locate_eq_ok_iff.1 hlocate
  refine target_eq_some_iff.2 ⟨locate_eq_ok_iff.2 ⟨hfault, ?_⟩, (hsame.view_iff _ hx).1 hview⟩
  rw [← hsame.start_eq p]
  exact hsame.foldlM hx hway hview

/-! ### Writing -/

/-- **Writing a file** changes what stands in its place, and nothing else. -/
theorem view_put (h : t.placeForWriting p = .ok place) (bytes : ByteArray)
    (names : List String) : (t.put place bytes).view names =
      if names = place then some (.file bytes) else t.view names := by
  obtain ⟨parent, last, hwrites, rfl⟩ := exists_writes h
  exact FileNode.view_set bytes hwrites.directory (hwrites.free .directory trivial) names

theorem sameFixtures_put (h : t.placeForWriting p = .ok place) (bytes : ByteArray) :
    SameFixtures t (t.put place bytes) := by
  refine ⟨rfl, fun names x hx => ?_⟩
  rw [view_put h]
  split
  · next hnames =>
    subst hnames
    obtain ⟨parent, last, hwrites, rfl⟩ := exists_writes h
    refine iff_of_false (hwrites.free x hx) fun hbytes => ?_
    cases hbytes
    exact hx
  · rfl

/-- **A file that was written is found** where its path leads. -/
theorem target_put_self (h : t.placeForWriting p = .ok place) (bytes : ByteArray) :
    (t.put place bytes).target p = some (place, .file bytes) :=
  target_eq_file_iff.2 ⟨(sameFixtures_put h bytes).placeForWriting_iff.1 h,
    (view_put h bytes place).trans (if_pos rfl)⟩

/-- **Other paths lead where they led** before a file was written. -/
theorem target_put_of_ne (hq : t.placeForWriting q = .ok place) (bytes : ByteArray)
    (hp : t.placeForWriting p ≠ .ok place) : (t.put place bytes).target p = t.target p := by
  have hsame := sameFixtures_put hq bytes
  refine Option.ext fun ⟨names, x⟩ => ?_
  cases x with
  | directory => exact ⟨hsame.symm.target_eq trivial, hsame.target_eq trivial⟩
  | file content =>
    cases content with
    | refused => exact ⟨hsame.symm.target_eq trivial, hsame.target_eq trivial⟩
    | bytes held =>
      rw [target_eq_file_iff, target_eq_file_iff, ← hsame.placeForWriting_iff]
      refine and_congr_right fun hnames => ?_
      have hne : names ≠ place := by
        rintro rfl
        exact hp hnames
      rw [view_put hq, if_neg hne]

theorem append_eq_ok {text : String} (h : t.append p text = .ok u) :
    ∃ place bytes, t.placeForWriting p = .ok place ∧ u = t.put place bytes := by
  rw [append] at h
  cases hplace : t.placeForWriting p with
  | error => rw [hplace] at h; cases h
  | ok place =>
    rw [hplace] at h
    cases h
    exact ⟨place, _, rfl, rfl⟩

theorem write_eq_ok {text : String} (h : t.write p text = .ok u) :
    ∃ place, t.placeForWriting p = .ok place ∧ u = t.put place text.toUTF8 := by
  rw [write] at h
  cases hplace : t.placeForWriting p with
  | error => rw [hplace] at h; cases h
  | ok place =>
    rw [hplace] at h
    cases h
    exact ⟨place, rfl, rfl⟩

end FileTree

end Lookahead
