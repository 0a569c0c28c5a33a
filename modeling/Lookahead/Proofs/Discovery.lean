import Lookahead.Proofs.TreesInOrder
import Lookahead.Proofs.Turns

/-!
# Discovery

A walk that stops at a number of files has met the first files of the walk that does not stop
(`Walk.after`), and a walk over a tree in order meets files in the order of their paths, although
each directory is put in order for itself.  So what is found is the front of one sorted list.

* `Walk.visitAll_after`: what a walk over entries comes to.
* `BatchChoices.mem_filesAmong`, `BatchChoices.pairwise_filesAmong`: the files below entries.
* `BatchChoices.discover_sorted_prefix`: the files that are found.
-/

namespace Lookahead

open Session

variable {c : BatchChoices} {dir p : Path} {entries : List (String × FileNode)} {n : FileNode}

namespace BatchChoices

mutual

/-- The files to pick in a tree, in the order of a walk that does not stop. -/
def filesBelow (c : BatchChoices) (p : Path) : FileNode → List Path
  | .file _ => if c.picks p then [p] else []
  | .dir entries => if c.recursive then filesAmong c p entries else []

/-- The files to pick among the entries of a directory, and below them. -/
def filesAmong (c : BatchChoices) (dir : Path) : List (String × FileNode) → List Path
  | [] => []
  | (name, n) :: rest =>
    let p := dir.join name
    (if FileTree.fits p then filesBelow c p n else []) ++ filesAmong c dir rest

end

mutual

theorem filesBelow_maxFiles (k : Option Nat) (p : Path) :
    ∀ n, filesBelow { c with maxFiles := k } p n = c.filesBelow p n
  | .file _ => by
    rw [filesBelow, filesBelow]
    rfl
  | .dir entries => by rw [filesBelow, filesBelow, filesAmong_maxFiles]

theorem filesAmong_maxFiles (k : Option Nat) (dir : Path) :
    ∀ entries, filesAmong { c with maxFiles := k } dir entries = c.filesAmong dir entries
  | [] => by rw [filesAmong, filesAmong]
  | (name, n) :: rest => by rw [filesAmong, filesAmong, filesBelow_maxFiles, filesAmong_maxFiles]

end

/-- All files to pick in a directory, in the order of their paths. -/
def allFiles (c : BatchChoices) (dir : Path) (entries : List (String × FileNode)) : List Path :=
  c.filesAmong dir (FileNode.byName (FileNode.entriesInOrder entries))

/-- The number of files to stop at does not matter for what there is to pick. -/
theorem allFiles_maxFiles (k : Option Nat) (dir : Path) (entries : List (String × FileNode)) :
    allFiles { c with maxFiles := k } dir entries = c.allFiles dir entries :=
  filesAmong_maxFiles k dir _

/-- The files that are asked for of those that there are. -/
def capped (c : BatchChoices) (files : List Path) : List Path :=
  match c.maxFiles with
  | some limit => files.take limit
  | none => files

theorem capped_none (files : List Path) : capped { c with maxFiles := none } files = files := rfl

theorem capped_some (k : Nat) (files : List Path) :
    capped { c with maxFiles := some k } files = files.take k := rfl

theorem capped_sublist (files : List Path) : (c.capped files).Sublist files := by
  rw [capped]
  split
  · exact List.take_sublist _ _
  · exact List.Sublist.refl _

end BatchChoices

/-! ### Walks that stop -/

namespace Walk

/-- A walk that has come by these files, the last of which it does not meet if it stops before. -/
def after (c : BatchChoices) (files : List Path) : Walk where
  found := (c.capped files).reverse
  count := (c.capped files).length
  stopped := match c.maxFiles with
    | some limit => limit ≤ files.length
    | none => false

theorem start_eq_after (h : c.maxFiles ≠ some 0) : start = after c [] := by
  unfold after BatchChoices.capped
  cases hmax : c.maxFiles with
  | none => rfl
  | some limit =>
    have hpos : ¬ limit ≤ 0 := fun hle => h (hmax.trans (congrArg some (Nat.le_zero.1 hle)))
    simp [start, hpos]

/-- A walk that has not stopped goes on with the next file. -/
theorem add_after {files : List Path} (h : (after c files).stopped = false) (p : Path) :
    (after c files).add c p = after c (files ++ [p]) := by
  unfold after add BatchChoices.capped at *
  cases hmax : c.maxFiles with
  | none => simp
  | some limit =>
    have hlt : files.length < limit := by simpa [hmax] using h
    have hnext : (files ++ [p]).take limit = files ++ [p] :=
      List.take_of_length_le (by simpa using Nat.succ_le_of_lt hlt)
    simp [List.take_of_length_le hlt.le, hnext]

/-- A walk that has stopped has found all it is asked for. -/
theorem after_append {files : List Path} (h : (after c files).stopped = true) (more : List Path) :
    after c (files ++ more) = after c files := by
  unfold after BatchChoices.capped at *
  cases hmax : c.maxFiles with
  | none => simp [hmax] at h
  | some limit =>
    have hle : limit ≤ files.length := by simpa [hmax] using h
    simp [List.take_append_of_le_length hle, hle.trans (Nat.le_add_right _ _), hle]

mutual

theorem visit_after {files : List Path} (h : (after c files).stopped = false) (p : Path) :
    ∀ n, visit c p n (after c files) = after c (files ++ c.filesBelow p n)
  | .file _ => by
    rw [visit, BatchChoices.filesBelow]
    split
    · exact add_after h p
    · rw [List.append_nil]
  | .dir entries => by
    rw [visit, BatchChoices.filesBelow]
    split
    · exact visitAll_after files p entries
    · rw [List.append_nil]

/-- **A walk over entries** meets the files among them, up to the number that it stops at. -/
theorem visitAll_after (files : List Path) (dir : Path) :
    ∀ entries, visitAll c dir entries (after c files) = after c (files ++ c.filesAmong dir entries)
  | [] => by rw [visitAll, BatchChoices.filesAmong, List.append_nil]
  | (name, n) :: rest => by
    rw [visitAll, BatchChoices.filesAmong]
    split
    · next h => rw [after_append h]
    · next h =>
      rw [Bool.not_eq_true] at h
      dsimp only
      split
      · rw [visit_after h, visitAll_after, List.append_assoc]
      · rw [visitAll_after, List.nil_append]

end

end Walk

namespace BatchChoices

/-! ### Files below a directory -/

/-- The file under a list of names is to be picked, and `p` is its path: it is among the entries, or
below them if directories in the directory are searched, it has one of the extensions, and its path
is not too long to be followed. -/
structure Matches (c : BatchChoices) (dir : Path) (n : FileNode) (names : List String) (p : Path) :
    Prop where
  file : ∃ content, n.get? names = some (.file content)
  level : c.recursive = true ∨ names.length ≤ 1
  path_eq : p = names.foldl Path.join dir
  picks : c.picks p = true
  fits : FileTree.fits p = true

theorem picks_of_extension {ext : String} (h : p.extension? = some ext)
    (hext : ext ∈ c.extensions) : c.picks p = true := by
  rw [picks, h]
  exact List.any_eq_true.2 ⟨ext, hext, beq_self_eq_true _⟩

theorem fits_of_foldl_join {names : List String}
    (h : FileTree.fits (names.foldl Path.join p) = true) : FileTree.fits p = true :=
  decide_eq_true (Nat.le_trans (Path.size_le_foldl_join p names) (of_decide_eq_true h))

/-- An entry's files to pick are those that are below it. -/
theorem matches_cons {name : String} {names : List String}
    (h : FileNode.find? name entries = some n) : c.Matches dir (.dir entries) (name :: names) p ↔
      (c.recursive = true ∨ names = []) ∧ c.Matches (dir.join name) n names p := by
  have hget : (FileNode.dir entries).get? (name :: names) = n.get? names := by
    rw [FileNode.get?, h, Option.bind_some]
  constructor
  · rintro ⟨hfile, hlevel, hpath, hpicks, hfits⟩
    rw [hget] at hfile
    have hlevel' : c.recursive = true ∨ names = [] := hlevel.imp_right fun hle =>
      List.length_eq_zero_iff.1 (Nat.le_zero.1 (Nat.le_of_succ_le_succ hle))
    exact ⟨hlevel', hfile, hlevel'.imp_right fun h => by simp [h], hpath, hpicks, hfits⟩
  · rintro ⟨hlevel, hfile, -, hpath, hpicks, hfits⟩
    exact ⟨hget ▸ hfile, hlevel.imp_right fun h => by simp [h], hpath, hpicks, hfits⟩

/-- The files to pick in a directory are those that are below its entries. -/
theorem exists_matches_iff (hnodup : (entries.map Prod.fst).Nodup) :
    (∃ names, c.Matches dir (.dir entries) names p) ↔ ∃ e ∈ entries, ∃ names,
      (c.recursive = true ∨ names = []) ∧ c.Matches (dir.join e.1) e.2 names p := by
  constructor
  · rintro ⟨_ | ⟨name, names⟩, h⟩
    · obtain ⟨content, hfile⟩ := h.file
      cases hfile
    · obtain ⟨content, hfile⟩ := h.file
      obtain ⟨n, hn, -⟩ := Option.bind_eq_some_iff.1 hfile
      exact ⟨(name, n), (FileNode.find?_eq_some_iff hnodup).1 hn, names, (matches_cons hn).1 h⟩
  · rintro ⟨⟨name, n⟩, he, names, h⟩
    exact ⟨name :: names, (matches_cons ((FileNode.find?_eq_some_iff hnodup).2 he)).2 h⟩

mutual

theorem mem_filesBelow {q : Path} (hfits : FileTree.fits q = true) : ∀ n : FileNode, n.Proper →
    (p ∈ c.filesBelow q n ↔
      ∃ names, (c.recursive = true ∨ names = []) ∧ c.Matches q n names p)
  | .file content, _ => by
    have hnames : ∀ names content', (FileNode.file content).get? names = some (.file content') →
        names = [] := by
      rintro (_ | ⟨name, names⟩) content' h
      · rfl
      · cases h
    rw [filesBelow, List.mem_ite_nil_right, List.mem_singleton]
    constructor
    · rintro ⟨hpicks, rfl⟩
      exact ⟨[], .inr rfl, ⟨content, rfl⟩, .inr (Nat.zero_le 1), rfl, hpicks, hfits⟩
    · rintro ⟨names, -, h⟩
      obtain ⟨content', hfile⟩ := h.file
      obtain rfl := hnames names content' hfile
      obtain rfl := h.path_eq
      exact ⟨h.picks, rfl⟩
  | .dir entries, hproper => by
    obtain ⟨hnodup, -⟩ := hproper.here
    rw [filesBelow, List.mem_ite_nil_right,
      mem_filesAmong q entries fun e he => hproper.entry hnodup he, ← exists_matches_iff hnodup]
    constructor
    · rintro ⟨hrecursive, names, h⟩
      exact ⟨names, .inl hrecursive, h⟩
    · rintro ⟨names, hlevel, h⟩
      refine ⟨hlevel.resolve_right ?_, names, h⟩
      rintro rfl
      obtain ⟨content, hfile⟩ := h.file
      cases hfile

theorem mem_filesAmong (dir : Path) : ∀ entries : List (String × FileNode),
    (∀ e ∈ entries, e.2.Proper) → (p ∈ c.filesAmong dir entries ↔ ∃ e ∈ entries, ∃ names,
      (c.recursive = true ∨ names = []) ∧ c.Matches (dir.join e.1) e.2 names p)
  | [], _ => by simp [filesAmong]
  | (name, n) :: rest, hproper => by
    obtain ⟨hn, hrest⟩ := List.forall_mem_cons.1 hproper
    rw [filesAmong, List.mem_append, mem_filesAmong dir rest hrest, List.exists_mem_cons_iff]
    refine or_congr_left ?_
    rw [List.mem_ite_nil_right]
    constructor
    · rintro ⟨hfits, hp⟩
      exact (mem_filesBelow hfits n hn).1 hp
    · rintro ⟨names, hlevel, h⟩
      have hfits : FileTree.fits (dir.join name) = true :=
        fits_of_foldl_join (h.path_eq ▸ h.fits)
      exact ⟨hfits, (mem_filesBelow hfits n hn).2 ⟨names, hlevel, h⟩⟩

end

/-! ### The order of files -/

/-- The path of a file below an entry goes on from the directory with the entry's name. -/
theorem parts_of_mem_filesAmong (hdir : dir ≠ "")
    (hentries : ∀ e ∈ entries, Path.IsName e.1 ∧ e.2.Ordered) (h : p ∈ c.filesAmong dir entries) :
    ∃ e ∈ entries, ∃ ps, p.parts = dir.parts ++ .name e.1 :: ps := by
  obtain ⟨e, he, names, -, hmatches⟩ :=
    (mem_filesAmong dir entries fun e he => (hentries e he).2.proper).1 h
  obtain ⟨hname, hordered⟩ := hentries e he
  obtain ⟨content, hfile⟩ := hmatches.file
  refine ⟨e, he, names.map .name, ?_⟩
  rw [hmatches.path_eq, Path.parts_foldl_join (Path.join_ne_empty hdir e.1)
    (hordered.proper.isName hfile), Path.parts_join hdir hname, List.append_assoc]
  rfl

mutual

theorem pairwise_filesBelow {q : Path} (hq : q ≠ "") : ∀ n : FileNode, n.Ordered →
    (c.filesBelow q n).Pairwise fun p p' => p.lt p' = true
  | .file _, _ => by
    rw [filesBelow]
    split
    · exact List.pairwise_singleton _ _
    · exact .nil
  | .dir entries, h => by
    obtain ⟨hsorted, hnames⟩ := h.here
    have hnodup : (entries.map Prod.fst).Nodup := hsorted.imp fun hlt => hlt.ne
    rw [filesBelow]
    split
    · exact pairwise_filesAmong hq entries hsorted fun e he =>
        ⟨hnames _ (List.mem_map_of_mem he), h.entry hnodup he⟩
    · exact .nil

/-- **A walk over entries in order** meets files in the order of their paths. -/
theorem pairwise_filesAmong {dir : Path} (hdir : dir ≠ "") :
    ∀ entries : List (String × FileNode), (entries.map Prod.fst).Pairwise (· < ·) →
      (∀ e ∈ entries, Path.IsName e.1 ∧ e.2.Ordered) →
      (c.filesAmong dir entries).Pairwise fun p p' => p.lt p' = true
  | [], _, _ => .nil
  | (name, n) :: rest, hsorted, hentries => by
    obtain ⟨hless, hsorted⟩ := List.pairwise_cons.1 hsorted
    obtain ⟨⟨hname, hn⟩, hrest⟩ := List.forall_mem_cons.1 hentries
    rw [filesAmong]
    refine List.pairwise_append.2
      ⟨?_, pairwise_filesAmong hdir rest hsorted hrest, fun p hp p' hp' => ?_⟩
    · split
      · exact pairwise_filesBelow (Path.join_ne_empty hdir name) n hn
      · exact .nil
    · -- what is below this entry is in front of what is below a later one, by their names
      have hp : p ∈ c.filesAmong dir [(name, n)] := by rwa [filesAmong, filesAmong, List.append_nil]
      obtain ⟨e, he, ps, hps⟩ :=
        parts_of_mem_filesAmong hdir (List.forall_mem_singleton.2 ⟨hname, hn⟩) hp
      obtain ⟨e', he', ps', hps'⟩ := parts_of_mem_filesAmong hdir hrest hp'
      obtain rfl := List.mem_singleton.1 he
      exact Path.lt_of_parts hps hps' (hless _ (List.mem_map_of_mem he'))

end

/-! ### What is found -/

/-- The files that a walk picks are the front of all files to pick. -/
theorem picked_eq (h : c.maxFiles ≠ some 0) :
    c.picked dir entries = c.capped (c.allFiles dir entries) := by
  rw [picked, Walk.start_eq_after h, Walk.visitAll_after, List.nil_append, Walk.after,
    List.reverse_reverse, allFiles]

theorem ne_empty_of_node {files : FileTree} (h : files.node dir = .ok n) : dir ≠ "" := by
  rintro rfl
  cases h

/-- The files to pick are the same when the tree is put in order. -/
theorem matches_inOrder (h : n.Proper) {names : List String} :
    c.Matches dir n.inOrder names p ↔ c.Matches dir n names p := by
  have hfile : ∀ content, n.inOrder.get? names = some (.file content) ↔
      n.get? names = some (.file content) := by
    intro content
    rw [FileNode.get?_inOrder h, Option.map_eq_some_iff]
    constructor
    · rintro ⟨_ | _, hm, hcontent⟩
      · cases hcontent
        exact hm
      · cases hcontent
    · exact fun hm => ⟨_, hm, rfl⟩
  constructor
  · exact fun ⟨hex, hlevel, hpath, hpicks, hfits⟩ =>
      ⟨hex.imp fun content => (hfile content).1, hlevel, hpath, hpicks, hfits⟩
  · exact fun ⟨hex, hlevel, hpath, hpicks, hfits⟩ =>
      ⟨hex.imp fun content => (hfile content).2, hlevel, hpath, hpicks, hfits⟩

/-- No two files to pick have one path. -/
theorem Matches.unique (hdir : dir ≠ "") (hproper : n.Proper) {names names' : List String}
    (h : c.Matches dir n names p) (h' : c.Matches dir n names' p) : names = names' := by
  obtain ⟨content, hfile⟩ := h.file
  obtain ⟨content', hfile'⟩ := h'.file
  have hparts : dir.parts ++ names.map .name = dir.parts ++ names'.map .name := by
    rw [← Path.parts_foldl_join hdir (hproper.isName hfile),
      ← Path.parts_foldl_join hdir (hproper.isName hfile'), ← h.path_eq, ← h'.path_eq]
  exact List.map_injective_iff.2 (fun _ _ => Path.Part.name.inj) (List.append_cancel_left hparts)

theorem mem_allFiles (hproper : (FileNode.dir entries).Proper) :
    p ∈ c.allFiles dir entries ↔ ∃ names, c.Matches dir (.dir entries) names p := by
  have hordered : (FileNode.dir (FileNode.byName (FileNode.entriesInOrder entries))).Ordered :=
    hproper.ordered
  obtain ⟨hnodup, -⟩ := hordered.proper.here
  rw [allFiles, mem_filesAmong dir _ fun e he => hordered.proper.entry hnodup he,
    ← exists_matches_iff hnodup]
  exact exists_congr fun names => matches_inOrder hproper

theorem pairwise_allFiles (hdir : dir ≠ "") (hproper : (FileNode.dir entries).Proper) :
    (c.allFiles dir entries).Pairwise fun p q => p.lt q = true := by
  have hordered : (FileNode.dir (FileNode.byName (FileNode.entriesInOrder entries))).Ordered :=
    hproper.ordered
  obtain ⟨hsorted, hnames⟩ := hordered.here
  exact pairwise_filesAmong hdir _ hsorted fun e he =>
    ⟨hnames _ (List.mem_map_of_mem he), hordered.entry (hsorted.imp fun hlt => hlt.ne) he⟩

/-- What comes of a search of a directory with proper entries, by the files that are asked for. -/
theorem discover_eq_capped {s : Session} (hmax : c.maxFiles ≠ some 0)
    (hdir : (c.searched dir s).node dir = .ok (.dir entries))
    (hproper : (FileNode.dir entries).Proper) :
    ((c.discover dir).run s).1 =
      if c.capped (c.allFiles dir entries) = [] then .error (.noFiles dir)
      else if fileLimit < (c.capped (c.allFiles dir entries)).length then
        .error (.tooManyFiles (c.capped (c.allFiles dir entries)).length fileLimit)
      else .ok (c.capped (c.allFiles dir entries)) := by
  have hsorted : (c.capped (c.allFiles dir entries)).Pairwise fun p q => p.le q = true :=
    ((pairwise_allFiles (ne_empty_of_node hdir) hproper).imp Path.le_of_lt).sublist
      (capped_sublist _)
  rw [discover_eq hdir, picked_eq hmax, List.mergeSort_of_pairwise hsorted]

/-- **What is found is the front of one sorted list.**  In a directory that has proper entries, as
it is when the search begins, there is one list of all files to pick, in strict order and with each
file once: those below the directory, or among its entries if directories in it are not searched.
Without a number to stop at these are the files that are found, if they are not too many for a
batch; with a number `k` it is the first `k` of them, however many there are.  If there is none, the
search says so. -/
theorem discover_sorted_prefix (c : BatchChoices) (dir : Path) (s : Session)
    (entries : List (String × FileNode)) (hdir : (c.searched dir s).node dir = .ok (.dir entries))
    (hproper : (FileNode.dir entries).Proper) :
    ∃ files : List Path,
      (∀ p, p ∈ files ↔ ∃ names, c.Matches dir (.dir entries) names p) ∧
      (∀ names names' p, c.Matches dir (.dir entries) names p →
        c.Matches dir (.dir entries) names' p → names = names') ∧
      (files.Pairwise fun p q => p.lt q = true) ∧
      (files.length ≤ fileLimit →
        ((discover { c with maxFiles := none } dir).run s).1 =
          if files = [] then .error (.noFiles dir) else .ok files) ∧
      ∀ k, 1 ≤ k → k ≤ fileLimit →
        ((discover { c with maxFiles := some k } dir).run s).1 =
          if files = [] then .error (.noFiles dir) else .ok (files.take k) := by
  have hne := ne_empty_of_node hdir
  refine ⟨c.allFiles dir entries, fun _ => mem_allFiles hproper,
    fun _ _ _ => Matches.unique hne hproper, pairwise_allFiles hne hproper, fun hlimit => ?_,
    fun k hpos hlimit => ?_⟩
  · have hfound :=
      discover_eq_capped (c := { c with maxFiles := none }) (s := s) nofun hdir hproper
    rw [allFiles_maxFiles, capped_none] at hfound
    rw [hfound, if_neg (Nat.not_lt.2 hlimit)]
  · have hmax : some k ≠ some 0 := mt Option.some.inj (Nat.pos_iff_ne_zero.1 hpos)
    have hfound :=
      discover_eq_capped (c := { c with maxFiles := some k }) (s := s) hmax hdir hproper
    have hlength : ((c.allFiles dir entries).take k).length ≤ fileLimit :=
      (List.length_take_le k _).trans hlimit
    have hempty : (c.allFiles dir entries).take k = [] ↔ c.allFiles dir entries = [] := by
      rw [List.take_eq_nil_iff, or_iff_right (Nat.pos_iff_ne_zero.1 hpos)]
    rw [allFiles_maxFiles, capped_some] at hfound
    rw [hfound, if_neg (Nat.not_lt.2 hlength)]
    simp only [hempty]

/-- The entries of a directory, out of order, with a directory whose name a file's name begins
with. -/
def nestedEntries : List (String × FileNode) :=
  [("a.java", .file .empty), ("notes.md", .file .empty), ("a", .dir [("z.txt", .file .empty)])]

/-- A search of such a directory for one file. -/
theorem discover_sorted_prefix_nested :
    let files : FileTree := ⟨.dir [("src", .dir nestedEntries)], []⟩
    let c := standard 2 .standard
    let s := Session.inMemory c.preferences.log files
    (c.searched "src" s).node "src" = .ok (.dir nestedEntries) ∧
    (FileNode.dir nestedEntries).Proper ∧
    ∃ found : List Path, "src/a/z.txt" ∈ found ∧ "src/a.java" ∈ found ∧
      (found.Pairwise fun p q => p.lt q = true) ∧
      ((discover { c with maxFiles := some 1 } "src").run s).1 = .ok (found.take 1) := by
  intro files c s
  have hs : Over files s := ⟨rfl, by simp [s, Session.inMemory]⟩
  have hdir : (c.searched "src" s).node "src" = .ok (.dir nestedEntries) := by
    rw [searched_eq hs]
    rfl
  have hnested : (FileNode.dir [("z.txt", .file .empty)]).Proper :=
    FileNode.eachListing_dir (by decide +kernel)
      (List.forall_mem_singleton.2 (FileNode.eachListing_file _))
  have hproper : (FileNode.dir nestedEntries).Proper :=
    FileNode.eachListing_dir (by decide +kernel) <|
      List.forall_mem_cons.2 ⟨FileNode.eachListing_file _,
        List.forall_mem_cons.2 ⟨FileNode.eachListing_file _, List.forall_mem_singleton.2 hnested⟩⟩
  obtain ⟨found, hmem, -, hsorted, -, hfound⟩ :=
    discover_sorted_prefix c "src" s nestedEntries hdir hproper
  have hbelow : "src/a/z.txt" ∈ found := (hmem _).2 ⟨["a", "z.txt"], ⟨_, rfl⟩, .inl rfl,
    by decide +kernel, picks_of_extension (by decide +kernel) (.tail "java" (.head _)),
    by decide +kernel⟩
  have hhere : "src/a.java" ∈ found := (hmem _).2 ⟨["a.java"], ⟨_, rfl⟩, .inl rfl,
    by decide +kernel, picks_of_extension (by decide +kernel) (.head _), by decide +kernel⟩
  refine ⟨hdir, hproper, found, hbelow, hhere, hsorted, ?_⟩
  rw [hfound 1 (by decide) (by decide), if_neg (List.ne_nil_of_mem hbelow)]

end BatchChoices

end Lookahead
