import Lookahead.Proofs.Discovery
import Lookahead.Proofs.Schedules

/-!
# Caps

A walk looks at the number of files to stop at behind each file that it adds, so it adds a file
before it looks.  A number `k` other than zero is a cap on what is found, and so on what is
analysed; zero stops the walk where one would.

* `Walk.visitAll_zero`: a walk that is to stop at no file stops at the first.
* `BatchChoices.length_of_discover`: how many files are found.
* `Crew.Step.count_le`: workers analyse no more files than there are, whatever makes them stop.
* `BatchChoices.cap_kept_iff`: what is found and what is analysed keep to the cap just if it is not
  zero.
-/

namespace Lookahead

open Session

variable {c : BatchChoices} {dir : Path} {entries : List (String × FileNode)} {s : Session}
  {files : List Path} {k : Nat}

/-! ### A cap of no file -/

namespace Walk

/-- A file that is added fills a cap of no file as it fills a cap of one. -/
theorem add_zero (h : c.maxFiles = some 0) (p : Path) (w : Walk) :
    w.add c p = w.add { c with maxFiles := some 1 } p := by
  simp [add, h]

mutual

theorem visit_zero (h : c.maxFiles = some 0) (p : Path) : ∀ (n : FileNode) (w : Walk),
    visit c p n w = visit { c with maxFiles := some 1 } p n w
  | .file _, w => by
    rw [visit, visit, add_zero h]
    rfl
  | .dir entries, w => by rw [visit, visit, visitAll_zero h]

/-- **A walk that is to stop at no file stops at the first.** -/
theorem visitAll_zero (h : c.maxFiles = some 0) (dir : Path) :
    ∀ (entries : List (String × FileNode)) (w : Walk),
      visitAll c dir entries w = visitAll { c with maxFiles := some 1 } dir entries w
  | [], w => by rw [visitAll, visitAll]
  | (name, n) :: rest, w => by
    rw [visitAll, visitAll]
    dsimp only
    rw [visit_zero h, visitAll_zero h]

end

end Walk

namespace BatchChoices

/-- With a number to stop at, a walk picks that many of all files to pick, but one at least. -/
theorem picked_of_maxFiles (h : c.maxFiles = some k) (dir : Path)
    (entries : List (String × FileNode)) :
    c.picked dir entries = (c.allFiles dir entries).take (max k 1) := by
  rcases Nat.eq_zero_or_pos k with rfl | hk
  · have hone : c.picked dir entries = picked { c with maxFiles := some 1 } dir entries := by
      rw [picked, picked, Walk.visitAll_zero h]
    rw [hone, picked_eq (mt Option.some.inj Nat.one_ne_zero), capped_some, allFiles_maxFiles]
    rfl
  · have hne : c.maxFiles ≠ some 0 := by
      rw [h]
      exact mt Option.some.inj hk.ne'
    rw [picked_eq hne, capped, h, Nat.max_eq_left hk]

/-- What a walk over a directory gives is what it picks there. -/
theorem ensures_walk (c : BatchChoices) (dir : Path) : Ensures (fun _ => True) (c.walk dir).run
    fun r => ∀ found, r = .ok found → ∃ entries, found = c.picked dir entries := by
  refine .getE fun s _ => ?_
  split
  · next entries _ =>
    refine .whenE (fun _ _ => ⟨trivial, trivial⟩) (.pure fun found h => ?_) nofun
    cases h
    exact ⟨entries, rfl⟩
  · refine (ensures_refuse lasting_true).mono fun _ hr found h => ?_
    rw [hr] at h
    cases h

/-- Some file is found if there is no error, and what is found is what a walk picks. -/
theorem ensures_found (c : BatchChoices) (dir : Path) : Ensures (fun _ => True) (c.discover dir).run
    fun r => ∀ files, r = .ok files →
      files ≠ [] ∧ ∃ entries, files.Perm (c.picked dir entries) := by
  refine .afterE lasting_true.info (.bindE (ensures_walk c dir) (fun found hfound => ?_) nofun)
  obtain ⟨entries, rfl⟩ := hfound found rfl
  refine .unlessE (ensures_refuse lasting_true) nofun fun hne => ?_
  refine .unlessE (ensures_refuse lasting_true) nofun fun _ => ?_
  refine .afterE lasting_true.success (.pure fun files h => ?_)
  cases h
  have hperm := List.mergeSort_perm (c.picked dir entries) Path.le
  refine ⟨fun hnil => hne ?_, entries, hperm⟩
  rw [hnil] at hperm
  rw [hperm.symm.eq_nil]
  rfl

/-- **How many files are found**: one at least, and no more than the cap, or one if that is zero. -/
theorem length_of_discover (hk : c.maxFiles = some k)
    (h : ((c.discover dir).run s).1 = .ok files) :
    1 ≤ files.length ∧ files.length ≤ max k 1 := by
  obtain ⟨hne, entries, hperm⟩ := (ensures_found c dir s trivial).1 files h
  refine ⟨List.length_pos_iff.2 hne, ?_⟩
  rw [hperm.length_eq, picked_of_maxFiles hk]
  exact List.length_take_le _ _

/-! ### What is analysed -/

/-- A batch grows to another by some of a number of files: by one at least, if there is any. -/
structure Grows (b b' : Batch) (count : Nat) : Prop where
  first : b.processed + min 1 count ≤ b'.processed
  most : b'.processed ≤ b.processed + count
  discovered : b'.discovered = b.discovered

namespace Grows

variable {b b₁ b' : Batch} {m n : Nat}

theorem add (b : Batch) (o : FileOutcome) : Grows b (b.add o) 1 := by
  rw [Batch.add_eq]
  exact ⟨Nat.le_refl _, Nat.le_refl _, rfl⟩

theorem merge (b : Batch) (h : Grows .empty b' n) : Grows b (b.merge b') n := by
  obtain ⟨hfirst, hmost, -⟩ := h
  have hempty : Batch.empty.processed = 0 := rfl
  have hmerge : (b.merge b').processed = b.processed + b'.processed := rfl
  exact ⟨by omega, by omega, rfl⟩

theorem trans (h : Grows b b₁ m) (h' : Grows b₁ b' n) : Grows b b' (m + n) := by
  obtain ⟨hfirst, hmost, hdiscovered⟩ := h
  obtain ⟨hfirst', hmost', hdiscovered'⟩ := h'
  exact ⟨by omega, by omega, hdiscovered'.trans hdiscovered⟩

/-- A batch that stops has grown by some of more files. -/
theorem more (h : Grows b b' m) (hm : 1 ≤ m) (hn : m ≤ n) : Grows b b' n := by
  obtain ⟨hfirst, hmost, hdiscovered⟩ := h
  exact ⟨by omega, by omega, hdiscovered⟩

end Grows

/-- Files in turn are added to a batch, or fewer of them if it stops before, at a file. -/
theorem ensures_grows_analyzeEach (c : BatchChoices) (announce : Path → Nat → Logged Unit)
    (b : Batch) (items : List (Path × Nat)) :
    Ensures (fun _ => True) (c.analyzeEach announce b items) fun r =>
      Grows b r.1 items.length ∧ (r.2.isSome → 1 ≤ items.length) := by
  induction items generalizing b with
  | nil => exact .pure ⟨⟨Nat.le_refl _, Nat.le_refl _, rfl⟩, nofun⟩
  | cons item items ih =>
    refine .after (fun _ _ => ⟨trivial, trivial⟩)
      (.bind (Q := fun _ => True) (fun _ _ => ⟨trivial, trivial⟩) fun r _ => ?_)
    rw [Batch.record_eq, List.length_cons, Nat.add_comm]
    have hfile := Grows.add b ⟨item.1, r⟩
    have hpos : 1 ≤ 1 + items.length := Nat.le_add_right 1 _
    exact .ite (fun _ => .pure ⟨hfile.more (Nat.le_refl 1) hpos, fun _ => hpos⟩) fun _ =>
      (ih _).mono fun _ ⟨h, _⟩ => ⟨hfile.trans h, fun _ => hpos⟩

/-- Files in rounds are added to a batch, or fewer of them if it stops before. -/
theorem ensures_grows_analyzeRounds (c : BatchChoices) (b : Batch)
    (rounds : List (List (Share Path))) :
    Ensures (fun _ => True) (c.analyzeRounds b rounds) fun b' =>
      Grows b b' (rounds.flatten.flatMap Share.numbered).length := by
  induction rounds generalizing b with
  | nil => exact .pure ⟨Nat.le_refl _, Nat.le_refl _, rfl⟩
  | cons shares rounds ih =>
    rw [List.flatten_cons, List.flatMap_append, List.length_append]
    refine (ensures_grows_analyzeEach c _ .empty _).bind fun r ⟨hr, hfault⟩ => ?_
    refine .ite (fun hstop => .after lasting_true.warning (.pure ?_))
      fun _ => (ih _).mono fun _ h => (hr.merge b).trans h
    -- a round that stops the batch has a file
    exact (hr.merge b).more (hfault hstop) (Nat.le_add_right _ _)

/-- A batch has an outcome of one of the files found at least, and of each once at most. -/
def Counts (c : BatchChoices) (dir : Path) (b : Batch) : Prop :=
  ∃ s files, ((c.discover dir).run s).1 = .ok files ∧ b.discovered = files.length ∧
    min 1 files.length ≤ b.processed ∧ b.processed ≤ files.length

/-- A batch for the files found that grows by them has its outcomes of them. -/
theorem Grows.counts {b : Batch} (h : Grows (.start files.length) b files.length)
    (hfiles : ((c.discover dir).run s).1 = .ok files) : c.Counts dir b := by
  have hstart : (Batch.start files.length).processed = 0 := rfl
  have hfirst := h.first
  have hmost := h.most
  exact ⟨s, files, hfiles, h.discovered, by omega, by omega⟩

/-- What comes of a search comes of it in some session. -/
theorem ensures_discover_run (c : BatchChoices) (dir : Path) :
    Ensures (fun _ => True) (c.discover dir).run fun r => ∃ s, ((c.discover dir).run s).1 = r :=
  fun s _ => ⟨⟨s, rfl⟩, trivial⟩

theorem ensures_counts_runInTurn (c : BatchChoices) (dir : Path) :
    Ensures (fun _ => True) (c.runInTurn dir).run fun r => ∀ b, r = .ok b → c.Counts dir b := by
  have hany : ∀ {α : Type} (m : Logged α), Ensures (fun _ => True) m fun _ => True :=
    fun _ _ _ => ⟨trivial, trivial⟩
  refine .afterE (hany _) (.bindE (ensures_discover_run c dir) (fun files hfiles => ?_)
    fun _ _ _ hb => nomatch hb)
  obtain ⟨s, hfiles⟩ := hfiles
  refine .liftBindE (ensures_grows_analyzeEach c _ (.start files.length) _) fun r ⟨hr, _⟩ => ?_
  obtain ⟨b, fault?⟩ := r
  have htell : Ensures (fun _ => True) (do
      tell 1 b
      return b : ExceptT BatchError Logged Batch).run fun r => ∀ b, r = .ok b → c.Counts dir b := by
    refine .afterE (hany _) (.pure fun b' hb => ?_)
    cases hb
    rw [List.length_zipIdx] at hr
    exact hr.counts hfiles
  cases fault? with
  | none => exact htell
  | some path => exact .afterE (hany _) htell

theorem ensures_counts_runByWorkers (c : BatchChoices) (dir : Path) :
    Ensures (fun _ => True) (c.runByWorkers dir).run fun r => ∀ b, r = .ok b → c.Counts dir b := by
  have hany : ∀ {α : Type} (m : Logged α), Ensures (fun _ => True) m fun _ => True :=
    fun _ _ _ => ⟨trivial, trivial⟩
  refine .afterE (hany _) (.bindE (ensures_discover_run c dir) (fun files hfiles => ?_)
    fun _ _ _ hb => nomatch hb)
  obtain ⟨s, hfiles⟩ := hfiles
  refine .afterE (hany _)
    (.liftBindE (ensures_grows_analyzeRounds c (.start files.length) _) fun b' hb' => ?_)
  refine .afterE (hany _) (.pure fun b hb => ?_)
  cases hb
  have hthreads : 0 < c.threads := Nat.le_max_left 1 _
  rw [Share.numbered_rounds hthreads, List.length_zipIdx] at hb'
  exact hb'.counts hfiles

end BatchChoices

/-! ### Crews -/

namespace Crew

variable {P : Session → Prop} {w w' : Crew} {e : Option (Path × Nat)}
  {es : List (Option (Path × Nat))}

/-- The files that are added, and those that may be yet. -/
def count (w : Crew) : Nat := w.total.processed + w.held.length + w.left.length

/-- **A step adds no file that there was not.** -/
theorem Step.count_le (h : Step c P w e w') : w'.count ≤ w.count := by
  cases h with
  | take hw | stop hw | leave hw =>
    simp only [count, total, held, left, hw, List.flatMap_append, List.flatMap_cons, Worker.held,
      Worker.left, List.length_append, List.length_cons, List.length_nil]
    omega
  | @add front back o left hw =>
    rw [count, total_add, Batch.processed_add]
    simp only [count, held, Crew.left, hw, List.flatMap_append, List.flatMap_cons,
      List.length_append]
    split <;> simp only [Worker.held, Worker.left, List.length_cons, List.length_nil] <;> omega
  | begin hw _ hr =>
    rw [count, total_beginRound]
    simp only [count, held, left, hw, hr, beginRound, Worker.held_free, Worker.left_free,
      List.flatten_cons, List.flatMap_append, List.flatMap_nil, List.length_append,
      List.length_nil]
    omega

theorem Steps.count_le (h : Steps c P w es w') : w'.count ≤ w.count := by
  induction h with
  | refl => exact Nat.le_refl _
  | more h _ ih => exact ih.trans h.count_le

/-- **Workers analyse each file once at most**, whether they stop at a fault or not. -/
theorem processed_le (h : Steps c P (.start c files) es w) :
    (w.batch files.length).processed ≤ files.length := by
  have hcount := h.count_le
  have hstart : (start c files).count = files.length := by
    rw [count, left_start, List.length_zipIdx]
    exact Nat.zero_add _
  have hbatch : (w.batch files.length).processed = w.total.processed := rfl
  rw [count] at hcount
  omega

end Crew

/-! ### Keeping to the cap -/

namespace BatchChoices

/-- **What is found keeps to the cap just if the cap is not zero**, and so does what is analysed.
With a number `k` to stop at, no more than `k` files are found, or one if `k` is zero: then one is,
unless there is nothing to find.  A batch, in turn or by workers, has an outcome of one of the files
found at least, and of each once at most; so it keeps to the cap just if the cap is not zero, too.
Workers analyse no more files than are found, however they get in between each other. -/
theorem cap_kept_iff (c : BatchChoices) (dir : Path) (s : Session) {k : Nat}
    (hk : c.maxFiles = some k) :
    (∀ files, ((c.discover dir).run s).1 = .ok files →
      files.length ≤ max k 1 ∧ (files.length ≤ k ↔ k ≠ 0) ∧
      ∀ P es w, Crew.Steps c P (.start c files) es w →
        (w.batch files.length).processed ≤ files.length) ∧
    ∀ b, ((c.runInTurn dir).run s).1 = .ok b ∨ ((c.runByWorkers dir).run s).1 = .ok b →
      b.processed ≤ b.discovered ∧ b.discovered ≤ max k 1 ∧
      (b.discovered ≤ k ↔ k ≠ 0) ∧ (b.processed ≤ k ↔ k ≠ 0) := by
  refine ⟨fun files hfiles => ?_, fun b hb => ?_⟩
  · obtain ⟨hpos, hle⟩ := length_of_discover hk hfiles
    exact ⟨hle, by omega, fun P es w hw => Crew.processed_le hw⟩
  · have hcounts : c.Counts dir b := hb.elim
      ((ensures_counts_runInTurn c dir s trivial).1 b)
      ((ensures_counts_runByWorkers c dir s trivial).1 b)
    obtain ⟨t, files, hfiles, hdiscovered, hfirst, hprocessed⟩ := hcounts
    obtain ⟨hpos, hle⟩ := length_of_discover hk hfiles
    omega

/-- A search for no file, in a session over two files. -/
def searchForNone : BatchChoices × Session :=
  let c := standard 2 .standard
  let files : FileTree := ⟨.dir [("a.java", .file .empty), ("b.java", .file .empty)], []⟩
  ({ c with maxFiles := some 0 }, Session.inMemory c.preferences.log files)

theorem discover_searchForNone :
    ((searchForNone.1.discover "/").run searchForNone.2).1 = .ok ["/a.java"] := by
  have hs : Over searchForNone.2.files searchForNone.2 :=
    ⟨rfl, by simp [searchForNone, Session.inMemory]⟩
  have hpicked : searchForNone.1.picked "/" [("a.java", .file .empty), ("b.java", .file .empty)] =
      ["/a.java"] := by
    rw [picked, FileNode.byName, List.mergeSort_of_pairwise (by decide +kernel)]
    decide +kernel
  have hroot : searchForNone.2.files.node "/" =
      .ok (.dir [("a.java", .file .empty), ("b.java", .file .empty)]) := rfl
  have hfound := (ensures_discover_picked (c := searchForNone.1) hroot
    (by rw [hpicked]; decide) (by rw [hpicked]; decide) searchForNone.2 hs).1
  rwa [hpicked, List.mergeSort_of_pairwise (List.pairwise_singleton _ _)] at hfound

/-- A search for no file finds one, and a batch of it is not empty. -/
theorem cap_kept_none :
    searchForNone.1.maxFiles = some 0 ∧
    ((searchForNone.1.discover "/").run searchForNone.2).1 = .ok ["/a.java"] ∧
    ¬ ["/a.java"].length ≤ 0 ∧
    ∀ b, ((searchForNone.1.runInTurn "/").run searchForNone.2).1 = .ok b → ¬ b.processed ≤ 0 := by
  obtain ⟨hfound, hbatch⟩ := cap_kept_iff searchForNone.1 "/" searchForNone.2 (k := 0) rfl
  obtain ⟨-, hkept, -⟩ := hfound _ discover_searchForNone
  refine ⟨rfl, discover_searchForNone, fun h => hkept.1 h rfl, fun b hb h => ?_⟩
  obtain ⟨-, -, -, hprocessed⟩ := hbatch b (.inl hb)
  exact hprocessed.1 h rfl

/-- Not every cap is kept: more files than are asked for may be found. -/
theorem not_cap_kept : ¬ ∀ (c : BatchChoices) (dir : Path) (s : Session) (k : Nat),
    c.maxFiles = some k →
      ∀ files, ((c.discover dir).run s).1 = .ok files → files.length ≤ k := by
  intro h
  have hnone := h searchForNone.1 "/" searchForNone.2 0 rfl _ discover_searchForNone
  exact absurd hnone (by decide)

end BatchChoices

end Lookahead
