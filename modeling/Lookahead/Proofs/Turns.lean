import Lookahead.Batch.Crew
import Lookahead.Proofs.Analyses
import Lookahead.Proofs.BatchParts
import Lookahead.Proofs.PathOrder

/-!
# Batches in turn

If neither what a directory holds nor what becomes of a file depends on what was told before
(`BatchChoices.Independent`), a batch that does not stop at the first fault analyses every file once,
under its number in the list of files.

* `BatchChoices.independent_over`: over the same files, with no log among them, nothing does.
* `BatchChoices.discover_eq`: what comes of a search, by the files that a walk picks.
* `BatchChoices.ensures_runInTurn`, `BatchChoices.ensures_runByWorkers`: the batches that are made.
-/

namespace Lookahead

open Session

variable {P : Session → Prop}

namespace BatchChoices

/-- In all sessions with a property, which lasts whatever is told, the same files are found and the
same becomes of each of them. -/
structure Independent (c : BatchChoices) (dir : Path) (P : Session → Prop) : Prop where
  lasting : Lasting P
  discover : Fixed P (c.discover dir).run
  file (path : Path) (id : Nat) : Fixed P (Analysis.ofFile c.preferences path id)

/-! ### Discovery -/

theorem ensures_refuse {α : Type} (hP : Lasting P) {e : BatchError} {message : String}
    {context : List (String × String)} :
    Ensures P (refuse e message context : ExceptT BatchError Logged α).run (· = .error e) :=
  .afterE hP.error fun _ hs => ⟨rfl, hs⟩

theorem fixed_refuse {α : Type} (hP : Lasting P) {e : BatchError} {message : String}
    {context : List (String × String)} :
    Fixed P (refuse e message context : ExceptT BatchError Logged α).run :=
  (ensures_refuse hP).fixed

theorem fixed_walk (files : FileTree) (c : BatchChoices) (dir : Path) :
    Fixed (Over files) (c.walk dir).run := by
  have hP := lasting_over files
  refine .getE (fun s t hs ht => ?_) fun s _ => ?_
  · rw [hs.files_eq, ht.files_eq]
  · split
    · exact .whenE (.liftE (.of_unit hP.warning)) .pureE
    · exact fixed_refuse hP

/-- **Over the same files nothing depends on what was told before.** -/
theorem independent_over (files : FileTree) (c : BatchChoices) (dir : Path) :
    c.Independent dir (Over files) := by
  have hP := lasting_over files
  refine ⟨hP, ?_, Analysis.fixed_ofFile files c.preferences⟩
  exact .afterE hP.info (.bindE (fixed_walk files c dir) fun found =>
    .whenE (fixed_refuse hP) (.whenE (fixed_refuse hP) (.afterE hP.success .pureE)))

/-- The files that a walk picks from a directory with these entries. -/
def picked (c : BatchChoices) (dir : Path) (entries : List (String × FileNode)) : List Path :=
  (Walk.visitAll c dir (FileNode.byName (FileNode.entriesInOrder entries)) .start).found.reverse

/-- The files of a session when it searches a directory: what is told before may have been written
to a log among them. -/
def searched (c : BatchChoices) (dir : Path) (s : Session) : FileTree :=
  (Session.info "Starting file discovery"
    [("directory", dir), ("recursive", toString c.recursive)] s).2.files

section

variable {files : FileTree} {c : BatchChoices} {dir : Path} {entries : List (String × FileNode)}

/-- Files with no log among them are searched as they are. -/
theorem searched_eq {s : Session} (h : Over files s) : c.searched dir s = files :=
  ((lasting_over files).info s h).2.files_eq

/-- A directory is walked over as it is when the search begins. -/
theorem walk_eq {t : Session} (hdir : t.files.node dir = .ok (.dir entries)) :
    ((c.walk dir).run t).1 = .ok (c.picked dir entries) := by
  rw [walk, run_get_bind, hdir]
  dsimp only
  split <;> rfl

/-- What comes of a search is settled by the files that the walk picks. -/
theorem discover_eq {s : Session} (hdir : (c.searched dir s).node dir = .ok (.dir entries)) :
    ((c.discover dir).run s).1 =
      if c.picked dir entries = [] then .error (.noFiles dir)
      else if fileLimit < (c.picked dir entries).length then
        .error (.tooManyFiles (c.picked dir entries).length fileLimit)
      else .ok ((c.picked dir entries).mergeSort Path.le) := by
  rw [discover, run_told_bind]
  refine Ensures.fst_run_bind (walk_eq hdir) ?_
  refine .unlessE (ensures_refuse lasting_true) ?_ ?_
  · intro hempty
    rw [if_pos (List.isEmpty_iff.1 hempty)]
  · intro hempty
    rw [if_neg (mt List.isEmpty_iff.2 hempty)]
    refine .unlessE (ensures_refuse lasting_true) ?_ ?_
    · intro hlimit
      rw [if_pos hlimit]
    · intro hlimit
      rw [if_neg hlimit]
      exact .afterE lasting_true.success (.pure rfl)

/-- **The files that are found** are those that a walk picks, in order. -/
theorem ensures_discover_picked (hdir : files.node dir = .ok (.dir entries))
    (hne : c.picked dir entries ≠ []) (hlimit : (c.picked dir entries).length ≤ fileLimit) :
    Ensures (Over files) (c.discover dir).run
      (· = .ok ((c.picked dir entries).mergeSort Path.le)) := by
  intro s hs
  refine ⟨?_, ((independent_over files c dir).discover s s hs hs).2⟩
  have hsearched : (c.searched dir s).node dir = .ok (.dir entries) := by rwa [searched_eq hs]
  rw [discover_eq hsearched, if_neg hne, if_neg (Nat.not_lt.2 hlimit)]

end

/-- The files that are found are in order. -/
theorem ensures_discover (c : BatchChoices) (dir : Path) :
    Ensures (fun _ => True) (c.discover dir).run
      fun r => ∀ files, r = .ok files → files.Pairwise fun p q => p.le q = true := by
  have herror : ∀ e : BatchError, ∀ files : List Path, Except.error e = .ok files →
      files.Pairwise fun p q => p.le q = true := fun _ _ he => nomatch he
  have hany : ∀ {α : Type} (m : Logged α), Ensures (fun _ => True) m fun _ => True :=
    fun _ _ _ => ⟨trivial, trivial⟩
  refine .afterE (hany _) (.bindE (hany _) (fun found _ => ?_) fun e _ => herror e)
  refine .whenE (hany _) (.whenE (hany _) (.afterE (hany _) (.pure ?_)) herror) herror
  intro files he
  cases he
  exact List.pairwise_mergeSort Path.le_trans Path.le_total found

/-! ### One file after the other -/

section

variable {c : BatchChoices} {dir : Path} {s : Session} {files : List Path}

theorem ensures_analyzeEach (h : c.Independent dir P) (hs : P s) (hoff : c.failFast = false)
    {announce : Path → Nat → Logged Unit}
    (hannounce : ∀ path id, Ensures P (announce path id) fun _ => True)
    (b : Batch) (items : List (Path × Nat)) :
    Ensures P (c.analyzeEach announce b items)
      (· = ((items.map (.ofFile c.preferences s)).foldl Batch.add b, none)) := by
  induction items generalizing b with
  | nil => exact .pure rfl
  | cons item items ih =>
    refine .after (hannounce _ _) (((h.file item.1 item.2).ensures hs).bind ?_)
    rintro _ rfl
    rw [hoff]
    exact ih _

theorem ensures_analyzeRounds (h : c.Independent dir P) (hs : P s) (hoff : c.failFast = false)
    (b : Batch) (rounds : List (List (Share Path))) :
    Ensures P (c.analyzeRounds b rounds)
      (· = ((rounds.flatten.flatMap Share.numbered).map (.ofFile c.preferences s)).foldl
        Batch.add b) := by
  induction rounds generalizing b with
  | nil => exact .pure rfl
  | cons shares rounds ih =>
    refine (ensures_analyzeEach h hs hoff (fun _ _ => .pure trivial) .empty _).bind ?_
    rintro _ rfl
    rw [List.flatten_cons, List.flatMap_append, List.map_append, List.foldl_append]
    refine (ih _).mono ?_
    rintro _ rfl
    rw [Batch.merge_foldl_add, Batch.merge_empty]

theorem ensures_tell (h : Lasting P) (threads : Nat) (b : Batch) :
    Ensures P (tell threads b) fun _ => True := h.success

/-- **A batch in turn** holds what becomes of the files, in their order. -/
theorem ensures_runInTurn (h : c.Independent dir P) (hs : P s) (hoff : c.failFast = false)
    (hfiles : ((c.discover dir).run s).1 = .ok files) :
    Ensures P (c.runInTurn dir).run (· = .ok
      ((files.zipIdx.map (.ofFile c.preferences s)).foldl Batch.add (.start files.length))) := by
  have hannounce : ∀ path id, Ensures P (c.announce files.length path id) fun _ => True :=
    fun _ _ => .ite (fun _ => h.lasting.print) fun _ => .pure trivial
  refine .afterE h.lasting.info (.bindE (hfiles ▸ h.discover.ensures hs) ?_ fun _ he => nomatch he)
  rintro _ ⟨⟩
  refine .liftBindE (ensures_analyzeEach h hs hoff hannounce _ _) ?_
  rintro _ rfl
  exact .afterE (ensures_tell h.lasting _ _) (.pure rfl)

/-- **A batch by workers** holds what becomes of the files, put in order. -/
theorem ensures_runByWorkers (h : c.Independent dir P) (hs : P s) (hoff : c.failFast = false)
    (hfiles : ((c.discover dir).run s).1 = .ok files) :
    Ensures P (c.runByWorkers dir).run (· = .ok
      ((files.zipIdx.map (.ofFile c.preferences s)).foldl Batch.add
        (.start files.length)).sorted) := by
  have hthreads : 0 < c.threads := Nat.le_max_left 1 _
  refine .afterE h.lasting.info (.bindE (hfiles ▸ h.discover.ensures hs) ?_ fun _ he => nomatch he)
  rintro _ ⟨⟩
  refine .afterE h.lasting.debug (.liftBindE (ensures_analyzeRounds h hs hoff _ _) ?_)
  rintro _ rfl
  refine .afterE (ensures_tell h.lasting _ _) (.pure ?_)
  rw [Share.numbered_rounds hthreads]

end

end BatchChoices

end Lookahead
