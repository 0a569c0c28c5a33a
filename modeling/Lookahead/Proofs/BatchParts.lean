import Lookahead.Batch.Outcome

/-!
# Parts of a batch

A batch keeps its files in three lists and counts them, one file after the other, or the results of
some workers after those of others.  It holds a list of outcomes (`Batch.Holds`) if each of its
lists has those outcomes that are its part, in their order, and its counter has their number.

* `FileOutcome.parts`: an outcome is in one part.
* `Batch.record_eq`: what adding a file says is whether its outcome is clean.
* `Batch.Holds.foldl_add`, `Batch.merge_foldl_add`: a batch holds what is added to it, at once or as
  the results of others.
* `Batch.Holds.divides`: what a batch has of its files.
* `Batch.Holds.allAccepted_eq`: no file is rejected or failed just if all outcomes are clean.
-/

namespace Lookahead

/-! ### The part of an outcome -/

namespace FileOutcome

/-- The analysis, if it is clean. -/
def accepted? (o : FileOutcome) : Option (Path × Analysis) :=
  match o.result with
  | .ok a => if a.isClean then some (o.path, a) else none
  | .error _ => none

/-- The analysis, if it is not clean. -/
def rejected? (o : FileOutcome) : Option (Path × Analysis) :=
  match o.result with
  | .ok a => if a.isClean then none else some (o.path, a)
  | .error _ => none

/-- Why there is no analysis. -/
def failed? (o : FileOutcome) : Option (Path × AnalysisError) :=
  match o.result with
  | .ok _ => none
  | .error e => some (o.path, e)

theorem accepted?_eq_some_iff {o : FileOutcome} {path : Path} {a : Analysis} :
    o.accepted? = some (path, a) ↔ a.isClean ∧ o = ⟨path, .ok a⟩ := by
  constructor
  · obtain ⟨p, e | a'⟩ := o
    · exact fun h => nomatch h
    · intro h
      obtain ⟨hclean, h⟩ := Option.ite_none_right_eq_some.1 h
      cases h
      exact ⟨hclean, rfl⟩
  · rintro ⟨hclean, rfl⟩
    exact if_pos hclean

theorem rejected?_eq_some_iff {o : FileOutcome} {path : Path} {a : Analysis} :
    o.rejected? = some (path, a) ↔ a.isClean = false ∧ o = ⟨path, .ok a⟩ := by
  constructor
  · obtain ⟨p, e | a'⟩ := o
    · exact fun h => nomatch h
    · intro h
      obtain ⟨hclean, h⟩ := Option.ite_none_left_eq_some.1 h
      cases h
      exact ⟨Bool.eq_false_iff.2 hclean, rfl⟩
  · rintro ⟨hclean, rfl⟩
    exact if_neg (Bool.eq_false_iff.1 hclean)

theorem failed?_eq_some_iff {o : FileOutcome} {path : Path} {e : AnalysisError} :
    o.failed? = some (path, e) ↔ o = ⟨path, .error e⟩ := by
  constructor
  · obtain ⟨p, e' | a⟩ := o
    · intro h
      cases h
      rfl
    · exact fun h => nomatch h
  · rintro rfl
    rfl

/-- An outcome is in one part, and in the clean one just if it is clean. -/
theorem parts (o : FileOutcome) :
    (∃ a, o.accepted? = some (o.path, a) ∧ o.rejected? = none ∧ o.failed? = none ∧
        o.isClean = true) ∨
      (∃ a, o.accepted? = none ∧ o.rejected? = some (o.path, a) ∧ o.failed? = none ∧
        o.isClean = false) ∨
      ∃ e, o.accepted? = none ∧ o.rejected? = none ∧ o.failed? = some (o.path, e) ∧
        o.isClean = false := by
  obtain ⟨path, e | a⟩ := o
  · exact .inr (.inr ⟨e, rfl, rfl, rfl, rfl⟩)
  · cases h : a.isClean with
    | true =>
      have hrejected : rejected? ⟨path, .ok a⟩ = none := if_pos h
      exact .inl ⟨a, accepted?_eq_some_iff.2 ⟨h, rfl⟩, hrejected, rfl, h⟩
    | false =>
      have haccepted : accepted? ⟨path, .ok a⟩ = none := if_neg (Bool.eq_false_iff.1 h)
      exact .inr (.inl ⟨a, haccepted, rejected?_eq_some_iff.2 ⟨h, rfl⟩, rfl, h⟩)

end FileOutcome

namespace Batch

variable {b : Batch} {os : List FileOutcome} {files : List Path}

/-! ### Adding a file -/

/-- Adding a file says whether its outcome is clean. -/
theorem record_eq (b : Batch) (o : FileOutcome) : b.record o = (b.add o, o.isClean) := by
  obtain ⟨path, e | a⟩ := o
  · rfl
  · simp only [add, record, FileOutcome.isClean, addResult]
    cases a.isClean <;> rfl

/-- A file is added to the list of its part, at the end, and counted. -/
theorem add_eq (b : Batch) (o : FileOutcome) : b.add o =
    { b with
      accepted := b.accepted ++ o.accepted?.toList
      rejected := b.rejected ++ o.rejected?.toList
      failed := b.failed ++ o.failed?.toList
      processed := b.processed + 1 } := by
  obtain ⟨path, e | a⟩ := o
  · simp [add, record, addFailure, FileOutcome.accepted?, FileOutcome.rejected?,
      FileOutcome.failed?]
  · simp only [add, record, addResult]
    cases h : a.isClean <;>
      simp [h, FileOutcome.accepted?, FileOutcome.rejected?, FileOutcome.failed?]

/-- The number of files to analyse stays as it is while files are added. -/
theorem foldl_add_start (discovered : Nat) (os : List FileOutcome) :
    os.foldl add (start discovered) = { os.foldl add empty with discovered } := by
  have hadd : ∀ (b : Batch) (o : FileOutcome),
      add { b with discovered } o = { b.add o with discovered } := by
    intro b o
    rw [add_eq, add_eq]
  exact List.foldl_hom (fun b : Batch => { b with discovered }) hadd

theorem discovered_foldl_add (discovered : Nat) (os : List FileOutcome) :
    (os.foldl add (start discovered)).discovered = discovered := by
  rw [foldl_add_start]

theorem processed_add (b : Batch) (o : FileOutcome) : (b.add o).processed = b.processed + 1 := by
  rw [add_eq]

theorem allAccepted_add (b : Batch) (o : FileOutcome) :
    (b.add o).allAccepted = (b.allAccepted && o.isClean) := by
  rw [add_eq, allAccepted, allAccepted]
  rcases o.parts with ⟨_, -, hr, hf, h⟩ | ⟨_, -, hr, hf, h⟩ | ⟨_, -, hr, hf, h⟩ <;>
    simp [hr, hf, h]

/-! ### Results of others -/

theorem merge_empty (b : Batch) : b.merge .empty = b := by
  simp [merge, empty]

theorem merge_add (b b' : Batch) (o : FileOutcome) : b.merge (b'.add o) = (b.merge b').add o := by
  simp only [add_eq, merge, List.append_assoc, Nat.add_assoc]

/-- **What others have added may be added by oneself.** -/
theorem merge_foldl_add (b b' : Batch) (os : List FileOutcome) :
    b.merge (os.foldl add b') = os.foldl add (b.merge b') :=
  (List.foldl_hom b.merge fun b' o => (b.merge_add b' o).symm).symm

theorem allAccepted_merge (b b' : Batch) :
    (b.merge b').allAccepted = (b.allAccepted && b'.allAccepted) := by
  rw [Bool.eq_iff_iff]
  simp only [allAccepted, merge, Bool.and_eq_true, List.isEmpty_iff, List.append_eq_nil_iff]
  exact and_and_and_comm

theorem allAccepted_sorted (b : Batch) : b.sorted.allAccepted = b.allAccepted := by
  have hempty : ∀ {β : Type} (es : List (Path × β)),
      (es.mergeSort fun p q => p.1.le q.1).isEmpty = es.isEmpty := by
    intro β es
    rw [Bool.eq_iff_iff, List.isEmpty_iff_length_eq_zero, List.length_mergeSort,
      List.isEmpty_iff_length_eq_zero]
  rw [allAccepted, allAccepted, ← hempty b.rejected, ← hempty b.failed]
  rfl

/-! ### The outcomes that a batch holds -/

/-- The lists of a batch have the outcomes that are their part, and its counter has their number. -/
structure Holds (b : Batch) (os : List FileOutcome) : Prop where
  accepted : b.accepted = os.filterMap FileOutcome.accepted?
  rejected : b.rejected = os.filterMap FileOutcome.rejected?
  failed : b.failed = os.filterMap FileOutcome.failed?
  processed : b.processed = os.length

theorem holds_empty : empty.Holds [] := ⟨rfl, rfl, rfl, rfl⟩

/-- How many files there were to analyse has no part in what a batch holds. -/
theorem Holds.ofFiles (h : b.Holds os) (discovered : Nat) : { b with discovered }.Holds os :=
  ⟨h.accepted, h.rejected, h.failed, h.processed⟩

theorem holds_start (discovered : Nat) : (start discovered).Holds [] :=
  holds_empty.ofFiles discovered

/-- A file that is added comes behind the others. -/
theorem Holds.add (h : b.Holds os) (o : FileOutcome) : (b.add o).Holds (os ++ [o]) := by
  have hpart : ∀ {β : Type} (f : FileOutcome → Option β),
      (os ++ [o]).filterMap f = os.filterMap f ++ (f o).toList := by
    intro β f
    rw [List.filterMap_append, List.filterMap_cons]
    cases f o <;> rfl
  rw [add_eq]
  refine ⟨?_, ?_, ?_, ?_⟩
  · rw [h.accepted, hpart]
  · rw [h.rejected, hpart]
  · rw [h.failed, hpart]
  · rw [h.processed, List.length_append, List.length_singleton]

/-- **A batch holds what is added to it.** -/
theorem Holds.foldl_add (h : b.Holds os) (more : List FileOutcome) :
    (more.foldl Batch.add b).Holds (os ++ more) := by
  induction more generalizing b os with
  | nil => rwa [List.append_nil]
  | cons o more ih =>
    have hmore := ih (h.add o)
    rwa [List.append_assoc] at hmore

/-- Every file that is counted is in one of the lists. -/
theorem Holds.processed_eq (h : b.Holds os) :
    b.processed = b.accepted.length + b.rejected.length + b.failed.length := by
  rw [h.accepted, h.rejected, h.failed, h.processed]
  clear h
  induction os with
  | nil => rfl
  | cons o os ih =>
    rcases o.parts with ⟨_, ha, hr, hf, -⟩ | ⟨_, ha, hr, hf, -⟩ | ⟨_, ha, hr, hf, -⟩ <;>
      simp only [List.filterMap_cons, ha, hr, hf, List.length_cons, ih] <;>
      omega

/-- **No file is rejected or failed just if all outcomes are clean.** -/
theorem Holds.allAccepted_eq (h : b.Holds os) : b.allAccepted = os.all FileOutcome.isClean := by
  rw [allAccepted, h.rejected, h.failed]
  clear h
  induction os with
  | nil => rfl
  | cons o os ih =>
    rw [List.all_cons, ← ih]
    rcases o.parts with ⟨_, -, hr, hf, h⟩ | ⟨_, -, hr, hf, h⟩ | ⟨_, -, hr, hf, h⟩ <;>
      simp [hr, hf, h]

/-! ### The files of a batch -/

/-- The lists of a batch are made of the outcomes of files: of a file each, in exactly one list,
told by what became of it; and every list is in the order of the files. -/
structure Divides (b : Batch) (os : List FileOutcome) (files : List Path) : Prop where
  paths : os.map FileOutcome.path = files
  accepted_iff : ∀ path a, (path, a) ∈ b.accepted ↔ a.isClean ∧ ⟨path, .ok a⟩ ∈ os
  rejected_iff : ∀ path a, (path, a) ∈ b.rejected ↔ a.isClean = false ∧ ⟨path, .ok a⟩ ∈ os
  failed_iff : ∀ path e, (path, e) ∈ b.failed ↔ ⟨path, .error e⟩ ∈ os
  perm : (b.accepted.map Prod.fst ++ b.rejected.map Prod.fst ++ b.failed.map Prod.fst).Perm files
  accepted_order : (b.accepted.map Prod.fst).Sublist files
  rejected_order : (b.rejected.map Prod.fst).Sublist files
  failed_order : (b.failed.map Prod.fst).Sublist files
  processed : b.processed = files.length
  sum : b.processed = b.accepted.length + b.rejected.length + b.failed.length

/-- What is in a part, by the outcomes that are in it. -/
theorem mem_part {β : Type} {f : FileOutcome → Option β} {r : β} {p : Prop} {o : FileOutcome}
    (hf : ∀ o', f o' = some r ↔ p ∧ o' = o) : r ∈ os.filterMap f ↔ p ∧ o ∈ os := by
  rw [List.mem_filterMap]
  constructor
  · rintro ⟨o', ho, hr⟩
    obtain ⟨hp, rfl⟩ := (hf o').1 hr
    exact ⟨hp, ho⟩
  · rintro ⟨hp, ho⟩
    exact ⟨o, ho, (hf o).2 ⟨hp, rfl⟩⟩

/-- What a part has of outcomes is in their order. -/
theorem sublist_part {β : Type} {f : FileOutcome → Option (Path × β)}
    (hf : ∀ o r, f o = some r → r.1 = o.path) (os : List FileOutcome) :
    ((os.filterMap f).map Prod.fst).Sublist (os.map FileOutcome.path) := by
  induction os with
  | nil => exact .slnil
  | cons o os ih =>
    rw [List.filterMap_cons, List.map_cons]
    cases h : f o with
    | none => exact ih.cons _
    | some r =>
      rw [List.map_cons, hf o r h]
      exact ih.cons_cons _

theorem sublist_accepted (os : List FileOutcome) :
    ((os.filterMap FileOutcome.accepted?).map Prod.fst).Sublist (os.map FileOutcome.path) := by
  refine sublist_part (fun o r hr => ?_) os
  obtain ⟨-, rfl⟩ := FileOutcome.accepted?_eq_some_iff.1 hr
  rfl

theorem sublist_rejected (os : List FileOutcome) :
    ((os.filterMap FileOutcome.rejected?).map Prod.fst).Sublist (os.map FileOutcome.path) := by
  refine sublist_part (fun o r hr => ?_) os
  obtain ⟨-, rfl⟩ := FileOutcome.rejected?_eq_some_iff.1 hr
  rfl

theorem sublist_failed (os : List FileOutcome) :
    ((os.filterMap FileOutcome.failed?).map Prod.fst).Sublist (os.map FileOutcome.path) := by
  refine sublist_part (fun o r hr => ?_) os
  obtain rfl := FileOutcome.failed?_eq_some_iff.1 hr
  rfl

/-- The three parts have the outcomes between them. -/
theorem perm_parts (os : List FileOutcome) :
    ((os.filterMap FileOutcome.accepted?).map Prod.fst ++
      (os.filterMap FileOutcome.rejected?).map Prod.fst ++
        (os.filterMap FileOutcome.failed?).map Prod.fst).Perm (os.map FileOutcome.path) := by
  induction os with
  | nil => exact .rfl
  | cons o os ih =>
    rcases o.parts with ⟨_, ha, hr, hf, -⟩ | ⟨_, ha, hr, hf, -⟩ | ⟨_, ha, hr, hf, -⟩ <;>
      simp only [List.filterMap_cons, ha, hr, hf, List.map_cons]
    · exact ih.cons o.path
    · rw [List.append_assoc, List.cons_append]
      refine List.perm_middle.trans (.cons o.path ?_)
      rwa [← List.append_assoc]
    · exact List.perm_middle.trans (ih.cons o.path)

/-- **What a batch has of its files**, by the outcomes that it holds. -/
theorem Holds.divides (h : b.Holds os) (hpaths : os.map FileOutcome.path = files) :
    b.Divides os files where
  paths := hpaths
  accepted_iff path a := by
    rw [h.accepted, mem_part fun _ => FileOutcome.accepted?_eq_some_iff]
  rejected_iff path a := by
    rw [h.rejected, mem_part fun _ => FileOutcome.rejected?_eq_some_iff]
  failed_iff path e := by
    have hfailed : ∀ o : FileOutcome, o.failed? = some (path, e) ↔ True ∧ o = ⟨path, .error e⟩ :=
      fun _ => FileOutcome.failed?_eq_some_iff.trans (true_and _).symm.to_iff
    rw [h.failed, mem_part hfailed, true_and]
  perm := by
    rw [h.accepted, h.rejected, h.failed, ← hpaths]
    exact perm_parts os
  accepted_order := by
    rw [h.accepted, ← hpaths]
    exact sublist_accepted os
  rejected_order := by
    rw [h.rejected, ← hpaths]
    exact sublist_rejected os
  failed_order := by
    rw [h.failed, ← hpaths]
    exact sublist_failed os
  processed := by rw [h.processed, ← hpaths, List.length_map]
  sum := h.processed_eq

end Batch

end Lookahead
