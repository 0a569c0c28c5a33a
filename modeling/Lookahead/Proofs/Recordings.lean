import Lookahead.Proofs.Collectors
import Mathlib.Algebra.GroupWithZero.Nat
import Mathlib.Data.List.Induction
import Mathlib.Data.List.Pairwise

/-!
# Recordings

A collector is told events of files, in any order.  Of each file it keeps the first events, and a
warning if these are not all; the events of other files do not matter.  Its summary counts each file
once, under one heading, and the errors that are kept.

* `FileEvents.keep_kept`: one more event of a file.
* `Collector.eventsOf_ofRecordings`: what is kept of a file.
* `Collector.perm_contents`: what is kept of all files, each taken once.
* `Collector.recordings_summed`: what a collector and its summary tell of recordings.
-/

namespace Lookahead

/-! ### Events of one file -/

namespace FileEvents

/-- What is kept of the events of a file: the first of them, and a warning if these are not all. -/
def kept (es : List LogEvent) : List LogEvent :=
  if h : limit < es.length then es.take limit ++ [overflow es[limit].timestamp] else es

theorem kept_of_le {es : List LogEvent} (h : es.length ≤ limit) : kept es = es :=
  dif_neg (Nat.not_lt.2 h)

theorem kept_eq_nil_iff {es : List LogEvent} : kept es = [] ↔ es = [] := by
  rw [kept]
  split
  · next h =>
    have hne : es ≠ [] := List.ne_nil_of_length_pos (Nat.zero_lt_of_lt h)
    simp [hne]
  · exact Iff.rfl

/-- **One more event** is the last that is kept, or the first that is too many, or dropped. -/
theorem keep_kept (es : List LogEvent) (e : LogEvent) : keep (kept es) e = kept (es ++ [e]) := by
  have hlength : (es ++ [e]).length = es.length + 1 := List.length_append
  rcases Nat.lt_trichotomy es.length limit with hlt | heq | hgt
  · rw [kept_of_le hlt.le, keep, if_pos hlt, kept_of_le (hlength ▸ hlt)]
  · have htoo : limit < (es ++ [e]).length := by omega
    have hlast : (es ++ [e])[limit] = e := by simp [← heq]
    rw [kept_of_le heq.le, keep, if_neg (by omega), if_pos heq, kept, dif_pos htoo, hlast,
      List.take_left' heq]
  · have htoo : limit < (es ++ [e]).length := by omega
    have hfull : (kept es).length = limit + 1 := by
      rw [kept, dif_pos hgt, List.length_append, List.length_take, Nat.min_eq_left hgt.le,
        List.length_singleton]
    rw [keep, if_neg (by omega), if_neg (by omega), kept, kept, dif_pos hgt, dif_pos htoo,
      List.take_append_of_le_length hgt.le, List.getElem_append_left hgt]

end FileEvents

/-! ### Recordings -/

/-- Events of files, in the order in which they are recorded. -/
abbrev Recordings := List (Path × LogEvent)

namespace Recordings

/-- The events recorded of a file, under any way to write its path. -/
def eventsOf (rs : Recordings) (p : Path) : List LogEvent :=
  (rs.filter (p.same ·.1)).map Prod.snd

/-- The paths of the files, each once. -/
def paths (rs : Recordings) : List Path := (rs.map Prod.fst).pwFilter fun p q => p.same q = false

variable (rs : Recordings) (p : Path)

theorem eventsOf_concat (q : Path) (e : LogEvent) : eventsOf (rs ++ [(q, e)]) p =
    if p.same q then rs.eventsOf p ++ [e] else rs.eventsOf p := by
  rw [eventsOf, List.filter_append, List.map_append, List.filter_singleton]
  cases p.same q with
  | true => rfl
  | false => exact List.append_nil _

theorem eventsOf_ne_nil_iff : rs.eventsOf p ≠ [] ↔ ∃ r ∈ rs, p.same r.1 = true := by
  simp [eventsOf, List.filter_eq_nil_iff]

theorem pairwise_paths : rs.paths.Pairwise fun p q => p.same q = false := List.pairwise_pwFilter _

theorem exists_mem_paths_iff :
    (∃ q ∈ rs.paths, p.same q = true) ↔ ∃ r ∈ rs, p.same r.1 = true := by
  have htrans : ∀ {a b c : Path}, a.same c = false → a.same b = false ∨ b.same c = false := by
    intro a b c hac
    simp only [← Bool.not_eq_true, Path.same_iff] at hac ⊢
    exact not_and_or.1 fun h => hac (h.1.trans h.2)
  have hall := List.forall_mem_pwFilter (R := fun a b : Path => a.same b = false) htrans p
    (rs.map Prod.fst)
  rw [← not_iff_not]
  simpa [paths] using hall

end Recordings

/-! ### Lists of paths -/

namespace Path

variable {ps qs : List Path}

theorem nodup_map_key (h : ps.Pairwise fun p q => p.same q = false) : (ps.map key).Nodup := by
  refine List.pairwise_map.2 (h.imp fun hne heq => ?_)
  rw [(same_iff _ _).2 heq] at hne
  cases hne

theorem map_key_subset (h : ∀ p ∈ ps, ∃ q ∈ qs, p.same q = true) : ps.map key ⊆ qs.map key := by
  intro k hk
  obtain ⟨p, hp, rfl⟩ := List.mem_map.1 hk
  obtain ⟨q, hq, hsame⟩ := h p hp
  exact List.mem_map.2 ⟨q, hq, ((same_iff p q).1 hsame).symm⟩

/-- **Two lists that have the same paths, each once,** agree up to order in all that does not depend
on how a path is written. -/
theorem perm_map {β : Type} [Nonempty β] {f : Path → β}
    (hf : ∀ p q : Path, p.same q = true → f p = f q)
    (hps : ps.Pairwise fun p q => p.same q = false)
    (hqs : qs.Pairwise fun p q => p.same q = false)
    (h : ∀ p : Path, (∃ q ∈ ps, p.same q = true) ↔ ∃ q ∈ qs, p.same q = true) :
    (ps.map f).Perm (qs.map f) := by
  have hsubset : ps.map key ⊆ qs.map key :=
    map_key_subset fun p hp => (h p).1 ⟨p, hp, p.same_self⟩
  have hsubset' : qs.map key ⊆ ps.map key :=
    map_key_subset fun q hq => (h q).2 ⟨q, hq, q.same_self⟩
  have hkeys : (ps.map key).Perm (qs.map key) :=
    (List.perm_ext_iff_of_nodup (nodup_map_key hps) (nodup_map_key hqs)).2 fun _ =>
      ⟨fun hk => hsubset hk, fun hk => hsubset' hk⟩
  -- what does not depend on how a path is written is a function of its key
  obtain ⟨g, rfl⟩ := (Function.factorsThrough_iff f).1 fun p q hkey =>
    hf p q ((same_iff p q).2 hkey)
  rw [← List.map_map, ← List.map_map]
  exact hkeys.map g

end Path

namespace Collector

/-- The collector behind recordings. -/
def ofRecordings (rs : Recordings) : Collector := rs.foldl (fun C (p, e) => C.record p e) empty

variable (rs : Recordings) (p : Path)

theorem ofRecordings_concat (e : LogEvent) :
    ofRecordings (rs ++ [(p, e)]) = (ofRecordings rs).record p e := List.foldl_append

theorem proper_ofRecordings : (ofRecordings rs).Proper := by
  induction rs using List.reverseRecOn with
  | nil => exact proper_empty
  | append_singleton rs r ih => exact ofRecordings_concat rs r.1 r.2 ▸ ih.record r.1 r.2

/-- **What is kept of a file** depends on what is recorded of it only. -/
theorem eventsOf_ofRecordings :
    (ofRecordings rs).eventsOf p = FileEvents.kept (rs.eventsOf p) := by
  induction rs using List.reverseRecOn with
  | nil => rfl
  | append_singleton rs r ih =>
    obtain ⟨q, e⟩ := r
    rw [ofRecordings_concat, eventsOf_record (proper_ofRecordings rs), ih,
      Recordings.eventsOf_concat]
    split
    · exact FileEvents.keep_kept _ e
    · rfl

/-! ### Summaries -/

/-- What is kept, file by file. -/
def contents (C : Collector) : List (List LogEvent) := C.files.map (·.events.toList)

section

variable (C : Collector)

theorem files_summary : C.summary.files = C.contents.length := (List.length_map _).symm

theorem failed_summary :
    C.summary.failed = C.contents.countP (·.any LogEvent.isError) := by
  rw [contents, List.countP_map]
  exact congrArg (C.files.countP ·) (funext fun f => Array.any_toList.symm)

theorem withWarnings_summary : C.summary.withWarnings =
    C.contents.countP fun es => !es.any LogEvent.isError && es.any LogEvent.isWarning := by
  rw [contents, List.countP_map]
  exact congrArg (C.files.countP ·) (funext fun f => by
    simp [FileEvents.hasErrors, FileEvents.hasWarnings])

theorem count_eq (kind : LogEvent → Bool) :
    C.count kind = (C.contents.map (·.countP kind)).sum := by
  obtain ⟨fs⟩ := C
  simp only [count, contents]
  induction fs with
  | nil => rfl
  | cons f fs ih =>
    rw [List.foldr_cons, ih, List.map_cons, List.map_cons, List.sum_cons, Array.countP_toList]

/-- **Every file is counted once.** -/
theorem partition_summary :
    C.summary.failed + C.summary.withWarnings + C.summary.successful = C.summary.files := by
  obtain ⟨fs⟩ := C
  simp only [summary]
  induction fs with
  | nil => rfl
  | cons f fs ih =>
    simp only [List.countP_cons, List.length_cons, ← ih]
    cases f.hasErrors <;> cases f.hasWarnings <;> simp <;> omega

end

/-- **What is kept of all files** is what is kept of each path that was recorded, taken once. -/
theorem perm_contents :
    (ofRecordings rs).contents.Perm (rs.paths.map (ofRecordings rs).eventsOf) := by
  have hproper := proper_ofRecordings rs
  have hcontents : (ofRecordings rs).contents =
      ((ofRecordings rs).files.map (·.path)).map (ofRecordings rs).eventsOf := by
    rw [contents, List.map_map]
    exact List.map_congr_left fun f hf => (hproper.eventsOf_path hf).symm
  rw [hcontents]
  refine Path.perm_map (fun p q => eventsOf_congr) ?_ rs.pairwise_paths fun p => ?_
  · refine List.pairwise_map.2 (hproper.ordered.imp fun hlt => ?_)
    rw [← Bool.not_eq_true, Path.same_iff]
    exact hlt.ne
  · rw [rs.exists_mem_paths_iff, ← rs.eventsOf_ne_nil_iff, ← FileEvents.kept_eq_nil_iff.ne,
      ← eventsOf_ofRecordings, ← hproper.exists_mem_files_iff]
    simp

theorem count_ofRecordings (kind : LogEvent → Bool) : (ofRecordings rs).count kind =
    (rs.paths.map fun p => ((ofRecordings rs).eventsOf p).countP kind).sum := by
  rw [count_eq, ((perm_contents rs).map _).sum_nat, List.map_map]
  rfl

/-- What a collector and its summary tell of recordings.  Of each file the first events are kept, at
most as many as the limit of 1000, and one warning if there are more.  The summary counts every path
that was recorded once: as failed if an error is kept, else as one with warnings if a warning is
kept, else as successful. -/
structure Sums (C : Collector) (rs : Recordings) : Prop where
  events_eq : ∀ p, C.eventsOf p = FileEvents.kept (rs.eventsOf p)
  files_eq : C.summary.files = rs.paths.length
  partition : C.summary.failed + C.summary.withWarnings + C.summary.successful = C.summary.files
  failed_eq : C.summary.failed = rs.paths.countP fun p => (C.eventsOf p).any LogEvent.isError
  withWarnings_eq : C.summary.withWarnings = rs.paths.countP fun p =>
    !(C.eventsOf p).any LogEvent.isError && (C.eventsOf p).any LogEvent.isWarning
  errors_eq : C.summary.errors = (rs.paths.map fun p => (C.errorsOf p).length).sum
  warnings_eq : C.summary.warnings =
    (rs.paths.map fun p => (C.eventsOf p).countP LogEvent.isWarning).sum

/-- **A collector keeps the first events of each file, and its summary adds up.** -/
theorem recordings_summed (rs : Recordings) : (ofRecordings rs).Sums rs where
  events_eq := eventsOf_ofRecordings rs
  files_eq := by rw [files_summary, (perm_contents rs).length_eq, List.length_map]
  partition := partition_summary _
  failed_eq := by
    rw [failed_summary, (perm_contents rs).countP_eq, List.countP_map]
    rfl
  withWarnings_eq := by
    rw [withWarnings_summary, (perm_contents rs).countP_eq, List.countP_map]
    rfl
  errors_eq := by
    simp only [errorsOf, ← List.countP_eq_length_filter]
    exact count_ofRecordings rs LogEvent.isError
  warnings_eq := count_ofRecordings rs LogEvent.isWarning

end Collector

end Lookahead
