import Lookahead.Log.Collector
import Lookahead.Proofs.PathOrder
import Mathlib.Data.List.Nodup

/-!
# What collectors hold

A collector keeps its files in the order of their paths, each once and none without an event
(`Collector.Proper`).  So an event that is recorded is found under its path, however that is written,
and nothing else changes.

* `Collector.Proper.recordAll`: collectors stay as they should be.
* `Collector.eventsOf_recordAll`: what a collector holds behind what was recorded of a file.
-/

namespace Lookahead

namespace Path

theorem same_iff (p q : Path) : p.same q = true ↔ p.key = q.key := by
  rw [same, beq_iff_eq, key, key, (List.map_injective_iff.2 Part.key_injective).eq_iff]

theorem same_self (p : Path) : p.same p = true := (same_iff p p).2 rfl

theorem same_comm (p q : Path) : p.same q = q.same p := by
  rw [Bool.eq_iff_iff, same_iff, same_iff, eq_comm]

theorem lt_iff (p q : Path) : p.lt q = true ↔ p.key < q.key := partsLt_iff p.parts q.parts

end Path

namespace Collector

/-- Files in the order of their paths, each with an event. -/
structure Proper (C : Collector) : Prop where
  ordered : C.files.Pairwise fun f g => f.path.key < g.path.key
  nonempty : ∀ f ∈ C.files, f.events.toList ≠ []

theorem proper_empty : empty.Proper := ⟨.nil, fun _ h => (List.not_mem_nil h).elim⟩

end Collector

namespace FileEvents

theorem path_record (f : FileEvents) (e : LogEvent) : (f.record e).path = f.path := by
  rw [record]
  split
  · rfl
  · split <;> rfl

/-- The events kept of a file, with one more: as long as there is room it is kept itself, and the
first that there is no room for is replaced by a warning. -/
def keep (es : List LogEvent) (e : LogEvent) : List LogEvent :=
  if es.length < limit then es ++ [e]
  else if es.length = limit then es ++ [overflow e.timestamp]
  else es

theorem keep_ne_nil (es : List LogEvent) (e : LogEvent) : keep es e ≠ [] := by
  rw [keep]
  split
  · simp
  · next hlt =>
    split
    · simp
    · rintro rfl
      exact hlt (by decide)

theorem toList_record (f : FileEvents) (e : LogEvent) :
    (f.record e).events.toList = keep f.events.toList e := by
  simp only [record, keep, Array.length_toList]
  split
  · exact Array.toList_push
  · split
    · exact Array.toList_push
    · rfl

theorem record_ne_nil (f : FileEvents) (e : LogEvent) : (f.record e).events.toList ≠ [] := by
  rw [toList_record]
  exact keep_ne_nil _ e

end FileEvents

namespace Collector

/-! ### Recording among files in order -/

variable {p : Path} {e : LogEvent} {fs : List FileEvents}

theorem mem_recordIn {g : FileEvents} (h : g ∈ recordIn p e fs) :
    g ∈ fs ∨ g.path.key = p.key ∧ g.events.toList ≠ [] := by
  induction fs with
  | nil =>
    rw [recordIn, List.mem_singleton] at h
    subst h
    exact .inr ⟨congrArg Path.key (FileEvents.path_record _ _), FileEvents.record_ne_nil _ _⟩
  | cons f fs ih =>
    rw [recordIn] at h
    split at h
    · next hsame =>
      rcases List.mem_cons.1 h with rfl | h
      · refine .inr ⟨?_, FileEvents.record_ne_nil _ _⟩
        rw [FileEvents.path_record]
        exact ((Path.same_iff _ _).1 hsame).symm
      · exact .inl (.tail _ h)
    · split at h
      · rcases List.mem_cons.1 h with rfl | h
        · exact .inr ⟨congrArg Path.key (FileEvents.path_record _ _), FileEvents.record_ne_nil _ _⟩
        · exact .inl h
      · rcases List.mem_cons.1 h with rfl | h
        · exact .inl List.mem_cons_self
        · exact (ih h).imp (.tail _) id

/-- A file is in order, or its path is. -/
theorem key_mem_recordIn {g : FileEvents} {P : List (Nat ×ₗ String) → Prop}
    (hfs : ∀ f ∈ fs, P f.path.key) (hp : P p.key) (h : g ∈ recordIn p e fs) : P g.path.key := by
  rcases mem_recordIn h with h | ⟨h, -⟩
  · exact hfs g h
  · exact h ▸ hp

theorem pairwise_recordIn (h : fs.Pairwise fun f g => f.path.key < g.path.key) :
    (recordIn p e fs).Pairwise fun f g => f.path.key < g.path.key := by
  induction fs with
  | nil => exact List.pairwise_singleton _ _
  | cons f fs ih =>
    obtain ⟨hf, hfs⟩ := List.pairwise_cons.1 h
    rw [recordIn]
    split
    · refine List.pairwise_cons.2 ⟨fun g hg => ?_, hfs⟩
      rw [FileEvents.path_record]
      exact hf g hg
    · next hsame =>
      split
      · next hlt =>
        have hpf : p.key < f.path.key := (Path.lt_iff _ _).1 hlt
        refine List.pairwise_cons.2 ⟨fun g hg => ?_, h⟩
        rw [FileEvents.path_record]
        rcases List.mem_cons.1 hg with rfl | hg
        · exact hpf
        · exact hpf.trans (hf g hg)
      · next hlt =>
        have hfp : f.path.key < p.key :=
          lt_of_le_of_ne (not_lt.1 fun h => hlt ((Path.lt_iff _ _).2 h))
            fun h => hsame ((Path.same_iff _ _).2 h.symm)
        exact List.pairwise_cons.2 ⟨fun g hg => key_mem_recordIn hf hfp hg, ih hfs⟩

/-- A path is found behind nothing that comes after it. -/
theorem find?_eq_none_of_lt (h : ∀ f ∈ fs, p.key < f.path.key) :
    fs.find? (p.same ·.path) = none :=
  List.find?_eq_none.2 fun f hf hsame => (h f hf).ne ((Path.same_iff _ _).1 hsame)

/-- **What is recorded of a file** is found under its path, and nothing else changes. -/
theorem find?_recordIn (h : fs.Pairwise fun f g => f.path.key < g.path.key) (q : Path) :
    (recordIn p e fs).find? (q.same ·.path) =
      if q.same p then some (((fs.find? (p.same ·.path)).getD ⟨p, #[]⟩).record e)
      else fs.find? (q.same ·.path) := by
  induction fs with
  | nil =>
    rw [recordIn, List.find?_singleton, FileEvents.path_record]
    rfl
  | cons f fs ih =>
    obtain ⟨hf, hfs⟩ := List.pairwise_cons.1 h
    have hpath : ∀ g : FileEvents, g.path.key = p.key → (q.same g.path) = q.same p := by
      intro g hg
      rw [Bool.eq_iff_iff, Path.same_iff, Path.same_iff, hg]
    rw [recordIn]
    split
    · next hsame =>
      have hqf : q.same f.path = q.same p := hpath f ((Path.same_iff _ _).1 hsame).symm
      rw [List.find?_cons, FileEvents.path_record, List.find?_cons, hsame, List.find?_cons, hqf]
      cases q.same p <;> rfl
    · next hsame =>
      rw [Bool.not_eq_true] at hsame
      split
      · next hlt =>
        have hpf : p.key < f.path.key := (Path.lt_iff _ _).1 hlt
        have hnone : (f :: fs).find? (p.same ·.path) = none :=
          find?_eq_none_of_lt (List.forall_mem_cons.2 ⟨hpf, fun g hg => hpf.trans (hf g hg)⟩)
        rw [List.find?_cons, FileEvents.path_record, hnone]
        cases q.same p <;> rfl
      · rw [List.find?_cons, ih hfs, List.find?_cons, hsame, List.find?_cons]
        cases hqf : q.same f.path with
        | false => rfl
        | true =>
          have hqp : q.same p = false := by
            rw [← Bool.not_eq_true, Path.same_iff] at hsame ⊢
            exact fun h => hsame (h ▸ (Path.same_iff _ _).1 hqf)
          rw [hqp]
          rfl

/-! ### Recording -/

variable {C : Collector}

theorem Proper.record (h : C.Proper) (p : Path) (e : LogEvent) : (C.record p e).Proper :=
  ⟨pairwise_recordIn h.ordered, fun f hf => (mem_recordIn hf).elim (h.nonempty f) And.right⟩

/-- What is kept does not depend on how a path is written. -/
theorem eventsOf_congr {p q : Path} (h : p.same q = true) : C.eventsOf p = C.eventsOf q := by
  have hsame : ∀ f : FileEvents, p.same f.path = q.same f.path := fun f => by
    rw [Bool.eq_iff_iff, Path.same_iff, Path.same_iff, (Path.same_iff _ _).1 h]
  simp only [eventsOf, hsame]

/-- An event is kept with those of its file. -/
theorem eventsOf_record (h : C.Proper) (p : Path) (e : LogEvent) (q : Path) :
    (C.record p e).eventsOf q =
      if q.same p then FileEvents.keep (C.eventsOf q) e else C.eventsOf q := by
  rw [eventsOf, Collector.record, find?_recordIn h.ordered]
  by_cases hsame : q.same p
  · rw [if_pos hsame, if_pos hsame, eventsOf_congr hsame, eventsOf]
    cases C.files.find? (p.same ·.path) with
    | none => exact FileEvents.toList_record _ e
    | some f => exact FileEvents.toList_record f e
  · rw [if_neg hsame, if_neg hsame, eventsOf]

/-- Keep several events of a file, one after the other. -/
def recordAll (C : Collector) (p : Path) (es : List LogEvent) : Collector :=
  es.foldl (fun C e => C.record p e) C

theorem recordAll_append (C : Collector) (p : Path) (es fs : List LogEvent) :
    C.recordAll p (es ++ fs) = (C.recordAll p es).recordAll p fs := List.foldl_append

theorem Proper.recordAll (h : C.Proper) (p : Path) (es : List LogEvent) :
    (C.recordAll p es).Proper := by
  induction es generalizing C with
  | nil => exact h
  | cons e es ih => exact ih (h.record p e)

/-- **Events that there is room for** are kept behind those of their file, in order. -/
theorem eventsOf_recordAll (h : C.Proper) {p : Path} {es : List LogEvent}
    (hroom : (C.eventsOf p).length + es.length ≤ FileEvents.limit) (q : Path) :
    (C.recordAll p es).eventsOf q =
      if q.same p then C.eventsOf q ++ es else C.eventsOf q := by
  induction es generalizing C with
  | nil => simp [recordAll]
  | cons e es ih =>
    rw [List.length_cons] at hroom
    have hself := eventsOf_record h p e p
    rw [if_pos p.same_self, FileEvents.keep, if_pos (by omega)] at hself
    have hroom' : ((C.record p e).eventsOf p).length + es.length ≤ FileEvents.limit := by
      rw [hself, List.length_append, List.length_singleton]
      omega
    refine (ih (h.record p e) hroom').trans ?_
    split
    · next hsame =>
      rw [eventsOf_congr hsame, hself, eventsOf_congr hsame, List.append_assoc,
        List.singleton_append]
    · next hsame => rw [eventsOf_record h, if_neg hsame]

/-- What is kept of a file is found under its path. -/
theorem Proper.eventsOf_path (h : C.Proper) {f : FileEvents} (hf : f ∈ C.files) :
    C.eventsOf f.path = f.events.toList := by
  have hdistinct : (C.files.map (·.path.key)).Nodup := by
    refine List.pairwise_map.2 (h.ordered.imp ?_)
    exact fun hlt => hlt.ne
  rw [eventsOf]
  cases hfind : C.files.find? (f.path.same ·.path) with
  | none => exact absurd f.path.same_self (List.find?_eq_none.1 hfind f hf)
  | some g =>
    have hsame := List.find?_some hfind
    have hkey : g.path.key = f.path.key := ((Path.same_iff _ _).1 hsame).symm
    have heq := List.inj_on_of_nodup_map hdistinct (List.mem_of_find?_eq_some hfind) hf hkey
    exact congrArg (·.events.toList) heq

/-- A file that is kept has events under its path. -/
theorem Proper.eventsOf_ne_nil (h : C.Proper) {f : FileEvents} (hf : f ∈ C.files) :
    C.eventsOf f.path ≠ [] := by
  rw [h.eventsOf_path hf]
  exact h.nonempty f hf

theorem Proper.exists_mem_files_iff (h : C.Proper) (p : Path) :
    (∃ f ∈ C.files, p.same f.path = true) ↔ C.eventsOf p ≠ [] := by
  constructor
  · rintro ⟨f, hf, hsame⟩
    rw [eventsOf_congr hsame]
    exact h.eventsOf_ne_nil hf
  · rw [eventsOf]
    cases hfind : C.files.find? (p.same ·.path) with
    | none => exact fun hne => absurd rfl hne
    | some f =>
      have hsame := List.find?_some hfind
      exact fun _ => ⟨f, List.mem_of_find?_eq_some hfind, hsame⟩

end Collector

end Lookahead
