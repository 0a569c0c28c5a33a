import Lookahead.Log.MemoryLog
import Mathlib.Data.List.DropRight
import Mathlib.Data.Nat.PSub

/-!
# The latest events

A log in memory is a window on what it was told: it keeps the last events, as many as it has room
for, in order.  To make room it counts how many events are too many and takes these away from the
front; it never counts below zero, nor takes away more than there are (`MemoryLog.log?_eq`).

* `MemoryLog.Latest.log`: the window moves by one event.
* `MemoryLog.latest_kept`: what a log holds that events were told one after the other.
-/

namespace Lookahead

namespace MemoryLog

variable {L : MemoryLog} {es : List LogEvent}

/-! ### Making room -/

/-- Add an event with care: there is no result if fewer events are kept than there is room for where
the excess is counted, or if more are to be taken away than there are. -/
def log? (L : MemoryLog) (e : LogEvent) : Option MemoryLog :=
  if L.events.size < capacity then some ⟨L.events.push e⟩
  else (L.events.size.psub capacity).bind fun excess =>
    if excess + 1 ≤ L.events.size then some ⟨(L.events.extract (excess + 1)).push e⟩ else none

theorem capacity_pos : 0 < capacity := by decide

/-- **Room can always be made.** -/
theorem log?_eq (L : MemoryLog) (e : LogEvent) : L.log? e = some (L.log e) := by
  have hcapacity := capacity_pos
  rw [log?, log]
  split
  · rfl
  · next hfull =>
    rw [Nat.psub_eq_sub (Nat.not_lt.1 hfull), Option.bind_some, if_pos (by omega)]

/-- Add events, one after the other. -/
def logAll (L : MemoryLog) (es : List LogEvent) : MemoryLog := es.foldl log L

theorem foldlM_log? (L : MemoryLog) (es : List LogEvent) :
    es.foldlM log? L = some (L.logAll es) := by
  induction es generalizing L with
  | nil => rfl
  | cons e es ih =>
    rw [List.foldlM_cons, log?_eq]
    exact ih (L.log e)

/-! ### The window -/

/-- The log keeps the last of the events, and as many as there is room for. -/
structure Latest (L : MemoryLog) (es : List LogEvent) : Prop where
  suffix : L.events.toList <:+ es
  size_eq : L.size = min es.length capacity

theorem latest_empty : empty.Latest [] := ⟨List.suffix_rfl, rfl⟩

theorem size_log (L : MemoryLog) (e : LogEvent) : (L.log e).size = min (L.size + 1) capacity := by
  have hcapacity := capacity_pos
  rw [log, size, size]
  split
  · rw [Array.size_push]
    omega
  · rw [Array.size_push, Array.size_extract]
    omega

/-- An event stands behind the last of those that were there. -/
theorem exists_toList_log (L : MemoryLog) (e : LogEvent) :
    ∃ n, (L.log e).events.toList = L.events.toList.drop n ++ [e] := by
  rw [log]
  split
  · exact ⟨0, Array.toList_push⟩
  · refine ⟨L.events.size - capacity + 1, ?_⟩
    rw [Array.toList_push, Array.toList_extract, List.extract_eq_take_drop, List.take_of_length_le]
    rw [List.length_drop, Array.length_toList]

/-- **The window moves by one event.** -/
theorem Latest.log (h : L.Latest es) (e : LogEvent) : (L.log e).Latest (es ++ [e]) where
  suffix := by
    obtain ⟨n, hn⟩ := L.exists_toList_log e
    obtain ⟨fs, hfs⟩ := (List.drop_suffix n _).trans h.suffix
    exact ⟨fs, by rw [hn, ← List.append_assoc, hfs]⟩
  size_eq := by
    rw [size_log, h.size_eq, List.length_append, List.length_singleton]
    omega

theorem Latest.logAll (h : L.Latest es) (fs : List LogEvent) :
    (L.logAll fs).Latest (es ++ fs) := by
  induction fs generalizing L es with
  | nil => exact (List.append_nil es).symm ▸ h
  | cons f fs ih =>
    have hrest := ih (h.log f)
    rwa [List.append_assoc, List.singleton_append] at hrest

theorem Latest.toList_eq (h : L.Latest es) : L.events.toList = es.rtake capacity := by
  have hlength : L.events.toList.length = min es.length capacity :=
    Array.length_toList.trans h.size_eq
  have hdrop : es.length - min es.length capacity = es.length - capacity := by omega
  rw [List.rtake, ← hdrop, ← hlength]
  exact List.suffix_iff_eq_drop.1 h.suffix

/-! ### Counts -/

/-- **Every event has one level.** -/
theorem total_summary (L : MemoryLog) :
    L.summary.errors + L.summary.warnings + L.summary.infos + L.summary.details =
      L.summary.total := by
  obtain ⟨⟨es⟩⟩ := L
  simp only [summary, count, size, List.countP_toArray, List.size_toArray]
  induction es with
  | nil => rfl
  | cons e es ih =>
    simp only [List.countP_cons, List.length_cons, ← ih]
    cases e.level <;> simp <;> omega

/-- What a log tells of the events it was told.  They are kept without counting below zero; kept are
the last, at most as many as there is room for, and they are counted level by level. -/
structure Window (L : MemoryLog) (es : List LogEvent) : Prop where
  reached : es.foldlM log? empty = some L
  events_eq : L.events.toList = es.rtake capacity
  size_eq : L.size = min es.length capacity
  size_le : L.size ≤ capacity
  total_eq : L.summary.errors + L.summary.warnings + L.summary.infos + L.summary.details =
    L.summary.total

/-- **A log keeps the latest events.** -/
theorem latest_kept (es : List LogEvent) : (empty.logAll es).Window es := by
  have hlatest : (empty.logAll es).Latest es := latest_empty.logAll es
  exact {
    reached := foldlM_log? empty es
    events_eq := hlatest.toList_eq
    size_eq := hlatest.size_eq
    size_le := hlatest.size_eq ▸ Nat.min_le_right ..
    total_eq := total_summary _ }

end MemoryLog

end Lookahead
