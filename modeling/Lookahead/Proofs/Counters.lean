import Lookahead.Proofs.Places
import Lookahead.Proofs.Slices
import Mathlib.Data.List.DropRight

/-!
# Lines and columns counted

The position behind a text is the one that a reader counts: its bytes, its newlines, and the
characters behind the last of them (`Position.Ends`).  A program that counts lines and columns in 32
bits has the same ones, as long as the text is short enough (`Counters.Count`).

* `Position.column_after`: columns count from the last newline.
* `Counters.shows_after`: 32 bits hold the line and the column of what is short enough.
-/

namespace Lookahead

/-! ### Lines and columns -/

namespace Position

/-- **Columns count from the last newline.** -/
theorem column_after (cs : List Char) :
    (start.after cs).column = 1 + (cs.rtakeWhile (· != '\n')).length := by
  induction cs using List.reverseRecOn with
  | nil => rfl
  | append_singleton cs c ih =>
    rw [after_append, after_cons, after_nil, step]
    by_cases hc : c = '\n'
    · simp [hc]
    · simp [hc, ih, Nat.add_assoc]

/-- What stays on a line takes a column for each character. -/
theorem column_after_of_line_eq {p : Position} {cs : List Char} (h : (p.after cs).line = p.line) :
    (p.after cs).column = p.column + cs.length := by
  rw [line_after, Nat.add_eq_left, List.count_eq_zero] at h
  induction cs generalizing p with
  | nil => rfl
  | cons c cs ih =>
    obtain ⟨hc, hcs⟩ := not_or.1 (List.mem_cons.not.1 h)
    rw [after_cons, ih hcs, step, if_neg (Ne.symm hc), List.length_cons]
    exact Nat.add_right_comm ..

theorem line_le (cs : List Char) : (start.after cs).line ≤ 1 + cs.length := by
  rw [line_after]
  exact Nat.add_le_add_left List.count_le_length 1

theorem column_le (cs : List Char) : (start.after cs).column ≤ 1 + cs.length := by
  rw [column_after]
  exact Nat.add_le_add_left (cs.rtakeWhile_suffix _).length_le 1

/-- The position is where a text ends: its offset counts the bytes, its line the newlines, and its
column the characters behind the last newline, or all if there is none. -/
structure Ends (p : Position) (before : String) : Prop where
  offset_eq : p.offset = before.utf8ByteSize
  line_eq : p.line = 1 + before.toList.count '\n'
  column_eq : p.column = 1 + (before.toList.rtakeWhile (· != '\n')).length

theorem ends_after (before : String) : (start.after before.toList).Ends before where
  offset_eq := by
    rw [offset_after, utf8ByteSize_eq]
    exact Nat.zero_add _
  line_eq := line_after start _
  column_eq := column_after _

end Position

/-! ### Counters of 32 bits -/

/-- A line and a column in 32 bits each. -/
structure Counters where
  line : UInt32
  column : UInt32
deriving DecidableEq, Repr

namespace Counters

/-- At the beginning of a text. -/
def start : Counters := ⟨1, 1⟩

/-- Behind a character, as positions are (`Position.step`), but that the counters overflow. -/
def step (n : Counters) (c : Char) : Counters :=
  if c = '\n' then ⟨n.line + 1, 1⟩ else ⟨n.line, n.column + 1⟩

/-- Behind a text. -/
def after (n : Counters) (cs : List Char) : Counters := cs.foldl step n

/-- The counters hold the line and the column of the position. -/
def Shows (n : Counters) (p : Position) : Prop :=
  n.line.toNat = p.line ∧ n.column.toNat = p.column

theorem shows_step {n : Counters} {p : Position} (h : n.Shows p) (c : Char)
    (hline : p.line + 1 < UInt32.size) (hcolumn : p.column + 1 < UInt32.size) :
    (n.step c).Shows (p.step c) := by
  obtain ⟨hl, hc⟩ := h
  rw [step, Position.step]
  split
  · exact ⟨by rw [UInt32.toNat_add, hl]; exact Nat.mod_eq_of_lt hline, rfl⟩
  · exact ⟨hl, by rw [UInt32.toNat_add, hc]; exact Nat.mod_eq_of_lt hcolumn⟩

/-- **32 bits are enough** for a text of fewer characters than they count. -/
theorem shows_after (cs : List Char) (h : 1 + cs.length < UInt32.size) :
    (start.after cs).Shows (Position.start.after cs) := by
  induction cs using List.reverseRecOn with
  | nil => exact ⟨rfl, rfl⟩
  | append_singleton cs c ih =>
    rw [List.length_append, List.length_singleton] at h
    have hline := Position.line_le cs
    have hcolumn := Position.column_le cs
    rw [Position.after_append, after, List.foldl_append]
    exact shows_step (ih (by omega)) c (by omega) (by omega)

/-- Along the whole of a source the counters hold what a reader counts: behind every front part of
it they show the position where that ends. -/
def Count (source : String) : Prop :=
  ∀ (before behind : String) (p : Position), source = before ++ behind → p.Ends before →
    (start.after before.toList).Shows p

theorem count_of_lt {source : String} (h : source.utf8ByteSize + 1 < UInt32.size) :
    Count source := by
  intro before behind p hsource hp
  have hlength := length_le_byteCount before.toList
  rw [hsource, String.utf8ByteSize_append, utf8ByteSize_eq before] at h
  have hends := Position.ends_after before
  obtain ⟨hline, hcolumn⟩ := shows_after before.toList (by omega)
  exact ⟨hline.trans (hends.line_eq.trans hp.line_eq.symm),
    hcolumn.trans (hends.column_eq.trans hp.column_eq.symm)⟩

end Counters

end Lookahead
