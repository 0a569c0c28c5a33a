import Lookahead.Text.Blank

/-!
# Lines

A newline ends a line, and a carriage return right before it belongs to the line end.  Text behind
the last newline is a line of its own; nothing behind it is none.

* `length_lines`: counting the lines without building them gives the number of lines.
-/

namespace Lookahead.Text

/-- A line without the one carriage return that belonged to its end. -/
def dropReturn (line : List Char) : List Char :=
  if line.getLast? = some '\r' then line.dropLast else line

/-- The lines of a text, behind those of `done`, which are latest first. -/
def linesFrom (done : List (List Char)) (cs : List Char) : List (List Char) :=
  if _ : '\n' ∈ cs then
    linesFrom (dropReturn (cs.takeWhile (· != '\n')) :: done) (cs.dropWhile (· != '\n')).tail
  else (if cs.isEmpty then done else cs :: done).reverse
termination_by cs.length
decreasing_by
  have : (cs.dropWhile (· != '\n')).length ≤ cs.length := (List.dropWhile_sublist _).length_le
  have : 0 < cs.length := List.length_pos_of_mem ‹_›
  simp; omega

/-- The lines of a text. -/
def lines (cs : List Char) : List (List Char) := linesFrom [] cs

/-- Lines ended so far, and whether another has begun. -/
def countLine (s : Nat × Bool) (c : Char) : Nat × Bool :=
  if c = '\n' then (s.1 + 1, false) else (s.1, true)

/-- The number of lines of a text. -/
def lineCount (cs : List Char) : Nat :=
  let (ended, begun) := cs.foldl countLine (0, false)
  if begun then ended + 1 else ended

theorem foldl_countLine_of_ne {cs : List Char} (h : '\n' ∉ cs) (n : Nat) (b : Bool) :
    cs.foldl countLine (n, b) = (n, b || !cs.isEmpty) := by
  induction cs generalizing b with
  | nil => simp
  | cons c cs ih =>
    rw [List.mem_cons, not_or] at h
    simp [countLine, Ne.symm h.1, ih h.2]

/-- Counting from a later line on counts as many more. -/
theorem foldl_countLine_succ (cs : List Char) (n : Nat) (b : Bool) :
    cs.foldl countLine (n + 1, b) =
      ((cs.foldl countLine (n, b)).1 + 1, (cs.foldl countLine (n, b)).2) := by
  induction cs generalizing n b with
  | nil => rfl
  | cons c cs ih => by_cases hc : c = '\n' <;> simp [countLine, hc, ih]

theorem lineCount_append_newline {line : List Char} (h : '\n' ∉ line) (rest : List Char) :
    lineCount (line ++ '\n' :: rest) = lineCount rest + 1 := by
  simp only [lineCount, List.foldl_append, List.foldl_cons, foldl_countLine_of_ne h]
  simp only [countLine, foldl_countLine_succ, ite_true]
  split <;> rfl

theorem newline_not_mem_takeWhile (cs : List Char) : '\n' ∉ cs.takeWhile (· != '\n') := fun h => by
  simpa using List.all_eq_true.1 List.all_takeWhile _ h

/-- A text with a newline is its first line, the newline and the rest. -/
theorem eq_append_newline {cs : List Char} (h : '\n' ∈ cs) :
    cs = cs.takeWhile (· != '\n') ++ '\n' :: (cs.dropWhile (· != '\n')).tail := by
  induction cs with
  | nil => simp at h
  | cons c cs ih =>
    by_cases hc : c = '\n'
    · simp [hc]
    · rw [List.mem_cons] at h
      have := ih (h.resolve_left (Ne.symm hc))
      simp [hc]; exact this

theorem length_linesFrom (done : List (List Char)) (cs : List Char) :
    (linesFrom done cs).length = done.length + lineCount cs := by
  fun_induction linesFrom done cs with
  | case1 done cs h ih =>
    rw [ih, eq_append_newline h, lineCount_append_newline (newline_not_mem_takeWhile cs),
      ← eq_append_newline h]
    simp; omega
  | case2 done cs h =>
    rw [lineCount, foldl_countLine_of_ne h]
    cases cs <;> simp

theorem length_lines (cs : List Char) : (lines cs).length = lineCount cs := by
  simp [lines, length_linesFrom]

end Lookahead.Text
