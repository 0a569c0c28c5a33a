/-!
# Shares

How the files of a batch are shared out.  They are worked on in rounds of consecutive files, and the
files of a round are cut into one share a worker, so that every file has one place in the plan and
keeps the number it has in the whole list.

* `Share.numbered_rounds`: whatever the number of workers, the plan holds every item once, in order
  and under its own number.
-/

namespace Lookahead

/-- A list cut into pieces of `n`, but for the last one, which may be shorter. -/
def cutInto {α : Type} (n : Nat) (as : List α) : List (List α) :=
  if _ : n = 0 ∨ as = [] then [] else as.take n :: cutInto n (as.drop n)
termination_by as.length
decreasing_by
  rename_i h
  have : 0 < as.length := List.length_pos_iff.2 fun e => h (.inr e)
  simp only [List.length_drop]
  omega

theorem ne_nil_of_mem_cutInto {α : Type} {n : Nat} {as piece : List α}
    (h : piece ∈ cutInto n as) : piece ≠ [] := by
  fun_induction cutInto n as with
  | case1 => cases h
  | case2 as hne ih =>
    rcases List.mem_cons.1 h with rfl | h
    · rwa [Ne, List.take_eq_nil_iff]
    · exact ih h

/-- The least number of pieces of `n` that hold `count`. -/
def piecesOf (count n : Nat) : Nat := (count + n - 1) / n

/-- Consecutive files of a batch, and the number of the first of them. -/
structure Share (α : Type) where
  first : Nat
  items : List α
deriving Repr

namespace Share

/-- The items with their numbers. -/
def numbered {α : Type} (s : Share α) : List (α × Nat) := s.items.zipIdx s.first

/-- The share cut into shares of `n`. -/
def cut {α : Type} (n : Nat) (s : Share α) : List (Share α) :=
  (cutInto n s.items).mapIdx fun i items => ⟨s.first + i * n, items⟩

/-- The most files of a round. -/
def roundLimit : Nat := 50

/-- The number of files of a round. -/
def roundSize (count threads : Nat) : Nat := max 1 (min (piecesOf count threads) roundLimit)

/-- The shares of a round among workers. -/
def amongWorkers {α : Type} (threads : Nat) (round : Share α) : List (Share α) :=
  round.cut (piecesOf round.items.length threads)

/-- The rounds of a list of items, each as the shares of its workers. -/
def rounds {α : Type} (threads : Nat) (items : List α) : List (List (Share α)) :=
  ((Share.mk 0 items).cut (roundSize items.length threads)).map (amongWorkers threads)

/-! ### Every item once, under its own number -/

theorem zipIdx_take_append_drop {α : Type} (as : List α) (n first : Nat) :
    (as.take n).zipIdx first ++ (as.drop n).zipIdx (first + n) = as.zipIdx first := by
  by_cases h : n ≤ as.length
  · conv => rhs; rw [← List.take_append_drop n as, List.zipIdx_append]
    rw [List.length_take, Nat.min_eq_left h]
  · rw [List.drop_eq_nil_of_le (by omega), List.take_of_length_le (by omega)]
    simp

theorem numbered_cut {α : Type} {n : Nat} (hn : n ≠ 0) (s : Share α) :
    (s.cut n).flatMap numbered = s.numbered := by
  obtain ⟨first, items⟩ := s
  simp only [cut, numbered]
  fun_induction cutInto n items generalizing first with
  | case1 as h => simp [h.resolve_left hn]
  | case2 as h ih =>
    have later : (fun i items => (⟨first + (i + 1) * n, items⟩ : Share α)) =
        fun i items => ⟨first + n + i * n, items⟩ := by
      funext i items; rw [Nat.add_mul, Nat.one_mul, Nat.add_right_comm, Nat.add_assoc]
    rw [List.mapIdx_cons, List.flatMap_cons, later, ih]
    simpa [numbered] using zipIdx_take_append_drop as n first

theorem items_ne_nil_of_mem_cut {α : Type} {n : Nat} {s share : Share α} (h : share ∈ s.cut n) :
    share.items ≠ [] := by
  obtain ⟨i, hi, rfl⟩ := List.mem_mapIdx.1 h
  exact ne_nil_of_mem_cutInto (List.getElem_mem hi)

theorem piecesOf_pos {count threads : Nat} (h : 0 < threads) (hcount : 0 < count) :
    0 < piecesOf count threads := Nat.div_pos (by omega) h

theorem numbered_amongWorkers {α : Type} {threads : Nat} (h : 0 < threads) (round : Share α) :
    (amongWorkers threads round).flatMap numbered = round.numbered := by
  by_cases he : round.items = []
  · simp [amongWorkers, cut, numbered, he, cutInto]
  · exact numbered_cut (Nat.ne_of_gt (piecesOf_pos h (List.length_pos_iff.2 he))) round

theorem numbered_rounds {α : Type} {threads : Nat} (h : 0 < threads) (items : List α) :
    (rounds threads items).flatten.flatMap numbered = items.zipIdx := by
  have hr : roundSize items.length threads ≠ 0 := by simp only [roundSize]; omega
  rw [rounds, List.flatten_eq_flatMap, List.flatMap_map, List.flatMap_assoc]
  simp only [id, numbered_amongWorkers h]
  exact numbered_cut hr _

end Share

end Lookahead
