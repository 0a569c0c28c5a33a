import Lookahead.Proofs.FilesWritten
import Lookahead.Proofs.PathOrder

/-!
# Joined paths

The path of an entry of a directory has one part more than the directory's, the name of the entry.
So paths below two entries of a directory are in the order of the names of the entries.

* `Path.parts_join`, `Path.parts_foldl_join`: the parts of a path joined with names.
* `Path.lt_of_parts`: the order of paths that part at a name.
-/

namespace Lookahead

namespace Path

/-- A name that an entry of a directory can have. -/
structure IsName (s : String) : Prop where
  ne_empty : s ≠ ""
  ne_here : s ≠ "."
  ne_parent : s ≠ ".."
  no_slash : '/' ∉ s.toList

instance (s : String) : Decidable (IsName s) :=
  decidable_of_iff (s ≠ "" ∧ s ≠ "." ∧ s ≠ ".." ∧ '/' ∉ s.toList)
    ⟨fun ⟨h₁, h₂, h₃, h₄⟩ => ⟨h₁, h₂, h₃, h₄⟩, fun ⟨h₁, h₂, h₃, h₄⟩ => ⟨h₁, h₂, h₃, h₄⟩⟩

theorem IsName.part?_eq {s : String} (h : IsName s) : part? s = some (.name s) := by
  simp [part?, h.ne_empty, h.ne_here, h.ne_parent]

/-! ### Segments -/

theorem splitFrom_done (sep : Char) (cs piece : List Char) (done : List (List Char)) :
    splitFrom piece done sep cs = done.reverse ++ splitFrom piece [] sep cs := by
  induction cs generalizing piece done with
  | nil => simp [splitFrom]
  | cons c cs ih =>
    rw [splitFrom, splitFrom]
    split
    · rw [ih, ih [] [piece.reverse], List.reverse_cons, List.append_assoc]
      rfl
    · exact ih _ _

/-- A separator cuts a list in two, each of which is cut for itself. -/
theorem splitFrom_append_sep (sep : Char) (cs ds piece : List Char) (done : List (List Char)) :
    splitFrom piece done sep (cs ++ sep :: ds) =
      splitFrom piece done sep cs ++ splitFrom [] [] sep ds := by
  induction cs generalizing piece done with
  | nil => rw [List.nil_append, splitFrom, splitFrom, if_pos rfl, splitFrom_done]
  | cons c cs ih =>
    rw [List.cons_append, splitFrom, splitFrom]
    split
    · exact ih _ _
    · exact ih _ _

theorem splitFrom_of_not_mem {sep : Char} {cs : List Char} (h : sep ∉ cs) (piece : List Char)
    (done : List (List Char)) :
    splitFrom piece done sep cs = ((piece.reverse ++ cs) :: done).reverse := by
  induction cs generalizing piece with
  | nil => rw [splitFrom, List.append_nil]
  | cons c cs ih =>
    obtain ⟨hc, hcs⟩ := not_or.1 (mt List.mem_cons.2 h)
    rw [splitFrom, if_neg (Ne.symm hc), ih hcs]
    simp

theorem segments_append_slash (p q : Path) :
    segments (p ++ "/" ++ q) = p.segments ++ q.segments := by
  have h : (p ++ "/" ++ q).toList = p.toList ++ '/' :: q.toList := by simp
  rw [segments, h, splitFrom_append_sep, List.map_append]
  rfl

theorem IsName.segments_eq {s : String} (h : IsName s) : segments s = [s] := by
  rw [segments, splitFrom_of_not_mem h.no_slash]
  simp

variable {dir : Path} {name : String}

/-- A path has one segment more for a name, whether or not there is a slash in front of it. -/
theorem exists_segments_join (hdir : dir ≠ "") (hname : IsName name) :
    ∃ base : Path, (dir.join name).segments = base.segments ++ [name] ∧
      (dir.segments = base.segments ∨ dir.segments = base.segments ++ [""]) := by
  rw [join, if_neg (by simpa using hdir)]
  split
  · next h =>
    obtain ⟨cs, hcs⟩ := List.getLast?_eq_some_iff.1 (eq_of_beq h)
    have hbase : dir = String.ofList cs ++ "/" := String.toList_injective (by simp [hcs])
    refine ⟨String.ofList cs, ?_, .inr ?_⟩
    · rw [hbase, segments_append_slash, hname.segments_eq]
    · rw [hbase, ← String.append_empty (s := String.ofList cs ++ "/"), segments_append_slash]
      rfl
  · exact ⟨dir, by rw [segments_append_slash, hname.segments_eq], .inl rfl⟩

theorem exists_toList_join (hdir : dir ≠ "") (name : String) :
    ∃ cs, (dir.join name).toList = dir.toList ++ cs := by
  rw [join, if_neg (by simpa using hdir)]
  split
  · exact ⟨name.toList, String.toList_append⟩
  · exact ⟨'/' :: name.toList, by simp⟩

theorem isAbsolute_join (hdir : dir ≠ "") (name : String) :
    (dir.join name).isAbsolute = dir.isAbsolute := by
  obtain ⟨cs, hcs⟩ := exists_toList_join hdir name
  have hne : dir.toList ≠ [] := fun h => hdir (String.toList_injective h)
  rw [isAbsolute, isAbsolute, hcs, List.head?_append_of_ne_nil _ hne]

/-! ### Parts -/

/-- **The path of an entry** has the parts of the directory, and the name. -/
theorem parts_join (hdir : dir ≠ "") (hname : IsName name) :
    (dir.join name).parts = dir.parts ++ [.name name] := by
  obtain ⟨base, hjoin, hbase⟩ := exists_segments_join hdir hname
  have hhead : (dir.join name).segments.head? = dir.segments.head? := by
    rw [hjoin, List.head?_append_of_ne_nil _ base.segments_ne_nil]
    rcases hbase with h | h
    · rw [h]
    · rw [h, List.head?_append_of_ne_nil _ base.segments_ne_nil]
  have hnames : (dir.join name).segments.filterMap part? =
      dir.segments.filterMap part? ++ [.name name] := by
    have hone : [name].filterMap part? = [.name name] := List.filterMap_cons_some hname.part?_eq
    rw [hjoin, List.filterMap_append, hone]
    rcases hbase with h | h
    · rw [h]
    · rw [h, List.filterMap_append]
      simp [part?]
  rw [parts, parts, isAbsolute_join hdir, hhead, hnames]
  split
  · rfl
  · split <;> rfl

theorem join_ne_empty (hdir : dir ≠ "") (name : String) : dir.join name ≠ "" := by
  intro h
  obtain ⟨cs, hcs⟩ := exists_toList_join hdir name
  rw [h] at hcs
  exact hdir (String.toList_injective (List.append_eq_nil_iff.1 hcs.symm).1)

/-- **The path of what is below a directory** has the parts of the directory, and the names that
lead there. -/
theorem parts_foldl_join (hdir : dir ≠ "") {names : List String} (hnames : ∀ s ∈ names, IsName s) :
    (names.foldl join dir).parts = dir.parts ++ names.map .name := by
  induction names generalizing dir with
  | nil => exact (List.append_nil _).symm
  | cons name names ih =>
    obtain ⟨hname, hnames⟩ := List.forall_mem_cons.1 hnames
    rw [List.foldl_cons, ih (join_ne_empty hdir name) hnames, parts_join hdir hname,
      List.append_assoc]
    rfl

/-- A path is not longer than the path of what is below it. -/
theorem size_le_foldl_join (p : Path) (names : List String) :
    p.utf8ByteSize ≤ (names.foldl join p).utf8ByteSize := by
  induction names generalizing p with
  | nil => exact Nat.le_refl _
  | cons name names ih =>
    refine Nat.le_trans ?_ (ih (p.join name))
    rw [join]
    split
    · next h => simp [eq_of_beq h]
    · split
      · simp
      · simp only [String.utf8ByteSize_append]
        omega

/-! ### Order -/

/-- Paths that have the same parts up to names in order are in order. -/
theorem lt_of_parts {p q : Path} {front : List Part} {s t : String} {ps qs : List Part}
    (hp : p.parts = front ++ .name s :: ps) (hq : q.parts = front ++ .name t :: qs) (h : s < t) :
    p.lt q = true := by
  rw [lt, hp, hq]
  clear hp hq
  induction front with
  | nil => simp [partsLt, Part.lt, h]
  | cons part front ih => simp [partsLt, ih]

/-- The files in a directory come before a file whose name begins with the directory's. -/
example : lt "src/a/z.txt" "src/a.java" = true := by decide +kernel

theorem le_of_lt {p q : Path} (h : p.lt q = true) : p.le q = true := by
  rw [lt, partsLt_iff] at h
  exact (le_iff p q).2 h.le

end Path

end Lookahead
