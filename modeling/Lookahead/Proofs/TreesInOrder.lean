import Lookahead.Batch.Discovery
import Lookahead.Entries
import Lookahead.Proofs.JoinedPaths

/-!
# Trees in order

A tree in which no directory has two entries of one name holds the same files when it is put in
order, and then the entries of each directory are in strictly increasing order of their names.

* `FileNode.Proper`: trees as they are stored, with proper names, each once in a directory.
* `FileNode.get?_inOrder`: what is under a list of names in a tree in order.
* `FileNode.Proper.ordered`: the directories of a tree in order.
-/

namespace Lookahead

namespace FileNode

variable {P : List String → Prop} {n m : FileNode} {entries : List (String × FileNode)}

/-- The names of the entries of each directory of a tree have a property. -/
def EachListing (P : List String → Prop) (n : FileNode) : Prop :=
  ∀ names entries, n.get? names = some (.dir entries) → P (entries.map Prod.fst)

/-- A tree as it is stored: a directory has one entry of a name, and its entries have names that
entries can have. -/
def Proper : FileNode → Prop := EachListing fun names => names.Nodup ∧ ∀ s ∈ names, Path.IsName s

/-- A tree as it is walked over: the names of a directory's entries are in strict order. -/
def Ordered : FileNode → Prop :=
  EachListing fun names => names.Pairwise (· < ·) ∧ ∀ s ∈ names, Path.IsName s

theorem eachListing_file (content : FileContent) : (file content).EachListing P := by
  intro names entries h
  cases names <;> cases h

theorem find?_eq_some_iff (h : (entries.map Prod.fst).Nodup) {name : String} :
    find? name entries = some n ↔ (name, n) ∈ entries := lookup_eq_some_iff_of_nodup h

/-- A directory's tree has a property of its own names, and of those of all entries. -/
theorem eachListing_dir (hnames : P (entries.map Prod.fst))
    (hentries : ∀ e ∈ entries, e.2.EachListing P) : (dir entries).EachListing P := by
  rintro (_ | ⟨name, names⟩) below h
  · cases h
    exact hnames
  · obtain ⟨m, hm, hbelow⟩ := Option.bind_eq_some_iff.1 h
    obtain ⟨front, back, rfl, -⟩ := List.lookup_eq_some_iff.1 hm
    exact hentries _ (List.mem_append_right front List.mem_cons_self) names below hbelow

namespace EachListing

theorem here (h : (dir entries).EachListing P) : P (entries.map Prod.fst) := h [] entries rfl

theorem entry (h : (dir entries).EachListing P) (hnodup : (entries.map Prod.fst).Nodup)
    {e : String × FileNode} (he : e ∈ entries) : e.2.EachListing P := by
  intro names below hbelow
  refine h (e.1 :: names) below ?_
  rw [get?, (find?_eq_some_iff hnodup).2 he]
  exact hbelow

end EachListing

theorem Ordered.proper (h : n.Ordered) : n.Proper := fun names entries hget =>
  ⟨(h names entries hget).1.imp fun hlt => hlt.ne, (h names entries hget).2⟩

/-- The names that lead to something are names of entries. -/
theorem Proper.isName (h : n.Proper) {names : List String} (hget : n.get? names = some m) :
    ∀ s ∈ names, Path.IsName s := by
  induction names generalizing n with
  | nil => exact fun _ hs => absurd hs List.not_mem_nil
  | cons name names ih =>
    cases n with
    | file => cases hget
    | dir entries =>
      obtain ⟨hnodup, hnames⟩ := h.here
      obtain ⟨below, hbelow, hget⟩ := Option.bind_eq_some_iff.1 hget
      have he : (name, below) ∈ entries := (find?_eq_some_iff hnodup).1 hbelow
      refine List.forall_mem_cons.2 ⟨hnames _ (List.mem_map_of_mem he), ?_⟩
      exact ih (h.entry hnodup he) hget

/-! ### Putting a tree in order -/

theorem entriesInOrder_eq_map (entries : List (String × FileNode)) :
    entriesInOrder entries = entries.map fun e => (e.1, e.2.inOrder) := by
  induction entries with
  | nil => rfl
  | cons e entries ih => rw [entriesInOrder, ih, List.map_cons]

theorem map_fst_entriesInOrder (entries : List (String × FileNode)) :
    (entriesInOrder entries).map Prod.fst = entries.map Prod.fst := by
  rw [entriesInOrder_eq_map, List.map_map]
  rfl

theorem find?_inOrder (h : (entries.map Prod.fst).Nodup) (name : String) :
    find? name (byName (entriesInOrder entries)) = (find? name entries).map inOrder := by
  have h' : ((entriesInOrder entries).map Prod.fst).Nodup := map_fst_entriesInOrder entries ▸ h
  rw [find?, byName, lookup_eq_of_perm h' (List.mergeSort_perm _ _), entriesInOrder_eq_map,
    lookup_map_snd]
  rfl

/-- **A tree in order holds what the tree holds**, under the same names. -/
theorem get?_inOrder (h : n.Proper) (names : List String) :
    n.inOrder.get? names = (n.get? names).map inOrder := by
  induction names generalizing n with
  | nil => cases n <;> rfl
  | cons name names ih =>
    cases n with
    | file => rfl
    | dir entries =>
      obtain ⟨hnodup, -⟩ := h.here
      rw [inOrder, get?, get?, find?_inOrder hnodup]
      cases hfind : find? name entries with
      | none => rfl
      | some m => exact ih (h.entry hnodup ((find?_eq_some_iff hnodup).1 hfind))

/-- **The directories of a tree in order** are in strict order. -/
theorem Proper.ordered (h : n.Proper) : n.inOrder.Ordered := by
  intro names sorted hget
  rw [get?_inOrder h, Option.map_eq_some_iff] at hget
  obtain ⟨m, hm, hsorted⟩ := hget
  cases m with
  | file => cases hsorted
  | dir entries =>
    obtain ⟨hnodup, hnames⟩ := h names entries hm
    cases hsorted
    refine ⟨List.pairwise_map.2 ?_, fun s hs => hnames s ?_⟩
    · refine (pairwise_mergeSort_ne (fun d e f hde hef => ?_) (fun d e => ?_) ?_).imp ?_
      · exact decide_eq_true ((of_decide_eq_true hde).trans (of_decide_eq_true hef))
      · rw [Bool.or_eq_true, decide_eq_true_iff, decide_eq_true_iff]
        exact le_total _ _
      · rwa [map_fst_entriesInOrder]
      · exact fun ⟨hle, hne⟩ => lt_of_le_of_ne (of_decide_eq_true hle) hne
    · rw [← map_fst_entriesInOrder]
      exact ((List.mergeSort_perm _ _).map Prod.fst).mem_iff.1 hs

end FileNode

end Lookahead
