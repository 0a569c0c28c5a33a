/-!
# Entries under keys

Entries are pairs of a key and what stands under it.  If no two entries have one key, what is found
under a key does not depend on the order of the entries, and sorting them by key is strict.
-/

namespace Lookahead

variable {α β : Type}

/-- The first entry is found under its key. -/
theorem lookup_cons_eq [DecidableEq α] (a k : α) (b : β) (entries : List (α × β)) :
    List.lookup a ((k, b) :: entries) = if a = k then some b else entries.lookup a := by
  rw [List.lookup_cons]
  by_cases h : a = k
  · simp [h]
  · rw [beq_eq_false_iff_ne.2 h, if_neg h]

/-- An entry is found under its key if there is no other of that key. -/
theorem lookup_eq_some_iff_of_nodup [BEq α] [LawfulBEq α] {entries : List (α × β)}
    (h : (entries.map Prod.fst).Nodup) {a : α} {b : β} :
    entries.lookup a = some b ↔ (a, b) ∈ entries := by
  rw [List.lookup_eq_some_iff]
  constructor
  · rintro ⟨front, back, rfl, -⟩
    exact List.mem_append_right front List.mem_cons_self
  · intro hc
    obtain ⟨front, back, rfl⟩ := List.append_of_mem hc
    refine ⟨front, back, rfl, fun e he => bne_iff_ne.2 ?_⟩
    rw [List.map_append, List.nodup_append] at h
    exact (h.2.2 e.1 (List.mem_map_of_mem he) a List.mem_cons_self).symm

/-- The same is found whatever the order of the entries. -/
theorem lookup_eq_of_perm [BEq α] [LawfulBEq α] {entries others : List (α × β)}
    (h : (entries.map Prod.fst).Nodup) (hperm : others.Perm entries) (a : α) :
    others.lookup a = entries.lookup a := by
  have h' : (others.map Prod.fst).Nodup := (hperm.map Prod.fst).nodup_iff.2 h
  refine Option.ext fun b => ?_
  rw [lookup_eq_some_iff_of_nodup h', lookup_eq_some_iff_of_nodup h]
  exact hperm.mem_iff

/-- What is under a key does not matter for where it is found. -/
theorem lookup_map_snd [BEq α] {γ : Type} (f : β → γ) (entries : List (α × β)) (a : α) :
    (entries.map fun e => (e.1, f e.2)).lookup a = (entries.lookup a).map f := by
  induction entries with
  | nil => rfl
  | cons e entries ih =>
    rw [List.map_cons, List.lookup_cons, List.lookup_cons, ih]
    cases a == e.1 <;> rfl

/-- No two entries of a sorted list have one key if no two did before. -/
theorem pairwise_mergeSort_ne {le : α × β → α × β → Bool}
    (htrans : ∀ d e f, le d e = true → le e f = true → le d f = true)
    (htotal : ∀ d e, (le d e || le e d) = true) {entries : List (α × β)}
    (h : (entries.map Prod.fst).Nodup) :
    (entries.mergeSort le).Pairwise fun d e => le d e = true ∧ d.1 ≠ e.1 :=
  (List.pairwise_mergeSort htrans htotal entries).and
    (List.pairwise_map.1 (((List.mergeSort_perm entries le).map Prod.fst).nodup_iff.2 h))

end Lookahead
