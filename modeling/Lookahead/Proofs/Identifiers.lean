import Lookahead.Entries
import Lookahead.Proofs.Scanning

/-!
# The identifiers of a scan

A table that is built by insertions lists its names in order, each once (`Scan.sorted_identifiersOf`),
and what it keeps of a name is told by the tokens of that name alone: the line of the first of them
and how many there are (`Scan.get?_identifiersOf`).
-/

namespace Lookahead

namespace IdentifierTable

/-- The names are in order, and no two are the same. -/
def Sorted (T : IdentifierTable) : Prop := T.names.Pairwise (· < ·)

theorem sorted_empty : empty.Sorted := .nil

theorem mem_insertInto {name other : String} {line : Nat} {es : List (String × IdentifierEntry)} :
    other ∈ (insertInto name line es).map Prod.fst ↔ other = name ∨ other ∈ es.map Prod.fst := by
  induction es with
  | nil => simp [insertInto]
  | cons p es ih =>
    rw [insertInto]
    split
    · next h => subst h; simp
    · split
      · simp
      · simp only [List.map_cons, List.mem_cons, ih]
        exact or_left_comm

theorem sorted_insert {T : IdentifierTable} (h : T.Sorted) (name : String) (line : Nat) :
    (T.insert name line).Sorted := by
  obtain ⟨es⟩ := T
  simp only [Sorted, names, insert] at h ⊢
  induction es with
  | nil => exact List.pairwise_singleton _ _
  | cons p es ih =>
    obtain ⟨other, e⟩ := p
    obtain ⟨hall, hes⟩ := List.pairwise_cons.1 h
    rw [insertInto]
    split
    · exact h
    · next hne =>
      split
      · next hlt =>
        refine List.pairwise_cons.2 ⟨fun x hx => ?_, h⟩
        rcases List.mem_cons.1 hx with rfl | hx
        · exact hlt
        · exact String.lt_trans hlt (hall x hx)
      · next hge =>
        refine List.pairwise_cons.2 ⟨fun x hx => ?_, ih hes⟩
        rcases mem_insertInto.1 hx with rfl | hx
        · exact Std.lt_of_le_of_ne (String.not_lt.1 hge) (Ne.symm hne)
        · exact hall x hx

/-- One more occurrence, on a line that counts if it is the first. -/
def again (line : Nat) : Option IdentifierEntry → IdentifierEntry
  | none => ⟨line, 1⟩
  | some e => ⟨e.firstLine, e.occurrences + 1⟩

theorem get?_insert {T : IdentifierTable} (h : T.Sorted) (name : String) (line : Nat)
    (other : String) : (T.insert name line).get? other =
      if other = name then some (again line (T.get? name)) else T.get? other := by
  obtain ⟨es⟩ := T
  simp only [Sorted, names, insert, get?] at h ⊢
  induction es with
  | nil => rw [insertInto, lookup_cons_eq]; rfl
  | cons p es ih =>
    obtain ⟨first, e⟩ := p
    obtain ⟨hall, hes⟩ := List.pairwise_cons.1 h
    rw [insertInto]
    split
    · next heq => subst heq; simp only [lookup_cons_eq, if_pos, again]; split <;> rfl
    · next hne =>
      split
      · next hlt =>
        -- all names of the table come behind the new one
        have hnone : List.lookup name ((first, e) :: es) = none := by
          refine List.lookup_eq_none_iff.2 fun q hq => bne_iff_ne.2 ?_
          rcases List.mem_cons.1 hq with rfl | hq
          · exact hne
          · rintro rfl
            exact String.lt_asymm hlt (hall _ (List.mem_map_of_mem hq))
        rw [hnone, lookup_cons_eq]
        rfl
      · rw [lookup_cons_eq, lookup_cons_eq, lookup_cons_eq, ih hes, if_neg hne]
        by_cases hother : other = first
        · rw [if_pos hother, if_neg (hother ▸ Ne.symm hne), if_pos hother]
        · rw [if_neg hother, if_neg hother]

end IdentifierTable

namespace Scan

open IdentifierTable

/-- The lines of the tokens that are the identifier. -/
def linesOf (name : String) (tokens : List Token) : List Nat :=
  (tokens.filter fun t => t.kind == .identifier && t.lexeme == name).map Token.line

/-- What is kept of an identifier that stands on these lines. -/
def entryOf? : List Nat → Option IdentifierEntry
  | [] => none
  | line :: lines => some ⟨line, lines.length + 1⟩

theorem entryOf?_concat (lines : List Nat) (line : Nat) :
    entryOf? (lines ++ [line]) = some (again line (entryOf? lines)) := by
  cases lines with
  | nil => rfl
  | cons l lines => simp [entryOf?, again]

theorem linesOf_cons (name : String) (t : Token) (ts : List Token) :
    linesOf name (t :: ts) =
      if t.kind = .identifier ∧ t.lexeme = name then t.line :: linesOf name ts
      else linesOf name ts := by
  rw [linesOf, List.filter_cons]
  by_cases h : t.kind = .identifier ∧ t.lexeme = name
  · simp [h, linesOf]
  · rw [if_neg h, if_neg]
    · rfl
    · simpa using h

/-- A table that keeps what the lines tell does so for more tokens, too. -/
theorem foldl_insert (tokens : List Token) (lines : String → List Nat) {T : IdentifierTable}
    (h : T.Sorted) (hT : ∀ name, T.get? name = entryOf? (lines name)) :
    let U := tokens.foldl
      (fun T t => if t.kind = .identifier then T.insert t.lexeme t.line else T) T
    U.Sorted ∧ ∀ name, U.get? name = entryOf? (lines name ++ linesOf name tokens) := by
  -- Induction on the tokens, over all tables and what the lines tell of them.
  induction tokens generalizing T lines with
  | nil => exact ⟨h, fun name => by simpa [linesOf] using hT name⟩
  | cons t ts ih =>
    rw [List.foldl_cons]
    by_cases hkind : t.kind = .identifier
    · rw [if_pos hkind]
      have hnew : ∀ name, (T.insert t.lexeme t.line).get? name =
          entryOf? (if t.lexeme = name then lines name ++ [t.line] else lines name) := fun name => by
        rw [get?_insert h]
        by_cases hname : t.lexeme = name
        · rw [if_pos hname.symm, if_pos hname, hname, hT, entryOf?_concat]
        · rw [if_neg (Ne.symm hname), if_neg hname, hT]
      obtain ⟨hsorted, hget⟩ := ih _ (sorted_insert h _ _) hnew
      refine ⟨hsorted, fun name => ?_⟩
      rw [hget, linesOf_cons]
      by_cases hname : t.lexeme = name <;> simp [hkind, hname]
    · rw [if_neg hkind]
      obtain ⟨hsorted, hget⟩ := ih lines h hT
      refine ⟨hsorted, fun name => ?_⟩
      rw [hget, linesOf_cons, if_neg fun hboth => hkind hboth.1]

/-- The names of a scan are in order, each once. -/
theorem sorted_identifiersOf (tokens : List Token) : (identifiersOf tokens).Sorted :=
  (foldl_insert tokens (fun _ => []) sorted_empty fun _ => rfl).1

/-- **What is kept of a name**: the line of its first token and how many tokens there are. -/
theorem get?_identifiersOf (tokens : List Token) (name : String) :
    (identifiersOf tokens).get? name = entryOf? (linesOf name tokens) :=
  (foldl_insert tokens (fun _ => []) sorted_empty fun _ => rfl).2 name

/-- The names of a scan are the lexemes of its identifiers. -/
theorem mem_names_iff (tokens : List Token) (name : String) :
    name ∈ (identifiersOf tokens).names ↔ ∃ t ∈ tokens, t.kind = .identifier ∧ t.lexeme = name := by
  have hnames : name ∈ (identifiersOf tokens).names ↔ (identifiersOf tokens).get? name ≠ none := by
    rw [IdentifierTable.get?, ne_eq, List.lookup_eq_none_iff, names, List.mem_map]
    refine ⟨fun ⟨p, hp, heq⟩ hall => bne_iff_ne.1 (hall p hp) heq.symm, fun h => ?_⟩
    exact Classical.byContradiction fun hno =>
      h fun p hp => bne_iff_ne.2 fun heq => hno ⟨p, hp, heq.symm⟩
  have hlines : entryOf? (linesOf name tokens) = none ↔ linesOf name tokens = [] := by
    cases linesOf name tokens <;> simp [entryOf?]
  rw [hnames, get?_identifiersOf, ne_eq, hlines]
  simp [linesOf, List.filter_eq_nil_iff]

/-- The names that a text leaves in the table are the lexemes of its identifiers. -/
theorem mem_names_ofChars {detailed : Bool} {cs : List Char} {name : String} :
    name ∈ (ofChars detailed cs).identifiers.names ↔
      ∃ t ∈ (ofChars detailed cs).tokens, t.kind = .identifier ∧ t.lexeme = name := by
  rw [identifiers_ofChars, mem_names_iff]

end Scan

end Lookahead
