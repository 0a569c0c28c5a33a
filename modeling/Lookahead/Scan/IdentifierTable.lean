import Lookahead.Text.Json

/-!
# Identifier tables

The identifiers of a source, each once, in the order of their code points, with the line it is first
seen on and how often it occurs.

* `occurrences_insert`: an insertion counts one occurrence.
-/

namespace Lookahead

/-- What is kept of an identifier. -/
structure IdentifierEntry where
  firstLine : Nat
  occurrences : Nat
deriving DecidableEq, Repr

/-- Identifiers in order, with their entries. -/
structure IdentifierTable where
  entries : List (String × IdentifierEntry)
deriving DecidableEq, Repr

namespace IdentifierTable

/-- No identifiers. -/
def empty : IdentifierTable := ⟨[]⟩

/-- Count one occurrence among sorted entries. -/
def insertInto (name : String) (line : Nat) :
    List (String × IdentifierEntry) → List (String × IdentifierEntry)
  | [] => [(name, ⟨line, 1⟩)]
  | (other, e) :: rest =>
    if name = other then (other, ⟨e.firstLine, e.occurrences + 1⟩) :: rest
    else if name < other then (name, ⟨line, 1⟩) :: (other, e) :: rest
    else (other, e) :: insertInto name line rest

/-- Count one occurrence of a name; the line is kept if it is the first. -/
def insert (T : IdentifierTable) (name : String) (line : Nat) : IdentifierTable :=
  ⟨insertInto name line T.entries⟩

/-- The entry of a name. -/
def get? (T : IdentifierTable) (name : String) : Option IdentifierEntry :=
  T.entries.lookup name

/-- The name is in the table. -/
def contains (T : IdentifierTable) (name : String) : Bool := (T.get? name).isSome

/-- The names in order. -/
def names (T : IdentifierTable) : List String := T.entries.map Prod.fst

/-- The number of names. -/
def size (T : IdentifierTable) : Nat := T.entries.length

/-- The number of occurrences of all names. -/
def occurrences (T : IdentifierTable) : Nat :=
  T.entries.foldr (fun e n => e.2.occurrences + n) 0

/-- The table as an object, a field a name. -/
def toJson (T : IdentifierTable) : Json :=
  .obj (T.entries.map fun (name, e) =>
    (name, .obj [("first_line", e.firstLine), ("occurrences", e.occurrences)]))

theorem occurrences_insert (T : IdentifierTable) (name : String) (line : Nat) :
    (T.insert name line).occurrences = T.occurrences + 1 := by
  obtain ⟨es⟩ := T
  simp only [insert, occurrences]
  induction es with
  | nil => rfl
  | cons p es ih =>
    obtain ⟨other, e⟩ := p
    rw [insertInto]
    split
    · simp; omega
    · split
      · simp; omega
      · simp [ih]; omega

end IdentifierTable

end Lookahead
