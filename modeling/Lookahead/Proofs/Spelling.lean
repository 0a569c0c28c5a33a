import Lookahead.Grammar.Derivation

/-!
# Spelling

A sequence of symbols *spells* a text when it derives it from the left: a terminal in front is the
first of the text, a non-terminal in front is replaced by a body it has.  Spelling is derivation
(`spells_iff_derives`), in the order in which a predictive machine works.

What the non-terminals may begin with, and which of them may vanish, is a `Starts`.  One that is
closed under the rules is right about all that is spelled (`Starts.Closed.mem_firsts`).
-/

namespace Lookahead

/-- The sequence derives the text, from left to right. -/
inductive Spells (rules : List Rule) : List Symbol → List Terminal → Prop where
  | nil : Spells rules [] []
  | read {s : List Symbol} {w : List Terminal} (a : Terminal) (h : Spells rules s w) :
      Spells rules (.terminal a :: s) (a :: w)
  | expand {r : Rule} {s : List Symbol} {w : List Terminal} (hr : r ∈ rules)
      (h : Spells rules (r.body ++ s) w) : Spells rules (.nonTerminal r.lhs :: s) w

namespace Spells

variable {rules : List Rule} {s t : List Symbol} {w v : List Terminal}

/-- A text in a row with another is spelled by the sequences in a row. -/
theorem append (h : Spells rules s w) (k : Spells rules t v) : Spells rules (s ++ t) (w ++ v) := by
  induction h with
  | nil => exact k
  | read a _ ih => exact .read a ih
  | expand hr _ ih =>
    rw [List.append_assoc] at ih
    exact .expand hr ih

/-- A text spelled by two sequences in a row is cut where the first ends. -/
theorem split (h : Spells rules (s ++ t) w) :
    ∃ w₁ w₂, w = w₁ ++ w₂ ∧ Spells rules s w₁ ∧ Spells rules t w₂ := by
  generalize hst : s ++ t = u at h
  induction h generalizing s with
  | nil =>
    obtain ⟨rfl, rfl⟩ := List.append_eq_nil_iff.1 hst
    exact ⟨[], [], rfl, .nil, .nil⟩
  | @read u w a h ih =>
    rcases List.append_eq_cons_iff.1 hst with ⟨rfl, rfl⟩ | ⟨s', rfl, rfl⟩
    · exact ⟨[], a :: w, rfl, .nil, .read a h⟩
    · obtain ⟨w₁, w₂, rfl, h₁, h₂⟩ := ih rfl
      exact ⟨a :: w₁, w₂, rfl, .read a h₁, h₂⟩
  | @expand r u w hr h ih =>
    rcases List.append_eq_cons_iff.1 hst with ⟨rfl, rfl⟩ | ⟨s', rfl, rfl⟩
    · exact ⟨[], w, rfl, .nil, .expand hr h⟩
    · obtain ⟨w₁, w₂, rfl, h₁, h₂⟩ := ih (List.append_assoc ..)
      exact ⟨w₁, w₂, rfl, .expand hr h₁, h₂⟩

/-- What stands behind may be replaced by what spells all that it spells. -/
theorem back {t' : List Symbol} (ht : ∀ v, Spells rules t v → Spells rules t' v)
    (h : Spells rules (s ++ t) w) : Spells rules (s ++ t') w := by
  obtain ⟨w₁, w₂, rfl, h₁, h₂⟩ := h.split
  exact h₁.append (ht w₂ h₂)

/-- A terminal in front is the first of the text. -/
theorem of_terminal {a : Terminal} (h : Spells rules (.terminal a :: s) w) :
    ∃ v, w = a :: v ∧ Spells rules s v := by
  cases h with
  | read a h => exact ⟨_, rfl, h⟩

/-- A non-terminal in front spells what one of its bodies spells. -/
theorem of_nonTerminal {A : NonTerminal} (h : Spells rules (.nonTerminal A :: s) w) :
    ∃ r ∈ rules, r.lhs = A ∧ Spells rules (r.body ++ s) w := by
  cases h with
  | expand hr h => exact ⟨_, hr, rfl, h⟩

theorem of_nil (h : Spells rules [] w) : w = [] := by
  cases h
  rfl

/-- A text of terminals spells itself. -/
theorem terminals (rules : List Rule) (w : List Terminal) :
    Spells rules (w.map .terminal) w := by
  induction w with
  | nil => exact .nil
  | cons a w ih => exact .read a ih

/-- A sequence spells something if each of its symbols does. -/
theorem exists_of_each (h : ∀ X ∈ s, ∃ w, Spells rules [X] w) : ∃ w, Spells rules s w := by
  induction s with
  | nil => exact ⟨[], .nil⟩
  | cons X s ih =>
    obtain ⟨w, hw⟩ := h X List.mem_cons_self
    obtain ⟨v, hv⟩ := ih fun Y hY => h Y (.tail _ hY)
    exact ⟨w ++ v, hw.append hv⟩

/-- More rules spell no less. -/
theorem mono {rules' : List Rule} (hsub : ∀ r ∈ rules, r ∈ rules') (h : Spells rules s w) :
    Spells rules' s w := by
  induction h with
  | nil => exact .nil
  | read a _ ih => exact .read a ih
  | expand hr _ ih => exact .expand (hsub _ hr) ih

/-- A terminal that is in no body and not in the sequence is not in what it spells. -/
theorem not_mem {a : Terminal} (hbody : ∀ r ∈ rules, Symbol.terminal a ∉ r.body)
    (h : Spells rules s w) (hs : Symbol.terminal a ∉ s) : a ∉ w := by
  induction h with
  | nil => exact List.not_mem_nil
  | @read s w b h ih =>
    rintro (_ | ⟨_, hw⟩)
    · exact hs List.mem_cons_self
    · exact ih (fun h => hs (.tail _ h)) hw
  | expand hr _ ih =>
    refine ih fun h => ?_
    rcases List.mem_append.1 h with h | h
    · exact hbody _ hr h
    · exact hs (.tail _ h)

theorem derives (h : Spells rules s w) : Derives rules s (w.map .terminal) := by
  induction h with
  | nil => exact .refl []
  | read a _ ih => exact ih.append_left [.terminal a]
  | expand hr _ ih => exact .more (Yields.replace hr [] _) ih

/-- A step of a derivation can be taken back. -/
theorem of_yields (hy : Yields rules s t) (h : Spells rules t w) : Spells rules s w := by
  obtain ⟨hr, f, b⟩ := hy
  exact h.back fun _ hv => .expand hr hv

end Spells

/-- **Spelling is derivation.** -/
theorem spells_iff_derives {rules : List Rule} {s : List Symbol} {w : List Terminal} :
    Spells rules s w ↔ Derives rules s (w.map .terminal) := by
  refine ⟨Spells.derives, fun h => ?_⟩
  generalize ht : w.map Symbol.terminal = t at h
  induction h with
  | refl => exact ht ▸ Spells.terminals rules w
  | more hy _ ih => exact (ih ht).of_yields hy

/-! ### What is spelled begins with -/

/-- What the non-terminals may begin with. -/
structure Starts where
  /-- The non-terminal may derive the empty text. -/
  vanishes : NonTerminal → Bool
  /-- The terminals that it may begin with. -/
  first : NonTerminal → List Terminal

namespace Starts

/-- A sequence may vanish: all of it may. -/
def allVanish (S : Starts) : List Symbol → Bool
  | [] => true
  | .terminal _ :: _ => false
  | .nonTerminal A :: s => S.vanishes A && S.allVanish s

/-- The terminals that a sequence may begin with: its first symbol's, and those behind it if it may
vanish. -/
def firsts (S : Starts) : List Symbol → List Terminal
  | [] => []
  | .terminal a :: _ => [a]
  | .nonTerminal A :: s => S.first A ++ if S.vanishes A then S.firsts s else []

/-- The rules lead to nothing else. -/
structure Closed (S : Starts) (rules : List Rule) : Prop where
  vanishes : ∀ r ∈ rules, S.allVanish r.body → S.vanishes r.lhs
  first : ∀ r ∈ rules, ∀ a ∈ S.firsts r.body, a ∈ S.first r.lhs

variable {S : Starts} {rules : List Rule} {a : Terminal} {s t : List Symbol}

theorem mem_firsts_nonTerminal {A : NonTerminal} :
    a ∈ S.firsts (.nonTerminal A :: s) ↔ a ∈ S.first A ∨ S.vanishes A ∧ a ∈ S.firsts s := by
  rw [firsts, List.mem_append]
  split <;> simp_all

theorem mem_firsts_append :
    a ∈ S.firsts (s ++ t) ↔ a ∈ S.firsts s ∨ S.allVanish s ∧ a ∈ S.firsts t := by
  induction s with
  | nil => simp [firsts, allVanish]
  | cons X s ih =>
    cases X with
    | terminal b => simp [firsts, allVanish]
    | nonTerminal A =>
      rw [List.cons_append, mem_firsts_nonTerminal, mem_firsts_nonTerminal, ih, allVanish,
        Bool.and_eq_true, and_or_left, or_assoc, and_assoc]

namespace Closed

/-- **What a sequence spells begins as it may.** -/
theorem mem_firsts (k : S.Closed rules) {w : List Terminal} (h : Spells rules s (a :: w)) :
    a ∈ S.firsts s := by
  generalize hw : a :: w = v at h
  induction h with
  | nil => cases hw
  | read b _ _ =>
    obtain ⟨rfl, -⟩ := List.cons.inj hw
    exact List.mem_singleton_self _
  | expand hr _ ih =>
    rw [mem_firsts_nonTerminal]
    rcases mem_firsts_append.1 (ih hw) with hb | ⟨hb, hs⟩
    · exact .inl (k.first _ hr _ hb)
    · exact .inr ⟨k.vanishes _ hr hb, hs⟩

end Closed

end Starts

end Lookahead
