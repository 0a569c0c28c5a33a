import Lookahead.Grammar.Rule

/-!
# Derivations

What a list of rules derives, its lookaheads left aside.  A step (`Yields`) puts the body of a rule
in the place of its left-hand side, anywhere in a sequence; a derivation (`Derives`) is any number
of steps, and the language is what the start symbol derives.

* `Derives.of_mem`: a rule's left-hand side derives its body.
* `Derives.append`: two sequences in a row derive what they derive on their own.
-/

namespace Lookahead

/-- One step: a non-terminal is replaced by a body it has. -/
inductive Yields (rules : List Rule) : List Symbol → List Symbol → Prop where
  | replace {r : Rule} (h : r ∈ rules) (front back : List Symbol) :
      Yields rules (front ++ .nonTerminal r.lhs :: back) (front ++ (r.body ++ back))

/-- Any number of steps. -/
inductive Derives (rules : List Rule) : List Symbol → List Symbol → Prop where
  | refl (s : List Symbol) : Derives rules s s
  | more {s t u : List Symbol} (h : Yields rules s t) (d : Derives rules t u) : Derives rules s u

/-- A text is in the language of the rules. -/
def InLanguage (rules : List Rule) (text : List Terminal) : Prop :=
  Derives rules [.nonTerminal .start] (text.map .terminal)

theorem Yields.append_left {rules : List Rule} {s t : List Symbol} (front : List Symbol)
    (h : Yields rules s t) : Yields rules (front ++ s) (front ++ t) := by
  obtain ⟨hr, f, b⟩ := h
  simpa only [List.append_assoc] using Yields.replace hr (front ++ f) b

theorem Yields.append_right {rules : List Rule} {s t : List Symbol} (back : List Symbol)
    (h : Yields rules s t) : Yields rules (s ++ back) (t ++ back) := by
  obtain ⟨hr, f, b⟩ := h
  simpa only [List.append_assoc, List.cons_append] using Yields.replace hr f (b ++ back)

theorem Yields.mono {rules others : List Rule} {s t : List Symbol} (h : Yields rules s t)
    (hsub : ∀ r ∈ rules, r ∈ others) : Yields others s t := by
  obtain ⟨hr, front, back⟩ := h
  exact .replace (hsub _ hr) front back

namespace Derives

variable {rules : List Rule} {s t u v : List Symbol}

theorem of_yields (h : Yields rules s t) : Derives rules s t := .more h (.refl t)

theorem of_mem {r : Rule} (h : r ∈ rules) : Derives rules [.nonTerminal r.lhs] r.body := by
  simpa using of_yields (Yields.replace h [] [])

theorem trans (d : Derives rules s t) (e : Derives rules t u) : Derives rules s u := by
  induction d with
  | refl => exact e
  | more h _ ih => exact .more h (ih e)

/-- More rules derive no less. -/
theorem mono {others : List Rule} (d : Derives rules s t) (hsub : ∀ r ∈ rules, r ∈ others) :
    Derives others s t := by
  induction d with
  | refl => exact .refl _
  | more h _ ih => exact .more (h.mono hsub) ih

theorem append_left (front : List Symbol) (d : Derives rules s t) :
    Derives rules (front ++ s) (front ++ t) := by
  induction d with
  | refl => exact .refl _
  | more h _ ih => exact .more (h.append_left front) ih

theorem append_right (back : List Symbol) (d : Derives rules s t) :
    Derives rules (s ++ back) (t ++ back) := by
  induction d with
  | refl => exact .refl _
  | more h _ ih => exact .more (h.append_right back) ih

theorem append (d : Derives rules s t) (e : Derives rules u v) :
    Derives rules (s ++ u) (t ++ v) :=
  (d.append_right u).trans (e.append_left t)

end Derives

end Lookahead
