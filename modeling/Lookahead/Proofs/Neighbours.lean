import Lookahead.Proofs.Spelling

/-!
# Neighbours on a stack

Which symbols may stand right behind each non-terminal of a stack, and with which terminals what
stands behind it may begin.  When neighbours are closed under some rules, expansions by these rules
keep a stack as it should be (`Neighbours.Fits.append`), and what follows a non-terminal on such a
stack begins as it may (`Neighbours.Closed.mem_follow`).
-/

namespace Lookahead

/-- What may stand behind each non-terminal. -/
structure Neighbours where
  /-- The symbols that may stand right behind it. -/
  next : NonTerminal → List Symbol
  /-- The terminals that what stands behind it may begin with. -/
  follow : NonTerminal → List Terminal

namespace Neighbours

/-- Right behind each non-terminal of the sequence is a symbol that may stand there. -/
def Fits (N : Neighbours) : List Symbol → Prop
  | [] => True
  | .terminal _ :: s => N.Fits s
  | .nonTerminal A :: s => (∃ X ∈ N.next A, ∃ t, s = X :: t) ∧ N.Fits s

/-- The same of a sequence behind which any of the symbols `after` may stand. -/
def fitsBefore (N : Neighbours) (after : List Symbol) : List Symbol → Bool
  | [] => true
  | .terminal _ :: s => N.fitsBefore after s
  | [.nonTerminal A] => after.all (N.next A).contains
  | .nonTerminal A :: X :: s => (N.next A).contains X && N.fitsBefore after (X :: s)

/-- The terminals that a symbol, with what may stand behind it, may begin with. -/
def leads (N : Neighbours) (S : Starts) : Symbol → List Terminal
  | .terminal a => [a]
  | .nonTerminal A => S.first A ++ if S.vanishes A then N.follow A else []

/-- The rules lead to no other neighbours. -/
structure Closed (N : Neighbours) (S : Starts) (rules : List Rule) : Prop where
  body : ∀ r ∈ rules, N.fitsBefore (N.next r.lhs) r.body
  follow : ∀ A, ∀ X ∈ N.next A, ∀ a ∈ N.leads S X, a ∈ N.follow A

variable {N : Neighbours} {S : Starts} {rules : List Rule} {A : NonTerminal} {s : List Symbol}

theorem Fits.tail {X : Symbol} (h : N.Fits (X :: s)) : N.Fits s := by
  cases X with
  | terminal _ => exact h
  | nonTerminal _ => exact h.2

/-- A symbol that may stand behind the non-terminal stands there. -/
theorem Fits.head (h : N.Fits (.nonTerminal A :: s)) : ∃ X ∈ N.next A, ∃ t, s = X :: t := h.1

/-- What fits depends only on what may stand right behind. -/
theorem Fits.of_next {M : Neighbours} (h : N.Fits s) (hM : M.next = N.next) : M.Fits s := by
  induction s with
  | nil => trivial
  | cons X s ih =>
    cases X with
    | terminal _ => exact ih h
    | nonTerminal A => exact ⟨hM ▸ h.1, ih h.2⟩

/-- Another non-terminal may stand in front of what may stand behind it. -/
theorem Fits.cons {B : NonTerminal} (h : N.Fits (.nonTerminal A :: s))
    (hsub : ∀ X ∈ N.next A, X ∈ N.next B) : N.Fits (.nonTerminal B :: s) := by
  obtain ⟨⟨X, hX, ht⟩, hs⟩ := h
  exact ⟨⟨X, hsub X hX, ht⟩, hs⟩

/-- **An expansion keeps a stack as it should be.** -/
theorem Fits.append (h : N.Fits (.nonTerminal A :: s)) {body : List Symbol}
    (hb : N.fitsBefore (N.next A) body) : N.Fits (body ++ s) := by
  induction body with
  | nil => exact h.2
  | cons X body ih =>
    cases X with
    | terminal a => exact ih hb
    | nonTerminal B =>
      cases body with
      | nil =>
        refine h.cons fun Y hY => ?_
        rw [fitsBefore, List.all_eq_true] at hb
        simpa using hb Y hY
      | cons Y body =>
        rw [fitsBefore, Bool.and_eq_true] at hb
        exact ⟨⟨Y, by simpa using hb.1, body ++ s, rfl⟩, ih hb.2⟩

/-- **What stands behind a non-terminal begins as it may.** -/
theorem Closed.mem_follow (k : N.Closed S rules) {a : Terminal}
    (h : N.Fits (.nonTerminal A :: s)) (ha : a ∈ S.firsts s) : a ∈ N.follow A := by
  induction s generalizing A with
  | nil => cases ha
  | cons X s ih =>
    obtain ⟨Y, hY, t, ht⟩ := h.head
    obtain ⟨rfl, rfl⟩ := List.cons.inj ht
    refine k.follow A X hY a ?_
    cases X with
    | terminal b => exact ha
    | nonTerminal B =>
      rw [leads, List.mem_append]
      rcases Starts.mem_firsts_nonTerminal.1 ha with hB | ⟨hv, hs⟩
      · exact .inl hB
      · rw [if_pos hv]
        exact .inr (ih h.tail hs)

end Neighbours

end Lookahead
