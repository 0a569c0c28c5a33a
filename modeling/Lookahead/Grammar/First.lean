import Lookahead.Grammar.Rule

/-!
# First sets

Which non-terminals derive the empty text, and which terminals a text derived from each can begin
with.  Both are found together: a pass over the rules (`FirstSets.learn`) adds what the bodies yield
by what is known so far, and passes are made until one adds nothing.

A rule whose body is never empty should be picked only under terminals its body begins with;
`mispredictions` lists the cells where it is not so.
-/

namespace Lookahead

/-- What is known of a grammar's non-terminals. -/
structure FirstSets where
  /-- Those that derive the empty text. -/
  nullable : List NonTerminal
  /-- Pairs of a non-terminal and a terminal that it can begin with. -/
  begins : List Cell
deriving DecidableEq

namespace FirstSets

/-- Nothing known. -/
def empty : FirstSets := ⟨[], []⟩

/-- A sequence derives the empty text: all of it does. -/
def isNullable (F : FirstSets) (body : List Symbol) : Bool :=
  body.all fun
    | .terminal _ => false
    | .nonTerminal A => F.nullable.contains A

@[simp] theorem isNullable_nil (F : FirstSets) : F.isNullable [] = true := rfl

@[simp] theorem isNullable_terminal (F : FirstSets) (a : Terminal) (rest : List Symbol) :
    F.isNullable (.terminal a :: rest) = false := rfl

@[simp] theorem isNullable_nonTerminal (F : FirstSets) (A : NonTerminal) (rest : List Symbol) :
    F.isNullable (.nonTerminal A :: rest) = (F.nullable.contains A && F.isNullable rest) := rfl

theorem isNullable_append (F : FirstSets) (s t : List Symbol) :
    F.isNullable (s ++ t) = (F.isNullable s && F.isNullable t) := List.all_append

/-- The terminals a non-terminal can begin with, in the order of terminals. -/
def of (F : FirstSets) (A : NonTerminal) : List Terminal :=
  Terminal.all.filter fun a => F.begins.contains (A, a)

/-- Whether a sequence can begin with `a`: its first symbol can, or is empty and the rest can. -/
def canBegin (F : FirstSets) (a : Terminal) : List Symbol → Bool
  | [] => false
  | .terminal b :: _ => a == b
  | .nonTerminal A :: rest =>
    F.begins.contains (A, a) || F.nullable.contains A && F.canBegin a rest

theorem canBegin_nonTerminal (F : FirstSets) (a : Terminal) (A : NonTerminal) (rest : List Symbol) :
    F.canBegin a (.nonTerminal A :: rest) =
      (F.begins.contains (A, a) || F.nullable.contains A && F.canBegin a rest) := rfl

/-- A sequence begins with what its front begins with, or with what its back does if nothing need
stand in front. -/
theorem canBegin_append (F : FirstSets) (a : Terminal) (s t : List Symbol) :
    F.canBegin a (s ++ t) = (F.canBegin a s || F.isNullable s && F.canBegin a t) := by
  induction s with
  | nil => rfl
  | cons X s ih =>
    cases X with
    | terminal b =>
      rw [List.cons_append, isNullable_terminal, Bool.false_and, Bool.or_false]
      rfl
    | nonTerminal A =>
      rw [List.cons_append, canBegin_nonTerminal, ih, canBegin_nonTerminal, isNullable_nonTerminal,
        Bool.and_or_distrib_left, Bool.or_assoc, Bool.and_assoc]

/-- The terminals a sequence can begin with, in the order of terminals. -/
def ofBody (F : FirstSets) (body : List Symbol) : List Terminal :=
  Terminal.all.filter (F.canBegin · body)

theorem mem_ofBody {F : FirstSets} {body : List Symbol} {a : Terminal} :
    a ∈ F.ofBody body ↔ F.canBegin a body := by
  simp [ofBody, Terminal.mem_all]

/-- Add the left-hand side of a rule whose body derives the empty text. -/
def learnNullable (F : FirstSets) (r : Rule) : FirstSets :=
  if F.isNullable r.body then { F with nullable := F.nullable.insert r.lhs } else F

/-- Add the terminals that the body of a rule can begin with to those of its left-hand side. -/
def learnBegins (F : FirstSets) (r : Rule) : FirstSets :=
  { F with begins := (F.ofBody r.body).foldl (fun cs a => cs.insert (r.lhs, a)) F.begins }

/-- Add what one rule yields; what it can begin with is seen by what it may leave empty. -/
def learn (F : FirstSets) (r : Rule) : FirstSets := (F.learnNullable r).learnBegins r

/-- One pass over the rules. -/
def pass (rules : List Rule) (F : FirstSets) : FirstSets := rules.foldl learn F

/-- Passes until one adds nothing, and at most `n`. -/
def saturate (rules : List Rule) : Nat → FirstSets → FirstSets
  | 0, F => F
  | n + 1, F =>
    let G := F.pass rules
    if G = F then F else saturate rules n G

/-- More passes than there are facts to learn. -/
def passBound : Nat := NonTerminal.all.length * (Terminal.all.length + 1) + 1

/-- The first sets of a list of rules. -/
def compute (rules : List Rule) : FirstSets := saturate rules passBound empty

end FirstSets

/-- The cells in which a rule is picked under a terminal that its body, never empty, cannot begin
with. -/
def mispredictions (rules : List Rule) : List GrammarError :=
  let F := FirstSets.compute rules
  rules.flatMap fun r =>
    if F.isNullable r.body then []
    else (r.claims.filter fun c => !F.canBegin c.2 r.body).map (.inconsistent · r.bodyText)

end Lookahead
