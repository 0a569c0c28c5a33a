import Lookahead.Grammar.Derivation
import Lookahead.Grammar.First
import Mathlib.Data.List.Infix
import Mathlib.Data.List.Nodup
import Mathlib.Data.List.ProdSigma

/-!
# First sets are exact

The first sets of a list of rules say what the rules derive, whatever rules they are: rules may
lead back to themselves, be there twice, or be missing for a non-terminal.  A pass never forgets
(`FirstSets.Grows`), and there is only so much to learn, so passes come to an end
(`FirstSets.Settles`).  What is known then is sound, for each fact came from a rule whose body
yields it (`FirstSets.Sound`), and it is closed under the rules, since a pass adds nothing
(`FirstSets.Closed`), so it keeps up with every derivation.

* `FirstSets.settles_compute`: passes are made until one adds nothing.
* `FirstSets.isNullable_iff`, `FirstSets.canBegin_iff`: what is known is what is derived.
-/

namespace Lookahead

/-- Something that the sequence derives begins with the terminal. -/
def BeginsWith (rules : List Rule) (s : List Symbol) (a : Terminal) : Prop :=
  ∃ rest, Derives rules s (.terminal a :: rest)

namespace FirstSets

variable {rules : List Rule} {F G H : FirstSets}

/-! ### Passes never forget -/

/-- What is known in `G` is what is known in `F`, with all that was learned since in front. -/
structure Grows (F G : FirstSets) : Prop where
  nullable : F.nullable <:+ G.nullable
  begins : F.begins <:+ G.begins

theorem Grows.refl (F : FirstSets) : Grows F F := ⟨List.suffix_rfl, List.suffix_rfl⟩

theorem Grows.trans (h : Grows F G) (k : Grows G H) : Grows F H :=
  ⟨h.nullable.trans k.nullable, h.begins.trans k.begins⟩

/-- The number of facts that are known. -/
def known (F : FirstSets) : Nat := F.nullable.length + F.begins.length

/-- What has grown knows more, or is the same. -/
theorem Grows.known_lt (h : Grows F G) (hne : G ≠ F) : F.known < G.known := by
  have hnullable := h.nullable.length_le
  have hbegins := h.begins.length_le
  by_contra hle
  have hlengths : F.nullable.length = G.nullable.length ∧ F.begins.length = G.begins.length := by
    unfold known at hle
    omega
  have heq : F = G := by
    obtain ⟨N, B⟩ := F
    obtain ⟨N', B'⟩ := G
    rw [mk.injEq]
    exact ⟨h.nullable.eq_of_length hlengths.1, h.begins.eq_of_length hlengths.2⟩
  exact hne heq.symm

theorem Grows.antisymm (h : Grows F G) (k : Grows G F) : G = F := by
  by_contra hne
  exact absurd (h.known_lt hne) (Nat.not_lt.2
    (Nat.add_le_add k.nullable.length_le k.begins.length_le))

theorem grows_learnNullable (F : FirstSets) (r : Rule) : Grows F (F.learnNullable r) := by
  unfold learnNullable
  split
  · exact ⟨List.suffix_insert _ _, List.suffix_rfl⟩
  · exact .refl F

theorem suffix_insert_cell (c : Cell) (cells : List Cell) : cells <:+ cells.insert c := by
  by_cases h : c ∈ cells
  · rw [List.insert_of_mem h]
  · rw [List.insert_of_not_mem h]
    exact List.suffix_cons c cells

theorem suffix_foldl_insert (A : NonTerminal) (as : List Terminal) (cells : List Cell) :
    cells <:+ as.foldl (fun cs a => cs.insert (A, a)) cells := by
  induction as generalizing cells with
  | nil => exact List.suffix_rfl
  | cons a as ih => exact (suffix_insert_cell (A, a) cells).trans (ih _)

theorem grows_learnBegins (F : FirstSets) (r : Rule) : Grows F (F.learnBegins r) :=
  ⟨List.suffix_rfl, suffix_foldl_insert _ _ _⟩

theorem grows_learn (F : FirstSets) (r : Rule) : Grows F (F.learn r) :=
  (grows_learnNullable F r).trans (grows_learnBegins _ r)

theorem grows_pass (F : FirstSets) (rules : List Rule) : Grows F (F.pass rules) := by
  induction rules generalizing F with
  | nil => exact .refl F
  | cons r rules ih => exact (grows_learn F r).trans (ih _)

/-! ### Passes come to an end -/

/-- Passes are made until one adds nothing, and then `G` is known. -/
inductive Settles (rules : List Rule) : FirstSets → FirstSets → Prop where
  | settled {F : FirstSets} (h : F.pass rules = F) : Settles rules F F
  | more {F G : FirstSets} (h : F.pass rules ≠ F) (t : Settles rules (F.pass rules) G) :
      Settles rules F G

/-- No fact is there twice. -/
structure Distinct (F : FirstSets) : Prop where
  nullable : F.nullable.Nodup
  begins : F.begins.Nodup

theorem Distinct.learn (h : Distinct F) (r : Rule) : Distinct (F.learn r) := by
  have hnullable : Distinct (F.learnNullable r) := by
    unfold learnNullable
    split
    · exact ⟨h.nullable.insert, h.begins⟩
    · exact h
  refine ⟨hnullable.nullable, ?_⟩
  have hbegins : ∀ (as : List Terminal) (cells : List Cell), cells.Nodup →
      (as.foldl (fun cs a => cs.insert (r.lhs, a)) cells).Nodup := by
    intro as
    induction as with
    | nil => exact fun _ hcells => hcells
    | cons a as ih => exact fun _ hcells => ih _ hcells.insert
  exact hbegins _ _ hnullable.begins

theorem Distinct.pass (h : Distinct F) (rules : List Rule) : Distinct (F.pass rules) := by
  induction rules generalizing F with
  | nil => exact h
  | cons r rules ih => exact ih (h.learn r)

/-- There is only so much to know. -/
theorem Distinct.known_lt (h : Distinct F) : F.known < passBound := by
  have hnullable : F.nullable.length ≤ NonTerminal.all.length :=
    h.nullable.length_le_of_subset fun A _ => NonTerminal.mem_all A
  have hbegins : F.begins.length ≤ (NonTerminal.all ×ˢ Terminal.all).length :=
    h.begins.length_le_of_subset fun c _ =>
      List.mem_product.2 ⟨NonTerminal.mem_all c.1, Terminal.mem_all c.2⟩
  rw [List.length_product] at hbegins
  rw [known, passBound, Nat.mul_succ]
  omega

/-- A number of passes that cannot all add something is enough. -/
theorem settles_saturate {n : Nat} (h : Distinct F) (hn : passBound ≤ n + F.known) :
    Settles rules F (saturate rules n F) := by
  induction n generalizing F with
  | zero => exact absurd h.known_lt (by omega)
  | succ n ih =>
    rw [saturate]
    split
    · next hsame => exact .settled hsame
    · next hnew =>
      have hmore := (grows_pass F rules).known_lt hnew
      exact .more hnew (ih (h.pass rules) (by omega))

/-- Passes come to one end only. -/
theorem Settles.unique (h : Settles rules F G) (k : Settles rules F H) : G = H := by
  induction h with
  | settled h =>
    cases k with
    | settled => rfl
    | more hne => exact absurd h hne
  | more hne _ ih =>
    cases k with
    | settled h => exact absurd h hne
    | more _ t => exact ih t

/-- **Passes come to an end**, however the rules lead back to themselves. -/
theorem settles_compute (rules : List Rule) : Settles rules empty (compute rules) :=
  settles_saturate ⟨List.nodup_nil, List.nodup_nil⟩ (Nat.le_add_right _ _)

/-! ### What is known is sound -/

/-- What is known is so. -/
structure Sound (rules : List Rule) (F : FirstSets) : Prop where
  nullable : ∀ A ∈ F.nullable, Derives rules [.nonTerminal A] []
  begins : ∀ A a, (A, a) ∈ F.begins → BeginsWith rules [.nonTerminal A] a

theorem Sound.derives_nil (h : Sound rules F) {s : List Symbol} (hs : F.isNullable s) :
    Derives rules s [] := by
  induction s with
  | nil => exact .refl []
  | cons X s ih =>
    cases X with
    | terminal a => exact absurd hs Bool.false_ne_true
    | nonTerminal A =>
      rw [isNullable_nonTerminal, Bool.and_eq_true, List.contains_iff_mem] at hs
      exact (h.nullable A hs.1).append (ih hs.2)

theorem Sound.beginsWith (h : Sound rules F) {a : Terminal} {s : List Symbol}
    (hs : F.canBegin a s) : BeginsWith rules s a := by
  induction s with
  | nil => exact absurd hs Bool.false_ne_true
  | cons X s ih =>
    cases X with
    | terminal b =>
      obtain rfl : a = b := beq_iff_eq.1 hs
      exact ⟨s, .refl _⟩
    | nonTerminal A =>
      rw [canBegin_nonTerminal, Bool.or_eq_true, Bool.and_eq_true, List.contains_iff_mem,
        List.contains_iff_mem] at hs
      rcases hs with hA | ⟨hA, hs⟩
      · obtain ⟨rest, d⟩ := h.begins A a hA
        exact ⟨rest ++ s, d.append_right s⟩
      · obtain ⟨rest, d⟩ := ih hs
        exact ⟨rest, (h.nullable A hA).append d⟩

theorem Sound.learnNullable (h : Sound rules F) {r : Rule} (hr : r ∈ rules) :
    Sound rules (F.learnNullable r) := by
  unfold FirstSets.learnNullable
  split
  · next hbody =>
    refine ⟨fun A hA => ?_, h.begins⟩
    rcases List.mem_insert_iff.1 hA with rfl | hA
    · exact (Derives.of_mem hr).trans (h.derives_nil hbody)
    · exact h.nullable A hA
  · exact h

theorem mem_foldl_insert {A : NonTerminal} {as : List Terminal} {cells : List Cell} {c : Cell} :
    c ∈ as.foldl (fun cs a => cs.insert (A, a)) cells ↔ (c.1 = A ∧ c.2 ∈ as) ∨ c ∈ cells := by
  obtain ⟨B, b⟩ := c
  induction as generalizing cells with
  | nil => simp
  | cons a as ih =>
    rw [List.foldl_cons, ih, List.mem_insert_iff, Prod.mk.injEq, List.mem_cons]
    tauto

theorem Sound.learnBegins (h : Sound rules F) {r : Rule} (hr : r ∈ rules) :
    Sound rules (F.learnBegins r) := by
  refine ⟨h.nullable, fun A a hA => ?_⟩
  rcases mem_foldl_insert.1 hA with ⟨rfl, ha⟩ | hA
  · obtain ⟨rest, d⟩ := h.beginsWith (mem_ofBody.1 ha)
    exact ⟨rest, (Derives.of_mem hr).trans d⟩
  · exact h.begins A a hA

/-- **What a rule adds is so**, for its body derives it from what was known. -/
theorem Sound.learn (h : Sound rules F) {r : Rule} (hr : r ∈ rules) : Sound rules (F.learn r) :=
  (h.learnNullable hr).learnBegins hr

theorem Sound.pass (h : Sound rules F) : Sound rules (F.pass rules) :=
  List.foldlRecOn rules _ h fun _ hF _ hr => hF.learn hr

theorem Settles.sound (h : Settles rules F G) (hF : Sound rules F) : Sound rules G := by
  induction h with
  | settled => exact hF
  | more _ _ ih => exact ih hF.pass

theorem sound_empty (rules : List Rule) : Sound rules empty :=
  ⟨fun _ h => (List.not_mem_nil h).elim, fun _ _ h => (List.not_mem_nil h).elim⟩

theorem sound_compute (rules : List Rule) : Sound rules (compute rules) :=
  (settles_compute rules).sound (sound_empty rules)

/-! ### What is known is closed under the rules -/

/-- What the body of a rule yields is known of its left-hand side. -/
structure Closed (rules : List Rule) (F : FirstSets) : Prop where
  nullable : ∀ r ∈ rules, F.isNullable r.body → r.lhs ∈ F.nullable
  begins : ∀ r ∈ rules, ∀ a, F.canBegin a r.body → (r.lhs, a) ∈ F.begins

/-- A pass that adds nothing learned nothing from any rule. -/
theorem learn_eq_of_pass_eq (h : F.pass rules = F) : ∀ r ∈ rules, F.learn r = F := by
  induction rules with
  | nil => exact nofun
  | cons r rules ih =>
    have hpass : (F.learn r).pass rules = F := h
    have hfirst : F.learn r = F := (grows_learn F r).antisymm (by
      have hrest := grows_pass (F.learn r) rules
      rwa [hpass] at hrest)
    rw [hfirst] at hpass
    rintro s (_ | ⟨_, hs⟩)
    · exact hfirst
    · exact ih hpass s hs

/-- **A pass that adds nothing leaves nothing to learn.** -/
theorem closed_of_pass_eq (h : F.pass rules = F) : Closed rules F := by
  have hnullable : ∀ r ∈ rules, F.learnNullable r = F := fun r hr =>
    (grows_learnNullable F r).antisymm (by
      have hrest := grows_learnBegins (F.learnNullable r) r
      rwa [show (F.learnNullable r).learnBegins r = F from learn_eq_of_pass_eq h r hr] at hrest)
  refine ⟨fun r hr hbody => ?_, fun r hr a ha => ?_⟩
  · rw [← hnullable r hr, FirstSets.learnNullable, if_pos hbody]
    exact List.mem_insert_self
  · have hlearn : F.learnBegins r = F := by
      have hr' := learn_eq_of_pass_eq h r hr
      rwa [learn, hnullable r hr] at hr'
    rw [← hlearn]
    exact mem_foldl_insert.2 (.inl ⟨rfl, mem_ofBody.2 ha⟩)

theorem Settles.closed (h : Settles rules F G) : Closed rules G := by
  induction h with
  | settled h => exact closed_of_pass_eq h
  | more _ _ ih => exact ih

theorem closed_compute (rules : List Rule) : Closed rules (compute rules) :=
  (settles_compute rules).closed

/-- A step back keeps a sequence from being empty no more than a step on. -/
theorem Closed.isNullable_of_yields (h : Closed rules F) {s t : List Symbol}
    (hst : Yields rules s t) (ht : F.isNullable t) : F.isNullable s := by
  obtain ⟨hr, front, back⟩ := hst
  rename_i r
  rw [isNullable_append, isNullable_append, Bool.and_eq_true, Bool.and_eq_true] at ht
  obtain ⟨hfront, hbody, hback⟩ := ht
  rw [isNullable_append, isNullable_nonTerminal, hfront, hback,
    List.contains_iff_mem.2 (h.nullable r hr hbody)]
  rfl

/-- What begins a sequence began it before the step. -/
theorem Closed.canBegin_of_yields (h : Closed rules F) {s t : List Symbol} {a : Terminal}
    (hst : Yields rules s t) (ht : F.canBegin a t) : F.canBegin a s := by
  obtain ⟨hr, front, back⟩ := hst
  rename_i r
  simp only [canBegin_append, canBegin_nonTerminal, Bool.or_eq_true, Bool.and_eq_true,
    List.contains_iff_mem] at ht ⊢
  rcases ht with hfront | ⟨hfront, hbody | ⟨hbody, hback⟩⟩
  · exact .inl hfront
  · exact .inr ⟨hfront, .inl (h.begins r hr a hbody)⟩
  · exact .inr ⟨hfront, .inr ⟨h.nullable r hr hbody, hback⟩⟩

theorem Closed.isNullable_of_derives (h : Closed rules F) {s t : List Symbol}
    (d : Derives rules s t) (ht : F.isNullable t) : F.isNullable s := by
  induction d with
  | refl => exact ht
  | more hst _ ih => exact h.isNullable_of_yields hst (ih ht)

theorem Closed.canBegin_of_derives (h : Closed rules F) {s t : List Symbol} {a : Terminal}
    (d : Derives rules s t) (ht : F.canBegin a t) : F.canBegin a s := by
  induction d with
  | refl => exact ht
  | more hst _ ih => exact h.canBegin_of_yields hst (ih ht)

/-! ### What is known is what is derived -/

/-- **A sequence may be empty** if it derives the empty text. -/
theorem isNullable_iff {s : List Symbol} : (compute rules).isNullable s ↔ Derives rules s [] :=
  ⟨(sound_compute rules).derives_nil, fun d => (closed_compute rules).isNullable_of_derives d rfl⟩

/-- **A sequence can begin with a terminal** if something that it derives does. -/
theorem canBegin_iff {s : List Symbol} {a : Terminal} :
    (compute rules).canBegin a s ↔ BeginsWith rules s a := by
  refine ⟨(sound_compute rules).beginsWith, fun ⟨rest, d⟩ => ?_⟩
  exact (closed_compute rules).canBegin_of_derives d (beq_self_eq_true a)

/-- The order of the rules does not matter, nor how often a rule is there. -/
theorem beginsWith_congr {others : List Rule} (h : ∀ r, r ∈ others ↔ r ∈ rules) {s : List Symbol}
    {a : Terminal} : BeginsWith others s a ↔ BeginsWith rules s a :=
  ⟨fun ⟨rest, d⟩ => ⟨rest, d.mono fun r hr => (h r).1 hr⟩,
    fun ⟨rest, d⟩ => ⟨rest, d.mono fun r hr => (h r).2 hr⟩⟩

/-- **First sets are exact.**  For any list of rules, passes come to an end and leave the first sets.
By these a non-terminal or a sequence may be empty exactly if it derives the empty text, and the
terminals it can begin with are exactly those that something it derives begins with.  So they are
the same for every list of the same rules, in whatever order. -/
theorem compute_exact (rules : List Rule) :
    let F := compute rules
    (∀ G, Settles rules empty G ↔ G = F) ∧
    (∀ A, F.nullable.contains A ↔ Derives rules [.nonTerminal A] []) ∧
    (∀ A a, a ∈ F.of A ↔ BeginsWith rules [.nonTerminal A] a) ∧
    (∀ s, F.isNullable s ↔ Derives rules s []) ∧
    (∀ s a, a ∈ F.ofBody s ↔ BeginsWith rules s a) ∧
    ∀ others : List Rule, (∀ r, r ∈ others ↔ r ∈ rules) →
      (∀ A, (compute others).nullable.contains A = F.nullable.contains A) ∧
      (∀ A, (compute others).of A = F.of A) ∧
      (∀ s, (compute others).isNullable s = F.isNullable s) ∧
      ∀ s, (compute others).ofBody s = F.ofBody s := by
  intro F
  have hnullable : ∀ (rules : List Rule) (A : NonTerminal),
      (compute rules).isNullable [.nonTerminal A] = (compute rules).nullable.contains A :=
    fun rules A => by rw [isNullable_nonTerminal, isNullable_nil, Bool.and_true]
  have hbegins : ∀ (rules : List Rule) (A : NonTerminal),
      (compute rules).ofBody [.nonTerminal A] = (compute rules).of A := fun rules A => by
    simp only [ofBody, of, canBegin, Bool.and_false, Bool.or_false]
  have hseq : ∀ s a, a ∈ F.ofBody s ↔ BeginsWith rules s a := fun s a =>
    mem_ofBody.trans canBegin_iff
  refine ⟨fun G => ⟨fun h => h.unique (settles_compute rules), fun h => h ▸ settles_compute rules⟩,
    fun A => ?_, fun A a => ?_, fun s => isNullable_iff, hseq, fun others hsame => ?_⟩
  · rw [← hnullable]
    exact isNullable_iff
  · rw [← hbegins]
    exact hseq _ a
  · have hsameNullable : ∀ s, (compute others).isNullable s = F.isNullable s := fun s => by
      rw [Bool.eq_iff_iff, isNullable_iff, isNullable_iff]
      exact ⟨fun d => d.mono fun r hr => (hsame r).1 hr, fun d => d.mono fun r hr => (hsame r).2 hr⟩
    have hsameBegins : ∀ s, (compute others).ofBody s = F.ofBody s := fun s => by
      refine List.filter_congr fun a _ => ?_
      rw [Bool.eq_iff_iff, canBegin_iff, canBegin_iff]
      exact beginsWith_congr hsame
    refine ⟨fun A => ?_, fun A => ?_, hsameNullable, hsameBegins⟩
    · rw [← hnullable, ← hnullable]
      exact hsameNullable _
    · rw [← hbegins, ← hbegins]
      exact hsameBegins _

/-- Rules that lead back to themselves at the front, behind what may be empty. -/
def recursiveRules : List Rule :=
  [⟨.statements, [], [.nonTerminal .statements, .nonTerminal .block, .nonTerminal .statement]⟩,
   ⟨.statement, [], [.nonTerminal .statements, .terminal Delimiter.semicolon]⟩,
   ⟨.statements, [], [.nonTerminal .block, .nonTerminal .block]⟩,
   ⟨.block, [], [.nonTerminal .statements]⟩,
   ⟨.block, [], []⟩]

/-- The first sets of such rules, in order and the other way round. -/
theorem compute_exact_recursive :
    (∀ r, r ∈ recursiveRules.reverse ↔ r ∈ recursiveRules) ∧
    Derives recursiveRules [.nonTerminal .statements, .nonTerminal .block] [] ∧
    ¬ Derives recursiveRules [.nonTerminal .statement] [] ∧
    BeginsWith recursiveRules [.nonTerminal .block] Delimiter.semicolon ∧
    (compute recursiveRules.reverse).of .block = (compute recursiveRules).of .block := by
  obtain ⟨-, hempty, -, hseq, hbegins, hsame⟩ := compute_exact recursiveRules
  have hreverse : ∀ r, r ∈ recursiveRules.reverse ↔ r ∈ recursiveRules := fun r => List.mem_reverse
  refine ⟨hreverse, (hseq _).1 (by decide +kernel), mt (hempty _).2 (by decide +kernel),
    (hbegins _ _).1 (by decide +kernel), (hsame _ hreverse).2.1 _⟩

end FirstSets

end Lookahead
