import Lookahead.Proofs.FirstSets
import Lookahead.Proofs.Moves

/-!
# Mispredicted cells

A rule whose body is never empty should be picked only under terminals that its body can begin with.
The check of a list of rules reports exactly the cells in which it is not so, and if it reports none,
every run of the table of these rules keeps to it: at each expansion the next terminal is one that
the body begins with, unless the body may be empty.

* `Table.exists_expanding`: where in a run an expansion was made.
* `Table.picks_beginning`: what a table without mispredictions picks.
* `mispredictions_exact`: the two sides of the check.
* `mispredictions_standardRules`: nothing is reported of the rules of the language.
-/

namespace Lookahead

/-! ### Where expansions are made -/

/-- In the configuration the non-terminal of `x` is on top, and the table picks the body of `x`
under the next terminal. -/
structure Config.Expanding (T : Table) (c : Config) (x : Expansion) : Prop where
  onTop : c.stack.symbols.head? = some (.nonTerminal x.expanded)
  picked : T.body? x.expanded c.current.category = some x.body

/-- An expansion that moves make is made in one of the configurations they go through, behind the
expansions before it. -/
theorem Moves.exists_expanding {T : Table} {c d : Config} {steps : List Step}
    (h : Moves T c steps d) {i : Nat} {x : Expansion} (hx : (expansions steps)[i]? = some x) :
    ∃ front e, Moves T c front e ∧ (expansions front).length = i ∧ e.Expanding T x := by
  induction h generalizing i with
  | refl => cases hx
  | @more c d e m steps hstep _ ih =>
    rcases Config.step_moved hstep with
      ⟨a, _, -, -, -, rfl, -⟩ | ⟨A, rest, body, hs, hb, -, rfl, -⟩
    · obtain ⟨front, f, hm, hl, hf⟩ := ih hx
      exact ⟨_, f, .more hstep hm, hl, hf⟩
    · cases i with
      | zero =>
        cases hx
        exact ⟨[], c, .refl c, rfl, by rw [hs]; rfl, hb⟩
      | succ i =>
        obtain ⟨front, f, hm, hl, hf⟩ := ih (i := i) hx
        exact ⟨_, f, .more hstep hm, congrArg (· + 1) hl, hf⟩

/-- The expansion that did not fit on the stack, if it came to that. -/
def Outcome.expansion? : Outcome → Option Expansion
  | .overflow A body _ => some ⟨A, body⟩
  | _ => none

theorem Run.expansions_conclude (recording : Bool) (r : Run) (c : Config) (o : Outcome) :
    (r.conclude recording c o).expansions.toList =
      r.expansions.toList ++ o.expansion?.toList := by
  cases o with
  | overflow A body depth =>
    rw [conclude, expansions_reject, expansions_note_expand, Array.toList_push]
    rfl
  | moved => exact (List.append_nil _).symm
  | accepted =>
    rw [conclude, expansions_accept]
    exact (List.append_nil _).symm
  | rejected =>
    rw [conclude, expansions_reject]
    exact (List.append_nil _).symm

theorem Config.expanding_of_overflow {T : Table} {c : Config} {x : Expansion}
    (h : (c.step T).expansion? = some x) : c.Expanding T x := by
  cases hs : c.step T with
  | overflow A body depth =>
    rw [hs] at h
    cases h
    obtain ⟨rest, hrest, hb, -⟩ := Config.step_overflow hs
    exact ⟨by rw [hrest]; rfl, hb⟩
  | _ =>
    rw [hs] at h
    cases h

namespace Table

variable {T : Table}

/-- **Each expansion of a run was made in a configuration that the run goes through**, also the one
that did not fit on the stack any more. -/
theorem exists_expanding {recording : Bool} {n : Nat} {input : List InputSymbol} {i : Nat}
    {x : Expansion} (hx : (T.runFor recording n input).expansions[i]? = some x) :
    ∃ steps c, Moves T (.initial input) steps c ∧ (expansions steps).length = i ∧
      c.Expanding T x := by
  rw [← Array.getElem?_toList] at hx
  rw [runFor] at hx
  split at hx
  · rw [Run.expansions_reject] at hx
    cases hx
  · obtain ⟨steps, d, hm, ⟨-, he⟩ | ⟨-, -, he⟩⟩ :=
      Config.run_eq T recording n (.initial input) (.start input)
    · rw [he, Run.expansions_noteAll] at hx
      exact hm.exists_expanding hx
    · rw [he, Run.expansions_conclude, Run.expansions_noteAll] at hx
      change (expansions steps ++ _)[i]? = some x at hx
      rcases Nat.lt_or_ge i (expansions steps).length with hlt | hge
      · rw [List.getElem?_append_left hlt] at hx
        exact hm.exists_expanding hx
      · rw [List.getElem?_append_right hge] at hx
        have hlen : i - (expansions steps).length < (d.step T).expansion?.toList.length :=
          (List.getElem?_eq_some_iff.1 hx).1
        cases ho : (d.step T).expansion? with
        | none =>
          rw [ho] at hx
          cases hx
        | some y =>
          rw [ho, Option.toList_some, List.length_singleton, Nat.lt_one_iff] at hlen
          rw [ho, hlen] at hx
          cases hx
          exact ⟨steps, d, hm, by omega, Config.expanding_of_overflow ho⟩

end Table

/-! ### What is reported -/

open scoped Classical in
/-- **A cell is reported** for each lookahead that the body of its rule does not begin with, unless
the body may be empty. -/
theorem mispredictions_eq (rules : List Rule) :
    mispredictions rules = rules.flatMap fun r =>
      (r.lookaheads.filter fun a => ¬ Derives rules r.body [] ∧ ¬ BeginsWith rules r.body a).map
        fun a => .inconsistent (r.lhs, a) r.bodyText := by
  unfold mispredictions
  refine congrArg (rules.flatMap ·) (funext fun r => ?_)
  split
  · next hempty =>
    rw [FirstSets.isNullable_iff] at hempty
    simp [hempty]
  · next hempty =>
    rw [FirstSets.isNullable_iff] at hempty
    rw [Rule.claims, List.filter_map, List.map_map]
    refine congrArg (List.map _) (List.filter_congr fun a _ => ?_)
    rw [Bool.eq_iff_iff, Function.comp_apply, Bool.not_eq_true', ← Bool.not_eq_true,
      FirstSets.canBegin_iff, decide_eq_true_eq]
    exact (and_iff_right hempty).symm

/-- A table without mispredictions picks bodies that begin with the lookahead, or may be empty. -/
theorem Table.picks_beginning {T : Table} (h : mispredictions T.rules = []) {A : NonTerminal}
    {a : Terminal} {body : List Symbol} (hb : T.body? A a = some body)
    (hempty : ¬ Derives T.rules body []) : BeginsWith T.rules body a := by
  obtain ⟨r, hr, hc, rfl⟩ := T.body?_eq_some_iff.1 hb
  classical
  by_contra hnot
  rw [mispredictions_eq, List.flatMap_eq_nil_iff] at h
  have hnone := List.map_eq_nil_iff.1 (h r hr)
  have hmem : a ∈ r.lookaheads.filter fun a =>
      ¬ Derives T.rules r.body [] ∧ ¬ BeginsWith T.rules r.body a :=
    List.mem_filter.2 ⟨(Rule.mem_claims.1 hc).2, decide_eq_true ⟨hempty, hnot⟩⟩
  rw [hnone] at hmem
  exact absurd hmem List.not_mem_nil

open scoped Classical in
/-- **The check reports exactly the mispredicted cells.**  For any list of rules, one problem is
reported for each lookahead of each rule whose body derives neither the empty text nor anything that
begins with the lookahead, in the order of rules and then of lookaheads.  If none is reported and
the rules make a table, each expansion that a run of this table makes is made in a configuration the
run goes through, with the next terminal one that the body begins with, unless the body derives the
empty text. -/
theorem mispredictions_exact (rules : List Rule) :
    (mispredictions rules = rules.flatMap fun r =>
      (r.lookaheads.filter fun a => ¬ Derives rules r.body [] ∧ ¬ BeginsWith rules r.body a).map
        fun a => .inconsistent (r.lhs, a) r.bodyText) ∧
    (mispredictions rules = [] → ∀ T, Table.ofRules? rules = .ok T →
      ∀ recording n input i x, (T.runFor recording n input).expansions[i]? = some x →
        ∃ steps c, Moves T (.initial input) steps c ∧ (expansions steps).length = i ∧
          c.Expanding T x ∧
          (¬ Derives rules x.body [] → BeginsWith rules x.body c.current.category)) := by
  refine ⟨mispredictions_eq rules, fun hnone T hT recording n input i x hx => ?_⟩
  obtain rfl := Table.ofRules?_eq_ok_iff.1 hT
  obtain ⟨steps, c, hm, hl, hc⟩ := Table.exists_expanding hx
  exact ⟨steps, c, hm, hl, hc, Table.picks_beginning hnone hc.picked⟩

/-- A list of breaks, each ended by a semicolon. -/
def breakRules : List Rule :=
  [⟨.statements, [Keyword.break_], [.nonTerminal .control, .nonTerminal .statements]⟩,
   ⟨.statements, [.endMark], []⟩,
   ⟨.control, [Keyword.break_], [.terminal Keyword.break_, .terminal Delimiter.semicolon]⟩]

/-- The second expansion of a run on `break ;` by these rules, whose body is never empty. -/
theorem mispredictions_exact_break :
    let T : Table := ⟨breakRules, by decide⟩
    let input := bare [Keyword.break_, Delimiter.semicolon]
    let x : Expansion := ⟨.control, [.terminal Keyword.break_, .terminal Delimiter.semicolon]⟩
    mispredictions breakRules = [] ∧ Table.ofRules? breakRules = .ok T ∧
    (T.runFor false 20 input).expansions[1]? = some x ∧ ¬ Derives breakRules x.body [] ∧
    ∃ steps c, Moves T (.initial input) steps c ∧ (expansions steps).length = 1 ∧
      BeginsWith breakRules x.body c.current.category := by
  intro T input x
  have hnone : mispredictions breakRules = [] := by decide +kernel
  have hT : Table.ofRules? breakRules = .ok T := Table.ofRules?_eq_ok_iff.2 rfl
  have hx : (T.runFor false 20 input).expansions[1]? = some x := by decide +kernel
  have hempty : ¬ Derives breakRules x.body [] := mt FirstSets.isNullable_iff.2 (by decide +kernel)
  obtain ⟨steps, c, hm, hl, -, hbegins⟩ :=
    (mispredictions_exact breakRules).2 hnone T hT false 20 input 1 x hx
  exact ⟨hnone, hT, hx, hempty, steps, c, hm, hl, hbegins hempty⟩

/-! ### The rules of the language -/

/-- Add what one rule yields under its own lookaheads: of what it can begin with, it is only these
that a table picks it for. -/
def FirstSets.foretell (F : FirstSets) (r : Rule) : FirstSets :=
  { F.learnNullable r with
    begins := (r.claims.filter fun c => F.canBegin c.2 r.body) ++ F.begins }

theorem FirstSets.Sound.foretell {rules : List Rule} {F : FirstSets} (h : F.Sound rules) {r : Rule}
    (hr : r ∈ rules) : (F.foretell r).Sound rules := by
  refine ⟨(h.learnNullable hr).nullable, fun A a hA => ?_⟩
  rcases List.mem_append.1 hA with hA | hA
  · obtain ⟨hclaim, hbegins⟩ := List.mem_filter.1 hA
    obtain ⟨rest, d⟩ := h.beginsWith hbegins
    obtain ⟨rfl, -⟩ := Rule.mem_claims.1 hclaim
    exact ⟨rest, (Derives.of_mem hr).trans d⟩
  · exact h.begins A a hA

/-- Nothing is reported if what is so tells as much for every lookahead. -/
theorem mispredictions_eq_nil {rules : List Rule} {F : FirstSets} (h : F.Sound rules)
    (hall : ∀ r ∈ rules, F.isNullable r.body = false → ∀ a ∈ r.lookaheads, F.canBegin a r.body) :
    mispredictions rules = [] := by
  classical
  rw [mispredictions_eq, List.flatMap_eq_nil_iff]
  intro r hr
  rw [List.map_eq_nil_iff, List.filter_eq_nil_iff]
  intro a ha hpred
  obtain ⟨hempty, hbegins⟩ := of_decide_eq_true hpred
  cases hbody : F.isNullable r.body with
  | true => exact hempty (h.derives_nil hbody)
  | false => exact hbegins (h.beginsWith (hall r hr hbody a ha))

/-- **The rules of the language are predicted well.** -/
theorem mispredictions_standardRules : mispredictions standardRules = [] := by
  -- Rules mostly stand before those of their bodies, so once from the back finds out enough.
  have hsound : (standardRules.reverse.foldl FirstSets.foretell .empty).Sound standardRules :=
    List.foldlRecOn _ _ (FirstSets.sound_empty _) fun _ hF _ hr =>
      hF.foretell (List.mem_reverse.1 hr)
  exact mispredictions_eq_nil hsound (by decide +kernel)

end Lookahead
