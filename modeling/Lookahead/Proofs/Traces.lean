import Lookahead.Proofs.Moves
import Mathlib.Data.List.Chain

/-!
# Traces of runs

A trace replays its run.  Every step of it holds the stack and the place in the input before what
was done, and the next step is what comes of that (`TraceStep.Leads`); the moves that a trace has no
room for are left out in front of the last step.  Keeping a trace changes nothing else.

* `Trace.steps_recordAll`: a trace keeps the first moves.
* `Moves.isChain`: moves in a row are recorded as steps that lead from one to the next.
* `Config.run_untraced`: what a run decides does not depend on the recording.
-/

namespace Lookahead

open Keyword Delimiter

/-! ### Steps of a trace -/

/-- A move as it is recorded. -/
def Move.action : Move → Action
  | consume a => .consume a
  | expand A body => .expand A body

/-- What is recorded of a run that ends in an outcome, and the verdict it ends with; an expansion
that does not fit on the stack is recorded by itself. -/
def Outcome.closing? : Outcome → Option (Verdict × Action)
  | .accepted => some (.accepted, .accept)
  | .rejected e => some (.rejected e, .reject e.message)
  | _ => none

namespace TraceStep

/-- A move in a configuration as it is recorded. -/
def ofStep (s : Step) : TraceStep := ⟨s.1.stack.symbols, s.1.cursor, s.2.action⟩

/-- What was done leads to a stack and a place in the input. -/
inductive LeadsTo : TraceStep → List Symbol → Nat → Prop
  | consume (a : Terminal) (rest : List Symbol) (cursor : Nat) :
    LeadsTo ⟨.terminal a :: rest, cursor, .consume a⟩ rest (cursor + 1)
  | expand (A : NonTerminal) (body rest : List Symbol) (cursor : Nat) :
    LeadsTo ⟨.nonTerminal A :: rest, cursor, .expand A body⟩ (body ++ rest) cursor

/-- What was done at a step leads to the next step. -/
def Leads (s t : TraceStep) : Prop := s.LeadsTo t.stack t.cursor

/-- The expansion that is recorded. -/
def expansion? (s : TraceStep) : Option Expansion :=
  match s.action with
  | .expand A body => some ⟨A, body⟩
  | _ => none

/-- The terminal that is recorded as read. -/
def terminal? (s : TraceStep) : Option Terminal :=
  match s.action with
  | .consume a => some a
  | _ => none

theorem expansion?_ofStep (s : Step) : (ofStep s).expansion? = s.2.expansion? := by
  obtain ⟨c, a | ⟨A, body⟩⟩ := s <;> rfl

theorem terminal?_ofStep (s : Step) : (ofStep s).terminal? = s.2.terminal? := by
  obtain ⟨c, a | ⟨A, body⟩⟩ := s <;> rfl

/-- What recorded moves and a step behind them tell, if that step tells nothing. -/
theorem filterMap_recorded {β : Type} {f : TraceStep → Option β} {g : Move → Option β}
    (hf : ∀ s : Step, f (ofStep s) = g s.2) {last : TraceStep} (hlast : f last = none)
    (moves : List Step) :
    (moves.map ofStep ++ [last]).filterMap f = moves.filterMap fun s => g s.2 := by
  rw [List.filterMap_append, List.filterMap_map, List.filterMap_cons_none hlast,
    List.filterMap_nil, List.append_nil]
  exact List.filterMap_congr fun s _ => hf s

theorem leadsTo_ofStep {T : Table} {c d : Config} {m : Move} (h : c.step T = .moved m d) :
    (ofStep (c, m)).LeadsTo d.stack.symbols d.cursor := by
  rcases Config.step_moved h with
    ⟨a, rest, hs, -, -, rfl, rfl⟩ | ⟨A, rest, body, hs, -, -, rfl, rfl⟩
  · rw [ofStep, Config.advance, Stack.symbols_pop, hs]
    exact .consume a rest c.cursor
  · rw [ofStep, Config.replace, Stack.symbols_push, Stack.symbols_pop, hs]
    exact .expand A body rest c.cursor

end TraceStep

/-- What ends a run reads nothing and makes no expansion. -/
theorem Outcome.closing {o : Outcome} {v : Verdict} {s : TraceStep}
    (h : o.closing? = some (v, s.action)) : s.expansion? = none ∧ s.terminal? = none := by
  rw [TraceStep.expansion?, TraceStep.terminal?]
  cases o with
  | moved | overflow => cases h
  | accepted | rejected =>
    rw [← (Prod.mk.inj (Option.some.inj h)).2]
    exact ⟨rfl, rfl⟩

/-- **Moves in a row are recorded as steps that lead from one to the next**, and on to a step at the
configuration that they lead to. -/
theorem Moves.isChain {T : Table} {c d : Config} {steps : List Step} (h : Moves T c steps d)
    {last : TraceStep} (hstack : last.stack = d.stack.symbols) (hcursor : last.cursor = d.cursor) :
    (steps.map TraceStep.ofStep ++ [last]).IsChain TraceStep.Leads := by
  induction h with
  | refl => exact .singleton last
  | @more c d e m steps hs t ih =>
    have hlead := TraceStep.leadsTo_ofStep hs
    refine (ih hstack hcursor).cons fun next hnext => ?_
    -- The next step, be it a move or the last one, is recorded where this move leads to.
    cases t with
    | refl =>
      cases hnext
      rwa [TraceStep.Leads, hstack, hcursor]
    | more =>
      cases hnext
      exact hlead

/-! ### What is recorded -/

namespace Trace

/-- Record moves in a row. -/
def recordAll (t : Trace) (steps : List Step) : Trace :=
  steps.foldl (fun t s => t.record (.ofStep s)) t

theorem recordAll_cons (t : Trace) (s : Step) (steps : List Step) :
    t.recordAll (s :: steps) = (t.record (.ofStep s)).recordAll steps := rfl

theorem input_recordAll (t : Trace) (steps : List Step) : (t.recordAll steps).input = t.input := by
  induction steps generalizing t with
  | nil => rfl
  | cons s steps ih =>
    rw [recordAll_cons, ih, record]
    split <;> rfl

/-- **A trace keeps the first moves**, as many as there is room for. -/
theorem steps_recordAll {t : Trace} (h : t.steps.size ≤ stepLimit) (steps : List Step) :
    (t.recordAll steps).steps.toList =
      t.steps.toList ++ (steps.take (stepLimit - t.steps.size)).map .ofStep := by
  induction steps generalizing t with
  | nil => simp [recordAll]
  | cons s steps ih =>
    rw [recordAll_cons, record]
    split
    · next hlt =>
      obtain ⟨k, hk⟩ := Nat.exists_eq_add_of_lt hlt
      have hroom : stepLimit - t.steps.size = k + 1 := by omega
      have hroom' : stepLimit - (t.steps.push (.ofStep s)).size = k := by
        rw [Array.size_push]
        omega
      rw [ih (by rw [Array.size_push]; exact hlt), hroom, hroom', List.take_succ_cons,
        Array.toList_push, List.map_cons, List.append_assoc]
      rfl
    · next hge =>
      have hroom : stepLimit - t.steps.size = 0 := by omega
      refine (@ih { t with truncated := true } h).trans ?_
      rw [hroom, List.take_zero, List.take_zero]

/-- Moves are left out exactly if there are more than there is room for. -/
theorem truncated_recordAll {t : Trace} (h : t.steps.size ≤ stepLimit) (steps : List Step) :
    (t.recordAll steps).truncated = true ↔
      t.truncated = true ∨ stepLimit < t.steps.size + steps.length := by
  induction steps generalizing t with
  | nil => simp [recordAll, Nat.not_lt.2 h]
  | cons s steps ih =>
    rw [recordAll_cons, record, List.length_cons]
    split
    · next hlt =>
      rw [ih (by rw [Array.size_push]; exact hlt), Array.size_push, Nat.add_assoc,
        Nat.add_comm 1]
    · next hge =>
      refine (@ih { t with truncated := true } h).trans ?_
      exact ⟨fun _ => .inr (by omega), fun _ => .inl rfl⟩

end Trace

namespace Run

theorem trace_noteAll (r : Run) (steps : List Step) :
    (r.noteAll true steps).trace = r.trace.recordAll steps := by
  induction steps generalizing r with
  | nil => rfl
  | cons s steps ih =>
    obtain ⟨c, m⟩ := s
    rw [noteAll, List.foldl_cons]
    refine (ih _).trans ?_
    cases m <;> rfl

/-- The last step holds the stack and the place in the input at the end of the run. -/
theorem conclude_eq {d : Config} {o : Outcome} {v : Verdict} {a : Action}
    (h : o.closing? = some (v, a)) (r : Run) :
    r.conclude true d o =
      { r with verdict := v, trace := r.trace.conclude ⟨d.stack.symbols, d.cursor, a⟩ } := by
  cases o with
  | moved | overflow => cases h
  | accepted | rejected =>
    obtain ⟨rfl, rfl⟩ := Prod.mk.inj (Option.some.inj h)
    rfl

/-- The run without its trace. -/
def untraced (r : Run) : Run := { r with trace := .start [] }

theorem untraced_note (recording : Bool) (r : Run) (c : Config) (m : Move) :
    (r.note recording c m).untraced = r.untraced.note false c m := by
  cases m <;> cases recording <;> rfl

theorem untraced_conclude (recording : Bool) (r : Run) (c : Config) (o : Outcome) :
    (r.conclude recording c o).untraced = r.untraced.conclude false c o := by
  cases o <;> cases recording <;> rfl

end Run

/-- **What a run decides does not depend on the recording.** -/
theorem Config.run_untraced (T : Table) (recording : Bool) (n : Nat) (c : Config) (r : Run) :
    (c.run T recording n r).untraced = c.run T false n r.untraced := by
  induction n generalizing c r with
  | zero => rfl
  | succ n ih =>
    have hend := Run.untraced_conclude recording r c (c.step T)
    rw [run, run]
    cases hs : c.step T with
    | moved m next => exact (ih next _).trans (by rw [Run.untraced_note])
    | overflow | accepted | rejected => rwa [hs] at hend

theorem Trace.input_record (t : Trace) (s : TraceStep) : (t.record s).input = t.input := by
  rw [record]
  split <;> rfl

theorem Run.input_note (recording : Bool) (r : Run) (c : Config) (m : Move) :
    (r.note recording c m).trace.input = r.trace.input := by
  cases recording with
  | false => cases m <;> rfl
  | true => cases m <;> exact Trace.input_record _ _

theorem Run.input_accept (recording : Bool) (r : Run) (c : Config) :
    (r.accept recording c).trace.input = r.trace.input := by
  cases recording <;> rfl

theorem Run.input_reject (recording : Bool) (r : Run) (stack : List Symbol) (cursor : Nat)
    (e : SyntaxError) : (r.reject recording stack cursor e).trace.input = r.trace.input := by
  cases recording <;> rfl

/-- A run keeps its input with its trace, whether it records steps or not. -/
theorem Config.input_run (T : Table) (recording : Bool) (n : Nat) (c : Config) (r : Run) :
    (c.run T recording n r).trace.input = r.trace.input := by
  induction n generalizing c r with
  | zero => rfl
  | succ n ih =>
    rw [run]
    cases c.step T with
    | moved m next => exact (ih next _).trans (r.input_note recording c m)
    | overflow A body depth =>
      exact (Run.input_reject _ _ _ _ _).trans (r.input_note recording c (.expand A body))
    | accepted => exact r.input_accept recording c
    | rejected e => exact r.input_reject recording _ _ e

theorem Table.input_runFor (T : Table) (recording : Bool) (n : Nat) (input : List InputSymbol) :
    (T.runFor recording n input).trace.input = input.map InputSymbol.category ++ [.endMark] := by
  unfold runFor
  split
  · exact Run.input_reject _ _ _ _ _
  · exact Config.input_run T recording n _ _

/-! ### What a trace shows -/

/-- A run with its trace goes over an input by these moves to a configuration at which it ends. -/
structure Run.Recorded (T : Table) (input : List InputSymbol) (r : Run) (steps : List Step)
    (d : Config) (last : TraceStep) : Prop where
  moves : Moves T (.initial input) steps d
  closing : (d.step T).closing? = some (r.verdict, last.action)
  stack_last : last.stack = d.stack.symbols
  cursor_last : last.cursor = d.cursor
  input_eq : r.trace.input = input.map InputSymbol.category ++ [.endMark]
  steps_eq : r.trace.steps.toList =
    (steps.take Trace.stepLimit).map TraceStep.ofStep ++ [last]
  truncated_iff : r.trace.truncated = true ↔ Trace.stepLimit < steps.length
  expansions_eq : r.expansions.toList = Lookahead.expansions steps

namespace Table

variable {T : Table} {n : Nat} {input : List InputSymbol}

/-- **A run that ends in time and does not overflow the stack** is replayed by its trace. -/
theorem exists_recorded (hin : ∀ s ∈ input, s.category ≠ .endMark)
    (hend : (T.runFor true n input).verdict ≠ .undecided)
    (hdepth : ∀ depth limit,
      (T.runFor true n input).verdict ≠ .rejected (.stackDepth depth limit)) :
    ∃ steps d last, (T.runFor true n input).Recorded T input steps d last := by
  obtain ⟨steps, d, hm, hd, he⟩ := runFor_ended hin hend
  have hclosing : ∃ v a, (d.step T).closing? = some (v, a) := by
    cases hs : d.step T with
    | moved m next => exact absurd hs (hd m next)
    | overflow A body depth =>
      rw [he, hs, Run.conclude, Run.verdict_reject] at hdepth
      exact absurd rfl (hdepth depth Config.depthLimit)
    | accepted | rejected => exact ⟨_, _, rfl⟩
  obtain ⟨v, a, hclosing⟩ := hclosing
  have hroom : (Run.start input).trace.steps.size ≤ Trace.stepLimit := Nat.zero_le _
  rw [he, Run.conclude_eq hclosing]
  refine ⟨steps, d, ⟨d.stack.symbols, d.cursor, a⟩, hm, hclosing, rfl, rfl, ?_, ?_, ?_, ?_⟩
  · rw [Trace.conclude, Run.trace_noteAll, Trace.input_recordAll]
    rfl
  · rw [Trace.conclude, Run.trace_noteAll, Array.toList_push, Trace.steps_recordAll hroom]
    rfl
  · rw [Trace.conclude, Run.trace_noteAll, Trace.truncated_recordAll hroom]
    simp [Run.start, Trace.start]
  · exact Run.expansions_noteAll true (.start input) steps

/-- Runs on an input differ by the recording in their traces alone. -/
theorem runFor_untraced (recording : Bool) :
    (T.runFor recording n input).untraced = (T.runFor false n input).untraced := by
  unfold runFor
  split
  · cases recording <;> rfl
  · rw [Config.run_untraced, Config.run_untraced]

end Table

namespace Run.Recorded

variable {T : Table} {input : List InputSymbol} {r : Run} {steps : List Step} {d : Config}
  {last : TraceStep}

/-- A trace that is not truncated holds all moves. -/
theorem steps_eq_of_complete (h : r.Recorded T input steps d last)
    (hcomplete : r.trace.truncated = false) :
    r.trace.steps.toList = steps.map TraceStep.ofStep ++ [last] := by
  have hle : steps.length ≤ Trace.stepLimit :=
    Nat.not_lt.1 fun hlt => absurd (h.truncated_iff.2 hlt) (by simp [hcomplete])
  rw [h.steps_eq, List.take_of_length_le hle]

/-- The first step is at the beginning of the run. -/
theorem first_eq (h : r.Recorded T input steps d last) :
    ∃ s, r.trace.steps.toList.head? = some s ∧
      s.stack = [.nonTerminal .start, .terminal .endMark] ∧ s.cursor = 0 := by
  rw [h.steps_eq]
  cases h.moves with
  | refl => exact ⟨last, rfl, h.stack_last, h.cursor_last⟩
  | more => exact ⟨_, rfl, rfl, rfl⟩

/-- The moves that are recorded lead from one to the next. -/
theorem isChain_dropLast (h : r.Recorded T input steps d last) :
    r.trace.steps.toList.dropLast.IsChain TraceStep.Leads := by
  have hall := (h.moves.isChain h.stack_last h.cursor_last).left_of_append
  rw [h.steps_eq, List.dropLast_concat, List.map_take]
  exact hall.take _

/-- If none is left out, they lead to the last step. -/
theorem isChain (h : r.Recorded T input steps d last) (hcomplete : r.trace.truncated = false) :
    r.trace.steps.toList.IsChain TraceStep.Leads := by
  rw [h.steps_eq_of_complete hcomplete]
  exact h.moves.isChain h.stack_last h.cursor_last

/-- The expansions of recorded moves and the last step are those of the moves. -/
theorem filterMap_expansion? (h : r.Recorded T input steps d last) (moves : List Step) :
    (moves.map TraceStep.ofStep ++ [last]).filterMap TraceStep.expansion? =
      Lookahead.expansions moves :=
  TraceStep.filterMap_recorded TraceStep.expansion?_ofStep (Outcome.closing h.closing).1 moves

/-- The terminals of recorded moves and the last step are those that the moves read. -/
theorem filterMap_terminal? (h : r.Recorded T input steps d last) (moves : List Step) :
    (moves.map TraceStep.ofStep ++ [last]).filterMap TraceStep.terminal? = reads moves :=
  TraceStep.filterMap_recorded TraceStep.terminal?_ofStep (Outcome.closing h.closing).2 moves

/-- **The expansions recorded are the first of the run.** -/
theorem expansions_prefix (h : r.Recorded T input steps d last) :
    r.trace.steps.toList.filterMap TraceStep.expansion? <+: r.expansions.toList := by
  rw [h.steps_eq, h.filterMap_expansion?, h.expansions_eq]
  exact (List.take_prefix _ _).filterMap _

theorem expansions_eq_of_complete (h : r.Recorded T input steps d last)
    (hcomplete : r.trace.truncated = false) :
    r.trace.steps.toList.filterMap TraceStep.expansion? = r.expansions.toList := by
  rw [h.steps_eq_of_complete hcomplete, h.filterMap_expansion?, h.expansions_eq]

/-- **An accepting run reads its input**, and takes a step for each symbol and each expansion, and
one to accept. -/
theorem reads_of_accepted (h : r.Recorded T input steps d last)
    (hin : ∀ s ∈ input, s.category ≠ .endMark) (haccepted : r.verdict = .accepted)
    (hcomplete : r.trace.truncated = false) :
    r.trace.steps.toList.filterMap TraceStep.terminal? = input.map InputSymbol.category ∧
      r.trace.steps.size = input.length + r.expansions.size + 1 := by
  have hd : d.step T = .accepted := by
    have hclosing := h.closing
    rw [haccepted] at hclosing
    cases hs : d.step T with
    | accepted => rfl
    | _ => rw [hs] at hclosing; cases hclosing
  obtain ⟨hreads, -⟩ := h.moves.reads_eq hin hd
  rw [← Array.length_toList, ← Array.length_toList, h.steps_eq_of_complete hcomplete,
    h.filterMap_terminal?, h.expansions_eq, List.length_append, List.length_map,
    length_eq_expansions_add_reads, hreads, List.length_map, Nat.add_comm input.length]
  exact ⟨rfl, rfl⟩

end Run.Recorded

/-- **A trace is a faithful replay of its run, and bounded.**  Take any table, an input without end
marker, and a run with recording that ends otherwise than by overflowing the stack.  It makes moves
to a configuration at which it ends.  The trace holds the input with the end marker behind it, the
first moves, as many as it has room for, and the last step, which tells the verdict; it is truncated
exactly if there were more.  Its first step is at the beginning of the run; each move recorded
leads to the next, and to the last step if none was left out.  The expansions recorded are the first
of the run, all of them if none was left out.  A whole trace of acceptance reads each symbol of the
input, and has one step more than there are symbols and expansions.  Without recording the run
comes to the same verdict by the same expansions. -/
theorem trace_replays (T : Table) (n : Nat) {input : List InputSymbol}
    (hin : ∀ s ∈ input, s.category ≠ .endMark)
    (hend : (T.runFor true n input).verdict ≠ .undecided)
    (hdepth : ∀ depth limit,
      (T.runFor true n input).verdict ≠ .rejected (.stackDepth depth limit)) :
    let r := T.runFor true n input
    let recorded := r.trace.steps.toList
    (∃ steps d last, Moves T (.initial input) steps d ∧
      (d.step T = .accepted ∧ r.verdict = .accepted ∧ last.action = .accept ∨
        ∃ e, d.step T = .rejected e ∧ r.verdict = .rejected e ∧ last.action = .reject e.message) ∧
      last.stack = d.stack.symbols ∧ last.cursor = d.cursor ∧
      recorded = (steps.take Trace.stepLimit).map TraceStep.ofStep ++ [last] ∧
      (r.trace.truncated = true ↔ Trace.stepLimit < steps.length)) ∧
    r.trace.input = input.map InputSymbol.category ++ [.endMark] ∧
    (∃ s, recorded.head? = some s ∧
      s.stack = [.nonTerminal .start, .terminal .endMark] ∧ s.cursor = 0) ∧
    recorded.dropLast.IsChain TraceStep.Leads ∧
    (r.trace.truncated = false → recorded.IsChain TraceStep.Leads) ∧
    recorded.filterMap TraceStep.expansion? <+: r.expansions.toList ∧
    (r.trace.truncated = false →
      recorded.filterMap TraceStep.expansion? = r.expansions.toList) ∧
    (r.verdict = .accepted → r.trace.truncated = false →
      recorded.filterMap TraceStep.terminal? = input.map InputSymbol.category ∧
      recorded.length = input.length + r.expansions.size + 1) ∧
    (T.runFor false n input).verdict = r.verdict ∧
    (T.runFor false n input).expansions = r.expansions := by
  intro r recorded
  obtain ⟨steps, d, last, h⟩ := Table.exists_recorded hin hend hdepth
  have hsame : (T.runFor false n input).untraced = r.untraced := (Table.runFor_untraced true).symm
  refine ⟨⟨steps, d, last, h.moves, ?_, h.stack_last, h.cursor_last, h.steps_eq,
    h.truncated_iff⟩, h.input_eq, h.first_eq, h.isChain_dropLast, h.isChain, h.expansions_prefix,
    h.expansions_eq_of_complete, h.reads_of_accepted hin, (congrArg Run.verdict hsame :),
    (congrArg Run.expansions hsame :)⟩
  have hclosing := h.closing
  cases hs : d.step T with
  | moved | overflow => rw [hs] at hclosing; cases hclosing
  | accepted =>
    rw [hs] at hclosing
    obtain ⟨hverdict, haction⟩ := Prod.mk.inj (Option.some.inj hclosing)
    exact .inl ⟨rfl, hverdict.symm, haction.symm⟩
  | rejected e =>
    rw [hs] at hclosing
    obtain ⟨hverdict, haction⟩ := Prod.mk.inj (Option.some.inj hclosing)
    exact .inr ⟨e, rfl, hverdict.symm, haction.symm⟩

/-- The trace of a run that accepts `break ;`. -/
theorem trace_replays_break :
    let input := bare [break_, semicolon]
    let r := Table.standard.runFor true 10 input
    (∀ s ∈ input, s.category ≠ .endMark) ∧ r.verdict = .accepted ∧ r.trace.truncated = false ∧
    r.trace.steps.toList.IsChain TraceStep.Leads ∧
    r.trace.steps.toList.filterMap TraceStep.terminal? = input.map InputSymbol.category ∧
    r.trace.steps.toList.length = 2 + r.expansions.size + 1 := by
  intro input r
  have hin : ∀ s ∈ input, s.category ≠ .endMark := by decide
  have haccepted : r.verdict = .accepted := by decide +kernel
  have hcomplete : r.trace.truncated = false := by decide +kernel
  obtain ⟨-, -, -, -, hchain, -, -, hreads, -⟩ :=
    trace_replays Table.standard 10 hin (haccepted ▸ Verdict.noConfusion)
      fun _ _ => haccepted ▸ Verdict.noConfusion
  obtain ⟨hread, hlength⟩ := hreads haccepted hcomplete
  exact ⟨hin, haccepted, hcomplete, hchain hcomplete, hread, hlength⟩

end Lookahead
