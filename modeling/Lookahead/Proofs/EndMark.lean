import Lookahead.Proofs.Analyses
import Lookahead.Proofs.ListingRoundTrip
import Lookahead.Proofs.Moves

/-!
# The end marker

The end marker is reserved: it lies at the bottom of the stack and behind the input.  A run that
meets it in no other place of its input never goes wrong of itself, whatever the table is, and none
of the inputs that are made from texts hold it.

* `Moves.based`: moves leave the end marker at the bottom of the stack.
* `Table.runFor_internal_iff`: an internal error is an end marker inside the input.
* `Scan.category_ne`, `Listing.category_ne`: no text makes one.
-/

namespace Lookahead

/-! ### At the bottom of the stack -/

namespace Config

/-- The end marker lies at the bottom of the stack. -/
def Based (c : Config) : Prop := c.stack.symbols.getLast? = some (.terminal .endMark)

theorem based_initial (input : List InputSymbol) : (initial input).Based := rfl

theorem Based.symbols_ne_nil {c : Config} (b : c.Based) : c.stack.symbols ≠ [] := by
  intro h
  rw [Based, h] at b
  cases b

/-- Below a symbol that is not the end marker there is the bottom of the stack. -/
theorem Based.of_cons {c : Config} {X : Symbol} {rest : List Symbol} (b : c.Based)
    (hs : c.stack.symbols = X :: rest) (hX : X ≠ .terminal .endMark) :
    rest.getLast? = some (.terminal .endMark) := by
  rw [Based, hs] at b
  cases rest with
  | nil => exact absurd (Option.some.inj b) hX
  | cons Y rest => exact b

/-- A move takes away a symbol that is not the end marker, and puts nothing below it. -/
theorem Based.moved {T : Table} {c d : Config} {m : Move} (b : c.Based)
    (h : c.step T = .moved m d) : d.Based := by
  rcases step_moved h with
    ⟨a, rest, hs, -, hne, -, rfl⟩ | ⟨A, rest, body, hs, -, -, -, rfl⟩
  · rw [Based, advance, Stack.symbols_pop, hs, List.tail_cons]
    exact b.of_cons hs fun e => hne (Symbol.terminal.inj e)
  · rw [Based, replace, Stack.symbols_push, Stack.symbols_pop, hs, List.tail_cons,
      List.getLast?_append, b.of_cons hs Symbol.noConfusion]
    rfl

/-- A configuration with the end marker at the bottom of its stack is rejected for its input. -/
theorem Based.step_ne_internal {T : Table} {c : Config} (b : c.Based) (reason : String) :
    c.step T ≠ .rejected (.internal reason) := by
  intro h
  rcases step_rejected h with ⟨_, _, -, -, e⟩ | ⟨_, _, -, -, e⟩ | ⟨hs, -⟩
  · cases e
  · cases e
  · exact b.symbols_ne_nil hs

end Config

/-- **Moves leave the end marker at the bottom of the stack.** -/
theorem Moves.based {T : Table} {c d : Config} {steps : List Step} (h : Moves T c steps d)
    (b : c.Based) : d.Based := by
  induction h with
  | refl => exact b
  | more h _ ih => exact ih (b.moved h)

/-! ### Internal errors -/

/-- What is wrong with an input that holds the end marker at a place. -/
def insideReason (position : Nat) : String := s!"end marker inside input at symbol {position}"

namespace Table

variable {T : Table} {recording : Bool} {n : Nat} {input : List InputSymbol}

theorem runFor_ne_internal (hin : ∀ s ∈ input, s.category ≠ .endMark) (reason : String) :
    (T.runFor recording n input).verdict ≠ .rejected (.internal reason) := by
  intro h
  obtain ⟨steps, d, hm, ⟨hd, -⟩ | ⟨_, _, _, -, he, -⟩⟩ := runFor_rejected hin h
  · exact (hm.based (Config.based_initial input)).step_ne_internal reason hd
  · cases he

theorem runFor_inside {front back : List InputSymbol} {s : InputSymbol}
    (hfront : ∀ x ∈ front, x.category ≠ .endMark) (hs : s.category = .endMark) :
    (T.runFor recording n (front ++ s :: back)).verdict =
      .rejected (.internal (insideReason front.length)) := by
  have hfind : (front ++ s :: back).findIdx? (·.category == .endMark) = some front.length := by
    have hnone : front.findIdx? (·.category == .endMark) = none :=
      List.findIdx?_eq_none_iff.2 fun x hx => beq_false_of_ne (hfront x hx)
    rw [List.findIdx?_append, hnone, List.findIdx?_cons, if_pos (beq_of_eq hs)]
    exact congrArg some (Nat.zero_add _)
  rw [runFor, hfind]
  exact Run.verdict_reject ..

/-- **An internal error is an end marker inside the input**, and names the first. -/
theorem runFor_internal_iff {reason : String} :
    (T.runFor recording n input).verdict = .rejected (.internal reason) ↔
      ∃ front s back, input = front ++ s :: back ∧ (∀ x ∈ front, x.category ≠ .endMark) ∧
        s.category = .endMark ∧ reason = insideReason front.length := by
  constructor
  · intro h
    by_cases hin : ∀ s ∈ input, s.category ≠ .endMark
    · exact absurd h (runFor_ne_internal hin reason)
    · have hany : ∃ s ∈ input, s.category == .endMark := by simpa using hin
      obtain ⟨s, hfind⟩ := Option.isSome_iff_exists.1 (List.find?_isSome.2 hany)
      obtain ⟨hs, front, back, rfl, hfront⟩ := List.find?_eq_some_iff_append.1 hfind
      have hfront : ∀ x ∈ front, x.category ≠ .endMark := by simpa using hfront
      have hs : s.category = .endMark := eq_of_beq hs
      rw [runFor_inside hfront hs] at h
      exact ⟨front, s, back, rfl, hfront, hs,
        (SyntaxError.internal.inj (Verdict.rejected.inj h)).symm⟩
  · rintro ⟨front, s, back, rfl, hfront, hs, rfl⟩
    exact runFor_inside hfront hs

end Table

/-! ### Inputs made from texts -/

/-- No token is an end marker. -/
theorem Scan.category_ne {detailed : Bool} {source : String} :
    ∀ s ∈ (ofSource detailed source).symbols, s.category ≠ .endMark := by
  intro s hs
  obtain ⟨t, ht, rfl⟩ := List.mem_map.1 hs
  obtain ⟨_, _, _, _, -, hreads, -⟩ := exists_of_mem_tokens ht
  exact hreads.category_ne

namespace Listing

theorem readLine_category_ne {n : Nat} {line : List Char} {s : InputSymbol}
    (h : readLine n line = .ok s) : s.category ≠ .endMark := by
  unfold readLine at h
  simp only at h
  split at h
  · split at h
    · cases h
    · split at h
      · cases h
      · split at h
        · cases h
        · cases h
        · next a hne _ =>
          cases h
          exact hne
  · cases h

theorem readLines_category_ne {n : Nat} {inTokens : Bool} {done symbols : List InputSymbol}
    {lines : List (List Char)} (hdone : ∀ s ∈ done, s.category ≠ .endMark)
    (h : readLines n inTokens done lines = .ok symbols) : ∀ s ∈ symbols, s.category ≠ .endMark := by
  fun_induction readLines n inTokens done lines with
  | case1 =>
    cases h
    exact fun s hs => hdone s (List.mem_reverse.1 hs)
  | case2 n inTokens done line rest hheader ih => exact ih hdone h
  | case3 n inTokens done line rest hheader hline e he => cases h
  | case4 n inTokens done line rest hheader hline s hs ih =>
    refine ih (fun x hx => ?_) h
    rcases List.mem_cons.1 hx with rfl | hx
    · exact readLine_category_ne hs
    · exact hdone x hx
  | case5 n inTokens done line rest hheader hline ih => exact ih hdone h

/-- Nothing that a listing is read as is an end marker. -/
theorem category_ne {content : String} {symbols : List InputSymbol}
    (h : read content = .ok symbols) : ∀ s ∈ symbols, s.category ≠ .endMark :=
  readLines_category_ne (fun _ hs => absurd hs List.not_mem_nil) h

end Listing

/-! ### Analyses -/

namespace Analysis

/-- An analysis of a text, a file or a listing, made in some session. -/
inductive Made (prefs : Preferences) : Analysis → Prop
  | ofText (text origin : String) (s : Session) : Made prefs (ofText prefs text origin s).1
  | ofFile {path : Path} {id : Nat} {s : Session} {a : Analysis}
    (h : (ofFile prefs path id s).1 = .ok a) : Made prefs a
  | ofListing {path : Path} {s : Session} {a : Analysis}
    (h : (ofListing prefs path s).1 = .ok a) : Made prefs a

/-- The run of an analysis is one on an input without end marker. -/
theorem Made.exists_input {prefs : Preferences} {a : Analysis} (h : Made prefs a) :
    ∃ input, (∀ s ∈ input, s.category ≠ .endMark) ∧
      a.run = Lookahead.parse prefs.parse.recordTrace input := by
  have hsource : ∀ source : Source, ∃ input, (∀ s ∈ input, s.category ≠ .endMark) ∧
      (ofScan prefs source).run = Lookahead.parse prefs.parse.recordTrace input :=
    fun source => ⟨_, Scan.category_ne, rfl⟩
  cases h with
  | ofText text origin s =>
    obtain ⟨input, hin, hrun⟩ := hsource (.ofText text origin)
    have ha := (ensures_ofSource Session.lasting_true prefs (.ofText text origin) s trivial).1
    exact ⟨input, hin, (congrArg Analysis.run ha).trans hrun⟩
  | @ofFile path id s a h =>
    obtain ⟨source, rfl⟩ := (ensures_ofFile prefs path id s trivial).1 a h
    exact hsource source
  | @ofListing path s a h =>
    obtain ⟨content, symbols, hread, hrun⟩ := (ensures_ofListing prefs path s trivial).1 a h
    exact ⟨symbols, Listing.category_ne hread, hrun⟩

end Analysis

/-- **No run goes wrong of itself.**  Whatever the table, moves from the beginning of a run keep the
stack from being empty and stay within the input and the end marker behind it, which holds the next
symbol at the cursor.  A run ends in an internal error exactly if its input has an end marker
inside, and then names the first one.  No scan and no listing makes an end marker, so the run of an
analysis, whatever session it is made in, never ends so. -/
theorem internal_error_unreachable (T : Table) (recording : Bool) (n : Nat)
    (input : List InputSymbol) (prefs : Preferences) :
    (∀ steps d, Moves T (.initial input) steps d →
      d.stack.symbols ≠ [] ∧ d.cursor ≤ input.length ∧
      (input ++ [.endOf input])[d.cursor]? = some d.current) ∧
    (∀ reason, (T.runFor recording n input).verdict = .rejected (.internal reason) ↔
      ∃ front s back, input = front ++ s :: back ∧ (∀ x ∈ front, x.category ≠ .endMark) ∧
        s.category = .endMark ∧ reason = insideReason front.length) ∧
    (∀ detailed source, ∀ s ∈ (Scan.ofSource detailed source).symbols, s.category ≠ .endMark) ∧
    (∀ content symbols, Listing.read content = .ok symbols →
      ∀ s ∈ symbols, s.category ≠ .endMark) ∧
    ∀ a, Analysis.Made prefs a → ∀ reason, a.run.verdict ≠ .rejected (.internal reason) := by
  refine ⟨fun steps d hm => ?_, fun reason => Table.runFor_internal_iff,
    fun _ _ => Scan.category_ne, fun _ _ => Listing.category_ne, fun a ha reason => ?_⟩
  · have w := hm.within (Config.within_initial input)
    exact ⟨(hm.based (Config.based_initial input)).symbols_ne_nil, w.cursor_le, w.current_eq⟩
  · obtain ⟨symbols, hin, hrun⟩ := ha.exists_input
    rw [hrun]
    exact Table.runFor_ne_internal hin reason

/-- A table whose body ends with an end marker, and an input that has one inside. -/
theorem internal_error_unreachable_marked :
    let T : Table :=
      ⟨[⟨.statements, [.identifier], [.terminal .identifier, .terminal .endMark]⟩], by decide⟩
    let input := bare [.identifier, .endMark]
    (T.runFor true 2 input).verdict =
      .rejected (.internal "end marker inside input at symbol 1") ∧
    ∃ steps d, Moves T (.initial input) steps d ∧ steps.length = 2 ∧ d.stack.height = 2 ∧
      (input ++ [.endOf input])[d.cursor]? = some d.current := by
  intro T input
  obtain ⟨hmoves, hinternal, -⟩ := internal_error_unreachable T true 2 input .standard
  refine ⟨(hinternal _).2 ⟨bare [.identifier], ⟨.endMark, none⟩, [], rfl, by decide, rfl,
    by decide⟩, ?_⟩
  have hm : Moves T (.initial input) _ _ := .more rfl (.more rfl (.refl _))
  exact ⟨_, _, hm, rfl, rfl, (hmoves _ _ hm).2.2⟩

end Lookahead
