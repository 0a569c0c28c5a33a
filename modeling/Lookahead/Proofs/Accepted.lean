import Lookahead.Proofs.AcceptedRules
import Lookahead.Proofs.Leftmost
import Lookahead.Proofs.Tariff

/-!
# The accepted language

A parse accepts exactly the language of `acceptedRules`, as long as its stack does not overflow.

* `Config.Open`: if the stack can spell what has not been read, so it can after every move, and the
  configuration is not rejected.
* `Config.Stranded`: once a `do` loop is begun the input is not accepted any more.
* `Moves.spells`: what moves to acceptance read, the stack spells.
* `parse_accepts_iff`: both ways in one.
* `parse_complete_iff`: which of the texts that the grammar derives are accepted.  Not all of them
  are: the table picks `while` for one more statement inside a `do` loop (`not_complete`).
-/

namespace Lookahead

open Keyword Operator Delimiter NonTerminal

/-! ### Every text of the language is accepted -/

/-- The stack can spell what has not been read. -/
structure Config.Open (c : Config) : Prop where
  spells : Spells acceptedRules c.stack.symbols c.unread
  fits : trailing.Fits c.stack.symbols

namespace Config.Open

variable {input : List InputSymbol} {c d : Config}

/-- A configuration whose stack can spell the rest is not rejected. -/
theorem step_ne_rejected (w : c.Within input) (h : c.Open) (e : SyntaxError) :
    c.step Table.standard ≠ .rejected e := by
  intro he
  have hs := h.spells
  rw [w.unread_eq] at hs
  rcases Config.step_rejected he with
    ⟨a, rest, hst, hne, -⟩ | ⟨A, rest, hst, hb, -⟩ | ⟨hst, -⟩
  · rw [hst] at hs
    obtain ⟨v, hv, -⟩ := hs.of_terminal
    exact hne (List.cons.inj hv).1
  · have hf := h.fits
    rw [hst] at hs hf
    obtain ⟨body, hp, -, -⟩ := hs.predicted hf
    rw [hb] at hp
    cases hp
  · rw [hst] at hs
    cases hs.of_nil

/-- After a move the stack can still spell the rest. -/
theorem of_moved (w : c.Within input) (h : c.Open) {m : Move}
    (hm : c.step Table.standard = .moved m d) : d.Open := by
  obtain ⟨hs, hf⟩ := h
  rcases Config.step_moved hm with
    ⟨a, rest, hst, ha, hne, -, rfl⟩ | ⟨A, rest, body, hst, hb, -, -, rfl⟩
  · rw [hst] at hs hf
    refine ⟨?_, ?_⟩
    · obtain ⟨v, hv, hr⟩ := hs.of_terminal
      rw [Config.symbols_advance hst, w.unread_advance (ha ▸ hne), hv]
      exact hr
    · rw [Config.symbols_advance hst]
      exact hf.tail
  · rw [w.unread_eq, hst] at hs
    rw [hst] at hf
    obtain ⟨body', hp, hr, hfit⟩ := hs.predicted hf
    obtain rfl := Option.some.inj (hb.symm.trans hp)
    refine ⟨?_, ?_⟩
    · rw [Config.symbols_replace hst]
      change Spells acceptedRules (body ++ rest) c.unread
      rw [w.unread_eq]
      exact hr
    · rw [Config.symbols_replace hst]
      exact hfit

theorem of_moves (w : c.Within input) (h : c.Open) {steps : List Step}
    (hm : Moves Table.standard c steps d) : d.Open := by
  induction hm with
  | refl => exact h
  | more hs _ ih => exact ih (Moves.within (.more hs (.refl _)) w) (h.of_moved w hs)

end Config.Open

/-! ### Every accepted text is in the language -/

theorem body?_statements {a : Terminal} {body : List Symbol}
    (h : Table.standard.body? statements a = some body) :
    body = [.nonTerminal statement, .nonTerminal statements] ∨
      body = [] ∧ (a = closeBrace ∨ a = .endMark) := by
  have hall : ∀ r ∈ standardRules, r.lhs = statements →
      r.body = [.nonTerminal statement, .nonTerminal statements] ∨
        r.body = [] ∧ ∀ a ∈ r.lookaheads, a = closeBrace ∨ a = .endMark := by
    decide
  obtain ⟨r, hr, hc, rfl⟩ := (Table.body?_eq_some_iff _).1 h
  obtain ⟨hl, ha⟩ := Rule.mem_claims.1 hc
  rcases hall r hr hl with hb | ⟨hb, hla⟩
  · exact .inl hb
  · exact .inr ⟨hb, hla a ha⟩

/-- A list of statements has `while` behind it: it takes every `while` for a statement, and where it
ends there is none. -/
inductive Config.Stranded (c : Config) : Prop where
  | inside (above below : List Symbol)
      (hs : c.stack.symbols = above ++ .nonTerminal statements :: .terminal while_ :: below)
      (hend : Symbol.terminal .endMark ∉ above)
  | ended (below : List Symbol) (hs : c.stack.symbols = .terminal while_ :: below)
      (hcur : c.current.category = closeBrace ∨ c.current.category = .endMark)

namespace Config.Stranded

variable {c d : Config}

theorem of_moved (h : c.Stranded) {m : Move} (hm : c.step Table.standard = .moved m d) :
    d.Stranded := by
  rcases Config.step_moved hm with
    ⟨a, rest, hst, ha, hne, -, rfl⟩ | ⟨A, rest, body, hst, hb, -, -, rfl⟩
  · cases h with
    | inside above below hs hend =>
      rw [hst] at hs
      cases above with
      | nil => cases hs
      | cons X above =>
        obtain ⟨rfl, rfl⟩ := List.cons.inj hs
        exact .inside above below (Config.symbols_advance hst) fun h => hend (.tail _ h)
    | ended below hs hcur =>
      rw [hst] at hs
      obtain ⟨hX, -⟩ := List.cons.inj hs
      rw [ha, Symbol.terminal.inj hX] at hcur
      exact absurd hcur (by decide)
  · cases h with
    | inside above below hs hend =>
      rw [hst] at hs
      cases above with
      | nil =>
        -- The list itself is on top: it goes on, or ends under a lookahead other than `while`.
        obtain ⟨hX, rfl⟩ := List.cons.inj hs
        rw [Symbol.nonTerminal.inj hX] at hb
        rcases body?_statements hb with rfl | ⟨rfl, hcur⟩
        · exact .inside [.nonTerminal statement] below (Config.symbols_replace hst _) (by decide)
        · exact .ended below (Config.symbols_replace hst []) hcur
      | cons X above =>
        obtain ⟨rfl, rfl⟩ := List.cons.inj hs
        refine .inside (body ++ above) below ?_ fun h => ?_
        · exact (Config.symbols_replace hst body).trans (List.append_assoc ..).symm
        · rcases List.mem_append.1 h with h | h
          · exact standard_endFree.not_mem_body hb h
          · exact hend (.tail _ h)
    | ended below hs _ =>
      rw [hst] at hs
      cases hs

/-- **No run accepts** after a list of statements with `while` behind it. -/
theorem step_ne_accepted (h : c.Stranded) {steps : List Step}
    (hm : Moves Table.standard c steps d) : d.step Table.standard ≠ .accepted := by
  induction hm with
  | refl =>
    intro ha
    obtain ⟨rest, hst, -⟩ := Config.step_accepted ha
    cases h with
    | inside above below hs hend =>
      rw [hst] at hs
      cases above with
      | nil => cases hs
      | cons X above =>
        obtain ⟨rfl, -⟩ := List.cons.inj hs
        exact hend List.mem_cons_self
    | ended below hs _ =>
      rw [hst] at hs
      cases hs
  | more hs _ ih => exact ih (h.of_moved hs)

end Config.Stranded

/-- An expression that begins with an identifier. -/
theorem Spells.of_expression {s : List Symbol} {v : List Terminal}
    (h : Spells acceptedRules (.nonTerminal expression :: s) (.identifier :: v)) :
    Spells acceptedRules (.terminal .identifier :: .nonTerminal expressionRest :: s)
      (.identifier :: v) := by
  have hall : ∀ r ∈ acceptedRules, r.lhs = expression →
      (Terminal.identifier ∈ leading.firsts r.body →
        r.body = [.terminal .identifier, .nonTerminal expressionRest]) ∧
      leading.allVanish r.body = false := by
    decide
  obtain ⟨r, hr, hl, hb⟩ := h.of_nonTerminal
  obtain ⟨hid, hv⟩ := hall r hr hl
  rcases Starts.mem_firsts_append.1 (leading_closed.mem_firsts hb) with ha | ⟨hv', -⟩
  · rw [hid ha] at hb
    exact hb
  · rw [hv] at hv'
    cases hv'

/-- **What moves lead to acceptance** read off the input, the stack spells. -/
theorem Moves.spells {input : List InputSymbol} (hin : ∀ s ∈ input, s.category ≠ .endMark)
    {c d : Config} {steps : List Step} {front : List Symbol}
    (hm : Moves Table.standard c steps d) (hd : d.step Table.standard = .accepted)
    (w : c.Within input) (ha : c.Above front) :
    Spells acceptedRules c.stack.symbols c.unread := by
  -- Induction on the moves, from the last one back: each puts in front what it read or replaced.
  induction hm generalizing front with
  | refl =>
    obtain ⟨rfl, hc⟩ := ha.of_accepted hin w hd
    rw [ha.symbols_eq, w.unread_of_cursor_eq hc]
    exact .read .endMark .nil
  | @more c d e m steps hs t ih =>
    have w' := Moves.within (.more hs (.refl d)) w
    rcases ha.moved standard_endFree hs with
      ⟨a, rest, rfl, hc, hne, rfl, rfl, ha'⟩ | ⟨A, rest, body, rfl, hb, rfl, rfl, ha'⟩
    · have h := ih hd w' ha'
      rw [ha'.symbols_eq, w.unread_advance (hc ▸ hne)] at h
      rw [ha.symbols_eq, w.unread_eq, hc]
      exact .read a h
    · have h := ih hd w' ha'
      have hu : (c.replace body).unread = c.current.category :: c.unread.tail := w.unread_eq
      rw [ha'.symbols_eq, List.append_assoc, hu] at h
      rw [ha.symbols_eq, w.unread_eq]
      obtain ⟨r, hr, hcl, rfl⟩ := (Table.body?_eq_some_iff _).1 hb
      obtain ⟨rfl, hla⟩ := Rule.mem_claims.1 hcl
      -- The two rules that are not among those of the accepted language come first.
      by_cases hdo : r = .doLoop
      · subst hdo
        exact absurd hd (Config.Stranded.step_ne_accepted
          (.inside [.terminal do_] _ (Config.symbols_replace ha.symbols_eq _) (by decide)) t)
      by_cases hex : r = .expressionStatement
      · subst hex
        have hid : c.current.category = .identifier := List.mem_singleton.1 hla
        rw [hid] at h ⊢
        exact .expand (r := .identifierStatement) (mem_acceptedRules.2 (.inl rfl)) h.of_expression
      · exact .expand (mem_acceptedRules.2 (.inr ⟨hr, hex, hdo⟩)) h

/-! ### Parses -/

theorem inLanguage_iff_spells {rules : List Rule} {text : List Terminal} :
    InLanguage rules text ↔ Spells rules [.nonTerminal .start] text :=
  spells_iff_derives.symm

section

variable {recording : Bool} {input : List InputSymbol}

/-- What is accepted is in the language. -/
theorem inLanguage_of_parse (hin : ∀ s ∈ input, s.category ≠ .endMark)
    (h : (parse recording input).verdict = .accepted) :
    InLanguage acceptedRules (input.map InputSymbol.category) := by
  obtain ⟨steps, d, hm, hd, -⟩ := Table.runFor_accepted hin h
  have hs := hm.spells hin hd (Config.within_initial input) (Config.above_initial input)
  obtain ⟨w, v, hw, hstart, hend⟩ := Spells.split (s := [.nonTerminal .start]) hs
  obtain ⟨v, rfl, hv⟩ := hend.of_terminal
  obtain rfl := hv.of_nil
  have hw : input.map InputSymbol.category = w := List.append_cancel_right hw
  rw [inLanguage_iff_spells, hw]
  exact hstart

theorem Config.open_initial (h : InLanguage acceptedRules (input.map InputSymbol.category)) :
    (initial input).Open where
  spells := (inLanguage_iff_spells.1 h).append (Spells.terminals _ [.endMark])
  fits := ⟨⟨.terminal .endMark, by decide, [], rfl⟩, trivial⟩

/-- What is in the language is accepted. -/
theorem parse_of_inLanguage (hin : ∀ s ∈ input, s.category ≠ .endMark)
    (hover : ∀ depth limit, (parse recording input).verdict ≠ .rejected (.stackDepth depth limit))
    (h : InLanguage acceptedRules (input.map InputSymbol.category)) :
    (parse recording input).verdict = .accepted := by
  have w := Config.within_initial input
  cases hv : (parse recording input).verdict with
  | accepted => rfl
  | undecided => exact absurd hv (parse_decided recording hin)
  | rejected e =>
    obtain ⟨steps, d, hm, ⟨hd, -⟩ | ⟨_, _, depth, -, rfl, -⟩⟩ := Table.runFor_rejected hin hv
    · exact absurd hd (((Config.open_initial h).of_moves w hm).step_ne_rejected (hm.within w) e)
    · exact absurd hv (hover depth _)

/-- **A parse accepts the language of `acceptedRules`.** -/
theorem verdict_accepted_iff (hin : ∀ s ∈ input, s.category ≠ .endMark)
    (hover : ∀ depth limit, (parse recording input).verdict ≠ .rejected (.stackDepth depth limit)) :
    (parse recording input).verdict = .accepted ↔
      InLanguage acceptedRules (input.map InputSymbol.category) :=
  ⟨inLanguage_of_parse hin, parse_of_inLanguage hin hover⟩

end

/-- The rules without `do` loops derive what those with them derive, but for texts with a `do`. -/
theorem inLanguage_acceptedRules_iff {text : List Terminal} :
    InLanguage acceptedRules text ↔
      InLanguage identifierLedRules text ∧ .keyword do_ ∉ text := by
  have hbody : ∀ r ∈ acceptedRules, .terminal (.keyword do_) ∉ r.body := by decide
  rw [inLanguage_iff_spells, inLanguage_iff_spells]
  refine ⟨fun h => ⟨h.mono fun r hr => (List.mem_filter.1 hr).1, ?_⟩, fun ⟨h, hdo⟩ => ?_⟩
  · exact h.not_mem hbody (by decide)
  · exact h.without_do hdo

/-! ### The accepted language -/

section

variable {recording : Bool} {input : List InputSymbol}

/-- A parse that does not overflow accepts its input or rejects a symbol of it. -/
theorem accepted_or_rejected (hin : ∀ s ∈ input, s.category ≠ .endMark)
    (hover : ∀ depth limit, (parse recording input).verdict ≠ .rejected (.stackDepth depth limit)) :
    (parse recording input).verdict = .accepted ∨
      ∃ e, (parse recording input).verdict = .rejected e ∧ e.isInputRejection := by
  cases hv : (parse recording input).verdict with
  | accepted => exact .inl rfl
  | undecided => exact absurd hv (parse_decided recording hin)
  | rejected e =>
    refine .inr ⟨e, rfl, ?_⟩
    obtain ⟨steps, d, hm, ⟨hd, -⟩ | ⟨_, _, depth, -, rfl, -⟩⟩ := Table.runFor_rejected hin hv
    · obtain ⟨front, ha, -⟩ := hm.replays_initial standard_endFree
      rcases Config.step_rejected hd with ⟨_, _, -, -, rfl⟩ | ⟨_, _, -, -, rfl⟩ | ⟨hs, -⟩
      · rfl
      · rfl
      · exact absurd hs ha.ne_nil
    · exact absurd hv (hover depth _)

/-- **The accepted language**, for every input that does not overflow the stack: what the rules
derive without a `do` and with an identifier in front of every expression statement.  It is derived
without the rule for `do` loops, and it is part of what the rules of the grammar derive. -/
theorem parse_accepts_iff (hin : ∀ s ∈ input, s.category ≠ .endMark)
    (hover : ∀ depth limit, (parse recording input).verdict ≠ .rejected (.stackDepth depth limit)) :
    ((parse recording input).verdict = .accepted ↔
      InLanguage identifierLedRules (input.map InputSymbol.category) ∧
        .keyword do_ ∉ input.map InputSymbol.category) ∧
    ((parse recording input).verdict = .accepted ↔
      InLanguage acceptedRules (input.map InputSymbol.category)) ∧
    ((parse recording input).verdict = .accepted →
      InLanguage standardRules (input.map InputSymbol.category)) := by
  have h := verdict_accepted_iff hin hover
  exact ⟨h.trans inLanguage_acceptedRules_iff, h, inLanguage_of_accepted standard_endFree hin⟩

/-- A text with two lists of statements in a row. -/
theorem parse_accepts_nested :
    let text := [Terminal.keyword if_, openParen, .identifier, closeParen, .identifier, semicolon,
      .identifier, semicolon]
    (∀ s ∈ bare text, s.category ≠ .endMark) ∧
    (∀ depth limit, (parse true (bare text)).verdict ≠ .rejected (.stackDepth depth limit)) ∧
    (parse true (bare text)).verdict = .accepted ∧ InLanguage acceptedRules text ∧
    InLanguage standardRules text := by
  intro text
  have hin : ∀ s ∈ bare text, s.category ≠ .endMark := by decide
  have hover := not_overflowed_of_length_le true hin (by decide)
  have hacc : (parse true (bare text)).verdict = .accepted := by decide +kernel
  obtain ⟨-, hrules, hsub⟩ := parse_accepts_iff hin hover
  rw [category_bare] at hrules hsub
  exact ⟨hin, hover, hacc, hrules.1 hacc, hsub hacc⟩

end

/-- A number is an expression but no statement begins with it, although the rules derive one. -/
theorem not_accepts_iff_inLanguage :
    ¬ ∀ (recording : Bool) (input : List InputSymbol), (∀ s ∈ input, s.category ≠ .endMark) →
      (∀ depth limit,
        (parse recording input).verdict ≠ .rejected (.stackDepth depth limit)) →
      ((parse recording input).verdict = .accepted ↔
        InLanguage standardRules (input.map InputSymbol.category) ∧
          .keyword do_ ∉ input.map InputSymbol.category) := by
  intro h
  let text := [Terminal.number, semicolon]
  have hin : ∀ s ∈ bare text, s.category ≠ .endMark := by decide
  have hs : Spells standardRules [.nonTerminal .start] text :=
    .expand (r := ⟨statements, statementStarts, [statement, statements]⟩) (by decide +kernel) <|
    .expand expressionStatement_mem <|
    .expand (r := .startingWith expression Terminal.number [expressionRest]) (by decide +kernel) <|
    .read _ <|
    .expand (r := ⟨expressionRest, [semicolon, closeParen, comma, closeBracket, Terminal.endMark],
      []⟩) (by decide +kernel) <|
    .read _ <|
    .expand (r := ⟨statements, [closeBrace, Terminal.endMark], []⟩) (by decide +kernel) .nil
  have hrej : (parse true (bare text)).verdict ≠ .accepted := by decide +kernel
  refine hrej ((h true (bare text) hin (not_overflowed_of_length_le true hin (by decide))).2 ?_)
  rw [category_bare]
  exact ⟨inLanguage_iff_spells.2 hs, by decide⟩

/-- **Which texts of the grammar are accepted.**  A parse that does not overflow the stack accepts a
text that the rules derive exactly when there is no `do` in it and they derive it with an identifier
in front of every expression statement.  Of any other it rejects a symbol. -/
theorem parse_complete_iff {recording : Bool} {input : List InputSymbol}
    (hin : ∀ s ∈ input, s.category ≠ .endMark)
    (hover : ∀ depth limit, (parse recording input).verdict ≠ .rejected (.stackDepth depth limit)) :
    InLanguage standardRules (input.map InputSymbol.category) →
      ((parse recording input).verdict = .accepted ↔
        .keyword do_ ∉ input.map InputSymbol.category ∧
          InLanguage identifierLedRules (input.map InputSymbol.category)) ∧
      ((parse recording input).verdict ≠ .accepted →
        ∃ e, (parse recording input).verdict = .rejected e ∧ e.isInputRejection) := by
  intro _
  refine ⟨?_, fun hne => ?_⟩
  · rw [and_comm, verdict_accepted_iff hin hover, inLanguage_acceptedRules_iff]
  · rcases accepted_or_rejected hin hover with h | h
    · exact absurd h hne
    · exact h

/-- Of two loops with their condition in front, the inner one without braces, all is accepted. -/
theorem parse_complete_loops :
    let text := [Terminal.keyword while_, openParen, .identifier, closeParen, while_, openParen,
      .identifier, closeParen, break_, semicolon]
    (∀ s ∈ bare text, s.category ≠ .endMark) ∧
    (∀ depth limit, (parse false (bare text)).verdict ≠ .rejected (.stackDepth depth limit)) ∧
    InLanguage standardRules text ∧ (parse false (bare text)).verdict = .accepted ∧
    .keyword do_ ∉ text ∧ InLanguage identifierLedRules text := by
  intro text
  have hin : ∀ s ∈ bare text, s.category ≠ .endMark := by decide
  have hover := not_overflowed_of_length_le false hin (by decide)
  have hacc : (parse false (bare text)).verdict = .accepted := by decide +kernel
  have hL := inLanguage_of_accepted standard_endFree hin hacc
  have hiff := (parse_complete_iff hin hover hL).1
  rw [category_bare] at hL hiff
  exact ⟨hin, hover, hL, hacc, hiff.1 hacc⟩

/-- A loop with its condition behind it is derived and not accepted. -/
theorem not_complete :
    ¬ ∀ (recording : Bool) (input : List InputSymbol), (∀ s ∈ input, s.category ≠ .endMark) →
      (∀ depth limit,
        (parse recording input).verdict ≠ .rejected (.stackDepth depth limit)) →
      InLanguage standardRules (input.map InputSymbol.category) →
      (parse recording input).verdict = .accepted := by
  intro h
  let text := [Terminal.keyword do_, break_, semicolon, while_, openParen, .identifier, closeParen,
    semicolon]
  have hin : ∀ s ∈ bare text, s.category ≠ .endMark := by decide
  have hmore : (⟨statements, statementStarts, [statement, statements]⟩ : Rule) ∈ standardRules := by
    decide +kernel
  have hnone : (⟨statements, [closeBrace, Terminal.endMark], []⟩ : Rule) ∈ standardRules := by
    decide +kernel
  have hcontrol : (⟨statement, controlStarts, [control]⟩ : Rule) ∈ standardRules := by
    decide +kernel
  have hbreak : Rule.startingWith control break_ [semicolon] ∈ standardRules := by decide +kernel
  have hname : Rule.startingWith expression Terminal.identifier [expressionRest] ∈
      standardRules := by
    decide +kernel
  have hrest : (⟨expressionRest,
      [semicolon, closeParen, comma, closeBracket, Terminal.endMark], []⟩ : Rule) ∈
      standardRules := by
    decide +kernel
  have hs : Spells standardRules [.nonTerminal .start] text :=
    -- `do`, and `break ;` for its statements
    .expand hmore <| .expand hcontrol <| .expand doLoop_mem <| .read _ <|
    .expand hmore <| .expand hcontrol <| .expand hbreak <| .read _ <| .read _ <| .expand hnone <|
    -- `while`, and the condition
    .read _ <| .read _ <| .expand hname <| .read _ <| .expand hrest <| .read _ <| .read _ <|
    .expand hnone .nil
  have hrej : (parse true (bare text)).verdict ≠ .accepted := by decide +kernel
  refine hrej (h true (bare text) hin (not_overflowed_of_length_le true hin (by decide)) ?_)
  rw [category_bare]
  exact inLanguage_iff_spells.2 hs

end Lookahead
