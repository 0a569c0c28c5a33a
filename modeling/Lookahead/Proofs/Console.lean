import Lookahead.Proofs.FileContexts
import Lookahead.Proofs.FirstFault

/-!
# The console

What is on the console is for a reader, and never read again: sessions that differ in nothing else
are alike to every computation that does no more than tell notes, and to a batch in turn, whose
announcements are on the console.

* `Session.likeness_sameButConsole`: such sessions stay so, whatever is told.
* `BatchChoices.course_sameButConsole`: what becomes of files in them.
-/

namespace Lookahead

open Session

namespace Session

/-- Sessions that differ in nothing but what is on the console. -/
def SameButConsole (s t : Session) : Prop := ∃ out err, t = { s with out, err }

namespace SameButConsole

variable {s t : Session}

theorem write (h : SameButConsole s t) (e : LogEvent) (k : Sink) :
    SameButConsole (s.write e k) (t.write e k) := by
  obtain ⟨out, err, rfl⟩ := h
  cases k with
  | memory => exact ⟨out, err, rfl⟩
  | console =>
    rw [Session.write, Session.write]
    split <;> exact ⟨_, _, rfl⟩
  | file path structured =>
    rw [Session.write, Session.write]
    dsimp only
    split <;> exact ⟨out, err, rfl⟩

theorem emit (h : SameButConsole s t) (e : LogEvent) : SameButConsole (s.emit e) (t.emit e) := by
  obtain ⟨out, err, rfl⟩ := h
  unfold Session.emit
  dsimp only
  split
  · exact List.foldl_rel ⟨out, err, rfl⟩ fun k _ _ _ h => h.write e k
  · exact ⟨out, err, rfl⟩

theorem collect (h : SameButConsole s t) (e : LogEvent) :
    SameButConsole (s.collect e) (t.collect e) := by
  obtain ⟨out, err, rfl⟩ := h
  unfold Session.collect
  dsimp only
  split <;> exact ⟨out, err, rfl⟩

theorem hear (h : SameButConsole s t) (e : LogEvent) : SameButConsole (s.hear e) (t.hear e) := by
  unfold Session.hear
  split
  · exact (h.emit e).collect e
  · exact h.emit e

theorem context (h : SameButConsole s t) (c : Option FileContext) :
    SameButConsole { s with context := c } { t with context := c } := by
  obtain ⟨out, err, rfl⟩ := h
  exact ⟨out, err, rfl⟩

theorem printLine (h : SameButConsole s t) (line : String) :
    SameButConsole (s.printLine line) (t.printLine line) := by
  obtain ⟨out, err, rfl⟩ := h
  exact ⟨_, err, rfl⟩

end SameButConsole

/-- **Sessions that differ on the console alone are alike.** -/
theorem likeness_sameButConsole : Likeness SameButConsole where
  refl s := ⟨s.out, s.err, rfl⟩
  files_eq := by
    rintro s _ ⟨out, err, rfl⟩
    rfl
  take := by
    intro s t h n
    have hevent : n.event t = n.event s ∧ n.isTold t = n.isTold s := by
      obtain ⟨out, err, rfl⟩ := h
      cases n <;> exact ⟨rfl, rfl⟩
    unfold Session.take
    rw [hevent.1, hevent.2]
    split
    · exact h.hear _
    · exact h

end Session

namespace BatchChoices

variable {s t : Session}

/-- **A search tells notes**, and finds the same in sessions that are alike. -/
theorem plain_discover {A : Session → Session → Prop} (hA : Likeness A) (c : BatchChoices)
    (dir : Path) : Plain A (c.discover dir).run := by
  have hrefuse : ∀ {α : Type} {e : BatchError} {message : String}
      {context : List (String × String)}, "file_id" ∉ context.map Prod.fst →
        Plain A (refuse e message context : ExceptT BatchError Logged α).run :=
    fun h => .afterE hA (.error h) .pure
  have hwalk : Plain A (c.walk dir).run := by
    refine .getE (fun s t h => ?_) fun s => ?_
    · rw [hA.files_eq h]
    · split
      · exact .alsoE hA (.warning (by simp)) .pure
      · exact hrefuse (by simp)
  exact .afterE hA (.info (by simp)) (.bindE hA hwalk fun found =>
    .whenE hA (hrefuse (by simp)) (.whenE hA (hrefuse (by simp))
      (.afterE hA (.success (by simp)) .pure)))

theorem plain_found {A : Session → Session → Prop} (hA : Likeness A) (c : BatchChoices)
    (dir : Path) : Plain A (c.found dir).run := by
  unfold found
  split
  · exact .afterE hA (.info (by simp)) (plain_discover hA c dir)
  · exact .afterE hA (.info (by simp)) (.bindE hA (plain_discover hA c dir) fun _ =>
      .afterE hA (.debug (by simp)) .pure)

theorem ofFile_sameButConsole (h : SameButConsole s t) (preferences : Preferences) (path : Path)
    (id : Nat) :
    (Analysis.ofFile preferences path id s).1 = (Analysis.ofFile preferences path id t).1 ∧
      SameButConsole (Analysis.ofFile preferences path id s).2
        (Analysis.ofFile preferences path id t).2 := by
  have hwork := (Analysis.tells_work likeness_sameButConsole preferences path).alike
    likeness_sameButConsole (h.context (some ⟨path, id⟩))
  exact ⟨hwork.1, hwork.2.context none⟩

theorem outcomesInTurn_sameButConsole (preferences : Preferences)
    {announce : Path → Nat → Logged Unit}
    (hannounce : ∀ path id {s t}, SameButConsole s t →
      SameButConsole (announce path id s).2 (announce path id t).2)
    (items : List (Path × Nat)) {s t : Session} (h : SameButConsole s t) :
    outcomesInTurn preferences announce items s = outcomesInTurn preferences announce items t := by
  induction items generalizing s t with
  | nil => rfl
  | cons item items ih =>
    obtain ⟨hresult, hsession⟩ :=
      ofFile_sameButConsole (hannounce item.1 item.2 h) preferences item.1 item.2
    exact congrArg₂ (fun r os => ⟨item.1, r⟩ :: os) hresult (ih hsession)

/-- **What is on the console has no part in what becomes of files.** -/
theorem course_sameButConsole (h : SameButConsole s t) (c : BatchChoices) (files : List Path) :
    c.course files s = c.course files t := by
  have hannounce : ∀ path id {s t : Session}, SameButConsole s t →
      SameButConsole (c.announce files.length path id s).2
        (c.announce files.length path id t).2 := by
    intro path id s t h
    unfold announce
    split
    · exact h.printLine _
    · exact h
  unfold course
  split
  · exact outcomesInTurn_sameButConsole _ hannounce _ h
  · exact outcomesInTurn_sameButConsole _ (fun _ _ _ _ h => h) _ h

end BatchChoices

end Lookahead
