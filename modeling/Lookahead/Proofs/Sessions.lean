import Lookahead.Proofs.FilesWritten
import Lookahead.Session

/-!
# Computations in sessions

What is told while work is done changes the session, but not what comes of the work.  A property of
sessions is lasting if telling keeps it (`Session.Lasting`); what a computation ensures
(`Ensures`), and that it gives the same in any two sessions of a kind (`Fixed`), are shown part by
part, and for what is told there is nothing to show but that the property lasts.

* `Session.emit_frame`: what is logged changes no more than the log, the console and files.
* `Session.lasting_over`: files are not changed by what is told, if the log goes to none of them.
* `Session.lasting_shows`: nor is what a path leads to, if no log is kept there.
-/

namespace Lookahead

variable {α β ε ζ : Type} {P : Session → Prop}

/-- A computation that looks at the session goes on with the one it is run in. -/
theorem run_get_bind (f : Session → ExceptT ε Logged β) (s : Session) :
    (get >>= f).run s = (f s).run s := rfl

/-- A computation goes on from what its first part results in, in the session that it leaves. -/
theorem run_bind_eq (m : ExceptT ε Logged α) (f : α → ExceptT ε Logged β) (s : Session) :
    (m >>= f).run s = (ExceptT.bindCont f (m.run s).1 : Logged (Except ε β)) (m.run s).2 := rfl

/-- A computation goes on in the session that it has told something. -/
theorem run_told_bind (m : Logged Unit) (f : Unit → ExceptT ε Logged β) (s : Session) :
    ((liftM m : ExceptT ε Logged Unit) >>= f).run s = (f ()).run (m s).2 := rfl

/-! ### What a computation ensures -/

/-- In a session with the property `P` the computation has a result with the property `Q`, and
leaves a session with the property `P`. -/
def Ensures (P : Session → Prop) (m : Logged α) (Q : α → Prop) : Prop :=
  ∀ s, P s → Q (m s).1 ∧ P (m s).2

namespace Ensures

theorem pure {Q : α → Prop} {a : α} (h : Q a) : Ensures P (Pure.pure a) Q := fun _ hs => ⟨h, hs⟩

theorem bind {m : Logged α} {f : α → Logged β} {Q : α → Prop} {R : β → Prop}
    (hm : Ensures P m Q) (hf : ∀ a, Q a → Ensures P (f a) R) : Ensures P (m >>= f) R := by
  intro s hs
  obtain ⟨ha, hs'⟩ := hm s hs
  exact hf _ ha _ hs'

theorem mono {m : Logged α} {Q R : α → Prop} (hm : Ensures P m Q) (h : ∀ a, Q a → R a) :
    Ensures P m R := fun s hs => ⟨h _ (hm s hs).1, (hm s hs).2⟩

/-- What is done for its effect alone has no part in the result. -/
theorem after {m : Logged Unit} {f : Unit → Logged β} {R : β → Prop}
    (hm : Ensures P m fun _ => True) (hf : Ensures P (f ()) R) : Ensures P (m >>= f) R :=
  hm.bind fun _ _ => hf

theorem modify {f : Session → Session} (h : ∀ s, P s → P (f s)) :
    Ensures P (modify f : Logged Unit) fun _ => True := fun s hs => ⟨trivial, h s hs⟩

theorem ite {p : Prop} [Decidable p] {m n : Logged α} {Q : α → Prop}
    (hm : p → Ensures P m Q) (hn : ¬ p → Ensures P n Q) : Ensures P (if p then m else n) Q := by
  split
  · exact hm ‹_›
  · exact hn ‹_›

theorem forIn {as : List α} {f : α → Unit → Logged (ForInStep Unit)}
    (h : ∀ a, Ensures P (f a ()) fun r => r = .yield ()) :
    Ensures P (forIn as () f) fun _ => True := by
  induction as with
  | nil => exact .pure trivial
  | cons a as ih =>
    rw [List.forIn_cons]
    refine (h a).bind ?_
    rintro _ rfl
    exact ih

theorem mapM {as : List α} {f : α → Logged β} {g : α → β}
    (h : ∀ a ∈ as, Ensures P (f a) (· = g a)) : Ensures P (as.mapM f) (· = as.map g) := by
  induction as with
  | nil => exact .pure rfl
  | cons a as ih =>
    obtain ⟨ha, has⟩ := List.forall_mem_cons.1 h
    rw [List.mapM_cons]
    refine ha.bind ?_
    rintro _ rfl
    refine (ih has).bind ?_
    rintro _ rfl
    exact .pure rfl

/-! #### Computations that may fail -/

theorem bindE {m : ExceptT ε Logged α} {f : α → ExceptT ε Logged β} {Q : Except ε α → Prop}
    {R : Except ε β → Prop} (hm : Ensures P m.run Q) (hok : ∀ a, Q (.ok a) → Ensures P (f a).run R)
    (herror : ∀ e, Q (.error e) → R (.error e)) : Ensures P (m >>= f).run R := by
  change Ensures P (m.run >>= ExceptT.bindCont f) R
  refine hm.bind fun r hr => ?_
  cases r with
  | ok a => exact hok a hr
  | error e => exact .pure (herror e hr)

/-- Two computations in a row have the results of both in a row. -/
theorem thenE {m : ExceptT ε Logged α} {f : α → ExceptT ε Logged β} {r : Except ε α}
    {g : α → Except ε β} (hm : Ensures P m.run (· = r))
    (hf : ∀ a, r = .ok a → Ensures P (f a).run (· = g a)) :
    Ensures P (m >>= f).run (· = r >>= g) := by
  refine bindE hm (fun a ha => (hf a ha.symm).mono ?_) fun e he => ?_
  · rintro _ rfl
    rw [← ha]
    rfl
  · rw [← he]
    rfl

theorem liftBindE {m : Logged α} {f : α → ExceptT ε Logged β} {Q : α → Prop}
    {R : Except ε β → Prop} (hm : Ensures P m Q) (hf : ∀ a, Q a → Ensures P (f a).run R) :
    Ensures P ((liftM m : ExceptT ε Logged α) >>= f).run R :=
  fun s hs => hf _ (hm s hs).1 _ (hm s hs).2

theorem afterE {m : Logged Unit} {f : Unit → ExceptT ε Logged β} {R : Except ε β → Prop}
    (hm : Ensures P m fun _ => True) (hf : Ensures P (f ()).run R) :
    Ensures P ((liftM m : ExceptT ε Logged Unit) >>= f).run R := liftBindE hm fun _ _ => hf

/-- Something may be done on a condition before the rest; if it fails, so does the whole. -/
theorem whenE {p : Prop} [Decidable p] {m : ExceptT ε Logged Unit} {f : Unit → ExceptT ε Logged β}
    {R : Except ε β → Prop} (hm : Ensures P m.run fun _ => True) (hf : Ensures P (f ()).run R)
    (herror : ∀ e, R (.error e)) : Ensures P (if p then m >>= f else f ()).run R := by
  split
  · exact bindE hm (fun _ _ => hf) fun e _ => herror e
  · exact hf

/-- Something may be told on a condition before the rest. -/
theorem alsoE {p : Prop} [Decidable p] {m : Logged Unit} {f : Unit → ExceptT ε Logged β}
    {R : Except ε β → Prop} (hm : Ensures P m fun _ => True) (hf : Ensures P (f ()).run R) :
    Ensures P (if p then (liftM m : ExceptT ε Logged Unit) >>= f else f ()).run R := by
  split
  · exact afterE hm hf
  · exact hf

/-- The rest may be refused on a condition. -/
theorem unlessE {p : Prop} [Decidable p] {m : ExceptT ε Logged Unit}
    {f : Unit → ExceptT ε Logged β} {e : ε} {R : Except ε β → Prop}
    (hm : Ensures P m.run (· = .error e)) (he : p → R (.error e))
    (hf : ¬ p → Ensures P (f ()).run R) : Ensures P (if p then m >>= f else f ()).run R := by
  split
  · next h =>
    refine bindE hm nofun fun e' he' => ?_
    cases he'
    exact he h
  · next h => exact hf h

theorem liftE {m : Logged α} {R : Except ε α → Prop} (hm : Ensures P m fun a => R (.ok a)) :
    Ensures P (liftM m : ExceptT ε Logged α).run R :=
  fun s hs => hm s hs

theorem getE {f : Session → ExceptT ε Logged β} {R : Except ε β → Prop}
    (hf : ∀ s, P s → Ensures P (f s).run R) : Ensures P (get >>= f).run R :=
  fun s hs => hf s hs s hs

theorem adapt {m : ExceptT ε Logged α} {f : ε → ζ} {R : Except ζ α → Prop}
    (hm : Ensures P m.run fun r => R (r.mapError f)) : Ensures P (m.adapt f).run R :=
  fun s hs => hm s hs

/-- What comes of a computation is what the rest ensures, from the result of its first part. -/
theorem fst_run_bind {m : ExceptT ε Logged α} {f : α → ExceptT ε Logged β} {a : α} {s : Session}
    {r : Except ε β} (hm : (m.run s).1 = .ok a)
    (hf : Ensures (fun _ => True) (f a).run (· = r)) : ((m >>= f).run s).1 = r := by
  change (ExceptT.bindCont f (m.run s).1 (m.run s).2).1 = r
  rw [hm]
  exact (hf _ trivial).1

end Ensures

/-! ### What does not depend on the session -/

/-- In any two sessions with the property `P` the computation has the same result, and it leaves
sessions with that property. -/
def Fixed (P : Session → Prop) (m : Logged α) : Prop :=
  ∀ s t, P s → P t → (m s).1 = (m t).1 ∧ P (m s).2

theorem Ensures.fixed {m : Logged α} {a : α} (h : Ensures P m (· = a)) : Fixed P m :=
  fun s t hs ht => ⟨(h s hs).1.trans (h t ht).1.symm, (h s hs).2⟩

namespace Fixed

theorem ensures {m : Logged α} (h : Fixed P m) {s : Session} (hs : P s) :
    Ensures P m (· = (m s).1) := fun t ht => h t s ht hs

theorem bind {m : Logged α} {f : α → Logged β} (hm : Fixed P m) (hf : ∀ a, Fixed P (f a)) :
    Fixed P (m >>= f) := by
  intro s t hs ht
  obtain ⟨ha, hs'⟩ := hm s t hs ht
  obtain ⟨hb, hs''⟩ := hf (m s).1 _ _ hs' (hm t s ht hs).2
  refine ⟨hb.trans ?_, hs''⟩
  rw [ha]
  rfl

/-- A computation without a result can only leave a session without the property. -/
theorem of_unit {m : Logged Unit} (hm : Ensures P m fun _ => True) : Fixed P m :=
  fun s _ hs _ => ⟨rfl, (hm s hs).2⟩

theorem pureE {a : α} : Fixed P (pure a : ExceptT ε Logged α).run := fun _ _ hs _ => ⟨rfl, hs⟩

theorem throwE {e : ε} : Fixed P (throw e : ExceptT ε Logged α).run := fun _ _ hs _ => ⟨rfl, hs⟩

theorem bindE {m : ExceptT ε Logged α} {f : α → ExceptT ε Logged β} (hm : Fixed P m.run)
    (hf : ∀ a, Fixed P (f a).run) : Fixed P (m >>= f).run := by
  change Fixed P (m.run >>= ExceptT.bindCont f)
  refine hm.bind fun r => ?_
  cases r with
  | ok a => exact hf a
  | error e => exact throwE

theorem liftE {m : Logged α} (hm : Fixed P m) : Fixed P (liftM m : ExceptT ε Logged α).run := by
  intro s t hs ht
  obtain ⟨ha, hs'⟩ := hm s t hs ht
  exact ⟨congrArg Except.ok ha, hs'⟩

theorem afterE {m : Logged Unit} {f : Unit → ExceptT ε Logged β} (hm : Ensures P m fun _ => True)
    (hf : Fixed P (f ()).run) : Fixed P ((liftM m : ExceptT ε Logged Unit) >>= f).run :=
  bindE (liftE (of_unit hm)) fun _ => hf

/-- Something may be done on a condition before the rest. -/
theorem whenE {p : Prop} [Decidable p] {m : ExceptT ε Logged Unit} {f : Unit → ExceptT ε Logged β}
    (hm : Fixed P m.run) (hf : Fixed P (f ()).run) :
    Fixed P (if p then m >>= f else f ()).run := by
  split
  · exact bindE hm fun _ => hf
  · exact hf

/-- A computation may look at what sessions with the property have in common. -/
theorem getE {f : Session → ExceptT ε Logged β} (heq : ∀ s t, P s → P t → f s = f t)
    (hf : ∀ s, P s → Fixed P (f s).run) : Fixed P (get >>= f).run := by
  intro s t hs ht
  obtain ⟨hb, hs'⟩ := hf s hs s t hs ht
  refine ⟨hb.trans ?_, hs'⟩
  rw [heq s t hs ht]
  rfl

end Fixed

/-! ### What is told -/

namespace Session

/-- An event that is written changes the log, the console or a file, and nothing else. -/
theorem write_frame (e : LogEvent) (s : Session) (k : Sink) :
    ∃ memory files out err, write e s k = { s with memory, files, out, err } := by
  cases k with
  | memory => exact ⟨_, _, _, _, rfl⟩
  | console =>
    rw [write]
    split <;> exact ⟨_, _, _, _, rfl⟩
  | file =>
    rw [write]
    split <;> exact ⟨_, _, _, _, rfl⟩

/-- What every write to one of the sinks keeps is kept when an event goes to all of them. -/
theorem emit_induction {Q : Session → Prop} {s : Session} (hs : Q s) {e : LogEvent}
    (hwrite : ∀ t, Q t → ∀ k ∈ t.sinks, Q (write e t k)) : Q (s.emit e) := by
  unfold emit
  split
  · -- the sinks are those of the session that the event is told in, whatever is written
    have hkept : Q (s.sinks.foldl (write e) s) ∧ (s.sinks.foldl (write e) s).sinks = s.sinks := by
      refine List.foldlRecOn (motive := fun t => Q t ∧ t.sinks = s.sinks) s.sinks (write e)
        ⟨hs, rfl⟩ ?_
      rintro t ⟨ht, hsinks⟩ k hk
      obtain ⟨_, _, _, _, h⟩ := write_frame e t k
      refine ⟨hwrite t ht k (hsinks ▸ hk), ?_⟩
      rw [h]
      exact hsinks
    exact hkept.1
  · exact hs

/-- An event that is logged changes the log, the console and files, and nothing else. -/
theorem emit_frame (e : LogEvent) (s : Session) :
    ∃ memory files out err, s.emit e = { s with memory, files, out, err } := by
  refine emit_induction
    (Q := fun t => ∃ memory files out err, t = { s with memory, files, out, err })
    ⟨s.memory, s.files, s.out, s.err, rfl⟩ ?_
  rintro _ ⟨_, _, _, _, rfl⟩ k -
  obtain ⟨_, _, _, _, h⟩ := write_frame e _ k
  exact ⟨_, _, _, _, h⟩

/-- An error that is kept changes the report, and nothing else. -/
theorem collect_frame (e : LogEvent) (s : Session) :
    ∃ collector, s.collect e = { s with collector } := by
  unfold collect
  split <;> exact ⟨_, rfl⟩

/-- A property of sessions that is kept whatever is told. -/
structure Lasting (P : Session → Prop) : Prop where
  emit {s : Session} (h : P s) (e : LogEvent) : P (s.emit e)
  collect {s : Session} (h : P s) (e : LogEvent) : P (s.collect e)
  context {s : Session} (h : P s) (c : Option FileContext) : P { s with context := c }
  printText {s : Session} (h : P s) (text : String) : P (s.printText text)

namespace Lasting

variable {message : String} {context : List (String × String)} {code : Code}

theorem info (hP : Lasting P) : Ensures P (Session.info message context) fun _ => True :=
  .modify fun _ hs => hP.emit hs _

theorem error (hP : Lasting P) {span : Option Span} :
    Ensures P (Session.error code message context span) fun _ => True :=
  .modify fun _ hs => hP.collect (hP.emit hs _) _

theorem success (hP : Lasting P) : Ensures P (Session.success code message context) fun _ => True :=
  .modify fun _ hs => hP.emit hs _

theorem warning (hP : Lasting P) : Ensures P (Session.warning message context) fun _ => True :=
  .modify fun _ hs => hP.emit hs _

theorem debug (hP : Lasting P) : Ensures P (Session.debug message context) fun _ => True :=
  .modify fun _ hs => by
    split
    · exact hP.emit hs _
    · exact hs

theorem print (hP : Lasting P) {line : String} : Ensures P (Session.print line) fun _ => True :=
  .modify fun _ hs => hP.printText (hP.printText hs _) _

theorem ensures_withFile (hP : Lasting P) {path : Path} {id : Nat} {work : Logged α} {Q : α → Prop}
    (h : Ensures P work Q) : Ensures P (withFile path id work) Q :=
  .after (.modify fun _ hs => hP.context hs _)
    (h.bind fun _ ha => .after (.modify fun _ hs => hP.context hs _) (.pure ha))

end Lasting

theorem lasting_true : Lasting fun _ => True :=
  ⟨fun _ _ => trivial, fun _ _ => trivial, fun _ _ => trivial, fun _ _ => trivial⟩

/-- Several properties last if each of them does. -/
theorem lasting_forall {ι : Type} {P : ι → Session → Prop} (h : ∀ i, Lasting (P i)) :
    Lasting fun s => ∀ i, P i s where
  emit hs e i := (h i).emit (hs i) e
  collect hs e i := (h i).collect (hs i) e
  context hs c i := (h i).context (hs i) c
  printText hs text i := (h i).printText (hs i) text

/-- A session over these files, whose log goes to none of them. -/
structure Over (files : FileTree) (s : Session) : Prop where
  files_eq : s.files = files
  unlogged : ∀ path structured, Sink.file path structured ∉ s.sinks

theorem Over.write {files : FileTree} {s : Session} (h : Over files s) (e : LogEvent) {k : Sink}
    (hk : k ∈ s.sinks) : Over files (write e s k) := by
  cases k with
  | memory => exact ⟨h.files_eq, h.unlogged⟩
  | console =>
    rw [Session.write]
    split <;> exact ⟨h.files_eq, h.unlogged⟩
  | file path structured => exact absurd hk (h.unlogged path structured)

theorem lasting_over (files : FileTree) : Lasting (Over files) where
  emit h _ := emit_induction h fun _ ht _ hk => ht.write _ hk
  collect {s} h e := by
    obtain ⟨_, hcollect⟩ := collect_frame e s
    rw [hcollect]
    exact ⟨h.files_eq, h.unlogged⟩
  context h _ := ⟨h.files_eq, h.unlogged⟩
  printText h _ := ⟨h.files_eq, h.unlogged⟩

/-! ### Logs in files -/

variable {path : Path} {x : Option (List String × Standing)} {s : Session}

/-- No log is kept in the file that a path writes. -/
def Spares (path : Path) (s : Session) : Prop :=
  ∀ log structured place, Sink.file log structured ∈ s.sinks →
    s.files.placeForWriting log = .ok place → s.files.placeForWriting path ≠ .ok place

theorem Over.spares {files : FileTree} (h : Over files s) : s.Spares path :=
  fun log structured _ hlog => absurd hlog (h.unlogged log structured)

theorem spares_inMemory (preferences : LogPreferences) (files : FileTree) (path : Path) :
    (inMemory preferences files).Spares path := fun _ _ _ hlog => by simp [inMemory] at hlog

/-- Writing makes no place out of another that a path or a log writes. -/
theorem Spares.put (h : s.Spares path) {q : Path} {place : List String}
    (hq : s.files.placeForWriting q = .ok place) (bytes : ByteArray) :
    Spares path { s with files := s.files.put place bytes } := by
  have hsame := FileTree.sameFixtures_put hq bytes
  intro log structured place' hlog hplace' hpath
  exact h log structured place' hlog (hsame.placeForWriting_iff.2 hplace')
    (hsame.placeForWriting_iff.2 hpath)

/-- A path leads to `x`, and no log is kept there. -/
structure Shows (path : Path) (x : Option (List String × Standing)) (s : Session) : Prop where
  target_eq : s.files.target path = x
  spares : s.Spares path

theorem Shows.write (h : Shows path x s) {k : Sink} (hk : k ∈ s.sinks) (e : LogEvent) :
    Shows path x (write e s k) := by
  cases k with
  | memory => exact ⟨h.target_eq, h.spares⟩
  | console =>
    rw [Session.write]
    split <;> exact ⟨h.target_eq, h.spares⟩
  | file log structured =>
    rw [Session.write]
    split
    · next files hfiles =>
      obtain ⟨place, bytes, hplace, rfl⟩ := FileTree.append_eq_ok hfiles
      have hne := h.spares log structured place hk hplace
      exact ⟨(FileTree.target_put_of_ne hplace bytes hne).trans h.target_eq,
        h.spares.put hplace bytes⟩
    · exact h

/-- **What is told does not change what a path leads to**, if no log is kept there. -/
theorem lasting_shows (path : Path) (x : Option (List String × Standing)) :
    Lasting (Shows path x) where
  emit h _ := emit_induction h fun _ ht _ hk => ht.write hk _
  collect {s} h e := by
    obtain ⟨_, hcollect⟩ := collect_frame e s
    rw [hcollect]
    exact ⟨h.target_eq, h.spares⟩
  context h _ := ⟨h.target_eq, h.spares⟩
  printText h _ := ⟨h.target_eq, h.spares⟩

end Session

end Lookahead
