import Lookahead.Proofs.Sessions

/-!
# Notes

A note is what is told by itself; what a session adds to it, from the file that is worked on, makes
it an event.  A computation tells notes if it changes a session in no other way than by their events
(`Tells`), and if it tells the same notes in sessions that are alike: what is told is then told by
the computation, and what is added by the session alone.

* `Session.takeAll_eq`: the events of notes are those of the session that they begin in.
* `Tells.bind`, `Plain.bindE`: the notes of computations one after the other.
* `Session.likeness_unlogged`: with no log among the files, sessions over the same files are alike.
-/

namespace Lookahead

variable {α β ε ζ : Type}

/-- Something told, without what a session adds to it. -/
inductive Note where
  | error (code : Code) (message : String) (values : List (String × String)) (span : Option Span)
  | success (code : Code) (message : String) (values : List (String × String))
  | info (message : String) (values : List (String × String))
  | warning (message : String) (values : List (String × String))
  | debug (message : String) (values : List (String × String))

namespace Note

/-- The event of the note alone. -/
def bare (now : Timestamp) : Note → LogEvent
  | error code message values span =>
    { (LogEvent.error now code.text (clipMessage message)).withContext values with span }
  | success code message values =>
    (LogEvent.success now code.text (clipMessage message)).withContext values
  | info message values => (LogEvent.info now (clipMessage message)).withContext values
  | warning message values => (LogEvent.warning now message).withContext values
  | debug message values => (LogEvent.debug now message).withContext values

/-- What a session adds. -/
def added (s : Session) : Note → List (String × String)
  | error .. | success .. => s.fileAndId
  | info .. => s.fileIfWanted
  | warning .. | debug .. => s.fileAlways

/-- The event that a session makes of the note. -/
def event (s : Session) (n : Note) : LogEvent := (n.bare s.now).withContext (n.added s)

/-- A session makes an event of a detail only if its preferences ask for details. -/
def isTold (s : Session) : Note → Bool
  | debug .. => LogLevel.debug.within s.preferences.level
  | _ => true

/-- The note comes with values under these keys. -/
def keys : Note → List String
  | error _ _ values _ | success _ _ values | info _ values | warning _ values | debug _ values =>
    values.map Prod.fst

end Note

/-! ### Hearing -/

namespace Session

/-- Hear an event: it is logged, and an error is kept for the report. -/
def hear (s : Session) (e : LogEvent) : Session :=
  if e.isError then (s.emit e).collect e else s.emit e

/-- The events that the session makes of notes. -/
def eventsOf (s : Session) (ns : List Note) : List LogEvent :=
  (ns.filter (·.isTold s)).map (·.event s)

/-- Take a note: its event is heard, if there is one. -/
def take (s : Session) (n : Note) : Session := if n.isTold s then s.hear (n.event s) else s

/-- Take notes, one after the other. -/
def takeAll (s : Session) (ns : List Note) : Session := ns.foldl take s

theorem takeAll_append (s : Session) (ns ms : List Note) :
    s.takeAll (ns ++ ms) = (s.takeAll ns).takeAll ms := List.foldl_append

/-! #### What makes events of notes -/

/-- What a session makes events of notes by. -/
def voice (s : Session) : Timestamp × Option FileContext × LogPreferences :=
  (s.now, s.context, s.preferences)

theorem voice_hear (s : Session) (e : LogEvent) : (s.hear e).voice = s.voice := by
  obtain ⟨_, _, _, _, hemit⟩ := emit_frame e s
  obtain ⟨_, hcollect⟩ := collect_frame e (s.emit e)
  unfold hear
  split
  · rw [hcollect, hemit]
    rfl
  · rw [hemit]
    rfl

theorem eventsOf_congr {s t : Session} (h : s.voice = t.voice) (ns : List Note) :
    s.eventsOf ns = t.eventsOf ns := by
  obtain ⟨hnow, hrest⟩ := Prod.mk.inj h
  obtain ⟨hcontext, hpreferences⟩ := Prod.mk.inj hrest
  have htold : ∀ n : Note, n.isTold s = n.isTold t := fun n => by
    cases n with
    | debug => exact congrArg (fun p : LogPreferences => LogLevel.debug.within p.level) hpreferences
    | _ => rfl
  have hevent : ∀ n : Note, n.event s = n.event t := fun n => by
    rw [Note.event, Note.event, hnow]
    cases n <;>
      simp only [Note.added, fileAndId, fileIfWanted, fileAlways, hcontext, hpreferences]
  rw [eventsOf, eventsOf, funext htold, funext hevent]

/-- **The events of notes are those of the session that they begin in.** -/
theorem takeAll_eq (s : Session) (ns : List Note) :
    s.takeAll ns = (s.eventsOf ns).foldl hear s := by
  induction ns generalizing s with
  | nil => rfl
  | cons n ns ih =>
    refine (ih (s.take n)).trans ?_
    by_cases hn : n.isTold s
    · have htail : (s.take n).eventsOf ns = s.eventsOf ns := by
        rw [take, if_pos hn]
        exact eventsOf_congr (voice_hear s _) ns
      have hcons : s.eventsOf (n :: ns) = n.event s :: s.eventsOf ns := by
        rw [eventsOf, List.filter_cons_of_pos hn]
        rfl
      rw [htail, hcons, List.foldl_cons, take, if_pos hn]
    · have hcons : s.eventsOf (n :: ns) = s.eventsOf ns := by
        rw [eventsOf, List.filter_cons_of_neg hn]
        rfl
      rw [hcons, take, if_neg hn]

end Session

/-- A lasting property is kept by notes. -/
theorem Session.Lasting.take {P : Session → Prop} (hP : Lasting P) {s : Session} (h : P s)
    (n : Note) : P (s.take n) := by
  unfold Session.take Session.hear
  split
  · split
    · exact hP.collect (hP.emit h _) _
    · exact hP.emit h _
  · exact h

/-! ### Sessions that are alike -/

/-- Sessions that are alike are over the same files, and stay alike when both take a note. -/
structure Likeness (A : Session → Session → Prop) : Prop where
  refl (s : Session) : A s s
  files_eq {s t : Session} (h : A s t) : s.files = t.files
  take {s t : Session} (h : A s t) (n : Note) : A (s.take n) (t.take n)

theorem Likeness.takeAll {A : Session → Session → Prop} (hA : Likeness A) {s t : Session}
    (h : A s t) (ns : List Note) : A (s.takeAll ns) (t.takeAll ns) := by
  induction ns generalizing s t with
  | nil => exact h
  | cons n ns ih => exact ih (hA.take h n)

/-- Two sessions are one, or over the same files, with no log among them. -/
def Session.Unlogged (s t : Session) : Prop := s = t ∨ ∃ files, Over files s ∧ Over files t

/-- **With no log among the files, sessions over the same files are alike.** -/
theorem Session.likeness_unlogged : Likeness Unlogged where
  refl _ := .inl rfl
  files_eq := by
    rintro s t (rfl | ⟨files, hs, ht⟩)
    · rfl
    · exact hs.files_eq.trans ht.files_eq.symm
  take := by
    rintro s t (rfl | ⟨files, hs, ht⟩) n
    · exact .inl rfl
    · exact .inr ⟨files, (lasting_over files).take hs n, (lasting_over files).take ht n⟩

/-! ### What computations tell -/

/-- All that the computation does to a session is that it takes notes, which have the property `Q`
together with the result; in sessions that are alike, notes and result are the same. -/
def Tells (A : Session → Session → Prop) (m : Logged α) (Q : α → List Note → Prop) : Prop :=
  ∀ s, ∃ ns, Q (m s).1 ns ∧ ∀ t, A s t → (m t).1 = (m s).1 ∧ (m t).2 = t.takeAll ns

variable {A : Session → Session → Prop}

namespace Tells

theorem pure {a : α} {Q : α → List Note → Prop} (h : Q a []) : Tells A (Pure.pure a) Q :=
  fun _ => ⟨[], h, fun _ _ => ⟨rfl, rfl⟩⟩

theorem note (n : Note) : Tells A (modify (·.take n) : Logged Unit) fun _ ns => ns = [n] :=
  fun _ => ⟨[n], rfl, fun _ _ => ⟨rfl, rfl⟩⟩

/-- **Computations one after the other** tell their notes one after the other. -/
theorem bind {m : Logged α} {f : α → Logged β} {Q : α → List Note → Prop}
    {R : β → List Note → Prop} (hA : Likeness A) (hm : Tells A m Q)
    (hf : ∀ a ns, Q a ns → Tells A (f a) fun b ms => R b (ns ++ ms)) : Tells A (m >>= f) R := by
  intro s
  obtain ⟨ns, hQ, hns⟩ := hm s
  obtain ⟨ms, hR, hms⟩ := hf _ _ hQ (m s).2
  refine ⟨ns ++ ms, hR, fun t ht => ?_⟩
  obtain ⟨hresult, hsession⟩ := hns t ht
  have halike : A (m s).2 (m t).2 := by
    rw [(hns s (hA.refl s)).2, hsession]
    exact hA.takeAll ht ns
  obtain ⟨hresult', hsession'⟩ := hms _ halike
  change (f (m t).1 (m t).2).1 = _ ∧ (f (m t).1 (m t).2).2 = _
  rw [hresult, Session.takeAll_append, ← hsession]
  exact ⟨hresult', hsession'⟩

theorem mono {m : Logged α} {Q R : α → List Note → Prop} (hm : Tells A m Q)
    (h : ∀ a ns, Q a ns → R a ns) : Tells A m R := fun s =>
  let ⟨ns, hQ, hns⟩ := hm s
  ⟨ns, h _ _ hQ, hns⟩

/-- In sessions that are alike the result is the same, and they stay alike. -/
theorem alike {m : Logged α} {Q : α → List Note → Prop} (hA : Likeness A) (hm : Tells A m Q)
    {s t : Session} (h : A s t) : (m s).1 = (m t).1 ∧ A (m s).2 (m t).2 := by
  obtain ⟨ns, -, hns⟩ := hm s
  obtain ⟨hresult, hsession⟩ := hns t h
  rw [hresult, hsession, (hns s (hA.refl s)).2]
  exact ⟨rfl, hA.takeAll h ns⟩

/-! #### Computations that may fail -/

theorem bindE {m : ExceptT ε Logged α} {f : α → ExceptT ε Logged β}
    {Q : Except ε α → List Note → Prop} {R : Except ε β → List Note → Prop} (hA : Likeness A)
    (hm : Tells A m.run Q)
    (hok : ∀ a ns, Q (.ok a) ns → Tells A (f a).run fun r ms => R r (ns ++ ms))
    (herror : ∀ e ns, Q (.error e) ns → R (.error e) ns) : Tells A (m >>= f).run R := by
  change Tells A (m.run >>= ExceptT.bindCont f) R
  refine bind hA hm fun r ns hns => ?_
  cases r with
  | ok a => exact hok a ns hns
  | error e => exact pure ((List.append_nil ns).symm ▸ herror e ns hns)

theorem liftE {m : Logged α} {R : Except ε α → List Note → Prop}
    (hm : Tells A m fun a ns => R (.ok a) ns) : Tells A (liftM m : ExceptT ε Logged α).run R :=
  fun s =>
  let ⟨ns, hR, hns⟩ := hm s
  ⟨ns, hR, fun t ht => ⟨congrArg Except.ok (hns t ht).1, (hns t ht).2⟩⟩

theorem adapt {m : ExceptT ε Logged α} {f : ε → ζ} {R : Except ζ α → List Note → Prop}
    (hm : Tells A m.run fun r ns => R (r.mapError f) ns) : Tells A (m.adapt f).run R :=
  fun s =>
  let ⟨ns, hR, hns⟩ := hm s
  ⟨ns, hR, fun t ht => ⟨congrArg (Except.mapError f) (hns t ht).1, (hns t ht).2⟩⟩

end Tells

/-- The computation tells notes that come without the number of a file. -/
def Plain (A : Session → Session → Prop) (m : Logged α) : Prop :=
  Tells A m fun _ ns => ∀ n ∈ ns, "file_id" ∉ n.keys

namespace Plain

theorem pure {a : α} : Plain A (Pure.pure a) := Tells.pure fun _ h => (List.not_mem_nil h).elim

theorem bind {m : Logged α} {f : α → Logged β} (hA : Likeness A) (hm : Plain A m)
    (hf : ∀ a, Plain A (f a)) : Plain A (m >>= f) :=
  Tells.bind hA hm fun a _ hns => (hf a).mono fun _ _ hms => List.forall_mem_append.2 ⟨hns, hms⟩

theorem ite {p : Prop} [Decidable p] {m n : Logged α} (hm : Plain A m) (hn : Plain A n) :
    Plain A (if p then m else n) := by
  split
  · exact hm
  · exact hn

theorem forIn {as : List α} {f : α → Unit → Logged (ForInStep Unit)} (hA : Likeness A)
    (h : ∀ a, Plain A (f a ())) : Plain A (forIn as () f) := by
  induction as with
  | nil => exact pure
  | cons a as ih =>
    rw [List.forIn_cons]
    refine (h a).bind hA fun r => ?_
    cases r with
    | done => exact pure
    | yield => exact ih

/-! #### Computations that may fail -/

theorem bindE {m : ExceptT ε Logged α} {f : α → ExceptT ε Logged β} (hA : Likeness A)
    (hm : Plain A m.run) (hf : ∀ a, Plain A (f a).run) : Plain A (m >>= f).run :=
  Tells.bindE hA hm
    (fun a _ hns => (hf a).mono fun _ _ hms => List.forall_mem_append.2 ⟨hns, hms⟩)
    fun _ _ hns => hns

theorem afterE {m : Logged Unit} {f : Unit → ExceptT ε Logged β} (hA : Likeness A)
    (hm : Plain A m) (hf : Plain A (f ()).run) :
    Plain A ((liftM m : ExceptT ε Logged Unit) >>= f).run :=
  bind (f := fun a => (f a).run) hA hm fun _ => hf

/-- Something may be done on a condition before the rest. -/
theorem whenE {p : Prop} [Decidable p] {m : ExceptT ε Logged Unit} {f : Unit → ExceptT ε Logged β}
    (hA : Likeness A) (hm : Plain A m.run) (hf : Plain A (f ()).run) :
    Plain A (if p then m >>= f else f ()).run := by
  split
  · exact bindE hA hm fun _ => hf
  · exact hf

/-- Something may be told on a condition before the rest. -/
theorem alsoE {p : Prop} [Decidable p] {m : Logged Unit} {f : Unit → ExceptT ε Logged β}
    (hA : Likeness A) (hm : Plain A m) (hf : Plain A (f ()).run) :
    Plain A (if p then (liftM m : ExceptT ε Logged Unit) >>= f else f ()).run := by
  split
  · exact afterE hA hm hf
  · exact hf

/-- What is read of a session is the same in sessions that are alike. -/
theorem getE {f : Session → ExceptT ε Logged β} (heq : ∀ s t, A s t → f s = f t)
    (hf : ∀ s, Plain A (f s).run) : Plain A (get >>= f).run := by
  intro s
  obtain ⟨ns, hQ, hns⟩ := hf s s
  refine ⟨ns, hQ, fun t ht => ?_⟩
  rw [run_get_bind, ← heq s t ht]
  exact hns t ht

/-! #### What is told -/

section

variable {code : Code} {message : String} {values : List (String × String)} {span : Option Span}

theorem note {n : Note} (h : "file_id" ∉ n.keys) : Plain A (modify (·.take n) : Logged Unit) :=
  (Tells.note n).mono fun _ ns hns => by rwa [hns, List.forall_mem_singleton]

theorem error (h : "file_id" ∉ values.map Prod.fst) :
    Plain A (Session.error code message values span) :=
  note (n := .error code message values span) h

theorem success (h : "file_id" ∉ values.map Prod.fst) :
    Plain A (Session.success code message values) := note (n := .success code message values) h

theorem info (h : "file_id" ∉ values.map Prod.fst) :
    Plain A (Session.info message values) := note (n := .info message values) h

theorem warning (h : "file_id" ∉ values.map Prod.fst) :
    Plain A (Session.warning message values) := note (n := .warning message values) h

theorem debug (h : "file_id" ∉ values.map Prod.fst) :
    Plain A (Session.debug message values) := note (n := .debug message values) h

end

end Plain

end Lookahead
