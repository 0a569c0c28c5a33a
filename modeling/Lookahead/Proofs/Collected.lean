import Lookahead.Proofs.Analyses
import Lookahead.Proofs.Collectors

/-!
# Errors collected of files

While a file is worked on, the errors that are told are collected under its path.  For an analysis
these are its own errors: why it cannot be loaded, be it for a check that it fails or for a fault
that the system meets, or its first lexical errors and why it is rejected (`outcomeMarks`); and
after it, no file is worked on.  So a collector that was empty before some files were analysed holds
just their errors (`Analysis.errors_collected`).

* `Collects`: what a computation collects, with rules for its parts.
* `Analysis.collects_ofFile`: what the analysis of a file collects.
* `Analysis.collected_ofFile`, `Analysis.collected_ofFiles`: what is collected behind it, and behind
  the analyses of several files.
-/

namespace Lookahead

open Session

variable {α β ε ζ : Type}

/-! ### Marks -/

/-- An event without its words: how urgent it is, its code and its place. -/
structure EventMark where
  level : LogLevel
  code : String
  span : Option Span
deriving DecidableEq, Repr

/-- The mark of an error. -/
def Code.mark (code : Code) (span : Option Span := none) : EventMark := ⟨.error, code.text, span⟩

/-- The mark of an event. -/
def LogEvent.mark (e : LogEvent) : EventMark := ⟨e.level, e.code, e.span⟩

/-- The errors of an analysis: the lexical errors that are told one by one, and the rejection. -/
def Analysis.errorMarks (a : Analysis) : List EventMark :=
  (a.scan.errors.take Scan.toldErrors).map (fun e => e.kind.code.mark e.span) ++
    a.run.error?.toList.map (·.code.mark)

/-- The errors of what comes of an analysis. -/
def outcomeMarks : Except AnalysisError Analysis → List EventMark
  | .ok a => a.errorMarks
  | .error e => [e.code.mark]

/-! ### What is collected -/

/-- A computation that collects nothing and keeps to the file that is worked on. -/
def Quiet (m : Logged α) : Prop :=
  ∀ s, (m s).2.context = s.context ∧ (m s).2.collector = s.collector

/-- While a file is worked on, what the computation results in and the marks of the events it
collects under the path of that file have the property `Q`. -/
def Collects (m : Logged α) (Q : α → List EventMark → Prop) : Prop :=
  ∀ s c, s.context = some c → ∃ es, Q (m s).1 (es.map LogEvent.mark) ∧
    (m s).2.context = some c ∧ (m s).2.collector = s.collector.recordAll c.path es

namespace Collects

theorem pure {Q : α → List EventMark → Prop} {a : α} (h : Q a []) : Collects (Pure.pure a) Q :=
  fun _ _ hs => ⟨[], h, hs, rfl⟩

theorem bind {m : Logged α} {f : α → Logged β} {Q : α → List EventMark → Prop}
    {R : β → List EventMark → Prop} (hm : Collects m Q)
    (hf : ∀ a ms, Q a ms → Collects (f a) fun b ns => R b (ms ++ ns)) : Collects (m >>= f) R := by
  intro s c hs
  obtain ⟨es, hQ, hcontext, hcollector⟩ := hm s c hs
  obtain ⟨fs, hR, hcontext', hcollector'⟩ := hf _ _ hQ _ c hcontext
  refine ⟨es ++ fs, ?_, hcontext', ?_⟩
  · rw [List.map_append]
    exact hR
  · rw [Collector.recordAll_append, ← hcollector]
    exact hcollector'

theorem mono {m : Logged α} {Q R : α → List EventMark → Prop} (hm : Collects m Q)
    (h : ∀ a ms, Q a ms → R a ms) : Collects m R := by
  intro s c hs
  obtain ⟨es, hQ, hrest⟩ := hm s c hs
  exact ⟨es, h _ _ hQ, hrest⟩

theorem quiet {m : Logged Unit} (h : Quiet m) : Collects m fun _ ms => ms = [] :=
  fun s _ hs => ⟨[], rfl, (h s).1.trans hs, (h s).2⟩

theorem after {m : Logged Unit} {f : Unit → Logged β} {R : β → List EventMark → Prop}
    (hm : Quiet m) (hf : Collects (f ()) R) : Collects (m >>= f) R :=
  (quiet hm).bind fun _ _ h => h ▸ hf

theorem ite {p : Prop} [Decidable p] {m n : Logged α} {Q : α → List EventMark → Prop}
    (hm : p → Collects m Q) (hn : ¬ p → Collects n Q) : Collects (if p then m else n) Q := by
  split
  · exact hm ‹_›
  · exact hn ‹_›

theorem forIn {as : List α} {f : α → Unit → Logged (ForInStep Unit)} {g : α → EventMark}
    (h : ∀ a, Collects (f a ()) fun r ms => r = .yield () ∧ ms = [g a]) :
    Collects (forIn as () f) fun _ ms => ms = as.map g := by
  induction as with
  | nil => exact .pure rfl
  | cons a as ih =>
    rw [List.forIn_cons]
    refine (h a).bind ?_
    rintro _ _ ⟨rfl, rfl⟩
    exact ih.mono fun _ _ h => congrArg (g a :: ·) h

theorem bindE {m : ExceptT ε Logged α} {f : α → ExceptT ε Logged β}
    {Q : Except ε α → List EventMark → Prop} {R : Except ε β → List EventMark → Prop}
    (hm : Collects m.run Q)
    (hok : ∀ a ms, Q (.ok a) ms → Collects (f a).run fun r ns => R r (ms ++ ns))
    (herror : ∀ e ms, Q (.error e) ms → R (.error e) ms) : Collects (m >>= f).run R := by
  change Collects (m.run >>= ExceptT.bindCont f) R
  refine hm.bind fun r ms hms => ?_
  cases r with
  | ok a => exact hok a ms hms
  | error e => exact .pure ((List.append_nil ms).symm ▸ herror e ms hms)

theorem liftBindE {m : Logged α} {f : α → ExceptT ε Logged β} {Q : α → List EventMark → Prop}
    {R : Except ε β → List EventMark → Prop} (hm : Collects m Q)
    (hf : ∀ a ms, Q a ms → Collects (f a).run fun r ns => R r (ms ++ ns)) :
    Collects ((liftM m : ExceptT ε Logged α) >>= f).run R :=
  fun s c hs => bind (f := fun a => (f a).run) hm hf s c hs

theorem liftE {m : Logged α} {R : Except ε α → List EventMark → Prop}
    (hm : Collects m fun a ms => R (.ok a) ms) :
    Collects (liftM m : ExceptT ε Logged α).run R := fun s c hs => hm s c hs

theorem adapt {m : ExceptT ε Logged α} {f : ε → ζ} {R : Except ζ α → List EventMark → Prop}
    (hm : Collects m.run fun r ms => R (r.mapError f) ms) : Collects (m.adapt f).run R :=
  fun s c hs => hm s c hs

theorem afterE {m : Logged Unit} {f : Unit → ExceptT ε Logged β}
    {R : Except ε β → List EventMark → Prop} (hm : Quiet m) (hf : Collects (f ()).run R) :
    Collects ((liftM m : ExceptT ε Logged Unit) >>= f).run R :=
  liftBindE (quiet hm) fun _ _ h => h ▸ hf

end Collects

/-! ### What is told -/

namespace Session

theorem emit_quiet (e : LogEvent) (s : Session) :
    (s.emit e).context = s.context ∧ (s.emit e).collector = s.collector := by
  obtain ⟨_, _, _, _, h⟩ := emit_frame e s
  rw [h]
  exact ⟨rfl, rfl⟩

variable {message : String} {context : List (String × String)} {code : Code}

theorem quiet_info : Quiet (info message context) := fun s => emit_quiet _ s

theorem quiet_success : Quiet (success code message context) := fun s => emit_quiet _ s

theorem quiet_warning : Quiet (warning message context) := fun s => emit_quiet _ s

theorem quiet_debug : Quiet (debug message context) := fun s => by
  change (ite _ (s.emit _) s).context = _ ∧ (ite _ (s.emit _) s).collector = _
  split
  · exact emit_quiet _ s
  · exact ⟨rfl, rfl⟩

/-- An error is collected under the file that is worked on, however much is logged. -/
theorem collects_error {span : Option Span} :
    Collects (error code message context span) fun _ ms => ms = [code.mark span] := by
  intro s c hs
  let e : LogEvent := { ((LogEvent.error s.now code.text (clipMessage message)).withContext
    context).withContext s.fileAndId with span }
  obtain ⟨hcontext, hcollector⟩ := emit_quiet e s
  refine ⟨[e], rfl, ?_⟩
  change ((s.emit e).collect e).context = _ ∧ ((s.emit e).collect e).collector = _
  rw [collect, hcontext.trans hs]
  exact ⟨rfl, congrArg (Collector.record · c.path e) hcollector⟩

end Session

/-! ### Loading -/

/-- The errors of what comes of loading. -/
def refusalMarks : Except SourceError α → List EventMark
  | .ok _ => []
  | .error e => [e.code.mark]

/-- What gives up on a source collects why, and nothing else. -/
def Refuses (m : Loading α) : Prop := Collects m.run fun r ms => ms = refusalMarks r

namespace Refuses

theorem pure {a : α} : Refuses (Pure.pure a) := Collects.pure rfl

theorem refuse {e : SourceError} {message : String} {context : List (String × String)} :
    Refuses (Source.refuse e message context : Loading α) :=
  Collects.liftBindE collects_error fun _ _ h => Collects.pure (congrArg (· ++ []) h)

theorem bind {m : Loading α} {f : α → Loading β} (hm : Refuses m) (hf : ∀ a, Refuses (f a)) :
    Refuses (m >>= f) :=
  Collects.bindE hm (fun a _ h => h ▸ hf a) fun _ _ h => h

theorem after {m : Logged Unit} {f : Unit → Loading β} (hm : Quiet m) (hf : Refuses (f ())) :
    Refuses ((liftM m : Loading Unit) >>= f) := Collects.afterE hm hf

theorem get {f : Session → Loading β} (hf : ∀ s, Refuses (f s)) : Refuses (MonadState.get >>= f) :=
  fun s => hf s s

theorem when {p : Prop} [Decidable p] {m : Loading Unit} {f : Unit → Loading β} (hm : Refuses m)
    (hf : Refuses (f ())) : Refuses (if p then m >>= f else f ()) := by
  split
  · exact hm.bind fun _ => hf
  · exact hf

end Refuses

namespace Source

theorem refuses_resolve (path : Path) : Refuses (resolve path) := by
  refine .when .refuse (.get fun s => .when .refuse (.when .refuse ?_))
  split
  · exact .pure
  · exact .refuse

theorem refuses_orRefuse {message : String} {path : Path} {place : List String}
    {r : Except FileFault α} : Refuses (orRefuse message path place r) := by
  cases r with
  | ok => exact .pure
  | error => exact .refuse

theorem refuses_inspect (path : Path) (place : List String) : Refuses (inspect path place) :=
  .get fun _ => .bind refuses_orRefuse fun _ => .pure

theorem refuses_check (prefs : FilePreferences) (path : Path) (info : FileInfo) :
    Refuses (check prefs path info) := by
  refine .when .refuse (.when (.after quiet_warning .pure) ?_)
  split
  · exact .refuse
  · exact .pure

theorem refuses_readAt (path : Path) (place : List String) : Refuses (readAt path place) :=
  .get fun _ => refuses_orRefuse

theorem quiet_tellLoaded (prefs : FilePreferences) (path : Path) (s : Source) :
    Quiet (tellLoaded prefs path s) := by
  unfold tellLoaded
  dsimp only
  split <;> exact quiet_success

theorem refuses_finish (prefs : FilePreferences) (path : Path) (info : FileInfo) (text : String) :
    Refuses (finish prefs path info text) :=
  .when .refuse (.after (quiet_tellLoaded prefs path _) .pure)

/-- **A file that cannot be loaded** is told of by one error. -/
theorem refuses_load (prefs : FilePreferences) (path : Path) : Refuses (load prefs path) :=
  .after quiet_debug (.bind (refuses_resolve path) fun place =>
    .bind (refuses_inspect path place) fun info => .bind (refuses_check prefs path info) fun _ =>
      .bind (refuses_readAt path place) fun text => refuses_finish prefs path info text)

end Source

/-! ### Scanning and parsing -/

namespace Scan

theorem collects_ofLoaded (prefs : ScanPreferences) (source : Source) :
    Collects (ofLoaded prefs source) fun s ms =>
      ms = (s.errors.take toldErrors).map fun e => e.kind.code.mark e.span := by
  have htell : ∀ e : LexicalError, Collects (do
      tellError prefs source.info.path e
      pure (ForInStep.yield PUnit.unit)) fun r ms =>
        r = .yield () ∧ ms = [e.kind.code.mark e.span] := fun e =>
    collects_error.bind fun _ _ h => .pure ⟨rfl, congrArg (· ++ []) h⟩
  refine .after quiet_debug ((Collects.forIn htell).bind fun _ ms hms => ?_)
  subst hms
  refine .ite (fun _ => .after quiet_warning ?_) fun _ => ?_ <;>
  exact .after quiet_success (.ite (fun _ => .pure (List.append_nil _))
    fun _ => .after quiet_success (.pure (List.append_nil _)))

theorem collects_parse (prefs : ParsePreferences) (s : Scan) :
    Collects (s.parse prefs) fun r ms => ms = r.error?.toList.map (·.code.mark) := by
  have hverdict : ∀ r : Run, Collects (tellVerdict s.tokens.length r) fun _ ms =>
      ms = r.error?.toList.map (·.code.mark) := by
    intro r
    rw [tellVerdict, Run.error?]
    cases r.verdict with
    | accepted => exact .quiet quiet_success
    | rejected e => exact collects_error
    | undecided => exact .pure rfl
  refine .after quiet_debug ((hverdict _).bind fun _ ms hms => ?_)
  subst hms
  exact .ite (fun _ => .after quiet_warning (.pure (List.append_nil _)))
    fun _ => .pure (List.append_nil _)

end Scan

namespace Analysis

theorem quiet_tell (a : Analysis) : Quiet a.tell := by
  unfold tell
  dsimp only
  split
  · exact quiet_success
  · exact quiet_info

theorem collects_ofSource (prefs : Preferences) (source : Source) :
    Collects (ofSource prefs source) fun a ms => ms = a.errorMarks := by
  refine .bind (Scan.collects_ofLoaded _ _) fun scan ms hms => .bind (Scan.collects_parse _ _)
    fun run ns hns => .after (quiet_tell _) (.pure ?_)
  rw [hms, hns, List.append_nil]
  rfl

theorem collects_ofLoading (prefs : Preferences) {loading : Loading Source}
    (h : Refuses loading) :
    Collects (ofLoading prefs loading).run fun r ms => ms = outcomeMarks r := by
  have hload : Collects (loading.adapt AnalysisError.loading).run fun r ms =>
      ∃ q, ms = refusalMarks q ∧ r = q.mapError AnalysisError.loading :=
    .adapt (h.mono fun q _ hms => ⟨q, hms, rfl⟩)
  refine .bindE hload (fun source ms hms => ?_) fun e ms hms => ?_
  · obtain ⟨q, rfl, hr⟩ := hms
    cases q with
    | error => cases hr
    | ok => exact .liftE (collects_ofSource prefs source)
  · obtain ⟨q, rfl, hr⟩ := hms
    cases q with
    | error => cases hr; rfl
    | ok => cases hr

/-- **What the analysis of a file collects** are its errors, under its path; after it no file is
worked on. -/
theorem collects_ofFile (prefs : Preferences) (path : Path) (id : Nat) (s : Session) :
    ∃ es, es.map LogEvent.mark = outcomeMarks (ofFile prefs path id s).1 ∧
      (ofFile prefs path id s).2.context = none ∧
      (ofFile prefs path id s).2.collector = s.collector.recordAll path es := by
  have hwork : Collects (do
      Session.info "Starting file processing pipeline" [("file", path)]
      (ofLoading prefs (Source.load prefs.files path)).run) fun r ms => ms = outcomeMarks r :=
    .after quiet_info (collects_ofLoading prefs (Source.refuses_load _ path))
  obtain ⟨es, hes, -, hcollector⟩ := hwork { s with context := some ⟨path, id⟩ } ⟨path, id⟩ rfl
  exact ⟨es, hes, rfl, hcollector⟩

/-- There is room for the errors of a file. -/
theorem length_outcomeMarks_le (r : Except AnalysisError Analysis) :
    (outcomeMarks r).length ≤ FileEvents.limit := by
  cases r with
  | error => exact (by decide : 1 ≤ 1000)
  | ok a =>
    have hlexical : (a.scan.errors.take Scan.toldErrors).length ≤ 50 := List.length_take_le ..
    have hsyntax : a.run.error?.toList.length ≤ 1 := by cases a.run.error? <;> simp
    rw [outcomeMarks, errorMarks, List.length_append, List.length_map, List.length_map]
    change _ ≤ 1000
    omega

/-- **The analysis of a file of which nothing is collected** leaves its errors under its path, and
what is collected of other files as it was. -/
theorem collected_ofFile (prefs : Preferences) {path : Path} (id : Nat) {s : Session}
    (hs : s.collector.Proper) (hnone : s.collector.eventsOf path = []) :
    let ran := ofFile prefs path id s
    ran.2.collector.Proper ∧
      (ran.2.collector.eventsOf path).map LogEvent.mark = outcomeMarks ran.1 ∧
      ∀ q, path.same q = false → ran.2.collector.eventsOf q = s.collector.eventsOf q := by
  obtain ⟨es, hes, -, hcollector⟩ := collects_ofFile prefs path id s
  have hroom : (s.collector.eventsOf path).length + es.length ≤ FileEvents.limit := by
    rw [hnone, List.length_nil, Nat.zero_add, ← List.length_map (f := LogEvent.mark), hes]
    exact length_outcomeMarks_le _
  have hevents := Collector.eventsOf_recordAll hs hroom
  intro ran
  rw [hcollector]
  refine ⟨hs.recordAll path es, ?_, fun q hq => ?_⟩
  · have hsame : path.same path = true := (Path.same_iff _ _).2 rfl
    rw [hevents, if_pos hsame, hnone, List.nil_append, hes]
  · rw [hevents, Path.same_comm, hq]
    rfl

/-! ### Files in sequence -/

/-- The analyses of several files, each with its number, one after the other. -/
def ofFiles (prefs : Preferences) (work : List (Path × Nat)) :
    Logged (List (Except AnalysisError Analysis)) :=
  work.mapM fun w => ofFile prefs w.1 w.2

theorem ofFiles_cons (prefs : Preferences) (w : Path × Nat) (work : List (Path × Nat))
    (s : Session) : ofFiles prefs (w :: work) s =
      let first := ofFile prefs w.1 w.2 s
      let others := ofFiles prefs work first.2
      (first.1 :: others.1, others.2) := by
  rw [ofFiles, List.mapM_cons]
  rfl

/-- **Behind the analyses of files of which nothing is collected**, their errors are, and what is
collected of other files is as it was. -/
theorem collected_ofFiles (prefs : Preferences) {work : List (Path × Nat)}
    (hwork : work.Pairwise fun v w => v.1.same w.1 = false) {s : Session}
    (hs : s.collector.Proper) (hnone : ∀ w ∈ work, s.collector.eventsOf w.1 = []) :
    let ran := ofFiles prefs work s
    ran.2.collector.Proper ∧ ran.1.length = work.length ∧
      (∀ q, (∀ w ∈ work, w.1.same q = false) →
        ran.2.collector.eventsOf q = s.collector.eventsOf q) ∧
      ∀ r ∈ work.zip ran.1,
        (ran.2.collector.eventsOf r.1.1).map LogEvent.mark = outcomeMarks r.2 := by
  induction work generalizing s with
  | nil => exact ⟨hs, rfl, fun _ _ => rfl, fun r hr => (List.not_mem_nil hr).elim⟩
  | cons w work ih =>
    obtain ⟨hfirst, hothers⟩ := List.pairwise_cons.1 hwork
    obtain ⟨hw, hrest⟩ := List.forall_mem_cons.1 hnone
    obtain ⟨hproper, hself, hleft⟩ := collected_ofFile prefs w.2 hs hw
    rw [ofFiles_cons]
    generalize ofFile prefs w.1 w.2 s = first at hproper hself hleft ⊢
    -- Of the files to come nothing is collected by the first analysis, nor of the first by theirs.
    obtain ⟨hproper', hlength, hleft', hmarks⟩ :=
      ih hothers hproper fun v hv => (hleft v.1 (hfirst v hv)).trans (hrest v hv)
    refine ⟨hproper', congrArg (· + 1) hlength, fun q hq => ?_, ?_⟩
    · obtain ⟨hwq, hq⟩ := List.forall_mem_cons.1 hq
      exact (hleft' q hq).trans (hleft q hwq)
    · refine List.forall_mem_cons.2 ⟨?_, hmarks⟩
      rw [hleft' w.1 fun v hv => Path.same_comm _ _ ▸ hfirst v hv]
      exact hself

/-- What comes of the analyses of files that no log is kept in. -/
theorem ofFiles_eq_map (prefs : Preferences) {work : List (Path × Nat)} {s : Session}
    (hlog : ∀ w ∈ work, s.Spares w.1) :
    (ofFiles prefs work s).1 = work.map fun w => ofTarget prefs w.1 (s.files.target w.1) := by
  let P : Session → Prop := fun t =>
    ∀ w : { w // w ∈ work }, t.Shows w.1.1 (s.files.target w.1.1)
  have hP : Lasting P := lasting_forall fun w => lasting_shows w.1.1 _
  have hfile : ∀ w ∈ work, Ensures P (ofFile prefs w.1 w.2)
      (· = ofTarget prefs w.1 (s.files.target w.1)) := fun w hw =>
    ensures_ofFile_target hP prefs w.2 fun t ht => (ht ⟨w, hw⟩).target_eq
  exact (Ensures.mapM hfile s fun w => ⟨rfl, hlog w.1 w.2⟩).1

theorem outcomeMarks_of_isClean {a : Analysis} (h : a.isClean = true) :
    outcomeMarks (.ok a) = [] := by
  rw [isClean, Bool.and_eq_true, Bool.not_eq_true'] at h
  obtain ⟨haccepted, hscan⟩ := h
  have hverdict : a.run.verdict = .accepted := by simpa [isAccepted, Run.isAccepted] using haccepted
  have herrors : a.scan.errors = [] := by simpa [Scan.hasErrors] using hscan
  rw [outcomeMarks, errorMarks, herrors, Run.error?, hverdict]
  rfl

/-- A collector holds the errors of what came of some files, and nothing else. -/
structure Reported (work : List (Path × Nat)) (results : List (Except AnalysisError Analysis))
    (C : Collector) : Prop where
  proper : C.Proper
  length_eq : results.length = work.length
  others : ∀ q, (∀ w ∈ work, w.1.same q = false) → C.eventsOf q = []
  marks : ∀ r ∈ work.zip results, (C.eventsOf r.1.1).map LogEvent.mark = outcomeMarks r.2

theorem reported_ofFiles (prefs : Preferences) {work : List (Path × Nat)}
    (hwork : work.Pairwise fun v w => v.1.same w.1 = false) {s : Session}
    (hs : s.collector = .empty) :
    Reported work (ofFiles prefs work s).1 (ofFiles prefs work s).2.collector := by
  have hproper : s.collector.Proper := hs ▸ Collector.proper_empty
  have hnone : ∀ q, s.collector.eventsOf q = [] := fun q => by rw [hs]; rfl
  obtain ⟨hproper', hlength, hothers, hmarks⟩ :=
    collected_ofFiles prefs hwork hproper fun w _ => hnone w.1
  exact ⟨hproper', hlength, fun q hq => (hothers q hq).trans (hnone q), hmarks⟩

namespace Reported

variable {work : List (Path × Nat)} {results : List (Except AnalysisError Analysis)}
  {C D : Collector} {q : Path}

theorem exists_result (h : Reported work results C) (hq : ¬ ∀ w ∈ work, w.1.same q = false) :
    ∃ r ∈ work.zip results, r.1.1.same q = true := by
  rw [← List.map_fst_zip h.length_eq.ge] at hq
  by_contra hnone
  refine hq (List.forall_mem_map.2 fun r hr => ?_)
  rw [← Bool.not_eq_true]
  exact fun hsame => hnone ⟨r, hr, hsame⟩

/-- The marks that are held hang on the results. -/
theorem marks_eq (hC : Reported work results C) (hD : Reported work results D) (q : Path) :
    (C.eventsOf q).map LogEvent.mark = (D.eventsOf q).map LogEvent.mark := by
  by_cases hq : ∀ w ∈ work, w.1.same q = false
  · rw [hC.others q hq, hD.others q hq]
  · obtain ⟨r, hr, hsame⟩ := hC.exists_result hq
    rw [← Collector.eventsOf_congr hsame, ← Collector.eventsOf_congr hsame]
    exact (hC.marks r hr).trans (hD.marks r hr).symm

/-- A file that is listed is one whose analysis failed or is not clean. -/
theorem exists_unclean (h : Reported work results C) {f : FileEvents} (hf : f ∈ C.files) :
    ∃ r ∈ work.zip results, r.1.1.same f.path = true ∧ ∀ a, r.2 = .ok a → a.isClean = false := by
  have hevents := h.proper.eventsOf_ne_nil hf
  obtain ⟨r, hr, hsame⟩ := h.exists_result fun hothers => hevents (h.others _ hothers)
  refine ⟨r, hr, hsame, fun a ha => ?_⟩
  by_contra hclean
  rw [Bool.not_eq_false] at hclean
  have hmarks := h.marks r hr
  rw [ha, outcomeMarks_of_isClean hclean, List.map_eq_nil_iff, Collector.eventsOf_congr hsame]
    at hmarks
  exact hevents hmarks

end Reported

/-- **The errors that are collected of files are each file's own.**  Behind the analyses of files
with distinct paths, from a session that had collected nothing, a path has the errors of what came
of its file, in order, and all other paths have none; no file that is clean is listed.  If no log is
kept in one of the files, that is the same at every level and with all choices on logging.  After an
analysis no file is worked on. -/
theorem errors_collected (prefs : Preferences) {work : List (Path × Nat)}
    (hwork : work.Pairwise fun v w => v.1.same w.1 = false) {s : Session}
    (hs : s.collector = .empty) :
    let ran := ofFiles prefs work s
    let collected := ran.2.collector
    (ran.1.length = work.length ∧ ∀ r ∈ work.zip ran.1,
        (collected.eventsOf r.1.1).map LogEvent.mark = outcomeMarks r.2) ∧
      (∀ q, (∀ w ∈ work, w.1.same q = false) → collected.eventsOf q = []) ∧
      (∀ f ∈ collected.files, ∃ r ∈ work.zip ran.1,
        r.1.1.same f.path = true ∧ ∀ a, r.2 = .ok a → a.isClean = false) ∧
      (∀ level preferences, (∀ w ∈ work, s.Spares w.1) →
        let other := ofFiles prefs work { s with level, preferences }
        other.1 = ran.1 ∧ ∀ q, (other.2.collector.eventsOf q).map LogEvent.mark =
          (collected.eventsOf q).map LogEvent.mark) ∧
      ∀ path id t, (ofFile prefs path id t).2.context = none := by
  have hran := reported_ofFiles prefs hwork hs
  refine ⟨⟨hran.length_eq, hran.marks⟩, hran.others, fun f hf => hran.exists_unclean hf,
    fun level preferences hlog => ?_,
    fun path id t => (collects_ofFile prefs path id t).choose_spec.2.1⟩
  -- What comes of the analyses is the same, and so are the errors of that.
  have hresults : (ofFiles prefs work { s with level, preferences }).1 = (ofFiles prefs work s).1 :=
    (ofFiles_eq_map prefs (s := { s with level, preferences }) hlog).trans
      (ofFiles_eq_map prefs hlog).symm
  have hother := reported_ofFiles prefs hwork (s := { s with level, preferences }) hs
  rw [hresults] at hother
  exact ⟨hresults, hother.marks_eq hran⟩

/-- A file that is missing, one with an unknown character and a missing semicolon, a clean one and
one that may not be read: what is collected of them while a log of all events is kept in a file, and
while it is kept of errors only. -/
theorem errors_collected_four :
    let files : FileTree :=
      ⟨.dir [("a.java", .file "a = b;".toUTF8), ("b.java", .file "a = # b".toUTF8),
        ("e.java", .file (.refused .read .denied 9))], []⟩
    let s := { inMemory Preferences.standard.log files with sinks := [.file "run.log" true] }
    let work : List (Path × Nat) :=
      [("c.java", 1), ("b.java", 2), ("a.java", 3), ("e.java", 4)]
    let collected := (ofFiles .standard work s).2.collector
    let collectedLess := (ofFiles .standard work { s with level := .error }).2.collector
    s.collector = .empty ∧ (work.Pairwise fun v w => v.1.same w.1 = false) ∧
      (∀ w ∈ work, s.Spares w.1) ∧
      (collected.eventsOf "c.java").map LogEvent.mark = [⟨.error, "E005", none⟩] ∧
      (collected.eventsOf "b.java").map LogEvent.mark =
        [⟨.error, "E020", some ⟨⟨4, 1, 5⟩, ⟨5, 1, 6⟩⟩⟩, ⟨.error, "E040", none⟩] ∧
      collected.eventsOf "a.java" = [] ∧ collected.eventsOf "d.java" = [] ∧
      (collected.eventsOf "e.java").map LogEvent.mark = [⟨.error, "E009", none⟩] ∧
      (∀ q, (collectedLess.eventsOf q).map LogEvent.mark =
        (collected.eventsOf q).map LogEvent.mark) := by
  intro files s work collected collectedLess
  have hwork : work.Pairwise fun v w => v.1.same w.1 = false := by decide +kernel
  have hlog : ∀ w ∈ work, s.Spares w.1 := by
    have hplace : s.files.placeForWriting "run.log" = .ok ["run.log"] := rfl
    have hplaces : ∀ w ∈ work, s.files.placeForWriting w.1 ≠ .ok ["run.log"] := by
      decide +kernel
    intro w hw log structured place hsink hlog
    cases List.mem_singleton.1 hsink
    cases hplace.symm.trans hlog
    exact hplaces w hw
  have hresults := ofFiles_eq_map .standard hlog
  obtain ⟨⟨-, hmarks⟩, hothers, -, hlevels, -⟩ := errors_collected .standard hwork (s := s) rfl
  obtain ⟨-, hless⟩ := hlevels .error s.preferences hlog
  rw [hresults] at hmarks
  have hc := hmarks (("c.java", 1), _) (.head _)
  have hb := hmarks (("b.java", 2), _) (.tail _ (.head _))
  have ha := hmarks (("a.java", 3), _) (.tail _ (.tail _ (.head _)))
  have he := hmarks (("e.java", 4), _) (.tail _ (.tail _ (.tail _ (.head _))))
  have hdenied : ofTarget .standard "e.java" (s.files.target "e.java") =
      .error (.loading (.denied "/e.java")) := by
    change ofTarget .standard "e.java" (some (["e.java"], .file (.refused .read .denied 9))) = _
    rw [ofTarget, Source.ofTarget_refused]
    rfl
  refine ⟨rfl, hwork, hlog, hc.trans ?_, hb.trans ?_, List.map_eq_nil_iff.1 (ha.trans ?_),
    hothers "d.java" (by decide +kernel), he.trans (congrArg outcomeMarks hdenied), hless⟩
  · decide +kernel
  · decide +kernel
  · decide +kernel

end Analysis

end Lookahead
