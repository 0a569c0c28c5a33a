import Lookahead.Analysis.Stages
import Lookahead.Entries
import Lookahead.Proofs.Notes

/-!
# Files in the context of events

While a file is worked on, every note is told with something of the file: what depends on the sort
of the note, and for information, errors and successes on whether the preferences ask for it.  Only
errors and successes ever show the number of the file, and warnings and details show its path even
where none is asked for.

* `LogContext.lookup_set`: what is under a key when a value was put under another.
* `Note.lookup_event`: what the event of a note shows of a file.
* `Analysis.tells_work`: the analysis of a file tells notes that do not have its number.
* `Analysis.context_kept_iff`: which events of an analysis show of the file what they should.
-/

namespace Lookahead

open Session

/-! ### Values under keys -/

namespace LogContext

theorem lookup_set (c : LogContext) (key value other : String) :
    (c.set key value).lookup other = if other = key then some value else c.lookup other := by
  induction c with
  | nil => rw [set, lookup_cons_eq]
  | cons entry rest ih =>
    obtain ⟨k, v⟩ := entry
    rw [set]
    split
    · next h =>
      rw [lookup_cons_eq, lookup_cons_eq, h]
      by_cases hk : other = k <;> simp [hk]
    · next h =>
      split
      · rw [lookup_cons_eq]
      · rw [lookup_cons_eq, lookup_cons_eq, ih]
        by_cases hk : other = k
        · rw [if_pos hk, if_pos hk, if_neg (hk ▸ Ne.symm h)]
        · rw [if_neg hk, if_neg hk]

theorem lookup_setAll_of_not_mem {key : String} {values : List (String × String)}
    (h : key ∉ values.map Prod.fst) (c : LogContext) :
    (c.setAll values).lookup key = c.lookup key := by
  induction values generalizing c with
  | nil => rfl
  | cons v values ih =>
    rw [List.map_cons, List.mem_cons, not_or] at h
    refine (ih h.2 _).trans ?_
    rw [lookup_set, if_neg h.1]

end LogContext

/-! ### What an event shows of a file -/

namespace Note

/-- The note tells that something failed or was done. -/
def isOutcome : Note → Bool
  | error .. | success .. => true
  | _ => false

/-- The note tells something in passing. -/
def isRemark : Note → Bool
  | warning .. | debug .. => true
  | _ => false

/-- What the note shows under a key by itself. -/
def own (n : Note) (key : String) : Option String := (n.bare .epoch).context.lookup key

/-- What a session shows of a file under a key, while it works on the file and the note is told. -/
def shown (s : Session) (n : Note) (key : String) : Option String := (n.event s).context.lookup key

/-- The event shows the file `c` as it should: path and number, if the preferences ask for the
file, and otherwise only what the note shows by itself. -/
def Keeps (s : Session) (c : FileContext) (n : Note) : Prop :=
  if s.preferences.fileContext then
    n.shown s "file" = some c.path ∧ n.shown s "file_id" = some (toString c.id)
  else n.shown s "file" = n.own "file" ∧ n.shown s "file_id" = n.own "file_id"

theorem own_of_not_mem {n : Note} {key : String} (h : key ∉ n.keys) : n.own key = none := by
  cases n <;> exact LogContext.lookup_setAll_of_not_mem h []

theorem shown_eq (s : Session) (n : Note) (key : String) :
    n.shown s key = ((n.bare .epoch).context.setAll (n.added s)).lookup key := by
  cases n <;> rfl

variable {s : Session} {c : FileContext}

/-- If no file is worked on, the event is that of the note alone. -/
theorem event_of_no_context (hs : s.context = none) (n : Note) : n.event s = n.bare s.now := by
  have hadded : n.added s = [] := by
    cases n <;> simp [added, fileAndId, fileIfWanted, fileAlways, hs]
  rw [event, hadded]
  rfl

/-- **What the event of a note shows.**  Its path is shown if the preferences ask for it or the note
is a remark, its number if they do and the note is an outcome; all else is the note's own. -/
theorem lookup_event (hs : s.context = some c) (n : Note) :
    (n.shown s "file" =
      if s.preferences.fileContext || n.isRemark then some c.path else n.own "file") ∧
    (n.shown s "file_id" =
      if s.preferences.fileContext && n.isOutcome then some (toString c.id) else n.own "file_id") ∧
    ∀ key, key ≠ "file" → key ≠ "file_id" → n.shown s key = n.own key := by
  refine ⟨?_, ?_, fun key hfile hid => ?_⟩ <;>
    rw [shown_eq, own] <;>
    cases n <;>
    cases hwanted : s.preferences.fileContext <;>
    simp [added, fileAndId, fileIfWanted, fileAlways, isRemark, isOutcome, LogContext.setAll,
      LogContext.lookup_set, *]

/-- **The event shows the file as it should** just if the note is an outcome; or, if the file is not
asked for, just if the note is no remark, or shows the path by itself. -/
theorem keeps_iff (hs : s.context = some c) {n : Note} (hn : "file_id" ∉ n.keys) :
    n.Keeps s c ↔ if s.preferences.fileContext then n.isOutcome = true
      else n.isRemark = true → n.own "file" = some c.path := by
  obtain ⟨hfile, hid, -⟩ := lookup_event hs n
  rw [own_of_not_mem hn] at hid
  rw [Keeps, hfile, hid, own_of_not_mem hn]
  cases s.preferences.fileContext <;> cases n.isRemark <;> cases n.isOutcome <;> simp [eq_comm]

end Note

/-! ### Loading -/

variable {α : Type} {A : Session → Session → Prop}

namespace Source

theorem plain_refuse (hA : Likeness A) {e : SourceError} {message : String}
    {context : List (String × String)} (h : "file_id" ∉ context.map Prod.fst) :
    Plain A (refuse e message context : Loading α).run := .afterE hA (.error h) .pure

theorem plain_resolve (hA : Likeness A) (path : Path) : Plain A (resolve path).run := by
  refine .whenE hA (plain_refuse hA (by simp)) (.getE (fun s t h => ?_) fun s => ?_)
  · rw [hA.files_eq h]
  · refine .whenE hA (plain_refuse hA (by simp)) (.whenE hA (plain_refuse hA (by simp)) ?_)
    split
    · exact .pure
    · exact plain_refuse hA (by simp)

theorem plain_orRefuse (hA : Likeness A) {message : String} {path : Path} {place : List String}
    {r : Except FileFault α} : Plain A (orRefuse message path place r).run := by
  cases r with
  | ok => exact .pure
  | error => exact plain_refuse hA (by simp)

theorem plain_inspect (hA : Likeness A) (path : Path) (place : List String) :
    Plain A (inspect path place).run :=
  .getE (fun s t h => by rw [hA.files_eq h]) fun _ =>
    .bindE hA (plain_orRefuse hA) fun _ => .pure

theorem plain_check (hA : Likeness A) (prefs : FilePreferences) (path : Path) (info : FileInfo) :
    Plain A (check prefs path info).run := by
  refine .whenE hA (plain_refuse hA (by simp)) (.alsoE hA (.warning (by simp)) ?_)
  split
  · exact plain_refuse hA (by simp)
  · exact .pure

theorem plain_tellLoaded (prefs : FilePreferences) (path : Path) (s : Source) :
    Plain A (tellLoaded prefs path s) := .ite (.success (by simp)) (.success (by simp))

theorem plain_readAt (hA : Likeness A) (path : Path) (place : List String) :
    Plain A (readAt path place).run :=
  .getE (fun s t h => by rw [hA.files_eq h]) fun _ => plain_orRefuse hA

theorem plain_finish (hA : Likeness A) (prefs : FilePreferences) (path : Path) (info : FileInfo)
    (text : String) : Plain A (finish prefs path info text).run :=
  .whenE hA (plain_refuse hA (by simp)) (.afterE hA (plain_tellLoaded prefs path _) .pure)

theorem plain_load (hA : Likeness A) (prefs : FilePreferences) (path : Path) :
    Plain A (load prefs path).run :=
  .afterE hA (.debug (by simp)) (.bindE hA (plain_resolve hA path) fun place =>
    .bindE hA (plain_inspect hA path place) fun info =>
      .bindE hA (plain_check hA prefs path info) fun _ =>
        .bindE hA (plain_readAt hA path place) fun text => plain_finish hA prefs path info text)

end Source

/-! ### Scanning and parsing -/

namespace Scan

theorem plain_ofLoaded (hA : Likeness A) (prefs : ScanPreferences) (source : Source) :
    Plain A (ofLoaded prefs source) := by
  refine .bind hA (.debug (by simp)) fun _ => .bind hA
    (.forIn hA fun e => .bind hA (.error (by simp)) fun _ => .pure) fun _ => ?_
  have hrest : Plain A (do
      Session.success .scanned "Lexical analysis completed"
        [("duration_ms", Text.fixedFloat 3 (Text.millisecondsOf 0)), ("file", source.info.path),
         ("tokens", toString (ofSource prefs.detailed source.text).tokens.length),
         ("identifiers", toString (ofSource prefs.detailed source.text).identifiers.size),
         ("errors", toString (ofSource prefs.detailed source.text).errors.length)]
      unless (ofSource prefs.detailed source.text).hasErrors do
        Session.success .scannedCleanly "No lexical errors" [("file", source.info.path)]
      return ofSource prefs.detailed source.text) :=
    .bind hA (.success (by simp)) fun _ => .ite .pure (.bind hA (.success (by simp)) fun _ => .pure)
  exact .ite (.bind hA (.warning (by simp)) fun _ => hrest) hrest

/-- Parsing is told of first, with nothing of the file. -/
theorem tells_parse (hA : Likeness A) (prefs : ParsePreferences) (s : Scan) :
    Tells A (s.parse prefs) fun _ ns => ∃ ms,
      ns = .debug "Starting syntax analysis" [("tokens", toString s.tokens.length)] :: ms ∧
        ∀ n ∈ ms, "file_id" ∉ n.keys := by
  have hverdict : ∀ r : Run, Plain A (tellVerdict s.tokens.length r) := by
    intro r
    unfold tellVerdict
    split
    · exact .success (by simp)
    · exact .error (by simp)
    · exact .pure
  refine .bind hA (.note (.debug _ _)) ?_
  rintro _ _ rfl
  refine Tells.mono (Plain.bind hA (hverdict _) fun _ => ?_) fun _ ms hms => ⟨ms, rfl, hms⟩
  exact .ite (.bind hA (.warning (by simp)) fun _ => .pure) .pure

end Scan

/-! ### Analyses -/

namespace Analysis

/-- The analysis of a file as far as it is told by itself, without the file in the context. -/
def work (prefs : Preferences) (path : Path) : Logged (Except AnalysisError Analysis) := do
  Session.info "Starting file processing pipeline" [("file", path)]
  (ofLoading prefs (Source.load prefs.files path)).run

theorem plain_tell (a : Analysis) : Plain A a.tell := .ite (.success (by simp)) (.info (by simp))

/-- The analysis of a source tells no number of a file, and tells something in passing without a
file. -/
theorem tells_ofSource (hA : Likeness A) (prefs : Preferences) (source : Source) :
    Tells A (ofSource prefs source) fun _ ns =>
      (∀ n ∈ ns, "file_id" ∉ n.keys) ∧ ∃ n ∈ ns, n.isRemark ∧ "file" ∉ n.keys := by
  refine Tells.bind hA (Scan.plain_ofLoaded hA prefs.scan source) fun scan ns hns => ?_
  refine Tells.bind hA (Scan.tells_parse hA prefs.parse scan) ?_
  rintro run _ ⟨ms, rfl, hms⟩
  refine Tells.mono (Plain.bind hA (plain_tell _) fun _ => .pure) fun _ ks hks => ⟨?_, ?_⟩
  · have hparse : ∀ n ∈ Note.debug "Starting syntax analysis"
        [("tokens", toString scan.tokens.length)] :: ms, "file_id" ∉ n.keys :=
      List.forall_mem_cons.2 ⟨by simp [Note.keys], hms⟩
    exact List.forall_mem_append.2 ⟨hns, List.forall_mem_append.2 ⟨hparse, hks⟩⟩
  · exact ⟨_, List.mem_append_right ns (List.mem_append_left ks List.mem_cons_self), rfl,
      by simp [Note.keys]⟩

/-- **The notes of the analysis of a file.**  It begins with one that is no outcome; none comes with
the number of the file; and if a source is analysed, one that is told in passing comes without its
path, too. -/
theorem tells_work (hA : Likeness A) (prefs : Preferences) (path : Path) :
    Tells A (work prefs path) fun r ns =>
      ns.head? = some (.info "Starting file processing pipeline" [("file", path)]) ∧
      (∀ n ∈ ns, "file_id" ∉ n.keys) ∧
      ∀ a, r = .ok a → ∃ n ∈ ns, n.isRemark ∧ "file" ∉ n.keys := by
  have hload : Tells A (ofLoading prefs (Source.load prefs.files path)).run fun r ns =>
      (∀ n ∈ ns, "file_id" ∉ n.keys) ∧
        ∀ a, r = .ok a → ∃ n ∈ ns, n.isRemark ∧ "file" ∉ n.keys := by
    have hsource : Plain A ((Source.load prefs.files path).adapt AnalysisError.loading).run :=
      Tells.adapt (Source.plain_load hA prefs.files path)
    refine Tells.bindE hA hsource (fun source ns hns => ?_) fun e ns hns => ⟨hns, fun a ha => ?_⟩
    · refine .liftE ((tells_ofSource hA prefs source).mono fun a ms hms => ?_)
      obtain ⟨hms, n, hn, hremark⟩ := hms
      exact ⟨List.forall_mem_append.2 ⟨hns, hms⟩,
        fun _ _ => ⟨n, List.mem_append_right ns hn, hremark⟩⟩
    · cases ha
  refine Tells.bind hA (.note (.info _ _)) ?_
  rintro _ _ rfl
  refine hload.mono fun r ns hns => ⟨rfl, ?_, fun a ha => ?_⟩
  · exact List.forall_mem_cons.2 ⟨by simp [Note.keys], hns.1⟩
  · obtain ⟨n, hn, hremark⟩ := hns.2 a ha
    exact ⟨n, List.mem_cons_of_mem _ hn, hremark⟩

/-- **Which events show the file as they should.**  All that the analysis of a file tells are the
events of some notes; with no log among the files, they are those that the same work tells when no
file is worked on.  The path is shown if the preferences ask for the file, and with remarks even if
not; the number is shown if they do, but with outcomes only.  So if the file is asked for, just the
outcomes show it as they should, and the first note is none; if not, those notes do that are no
remarks, or that show the path by themselves, and if a source is analysed, there is a remark that
does not. -/
theorem context_kept_iff (prefs : Preferences) (path : Path) (id : Nat) (s : Session) :
    let c : FileContext := ⟨path, id⟩
    let t := { s with context := some c }
    let u := { s with context := none }
    ∃ ns : List Note,
      (ofFile prefs path id s).2 = { (t.eventsOf ns).foldl hear t with context := none } ∧
      ((∀ log structured, Sink.file log structured ∉ s.sinks) →
        (work prefs path u).2 =
          ((ns.filter (·.isTold s)).map (·.bare s.now)).foldl hear u) ∧
      ns.head? = some (.info "Starting file processing pipeline" [("file", path)]) ∧
      (∀ a, (ofFile prefs path id s).1 = .ok a → ∃ n ∈ ns, n.isRemark ∧ n.own "file" = none) ∧
      ∀ n ∈ ns,
        (n.shown t "file" =
          if s.preferences.fileContext || n.isRemark then some path else n.own "file") ∧
        (n.shown t "file_id" =
          if s.preferences.fileContext && n.isOutcome then some (toString id) else none) ∧
        (∀ key, key ≠ "file" → key ≠ "file_id" → n.shown t key = n.own key) ∧
        (n.Keeps t c ↔ if s.preferences.fileContext then n.isOutcome = true
          else n.isRemark = true → n.own "file" = some path) := by
  intro c t u
  obtain ⟨ns, ⟨hfirst, hplain, hremark⟩, hns⟩ := tells_work likeness_unlogged prefs path t
  refine ⟨ns, ?_, fun hlog => ?_, hfirst, fun a ha => ?_, fun n hn => ?_⟩
  · rw [← takeAll_eq, ← (hns t (.inl rfl)).2]
    rfl
  · have halike : Unlogged t u := .inr ⟨s.files, ⟨rfl, hlog⟩, ⟨rfl, hlog⟩⟩
    have hevents : u.eventsOf ns = (ns.filter (·.isTold s)).map (·.bare s.now) := by
      have htold : ∀ n : Note, n.isTold u = n.isTold s := fun n => by cases n <;> rfl
      rw [eventsOf, funext htold]
      exact List.map_congr_left fun n _ => Note.event_of_no_context rfl n
    rw [(hns u halike).2, takeAll_eq, hevents]
  · obtain ⟨n, hn, hpassing, hfile⟩ := hremark a ha
    exact ⟨n, hn, hpassing, Note.own_of_not_mem hfile⟩
  · obtain ⟨hfile, hid, hothers⟩ := Note.lookup_event (s := t) (c := c) rfl n
    rw [Note.own_of_not_mem (hplain n hn)] at hid
    exact ⟨hfile, hid, hothers, Note.keeps_iff rfl (hplain n hn)⟩

/-- With the file not asked for, and a log of everything in memory, an empty file is analysed: a
remark shows its path all the same. -/
theorem context_kept_unasked :
    let log : LogPreferences := { Preferences.standard.log with fileContext := false }
    let s := inMemory log ⟨.dir [("a.java", .file .empty)], []⟩
    let c : FileContext := ⟨"/a.java", 0⟩
    let t := { s with context := some c }
    let u := { s with context := none }
    (∀ log structured, Sink.file log structured ∉ s.sinks) ∧
    ∃ ns : List Note,
      (ofFile .standard "/a.java" 0 s).2 =
        { (t.eventsOf ns).foldl hear t with context := none } ∧
      (work .standard "/a.java" u).2 =
        ((ns.filter (·.isTold s)).map (·.bare s.now)).foldl hear u ∧
      ∃ n ∈ ns, n.shown t "file" = some "/a.java" ∧ n.own "file" = none ∧ ¬ n.Keeps t c := by
  intro log s c t u
  have hlog : ∀ log structured, Sink.file log structured ∉ s.sinks := by simp [s, inMemory]
  obtain ⟨ns, hstate, hbare, -, hremark, hshown⟩ := context_kept_iff .standard "/a.java" 0 s
  refine ⟨hlog, ns, hstate, hbare hlog, ?_⟩
  have hok : (ofFile .standard "/a.java" 0 s).1.isOk := by decide +kernel
  obtain ⟨a, ha⟩ : ∃ a, (ofFile .standard "/a.java" 0 s).1 = .ok a := by
    cases h : (ofFile .standard "/a.java" 0 s).1 with
    | error => rw [h] at hok; cases hok
    | ok a => exact ⟨a, rfl⟩
  obtain ⟨n, hn, hpassing, hown⟩ := hremark a ha
  obtain ⟨hfile, -, -, hkeeps⟩ := hshown n hn
  rw [hpassing] at hfile hkeeps
  refine ⟨n, hn, hfile, hown, fun h => ?_⟩
  have hpath : n.own "file" = some "/a.java" := hkeeps.1 h rfl
  rw [hown] at hpath
  cases hpath

/-- Not every event shows the file that is asked for: a missing file, and what is told of it. -/
theorem not_context_kept : ¬ ∀ (prefs : Preferences) (path : Path) (id : Nat)
    (log : LogPreferences) (files : FileTree), log.fileContext = true →
      ∀ e ∈ (ofFile prefs path id (inMemory log files)).2.memory.events.toList,
        e.context.lookup "file" = some path ∧ e.context.lookup "file_id" = some (toString id) := by
  intro h
  have hall := h .standard "/a.java" 0 Preferences.standard.log .empty rfl
  exact absurd hall (by decide +kernel)

end Analysis

end Lookahead
