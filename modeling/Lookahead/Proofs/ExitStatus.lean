import Lookahead.CommandLine
import Lookahead.Proofs.Console
import Lookahead.Proofs.Predictions
import Lookahead.Proofs.Schedules

/-!
# Exit status

A run of the program on a directory succeeds just if every file found is accepted without lexical
errors, and it makes no difference to that whether the batch stops at the first fault: a batch that
stops has seen a fault.

* `Crew.allAccepted_iff`: however workers get in between each other, and whether they stop or not.
* `BatchChoices.succeeds_run`, `BatchChoices.cleanInTurn_iff_apart`: when a batch succeeds.
* `Invocation.ensures_setUp`: a run gets to its analysis.
* `Invocation.result_iff_inTurn`: the exit status of a run on a directory.
* `BatchChoices.failFast_agrees`: batches that stop at the first fault, and batches that do not.
-/

namespace Lookahead

open Session

/-! ### Crews -/

theorem FileOutcome.isClean_untimed (o : FileOutcome) : o.untimed.isClean = o.isClean := by
  obtain ⟨path, _ | a⟩ := o <;> rfl

namespace Crew

variable {c : BatchChoices} {P : Session → Prop} {k k' : Crew} {e : Option (Path × Nat)}
  {es : List (Option (Path × Nat))} {s : Session} {files : List Path}

/-- There is a fault among the results. -/
def Faulty (k : Crew) : Prop := k.total.allAccepted = false

/-- A step forgets no fault. -/
theorem Step.faulty (h : Step c P k e k') (hk : k.Faulty) : k'.Faulty := by
  cases h with
  | take | stop | leave => exact hk
  | add =>
    rw [Faulty, total_add, Batch.allAccepted_add, hk]
    rfl
  | begin =>
    rw [Faulty, total_beginRound]
    exact hk

/-- A step takes one of the files that are left, or none, and leaves others of them. -/
theorem Step.left_subset (h : Step c P k e k') : e.toList ++ k'.left ⊆ k.left := by
  intro item hitem
  cases h with
  | take hw | stop hw | leave hw =>
    simp only [left, hw, List.flatMap_append, List.flatMap_cons, Worker.left, Option.toList_some,
      Option.toList_none, List.mem_append, List.mem_cons, List.not_mem_nil] at hitem ⊢
    tauto
  | add hw =>
    simp only [left, hw, List.flatMap_append, List.flatMap_cons, Option.toList_none,
      List.nil_append] at hitem ⊢
    split at hitem <;> exact hitem
  | begin hw _ hr =>
    simp only [left, hw, hr, beginRound, Worker.left_free, List.flatten_cons, List.flatMap_append,
      Option.toList_none, List.nil_append, List.flatMap_nil] at hitem ⊢
    exact hitem

theorem Steps.faulty (h : Steps c P k es k') (hk : k.Faulty) : k'.Faulty := by
  induction h with
  | refl => exact hk
  | more h _ ih => exact ih (h.faulty hk)

theorem Steps.taken_subset (h : Steps c P k es k') : taken es ⊆ k.left := by
  induction h with
  | refl => exact List.nil_subset _
  | more h _ ih =>
    rw [taken_cons]
    refine List.append_subset.2 ⟨fun item hitem => ?_, fun item hitem => ?_⟩
    · exact h.left_subset (List.mem_append_left _ hitem)
    · exact h.left_subset (List.mem_append_right _ (ih hitem))

/-- **Either there is a fault, or every file has been taken or is left.** -/
theorem Steps.faulty_or (h : Steps c P k es k') (hk : k.Steady) :
    k'.Faulty ∨ k'.Steady ∧ k.left.Perm (taken es ++ k'.left) := by
  induction h with
  | refl => exact .inr ⟨hk, .rfl⟩
  | more h rest ih =>
    rcases h.steady_or hk with hsteady | ⟨-, hfault⟩
    · refine (ih hsteady).imp_right fun ⟨hend, hperm⟩ => ⟨hend, ?_⟩
      rw [taken_cons, List.append_assoc]
      exact (h.left_perm hk).trans (hperm.append_left _)
    · exact .inl (rest.faulty hfault)

/-- **A crew accepts all files just if each of them is clean**, however its workers get in between
each other, and whether they stop at a fault or not. -/
theorem allAccepted_iff (hfile : ∀ path id, Fixed P (Analysis.ofFile c.preferences path id))
    (hs : P s) (h : Steps c P (.start c files) es k) (hk : k.Finished) (discovered : Nat) :
    (k.batch discovered).allAccepted ↔
      ∀ item ∈ files.zipIdx, (FileOutcome.ofFile c.preferences s item).isClean := by
  obtain ⟨os, hos, hperm⟩ := h.has hfile hs has_start
  have hclean : k.total.allAccepted ↔ ∀ o ∈ os, o.isClean := by
    rw [(hk.holds hos).allAccepted_eq, List.all_eq_true]
  have htaken : (∀ o ∈ os, o.isClean) ↔
      ∀ item ∈ taken es, (FileOutcome.ofFile c.preferences s item).isClean := by
    rw [List.map_nil, List.nil_append] at hperm
    have hall : (∀ o ∈ os.map FileOutcome.untimed, o.isClean) ↔
        ∀ o ∈ (taken es).map (outcomeOf c s), o.isClean :=
      forall_congr' fun o => imp_congr_left hperm.mem_iff
    simpa only [List.forall_mem_map, outcomeOf, FileOutcome.isClean_untimed] using hall
  have hbatch : (k.batch discovered).allAccepted = k.total.allAccepted := Batch.allAccepted_sorted _
  rw [hbatch, hclean, htaken]
  constructor
  · intro hall
    rcases h.faulty_or steady_start with hfault | ⟨hsteady, hperm⟩
    · -- a fault is among the outcomes, and all of them are clean
      rw [Faulty, hclean.2 (htaken.2 hall)] at hfault
      cases hfault
    · rw [left_start, hk.left_eq hsteady, List.append_nil] at hperm
      exact fun item hitem => hall item (hperm.mem_iff.1 hitem)
  · intro hall item hitem
    exact hall item (left_start (c := c) ▸ h.taken_subset hitem)

end Crew

/-! ### Batches that succeed -/

/-- A batch succeeds if it is made, and all its files are accepted. -/
def Batch.succeeds : Except BatchError Batch → Bool
  | .ok b => b.allAccepted
  | .error _ => false

namespace BatchChoices

variable {c : BatchChoices} {dir : Path} {P : Session → Prop} {s t : Session}

/-- There are files, and each of them is clean when they are analysed in turn. -/
def CleanInTurn (c : BatchChoices) (dir : Path) (s : Session) : Prop :=
  ∃ files, ((c.found dir).run s).1 = .ok files ∧
    ∀ o ∈ c.course files ((c.found dir).run s).2, o.isClean

/-- There are files, and each of them is clean when it is analysed by itself. -/
def CleanApart (c : BatchChoices) (dir : Path) (s : Session) : Prop :=
  ∃ files, ((c.discover dir).run s).1 = .ok files ∧
    ∀ item ∈ files.zipIdx, (FileOutcome.ofFile c.preferences s item).isClean

theorem cleanInTurn_failFast (c : BatchChoices) (stop : Bool) (dir : Path) (s : Session) :
    CleanInTurn { c with failFast := stop } dir s ↔ c.CleanInTurn dir s := by
  rw [CleanInTurn, found_failFast]
  rfl

/-- What is on the console has no part in whether files are clean. -/
theorem cleanInTurn_sameButConsole (h : SameButConsole s t) (c : BatchChoices) (dir : Path) :
    c.CleanInTurn dir s ↔ c.CleanInTurn dir t := by
  obtain ⟨hfound, hsession⟩ := (plain_found likeness_sameButConsole c dir).alike
    likeness_sameButConsole h
  change ((c.found dir).run s).1 = ((c.found dir).run t).1 at hfound
  refine exists_congr fun files => and_congr (by rw [hfound]) ?_
  rw [course_sameButConsole hsession]

/-- **A batch succeeds just if each file is clean**, whether it stops at a fault or not. -/
theorem succeeds_run (c : BatchChoices) (dir : Path) (s : Session) :
    Batch.succeeds (c.run dir s).1 ↔ c.CleanInTurn dir s := by
  have hrun := c.map_allAccepted_run dir s
  rw [CleanInTurn]
  cases hb : (c.run dir s).1 with
  | error =>
    rw [hb] at hrun
    constructor
    · nofun
    · rintro ⟨files, hfiles, -⟩
      rw [hfiles] at hrun
      cases hrun
  | ok b =>
    rw [hb] at hrun
    cases hf : ((c.found dir).run s).1 with
    | error =>
      rw [hf] at hrun
      cases hrun
    | ok files =>
      rw [hf] at hrun
      have hclean : b.allAccepted = _ := Except.ok.inj hrun
      rw [Batch.succeeds, hclean, List.all_eq_true]
      constructor
      · exact fun h => ⟨files, rfl, h⟩
      · rintro ⟨_, ⟨⟩, h⟩
        exact h

/-! #### Files that do not depend on each other -/

theorem outcomesInTurn_eq (h : c.Independent dir P) (hs : P s) {announce : Path → Nat → Logged Unit}
    (hannounce : ∀ path id, Ensures P (announce path id) fun _ => True)
    (items : List (Path × Nat)) (ht : P t) :
    outcomesInTurn c.preferences announce items t = items.map (.ofFile c.preferences s) := by
  induction items generalizing t with
  | nil => rfl
  | cons item items ih =>
    have hfile := h.file item.1 item.2 _ s (hannounce item.1 item.2 t ht).2 hs
    exact congrArg₂ (fun r os => ⟨item.1, r⟩ :: os) hfile.1 (ih hfile.2)

/-- **Files are clean in turn just if each is clean by itself**, if neither the files found nor what
becomes of one depend on what was told before. -/
theorem cleanInTurn_iff_apart (h : c.Independent dir P) (hs : P s) :
    c.CleanInTurn dir s ↔ c.CleanApart dir s := by
  have hfound : Ensures P (c.found dir).run (· = ((c.discover dir).run s).1) := by
    have hdiscover := h.discover.ensures hs
    unfold found
    split
    · exact .afterE h.lasting.info hdiscover
    · exact .afterE h.lasting.info (.bindE hdiscover
        (fun _ hfiles => .afterE h.lasting.debug (.pure hfiles)) fun _ he => he)
  obtain ⟨hfiles, ht⟩ := hfound s hs
  have hcourse : ∀ files, c.course files ((c.found dir).run s).2 =
      files.zipIdx.map (.ofFile c.preferences s) := by
    intro files
    unfold course
    split
    · exact outcomesInTurn_eq h hs
        (fun _ _ => .ite (fun _ => h.lasting.print) fun _ => .pure trivial) _ ht
    · exact outcomesInTurn_eq h hs (fun _ _ => .pure trivial) _ ht
  refine exists_congr fun files => and_congr (by rw [hfiles]) ?_
  rw [hcourse, List.forall_mem_map]

end BatchChoices

/-! ### Options -/

namespace Options

theorem flag_failFast (o : Options) (f : Flag) :
    f.apply (Flag.failFast.apply o) = Flag.failFast.apply (f.apply o) := by
  cases f <;> rfl

theorem setting_failFast (o : Options) (value : String) (x : Setting) :
    x.apply (Flag.failFast.apply o) value = (x.apply o value).map (Flag.failFast.apply ·) := by
  cases x with
  | listingPath | preferencesPath | logPath => rfl
  | threads | maxFiles =>
    unfold Setting.apply
    dsimp only
    split <;> rfl

/-- **Where the flag to stop at a fault stands makes no difference** to the other options. -/
theorem takeUp_failFast (o : Options) (warnings arguments : List String) :
    takeUp (Flag.failFast.apply o) warnings arguments =
      (Flag.failFast.apply (takeUp o warnings arguments).1, (takeUp o warnings arguments).2) := by
  fun_induction takeUp o warnings arguments with
  | case1 => rfl
  | case2 o warnings arg rest f hf ih =>
    rw [takeUp, hf]
    dsimp only
    rw [flag_failFast, ih]
  | case3 o warnings arg rest hf hx ih => rw [takeUp, hf, hx, ih]
  | case4 o warnings arg hf x hx => rw [takeUp, hf, hx]
  | case5 o warnings arg hf x hx value rest o' ho ih =>
    rw [takeUp, hf, hx]
    dsimp only
    rw [setting_failFast, ho]
    exact ih
  | case6 o warnings arg hf x hx value rest w hw ih =>
    rw [takeUp, hf, hx]
    dsimp only
    rw [setting_failFast, hw]
    exact ih

end Options

/-! ### Runs on a directory -/

namespace Invocation

variable {s : Session} {dir : Path}

/-- What is announced of a batch before. -/
def announced (o : Options) (c : BatchChoices) (dir : Path) (s : Session) : Session :=
  if o.quiet then s else (Session.printAll (Batch.announcement c dir) s).2

theorem announced_sameButConsole (o : Options) (c : BatchChoices) (dir : Path) (s : Session) :
    SameButConsole s (announced o c dir s) := by
  have hlines : ∀ (lines : List String) (s : Session),
      SameButConsole s (lines.foldl Session.printLine s) := by
    intro lines
    induction lines with
    | nil => exact fun s => ⟨s.out, s.err, rfl⟩
    | cons line lines ih =>
      intro s
      obtain ⟨out, err, h⟩ := ih (s.printLine line)
      exact ⟨out, err, h⟩
  unfold announced
  split
  · exact ⟨s.out, s.err, rfl⟩
  · exact hlines _ s

/-- **A run on a directory is clean just if its batch succeeds.** -/
theorem fst_analyze_directory (i : Invocation) (o : Options) (p : Preferences)
    (hinput : dir ≠ inputArgument) (hdir : s.files.isDirectory dir) :
    (i.analyze o p dir s).1 = Batch.succeeds
      (BatchChoices.run { o.batch with preferences := p } dir
        (announced o { o.batch with preferences := p } dir s)).1 := by
  have hfile : s.files.isFile dir = false := by
    rw [FileTree.isDirectory] at hdir
    rw [FileTree.isFile]
    split at hdir
    · next h => rw [h]
    · cases hdir
  have hreport : ∀ (r : Except BatchError Batch) (t : Session),
      (Batch.report r t).1 = Batch.succeeds r := fun r t => by cases r <;> rfl
  rw [analyze]
  change ((ite _ _ (ite _ _ (ite _ _ _)) : Logged Bool) s).1 = _
  rw [if_neg (mt beq_iff_eq.1 hinput), if_neg (Bool.eq_false_iff.1 hfile), if_pos hdir, announced]
  cases o.quiet <;> exact hreport _ _

/-- **A run on a directory is clean just if its files are**, whether its batch stops at a fault or
not. -/
theorem analyze_iff_inTurn (i : Invocation) (o : Options) (p : Preferences) (stop : Bool)
    (hinput : dir ≠ inputArgument) (hdir : s.files.isDirectory dir) :
    (i.analyze { o with batch := { o.batch with failFast := stop } } p dir s).1 ↔
      BatchChoices.CleanInTurn { o.batch with preferences := p } dir s := by
  let c : BatchChoices := { o.batch with failFast := stop, preferences := p }
  let o' : Options := { o with batch := { o.batch with failFast := stop } }
  rw [fst_analyze_directory i o' p hinput hdir, ← BatchChoices.cleanInTurn_failFast _ stop,
    BatchChoices.cleanInTurn_sameButConsole (announced_sameButConsole o' c dir s) c dir]
  exact BatchChoices.succeeds_run c dir _

/-! #### Up to the analysis -/

/-- What a run does before its analysis, with the options that it is given. -/
def setUp (i : Invocation) (given : Options × List String) : Attempt Preferences := do
  for w in given.2 do
    Session.complain s!"Warning: {w}"
  let p ← i.preferences given.1
  startLog p.log given.1.logPath
  checkStages.adapt fun problem => [s!"Error: {Text.quoted problem}"]
  return p

/-- The options that a run is given, and the warnings about them. -/
def given (i : Invocation) (options : List String) : Options × List String :=
  (Options.standard i.available (.ofEnvironment i.environment)).takeUp [] options

theorem attempt_eq (i : Invocation) (input : String) (options : List String) :
    i.attempt input options =
      i.setUp (i.given options) >>= fun p => liftM (i.analyze (i.given options).1 p input) := by
  simp only [attempt, setUp, given, bind_assoc, pure_bind]

/-- **The check of the stages succeeds.** -/
theorem ensures_checkStages {P : Session → Prop} (hP : Lasting P) :
    Ensures P checkStages.run (· = .ok ()) := by
  have hrules : Ensures P checkRules.run (· = .ok ()) := by
    unfold checkRules
    rw [mispredictions_standardRules]
    exact .afterE hP.debug (.liftE (hP.success.mono fun _ _ => rfl))
  unfold checkStages
  refine .afterE hP.debug (.afterE hP.debug (.afterE hP.debug (.afterE hP.debug ?_)))
  refine .bindE hrules (fun _ _ => ?_) nofun
  exact .liftE (hP.success.mono fun _ _ => rfl)

/-- Warnings about the options do not hold a run up. -/
theorem ensures_warn (files : FileTree) (warnings : List String) :
    Ensures (Over files) (forIn warnings () fun w _ => do
      Session.complain s!"Warning: {w}"
      pure (ForInStep.yield ()) : Attempt Unit).run (· = .ok ()) := by
  induction warnings with
  | nil => exact .pure rfl
  | cons w ws ih =>
    rw [List.forIn_cons]
    refine .bindE (.afterE (.modify fun _ hs => ⟨hs.files_eq, hs.unlogged⟩) (.pure rfl))
      (fun r hr => ?_) nofun
    cases hr
    exact ih

/-- Without a file of preferences, those of the log are the environment's. -/
theorem ensures_preferences (i : Invocation) {P : Session → Prop} {o : Options}
    (h : o.preferencesPath = none) :
    Ensures P (i.preferences o).run fun r =>
      ∃ p, r = .ok p ∧ p.log = (Preferences.ofEnvironment i.environment).log := by
  unfold preferences
  rw [h]
  exact .pure (by split <;> exact ⟨_, rfl, rfl⟩)

/-- A log that goes to no file begins over the files as they are. -/
theorem ensures_startLog (files : FileTree) {p : LogPreferences} (hsound : p.problem? = none) :
    Ensures (Over files) (startLog p none).run (· = .ok ()) := by
  unfold startLog
  rw [hsound]
  dsimp only
  intro s hs
  have hsinks : Over files { s with
      preferences := p
      sinks := (if p.console then [.console p.structured] else []) ++ []
      level := p.level } := by
    refine ⟨hs.files_eq, fun path structured => ?_⟩
    cases p.console <;> simp
  exact ⟨rfl, (lasting_over files).emit hsinks _⟩

/-- A run that is given no file of preferences and none for its log gets to its analysis, over the
files as they are, if the preferences of its log are sound. -/
theorem ensures_setUp (i : Invocation) (files : FileTree) {g : Options × List String}
    (hpreferences : g.1.preferencesPath = none) (hlog : g.1.logPath = none)
    (hsound : (Preferences.ofEnvironment i.environment).log.problem? = none) :
    Ensures (Over files) (i.setUp g).run fun r => ∃ p, r = .ok p := by
  refine .bindE (ensures_warn files g.2) (fun _ _ => ?_) nofun
  refine .bindE (ensures_preferences i hpreferences) (fun p hp => ?_) fun _ ⟨_, he, _⟩ => nomatch he
  obtain ⟨_, ⟨⟩, hp⟩ := hp
  have hstart : Ensures (Over files) (startLog p.log g.1.logPath).run (· = .ok ()) := by
    rw [hlog]
    exact ensures_startLog files (hp ▸ hsound)
  refine .bindE hstart (fun _ _ => ?_) nofun
  have hcheck : Ensures (Over files) (checkStages.adapt fun problem =>
      [s!"Error: {Text.quoted problem}"]).run (· = .ok ()) :=
    .adapt ((ensures_checkStages (lasting_over files)).mono fun _ h => by rw [h]; rfl)
  exact .bindE hcheck (fun _ _ => .pure ⟨p, rfl⟩) nofun

/-- It comes to the same analysis, whether a batch stops at a fault or not. -/
theorem analyze_failFast (i : Invocation) (o : Options) (p : Preferences) (input : String)
    (s : Session) :
    (i.analyze (Flag.failFast.apply o) p input s).1 = (i.analyze o p input s).1 := by
  have hreport : Analysis.report (Flag.failFast.apply o) = Analysis.report o := rfl
  by_cases hinput : input = inputArgument
  · rw [analyze, analyze, hreport]
    change ((ite _ _ _ : Logged Bool) s).1 = ((ite _ _ _ : Logged Bool) s).1
    rw [if_pos (beq_iff_eq.2 hinput), if_pos (beq_iff_eq.2 hinput)]
  · cases hdir : s.files.isDirectory input with
    | true =>
      exact Bool.eq_iff_iff.2 ((analyze_iff_inTurn i o p true hinput hdir).trans
        (analyze_iff_inTurn i o p o.batch.failFast hinput hdir).symm)
    | false =>
      rw [analyze, analyze, hreport]
      change ((ite _ _ (ite _ _ (ite _ _ _)) : Logged Bool) s).1 =
        ((ite _ _ (ite _ _ (ite _ _ _)) : Logged Bool) s).1
      rw [if_neg (Bool.eq_false_iff.1 hdir), if_neg (Bool.eq_false_iff.1 hdir)]
      rfl

/-- A run succeeds if it comes to an analysis, which is clean. -/
theorem fst_run {i : Invocation} {input : String} {options : List String}
    (hargs : i.arguments = input :: options) (hinput : input ≠ "--help") (s : Session) :
    (i.run s).1 = match ((i.attempt input options).run s).1 with
      | .ok clean => clean
      | .error _ => false := by
  have hrun : i.run = (i.attempt input options).run >>= fun r =>
      match r with
      | .ok clean => return clean
      | .error lines => do
        lines.forM Session.complain
        return false := by
    rw [run, hargs]
    split
    · next h => cases h
    · next h => cases h; exact absurd rfl hinput
    · next h => cases h; rfl
  rw [hrun]
  change ((match ((i.attempt input options).run s).1 with
    | .ok clean => return clean
    | .error lines => do
      lines.forM Session.complain
      return false : Logged Bool) ((i.attempt input options).run s).2).1 = _
  cases ((i.attempt input options).run s).1 <;> rfl

section

variable (i : Invocation) {input : String} {options : List String}

/-- The exit status tells whether a run is set up and comes to an analysis, which is clean. -/
theorem fst_result (hinput : input ≠ "--help") :
    ({ i with arguments := input :: options } : Invocation).result.1 =
      match (i.setUp (i.given options)).run i.session with
      | (.ok p, t) => if (i.analyze (i.given options).1 p input t).1 then 0 else 1
      | (.error _, _) => 1 := by
  let j : Invocation := { i with arguments := input :: options }
  have hanalyze : j.analyze = i.analyze := by
    funext o p input
    rw [analyze, analyze]
  have hattempt : j.attempt input options =
      i.setUp (i.given options) >>= fun p => liftM (i.analyze (i.given options).1 p input) := by
    rw [attempt_eq, hanalyze]
    rfl
  change (if (j.run i.session).1 then (0 : UInt32) else 1) = _
  rw [fst_run rfl hinput, hattempt, run_bind_eq]
  rcases (i.setUp (i.given options)).run i.session with ⟨lines | p, t⟩ <;> rfl

/-- **The exit status of a run on a directory** is that of success just if its files are clean. -/
theorem result_iff_inTurn (hinput : input ≠ "--help") (hdash : input ≠ inputArgument)
    {p : Preferences} {t : Session}
    (hsetUp : (i.setUp (i.given options)).run i.session = (.ok p, t))
    (hdir : t.files.isDirectory input) :
    ({ i with arguments := input :: options } : Invocation).result.1 = 0 ↔
      BatchChoices.CleanInTurn { (i.given options).1.batch with preferences := p } input t := by
  rw [fst_result i hinput, hsetUp, ← analyze_iff_inTurn i _ p _ hdash hdir]
  dsimp only
  split
  · next hclean => exact iff_of_true rfl hclean
  · next hclean => exact iff_of_false (by decide) hclean

/-- **The exit status of a run does not depend on the flag to stop at a fault.** -/
theorem result_failFast (input : String) (options : List String) :
    ({ i with arguments := input :: Flag.failFast.text :: options } : Invocation).result.1 =
      ({ i with arguments := input :: options } : Invocation).result.1 := by
  by_cases hinput : input = "--help"
  · subst hinput
    rfl
  · have hgiven : i.given (Flag.failFast.text :: options) =
        (Flag.failFast.apply (i.given options).1, (i.given options).2) :=
      Options.takeUp_failFast _ _ _
    have hsetUp : i.setUp (i.given (Flag.failFast.text :: options)) =
        i.setUp (i.given options) := by
      rw [hgiven]
      rfl
    rw [fst_result i hinput, fst_result i hinput, hsetUp, hgiven]
    rcases (i.setUp (i.given options)).run i.session with ⟨lines | p, t⟩
    · rfl
    · dsimp only
      rw [analyze_failFast]

end

end Invocation

/-! ### Stopping at the first fault -/

namespace BatchChoices

/-- **Batches that stop at the first fault and batches that do not agree.**  In turn, both find the
same files, or fail to for the same reason.  What becomes of the files, one after the other, is what
the batch that does not stop holds, with each file in exactly one of its lists; the other holds the
same for the files up to the first that is not clean; and both accept all files just if every one is
clean.

So do the batches of workers, if the files do not depend on what was told before, however the
workers get in between each other.  The exit status of a run of the program is the same with the
flag to stop at a fault in front of its options as without it; and that of a run on a directory is
the status of success just if there are files and every one is clean, whatever the options are. -/
theorem failFast_agrees :
    (∀ (c : BatchChoices) (dir : Path) (s : Session),
      let found := (c.foundInTurn dir).run s
      let off := ((runInTurn { c with failFast := false } dir).run s).1
      let on := ((runInTurn { c with failFast := true } dir).run s).1
      (∀ e, found.1 = .error e → off = .error e ∧ on = .error e) ∧
      ∀ files, found.1 = .ok files →
        let os := c.turns files found.2
        ∃ b b', off = .ok b ∧ on = .ok b' ∧ b.Holds os ∧ b.Divides os files ∧
          b'.Holds (throughFault os) ∧ b'.Divides (throughFault os) (files.take b'.processed) ∧
          b.discovered = files.length ∧ b'.discovered = files.length ∧
          b'.allAccepted = b.allAccepted ∧ (b.allAccepted ↔ ∀ o ∈ os, o.isClean)) ∧
    (∀ (c : BatchChoices) (P : Session → Prop) (dir : Path) (s : Session) (files : List Path),
      c.Independent dir P → P s → ((c.discover dir).run s).1 = .ok files →
      ∀ stop es k, Crew.Steps { c with failFast := stop } P (.start c files) es k → k.Finished →
        ((k.batch files.length).allAccepted ↔
          ∀ item ∈ files.zipIdx, (FileOutcome.ofFile c.preferences s item).isClean)) ∧
    (∀ (i : Invocation) (input : String) (options : List String),
      ({ i with arguments := input :: Flag.failFast.text :: options } : Invocation).result.1 =
        ({ i with arguments := input :: options } : Invocation).result.1) ∧
    ∀ (i : Invocation) (dir : Path) (options : List String) (p : Preferences) (s : Session),
      dir ≠ "--help" → dir ≠ Invocation.inputArgument →
      (i.setUp (i.given options)).run i.session = (.ok p, s) → s.files.isDirectory dir →
      let c : BatchChoices := { (i.given options).1.batch with preferences := p }
      let status := ({ i with arguments := dir :: options } : Invocation).result.1
      (status = 0 ↔ c.CleanInTurn dir s) ∧
        ∀ P, c.Independent dir P → P s → (status = 0 ↔ c.CleanApart dir s) := by
  refine ⟨fun c dir s => ?_, fun c P dir s files h hs _ stop es k hk hfinished => ?_,
    Invocation.result_failFast, fun i dir options p s hhelp hinput hsetUp hdir => ?_⟩
  · intro found off on
    have hoff : off = found.1.map fun files =>
        (c.turns files found.2).foldl Batch.add (.start files.length) :=
      runInTurn_failFast c false dir s
    have hon : on = found.1.map fun files =>
        (throughFault (c.turns files found.2)).foldl Batch.add (.start files.length) :=
      runInTurn_failFast c true dir s
    refine ⟨fun e he => ?_, fun files hfiles => ?_⟩
    · rw [hoff, hon, he]
      exact ⟨rfl, rfl⟩
    · intro os
      rw [hfiles] at hoff hon
      have hall : (os.foldl Batch.add (.start files.length)).Holds os :=
        (Batch.holds_start _).foldl_add os
      have hthrough : ((throughFault os).foldl Batch.add (.start files.length)).Holds
          (throughFault os) := (Batch.holds_start _).foldl_add _
      refine ⟨_, _, hoff, hon, hall, hall.divides (c.map_path_turns files found.2), hthrough,
        hthrough.divides ?_, Batch.discovered_foldl_add _ _, Batch.discovered_foldl_add _ _, ?_, ?_⟩
      · rw [hthrough.processed]
        exact c.map_path_throughFault files found.2
      · rw [hall.allAccepted_eq, hthrough.allAccepted_eq, all_isClean_throughFault]
      · rw [hall.allAccepted_eq, List.all_eq_true]
  · exact Crew.allAccepted_iff (c := { c with failFast := stop }) h.file hs hk hfinished _
  · have hstatus := Invocation.result_iff_inTurn i hhelp hinput hsetUp hdir
    exact ⟨hstatus, fun P h hs => hstatus.trans (cleanInTurn_iff_apart h hs)⟩

/-- Two files and one worker, in turn and as a crew, and runs of the program on them. -/
theorem failFast_agrees_two :
    let files : FileTree := ⟨.dir [("a.java", .file .empty), ("b.java", .file .empty)], []⟩
    let c := standard 1 .standard
    let s := Session.inMemory c.preferences.log files
    let found := ["/a.java", "/b.java"]
    let i : Invocation := ⟨"front", [], [], .empty, 1, .epoch, files⟩
    c.Independent "/" (Over files) ∧ Over files s ∧
    ((c.foundInTurn "/").run s).1 = .ok found ∧ ((c.discover "/").run s).1 = .ok found ∧
    (∃ os b b', ((runInTurn { c with failFast := false } "/").run s).1 = .ok b ∧
      ((runInTurn { c with failFast := true } "/").run s).1 = .ok b' ∧
      b.Divides os found ∧ b'.Holds (throughFault os) ∧ b'.allAccepted = b.allAccepted) ∧
    (∃ es k, Crew.Steps { c with failFast := false } (Over files) (.start c found) es k ∧
      k.Finished ∧ ((k.batch 2).allAccepted ↔
        ∀ item ∈ found.zipIdx, (FileOutcome.ofFile c.preferences s item).isClean)) ∧
    ({ i with arguments := ["/", "--fail-fast"] } : Invocation).result.1 =
      ({ i with arguments := ["/"] } : Invocation).result.1 ∧
    "/" ≠ "--help" ∧ "/" ≠ Invocation.inputArgument ∧
    ∃ p t, (i.setUp (i.given [])).run i.session = (.ok p, t) ∧ t.files.isDirectory "/" ∧
      (({ i with arguments := ["/"] } : Invocation).result.1 = 0 ↔
        CleanInTurn { (i.given []).1.batch with preferences := p } "/" t) := by
  intro files c s found i
  obtain ⟨hturn, hcrews, hflag, hstatus⟩ := failFast_agrees
  have hs : Over files s := ⟨rfl, by simp [s, Session.inMemory]⟩
  have hind := independent_over files c "/"
  have hdiscover : Ensures (Over files) (c.discover "/").run (· = .ok found) := by
    have hroot : files.node "/" = .ok (.dir [("a.java", .file .empty), ("b.java", .file .empty)]) :=
      rfl
    have hpicked : c.picked "/" [("a.java", .file .empty), ("b.java", .file .empty)] = found := by
      rw [picked, FileNode.byName, List.mergeSort_of_pairwise (by decide +kernel)]
      decide +kernel
    have hfound := ensures_discover_picked (c := c) hroot (by rw [hpicked]; decide)
      (by rw [hpicked]; decide)
    rwa [hpicked, List.mergeSort_of_pairwise (by decide +kernel)] at hfound
  have hinTurn : Ensures (Over files) (c.foundInTurn "/").run (· = .ok found) :=
    .afterE hind.lasting.info hdiscover
  have hfound : ((c.foundInTurn "/").run s).1 = .ok found := (hinTurn s hs).1
  obtain ⟨b, b', hoff, hon, -, hdivides, hthrough, -, -, -, hall, -⟩ :=
    (hturn c "/" s).2 found hfound
  obtain ⟨es, k, hk, hfinished, -⟩ := Crew.exists_steps (c := { c with failFast := false })
    (P := Over files) (k := .start c found) hs rfl rfl rfl rfl
  have hcrew := hcrews c _ "/" s found hind hs (hdiscover s hs).1 false es k hk hfinished
  have hhelp : "/" ≠ "--help" := by decide
  have hinput : "/" ≠ Invocation.inputArgument := by decide
  have hsetUp : ∃ p t, (i.setUp (i.given [])).run i.session = (.ok p, t) ∧
      t.files.isDirectory "/" := by
    have hover : Over files i.session := ⟨rfl, fun _ _ => List.not_mem_nil⟩
    obtain ⟨hok, hfiles⟩ := i.ensures_setUp files (g := i.given []) rfl rfl rfl i.session hover
    rcases hrun : (i.setUp (i.given [])).run i.session with ⟨r, t⟩
    rw [hrun] at hok hfiles
    obtain ⟨p, rfl⟩ := hok
    exact ⟨p, t, rfl, by rw [hfiles.files_eq]; rfl⟩
  obtain ⟨p, t, hdone, hroot⟩ := hsetUp
  exact ⟨hind, hs, hfound, (hdiscover s hs).1, ⟨_, b, b', hoff, hon, hdivides, hthrough, hall⟩,
    ⟨es, k, hk, hfinished, hcrew⟩, hflag i "/" [], hhelp, hinput,
    ⟨p, t, hdone, hroot, (hstatus i "/" [] p t hhelp hinput hdone hroot).1⟩⟩

end BatchChoices

end Lookahead
