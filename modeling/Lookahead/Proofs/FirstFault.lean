import Lookahead.Proofs.Turns

/-!
# Batches up to the first fault

A batch in turn that stops at the first fault does, up to there, what it does otherwise, in the same
sessions; so its outcomes are those of the batch that does not stop, up to the first one that is not
clean (`throughFault`).  Whether all files are accepted is not changed by that, nor is it when the
files are shared out in rounds.

* `BatchChoices.discover_failFast`: the files are the same.
* `BatchChoices.runInTurn_eq`: both batches, by what becomes of the files in turn.
* `throughFault_eq`: where the outcomes stop.
* `BatchChoices.map_allAccepted_run`: whether all files are accepted, in turn or by workers.
-/

namespace Lookahead

/-! ### Walks -/

section

variable {c d : BatchChoices}

namespace Walk

mutual

theorem visit_congr (hp : c.picks = d.picks) (hr : c.recursive = d.recursive)
    (hm : c.maxFiles = d.maxFiles) (p : Path) : ∀ (n : FileNode) (w : Walk),
      visit c p n w = visit d p n w
  | .file _, w => by rw [visit, visit, add, add, hp, hm]
  | .dir entries, w => by rw [visit, visit, hr, visitAll_congr hp hr hm]

/-- A walk hangs on the extensions, on whether it goes into directories, and on where it stops. -/
theorem visitAll_congr (hp : c.picks = d.picks) (hr : c.recursive = d.recursive)
    (hm : c.maxFiles = d.maxFiles) (dir : Path) :
    ∀ (entries : List (String × FileNode)) (w : Walk),
      visitAll c dir entries w = visitAll d dir entries w
  | [], w => by rw [visitAll, visitAll]
  | (name, n) :: rest, w => by
    rw [visitAll, visitAll]
    dsimp only
    rw [visit_congr hp hr hm, visitAll_congr hp hr hm]

end

end Walk

/-- **The files found are the same**, whether the batch stops at a fault or not. -/
theorem BatchChoices.discover_failFast (c : BatchChoices) (stop : Bool) :
    discover { c with failFast := stop } = c.discover := by
  have hwalk : walk { c with failFast := stop } = c.walk := by
    funext dir
    simp only [walk, Walk.visitAll_congr (c := { c with failFast := stop }) (d := c) rfl rfl rfl]
  funext dir
  rw [discover, discover, hwalk]

end

/-! ### Outcomes up to a fault -/

/-- Outcomes up to the first that is not clean, and that one; all of them if there is none. -/
def throughFault (os : List FileOutcome) : List FileOutcome :=
  os.take (os.findIdx (!·.isClean) + 1)

theorem throughFault_cons (o : FileOutcome) (os : List FileOutcome) :
    throughFault (o :: os) = o :: if o.isClean then throughFault os else [] := by
  rw [throughFault, List.findIdx_cons, List.take_succ_cons]
  cases o.isClean <;> simp [throughFault]

/-- **Where the outcomes stop**: either all are clean and there, or the last is the first that is
not clean. -/
theorem throughFault_eq (os : List FileOutcome) :
    ((∀ o ∈ os, o.isClean) ∧ throughFault os = os) ∨
      ∃ front o back, os = front ++ o :: back ∧ (∀ p ∈ front, p.isClean) ∧ o.isClean = false ∧
        throughFault os = front ++ [o] := by
  induction os with
  | nil => exact .inl ⟨fun _ h => (List.not_mem_nil h).elim, rfl⟩
  | cons o os ih =>
    rw [throughFault_cons]
    cases ho : o.isClean with
    | false => exact .inr ⟨[], o, os, rfl, fun _ h => (List.not_mem_nil h).elim, ho, rfl⟩
    | true =>
      rcases ih with ⟨hall, heq⟩ | ⟨front, p, back, rfl, hfront, hp, heq⟩
      · exact .inl ⟨List.forall_mem_cons.2 ⟨ho, hall⟩, congrArg (o :: ·) heq⟩
      · exact .inr ⟨o :: front, p, back, rfl, List.forall_mem_cons.2 ⟨ho, hfront⟩, hp,
          congrArg (o :: ·) heq⟩

theorem throughFault_isPrefix (os : List FileOutcome) : throughFault os <+: os :=
  List.take_prefix _ _

/-- A fault is left over if there was one. -/
theorem all_isClean_throughFault (os : List FileOutcome) :
    (throughFault os).all FileOutcome.isClean = os.all FileOutcome.isClean := by
  rcases throughFault_eq os with ⟨-, heq⟩ | ⟨front, o, back, rfl, -, ho, heq⟩
  · rw [heq]
  · rw [heq]
    simp [ho]

/-! ### Batches in turn -/

namespace BatchChoices

/-- What becomes of files in turn, each analysed in the session that its announcement leaves. -/
def outcomesInTurn (preferences : Preferences) (announce : Path → Nat → Logged Unit) :
    List (Path × Nat) → Session → List FileOutcome
  | [], _ => []
  | (path, id) :: rest, s =>
    let r := Analysis.ofFile preferences path id (announce path id s).2
    ⟨path, r.1⟩ :: outcomesInTurn preferences announce rest r.2

theorem map_path_outcomesInTurn (preferences : Preferences) (announce : Path → Nat → Logged Unit)
    (items : List (Path × Nat)) (s : Session) :
    (outcomesInTurn preferences announce items s).map FileOutcome.path = items.map Prod.fst := by
  induction items generalizing s with
  | nil => rfl
  | cons item items ih => exact congrArg (item.1 :: ·) (ih _)

/-- A file in turn, and those after it unless the batch stops at the file. -/
theorem analyzeEach_cons (c : BatchChoices) (announce : Path → Nat → Logged Unit) (b : Batch)
    {path : Path} {id : Nat} (items : List (Path × Nat)) {s t : Session}
    {result : Except AnalysisError Analysis}
    (h : Analysis.ofFile c.preferences path id (announce path id s).2 = (result, t)) :
    c.analyzeEach announce b ((path, id) :: items) s =
      (if c.failFast && !FileOutcome.isClean ⟨path, result⟩ then
          pure (b.add ⟨path, result⟩, some path)
        else c.analyzeEach announce (b.add ⟨path, result⟩) items :
          Logged (Batch × Option Path)) t := by
  have hturn : c.analyzeEach announce b ((path, id) :: items) s =
      let r := Analysis.ofFile c.preferences path id (announce path id s).2
      let next := b.record ⟨path, r.1⟩
      (if c.failFast && !next.2 then pure (next.1, some path)
        else c.analyzeEach announce next.1 items : Logged (Batch × Option Path)) r.2 := rfl
  rw [hturn, h]
  dsimp only
  rw [Batch.record_eq]

/-- The file that files in turn stop at. -/
def faultOf (c : BatchChoices) (os : List FileOutcome) : Option Path :=
  if c.failFast then (os.find? (!·.isClean)).map FileOutcome.path else none

/-- **Files are analysed in turn**, up to the first fault if the batch stops there. -/
theorem analyzeEach_eq (c : BatchChoices) (announce : Path → Nat → Logged Unit) (b : Batch)
    (items : List (Path × Nat)) (s : Session) :
    let os := outcomesInTurn c.preferences announce items s
    (c.analyzeEach announce b items s).1 =
      ((if c.failFast then throughFault os else os).foldl Batch.add b, c.faultOf os) := by
  -- Induction on the files that are left, over the batch there is and the session.
  induction items generalizing b s with
  | nil =>
    unfold faultOf
    cases c.failFast <;> rfl
  | cons item items ih =>
    obtain ⟨path, id⟩ := item
    rcases h : Analysis.ofFile c.preferences path id (announce path id s).2 with ⟨result, t⟩
    have hturn : outcomesInTurn c.preferences announce ((path, id) :: items) s =
        ⟨path, result⟩ :: outcomesInTurn c.preferences announce items t := by
      rw [outcomesInTurn, h]
    dsimp only
    rw [c.analyzeEach_cons announce b items h, hturn, throughFault_cons]
    cases hstop : c.failFast with
    | false => exact (ih _ _).trans (by simp [hstop, faultOf])
    | true =>
      cases hclean : FileOutcome.isClean ⟨path, result⟩ with
      | true => exact (ih _ _).trans (by simp [hstop, hclean, faultOf])
      | false =>
        change (b.add ⟨path, result⟩, some path) = _
        simp [hstop, hclean, faultOf]

/-- The session that files leave, each analysed in the one that its announcement leaves. -/
def afterTurns (preferences : Preferences) (announce : Path → Nat → Logged Unit) :
    List (Path × Nat) → Session → Session
  | [], s => s
  | (path, id) :: rest, s =>
    afterTurns preferences announce rest
      (Analysis.ofFile preferences path id (announce path id s).2).2

theorem outcomesInTurn_append (preferences : Preferences) (announce : Path → Nat → Logged Unit)
    (items rest : List (Path × Nat)) (s : Session) :
    outcomesInTurn preferences announce (items ++ rest) s =
      outcomesInTurn preferences announce items s ++
        outcomesInTurn preferences announce rest (afterTurns preferences announce items s) := by
  induction items generalizing s with
  | nil => rfl
  | cons item items ih => exact congrArg (_ :: ·) (ih _)

/-- Without a stop, the session that is left is the one that the files leave. -/
theorem snd_analyzeEach (c : BatchChoices) (announce : Path → Nat → Logged Unit) (b : Batch)
    (items : List (Path × Nat)) (s : Session)
    (h : c.failFast = false ∨ ∀ o ∈ outcomesInTurn c.preferences announce items s, o.isClean) :
    (c.analyzeEach announce b items s).2 = afterTurns c.preferences announce items s := by
  induction items generalizing b s with
  | nil => rfl
  | cons item items ih =>
    obtain ⟨path, id⟩ := item
    rcases hr : Analysis.ofFile c.preferences path id (announce path id s).2 with ⟨result, t⟩
    have hgo : (c.failFast && !FileOutcome.isClean ⟨path, result⟩) = false ∧ (c.failFast = false ∨
        ∀ o ∈ outcomesInTurn c.preferences announce items t, o.isClean) := by
      rw [outcomesInTurn, hr] at h
      rcases h with hoff | hclean
      · rw [hoff]
        exact ⟨rfl, .inl rfl⟩
      · obtain ⟨ho, hrest⟩ := List.forall_mem_cons.1 hclean
        rw [ho]
        exact ⟨Bool.and_false _, .inr hrest⟩
    rw [c.analyzeEach_cons announce b items hr, hgo.1, afterTurns, hr]
    exact ih _ _ hgo.2

/-- Files in turn tell of a fault just if there is one among them, and stop at it just if they are
to. -/
theorem fault_analyzeEach (c : BatchChoices) (announce : Path → Nat → Logged Unit)
    (items : List (Path × Nat)) (s : Session) :
    let r := c.analyzeEach announce .empty items s
    r.1.1.allAccepted = (outcomesInTurn c.preferences announce items s).all FileOutcome.isClean ∧
      r.1.2.isSome = (c.failFast && !r.1.1.allAccepted) := by
  let os := outcomesInTurn c.preferences announce items s
  have hsome : (os.find? (!·.isClean)).isSome = !os.all FileOutcome.isClean := by
    rw [Bool.eq_iff_iff, List.find?_isSome, Bool.not_eq_true', ← Bool.not_eq_true, List.all_eq_true]
    simp
  have hall : (c.analyzeEach announce .empty items s).1.1.allAccepted =
      os.all FileOutcome.isClean := by
    rw [analyzeEach_eq, (Batch.holds_empty.foldl_add _).allAccepted_eq, List.nil_append]
    split
    · exact all_isClean_throughFault os
    · rfl
  refine ⟨hall, ?_⟩
  rw [hall, analyzeEach_eq, ← hsome, faultOf]
  cases c.failFast
  · rfl
  · exact Option.isSome_map

/-- **Rounds tell of a fault just if there is one among their files**, taken in turn. -/
theorem allAccepted_analyzeRounds (c : BatchChoices) (b : Batch)
    (rounds : List (List (Share Path))) (s : Session) :
    (c.analyzeRounds b rounds s).1.allAccepted = (b.allAccepted &&
      (outcomesInTurn c.preferences (fun _ _ => pure ())
        (rounds.flatten.flatMap Share.numbered) s).all FileOutcome.isClean) := by
  -- Induction on the rounds that are left, over the batch there is and the session.
  induction rounds generalizing b s with
  | nil => exact (Bool.and_true _).symm
  | cons shares rounds ih =>
    let items := shares.flatMap Share.numbered
    let os := outcomesInTurn c.preferences (fun _ _ => pure ()) items s
    let r := c.analyzeEach (fun _ _ => pure ()) .empty items s
    obtain ⟨hround, hfault⟩ : r.1.1.allAccepted = os.all FileOutcome.isClean ∧
        r.1.2.isSome = (c.failFast && !r.1.1.allAccepted) := c.fault_analyzeEach _ items s
    have hstep : c.analyzeRounds b (shares :: rounds) s =
        (if r.1.2.isSome then do
            Session.warning "Fail-fast mode enabled, stopping batch processing"
            return b.merge r.1.1
          else c.analyzeRounds (b.merge r.1.1) rounds : Logged Batch) r.2 := rfl
    rw [hstep, hfault, List.flatten_cons, List.flatMap_append, outcomesInTurn_append,
      List.all_append, ← Bool.and_assoc, ← hround, ← Batch.allAccepted_merge]
    by_cases hgo : c.failFast = false ∨ ∀ o ∈ os, o.isClean
    · have hnext : (c.failFast && !r.1.1.allAccepted) = false := by
        rcases hgo with hoff | hclean
        · rw [hoff, Bool.false_and]
        · rw [hround, List.all_eq_true.2 hclean]
          exact Bool.and_false _
      rw [hnext, ← c.snd_analyzeEach _ .empty items s hgo]
      exact ih _ _
    · have hstop : c.failFast = true ∧ r.1.1.allAccepted = false := by
        rw [not_or, ← List.all_eq_true, Bool.not_eq_false, Bool.not_eq_true] at hgo
        exact ⟨hgo.1, hround.trans hgo.2⟩
      have hmerged : (b.merge r.1.1).allAccepted = false := by
        rw [Batch.allAccepted_merge, hstop.2, Bool.and_false]
      rw [hmerged, Bool.false_and, hstop.1, hstop.2]
      exact hmerged

/-- The files of a batch in turn. -/
def foundInTurn (c : BatchChoices) (dir : Path) : ExceptT BatchError Logged (List Path) := do
  Session.info "Starting sequential batch processing" [("directory", dir)]
  c.discover dir

theorem foundInTurn_failFast (c : BatchChoices) (stop : Bool) :
    foundInTurn { c with failFast := stop } = c.foundInTurn := by
  funext dir
  rw [foundInTurn, foundInTurn, discover_failFast]

/-- What becomes of the files of a batch in turn, whether it stops at a fault or not. -/
def turns (c : BatchChoices) (files : List Path) (s : Session) : List FileOutcome :=
  outcomesInTurn c.preferences (c.announce files.length) files.zipIdx s

theorem map_path_turns (c : BatchChoices) (files : List Path) (s : Session) :
    (c.turns files s).map FileOutcome.path = files :=
  (map_path_outcomesInTurn ..).trans (List.zipIdx_map_fst 0 files)

/-- Tell of the file that files in turn stop at, and of what has come of them. -/
def closeInTurn (r : Batch × Option Path) : ExceptT BatchError Logged Batch := do
  if let some path := r.2 then
    Session.warning "Fail-fast mode enabled, stopping batch processing" [("file", path)]
  tell 1 r.1
  return r.1

theorem fst_closeInTurn (r : Batch × Option Path) (s : Session) :
    ((closeInTurn r).run s).1 = .ok r.1 := by
  obtain ⟨b, _ | path⟩ := r <;> rfl

/-- **A batch in turn**, by the files that are found and what becomes of them. -/
theorem runInTurn_eq (c : BatchChoices) (dir : Path) (s : Session) :
    ((c.runInTurn dir).run s).1 = ((c.foundInTurn dir).run s).1.map fun files =>
      (if c.failFast then throughFault (c.turns files ((c.foundInTurn dir).run s).2)
        else c.turns files ((c.foundInTurn dir).run s).2).foldl Batch.add
          (.start files.length) := by
  have hrun : c.runInTurn dir = c.foundInTurn dir >>= fun files =>
      liftM (c.analyzeEach (c.announce files.length) (.start files.length) files.zipIdx) >>=
        closeInTurn := rfl
  rw [hrun, run_bind_eq]
  rcases (c.foundInTurn dir).run s with ⟨_ | files, t⟩
  · rfl
  · have heach := c.analyzeEach_eq (c.announce files.length) (.start files.length) files.zipIdx t
    exact (fst_closeInTurn _ _).trans (congrArg (fun r => Except.ok r.1) heach)

/-- The same batch, to stop at a fault or not. -/
theorem runInTurn_failFast (c : BatchChoices) (stop : Bool) (dir : Path) (s : Session) :
    ((runInTurn { c with failFast := stop } dir).run s).1 =
      ((c.foundInTurn dir).run s).1.map fun files =>
        (if stop then throughFault (c.turns files ((c.foundInTurn dir).run s).2)
          else c.turns files ((c.foundInTurn dir).run s).2).foldl Batch.add
            (.start files.length) := by
  rw [runInTurn_eq, foundInTurn_failFast]
  rfl

/-- What becomes of files up to the first fault becomes of the first of them. -/
theorem map_path_throughFault (c : BatchChoices) (files : List Path) (s : Session) :
    (throughFault (c.turns files s)).map FileOutcome.path =
      files.take (throughFault (c.turns files s)).length := by
  have hprefix := List.prefix_iff_eq_take.1 (throughFault_isPrefix (c.turns files s))
  calc (throughFault (c.turns files s)).map FileOutcome.path
      = ((c.turns files s).take (throughFault (c.turns files s)).length).map FileOutcome.path :=
        congrArg _ hprefix
    _ = ((c.turns files s).map FileOutcome.path).take (throughFault (c.turns files s)).length :=
        List.map_take
    _ = files.take (throughFault (c.turns files s)).length := by rw [map_path_turns]

/-! ### Batches by workers -/

/-- The files of a batch by workers. -/
def foundByWorkers (c : BatchChoices) (dir : Path) : ExceptT BatchError Logged (List Path) := do
  Session.info "Starting parallel batch processing"
    [("directory", dir), ("max_threads", toString c.threads)]
  let files ← c.discover dir
  Session.debug "Parallel processing configuration"
    [("total_files", toString files.length),
     ("chunk_size", toString (Share.roundSize files.length c.threads)),
     ("threads", toString c.threads)]
  return files

/-- The files of a batch, of whichever sort. -/
def found (c : BatchChoices) (dir : Path) : ExceptT BatchError Logged (List Path) :=
  if c.threads = 1 then c.foundInTurn dir else c.foundByWorkers dir

/-- What becomes of the files of a batch, of whichever sort, whether it stops at a fault or not: the
shares of workers are taken in turn, and nothing is announced of their files. -/
def course (c : BatchChoices) (files : List Path) (s : Session) : List FileOutcome :=
  if c.threads = 1 then c.turns files s
  else outcomesInTurn c.preferences (fun _ _ => pure ()) files.zipIdx s

theorem found_failFast (c : BatchChoices) (stop : Bool) :
    found { c with failFast := stop } = c.found := by
  funext dir
  rw [found, found, foundInTurn_failFast, foundByWorkers, foundByWorkers, discover_failFast]
  rfl

/-- **A batch has a fault just if one of its files has**, whether it stops there or not. -/
theorem map_allAccepted_run (c : BatchChoices) (dir : Path) (s : Session) :
    (c.run dir s).1.map (fun b => b.allAccepted) = ((c.found dir).run s).1.map fun files =>
      (c.course files ((c.found dir).run s).2).all FileOutcome.isClean := by
  unfold run found course
  split
  · rw [runInTurn_eq]
    cases ((c.foundInTurn dir).run s).1 with
    | error => rfl
    | ok files =>
      refine congrArg Except.ok (((Batch.holds_start _).foldl_add _).allAccepted_eq.trans ?_)
      rw [List.nil_append]
      split
      · exact all_isClean_throughFault _
      · rfl
  · have hrun : c.runByWorkers dir = c.foundByWorkers dir >>= fun files => do
        let b ← c.analyzeRounds (.start files.length) (Share.rounds c.threads files)
        let b := b.sorted
        tell c.threads b
        return b := by
      simp only [runByWorkers, foundByWorkers, bind_assoc, pure_bind]
    change ((c.runByWorkers dir).run s).1.map _ = _
    rw [hrun, run_bind_eq]
    rcases (c.foundByWorkers dir).run s with ⟨_ | files, t⟩
    · rfl
    · have hthreads : 0 < c.threads := Nat.le_max_left 1 _
      have hrounds :=
        c.allAccepted_analyzeRounds (.start files.length) (Share.rounds c.threads files) t
      rw [Share.numbered_rounds hthreads] at hrounds
      exact congrArg Except.ok ((Batch.allAccepted_sorted _).trans hrounds)

end BatchChoices

end Lookahead
