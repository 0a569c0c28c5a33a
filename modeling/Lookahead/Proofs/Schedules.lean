import Lookahead.Proofs.Turns
import Mathlib.Data.List.Nodup

/-!
# Batches by crews

However the workers of a batch get in between each other, the batch they make is the one made by
analysing one file after the other, if it does not stop at the first fault.

* `Batch.Holds.agrees`: batches of the same outcomes agree, in whatever order they were made.
* `Crew.Step.left_perm`, `Crew.Step.has`: a step takes one of the files that are left, or none, and
  loses no outcome; so do steps in a row.
* `Crew.Step.work_lt`, `Crew.exists_step`: a crew comes to an end, and nothing holds it up before.
* `Crew.exists_steps`: what `BatchChoices.runByWorkers` does is one of the runs of a crew.
-/

namespace Lookahead

/-! ### What does not depend on time -/

namespace FileOutcome

/-- A path and its analysis, without the time it took. -/
def untimedEntry (entry : Path × Analysis) : Path × Analysis := (entry.1, entry.2.untimed)

theorem accepted?_untimed (o : FileOutcome) :
    o.untimed.accepted? = o.accepted?.map untimedEntry := by
  obtain ⟨path, _ | a⟩ := o
  · rfl
  · change (if a.isClean then some (path, a.untimed) else none) =
      Option.map untimedEntry (if a.isClean then some (path, a) else none)
    split <;> rfl

theorem rejected?_untimed (o : FileOutcome) :
    o.untimed.rejected? = o.rejected?.map untimedEntry := by
  obtain ⟨path, _ | a⟩ := o
  · rfl
  · change (if a.isClean then none else some (path, a.untimed)) =
      Option.map untimedEntry (if a.isClean then none else some (path, a))
    split <;> rfl

theorem failed?_untimed (o : FileOutcome) : o.untimed.failed? = o.failed?.map id := by
  obtain ⟨path, _ | a⟩ := o <;> rfl

/-- What is picked from outcomes without their times is what is picked from them, without. -/
theorem filterMap_untimed {β : Type} {f : FileOutcome → Option β} {g : β → β}
    (h : ∀ o : FileOutcome, f o.untimed = (f o).map g) (os : List FileOutcome) :
    (os.map untimed).filterMap f = (os.filterMap f).map g := by
  rw [List.filterMap_map, List.map_filterMap]
  exact List.filterMap_congr fun o _ => h o

end FileOutcome

namespace Totals

theorem sum_map_untimed {f : Analysis → Nat} (hf : ∀ a : Analysis, f a.untimed = f a)
    (as : List Analysis) : sum f (as.map Analysis.untimed) = sum f as := by
  simp only [sum, List.foldr_map, hf]

theorem of_untimed (as : List Analysis) :
    of (as.map Analysis.untimed) = { of as with duration := 0 } := by
  have hduration : sum Analysis.duration (as.map Analysis.untimed) = 0 := by
    induction as with
    | nil => rfl
    | cons a as ih => exact (Nat.zero_add _).trans ih
  rw [of, hduration, sum_map_untimed fun _ => rfl, sum_map_untimed fun _ => rfl,
    sum_map_untimed fun _ => rfl, List.countP_map, List.countP_map, List.countP_map]
  rfl

end Totals

namespace Batch

/-- Two batches tell the same, in the same order, but for how long it took. -/
structure Agrees (b b' : Batch) : Prop where
  accepted : b.accepted.map FileOutcome.untimedEntry = b'.accepted.map FileOutcome.untimedEntry
  rejected : b.rejected.map FileOutcome.untimedEntry = b'.rejected.map FileOutcome.untimedEntry
  failed : b.failed = b'.failed
  processed : b.processed = b'.processed
  discovered : b.discovered = b'.discovered
  totals : { b.totals with duration := 0 } = { b'.totals with duration := 0 }

/-- Entries of different files can be put in the order of paths in one way only. -/
theorem mergeSort_eq_of_perm {β : Type} {es fs : List (Path × β)} (h : es.Perm fs)
    (hsorted : (fs.map Prod.fst).Pairwise fun p q => p.le q = true)
    (hdistinct : ((fs.map Prod.fst).map Path.parts).Nodup) :
    es.mergeSort (fun p q => p.1.le q.1) = fs := by
  have hperm := (es.mergeSort_perm fun p q => p.1.le q.1).trans h
  have htrans : ∀ p q r : Path × β, p.1.le q.1 = true → q.1.le r.1 = true → p.1.le r.1 = true :=
    fun p q r => Path.le_trans p.1 q.1 r.1
  have htotal : ∀ p q : Path × β, (p.1.le q.1 || q.1.le p.1) = true :=
    fun p q => Path.le_total p.1 q.1
  have hle := List.pairwise_mergeSort htrans htotal es
  refine hperm.eq_of_pairwise (fun p q hp hq hpq hqp => ?_) hle (List.pairwise_map.1 hsorted)
  rw [List.map_map] at hdistinct
  exact List.inj_on_of_nodup_map hdistinct (hperm.mem_iff.1 hp) hq (Path.parts_eq_of_le hpq hqp)

variable {os ps : List FileOutcome}

/-- A part of outcomes, put in order, is that part of the same outcomes in order. -/
theorem part_untimed {β : Type} {f : FileOutcome → Option (Path × β)} {g : Path × β → Path × β}
    (hperm : (os.map FileOutcome.untimed).Perm (ps.map FileOutcome.untimed))
    (hsorted : (ps.map FileOutcome.path).Pairwise fun p q => p.le q = true)
    (hdistinct : ((ps.map FileOutcome.path).map Path.parts).Nodup)
    (hf : ∀ o : FileOutcome, f o.untimed = (f o).map g) (hg : ∀ e, (g e).1 = e.1)
    (hpart : ((ps.filterMap f).map Prod.fst).Sublist (ps.map FileOutcome.path)) :
    ((os.filterMap f).mergeSort fun p q => p.1.le q.1).map g = (ps.filterMap f).map g := by
  have hsort : ((os.filterMap f).mergeSort fun p q => p.1.le q.1).map g =
      ((os.filterMap f).map g).mergeSort fun p q => p.1.le q.1 :=
    List.map_mergeSort fun p _ q _ => by rw [hg, hg]
  have hfst : ((ps.filterMap f).map g).map Prod.fst = (ps.filterMap f).map Prod.fst := by
    rw [List.map_map]
    exact List.map_congr_left fun e _ => hg e
  rw [hsort]
  refine mergeSort_eq_of_perm ?_ ?_ ?_
  · rw [← FileOutcome.filterMap_untimed hf, ← FileOutcome.filterMap_untimed hf]
    exact hperm.filterMap f
  · rw [hfst]
    exact hsorted.sublist hpart
  · rw [hfst]
    exact hdistinct.sublist (hpart.map _)

/-- **Batches of the same outcomes agree**, in whatever order the files were added to the one that
is put in order. -/
theorem Holds.agrees {b b' : Batch} (h : b.Holds os) (h' : b'.Holds ps)
    (hperm : (os.map FileOutcome.untimed).Perm (ps.map FileOutcome.untimed))
    (hsorted : (ps.map FileOutcome.path).Pairwise fun p q => p.le q = true)
    (hdistinct : ((ps.map FileOutcome.path).map Path.parts).Nodup)
    (hdiscovered : b.discovered = b'.discovered) : b.sorted.Agrees b' := by
  have haccepted : b.sorted.accepted.map FileOutcome.untimedEntry =
      b'.accepted.map FileOutcome.untimedEntry := by
    rw [sorted, h.accepted, h'.accepted]
    exact part_untimed hperm hsorted hdistinct FileOutcome.accepted?_untimed (fun _ => rfl)
      (sublist_accepted ps)
  have hrejected : b.sorted.rejected.map FileOutcome.untimedEntry =
      b'.rejected.map FileOutcome.untimedEntry := by
    rw [sorted, h.rejected, h'.rejected]
    exact part_untimed hperm hsorted hdistinct FileOutcome.rejected?_untimed (fun _ => rfl)
      (sublist_rejected ps)
  have hfailed := part_untimed hperm hsorted hdistinct FileOutcome.failed?_untimed (fun _ => rfl)
    (sublist_failed ps)
  rw [List.map_id, List.map_id] at hfailed
  have htotals : ∀ b : Batch, { b.totals with duration := 0 } =
      Totals.of ((b.accepted.map FileOutcome.untimedEntry ++
        b.rejected.map FileOutcome.untimedEntry).map Prod.snd) := by
    intro b
    rw [totals, ← Totals.of_untimed, ← List.map_append, List.map_map, List.map_map]
    rfl
  refine ⟨haccepted, hrejected, ?_, ?_, hdiscovered, ?_⟩
  · rw [sorted, h.failed, h'.failed]
    exact hfailed
  · have hlength := hperm.length_eq
    rw [List.length_map, List.length_map] at hlength
    exact h.processed.trans (hlength.trans h'.processed.symm)
  · rw [htotals, htotals, haccepted, hrejected]

end Batch

/-! ### Steps of a crew -/

namespace Worker

/-- The files that are left of the worker's share. -/
def left : Worker → List (Path × Nat)
  | free left | holding _ left | stopping left => left

/-- The outcome that the worker has not yet added to the results. -/
def held : Worker → List FileOutcome
  | holding o _ => [o]
  | _ => []

/-- The most steps that the worker has before it. -/
def work : Worker → Nat
  | free left => 3 * left.length + 1
  | stopping left => 3 * left.length + 2
  | holding _ left => 3 * left.length + 3

/-- Workers that begin a round have all of it before them. -/
theorem left_free (round : List (Share Path)) :
    (round.map fun share => free share.numbered).flatMap left = round.flatMap Share.numbered := by
  rw [List.flatMap_map]
  rfl

/-- Workers that begin a round hold no outcome. -/
theorem held_free (round : List (Share Path)) :
    (round.map fun share => free share.numbered).flatMap held = [] := by
  rw [List.flatMap_map]
  exact List.flatMap_eq_nil_iff.2 fun _ _ => rfl

end Worker

namespace Crew

/-- The files that no worker has taken. -/
def left (k : Crew) : List (Path × Nat) :=
  k.workers.flatMap Worker.left ++ k.waiting.flatten.flatMap Share.numbered

/-- The outcomes that workers have not yet added to the results. -/
def held (k : Crew) : List FileOutcome := k.workers.flatMap Worker.held

/-- The outcomes there are: the results hold them, but for those that workers hold. -/
def Has (k : Crew) (os : List FileOutcome) : Prop :=
  ∃ added, k.total.Holds added ∧ os = added ++ k.held

/-- The most steps that workers have before them. -/
def workOf (ws : List Worker) : Nat := ws.foldr (fun w n => w.work + n) 0

/-- The most steps that the crew has before it. -/
def work (k : Crew) : Nat :=
  workOf k.workers +
    k.waiting.foldr (fun round n => workOf (round.map fun share => .free share.numbered) + 1 + n) 0

theorem workOf_append_cons (front back : List Worker) (w : Worker) :
    workOf (front ++ w :: back) = workOf (front ++ back) + w.work := by
  induction front with
  | nil => exact Nat.add_comm _ _
  | cons v front ih => exact (congrArg (v.work + ·) ih).trans (Nat.add_assoc _ _ _).symm

/-- Nobody has told the workers to stop, or is about to. -/
structure Steady (k : Crew) : Prop where
  going : k.stopped = false
  quiet : ∀ w ∈ k.workers, ∀ left, w ≠ .stopping left

/-- The files that are analysed at steps in a row. -/
def taken (es : List (Option (Path × Nat))) : List (Path × Nat) := es.flatMap Option.toList

theorem taken_cons (e : Option (Path × Nat)) (es : List (Option (Path × Nat))) :
    taken (e :: es) = e.toList ++ taken es := List.flatMap_cons

variable {c : BatchChoices} {P : Session → Prop} {k k' : Crew} {e : Option (Path × Nat)}
  {es : List (Option (Path × Nat))} {s : Session} {files : List Path}

/-- **Every step brings a crew nearer to its end.** -/
theorem Step.work_lt (h : Step c P k e k') : k'.work < k.work := by
  cases h with
  | take hw | stop hw | leave hw =>
    simp only [work, hw, workOf_append_cons, Worker.work, List.length_cons]
    omega
  | add hw =>
    simp only [work, hw, workOf_append_cons]
    split <;> simp only [Worker.work] <;> omega
  | begin hw _ hr =>
    simp only [work, hw, hr, beginRound, List.foldr_cons]
    omega

/-- An outcome that is added to the results of a round is added to all. -/
theorem total_add (k : Crew) (workers : List Worker) (o : FileOutcome) :
    { k with workers, results := k.results.add o }.total = k.total.add o :=
  Batch.merge_add _ _ _

/-- A round begins with the results there are. -/
theorem total_beginRound (k : Crew) (round : List (Share Path)) (rest : List (List (Share Path))) :
    (k.beginRound round rest).total = k.total := Batch.merge_empty _

theorem Steady.replace {front back : List Worker} {w w' : Worker} (hk : k.Steady)
    (hw : k.workers = front ++ w :: back) (hw' : ∀ left, w' ≠ .stopping left) :
    ∀ v ∈ front ++ w' :: back, ∀ left, v ≠ .stopping left := by
  have hquiet := hk.quiet
  rw [hw, List.forall_mem_append, List.forall_mem_cons] at hquiet
  obtain ⟨hfront, -, hback⟩ := hquiet
  exact List.forall_mem_append.2 ⟨hfront, List.forall_mem_cons.2 ⟨hw', hback⟩⟩

/-- Nobody tells the workers to stop but for a fault among the results, if the batch is to stop at
one. -/
theorem Step.steady_or (h : Step c P k e k') (hk : k.Steady) :
    k'.Steady ∨ c.failFast = true ∧ k'.total.allAccepted = false := by
  cases h with
  | take hw => exact .inl ⟨hk.going, hk.replace hw fun _ => Worker.noConfusion⟩
  | @add front back o left hw =>
    rw [total_add, Batch.allAccepted_add, Batch.record_eq]
    cases hstop : c.failFast && !o.isClean with
    | true =>
      rw [Bool.and_eq_true, Bool.not_eq_true'] at hstop
      exact .inr ⟨hstop.1, by rw [hstop.2, Bool.and_false]⟩
    | false => exact .inl ⟨hk.going, hk.replace hw fun _ => Worker.noConfusion⟩
  | stop hw =>
    have hmem := hw ▸ List.mem_append_right _ List.mem_cons_self
    exact absurd rfl (hk.quiet _ hmem _)
  | leave hw =>
    have hquiet := hk.quiet
    rw [hw, List.forall_mem_append, List.forall_mem_cons] at hquiet
    exact .inl ⟨hk.going, List.forall_mem_append.2 ⟨hquiet.1, hquiet.2.2⟩⟩
  | begin =>
    refine .inl ⟨hk.going, fun w hmem left => ?_⟩
    obtain ⟨share, -, rfl⟩ := List.mem_map.1 hmem
    exact Worker.noConfusion

/-- Workers that do not stop at the first fault tell nobody to stop. -/
theorem Step.steady (hoff : c.failFast = false) (h : Step c P k e k') (hk : k.Steady) :
    k'.Steady := (h.steady_or hk).resolve_right fun ⟨hon, _⟩ => by rw [hoff] at hon; cases hon

/-- **A step takes one of the files that are left**, or none. -/
theorem Step.left_perm (h : Step c P k e k') (hk : k.Steady) : k.left.Perm (e.toList ++ k'.left) := by
  cases h with
  | take hw =>
    simp only [left, hw, List.flatMap_append, List.flatMap_cons, Worker.left, Option.toList_some,
      List.append_assoc, List.cons_append, List.nil_append]
    exact List.perm_middle
  | add hw =>
    simp only [left, hw, List.flatMap_append, List.flatMap_cons]
    split <;> exact .rfl
  | stop hw =>
    simp only [left, hw, List.flatMap_append, List.flatMap_cons]
    exact .rfl
  | leave hw hl =>
    -- A worker that leaves before it is told to stop has nothing left.
    obtain rfl := hl.resolve_right (by rw [hk.going]; exact Bool.false_ne_true)
    simp only [left, hw, List.flatMap_append, List.flatMap_cons]
    exact .rfl
  | begin hw _ hr =>
    simp only [left, hw, hr, beginRound, Worker.left_free, List.flatten_cons, List.flatMap_append]
    exact .rfl

/-- What becomes of a file, apart from the time it takes. -/
def outcomeOf (c : BatchChoices) (s : Session) (item : Path × Nat) : FileOutcome :=
  (FileOutcome.ofFile c.preferences s item).untimed

/-- **A step loses no outcome**, and has one more for the file it takes. -/
theorem Step.has (hfile : ∀ path id, Fixed P (Analysis.ofFile c.preferences path id)) (hs : P s)
    (h : Step c P k e k') {os : List FileOutcome} (hk : k.Has os) :
    ∃ os', k'.Has os' ∧ (os'.map FileOutcome.untimed).Perm
      (os.map FileOutcome.untimed ++ e.toList.map (outcomeOf c s)) := by
  obtain ⟨added, hadded, rfl⟩ := hk
  cases h with
  | @take front back item left o hw _ ho =>
    -- In whatever session the file is analysed, the same becomes of it.
    obtain ⟨t, ht, ho⟩ := ho
    have heq : o.untimed = outcomeOf c s item := by
      rw [ho, outcomeOf, FileOutcome.ofFile, FileOutcome.ofFile, (hfile _ _ t s ht hs).1]
    refine ⟨_, ⟨added, hadded, rfl⟩, ?_⟩
    simp only [held, hw, List.flatMap_append, List.flatMap_cons, Worker.held, List.map_append,
      List.map_cons, List.map_nil, heq, Option.toList_some, List.append_assoc, List.cons_append,
      List.nil_append]
    refine .append_left _ (.append_left _ ?_)
    exact (List.perm_append_singleton _ _).symm
  | @add front back o left hw =>
    have hheld : (if c.failFast && !(k.results.record o).2 then .stopping left
        else .free left : Worker).held = [] := by split <;> rfl
    refine ⟨_, ⟨added ++ [o], total_add k _ o ▸ hadded.add o, rfl⟩, ?_⟩
    simp only [held, hw, List.flatMap_append, List.flatMap_cons, hheld]
    simp only [Worker.held, Option.toList_none, List.map_nil, List.append_nil,
      List.append_assoc, List.cons_append, List.nil_append]
    exact (List.Perm.append_left _ List.perm_middle.symm).map _
  | stop hw | leave hw =>
    refine ⟨_, ⟨added, hadded, rfl⟩, ?_⟩
    simp only [held, hw, List.flatMap_append, List.flatMap_cons, Worker.held, List.nil_append,
      Option.toList_none, List.map_nil, List.append_nil]
    exact .rfl
  | begin hw =>
    refine ⟨_, ⟨added, total_beginRound k _ _ ▸ hadded, rfl⟩, ?_⟩
    simp only [held, hw, beginRound, Worker.held_free, List.flatMap_nil, Option.toList_none,
      List.map_nil, List.append_nil]
    exact .rfl

/-! ### Steps in a row -/

theorem Steps.trans {k₁ : Crew} {es' : List (Option (Path × Nat))} (h₁ : Steps c P k es k₁)
    (h₂ : Steps c P k₁ es' k') : Steps c P k (es ++ es') k' := by
  induction h₁ with
  | refl => exact h₂
  | more h _ ih => exact .more h (ih h₂)

theorem Steps.length_le (h : Steps c P k es k') : es.length + k'.work ≤ k.work := by
  induction h with
  | refl => exact Nat.le_of_eq (Nat.zero_add _)
  | more h _ ih =>
    have hlt := h.work_lt
    rw [List.length_cons]
    omega

theorem Steps.steady (hoff : c.failFast = false) (h : Steps c P k es k') (hk : k.Steady) :
    k'.Steady := by
  induction h with
  | refl => exact hk
  | more h _ ih => exact ih (h.steady hoff hk)

theorem Steps.left_perm (hoff : c.failFast = false) (h : Steps c P k es k') (hk : k.Steady) :
    k.left.Perm (taken es ++ k'.left) := by
  induction h with
  | refl => exact .rfl
  | more h _ ih =>
    rw [taken_cons, List.append_assoc]
    exact (h.left_perm hk).trans ((ih (h.steady hoff hk)).append_left _)

theorem Steps.has (hfile : ∀ path id, Fixed P (Analysis.ofFile c.preferences path id)) (hs : P s)
    (h : Steps c P k es k') {os : List FileOutcome} (hk : k.Has os) :
    ∃ os', k'.Has os' ∧ (os'.map FileOutcome.untimed).Perm
      (os.map FileOutcome.untimed ++ (taken es).map (outcomeOf c s)) := by
  induction h generalizing os with
  | refl => exact ⟨os, hk, .of_eq (List.append_nil _).symm⟩
  | more h _ ih =>
    obtain ⟨os₁, hk₁, hperm₁⟩ := h.has hfile hs hk
    obtain ⟨os', hk', hperm⟩ := ih hk₁
    refine ⟨os', hk', hperm.trans ?_⟩
    rw [taken_cons, List.map_append, ← List.append_assoc]
    exact hperm₁.append_right _

/-! ### From the first round to the last -/

theorem steady_start : (start c files).Steady := ⟨rfl, fun _ h => absurd h List.not_mem_nil⟩

theorem left_start : (start c files).left = files.zipIdx :=
  Share.numbered_rounds (Nat.le_max_left 1 _) files

theorem has_start : (start c files).Has [] := ⟨[], Batch.holds_empty, rfl⟩

/-- **Nothing holds up a crew** that is not at its end. -/
theorem exists_step (hs : P s) (hk : ¬ k.Finished) : ∃ e k', Step c P k e k' := by
  obtain ⟨waiting, workers, stopped, results, done⟩ := k
  cases workers with
  | nil =>
    cases waiting with
    | nil => exact absurd ⟨rfl, .inl rfl⟩ hk
    | cons round rest =>
      cases stopped with
      | true => exact absurd ⟨rfl, .inr rfl⟩ hk
      | false => exact ⟨none, _, .begin rfl rfl rfl⟩
  | cons w back =>
    cases w with
    | holding o left => exact ⟨none, _, .add (List.nil_append _).symm⟩
    | stopping left => exact ⟨none, _, .stop (List.nil_append _).symm⟩
    | free left =>
      cases left with
      | nil => exact ⟨none, _, .leave (List.nil_append _).symm (.inl rfl)⟩
      | cons item left =>
        cases stopped with
        | true => exact ⟨none, _, .leave (List.nil_append _).symm (.inr rfl)⟩
        | false => exact ⟨some item, _, .take (List.nil_append _).symm rfl ⟨s, hs, rfl⟩⟩

/-- At the end every file has been taken. -/
theorem Finished.left_eq (hk : k.Finished) (hsteady : k.Steady) : k.left = [] := by
  obtain ⟨hworkers, hwaiting⟩ := hk
  have hwaiting : k.waiting = [] := hwaiting.resolve_right (by rw [hsteady.going]; exact nofun)
  rw [left, hworkers, hwaiting]
  rfl

/-- At the end no outcome is held back from the results. -/
theorem Finished.holds (hk : k.Finished) {os : List FileOutcome} (h : k.Has os) :
    k.total.Holds os := by
  obtain ⟨added, hadded, rfl⟩ := h
  rwa [held, hk.1, List.flatMap_nil, List.append_nil]

/-! ### One worker after the other -/

/-- The crew with other workers, and with more outcomes in the results of the round. -/
def advance (k : Crew) (workers : List Worker) (more : List FileOutcome) : Crew :=
  { k with workers, results := more.foldl Batch.add k.results }

theorem advance_nil {ws : List Worker} (hw : k.workers = ws) : k.advance ws [] = k := by
  subst hw
  rfl

theorem advance_advance (k : Crew) (ws ws' : List Worker) (os os' : List FileOutcome) :
    (k.advance ws os).advance ws' os' = k.advance ws' (os ++ os') := by
  rw [advance, advance, advance, List.foldl_append]

/-- A worker takes a file and adds what becomes of it. -/
theorem steps_file (hoff : c.failFast = false) {item : Path × Nat} {left : List (Path × Nat)}
    {front back : List Worker} {o : FileOutcome}
    (hw : k.workers = front ++ .free (item :: left) :: back) (hk : k.stopped = false)
    (ho : o.IsOf c.preferences P item) :
    Steps c P k [some item, none] (k.advance (front ++ .free left :: back) [o]) := by
  have htake : Step c P k (some item) { k with workers := front ++ .holding o left :: back } :=
    .take hw hk ho
  have hadd : Step c P { k with workers := front ++ .holding o left :: back } none _ := .add rfl
  rw [hoff] at hadd
  exact .more htake (.more hadd (.refl _))

/-- The first worker goes through its share while the others wait. -/
theorem exists_steps_share (hs : P s) (hoff : c.failFast = false) {back : List Worker}
    {items : List (Path × Nat)} (hw : k.workers = .free items :: back) (hk : k.stopped = false) :
    ∃ es, Steps c P k es (k.advance back (items.map (.ofFile c.preferences s))) := by
  induction items generalizing k with
  | nil =>
    refine ⟨[none], .more (.leave (hw.trans (List.nil_append _).symm) (.inl rfl)) ?_⟩
    exact .refl _
  | cons item items ih =>
    have hfile := steps_file hoff (hw.trans (List.nil_append _).symm) hk ⟨s, hs, rfl⟩
    obtain ⟨es, hrest⟩ := @ih (k.advance (.free items :: back) _) rfl hk
    rw [advance_advance] at hrest
    exact ⟨_, hfile.trans hrest⟩

/-- The workers of a round go through their shares one after the other. -/
theorem exists_steps_round (hs : P s) (hoff : c.failFast = false) {round : List (Share Path)}
    (hw : k.workers = round.map fun share => .free share.numbered) (hk : k.stopped = false) :
    ∃ es, Steps c P k es
      (k.advance [] ((round.flatMap Share.numbered).map (.ofFile c.preferences s))) := by
  induction round generalizing k with
  | nil =>
    refine ⟨[], ?_⟩
    rw [List.flatMap_nil, List.map_nil, advance_nil (hw.trans List.map_nil)]
    exact .refl _
  | cons share round ih =>
    obtain ⟨es, hshare⟩ := exists_steps_share hs hoff hw hk
    obtain ⟨es', hrest⟩ := @ih (k.advance (round.map fun share => .free share.numbered) _) rfl hk
    rw [advance_advance, ← List.map_append, ← List.flatMap_cons] at hrest
    exact ⟨_, hshare.trans hrest⟩

/-- **The crew may work one worker after the other**, round by round, and then adds what becomes of
the files in their order. -/
theorem exists_steps (hs : P s) (hoff : c.failFast = false) {rounds : List (List (Share Path))}
    (hwaiting : k.waiting = rounds) (hw : k.workers = []) (hk : k.stopped = false) :
    ∃ es k', Steps c P k es k' ∧ k'.Finished ∧
      k'.total = ((rounds.flatten.flatMap Share.numbered).map
        (.ofFile c.preferences s)).foldl Batch.add k.total := by
  induction rounds generalizing k with
  | nil => exact ⟨[], k, .refl k, ⟨hw, .inl hwaiting⟩, rfl⟩
  | cons round rounds ih =>
    have hbegin : Step c P k none (k.beginRound round rounds) := .begin hw hk hwaiting
    obtain ⟨es, hround⟩ := exists_steps_round hs hoff (k := k.beginRound round rounds) rfl hk
    obtain ⟨es', k', hrest, hfinished, htotal⟩ :=
      ih (k := (k.beginRound round rounds).advance [] _) rfl rfl hk
    refine ⟨_, k', .more hbegin (hround.trans hrest), hfinished, htotal.trans ?_⟩
    rw [List.flatten_cons, List.flatMap_append, List.map_append, List.foldl_append, total, advance,
      Batch.merge_foldl_add]
    exact congrArg (fun b => List.foldl Batch.add (List.foldl Batch.add b _) _)
      (total_beginRound k round rounds)

end Crew

/-! ### The batch that is made -/

/-- **A batch by workers is the batch in turn**, whatever the number of workers and however they get
in between each other.  Let neither the files found nor what becomes of one depend on what was told
before, let the files found be different ones, and let the batch not stop at the first fault.  Then
there is a batch in turn.  No run of a crew goes on for ever or is held up before its end, and at
its end every file has been analysed once, under its place in the list of files, and the batch tells
the same as the one in turn, in the same order, but for how long it took.  The batch that
`runByWorkers` makes is that of one of these runs.  No round and no share is cut to nothing. -/
theorem crew_agrees {dir : Path} {c : BatchChoices} {P : Session → Prop} {s : Session}
    {files : List Path} (h : c.Independent dir P) (hs : P s)
    (hfiles : ((c.discover dir).run s).1 = .ok files)
    (hdistinct : (files.map Path.parts).Nodup) (hoff : c.failFast = false) :
    ∃ b, ((c.runInTurn dir).run s).1 = .ok b ∧
      (∀ es k, Crew.Steps c P (.start c files) es k →
        es.length ≤ (Crew.start c files).work ∧
        (¬ k.Finished → ∃ e k', Crew.Step c P k e k') ∧
        (k.Finished → (Crew.taken es).Perm files.zipIdx ∧ (k.batch files.length).Agrees b)) ∧
      (∃ es k, Crew.Steps c P (.start c files) es k ∧ k.Finished ∧
        ∀ t, P t → ((c.runByWorkers dir).run t).1 = .ok (k.batch files.length)) ∧
      0 < Share.roundSize files.length c.threads ∧
      ∀ round ∈ (Share.mk 0 files).cut (Share.roundSize files.length c.threads),
        0 < piecesOf round.items.length c.threads := by
  have hthreads : 0 < c.threads := Nat.le_max_left 1 _
  have hsorted := (c.ensures_discover dir s trivial).1 files hfiles
  refine ⟨_, (BatchChoices.ensures_runInTurn h hs hoff hfiles s hs).1, fun es k hk => ?_, ?_,
    Nat.le_max_left 1 _, fun round hround => ?_⟩
  · refine ⟨Nat.le_of_add_right_le hk.length_le, Crew.exists_step hs, fun hfinished => ?_⟩
    have hsteady := hk.steady hoff Crew.steady_start
    have htaken : (Crew.taken es).Perm files.zipIdx := by
      have hperm := hk.left_perm hoff Crew.steady_start
      rw [Crew.left_start, hfinished.left_eq hsteady, List.append_nil] at hperm
      exact hperm.symm
    obtain ⟨os, hos, hperm⟩ := hk.has h.file hs Crew.has_start
    rw [List.map_nil, List.nil_append] at hperm
    have hpaths : (files.zipIdx.map (.ofFile c.preferences s)).map FileOutcome.path = files := by
      rw [List.map_map]
      exact List.zipIdx_map_fst 0 files
    have hholds := (hfinished.holds hos).ofFiles files.length
    refine ⟨htaken, hholds.agrees ((Batch.holds_start _).foldl_add _) ?_ ?_ ?_
      (Batch.discovered_foldl_add _ _).symm⟩
    · rw [List.nil_append, List.map_map]
      exact hperm.trans (htaken.map _)
    · rwa [List.nil_append, hpaths]
    · rwa [List.nil_append, hpaths]
  · obtain ⟨es, k, hk, hfinished, htotal⟩ :=
      Crew.exists_steps (k := .start c files) hs hoff rfl rfl rfl
    refine ⟨es, k, hk, hfinished, fun t ht => ?_⟩
    rw [(BatchChoices.ensures_runByWorkers h hs hoff hfiles t ht).1, Crew.batch, htotal,
      Crew.start, Share.numbered_rounds hthreads, Batch.foldl_add_start]
    rfl
  · exact Share.piecesOf_pos hthreads
      (List.length_pos_iff.2 (Share.items_ne_nil_of_mem_cut hround))

/-- Three files and two workers: the second may be through with its file before the first. -/
theorem crew_agrees_three :
    let files : FileTree :=
      ⟨.dir [("a.java", .file .empty), ("b.java", .file .empty), ("c.java", .file .empty)], []⟩
    let c := BatchChoices.standard 2 .standard
    let s := Session.inMemory c.preferences.log files
    let found := ["/a.java", "/b.java", "/c.java"]
    ((c.discover "/").run s).1 = .ok found ∧
    ∃ b b', ((c.runInTurn "/").run s).1 = .ok b ∧ ((c.runByWorkers "/").run s).1 = .ok b' ∧
      b'.Agrees b ∧
      ∃ es k, Crew.Steps c (Session.Over files) (.start c found) es k ∧ k.Finished ∧
        Crew.taken es = [("/b.java", 1), ("/a.java", 0), ("/c.java", 2)] ∧
        (k.batch 3).Agrees b := by
  intro files c s found
  have hs : Session.Over files s := ⟨rfl, by simp [s, Session.inMemory]⟩
  have hdiscover : ((c.discover "/").run s).1 = .ok found := by
    have hpicked : c.picked "/" [("a.java", .file .empty), ("b.java", .file .empty),
        ("c.java", .file .empty)] = found := by
      rw [BatchChoices.picked, FileNode.byName, List.mergeSort_of_pairwise (by decide +kernel)]
      decide +kernel
    have hfound := (BatchChoices.ensures_discover_picked (c := c) rfl (by rw [hpicked]; decide)
      (by rw [hpicked]; decide) s hs).1
    rw [hpicked, List.mergeSort_of_pairwise (by decide +kernel)] at hfound
    exact hfound
  have hrounds : Share.rounds 2 found =
      [[⟨0, ["/a.java"]⟩, ⟨1, ["/b.java"]⟩], [⟨2, ["/c.java"]⟩]] := by cbv
  have h := BatchChoices.independent_over files c "/"
  obtain ⟨b, hb, hcrews, ⟨es, k, hk, hfinished, hworkers⟩, -⟩ :=
    crew_agrees h hs hdiscover (by decide +kernel) rfl
  refine ⟨hdiscover, b, _, hb, hworkers s hs, ((hcrews es k hk).2.2 hfinished).2, ?_⟩
  have hsteps : Crew.Steps c (Session.Over files) (.start c found) _ _ :=
    .more (.begin rfl rfl hrounds) <|
      (Crew.steps_file rfl (show _ = [.free [("/a.java", 0)]] ++ _ from rfl) rfl
        ⟨s, hs, rfl⟩).trans <|
      (Crew.steps_file rfl (show _ = [] ++ _ from rfl) rfl ⟨s, hs, rfl⟩).trans <|
      .more (.leave (show _ = [] ++ _ from rfl) (.inl rfl)) <|
      .more (.leave (show _ = [] ++ _ from rfl) (.inl rfl)) <|
      .more (.begin rfl rfl rfl) <|
      (Crew.steps_file rfl (show _ = [] ++ _ from rfl) rfl ⟨s, hs, rfl⟩).trans <|
      .more (.leave (show _ = [] ++ _ from rfl) (.inl rfl)) (.refl _)
  exact ⟨_, _, hsteps, ⟨rfl, .inl rfl⟩, rfl, ((hcrews _ _ hsteps).2.2 ⟨rfl, .inl rfl⟩).2⟩

end Lookahead
