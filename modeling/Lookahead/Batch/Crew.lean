import Lookahead.Batch.Run

/-!
# Crews

The workers of a batch at work at once.  The files of a batch are worked on in rounds; a worker goes
through its share of a round file by file, looks before each whether it is to stop, and adds what
became of the file to the results of the round, which it shares with the others.  A round is over
when all its workers have left, and its results go to those of the rounds before.

A step of a crew is one worker's (`Crew.Step`), any worker's at any time, so the runs of a crew
(`Crew.Steps`) are all the ways in which the workers may get in between each other.  Files are
analysed in sessions of which a property `P` is all that is known, and may take any time.
-/

namespace Lookahead

/-- The analysis without the time it took. -/
def Analysis.untimed (a : Analysis) : Analysis := { a with duration := 0 }

namespace FileOutcome

/-- The outcome without the time it took. -/
def untimed (o : FileOutcome) : FileOutcome := ⟨o.path, o.result.map Analysis.untimed⟩

/-- What becomes of a file with its number in a session. -/
def ofFile (preferences : Preferences) (s : Session) (item : Path × Nat) : FileOutcome :=
  ⟨item.1, (Analysis.ofFile preferences item.1 item.2 s).1⟩

/-- What may become of a file with its number in a session with the property `P`, however long it
takes. -/
def IsOf (preferences : Preferences) (P : Session → Prop) (item : Path × Nat) (o : FileOutcome) :
    Prop := ∃ s, P s ∧ o.untimed = (ofFile preferences s item).untimed

end FileOutcome

/-- A worker, with the files that are left of its share. -/
inductive Worker where
  /-- About to take a file, or to leave. -/
  | free (left : List (Path × Nat))
  /-- About to add what became of a file to the results. -/
  | holding (o : FileOutcome) (left : List (Path × Nat))
  /-- About to tell all workers to stop. -/
  | stopping (left : List (Path × Nat))

/-- The state of a batch that is worked on. -/
structure Crew where
  /-- The rounds that have not begun. -/
  waiting : List (List (Share Path))
  workers : List Worker
  /-- The workers are to stop. -/
  stopped : Bool
  /-- The results of the round. -/
  results : Batch
  /-- The results of the rounds before. -/
  done : Batch

namespace Crew

/-- The crew for a list of files, before its first round. -/
def start (c : BatchChoices) (files : List Path) : Crew where
  waiting := Share.rounds c.threads files
  workers := []
  stopped := false
  results := .empty
  done := .empty

/-- The crew at the beginning of a round. -/
def beginRound (k : Crew) (round : List (Share Path)) (rest : List (List (Share Path))) : Crew where
  waiting := rest
  workers := round.map fun share => .free share.numbered
  stopped := k.stopped
  results := .empty
  done := k.done.merge k.results

variable (c : BatchChoices) (P : Session → Prop)

/-- A step of a crew, and the file that is analysed at it, if there is one. -/
inductive Step : Crew → Option (Path × Nat) → Crew → Prop
  | take {k : Crew} {front back : List Worker} {item : Path × Nat} {left : List (Path × Nat)}
    {o : FileOutcome} (hw : k.workers = front ++ .free (item :: left) :: back)
    (hs : k.stopped = false) (ho : o.IsOf c.preferences P item) :
    Step k (some item) { k with workers := front ++ .holding o left :: back }
  | add {k : Crew} {front back : List Worker} {o : FileOutcome} {left : List (Path × Nat)}
    (hw : k.workers = front ++ .holding o left :: back) :
    Step k none { k with
      workers := front ++
        (if c.failFast && !(k.results.record o).2 then .stopping left else .free left) :: back
      results := k.results.add o }
  | stop {k : Crew} {front back : List Worker} {left : List (Path × Nat)}
    (hw : k.workers = front ++ .stopping left :: back) :
    Step k none { k with workers := front ++ .free left :: back, stopped := true }
  | leave {k : Crew} {front back : List Worker} {left : List (Path × Nat)}
    (hw : k.workers = front ++ .free left :: back) (hl : left = [] ∨ k.stopped = true) :
    Step k none { k with workers := front ++ back }
  | begin {k : Crew} {round : List (Share Path)} {rest : List (List (Share Path))}
    (hw : k.workers = []) (hs : k.stopped = false) (hr : k.waiting = round :: rest) :
    Step k none (k.beginRound round rest)

/-- Steps of a crew in a row, and what is analysed at each. -/
inductive Steps : Crew → List (Option (Path × Nat)) → Crew → Prop
  | refl (k : Crew) : Steps k [] k
  | more {k k₁ k' : Crew} {e : Option (Path × Nat)} {es : List (Option (Path × Nat))}
    (h : Step c P k e k₁) (t : Steps k₁ es k') : Steps k (e :: es) k'

/-- All workers have left, and no other round is to begin. -/
def Finished (k : Crew) : Prop := k.workers = [] ∧ (k.waiting = [] ∨ k.stopped = true)

/-- The results of all rounds so far. -/
def total (k : Crew) : Batch := k.done.merge k.results

/-- The batch that a crew makes of a number of files. -/
def batch (discovered : Nat) (k : Crew) : Batch := .sorted { k.total with discovered }

end Crew

end Lookahead
