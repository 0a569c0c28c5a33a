import Lookahead.Grammar.Terminal
import Lookahead.Scan.Token
import Lookahead.Scan.LexicalError
import Lookahead.Text.Blank
import Lookahead.Text.Numeric

/-!
# Pieces

A source is cut into pieces from left to right: blanks, comments, tokens and faults.  What the next
piece is depends on the text ahead alone; `lead` gives its sort and how many characters it has
beyond its first, and the rest is cut the same way.

* `cut_cons`: the first piece, then the pieces of what is left.
* `text_cut`: the pieces in a row are the source.
-/

namespace Lookahead

/-- What a piece of source is. -/
inductive PieceKind where
  | blank
  | lineComment
  | blockComment
  | token (category : Terminal) (kind : TokenKind)
  | fault (kind : LexicalErrorKind)
deriving DecidableEq, Repr

/-- A piece of source. -/
structure Piece where
  kind : PieceKind
  chars : List Char
deriving DecidableEq, Repr

/-- A character a word can begin with. -/
def isWordStart (c : Char) : Bool := Text.isAlphabetic c || c == '_'

/-- A character a word can continue with. -/
def isWordPart (c : Char) : Bool := Text.isAlphanumeric c || c == '_'

namespace Piece

/-- The number of characters up to the end of the first `*/`, when `n` lie before. -/
def closeFrom (n : Nat) : List Char → Option Nat
  | [] => none
  | '*' :: '/' :: _ => some (n + 2)
  | _ :: cs => closeFrom (n + 1) cs

/-- The length of a run at the front of a text. -/
def runLength (p : Char → Bool) (cs : List Char) : Nat := (cs.takeWhile p).length

/-- A string literal ends at the next quote of its line.  Without one it is a fault, which reaches
to the carriage returns that end the line. -/
def leadString (cs : List Char) : PieceKind × Nat :=
  let inside := cs.takeWhile fun c => c != '"' && c != '\n'
  if (cs.drop inside.length).head? = some '"' then
    (.token .literal .stringLiteral, inside.length + 1)
  else (.fault .unterminatedString, (inside.reverse.dropWhile (· == '\r')).length)

/-- A word is reserved, or an identifier. -/
def leadWord (c : Char) (cs : List Char) : PieceKind × Nat :=
  let word := cs.takeWhile isWordPart
  match Keyword.ofText? (String.ofList (c :: word)) with
  | some k => (.token k .keyword, word.length)
  | none => (.token .identifier .identifier, word.length)

/-- A number is digits, and a point with digits behind it if there are any. -/
def leadNumber (cs : List Char) : PieceKind × Nat :=
  let digits := runLength Text.isDigit cs
  let decimals := match cs.drop digits with
    | '.' :: rest => runLength Text.isDigit rest
    | _ => 0
  if decimals = 0 then (.token .number .intLiteral, digits)
  else (.token .number .floatLiteral, digits + 1 + decimals)

/-- An operator, a delimiter or a number, whichever the text begins with; else a fault that reaches
up to the next blank. -/
def leadSign (c : Char) (cs : List Char) : PieceKind × Nat :=
  match Operator.leading? (c :: cs) with
  | some o => (.token o .operator, o.chars.length - 1)
  | none =>
    match Delimiter.ofChar? c with
    | some d => (.token d .delimiter, 0)
    | none =>
      if Text.isDigit c then leadNumber cs
      else (.fault .invalidLexeme, runLength (!Text.isBlank ·) cs)

/-- The sort of the piece that begins with `c`, and how many characters of `cs` belong to it. -/
def lead (c : Char) (cs : List Char) : PieceKind × Nat :=
  if Text.isBlank c then (.blank, 0)
  else if c = '/' ∧ cs.head? = some '/' then (.lineComment, runLength (· != '\n') cs)
  else if c = '/' ∧ cs.head? = some '*' then
    match closeFrom 1 cs.tail with
    | some n => (.blockComment, n)
    | none => (.fault .unterminatedComment, cs.length)
  else if c = '"' then leadString cs
  else if isWordStart c then leadWord c cs
  else leadSign c cs

/-- The first piece of a text that begins with `c`. -/
def first (c : Char) (cs : List Char) : Piece := ⟨(lead c cs).1, c :: cs.take (lead c cs).2⟩

/-- What is left behind the first piece. -/
def rest (c : Char) (cs : List Char) : List Char := cs.drop (lead c cs).2

theorem first_append_rest (c : Char) (cs : List Char) :
    (first c cs).chars ++ rest c cs = c :: cs := by
  simp [first, rest]

/-- The pieces of a text, behind those of `done`, which are latest first. -/
def cutFrom (done : List Piece) : List Char → List Piece
  | [] => done.reverse
  | c :: cs => cutFrom (first c cs :: done) (rest c cs)
termination_by cs => cs.length
decreasing_by simp only [rest, List.length_drop, List.length_cons]; omega

/-- The pieces of a text. -/
def cut (cs : List Char) : List Piece := cutFrom [] cs

theorem cutFrom_eq (done : List Piece) (cs : List Char) :
    cutFrom done cs = done.reverse ++ cut cs := by
  induction h : cs.length using Nat.strongRecOn generalizing done cs with
  | _ n ih =>
    cases cs with
    | nil => simp [cut, cutFrom]
    | cons c cs =>
      have hlt : (rest c cs).length < n := by
        simp only [rest, List.length_drop, ← h, List.length_cons]; omega
      rw [cut, cutFrom, cutFrom, ih _ hlt (first c cs :: done) _ rfl, ih _ hlt [first c cs] _ rfl]
      simp

@[simp] theorem cut_nil : cut [] = [] := by simp [cut, cutFrom]

theorem cut_cons (c : Char) (cs : List Char) : cut (c :: cs) = first c cs :: cut (rest c cs) := by
  rw [cut, cutFrom, cutFrom_eq]; rfl

/-- A property of texts and their pieces holds when it holds of the empty text, and of every text
whose rest it holds of. -/
theorem cut_induction {P : List Char → List Piece → Prop} (nil : P [] [])
    (cons : ∀ c cs, P (rest c cs) (cut (rest c cs)) →
      P (c :: cs) (first c cs :: cut (rest c cs))) :
    ∀ cs, P cs (cut cs) := fun cs => by
  induction h : cs.length using Nat.strongRecOn generalizing cs with
  | _ n ih =>
    cases cs with
    | nil => simpa using nil
    | cons c cs =>
      rw [cut_cons]
      refine cons c cs (ih _ ?_ _ rfl)
      simp only [rest, List.length_drop, ← h, List.length_cons]; omega

theorem text_cut (cs : List Char) : (cut cs).flatMap Piece.chars = cs :=
  cut_induction (P := fun cs ps => ps.flatMap Piece.chars = cs) rfl
    (fun c cs ih => by rw [List.flatMap_cons, ih, first_append_rest]) cs

end Piece

end Lookahead
