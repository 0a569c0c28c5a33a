/-!
# Positions and spans

A position is a byte offset with the line and the column it falls on; reading a character moves it
(`Position.step`).  A span runs from one position up to, and without, another, and cuts a piece out
of a text (`Span.slice?`).

* `Position.after_append`: reading a text in two parts is reading it at once.
* `Position.offset_after`: the offset grows by the bytes of what is read.
-/

namespace Lookahead

/-- The bytes a text takes. -/
def byteCount (cs : List Char) : Nat := cs.foldr (fun c n => c.utf8Size + n) 0

/-- A place in a text: bytes before it, and its line and column, counted from one in characters. -/
structure Position where
  offset : Nat
  line : Nat
  column : Nat
deriving DecidableEq, Repr, Inhabited

namespace Position

/-- The beginning of a text. -/
def start : Position := ⟨0, 1, 1⟩

/-- The position behind a character: a newline opens a line, any other character takes a column. -/
def step (p : Position) (c : Char) : Position :=
  if c = '\n' then ⟨p.offset + c.utf8Size, p.line + 1, 1⟩
  else ⟨p.offset + c.utf8Size, p.line, p.column + 1⟩

/-- The position behind a text. -/
def after (p : Position) (cs : List Char) : Position := cs.foldl step p

@[simp] theorem after_nil (p : Position) : p.after [] = p := rfl

@[simp] theorem after_cons (p : Position) (c : Char) (cs : List Char) :
    p.after (c :: cs) = (p.step c).after cs := rfl

theorem after_append (p : Position) (as bs : List Char) :
    p.after (as ++ bs) = (p.after as).after bs := List.foldl_append

theorem offset_step (p : Position) (c : Char) : (p.step c).offset = p.offset + c.utf8Size := by
  unfold step; split <;> rfl

theorem offset_after (p : Position) (cs : List Char) :
    (p.after cs).offset = p.offset + byteCount cs := by
  induction cs generalizing p with
  | nil => rfl
  | cons c cs ih => simp [ih, offset_step, byteCount, Nat.add_assoc]

/-- Line and column, as a reader counts them. -/
def text (p : Position) : String := s!"{p.line}:{p.column}"

/-- The order of two positions: by offset, then line, then column. -/
def order (p q : Position) : Ordering :=
  (compare p.offset q.offset).then ((compare p.line q.line).then (compare p.column q.column))

end Position

/-- A stretch of text, from a position up to another. -/
structure Span where
  start : Position
  stop : Position
deriving DecidableEq, Repr, Inhabited

namespace Span

/-- The span of one character of one byte. -/
def single (p : Position) : Span := ⟨p, ⟨p.offset + 1, p.line, p.column + 1⟩⟩

/-- The least span over two: of equal starts the second's counts, and so of equal ends. -/
def merge (a b : Span) : Span where
  start := if a.start.offset < b.start.offset then a.start else b.start
  stop := if a.stop.offset > b.stop.offset then a.stop else b.stop

/-- The bytes a span covers. -/
def size (s : Span) : Nat := s.stop.offset - s.start.offset

/-- A span that covers nothing. -/
def isEmpty (s : Span) : Bool := s.start.offset == s.stop.offset

/-- A span on one line names the line once. -/
def text (s : Span) : String :=
  if s.start.line = s.stop.line then s!"{s.start.text}-{s.stop.column}"
  else s!"{s.start.text}-{s.stop.text}"

/-- No character of the text is cut by the byte offset `i`. -/
def isBoundary (bytes : ByteArray) (i : Nat) : Bool :=
  if h : i < bytes.size then bytes[i] &&& 0xC0 != 0x80 else i == bytes.size

/-- The part of a text under a span, if it lies in the text and cuts no character. -/
def slice? (s : Span) (text : String) : Option String :=
  let bytes := text.toUTF8
  if s.start.offset ≤ s.stop.offset && isBoundary bytes s.start.offset
      && isBoundary bytes s.stop.offset then
    String.fromUTF8? (bytes.extract s.start.offset s.stop.offset)
  else none

end Span

end Lookahead
