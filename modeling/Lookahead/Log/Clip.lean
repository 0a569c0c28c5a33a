/-!
# Clipped messages

A message that is too long for a log loses its end: it is cut to as many whole characters as fit.
-/

namespace Lookahead

/-- The most bytes of a message. -/
def messageLimit : Nat := 4096

/-- As many characters as take `room` bytes at most. -/
def clipChars (room : Nat) : List Char → List Char
  | [] => []
  | c :: cs => if c.utf8Size ≤ room then c :: clipChars (room - c.utf8Size) cs else []

/-- A message cut to what a log takes. -/
def clipMessage (s : String) : String :=
  if s.utf8ByteSize ≤ messageLimit then s else String.ofList (clipChars messageLimit s.toList)

end Lookahead
