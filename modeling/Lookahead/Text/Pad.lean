/-!
# Padding

Texts brought to a width with blanks.  A text wider than that stays as it is.
-/

namespace Lookahead.Text

/-- `n` blanks. -/
def blanks (n : Nat) : String := String.ofList (List.replicate n ' ')

/-- Blanks behind the text, up to a width in characters. -/
def padRight (width : Nat) (s : String) : String := s ++ blanks (width - s.length)

/-- Blanks before the text, up to a width in characters. -/
def padLeft (width : Nat) (s : String) : String := blanks (width - s.length) ++ s

end Lookahead.Text
