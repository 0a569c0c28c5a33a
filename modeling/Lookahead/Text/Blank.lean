import Lookahead.Text.CharRange

/-!
# Blanks

The characters with the Unicode property White_Space: they separate tokens, and the fields of a
line are cut and trimmed at them.
-/

namespace Lookahead.Text

/-- Code points with the property White_Space. -/
def blankRanges : CharRanges :=
  [(0x9, 0xD), (0x20, 0x20), (0x85, 0x85), (0xA0, 0xA0), (0x1680, 0x1680), (0x2000, 0x200A),
   (0x2028, 0x2029), (0x202F, 0x202F), (0x205F, 0x205F), (0x3000, 0x3000)]

/-- A blank: a space, tab, line end or other separator. -/
def isBlank (c : Char) : Bool := blankRanges.has c.toNat

theorem isBlank_newline : isBlank '\n' := rfl

/-- `cs` without the blanks at its two ends. -/
def trimBlanks (cs : List Char) : List Char :=
  ((cs.dropWhile isBlank).reverse.dropWhile isBlank).reverse

/-- The fields of `cs`: its maximal runs without a blank. -/
def fieldsFrom (field : List Char) (done : List (List Char)) : List Char → List (List Char)
  | [] => (if field.isEmpty then done else field.reverse :: done).reverse
  | c :: cs =>
    if isBlank c then fieldsFrom [] (if field.isEmpty then done else field.reverse :: done) cs
    else fieldsFrom (c :: field) done cs

@[inherit_doc fieldsFrom]
def fields (cs : List Char) : List (List Char) := fieldsFrom [] [] cs

end Lookahead.Text
