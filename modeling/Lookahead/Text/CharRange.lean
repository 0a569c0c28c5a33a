/-!
# Character ranges

A class of characters is given by closed ranges of code points, smallest first.  A look-up walks the
ranges and stops at the first one that begins beyond the character, so a class that begins with
`A`–`Z` answers for the common characters in a few comparisons.
-/

namespace Lookahead

/-- Closed ranges of code points. -/
abbrev CharRanges := List (Nat × Nat)

namespace CharRanges

/-- Membership of a code point, for ranges in increasing order. -/
def has : CharRanges → Nat → Bool
  | [], _ => false
  | (lo, hi) :: rest, n => if n < lo then false else n ≤ hi || has rest n

end CharRanges

end Lookahead
