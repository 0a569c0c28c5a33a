import Lookahead.Text.Decimal

/-!
# Binary fractions

Numbers with a binary exponent and a bounded number of significant bits.  A `Float` is read as the
quotient of whole numbers that it is, so that it can be written with a fixed number of places.
-/

namespace Lookahead.Text

/-- The significant bits of a `Float`. -/
def significantBits : Nat := 53

/-- The number nearest to `n` with as many significant bits as a `Float` has. -/
def nearestSignificant (n : Nat) : Nat :=
  let excess := n.log2 + 1 - significantBits
  roundedQuotient n (Nat.pow 2 excess) * Nat.pow 2 excess

/-- Numerator and denominator of a finite `Float`, its sign aside. -/
def floatQuotient (f : Float) : Nat × Nat :=
  let bits := f.toBits.toNat
  let exponent := bits / Nat.pow 2 52 % Nat.pow 2 11
  let fraction := bits % Nat.pow 2 52
  if exponent = 0 then (fraction, Nat.pow 2 1074)
  else
    let significand := fraction + Nat.pow 2 52
    if exponent ≤ 1075 then (significand, Nat.pow 2 (1075 - exponent))
    else (significand * Nat.pow 2 (exponent - 1075), 1)

/-- A finite `Float` with `places` digits behind the point. -/
def fixedFloat (places : Nat) (f : Float) : String :=
  let (a, b) := floatQuotient f
  (if f.toBits.toNat / Nat.pow 2 63 = 1 then "-" else "") ++ fixedQuotient places a b

/-- The least number that is too great for a `Float`, half a unit above the greatest: it and all
greater ones are rounded to infinity. -/
def overflowBound : Nat := (Nat.pow 2 54 - 1) * Nat.pow 2 970

/-- The number of digits of `overflowBound`. -/
def overflowDigits : Nat := 309

/-- A number is too great for a `Float`.  It has the digits `ds`, the first of them not zero, and
the point stands behind `whole` of them.  As the bound is whole, no digit behind the point
matters. -/
def isOverflow (ds : List Char) (whole : Int) : Bool :=
  !ds.isEmpty &&
    (overflowDigits < whole || whole == overflowDigits &&
      overflowBound ≤ digitsValue ((ds ++ List.replicate overflowDigits '0').take overflowDigits))

/-- The bits of a `Float` in hexadecimal. -/
def bitsText (f : Float) : String :=
  let digits := Nat.toDigits 16 f.toBits.toNat
  String.ofList (List.replicate (16 - digits.length) '0' ++ digits)

/-! ### Spans of time -/

/-- Seconds of a span given in nanoseconds: the whole seconds, and the rest as a fraction. -/
def secondsOf (nanos : Nat) : Float :=
  (nanos / 1000000000).toUInt64.toFloat + (nanos % 1000000000).toUInt64.toFloat / 1000000000.0

/-- Milliseconds of a span given in nanoseconds. -/
def millisecondsOf (nanos : Nat) : Float := secondsOf nanos * 1000.0

end Lookahead.Text
