import Lookahead.Text.Numeric

/-!
# Decimal numbers

Reading a whole number: digits, with a plus sign before them if one likes, and no more than a given
greatest value.  Writing a quotient with a fixed number of places: to the nearest, and of two
equally near to the one with an even last digit.

* `digitsUpTo_eq`: counting no further than a limit gives the number or the limit.
-/

namespace Lookahead.Text

/-- The value of a digit. -/
def digitValue (c : Char) : Nat := c.toNat - '0'.toNat

/-- The number a list of digits stands for. -/
def digitsValue (cs : List Char) : Nat := cs.foldl (fun n c => 10 * n + digitValue c) 0

/-- The number a list of digits stands for, or `limit` if that is less. -/
def digitsUpTo (limit : Nat) (cs : List Char) : Nat :=
  cs.foldl (fun n c => min limit (10 * n + digitValue c)) 0

theorem foldl_digitsUpTo (limit : Nat) (cs : List Char) (n : Nat) :
    cs.foldl (fun n c => min limit (10 * n + digitValue c)) (min limit n) =
      min limit (cs.foldl (fun n c => 10 * n + digitValue c) n) := by
  induction cs generalizing n with
  | nil => rfl
  | cons c cs ih =>
    rw [List.foldl_cons, List.foldl_cons, ← ih]
    congr 1
    omega

theorem digitsUpTo_eq (limit : Nat) (cs : List Char) :
    digitsUpTo limit cs = min limit (digitsValue cs) := by
  simpa [digitsUpTo, digitsValue] using foldl_digitsUpTo limit cs 0

/-- A text without the plus sign it may begin with. -/
def dropPlus : List Char → List Char
  | '+' :: rest => rest
  | cs => cs

/-- Read a number no greater than `greatest`. -/
def readNat? (greatest : Nat) (cs : List Char) : Option Nat :=
  let digits := dropPlus cs
  let n := digitsUpTo (greatest + 1) digits
  if !digits.isEmpty && digits.all isDigit && n ≤ greatest then some n else none

/-- The greatest number of 32 bits. -/
def greatest32 : Nat := Nat.pow 2 32 - 1

/-- The greatest number of 64 bits. -/
def greatest64 : Nat := Nat.pow 2 64 - 1

/-- The whole number nearest to `a / b`; of two, the even one. -/
def roundedQuotient (a b : Nat) : Nat :=
  let q := a / b
  let r := a % b
  if 2 * r < b then q
  else if b < 2 * r then q + 1
  else if q % 2 = 0 then q else q + 1

/-- `a / b` with `places` digits behind the point. -/
def fixedQuotient (places a b : Nat) : String :=
  let unit := Nat.pow 10 places
  let scaled := roundedQuotient (a * unit) b
  let fraction := toString (scaled % unit)
  if places = 0 then toString scaled
  else
    let zeros := String.ofList (List.replicate (places - fraction.length) '0')
    s!"{scaled / unit}.{zeros}{fraction}"

end Lookahead.Text
