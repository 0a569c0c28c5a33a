/-!
# Timestamps

A moment in universal time, to the nanosecond, and its written form: date, time of day with as many
places as it needs, in threes, and the offset zero.  Years beyond four digits carry a sign.
-/

namespace Lookahead

/-- Seconds since the beginning of 1970 and nanoseconds on top. -/
structure Timestamp where
  seconds : Int
  nanos : Nat
deriving DecidableEq, Repr

namespace Timestamp

/-- The beginning of 1970. -/
def epoch : Timestamp := ⟨0, 0⟩

/-- A day of the calendar. -/
structure Date where
  year : Int
  month : Nat
  day : Nat
deriving DecidableEq, Repr

/-- The day that lies `days` after the first of 1970.  Years are taken to begin in March, so that a
leap day ends its year; 400 of them have 146097 days. -/
def dateOf (days : Int) : Date :=
  let shifted := days + 719468
  let era := shifted.fdiv 146097
  let dayOfEra := (shifted.fmod 146097).toNat
  let yearOfEra := (dayOfEra - dayOfEra / 1460 + dayOfEra / 36524 - dayOfEra / 146096) / 365
  let dayOfYear := dayOfEra - (365 * yearOfEra + yearOfEra / 4 - yearOfEra / 100)
  let monthFromMarch := (5 * dayOfYear + 2) / 153
  let month := if monthFromMarch < 10 then monthFromMarch + 3 else monthFromMarch - 9
  { year := yearOfEra + era * 400 + (if month ≤ 2 then 1 else 0)
    month
    day := dayOfYear - (153 * monthFromMarch + 2) / 5 + 1 }

/-- A number with zeros before it, up to a width. -/
def zeroPadded (width n : Nat) : String :=
  let digits := toString n
  String.ofList (List.replicate (width - digits.length) '0') ++ digits

/-- A year: four digits at least, and a sign if four do not do. -/
def yearText (y : Int) : String :=
  if 0 ≤ y ∧ y ≤ 9999 then zeroPadded 4 y.toNat
  else (if y < 0 then "-" else "+") ++ zeroPadded 4 y.natAbs

/-- The places behind the seconds: none, three, six or nine. -/
def fractionText (nanos : Nat) : String :=
  if nanos = 0 then ""
  else if nanos % 1000000 = 0 then "." ++ zeroPadded 3 (nanos / 1000000)
  else if nanos % 1000 = 0 then "." ++ zeroPadded 6 (nanos / 1000)
  else "." ++ zeroPadded 9 nanos

/-- A moment as it is written.  More than a second of nanoseconds is a leap second. -/
def text (t : Timestamp) : String :=
  let date := dateOf (t.seconds.fdiv 86400)
  let second := (t.seconds.fmod 86400).toNat
  let leap := t.nanos / 1000000000
  let day := s!"{yearText date.year}-{zeroPadded 2 date.month}-{zeroPadded 2 date.day}"
  let minute := s!"{zeroPadded 2 (second / 3600)}:{zeroPadded 2 (second / 60 % 60)}"
  s!"{day}T{minute}:{zeroPadded 2 (second % 60 + leap)}{fractionText (t.nanos % 1000000000)}+00:00"

end Timestamp

end Lookahead
