import Lookahead.Text.Binary
import Lookahead.Toml.Value

/-!
# TOML scalars

Strings in their four forms, numbers, dates and truth values, and keys.  A reader takes what it
knows off the front of a text and gives back the rest, or fails.
-/

namespace Lookahead.Toml

/-- Blanks within a line. -/
def isSpace (c : Char) : Bool := c == ' ' || c == '\t'

/-- A character that may stand in a comment or a string on one line. -/
def isPlain (c : Char) : Bool := c == '\t' || (0x20 ≤ c.toNat && c.toNat != 0x7F)

/-- A character of a key without quotes. -/
def isBareKey (c : Char) : Bool := c.isAlphanum || c == '_' || c == '-'

/-- The rest behind a line end. -/
def newline? : List Char → Option (List Char)
  | '\n' :: rest => some rest
  | '\r' :: '\n' :: rest => some rest
  | _ => none

/-- The rest behind blanks within a line. -/
def skipSpaces (cs : List Char) : List Char := cs.dropWhile isSpace

/-- The value of a hexadecimal digit. -/
def hexValue? (c : Char) : Option Nat :=
  if Text.isDigit c then some (c.toNat - '0'.toNat)
  else if 'a' ≤ c && c ≤ 'f' then some (c.toNat - 'a'.toNat + 10)
  else if 'A' ≤ c && c ≤ 'F' then some (c.toNat - 'A'.toNat + 10)
  else none

/-- The character whose code point is written in hexadecimal. -/
def hexChar? (digits : List Char) : Option Char := do
  let n ← digits.foldlM (fun n c => (hexValue? c).map (16 * n + ·)) 0
  if n.isValidChar then some (Char.ofNat n) else none

/-- The character behind a backslash, and the rest. -/
def escape? : List Char → Option (Char × List Char)
  | 'b' :: rest => some ('\x08', rest)
  | 't' :: rest => some ('\t', rest)
  | 'n' :: rest => some ('\n', rest)
  | 'f' :: rest => some ('\x0c', rest)
  | 'r' :: rest => some ('\r', rest)
  | '"' :: rest => some ('"', rest)
  | '\\' :: rest => some ('\\', rest)
  | 'u' :: rest => if rest.length < 4 then none else (hexChar? (rest.take 4)).map (·, rest.drop 4)
  | 'U' :: rest => if rest.length < 8 then none else (hexChar? (rest.take 8)).map (·, rest.drop 8)
  | _ => none

/-- Read a string in double quotes from behind its first quote; `done` is read, latest first. -/
def readBasic (done : List Char) : Nat → List Char → Option (String × List Char)
  | 0, _ => none
  | _, [] => none
  | n + 1, c :: cs =>
    if c = '"' then some (String.ofList done.reverse, cs)
    else if c = '\\' then
      match escape? cs with
      | some (d, rest) => readBasic (d :: done) n rest
      | none => none
    else if isPlain c then readBasic (c :: done) n cs
    else none

/-- Read a string in single quotes from behind its first quote. -/
def readLiteral (cs : List Char) : Option (String × List Char) :=
  let inside := cs.takeWhile fun c => c != '\'' && isPlain c
  match cs.drop inside.length with
  | '\'' :: rest => some (String.ofList inside, rest)
  | _ => none

/-- The end of a string over several lines, at three quotes or more: two of them can be its own. -/
def closeLong (quote : Char) (done cs : List Char) : Option (String × List Char) :=
  let own := min ((cs.takeWhile (· == quote)).length - 3) 2
  some (String.ofList (List.replicate own quote ++ done).reverse, cs.drop (own + 3))

/-- The rest behind blanks and line ends. -/
def skipBlankLines : List Char → List Char
  | '\r' :: '\n' :: rest => skipBlankLines rest
  | c :: rest => if isSpace c || c == '\n' then skipBlankLines rest else c :: rest
  | [] => []

/-- Read a string over several lines from behind its first quotes. -/
def readLong (quote : Char) (done : List Char) : Nat → List Char → Option (String × List Char)
  | 0, _ => none
  | _, [] => none
  | n + 1, c :: cs =>
    if [quote, quote, quote].isPrefixOf (c :: cs) then closeLong quote done (c :: cs)
    else if c = '\\' && quote == '"' then
      match newline? (skipSpaces cs) with
      | some rest => readLong quote done n (skipBlankLines rest)
      | none =>
        match escape? cs with
        | some (d, rest) => readLong quote (d :: done) n rest
        | none => none
    else
      match newline? (c :: cs) with
      | some rest => readLong quote ('\n' :: done) n rest
      | none => if isPlain c then readLong quote (c :: done) n cs else none

/-- Read a string of any form from its first quote on. -/
def readString (cs : List Char) : Option (String × List Char) :=
  match cs with
  | '"' :: '"' :: '"' :: rest => readLong '"' [] cs.length ((newline? rest).getD rest)
  | '\'' :: '\'' :: '\'' :: rest => readLong '\'' [] cs.length ((newline? rest).getD rest)
  | '"' :: rest => readBasic [] cs.length rest
  | '\'' :: rest => readLiteral rest
  | _ => none

/-- Read one part of a key. -/
def readKeyPart (cs : List Char) : Option (String × List Char) :=
  match cs with
  | '"' :: rest => readBasic [] cs.length rest
  | '\'' :: rest => readLiteral rest
  | _ =>
    let name := cs.takeWhile isBareKey
    if name.isEmpty then none else some (String.ofList name, cs.drop name.length)

/-- Read a key of parts with dots between them, and the blanks behind it. -/
def readKey : Nat → List Char → Option (List String × List Char)
  | 0, _ => none
  | n + 1, cs => do
    let (part, rest) ← readKeyPart (skipSpaces cs)
    match skipSpaces rest with
    | '.' :: rest =>
      let (parts, rest) ← readKey n rest
      some (part :: parts, rest)
    | rest => some ([part], rest)

/-! ### Numbers -/

/-- Digits with single underscores between them; what they are without. -/
def ungrouped? (isDigit : Char → Bool) (cs : List Char) : Option (List Char) :=
  let pieces := (String.ofList cs).splitOn "_" |>.map String.toList
  if pieces.all fun piece => !piece.isEmpty && piece.all isDigit then some pieces.flatten else none

/-- Whole digits without a needless zero before them. -/
def wholeDigits? (cs : List Char) : Option (List Char) := do
  let digits ← ungrouped? Text.isDigit cs
  if digits.head? == some '0' && 1 < digits.length then none else some digits

/-- A number with its sign apart. -/
def splitSign : List Char → Bool × List Char
  | '-' :: rest => (true, rest)
  | '+' :: rest => (false, rest)
  | cs => (false, cs)

/-- A number of 64 bits. -/
def int64? (n : Int) : Option Toml :=
  if -9223372036854775808 ≤ n ∧ n < 9223372036854775808 then some (.int n) else none

/-- A number to a base, behind the letters that tell the base. -/
def radix? (base : Nat) (cs : List Char) : Option Toml := do
  let isDigit := fun c => match hexValue? c with
    | some v => v < base
    | none => false
  let digits ← ungrouped? isDigit cs
  int64? (digits.foldl (fun n c => base * n + (hexValue? c).getD 0) 0)

/-- A whole number. -/
def whole? (cs : List Char) : Option Toml :=
  match cs with
  | '0' :: 'x' :: rest => radix? 16 rest
  | '0' :: 'o' :: rest => radix? 8 rest
  | '0' :: 'b' :: rest => radix? 2 rest
  | _ => do
    let (negative, rest) := splitSign cs
    let n : Int := Text.digitsUpTo (Text.greatest64 + 1) (← wholeDigits? rest)
    int64? (if negative then -n else n)

/-- A number with a point, an exponent or both. -/
structure Fraction where
  negative : Bool
  /-- The digits before the point. -/
  whole : List Char
  /-- The digits behind the point. -/
  places : List Char
  /-- The power of ten to multiply with. -/
  exponent : Int

/-- Digits and underscores at the front of a text, and the rest. -/
def digitRun (cs : List Char) : List Char × List Char :=
  let run := cs.takeWhile fun c => Text.isDigit c || c == '_'
  (run, cs.drop run.length)

/-- The size from which on an exponent is read no further. -/
def exponentLimit : Nat := 65536

/-- The number the digits of an exponent stand for; those behind a number that has reached the limit
are passed over. -/
def exponentValue (ds : List Char) : Nat :=
  ds.foldl (fun n c => if n < exponentLimit then 10 * n + Text.digitValue c else n) 0

/-- An exponent with its letter, if there is one. -/
def exponent? : List Char → Option Int
  | [] => some 0
  | c :: cs => do
    let (negative, cs) := splitSign cs
    let n : Int := exponentValue (← ungrouped? Text.isDigit cs)
    if c == 'e' || c == 'E' then some (if negative then -n else n) else none

/-- Read a number with a point, an exponent or both. -/
def fraction? (cs : List Char) : Option Fraction := do
  let (negative, cs) := splitSign cs
  let (run, cs) := digitRun cs
  let whole ← wholeDigits? run
  match cs with
  | [] => none
  | '.' :: cs =>
    let (run, cs) := digitRun cs
    let places ← ungrouped? Text.isDigit run
    some ⟨negative, whole, places, ← exponent? cs⟩
  | cs => some ⟨negative, whole, [], ← exponent? cs⟩

/-- A number above zero that is rounded to infinity.  One below zero may be. -/
def Fraction.isTooGreat (f : Fraction) : Bool :=
  let digits := f.whole ++ f.places
  let significant := digits.dropWhile (· == '0')
  let zeros := digits.length - significant.length
  !f.negative && Text.isOverflow significant (f.whole.length - zeros + f.exponent)

/-- The words for what is no finite number. -/
def isNotFinite (cs : List Char) : Bool :=
  let (_, word) := splitSign cs
  word == "inf".toList || word == "nan".toList

/-! ### Dates -/

/-- The number of some digits. -/
def digits? (count : Nat) (cs : List Char) : Option (Nat × List Char) :=
  let ds := cs.take count
  if ds.length = count && ds.all Text.isDigit then some (Text.digitsValue ds, cs.drop count)
  else none

/-- The days of a month. -/
def daysOf (year month : Nat) : Nat :=
  if month = 2 then (if year % 4 = 0 && (year % 100 != 0 || year % 400 = 0) then 29 else 28)
  else if month = 4 || month = 6 || month = 9 || month = 11 then 30 else 31

/-- The rest behind a date. -/
def date? (cs : List Char) : Option (List Char) := do
  let (year, rest) ← digits? 4 cs
  let '-' :: rest := rest | none
  let (month, rest) ← digits? 2 rest
  let '-' :: rest := rest | none
  let (day, rest) ← digits? 2 rest
  if 1 ≤ month && month ≤ 12 && 1 ≤ day && day ≤ daysOf year month then some rest else none

/-- The rest behind a time of day. -/
def time? (cs : List Char) : Option (List Char) := do
  let (hour, rest) ← digits? 2 cs
  let ':' :: rest := rest | none
  let (minute, rest) ← digits? 2 rest
  let ':' :: rest := rest | none
  let (second, rest) ← digits? 2 rest
  if 23 < hour || 59 < minute || 60 < second then none
  else
    match rest with
    | '.' :: d :: rest =>
      if Text.isDigit d then some (rest.dropWhile Text.isDigit) else none
    | '.' :: [] => none
    | rest => some rest

/-- Nothing is left but the offset of a time of day, if that. -/
def isOffset (cs : List Char) : Bool :=
  match cs with
  | [] | ['Z'] | ['z'] => true
  | [sign, a, b, ':', c, d] =>
    (sign == '+' || sign == '-') && [a, b, c, d].all Text.isDigit
      && Text.digitsValue [a, b] ≤ 23 && Text.digitsValue [c, d] ≤ 59
  | _ => false

/-- A time of day with its offset. -/
def isFullTime (cs : List Char) : Bool :=
  match time? cs with
  | some rest => isOffset rest
  | none => false

/-- A date, a time of day, or both. -/
def isMoment (cs : List Char) : Bool :=
  match date? cs with
  | some [] => true
  | some (c :: rest) => (c == 'T' || c == 't') && isFullTime rest
  | none => time? cs == some []

/-! ### Values without parts -/

/-- A character of a number or date. -/
def isWordChar (c : Char) : Bool :=
  c.isAlphanum || c == '_' || c == '+' || c == '-' || c == '.' || c == ':'

/-- Read a number, date or truth value.  A date and its time may have a blank between them. -/
def readWord (cs : List Char) : Option (Toml × List Char) :=
  let word := cs.takeWhile isWordChar
  let rest := cs.drop word.length
  if word == "true".toList then some (.bool true, rest)
  else if word == "false".toList then some (.bool false, rest)
  else if isMoment word then
    match rest with
    | ' ' :: more =>
      let time := more.takeWhile isWordChar
      if date? word == some [] && isFullTime time then some (.moment, more.drop time.length)
      else some (.moment, rest)
    | _ => some (.moment, rest)
  else if isNotFinite word then some (.fraction, rest)
  else
    match fraction? word with
    | some f => if f.isTooGreat then none else some (.fraction, rest)
    | none => (whole? word).map (·, rest)

end Lookahead.Toml
