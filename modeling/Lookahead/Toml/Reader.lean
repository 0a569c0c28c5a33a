import Lookahead.Toml.Scalar

/-!
# Reading TOML

A TOML text is a list of lines: values under keys, and headers that say which table the values below
them are for.  `Toml.read?` gives the fields of the whole, or nothing when the text is malformed or
says something twice.
-/

namespace Lookahead.Toml

/-- Arrays and tables in braces are nested less deep than this, and keys have fewer parts. -/
def depthLimit : Nat := 80

/-- The rest behind blanks, line ends and comments. -/
def skipGap : Nat → List Char → Option (List Char)
  | 0, _ => none
  | _, [] => some []
  | n + 1, c :: cs =>
    if isSpace c then skipGap n cs
    else if c = '#' then skipGap n (cs.dropWhile isPlain)
    else
      match newline? (c :: cs) with
      | some rest => skipGap n rest
      | none => some (c :: cs)

mutual

/-- Read a value, at most `depth` arrays and tables deep. -/
def readValue (depth : Nat) : Nat → List Char → Option (Toml × List Char)
  | 0, _ => none
  | n + 1, cs =>
    match cs with
    | '"' :: _ | '\'' :: _ => (readString cs).map fun (s, rest) => (.str s, rest)
    | '[' :: rest => if depth ≤ 1 then none else readItems (depth - 1) [] n rest
    | '\x7b' :: rest => if depth ≤ 1 then none else readFields (depth - 1) [] true n rest
    | _ => readWord cs

/-- Read the items of an array from behind its bracket or a comma; `done` are read, latest first. -/
def readItems (depth : Nat) (done : List Toml) : Nat → List Char → Option (Toml × List Char)
  | 0, _ => none
  | n + 1, cs => do
    match ← skipGap (cs.length + 1) cs with
    | ']' :: rest => some (.arr done.reverse, rest)
    | cs =>
      let (v, rest) ← readValue depth n cs
      match ← skipGap (rest.length + 1) rest with
      | ']' :: rest => some (.arr (v :: done).reverse, rest)
      | ',' :: rest => readItems depth (v :: done) n rest
      | _ => none

/-- Read the fields of a table in braces; only before the first may it end. -/
def readFields (depth : Nat) (fs : Fields) (first : Bool) :
    Nat → List Char → Option (Toml × List Char)
  | 0, _ => none
  | n + 1, cs => do
    match skipSpaces cs with
    | '\x7d' :: rest => if first then some (.table .inline fs, rest) else none
    | cs =>
      let (key, rest) ← readKey (depthLimit - 1) cs
      let '=' :: rest := rest | none
      let (v, rest) ← readValue depth n (skipSpaces rest)
      let (_, fs) ←
        change .dotted (putNew (1 < key.length) (key.getLast?.getD "") v) key.dropLast .inline fs
      match skipSpaces rest with
      | '\x7d' :: rest => some (.table .inline fs, rest)
      | ',' :: rest => readFields depth fs false n rest
      | _ => none

end

/-- The rest behind what may follow on a line: blanks, a comment, the line end. -/
def endLine (cs : List Char) : Option (List Char) :=
  let cs := match skipSpaces cs with
    | '#' :: rest => rest.dropWhile isPlain
    | rest => rest
  if cs.isEmpty then some [] else newline? cs

/-- Read one line: into the table at `place`, or a header that changes the place. -/
def readLine (place : List String) (fs : Fields) (cs : List Char) :
    Option (List String × Fields × List Char) := do
  match skipSpaces cs with
  | '[' :: '[' :: rest =>
    let (key, rest) ← readKey (depthLimit - 1) rest
    let ']' :: ']' :: rest := rest | none
    let (_, fs) ← change .implied (openRow (key.getLast?.getD "")) key.dropLast .named fs
    some (key, fs, ← endLine rest)
  | '[' :: rest =>
    let (key, rest) ← readKey (depthLimit - 1) rest
    let ']' :: rest := rest | none
    let (_, fs) ← change .implied (openTable (key.getLast?.getD "")) key.dropLast .named fs
    some (key, fs, ← endLine rest)
  | cs =>
    match endLine cs with
    | some rest => some (place, fs, rest)
    | none =>
      let (key, rest) ← readKey (depthLimit - 1) cs
      let '=' :: rest := rest | none
      let (v, rest) ← readValue depthLimit (2 * cs.length + 2) (skipSpaces rest)
      let insert := putNew (1 < key.length) (key.getLast?.getD "") v
      let (_, fs) ← change .implied (change .dotted insert key.dropLast) place .named fs
      some (place, fs, ← endLine rest)

/-- Read lines until the text ends. -/
def readLines : Nat → List String → Fields → List Char → Option Fields
  | _, _, fs, [] => some fs
  | 0, _, _, _ => none
  | n + 1, place, fs, cs => do
    let (place, fs, rest) ← readLine place fs cs
    readLines n place fs rest

/-- The fields of a TOML text, which may begin with a byte order mark. -/
def read? (s : String) : Option Fields :=
  let cs := match s.toList with
    | '\ufeff' :: rest => rest
    | cs => cs
  readLines (cs.length + 1) [] [] cs

end Lookahead.Toml
