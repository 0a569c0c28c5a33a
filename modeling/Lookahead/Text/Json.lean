/-!
# JSON values and their text

Values in the order their parts are listed, and their two written forms: compact, on one line, and
pretty, with two spaces of indent a level.  In a string, quotes, backslashes and control characters
are escaped and every other character stands for itself.
-/

namespace Lookahead

/-- A JSON value with whole numbers. -/
inductive Json where
  | null
  | bool (b : Bool)
  | num (n : Int)
  | str (s : String)
  | arr (items : List Json)
  | obj (fields : List (String × Json))
deriving Inhabited

namespace Json

instance : Coe String Json := ⟨str⟩

instance : Coe Bool Json := ⟨bool⟩

instance : Coe Nat Json := ⟨fun n => num n⟩

/-- The value of an option, `null` for none. -/
def ofOption {α : Type} (f : α → Json) : Option α → Json
  | none => null
  | some a => f a

/-- A hexadecimal digit. -/
def hexDigit (n : Nat) : Char := Nat.digitChar n

/-- One character of a string as it is written. -/
def escapedChar (c : Char) : List Char :=
  if c = '"' then ['\\', '"']
  else if c = '\\' then ['\\', '\\']
  else if 0x20 ≤ c.toNat then [c]
  else if c.toNat = 0x08 then ['\\', 'b']
  else if c = '\t' then ['\\', 't']
  else if c = '\n' then ['\\', 'n']
  else if c.toNat = 0x0C then ['\\', 'f']
  else if c = '\r' then ['\\', 'r']
  else ['\\', 'u', '0', '0', hexDigit (c.toNat / 16), hexDigit (c.toNat % 16)]

/-- A string as it is written. -/
def escaped (s : String) : String :=
  String.ofList ('"' :: s.toList.flatMap escapedChar ++ ['"'])

/-- The digits of a number, with a sign when it is negative. -/
def numberText (n : Int) : String := toString n

mutual

/-- Write a value on one line behind `out`. -/
def writeCompact (out : String) : Json → String
  | null => out ++ "null"
  | bool b => out ++ (if b then "true" else "false")
  | num n => out ++ numberText n
  | str s => out ++ escaped s
  | arr [] => out ++ "[]"
  | arr (v :: vs) => compactItems (writeCompact (out ++ "[") v) vs ++ "]"
  | obj [] => out ++ "\x7b\x7d"
  | obj ((k, v) :: fs) =>
    compactFields (writeCompact (out ++ "\x7b" ++ escaped k ++ ":") v) fs ++ "\x7d"

/-- Write further items of an array. -/
def compactItems (out : String) : List Json → String
  | [] => out
  | v :: vs => compactItems (writeCompact (out ++ ",") v) vs

/-- Write further fields of an object. -/
def compactFields (out : String) : List (String × Json) → String
  | [] => out
  | (k, v) :: fs => compactFields (writeCompact (out ++ "," ++ escaped k ++ ":") v) fs

end

/-- A value on one line, without blanks. -/
def compact (v : Json) : String := writeCompact "" v

/-- A new line at an indent. -/
def newLine (depth : Nat) : String := String.ofList ('\n' :: List.replicate (2 * depth) ' ')

mutual

/-- Write a value behind `out`, its parts on lines of their own. -/
def writePretty (depth : Nat) (out : String) : Json → String
  | null => out ++ "null"
  | bool b => out ++ (if b then "true" else "false")
  | num n => out ++ numberText n
  | str s => out ++ escaped s
  | arr [] => out ++ "[]"
  | arr (v :: vs) =>
    prettyItems depth (writePretty (depth + 1) (out ++ "[" ++ newLine (depth + 1)) v) vs
      ++ newLine depth ++ "]"
  | obj [] => out ++ "\x7b\x7d"
  | obj ((k, v) :: fs) =>
    prettyFields depth
        (writePretty (depth + 1) (out ++ "\x7b" ++ newLine (depth + 1) ++ escaped k ++ ": ") v) fs
      ++ newLine depth ++ "\x7d"

/-- Write further items of an array. -/
def prettyItems (depth : Nat) (out : String) : List Json → String
  | [] => out
  | v :: vs =>
    prettyItems depth (writePretty (depth + 1) (out ++ "," ++ newLine (depth + 1)) v) vs

/-- Write further fields of an object. -/
def prettyFields (depth : Nat) (out : String) : List (String × Json) → String
  | [] => out
  | (k, v) :: fs =>
    prettyFields depth
      (writePretty (depth + 1) (out ++ "," ++ newLine (depth + 1) ++ escaped k ++ ": ") v) fs

end

/-- A value over several lines, each level indented by two spaces. -/
def pretty (v : Json) : String := writePretty 0 "" v

end Json

end Lookahead
