/-!
# Terminals

The alphabet of the grammar: reserved words, operators, delimiters, one terminal for each class of
lexemes (identifiers, numbers, string literals), and the end marker that closes every input.

* `Terminal.ofText?_text`: a terminal is known by its spelling.
-/

namespace Lookahead

/-- Reserved words.  A trailing underscore sets a word apart from one of ours. -/
inductive Keyword where
  | int | float | double | boolean | void | string | true_ | false_ | null
  | if_ | else_ | switch | case_ | default | for_ | while_ | do_
  | break_ | continue_ | return_ | try_ | catch_ | finally_ | throw
  | public_ | private_ | protected_ | static | final | abstract_
  | class_ | interface | extends_ | implements | new | this | super | package | import_
deriving DecidableEq, Repr

namespace Keyword

/-- The reserved words in the order sets of terminals are shown in. -/
def all : List Keyword :=
  [int, float, double, boolean, void, string, true_, false_, null,
   if_, else_, switch, case_, default, for_, while_, do_,
   break_, continue_, return_, try_, catch_, finally_, throw,
   public_, private_, protected_, static, final, abstract_,
   class_, interface, extends_, implements, new, this, super, package, import_]

/-- The word as it is written. -/
def text : Keyword → String
  | int => "int" | float => "float" | double => "double" | boolean => "boolean"
  | void => "void" | string => "string" | true_ => "true" | false_ => "false" | null => "null"
  | if_ => "if" | else_ => "else" | switch => "switch" | case_ => "case" | default => "default"
  | for_ => "for" | while_ => "while" | do_ => "do"
  | break_ => "break" | continue_ => "continue" | return_ => "return"
  | try_ => "try" | catch_ => "catch" | finally_ => "finally" | throw => "throw"
  | public_ => "public" | private_ => "private" | protected_ => "protected"
  | static => "static" | final => "final" | abstract_ => "abstract"
  | class_ => "class" | interface => "interface" | extends_ => "extends"
  | implements => "implements" | new => "new" | this => "this" | super => "super"
  | package => "package" | import_ => "import"

theorem mem_all (k : Keyword) : k ∈ all := by cases k <;> decide

/-- The reserved word spelled `s`. -/
def ofText? (s : String) : Option Keyword := all.find? (·.text == s)

end Keyword

/-- Operators, longer ones before those they begin with. -/
inductive Operator where
  | eq | ne | ge | le | and | or | increment | decrement
  | plusAssign | minusAssign | starAssign | slashAssign
  | assign | not | gt | lt | plus | minus | star | slash
deriving DecidableEq, Repr

namespace Operator

/-- The operators in the order they are tried in. -/
def all : List Operator :=
  [eq, ne, ge, le, and, or, increment, decrement, plusAssign, minusAssign, starAssign, slashAssign,
   assign, not, gt, lt, plus, minus, star, slash]

/-- The characters of an operator. -/
def chars : Operator → List Char
  | eq => ['=', '='] | ne => ['!', '='] | ge => ['>', '='] | le => ['<', '=']
  | and => ['&', '&'] | or => ['|', '|'] | increment => ['+', '+'] | decrement => ['-', '-']
  | plusAssign => ['+', '='] | minusAssign => ['-', '=']
  | starAssign => ['*', '='] | slashAssign => ['/', '=']
  | assign => ['='] | not => ['!'] | gt => ['>'] | lt => ['<']
  | plus => ['+'] | minus => ['-'] | star => ['*'] | slash => ['/']

/-- The operator as it is written. -/
def text (o : Operator) : String := String.ofList o.chars

theorem mem_all (o : Operator) : o ∈ all := by cases o <;> decide

/-- The operator that `cs` begins with: the longest, since longer ones are tried first. -/
def leading? (cs : List Char) : Option Operator := all.find? (·.chars.isPrefixOf cs)

end Operator

/-- Delimiters, one character each. -/
inductive Delimiter where
  | openBrace | closeBrace | openParen | closeParen | openBracket | closeBracket
  | semicolon | comma | dot | colon | atSign
deriving DecidableEq, Repr

namespace Delimiter

/-- The delimiters in the order sets of terminals are shown in. -/
def all : List Delimiter :=
  [openBrace, closeBrace, openParen, closeParen, openBracket, closeBracket,
   semicolon, comma, dot, colon, atSign]

/-- The character of a delimiter. -/
def char : Delimiter → Char
  | openBrace => '\x7b' | closeBrace => '\x7d' | openParen => '(' | closeParen => ')'
  | openBracket => '[' | closeBracket => ']' | semicolon => ';' | comma => ','
  | dot => '.' | colon => ':' | atSign => '@'

/-- The delimiter as it is written. -/
def text (d : Delimiter) : String := d.char.toString

theorem mem_all (d : Delimiter) : d ∈ all := by cases d <;> decide

/-- The delimiter written `c`. -/
def ofChar? (c : Char) : Option Delimiter := all.find? (·.char == c)

end Delimiter

/-- A terminal of the grammar. -/
inductive Terminal where
  | keyword (k : Keyword)
  | operator (o : Operator)
  | delimiter (d : Delimiter)
  | identifier
  | number
  | literal
  | endMark
deriving DecidableEq, Repr

instance : Coe Keyword Terminal := ⟨.keyword⟩

instance : Coe Operator Terminal := ⟨.operator⟩

instance : Coe Delimiter Terminal := ⟨.delimiter⟩

namespace Terminal

/-- The terminals in the order sets of them are shown in. -/
def all : List Terminal :=
  Keyword.all.map keyword ++ Operator.all.map operator ++ Delimiter.all.map delimiter
    ++ [identifier, number, literal, endMark]

/-- The place of a terminal in the order of terminals. -/
def rank (t : Terminal) : Nat := all.idxOf t

/-- A terminal's name: its spelling, if it has one. -/
def text : Terminal → String
  | keyword k => k.text
  | operator o => o.text
  | delimiter d => d.text
  | identifier => "ID"
  | number => "D"
  | literal => "L"
  | endMark => "$"

/-- The terminal named `s`. -/
def ofText? (s : String) : Option Terminal := all.find? (·.text == s)

theorem mem_all : ∀ t : Terminal, t ∈ all
  | keyword k => by simp [all, Keyword.mem_all]
  | operator o => by simp [all, Operator.mem_all]
  | delimiter d => by simp [all, Delimiter.mem_all]
  | identifier | number | literal | endMark => by simp [all]

theorem ofText?_text (t : Terminal) : ofText? t.text = some t := by
  have : ∀ t ∈ all, ofText? t.text = some t := by decide +kernel
  exact this t (mem_all t)
end Terminal

end Lookahead
