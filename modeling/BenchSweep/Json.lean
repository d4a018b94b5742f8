/-
  JSON texts.

  A number is an integer, or a decimal whose text is chosen by the one who made it.  `compact` writes a
  value without any space; `pretty` puts each item of an array and each field of an object on a line of
  its own, two spaces further in.
-/

namespace BenchSweep.Json

/-- A JSON value; the fields of an object stand in the order in which they are written. -/
inductive Value where
  | null
  | boolean (b : Bool)
  | integer (n : Int)
  /-- A number with the text that is to be written. -/
  | decimal (text : String)
  | string (s : String)
  | array (items : List Value)
  | object (fields : List (String × Value))
deriving Repr, Inhabited

/-- A digit of the base sixteen, small. -/
def hexDigit (n : Nat) : Char := Char.ofNat (if n < 10 then 48 + n else 87 + n)

/-- A character inside a string. -/
def escaped (c : Char) : List Char :=
  if c = '"' then ['\\', '"']
  else if c = '\\' then ['\\', '\\']
  else if c = '\n' then ['\\', 'n']
  else if c = '\r' then ['\\', 'r']
  else if c = '\t' then ['\\', 't']
  else if c = '\x08' then ['\\', 'b']
  else if c = '\x0c' then ['\\', 'f']
  else if c.toNat < 0x20 then
    ['\\', 'u', '0', '0', hexDigit (c.toNat / 16), hexDigit (c.toNat % 16)]
  else [c]

/-- A text between its quotes. -/
def stringText (s : String) : List Char := '"' :: s.toList.flatMap escaped ++ ['"']

/-- An integer with its sign, in decimal digits. -/
def integerText (n : Int) : List Char :=
  (if n < 0 then ['-'] else []) ++ Nat.toDigits 10 n.natAbs

/-- The text of a value that holds no others. -/
def scalarText : Value → List Char
  | .null => "null".toList
  | .boolean b => if b then "true".toList else "false".toList
  | .integer n => integerText n
  | .decimal text => text.toList
  | .string s => stringText s
  | .array _ | .object _ => []

mutual

/-- A value without any space. -/
def compact : Value → List Char
  | .array items => '[' :: compactItems items ++ [']']
  | .object fields => '\x7b' :: compactFields fields ++ ['\x7d']
  | v => scalarText v

/-- Items with a comma in front of each but the first. -/
def compactItems : List Value → List Char
  | [] => []
  | [v] => compact v
  | v :: r => compact v ++ ',' :: compactItems r

/-- The same for fields, each behind its key. -/
def compactFields : List (String × Value) → List Char
  | [] => []
  | [(key, v)] => stringText key ++ ':' :: compact v
  | (key, v) :: r => stringText key ++ ':' :: compact v ++ ',' :: compactFields r

end

/-- A new line, `depth` steps further in. -/
def newline (depth : Nat) : List Char := '\n' :: List.replicate (2 * depth) ' '

mutual

/-- A value with one item or field a line; the lines inside it are `depth + 1` steps further in. -/
def pretty (depth : Nat) : Value → List Char
  | .array [] => ['[', ']']
  | .array items => '[' :: prettyItems (depth + 1) items ++ newline depth ++ [']']
  | .object [] => ['\x7b', '\x7d']
  | .object fields => '\x7b' :: prettyFields (depth + 1) fields ++ newline depth ++ ['\x7d']
  | v => scalarText v

/-- Items on lines of their own. -/
def prettyItems (depth : Nat) : List Value → List Char
  | [] => []
  | [v] => newline depth ++ pretty depth v
  | v :: r => newline depth ++ pretty depth v ++ ',' :: prettyItems depth r

/-- The same for fields. -/
def prettyFields (depth : Nat) : List (String × Value) → List Char
  | [] => []
  | [(key, v)] => newline depth ++ stringText key ++ ':' :: ' ' :: pretty depth v
  | (key, v) :: r =>
    newline depth ++ stringText key ++ ':' :: ' ' :: pretty depth v ++ ',' :: prettyFields depth r

end

end BenchSweep.Json
