/-
  The four forms of a TOML string, read and written.

  A string stands between quotation marks or between apostrophes, one or three of them; between
  quotation marks a backslash starts an escape, and between three of either it may go over several lines.
  `body` reads one character at a time: `Mark` says what the characters before it have begun, and
  `closing?` looks ahead for the end.  `write` takes the first form that shows the text as it is, and
  falls back on escapes.
-/

namespace BenchSweep.Toml.Strings

/-- How a string is delimited. -/
inductive Form where
  | basic
  | literal
  | multiBasic
  | multiLiteral
deriving DecidableEq, Repr

namespace Form

/-- The character that delimits the string. -/
def quote : Form → Char
  | .basic | .multiBasic => '"'
  | .literal | .multiLiteral => '\''

/-- A form that may go over several lines. -/
def isMulti : Form → Bool
  | .basic | .literal => false
  | .multiBasic | .multiLiteral => true

/-- A form in which a backslash stands for something. -/
def hasEscapes : Form → Bool
  | .basic | .multiBasic => true
  | .literal | .multiLiteral => false

/-- The marks on either side. -/
def fence (form : Form) : List Char :=
  if form.isMulti then [form.quote, form.quote, form.quote] else [form.quote]

end Form

/-! ## Reading -/

/-- A control character, the tab apart. -/
def isControl (c : Char) : Bool := (c.toNat < 0x20 && c != '\t') || c.toNat == 0x7F

/-- What the characters read so far have begun. -/
inductive Mark where
  /-- Nothing. -/
  | plain
  /-- An escape, of which the backslash is read. -/
  | escape
  /-- An escape by number: how many digits are still to come, and the number so far. -/
  | digits (more : Nat) (value : Nat)
  /-- A line that ends in a backslash, of which blanks are read. -/
  | lineEnd
  /-- The space between such a line and the next text. -/
  | gap
deriving DecidableEq, Repr

/-- The characters that a letter after a backslash stands for. -/
def shortEscape? : Char → Option Char
  | 'b' => some '\x08'
  | 't' => some '\t'
  | 'n' => some '\n'
  | 'f' => some '\x0c'
  | 'r' => some '\r'
  | 'e' => some '\x1b'
  | '"' => some '"'
  | '\\' => some '\\'
  | _ => none

/-- How many digits an escape by number has. -/
def digitCount? : Char → Option Nat
  | 'x' => some 2
  | 'u' => some 4
  | 'U' => some 8
  | _ => none

/-- The value of a digit of the base sixteen. -/
def hexValue? (c : Char) : Option Nat :=
  if '0' ≤ c ∧ c ≤ '9' then some (c.toNat - 48)
  else if 'a' ≤ c ∧ c ≤ 'f' then some (c.toNat - 87)
  else if 'A' ≤ c ∧ c ≤ 'F' then some (c.toNat - 55)
  else none

/-- The character of a code point; surrogates and numbers past the last code point have none. -/
def scalar? (n : Nat) : Option Char := if n.isValidChar then some (Char.ofNat n) else none

/-- Whether a character may be the end of a line: a line feed, or a carriage return before one. -/
def endsLine (c : Char) (next : Option Char) : Bool := c == '\n' || (c == '\r' && next == some '\n')

/-- A character where nothing has begun: the text that it adds, and what it begins. -/
def plainStep (form : Form) (c : Char) (next : Option Char) : Option (List Char × Mark) :=
  if c = '\\' ∧ form.hasEscapes then some ([], .escape)
  else if isControl c then
    if form.isMulti ∧ endsLine c next then some ([c], .plain) else none
  else some ([c], .plain)

/-- A character, after what has begun: the text that it adds, and what it begins or goes on with. -/
def step (form : Form) (mark : Mark) (c : Char) (next : Option Char) : Option (List Char × Mark) :=
  match mark with
  | .plain => plainStep form c next
  | .escape =>
    match shortEscape? c, digitCount? c with
    | some d, _ => some ([d], .plain)
    | none, some n => some ([], .digits n 0)
    | none, none =>
      if !form.isMulti then none
      else if c = '\n' then some ([], .gap)
      else if c = ' ' ∨ c = '\t' ∨ endsLine c next then some ([], .lineEnd)
      else none
  | .digits more value =>
    match hexValue? c with
    | none => none
    | some d =>
      if more ≤ 1 then (scalar? (16 * value + d)).map fun c => ([c], .plain)
      else some ([], .digits (more - 1) (16 * value + d))
  | .lineEnd =>
    if c = '\n' then some ([], .gap)
    else if c = ' ' ∨ c = '\t' ∨ endsLine c next then some ([], .lineEnd)
    else none
  | .gap =>
    if c = ' ' ∨ c = '\t' ∨ endsLine c next then some ([], .gap) else plainStep form c next

/-- The end of a string, if the text begins with it: what the string still holds, and the rest.  Of up
    to five marks in a row the last three end a string that may go over several lines. -/
def closing? (form : Form) : List Char → Option (List Char × List Char)
  | [] => none
  | a :: r =>
    let q := form.quote
    if a ≠ q then none
    else if !form.isMulti then some ([], r)
    else match r with
      | b :: c :: r =>
        if b ≠ q ∨ c ≠ q then none
        else match r with
          | d :: r' =>
            if d ≠ q then some ([], r)
            else match r' with
              | e :: r'' => if e = q then some ([q, q], r'') else some ([q], r')
              | [] => some ([q], [])
          | [] => some ([], [])
      | _ => none

/-- Whether the end of the string may stand here. -/
def Mark.mayClose : Mark → Bool
  | .plain | .gap => true
  | _ => false

/-- The text of a string up to its end, and what follows the end. -/
def body (form : Form) : Mark → List Char → Option (List Char × List Char)
  | _, [] => none
  | mark, c :: r =>
    match if mark.mayClose then closing? form (c :: r) else none with
    | some done => some done
    | none =>
      match step form mark c r.head? with
      | none => none
      | some (out, mark) => (body form mark r).map fun (text, rest) => (out ++ text, rest)

/-- Drops a line end right after the opening marks. -/
def dropFirstNewline : List Char → List Char
  | '\n' :: r => r
  | '\r' :: '\n' :: r => r
  | r => r

/-- A string on one line, and what follows it. -/
def readLine : List Char → Option (List Char × List Char)
  | '"' :: r => body .basic .plain r
  | '\'' :: r => body .literal .plain r
  | _ => none

/-- A string of any form, and what follows it. -/
def read : List Char → Option (List Char × List Char)
  | '"' :: '"' :: '"' :: r => body .multiBasic .plain (dropFirstNewline r)
  | '\'' :: '\'' :: '\'' :: r => body .multiLiteral .plain (dropFirstNewline r)
  | r => readLine r

/-! ## Writing -/

/-- The letters, digits, `_` and `-` of keys without marks. -/
def isBare (c : Char) : Bool := c.isAlphanum || c == '_' || c == '-'

/-- Whether three marks `q` stand in a row. -/
def hasThree (q : Char) : List Char → Bool
  | a :: b :: c :: r => (a == q && b == q && c == q) || hasThree q (b :: c :: r)
  | _ => false

/-- Whether a form can show the text without escapes. -/
def shows (form : Form) (s : List Char) : Bool :=
  match form with
  | .basic => s.all fun c => !isControl c && c != '\\' && c != '"'
  | .literal => s.all fun c => !isControl c && c != '\''
  | .multiBasic => s.all (fun c => (!isControl c || c == '\n') && c != '\\') && !hasThree '"' s
  | .multiLiteral => s.all (fun c => !isControl c || c == '\n') && !hasThree '\'' s

/-- A digit of the base sixteen, large. -/
def hexDigit (n : Nat) : Char := Char.ofNat (if n < 10 then 48 + n else 55 + n)

/-- A character by the four digits of its number. -/
def numbered (c : Char) : List Char :=
  let n := c.toNat
  ['\\', 'u', hexDigit (n / 0x1000 % 16), hexDigit (n / 0x100 % 16), hexDigit (n / 0x10 % 16),
    hexDigit (n % 16)]

/-- A character as it is written where a backslash starts an escape; `marks` tells how many quotation
    marks stand right before it, of those that were written as they are. -/
def escaped (form : Form) (marks : Nat) (c : Char) : List Char :=
  if c = '\\' then ['\\', '\\']
  else if c = '"' then if form = .multiBasic ∧ marks < 2 then ['"'] else ['\\', '"']
  else if c = '\t' then ['\\', 't']
  else if c = '\n' then if form = .multiBasic then ['\n'] else ['\\', 'n']
  else if c = '\x08' then ['\\', 'b']
  else if c = '\x0c' then ['\\', 'f']
  else if c = '\r' then ['\\', 'r']
  else if isControl c then numbered c
  else [c]

/-- A text between quotation marks, after `marks` quotation marks that were written as they are. -/
def escapedBody (form : Form) : Nat → List Char → List Char
  | _, [] => []
  | marks, c :: r =>
    let out := escaped form marks c
    out ++ escapedBody form (if out = ['"'] then marks + 1 else 0) r

/-- A text in a given form.  Where several lines are allowed, a text with a line end starts on a line of
    its own. -/
def inForm (form : Form) (s : List Char) : List Char :=
  form.fence ++ (if form.isMulti ∧ s.contains '\n' then ['\n'] else [])
    ++ (if form.hasEscapes then escapedBody form 0 s else s) ++ form.fence

/-- The form in which a text is written. -/
def formOf (s : List Char) : Form :=
  if shows .basic s then .basic
  else if shows .literal s then .literal
  else if shows .multiBasic s then .multiBasic
  else if shows .multiLiteral s then .multiLiteral
  else if s.contains '\n' then .multiBasic
  else .basic

/-- A text as a value. -/
def write (s : List Char) : List Char := inForm (formOf s) s

/-- A text as a key: bare if it can be, and never over several lines. -/
def writeKey (s : List Char) : List Char :=
  if s ≠ [] ∧ s.all isBare then s
  else if shows .basic s then inForm .basic s
  else if shows .literal s then inForm .literal s
  else inForm .basic s

example : read "'''\na''b'''x".toList = some ("a''b".toList, "x".toList) := by decide
example : read "\"\"\"a\"\"\"\"\"".toList = some ("a\"\"".toList, []) := by decide
example : read "\"\\u00e9\\\"\" =".toList = some ("é\"".toList, " =".toList) := by decide
example : write "C:\\dir".toList = "'C:\\dir'".toList := by decide

end BenchSweep.Toml.Strings
