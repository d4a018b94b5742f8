/-
  JSON texts, read.

  The reader takes the texts of RFC 8259 and no others.  It keeps the fields of an object as they stand, so
  a key that is given twice is seen twice; a number without a fraction and without a power of ten is an
  integer, and any other one is kept as its text.

  Strings go one character at a time: `Mark` says what the characters before have begun.  A character
  beyond U+FFFF may be escaped by two numbers, and a half of such a pair stands for nothing by itself.
  Numbers are cut off as words, since no character of a number may follow one.  Values call one another
  with a number of calls that the length of the text bounds.
-/
import BenchSweep.Json
import BenchSweep.Toml.Strings

namespace BenchSweep.Json

namespace Reader

open Toml.Strings (hexValue? scalar?)

/-- The characters that may stand between parts. -/
def isSpace (c : Char) : Bool := c == ' ' || c == '\t' || c == '\n' || c == '\r'

/-- The text behind the space at its front. -/
def skipSpace (s : List Char) : List Char := s.dropWhile isSpace

/-! ## Strings -/

/-- What the characters of a string read so far have begun. -/
inductive Mark where
  /-- Nothing. -/
  | plain
  /-- An escape, of which the backslash is read. -/
  | escape
  /-- An escape by number: how many digits are still to come, the number so far, and the first number of
      the pair if this is the second. -/
  | digits (more : Nat) (value : Nat) (high : Option Nat)
  /-- A pair, of which the first number is read. -/
  | pair (high : Nat)
  /-- A pair, of which the first number and the backslash of the second are read. -/
  | pairEscape (high : Nat)
deriving DecidableEq, Repr

/-- The character that a letter after a backslash stands for. -/
def shortEscape? : Char → Option Char
  | '"' => some '"'
  | '\\' => some '\\'
  | '/' => some '/'
  | 'b' => some '\x08'
  | 'f' => some '\x0c'
  | 'n' => some '\n'
  | 'r' => some '\r'
  | 't' => some '\t'
  | _ => none

/-- A whole number of an escape: the character, or the first number of a pair. -/
def unit? (high : Option Nat) (value : Nat) : Option (List Char × Mark) :=
  match high with
  | none =>
    if 0xD800 ≤ value ∧ value < 0xDC00 then some ([], .pair value)
    else (scalar? value).map fun c => ([c], .plain)
  | some high =>
    if 0xDC00 ≤ value ∧ value < 0xE000 then
      (scalar? (0x10000 + (high - 0xD800) * 0x400 + (value - 0xDC00))).map fun c => ([c], .plain)
    else none

/-- A character, after what has begun: the text that it adds, and what it begins or goes on with. -/
def step (mark : Mark) (c : Char) : Option (List Char × Mark) :=
  match mark with
  | .plain =>
    if c = '\\' then some ([], .escape)
    else if c.toNat < 0x20 then none
    else some ([c], .plain)
  | .escape =>
    if c = 'u' then some ([], .digits 4 0 none) else (shortEscape? c).map fun d => ([d], .plain)
  | .digits more value high =>
    match hexValue? c with
    | none => none
    | some d =>
      if more ≤ 1 then unit? high (16 * value + d)
      else some ([], .digits (more - 1) (16 * value + d) high)
  | .pair high => if c = '\\' then some ([], .pairEscape high) else none
  | .pairEscape high => if c = 'u' then some ([], .digits 4 0 (some high)) else none

/-- The text of a string up to its end, and what stands behind it. -/
def body (mark : Mark) : List Char → Option (List Char × List Char)
  | [] => none
  | c :: r =>
    if mark = .plain ∧ c = '"' then some ([], r)
    else match step mark c with
      | none => none
      | some (out, next) => (body next r).map fun done => (out ++ done.1, done.2)

/-! ## Numbers -/

/-- A character that can be part of a number. -/
def isNumberChar (c : Char) : Bool := c.isDigit || ['+', '-', '.', 'e', 'E'].contains c

/-- Digits in front of a point: a zero stands alone. -/
def isWhole (ds : List Char) : Bool :=
  match ds with
  | [] => false
  | ['0'] => true
  | d :: ds => d != '0' && (d :: ds).all Char.isDigit

/-- The point and the digits behind it, if there is a point; the rest follows. -/
def skipFraction? : List Char → Option (List Char)
  | '.' :: r => if r.takeWhile Char.isDigit = [] then none else some (r.dropWhile Char.isDigit)
  | r => some r

/-- A sign, if there is one, and the rest. -/
def skipSign : List Char → List Char
  | '-' :: r => r
  | '+' :: r => r
  | r => r

/-- Nothing, or a power of ten. -/
def isPower : List Char → Bool
  | [] => true
  | e :: r => (e == 'e' || e == 'E') && !(skipSign r).isEmpty && (skipSign r).all Char.isDigit

/-- The number behind its sign: an integer if it has digits only, else the whole text. -/
def unsigned? (negative : Bool) (word s : List Char) : Option Value :=
  let whole := s.takeWhile Char.isDigit
  let rest := s.dropWhile Char.isDigit
  if !isWhole whole then none
  else if rest = [] then
    let n : Int := Nat.ofDigitChars 10 whole 0
    some (.integer (if negative then -n else n))
  else match skipFraction? rest with
    | none => none
    | some power => if isPower power then some (.decimal (String.ofList word)) else none

/-- The number that a word spells. -/
def number? (word : List Char) : Option Value :=
  match word with
  | '-' :: s => unsigned? true word s
  | s => unsigned? false word s

/-! ## Values -/

/-- The names of values. -/
def names : List (List Char × Value) :=
  [("null".toList, .null), ("true".toList, .boolean true), ("false".toList, .boolean false)]

/-- A name at the front, and the rest. -/
def name? (s : List Char) : Option (Value × List Char) :=
  names.findSome? fun (word, v) => if word.isPrefixOf s then some (v, s.drop word.length) else none

/-- A number at the front, and the rest. -/
def numberAt? (s : List Char) : Option (Value × List Char) :=
  (number? (s.takeWhile isNumberChar)).map fun v => (v, s.dropWhile isNumberChar)

/-- A key at the front with its colon, and the value behind it. -/
def key? : List Char → Option (String × List Char)
  | '"' :: r =>
    match body .plain r with
    | none => none
    | some (key, r) =>
      match skipSpace r with
      | ':' :: r => some (String.ofList key, skipSpace r)
      | _ => none
  | _ => none

mutual

/-- A value at the front, and the rest. -/
def value? : Nat → List Char → Option (Value × List Char)
  | 0, _ => none
  | _ + 1, [] => none
  | calls + 1, c :: r =>
    if c = '"' then (body .plain r).map fun (s, r) => (.string (String.ofList s), r)
    else if c = '[' then
      match skipSpace r with
      | ']' :: r => some (.array [], r)
      | r => (items? calls r).map fun (vs, r) => (.array vs, r)
    else if c = '\x7b' then
      match skipSpace r with
      | '\x7d' :: r => some (.object [], r)
      | r => (fields? calls r).map fun (fs, r) => (.object fs, r)
    else if isNumberChar c then numberAt? (c :: r)
    else name? (c :: r)

/-- The items of an array from one of them on, and what stands behind the bracket. -/
def items? : Nat → List Char → Option (List Value × List Char)
  | 0, _ => none
  | calls + 1, r =>
    match value? calls r with
    | none => none
    | some (v, r) =>
      match skipSpace r with
      | ']' :: r => some ([v], r)
      | ',' :: r => (items? calls (skipSpace r)).map fun (vs, r) => (v :: vs, r)
      | _ => none

/-- The fields of an object from one of them on, and what stands behind the brace. -/
def fields? : Nat → List Char → Option (List (String × Value) × List Char)
  | 0, _ => none
  | calls + 1, r =>
    match key? r with
    | none => none
    | some (key, r) =>
      match value? calls r with
      | none => none
      | some (v, r) =>
        match skipSpace r with
        | '\x7d' :: r => some ([(key, v)], r)
        | ',' :: r => (fields? calls (skipSpace r)).map fun (fs, r) => ((key, v) :: fs, r)
        | _ => none

end

end Reader

/-- The value of a text that is one JSON value, with space before and behind it. -/
def read? (s : List Char) : Option Value :=
  match Reader.value? (s.length + 1) (Reader.skipSpace s) with
  | none => none
  | some (v, r) => if Reader.skipSpace r = [] then some v else none

example : (read? " [1, -2.50e3, \"\\ud83d\\ude00\\n\"]\n".toList).map compact =
    some "[1,-2.50e3,\"😀\\n\"]".toList := by decide +kernel
example : ["[1,]", "01", "\"\\ud83d\"", "\"\n\"", "\x7b\"a\" 1\x7d", "[1] 2", "nul"].all
    (fun s => (read? s.toList).isNone) = true := by decide +kernel

end BenchSweep.Json
