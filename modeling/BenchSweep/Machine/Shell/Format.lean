/-
  Texts with escapes, and formats.

  `unescape` is what `echo` does to its words.  A format is a text with escapes and directives; each
  directive takes a word and puts it out as a text or a number of a certain width, and the format is used
  again while words are left that it takes.

  Part of the stand-in for the machine (`Machine/System`).
-/
import BenchSweep.Number.Binary64
import BenchSweep.Machine.Shell.Session

namespace BenchSweep.Machine.Shell

/-! ## Escapes -/

/-- A digit of the base eight. -/
def isOctal (b : UInt8) : Bool := 0x30 ≤ b && b ≤ 0x37

/-- A digit of the base ten. -/
def isDecimal (b : UInt8) : Bool := 0x30 ≤ b && b ≤ 0x39

/-- Octal digits at the front, at most `n`, and the rest. -/
def octal (n : Nat) (s : Bytes) : Nat × Bytes :=
  let ds := (s.take n).takeWhile isOctal
  (ds.foldl (fun v b => 8 * v + (b.toNat - 48)) 0, s.drop ds.length)

/-- What the byte after a backslash stands for, if it is a letter for one byte. -/
def escapeOf? (b : UInt8) : Option UInt8 :=
  match Char.ofNat b.toNat with
  | 'a' => some 7
  | 'b' => some 8
  | 'e' => some 0x1B
  | 'f' => some 12
  | 'n' => some 10
  | 'r' => some 13
  | 't' => some 9
  | 'v' => some 11
  | '\\' => some 0x5C
  | _ => none

/-- The value of a hexadecimal digit; sixteen for any other byte. -/
def hexValue (b : UInt8) : Nat :=
  if isDecimal b then b.toNat - 0x30
  else if 0x61 ≤ b ∧ b ≤ 0x66 then b.toNat - 0x57
  else if 0x41 ≤ b ∧ b ≤ 0x46 then b.toNat - 0x37
  else 16

/-- Which escapes there are beside letters and octal digits. -/
structure Escapes where
  /-- A zero may stand in front of the octal digits. -/
  zero : Bool
  /-- `x` and up to two hexadecimal digits are a byte. -/
  hex : Bool

/-- What stands for the text behind a backslash, and the rest: a letter for a byte, digits for a byte, or
    else the backslash itself. -/
def escape (e : Escapes) (s : Bytes) : Bytes × Bytes :=
  match s with
  | [] => ([0x5C], [])
  | c :: r =>
    match escapeOf? c with
    | some d => ([d], r)
    | none =>
      let digits := (r.take 2).takeWhile fun b => hexValue b < 16
      if e.hex ∧ c = 0x78 ∧ digits ≠ [] then
        ([(digits.foldl (fun n b => 16 * n + hexValue b) 0).toUInt8], r.drop digits.length)
      else if isOctal c then
        let (n, rest) := octal 3 (if e.zero ∧ c = 0x30 ∧ r.head?.any isOctal then r else s)
        ([n.toUInt8], rest)
      else ([0x5C], s)

/-- A text with its escapes replaced, and whether output ends with it (after `\c`). -/
def unescapeWithin (e : Escapes) : Nat → Bytes → Bytes × Bool
  | 0, s => (s, false)
  | _, [] => ([], false)
  | fuel + 1, b :: r =>
    if b ≠ 0x5C then
      let (more, ended) := unescapeWithin e fuel r
      (b :: more, ended)
    else if r.head? = some 0x63 then ([], true)
    else
      let (out, rest) := escape e r
      let (more, ended) := unescapeWithin e fuel rest
      (out ++ more, ended)

/-- A text with the escapes of the shell replaced, and whether output ends with it. -/
def unescape (s : Bytes) : Bytes × Bool := unescapeWithin ⟨true, false⟩ s.length s

/-! ## Numbers in words -/

/-- The number at the front of a word, and the rest; none when there is no digit.  Behind `0x` it is in base
    sixteen and behind `0` in base eight. -/
def leadingInteger? (s : Bytes) : Option (Int × Bytes) :=
  let isSpace (b : UInt8) : Bool := b = 0x20 || (0x09 ≤ b && b ≤ 0x0D)
  let s := s.dropWhile isSpace
  let (negative, s) := match s with
    | 0x2D :: r => (true, r)
    | 0x2B :: r => (false, r)
    | r => (false, r)
  let (base, digits) := match s with
    | 0x30 :: x :: d :: r => if (x = 0x78 ∨ x = 0x58) ∧ hexValue d < 16 then (16, d :: r) else (8, s)
    | 0x30 :: _ => (8, s)
    | _ => (10, s)
  let ds := digits.takeWhile fun b => hexValue b < base
  if ds.isEmpty then none
  else
    let n : Nat := ds.foldl (fun (n : Nat) b => base * n + hexValue b) 0
    some (if negative then -(n : Int) else n, digits.drop ds.length)

/-- A value that a directive takes, with a complaint about the word. -/
structure Taken (α : Type) where
  value : α
  complaint : Option Bytes

/-- What is said about a word of which a part was no number. -/
def conversionComplaint (word rest : Bytes) : Option Bytes :=
  if rest.isEmpty then none
  else if rest.length = word.length then some (word ++ bytesOf ": expected numeric value")
  else some (word ++ bytesOf ": not completely converted")

/-- The integer of a word, between bounds; the character behind a quotation mark is its code. -/
def takeInteger (low high : Int) (word : Bytes) : Taken Int :=
  match word with
  | 0x22 :: c :: _ | 0x27 :: c :: _ => ⟨c.toNat, none⟩
  | [0x22] | [0x27] => ⟨0, none⟩
  | _ =>
    match leadingInteger? word with
    | none => ⟨0, conversionComplaint word word⟩
    | some (n, rest) =>
      let clamped := max low (min high n)
      if rest.isEmpty ∧ clamped ≠ n then
        ⟨clamped, some (word ++ bytesOf ": Numerical result out of range")⟩
      else ⟨clamped, conversionComplaint word rest⟩

/-- The number of a word: of the longest part at its front that is one. -/
def takeReal (word : Bytes) : Taken Binary64 :=
  let text := Text.Utf8.lossy word
  match (List.range (text.length + 1)).reverse.find? fun n => (Binary64.ofText? (text.take n)).isSome with
  | some n =>
    ⟨(Binary64.ofText? (text.take n)).getD (.zero false),
      conversionComplaint word (Text.Utf8.encode (text.drop n))⟩
  | none => ⟨.zero false, conversionComplaint word word⟩

/-! ## Directives -/

/-- How a directive puts out its word. -/
structure Directive where
  left : Bool
  plus : Bool
  space : Bool
  alternate : Bool
  zero : Bool
  width : Nat
  precision : Option Nat
deriving DecidableEq, Repr

/-- A body behind a sign or mark, with blanks around them or zeros between them up to the width. -/
def Directive.place (d : Directive) (zeros : Bool) (mark body : Bytes) : Bytes :=
  let missing := d.width - (mark.length + body.length)
  if d.left then mark ++ body ++ List.replicate missing 0x20
  else if zeros then mark ++ List.replicate missing 0x30 ++ body
  else List.replicate missing 0x20 ++ mark ++ body

/-- A text cut to the precision and put in its field. -/
def Directive.text (d : Directive) (s : Bytes) : Bytes :=
  d.place false [] (match d.precision with
    | some n => s.take n
    | none => s)

/-- The digits of a number in a base. -/
def digitsIn (base : Nat) (upper : Bool) (n : Nat) : Bytes :=
  let ds := Nat.toDigits base n
  bytesOf (String.ofList (if upper then ds.map Char.toUpper else ds))

/-- The sign in front of a number, which may be a space. -/
def signOf (d : Directive) (negative : Bool) : Bytes :=
  if negative then [0x2D] else if d.plus then [0x2B] else if d.space then [0x20] else []

/-- Digits with zeros in front up to the precision; zero has no digits at the precision zero. -/
def Directive.withPrecision (d : Directive) (n : Nat) (digits : Bytes) : Bytes :=
  match d.precision with
  | some 0 => if n = 0 then [] else digits
  | some p => List.replicate (p - digits.length) 0x30 ++ digits
  | none => digits

/-- A number with its sign, in its field. -/
def Directive.signed (d : Directive) (n : Int) : Bytes :=
  d.place (d.zero && d.precision.isNone) (signOf d (n < 0))
    (d.withPrecision n.natAbs (digitsIn 10 false n.natAbs))

/-- A number without a sign in a base, with the mark of the base if the directive asks for it. -/
def Directive.unsigned (d : Directive) (base : Nat) (upper : Bool) (n : Nat) : Bytes :=
  let digits := d.withPrecision n (digitsIn base upper n)
  let digits := if d.alternate ∧ base = 8 ∧ digits.head? ≠ some 0x30 then 0x30 :: digits else digits
  let mark := if d.alternate ∧ base = 16 ∧ n ≠ 0 then bytesOf (if upper then "0X" else "0x") else []
  d.place (d.zero && d.precision.isNone) mark digits

/-- Digits of which the last `places` stand behind a point. -/
def pointed (alternate : Bool) (places n : Nat) : Bytes :=
  let ds := digitsIn 10 false n
  let ds := List.replicate (places + 1 - ds.length) 0x30 ++ ds
  let whole := ds.take (ds.length - places)
  if places = 0 ∧ !alternate then whole else whole ++ 0x2E :: ds.drop (ds.length - places)

/-- A ratio with so many places. -/
def fixedText (alternate : Bool) (places : Nat) (r : Ratio) : Bytes :=
  pointed alternate places (r.scale Ratio.ten_pos places).nearest

/-- The power of ten of the first digit of a ratio, rounded to so many places behind that digit, and its
    digits; zero has the power zero. -/
def rounded (places : Nat) (r : Ratio) : Int × Nat :=
  if r.num = 0 then (0, 0)
  else
    let guess : Int := ((Nat.toDigits 10 r.num).length : Int) - (Nat.toDigits 10 r.den).length
    let atGuess := r.scale Ratio.ten_pos (-guess)
    let e := if atGuess.den ≤ atGuess.num then guess else guess - 1
    let n := (r.scale Ratio.ten_pos (places - e)).nearest
    if n = Nat.pow 10 (places + 1) then (e + 1, n / 10) else (e, n)

/-- A ratio with one digit before the point and a power of ten. -/
def powerText (alternate upper : Bool) (places : Nat) (r : Ratio) : Bytes :=
  let (e, n) := rounded places r
  let ds := digitsIn 10 false e.natAbs
  let ds := List.replicate (2 - ds.length) 0x30 ++ ds
  pointed alternate places n ++ [if upper then 0x45 else 0x65, if e < 0 then 0x2D else 0x2B] ++ ds

/-- A decimal without the zeros at its end, and without its point when nothing is left behind it. -/
def trimZeros (s : Bytes) : Bytes :=
  let (mantissa, power) := (s.takeWhile (· ≠ 0x65), s.dropWhile (· ≠ 0x65))
  if mantissa.contains 0x2E then
    let kept := mantissa.reverse.dropWhile (· = 0x30)
    (if kept.head? = some 0x2E then kept.tail else kept).reverse ++ power
  else s

/-- A ratio in the shorter of the two forms, with so many digits. -/
def generalText (alternate : Bool) (digits : Nat) (r : Ratio) : Bytes :=
  let digits := max digits 1
  let (e, _) := rounded (digits - 1) r
  let text := if -4 ≤ e ∧ e < digits then fixedText alternate (digits - 1 - e).toNat r
    else powerText alternate false (digits - 1) r
  if alternate then text else trimZeros text

/-- A number with a fraction in its field.  Infinities and what is no number have names instead of digits.
    -/
def Directive.real (d : Directive) (conversion : Char) (x : Binary64) : Bytes :=
  let upper := conversion.isUpper
  let named (negative : Bool) (name : String) : Bytes :=
    d.place false (signOf d negative) (bytesOf (if upper then name.map Char.toUpper else name))
  match x with
  | .nan => named false "nan"
  | .infinite negative => named negative "inf"
  | .finite negative significand exponent =>
    let magnitude := Ratio.ofBinary significand exponent
    let places := d.precision.getD 6
    let body := match conversion.toLower with
      | 'f' => fixedText d.alternate places magnitude
      | 'e' => powerText d.alternate upper places magnitude
      | _ =>
        let text := generalText d.alternate places magnitude
        if upper then text.map (fun b => if b = 0x65 then 0x45 else b) else text
    d.place d.zero (signOf d negative) body

/-! ## Formats -/

/-- What a format has put out so far. -/
structure Formatted where
  output : Bytes
  /-- What was wrong with words, the last complaint in front. -/
  complaints : List Bytes
  /-- Why the format ended early. -/
  refusal : Option Bytes
  /-- Whether output has ended. -/
  ended : Bool
  /-- The words that are left. -/
  words : List Bytes

/-- What is written so far, with more behind it. -/
def Formatted.add (f : Formatted) (bytes : Bytes) : Formatted := { f with output := f.output ++ bytes }

/-- Nothing more is written: the text asked for the end, or a directive was refused. -/
def Formatted.isOver (f : Formatted) : Bool := f.ended || f.refusal.isSome

/-- Stops at a directive that there is not. -/
def Formatted.refuse (f : Formatted) (text : Bytes) : Formatted := { f with refusal := some text }

/-- The next word, or nothing. -/
def Formatted.word (f : Formatted) : Bytes := f.words.head?.getD []

/-- Keeps a complaint, if there is one, and goes on. -/
def Formatted.complain (f : Formatted) (complaint : Option Bytes) : Formatted :=
  { f with complaints := complaint.toList ++ f.complaints }

/-- Leaves the next word behind. -/
def Formatted.next (f : Formatted) : Formatted := { f with words := f.words.tail }

/-- The least number of a signed word. -/
def intMin : Int := -9223372036854775808

/-- The greatest number of a signed word. -/
def intMax : Int := 9223372036854775807

/-- The greatest number of a word without a sign. -/
def wordMax : Int := 18446744073709551615

/-- Takes a number for a width or a precision: digits, or a word for a star. -/
def Formatted.measure (f : Formatted) (s : Bytes) : Option Int × Formatted × Bytes :=
  match s with
  | 0x2A :: r =>
    let n := takeInteger intMin intMax f.word
    (some n.value, (f.complain n.complaint).next, r)
  | _ =>
    let ds := s.takeWhile isDecimal
    let n : Nat := ds.foldl (fun (n : Nat) b => 10 * n + (b.toNat - 48)) 0
    (if ds.isEmpty then none else some (n : Int), f, s.drop ds.length)

/-- A directive with its conversion. -/
def Formatted.convert (f : Formatted) (d : Directive) (written : Bytes) (conversion : Char) : Formatted :=
  let integer (low high : Int) (render : Int → Bytes) : Formatted :=
    let n := takeInteger low high f.word
    ((f.complain n.complaint).next).add (render n.value)
  let unsigned (base : Nat) (upper : Bool) : Formatted :=
    integer (-wordMax) wordMax fun n => d.unsigned base upper (n % (wordMax + 1)).toNat
  match conversion with
  | 's' => f.next.add (d.text f.word)
  | 'c' => f.next.add (d.place false [] (if f.word.isEmpty then [0] else f.word.take 1))
  | 'b' =>
    let (text, ended) := unescape f.word
    { f.next.add (d.text text) with ended }
  | 'd' | 'i' => integer intMin intMax d.signed
  | 'u' => unsigned 10 false
  | 'o' => unsigned 8 false
  | 'x' => unsigned 16 false
  | 'X' => unsigned 16 true
  | 'e' | 'E' | 'f' | 'F' | 'g' | 'G' =>
    let x := takeReal f.word
    ((f.complain x.complaint).next).add (d.real conversion x.value)
  | _ => f.refuse (bytesOf "%" ++ written ++ bytesOf ": invalid directive")

/-- A directive behind its percent sign, and the rest of the format. -/
def Formatted.directive (f : Formatted) (s : Bytes) : Formatted × Bytes :=
  let flags := s.takeWhile fun b => (bytesOf "#-+ 0").contains b
  let rest := s.drop flags.length
  let (width, f, rest) := f.measure rest
  let (precision, f, rest) := match rest with
    | 0x2E :: r =>
      let (n, f, r) := f.measure r
      (some (n.getD 0), f, r)
    | _ => (none, f, rest)
  let width := width.getD 0
  let d : Directive :=
    { left := flags.contains 0x2D || width < 0
      plus := flags.contains 0x2B
      space := flags.contains 0x20
      alternate := flags.contains 0x23
      zero := flags.contains 0x30
      width := width.natAbs
      precision := match precision with
        | some n => if n < 0 then none else some n.toNat
        | none => none }
  match rest with
  | [] => (f.refuse (bytesOf "missing format character"), [])
  | c :: r => (f.convert d (s.take (s.length - r.length)) (Char.ofNat c.toNat), r)

/-- One pass over a format. -/
def Formatted.pass : Nat → Bytes → Formatted → Formatted
  | 0, _, f => f
  | _, [], f => f
  | fuel + 1, b :: r, f =>
    if f.isOver then f
    else if b = 0x5C then
      let (out, rest) := escape ⟨false, false⟩ r
      Formatted.pass fuel rest (f.add out)
    else if b ≠ 0x25 then Formatted.pass fuel r (f.add [b])
    else if r.head? = some 0x25 then Formatted.pass fuel r.tail (f.add [b])
    else
      let (f, rest) := f.directive r
      Formatted.pass fuel rest f

/-- A format used again while words are left that it takes. -/
def Formatted.all (format : Bytes) : Nat → Formatted → Formatted
  | 0, f => f
  | fuel + 1, f =>
    let after := Formatted.pass (format.length + 1) format f
    if after.isOver ∨ after.words.isEmpty ∨ after.words.length = f.words.length then after
    else Formatted.all format fuel after

/-- What a format makes of words. -/
def format (form : Bytes) (words : List Bytes) : Formatted :=
  Formatted.all form (words.length + 1) ⟨[], [], none, false, words⟩

end BenchSweep.Machine.Shell
