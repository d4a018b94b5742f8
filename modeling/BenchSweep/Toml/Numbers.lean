/-
  Number literals.

  An underscore may stand between two digits and nowhere else.  Decimal numbers have no zeros in front,
  and a sign is theirs alone: a number with a base prefix has none.  A float needs digits on both sides of
  its point.

  In a decimal integer with an underscore only the characters beside the underscores are looked at, and a
  hexadecimal digit will do; the rest may be anything.  What then is no decimal number is one that nothing
  can hold: `1_0x` and `1_a` are read, as overflowing, and `10x` and `1_x` are not.
-/
import BenchSweep.Toml.Strings
import BenchSweep.Toml.Value

namespace BenchSweep.Toml.Numbers

/-- A text without its underscores; none when one stands elsewhere than between two digits. -/
def joined? (isDigit : Char → Bool) : List Char → Option (List Char)
  | [] => some []
  | '_' :: _ => none
  | c :: '_' :: d :: r =>
    if isDigit c ∧ isDigit d then (joined? isDigit (d :: r)).map (c :: ·) else none
  | c :: r => (joined? isDigit r).map (c :: ·)

/-- The digits of a literal without the underscores between them; none when an underscore stands
    elsewhere, or a character is no digit. -/
def digits? (isDigit : Char → Bool) (s : List Char) : Option (List Char) :=
  (joined? isDigit s).filter (·.all isDigit)

/-- At least one decimal digit. -/
def someDigits? (s : List Char) : Option (List Char) :=
  match digits? Char.isDigit s with
  | none | some [] => none
  | some ds => some ds

/-- At least one decimal digit, with no zero in front of others. -/
def whole? (s : List Char) : Option (List Char) :=
  match someDigits? s with
  | some ('0' :: _ :: _) => none
  | ds => ds

/-- The number that digits of a base spell. -/
def ofDigits (base : Nat) (ds : List Char) : Nat :=
  ds.foldl (fun n c => base * n + (Strings.hexValue? c).getD 0) 0

/-- The base of a prefix. -/
def baseOf? : Char → Option Nat
  | 'x' => some 16
  | 'o' => some 8
  | 'b' => some 2
  | _ => none

/-- A digit of a base. -/
def isDigitOf (base : Nat) (c : Char) : Bool :=
  match Strings.hexValue? c with
  | some d => d < base
  | none => false

/-- What follows the prefix of a base. -/
def prefixed? (base : Nat) (s : List Char) : Option Value :=
  (digits? (isDigitOf base) s).map fun ds =>
    if ds = [] then .overflowing .integer else .integer (ofDigits base ds)

/-- The exponent of a float, if it has one. -/
def exponent? : List Char → Option Int
  | [] => some 0
  | e :: r =>
    if e = 'e' ∨ e = 'E' then
      let (negative, s) := Binary64.takeSign r
      (someDigits? s).map fun ds =>
        if negative then -(ofDigits 10 ds : Int) else ofDigits 10 ds
    else none

/-- The float that is nearest to a decimal. -/
def nearestFloat (negative : Bool) (ds : List Char) (k : Int) : Value :=
  match Binary64.ofDecimal negative (ofDigits 10 ds) k with
  | .infinite _ => .overflowing .float
  | x => .float x

/-- A float without its sign. -/
def float? (negative : Bool) (s : List Char) : Option Value := do
  let isWhole (c : Char) : Bool := c.isDigit || c == '_'
  let whole ← whole? (s.takeWhile isWhole)
  match s.dropWhile isWhole with
  | '.' :: r =>
    let fraction ← someDigits? (r.takeWhile isWhole)
    let k ← exponent? (r.dropWhile isWhole)
    return nearestFloat negative (whole ++ fraction) (k - fraction.length)
  | r =>
    let k ← exponent? r
    return nearestFloat negative whole k

/-- Whether a text is digits, or goes on behind them with an underscore. -/
def isGrouped (s : List Char) : Bool :=
  match s.dropWhile Char.isDigit with
  | [] | '_' :: _ => true
  | _ => false

/-- An integer without its sign. -/
def integer? (negative : Bool) (s : List Char) : Option Value := do
  if !isGrouped s then none
  match ← joined? (isDigitOf 16) s with
  | [] | '0' :: _ :: _ => none
  | text =>
    if text.all Char.isDigit then
      return .integer (if negative then -(ofDigits 10 text : Int) else ofDigits 10 text)
    else return .overflowing .integer

/-- A decimal number without its sign. -/
def unsigned? (negative : Bool) (s : List Char) : Option Value :=
  if s.any (fun c => c == '.' || c == 'e' || c == 'E') then float? negative s
  else integer? negative s

/-- The value of a number literal. -/
def read? (s : List Char) : Option Value :=
  match s with
  | '0' :: c :: r =>
    match baseOf? c with
    | some base => prefixed? base r
    | none => unsigned? false s
  | _ =>
    let (negative, r) := Binary64.takeSign s
    if r = "inf".toList then some (.float (.infinite negative))
    else if r = "nan".toList then some (.float .nan)
    else unsigned? negative r

end BenchSweep.Toml.Numbers
