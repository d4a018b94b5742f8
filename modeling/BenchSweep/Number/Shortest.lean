/-
  The shortest decimal of a floating-point number, and two ways to write it.

  A decimal reads back as a number when it lies in the interval of reals that round to it; the ends
  belong to the interval when the significand is even.  `shortest` tries grids of one digit, two digits
  and so on: the first grid with a point in the interval wins, and of two such points the nearer one.
  When both are equally near, a `Tie` says which one it is.  Seventeen digits are enough for every number.

  `positional` writes all digits out, however many zeros that takes, and a tie goes away from zero;
  `scientific` goes over to a power of ten for very small and very large numbers, and a tie goes to the
  even digit.
-/
import BenchSweep.Number.Binary64

namespace BenchSweep
namespace Binary64

/-- The reals that round to a number: its value, the ends, and whether the ends belong to it. -/
structure Interval where
  value : Ratio
  low : Ratio
  high : Ratio
  closed : Bool

/-- The interval of `significand * 2 ^ exponent`.  Below a power of two the numbers lie twice as close,
    so the lower end is nearer there. -/
def interval (significand : Nat) (exponent : Int) : Interval :=
  let below := if significand = leastNormal ∧ minExponent < exponent then 1 else 2
  { value := .ofBinary (4 * significand) (exponent - 2)
    low := .ofBinary (4 * significand - below) (exponent - 2)
    high := .ofBinary (4 * significand + 2) (exponent - 2)
    closed := significand % 2 = 0 }

/-- Whether a ratio lies in an interval, with its ends or without them. -/
def Interval.contains (i : Interval) (r : Ratio) : Bool :=
  if i.closed then i.low.le r && r.le i.high else i.low.lt r && r.lt i.high

/-- How many digits stand in front of the point; zeros behind the point count below zero. -/
def pointOf (value : Ratio) : Int :=
  let guess : Int := value.floorLog2 * 30103 / 100000
  if (Ratio.ofDecimal 1 (guess + 1)).le value then guess + 2
  else if (Ratio.ofDecimal 1 guess).le value then guess + 1
  else guess

/-- Which of two equally near decimals is taken. -/
inductive Tie where
  | toEven
  | awayFromZero
deriving DecidableEq, Repr

/-- The point of the grid `10 ^ k` that reads back and is nearest to the value. -/
def Interval.pick? (i : Interval) (tie : Tie) (k : Int) : Option Nat :=
  let scaled := i.value.scale Ratio.ten_pos (-k)
  let below := scaled.num / scaled.den
  let rest := scaled.num % scaled.den
  let nearBelow := 2 * rest < scaled.den ∨ 2 * rest = scaled.den ∧ tie = .toEven ∧ below % 2 = 0
  match i.contains (.ofDecimal below k), i.contains (.ofDecimal (below + 1) k) with
  | true, true => some (if nearBelow then below else below + 1)
  | true, false => some below
  | false, true => some (below + 1)
  | false, false => none

/-- A decimal number, its digits without zeros at either end and how many of them stand in front of the
    point. -/
structure Digits where
  digits : List Char
  point : Int
deriving DecidableEq, Repr

/-- The digits of `n * 10 ^ k`. -/
def Digits.ofDecimal (n : Nat) (k : Int) : Digits :=
  let ds := Nat.toDigits 10 n
  ⟨(ds.reverse.dropWhile (· = '0')).reverse, ds.length + k⟩

/-- The shortest decimal that reads back as `significand * 2 ^ exponent`, for a positive number. -/
def shortest (tie : Tie) (significand : Nat) (exponent : Int) : Digits :=
  let i := interval significand exponent
  let point := pointOf i.value
  match (List.range 17).findSome? fun (n : Nat) =>
      (i.pick? tie (point - (n + 1))).map fun d => Digits.ofDecimal d (point - (n + 1)) with
  | some digits => digits
  | none => ⟨[], 0⟩

/-- All digits of a decimal with the point in its place, and at least one digit on either side. -/
def Digits.positional (d : Digits) : List Char :=
  if d.point ≤ 0 then '0' :: '.' :: (List.replicate (-d.point).toNat '0' ++ d.digits)
  else
    let point := d.point.toNat
    if d.digits.length ≤ point then
      d.digits ++ List.replicate (point - d.digits.length) '0' ++ ['.', '0']
    else d.digits.take point ++ '.' :: d.digits.drop point

/-- One digit in front of the point, and a power of ten with its sign. -/
def Digits.withPower (d : Digits) : List Char :=
  let power := d.point - 1
  d.digits.take 1 ++ (if d.digits.length ≤ 1 then [] else '.' :: d.digits.drop 1)
    ++ 'e' :: (if power < 0 then '-' else '+') :: Nat.toDigits 10 power.natAbs

/-- The sign that is written, if any. -/
def signText (negative : Bool) : List Char := if negative then ['-'] else []

/-- A number without a power of ten: `0.1`, `-0.0`, `12000000000000000000.0`, `NaN`, `inf`. -/
def positional : Binary64 → String
  | .nan => "NaN"
  | .infinite negative => String.ofList (signText negative ++ "inf".toList)
  | .finite negative significand exponent =>
    String.ofList (signText negative ++
      if significand = 0 then "0.0".toList else (shortest .awayFromZero significand exponent).positional)

/-- A finite number in positional form from 0.00001 up to 10 ^ 16, and with a power of ten outside. -/
def scientific : Binary64 → Option String
  | .nan => none
  | .infinite _ => none
  | .finite negative significand exponent =>
    let body :=
      if significand = 0 then "0.0".toList
      else
        let d := shortest .toEven significand exponent
        if -5 < d.point ∧ d.point ≤ 16 then d.positional else d.withPower
    some (String.ofList (signText negative ++ body))

example : (ofText? "0.1".toList).map positional = some "0.1" := by decide +kernel
example : (ofText? "5e-324".toList).bind scientific = some "5e-324" := by decide +kernel
example : (ofText? "12345678901234567890".toList).map positional = some "12345678901234567000.0" := by
  decide +kernel
example : (ofText? "2.98023223876953125e-8".toList).map positional =
    some "0.000000029802322387695313" := by decide +kernel
example : (ofText? "2.98023223876953125e-8".toList).bind scientific =
    some "2.9802322387695312e-8" := by decide +kernel
example : (ofText? "1e16".toList).bind scientific = some "1e+16" := by decide +kernel

end Binary64
end BenchSweep
