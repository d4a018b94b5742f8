/-
  Dates and times of a document, and their normalised text.

  A date is `YYYY-MM-DD` and must be one of the calendar; a time is `HH:MM`, perhaps with seconds (up to
  60, for a leap second) and a fraction of any length; a date with a time may have an offset.  The
  normalised text parts date and time with a `T` and always has seconds.  It gives the fraction to nine
  places without the zeros at its end, and no fraction when nothing is left of it; an offset has one form,
  with a zero that is never negative.
-/

namespace BenchSweep.Toml.Dates

/-- The number of `n` digits at the front, and the rest. -/
def number? (n : Nat) (s : List Char) : Option (Nat × List Char) :=
  let ds := s.take n
  if ds.length = n ∧ ds.all Char.isDigit then
    some (ds.foldl (fun k c => 10 * k + (c.toNat - 48)) 0, s.drop n)
  else none

/-- Drops one given character. -/
def expect? (c : Char) : List Char → Option (List Char)
  | d :: r => if d = c then some r else none
  | [] => none

/-- Every fourth year, of full centuries every fourth one. -/
def isLeapYear (year : Nat) : Bool := year % 4 == 0 && (year % 100 != 0 || year % 400 == 0)

/-- How many days a month has. -/
def daysOf (year month : Nat) : Nat :=
  if month = 2 then if isLeapYear year then 29 else 28
  else if month ∈ [4, 6, 9, 11] then 30
  else 31

/-- What stands in front of a rest. -/
def textBefore (s rest : List Char) : List Char := s.take (s.length - rest.length)

/-- A date of the calendar: its text and the rest. -/
def date? (s : List Char) : Option (List Char × List Char) := do
  let (year, r) ← number? 4 s
  let r ← expect? '-' r
  let (month, r) ← number? 2 r
  let r ← expect? '-' r
  let (day, r) ← number? 2 r
  if 1 ≤ month ∧ month ≤ 12 ∧ 1 ≤ day ∧ day ≤ daysOf year month then
    some (textBefore s r, r)
  else none

/-- The fraction of a second to nine places, without zeros at its end; nothing for a zero. -/
def fractionText (ds : List Char) : List Char :=
  match ((ds.take 9).reverse.dropWhile (· = '0')).reverse with
  | [] => []
  | kept => '.' :: kept

/-- The seconds of a time, zero if it has none: their normalised text and the rest. -/
def seconds? (s : List Char) : Option (List Char × List Char) :=
  match s with
  | ':' :: r => do
    let (second, rest) ← number? 2 r
    if 60 < second then none
    match rest with
    | '.' :: r' =>
      let ds := r'.takeWhile Char.isDigit
      if ds = [] then none
      else some (':' :: r.take 2 ++ fractionText ds, r'.dropWhile Char.isDigit)
    | _ => some (':' :: r.take 2, rest)
  | _ => some (":00".toList, s)

/-- A time of the day: its normalised text and the rest. -/
def time? (s : List Char) : Option (List Char × List Char) := do
  let (hour, r) ← number? 2 s
  let r ← expect? ':' r
  let (minute, r) ← number? 2 r
  if 23 < hour ∨ 59 < minute then none
  let (seconds, rest) ← seconds? r
  return (s.take 5 ++ seconds, rest)

/-- An offset from universal time, or nothing: the normalised text. -/
def offset? (s : List Char) : Option (List Char) :=
  match s with
  | [] => some []
  | ['Z'] | ['z'] => some ['Z']
  | sign :: r => do
    if sign ≠ '+' ∧ sign ≠ '-' then none
    let (hour, r') ← number? 2 r
    let r' ← expect? ':' r'
    let (minute, rest) ← number? 2 r'
    if rest ≠ [] ∨ 23 < hour ∨ 59 < minute then none
    if hour = 0 ∧ minute = 0 then return '+' :: r
    return s

/-- The normalised text of a date, a time or both. -/
def read? (s : List Char) : Option (List Char) :=
  match date? s with
  | some (date, []) => some date
  | some (date, c :: r) => do
    if c ≠ 'T' ∧ c ≠ 't' ∧ c ≠ ' ' then none
    let (time, r) ← time? r
    let offset ← offset? r
    return date ++ 'T' :: time ++ offset
  | none =>
    match time? s with
    | some (time, []) => some time
    | _ => none

example : read? "1979-05-27 07:32:00.500Z".toList = some "1979-05-27T07:32:00.5Z".toList := by decide
example : read? "1979-05-27 07:32-00:00".toList = some "1979-05-27T07:32:00+00:00".toList := by decide
example : read? "07:32:05.0000000009".toList = some "07:32:05".toList := by decide
example : read? "2023-02-29".toList = none := by decide

end BenchSweep.Toml.Dates
