/-
  Points in time, and their text.

  A moment is a number of seconds since 1970 began, in universal time, and nanoseconds on top of it.  More
  than a second of nanoseconds marks a leap second, which is shown as second 60.  `text` is the form of
  RFC 3339, with as many places of the second as are needed, three at a time, and with a sign in front of
  a year that does not have four digits.
-/

namespace BenchSweep

/-- A point in time. -/
structure Moment where
  /-- Seconds since 1970 began. -/
  seconds : Int
  /-- Nanoseconds after that second began. -/
  nanoseconds : Nat
deriving DecidableEq, Repr, Inhabited

namespace Moment

/-- A second is so many nanoseconds. -/
def nanosecondsPerSecond : Int := 1000000000

/-- The moment that many nanoseconds after 1970 began. -/
def ofNanoseconds (n : Int) : Moment :=
  ⟨n / nanosecondsPerSecond, (n % nanosecondsPerSecond).toNat⟩

/-- A moment is not before another. -/
def le (a b : Moment) : Bool :=
  a.seconds < b.seconds || (a.seconds == b.seconds && a.nanoseconds ≤ b.nanoseconds)

/-- Nanoseconds from one moment to another; none are counted backwards. -/
def nanosecondsTo (a b : Moment) : Nat :=
  ((b.seconds - a.seconds) * nanosecondsPerSecond + (b.nanoseconds : Int) - a.nanoseconds).toNat

/-- A day of the calendar. -/
structure Day where
  year : Int
  month : Nat
  day : Nat
deriving DecidableEq, Repr

/-- The day that is so many days after 1 January 1970.  Years are counted from 1 March here, so that the
    leap day comes last, in eras of 400 years, which have 146097 days. -/
def dayOf (days : Int) : Day :=
  let shifted := days + 719468
  let era := shifted / 146097
  let dayOfEra := (shifted % 146097).toNat
  let yearOfEra := (dayOfEra - dayOfEra / 1460 + dayOfEra / 36524 - dayOfEra / 146096) / 365
  let dayOfYear := dayOfEra - (365 * yearOfEra + yearOfEra / 4 - yearOfEra / 100)
  let shiftedMonth := (5 * dayOfYear + 2) / 153
  let day := dayOfYear - (153 * shiftedMonth + 2) / 5 + 1
  let month := if shiftedMonth < 10 then shiftedMonth + 3 else shiftedMonth - 9
  { year := yearOfEra + era * 400 + (if month ≤ 2 then 1 else 0), month, day }

/-- A number with zeros in front up to a width. -/
def padded (width n : Nat) : String :=
  let ds := Nat.toDigits 10 n
  String.ofList (List.replicate (width - ds.length) '0' ++ ds)

/-- A year has four digits at least, and a sign where it needs one. -/
def yearText (year : Int) : String :=
  if year < 0 then "-" ++ padded 4 year.natAbs
  else if 9999 < year then "+" ++ padded 5 year.natAbs
  else padded 4 year.natAbs

/-- The places of a second, three at a time, and none if there is no need. -/
def fractionText (nanoseconds : Nat) : String :=
  if nanoseconds = 0 then ""
  else if nanoseconds % 1000000 = 0 then "." ++ padded 3 (nanoseconds / 1000000)
  else if nanoseconds % 1000 = 0 then "." ++ padded 6 (nanoseconds / 1000)
  else "." ++ padded 9 nanoseconds

/-- A moment as a date and a time, in UTC. -/
def text (m : Moment) : String :=
  let date := dayOf (m.seconds / 86400)
  let second := (m.seconds % 86400).toNat
  let leap := m.nanoseconds / 1000000000
  yearText date.year ++ "-" ++ padded 2 date.month ++ "-" ++ padded 2 date.day
    ++ "T" ++ padded 2 (second / 3600) ++ ":" ++ padded 2 (second / 60 % 60)
    ++ ":" ++ padded 2 (second % 60 + leap) ++ fractionText (m.nanoseconds % 1000000000) ++ "Z"

example : (⟨1700000000, 500000000⟩ : Moment).text = "2023-11-14T22:13:20.500Z" := by decide +kernel
example : (⟨-62167219201, 0⟩ : Moment).text = "-0001-12-31T23:59:59Z" := by decide +kernel

end Moment
end BenchSweep
