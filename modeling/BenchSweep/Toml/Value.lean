/-
  What a TOML document says.

  A document is a table; its keys stand in ascending order.  Numbers are as large as they were written:
  whether one fits is for the one who asks for it.  A number literal that denotes nothing the format can
  hold (a float past the greatest one, a base prefix without digits) is kept as `overflowing`.
-/
import BenchSweep.Number.Binary64

namespace BenchSweep.Toml

/-- The kinds of numbers. -/
inductive NumberKind where
  | integer
  | float
deriving DecidableEq, Repr

/-- A value of a document. -/
inductive Value where
  | string (text : String)
  | integer (n : Int)
  | float (x : Binary64)
  /-- A number literal that is well formed but too large. -/
  | overflowing (kind : NumberKind)
  | boolean (b : Bool)
  /-- A date, a time or both, as normalised text. -/
  | date (text : String)
  | array (items : List Value)
  | table (entries : List (String × Value))
deriving Repr, Inhabited

end BenchSweep.Toml
