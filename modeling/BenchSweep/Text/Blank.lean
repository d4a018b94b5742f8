/-
  Blank characters.

  Names, commands and arguments count a character as blank when it has Unicode's `White_Space`
  property.  The property holds of 25 characters: the controls from tab to carriage return, the
  space, the next-line control, the no-break space and seventeen spaces and separators further up.
-/

namespace BenchSweep.Text

/-- The characters with the property `White_Space`. -/
def isBlank (c : Char) : Bool :=
  let n := c.toNat
  (0x09 ≤ n && n ≤ 0x0D) || n == 0x20 || n == 0x85 || n == 0xA0 || n == 0x1680
    || (0x2000 ≤ n && n ≤ 0x200A) || n == 0x2028 || n == 0x2029 || n == 0x202F || n == 0x205F
    || n == 0x3000

/-- Drops the blanks at both ends. -/
def trim (s : List Char) : List Char :=
  ((s.dropWhile isBlank).reverse.dropWhile isBlank).reverse

example : trim "\u00a0 a b\t\u3000".toList = "a b".toList := by decide

end BenchSweep.Text
