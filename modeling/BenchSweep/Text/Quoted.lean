/-
  Text between quotation marks, as messages cite it.

  A quote or a backslash inside has a backslash in front; tab, line feed, carriage return and the null
  character have a letter or digit of their own; every other hidden character is given by the number of
  its code point in hexadecimal, between braces.
-/
import BenchSweep.Text.Hidden

namespace BenchSweep.Text

/-- A character as a quotation shows it. -/
def quotedChar (c : Char) : List Char :=
  if c = '"' ∨ c = '\\' then ['\\', c]
  else if c = '\t' then ['\\', 't']
  else if c = '\n' then ['\\', 'n']
  else if c = '\r' then ['\\', 'r']
  else if c = Char.ofNat 0 then ['\\', '0']
  else if isHidden c then '\\' :: 'u' :: '\x7b' :: Nat.toDigits 16 c.toNat ++ ['\x7d']
  else [c]

/-- A text between quotation marks. -/
def quoted (s : String) : String := String.ofList ('"' :: s.toList.flatMap quotedChar ++ ['"'])

end BenchSweep.Text
