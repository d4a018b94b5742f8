/-
  A request on one line, as logs and dry runs show it.

  The program comes first, as it is; each argument follows after a space.  An argument that could be
  misread stands between single quotes, and a quote inside it is written by leaving the quotes, a
  backslash and a quote, and entering them again.  `words` reads such a line back.
-/
import BenchSweep.Request.Basic

namespace BenchSweep
namespace Request

/-- Whether an argument has to stand between quotes. -/
def needsQuotes (argument : List Char) : Bool :=
  argument.isEmpty || argument.any (fun c => Text.isBlank c || c == '\'' || c == '"')

/-- The characters between the quotes of an argument. -/
def quotedBody (argument : List Char) : List Char :=
  argument.flatMap fun c => if c = '\'' then ['\'', '\\', '\'', '\''] else [c]

/-- An argument as it is shown. -/
def shown (argument : List Char) : List Char :=
  if needsQuotes argument then '\'' :: quotedBody argument ++ ['\''] else argument

/-- The line of a program and its arguments. -/
def line (program : List Char) (arguments : List (List Char)) : List Char :=
  program ++ arguments.flatMap (fun argument => ' ' :: shown argument)

/-- The request on one line. -/
def display (request : Request) : String :=
  String.ofList (line request.program.toList (request.arguments.map String.toList))

/-- Puts a character in front of the first word. -/
def consWord (c : Char) : List (List Char) → List (List Char)
  | [] => [[c]]
  | w :: ws => (c :: w) :: ws

/-- The words of a line.  Outside quotes a single space ends a word, and a backslash before a quote
    stands for the quote; between quotes every character but the quote stands for itself. -/
def words (quoted : Bool) : List Char → List (List Char)
  | [] => [[]]
  | '\'' :: r => words (!quoted) r
  | ' ' :: r => if quoted then consWord ' ' (words quoted r) else [] :: words quoted r
  | '\\' :: '\'' :: r =>
    if quoted then consWord '\\' (words false r) else consWord '\'' (words quoted r)
  | c :: r => consWord c (words quoted r)

example : line "h".toList ["a".toList, [], "it's".toList] = "h a '' 'it'\\''s'".toList := by decide
example : words false "a '' 'it'\\''s'".toList = ["a".toList, [], "it's".toList] := by decide

end Request
end BenchSweep
