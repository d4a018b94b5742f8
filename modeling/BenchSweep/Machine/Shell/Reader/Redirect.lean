/-
  Reading redirections.

  A document in the script stands behind the line that asks for it.  It is taken out of the text where it
  is asked for, and continued lines are left in its place, so that lines keep their numbers.

  Part of the stand-in for the machine (`Machine/System`).
-/
import BenchSweep.Machine.Shell.Reader.Word

namespace BenchSweep.Machine.Shell.Reader

/-- The lines of a document up to the one that ends it, and the lines behind that one. -/
def documentLines (tabs : Bool) (ending : List Char) : List (List Char) → List (List Char) × List (List Char)
  | [] => ([], [])
  | line :: rest =>
    let line := if tabs then line.dropWhile (· = '\t') else line
    if line = ending then ([], rest)
    else
      let (document, after) := documentLines tabs ending rest
      (line :: document, after)

/-- The lines of a text; a line end at the very end begins no line. -/
def linesOf : List Char → List (List Char)
  | [] => []
  | '\n' :: r => [] :: linesOf r
  | c :: r =>
    match linesOf r with
    | l :: ls => (c :: l) :: ls
    | [] => [[c]]

/-- What is left of a line, over line ends with a backslash before them, and what stands behind its end. -/
def restOfLine : List Char → List Char × List Char
  | [] => ([], [])
  | '\n' :: r => ([], r)
  | '\\' :: '\n' :: r =>
    let (line, below) := restOfLine r
    ('\\' :: '\n' :: line, below)
  | c :: r =>
    let (line, below) := restOfLine r
    (c :: line, below)

/-- The word that ends a document: without quotes, and whether it had some. -/
def documentEnding (raw : List Char) : List Char × Bool :=
  let isQuote (c : Char) : Bool := c = '\'' || c = '"' || c = '\\'
  (raw.filter fun c => !isQuote c, raw.any isQuote)

/-- A document, of which the mark is read: its content, and the rest without it. -/
def document? (read : Nested) (source : Source) (tabs : Bool) (s : List Char) :
    Option (Word × List Char) := do
  let s := skipBlanks s
  let (word, r) ← word? read source s
  if word.isEmpty then none
  let (ending, literal) := documentEnding (s.take (s.length - r.length))
  let (line, below) := restOfLine r
  let below := linesOf below
  let (document, after) := documentLines tabs ending below
  let content := document.flatMap (· ++ ['\n'])
  let taken := below.length - after.length
  let padding := ' ' :: (List.replicate taken ['\\', '\n']).flatten
  let rest := line ++ padding ++ '\n' :: after.flatMap (· ++ ['\n'])
  let content ← if literal then some [Piece.text (Text.Utf8.encode content) true]
    else (read (Source.of source.aliases content) (.word .document) content).map Prod.fst
  return (content, rest)

/-- The number of the stream of a redirection, if one is given, and the rest. -/
def streamNumber (s : List Char) : Option Nat × List Char :=
  match s with
  | c :: r =>
    if c.isDigit ∧ r.head?.any (fun d => d = '<' || d = '>') then (some (c.toNat - 48), r) else (none, s)
  | [] => (none, s)

/-- Whether a word can name a stream: a digit, a dash, or something that is known later. -/
def canNameStream (word : Word) : Bool :=
  let texts := word.filterMap fun
    | .text bytes _ => some bytes
    | _ => none
  if texts.length < word.length then true
  else match texts.flatten with
    | [b] => b = 0x2D || (0x30 ≤ b && b ≤ 0x39)
    | _ => false

/-- A redirection, if one begins here, and the rest; none inside when it is not well-formed. -/
def redirect? (read : Nested) (source : Source) (s : List Char) : Option (Option (Redirect × List Char)) :=
  let (stream, r) := streamNumber s
  let target (redirect : Word → Redirect) (r : List Char) : Option (Option (Redirect × List Char)) :=
    some do
      let (word, rest) ← word? read source (skipBlanks r)
      if word.isEmpty then none else return (redirect word, rest)
  let sameTarget (stream : Nat) (r : List Char) : Option (Option (Redirect × List Char)) :=
    some do
      let (word, rest) ← word? read source (skipBlanks r)
      if canNameStream word then return (.same stream word, rest) else none
  let document (tabs : Bool) (r : List Char) : Option (Option (Redirect × List Char)) :=
    some ((document? read source tabs r).map fun (content, rest) =>
      (.document (stream.getD 0) content, rest))
  match r with
  | '>' :: '>' :: r => target (.file (stream.getD 1) .append) r
  | '>' :: '&' :: r => sameTarget (stream.getD 1) r
  | '>' :: '|' :: r => target (.file (stream.getD 1) (.replace true)) r
  | '>' :: r => target (.file (stream.getD 1) (.replace false)) r
  | '<' :: '<' :: '-' :: r => document true r
  | '<' :: '<' :: r => document false r
  | '<' :: '&' :: r => sameTarget (stream.getD 0) r
  | '<' :: '>' :: r => target (.file (stream.getD 0) .update) r
  | '<' :: r => target (.file (stream.getD 0) .input) r
  | _ => none

/-- Redirections, and the rest. -/
def redirects? (read : Nested) (source : Source) : Nat → List Char → Option (List Redirect × List Char)
  | 0, _ => none
  | fuel + 1, s =>
    match redirect? read source (skipBlanks s) with
    | none => some ([], s)
    | some none => none
    | some (some (redirect, r)) =>
      (redirects? read source fuel r).map fun (more, r) => (redirect :: more, r)

end BenchSweep.Machine.Shell.Reader
