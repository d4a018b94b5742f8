/-
  Characters and names in scripts, and what is read.

  A reader takes what it needs from the front of the text and returns the rest; a text that is none of what
  is wanted gives none.  Words hold commands and commands hold words; a function that meets what is nested
  takes the reader of that as an argument.

  Part of the stand-in for the machine (`Machine/System`).
-/
import BenchSweep.Machine.Shell.Script

namespace BenchSweep.Machine.Shell.Reader

/-! ## Characters and blanks -/

/-- A space or a tab. -/
def isBlank (c : Char) : Bool := c == ' ' || c == '\t'

/-- The characters that end a word. -/
def isDelimiter (c : Char) : Bool := isBlank c || c == '\n' || "&|;<>()".toList.contains c

/-- A character with which a name may begin. -/
def isNameStart (c : Char) : Bool := c.isAlpha || c == '_'

/-- A character that may stand in a name. -/
def isNameChar (c : Char) : Bool := c.isAlphanum || c == '_'

/-- The characters that are the name of a parameter by themselves. -/
def isSpecial (c : Char) : Bool := c.isDigit || "@*#?$!-".toList.contains c

/-- Names of variables and functions. -/
def isName (s : List Char) : Bool := s.head?.any isNameStart && s.all isNameChar

/-- The commands that belong to the language itself; no function has the name of one. -/
def specialCommands : List String :=
  [".", ":", "break", "continue", "eval", "exec", "exit", "export", "local", "readonly", "return", "set",
    "shift", "times", "trap", "unset"]

/-- Drops blanks, line ends with a backslash before them, and a comment. -/
def skipBlanks : List Char → List Char
  | '\\' :: '\n' :: r => skipBlanks r
  | c :: r =>
    if isBlank c then skipBlanks r
    else if c = '#' then (c :: r).dropWhile (· ≠ '\n')
    else c :: r
  | [] => []

/-- Drops blanks, line ends and comments. -/
def skipLines (comment : Bool) : List Char → List Char
  | [] => []
  | '\n' :: r => skipLines false r
  | '\\' :: '\n' :: r => skipLines comment r
  | c :: r =>
    if comment || c = '#' then skipLines true r
    else if isBlank c then skipLines false r
    else c :: r

/-- The word at the front as far as it is plain. -/
def plainWord (s : List Char) : List Char := s.takeWhile fun c => !isDelimiter c

/-- Takes one given word. -/
def expectWord? (word : String) (s : List Char) : Option (List Char) :=
  let s := skipLines false s
  if plainWord s = word.toList then some (s.drop word.length) else none

/-- The words that end a list of commands. -/
def closers : List String := ["then", "else", "elif", "fi", "do", "done", "esac", "\x7d"]

/-- Whether a list of commands is at its end. -/
def endsList (s : List Char) : Bool :=
  match s with
  | [] => true
  | ')' :: _ => true
  | ';' :: ';' :: _ => true
  | _ => closers.contains (String.ofList (plainWord s))

/-! ## What is read -/

/-- Where a word stands, which decides where it ends and what is special in it. -/
inductive Place where
  /-- Among the words of a command, or as the value of an assignment. -/
  | command (value : Bool)
  /-- Between quotation marks. -/
  | quotes
  /-- Behind the name of a parameter, up to a closing brace. -/
  | braces (quoted : Bool)
  /-- In a document. -/
  | document
  /-- Up to two closing brackets. -/
  | arithmetic
deriving DecidableEq

/-- Whether pieces there count as quoted. -/
def Place.isQuoted : Place → Bool
  | .command _ => false
  | .braces quoted => quoted
  | .quotes | .document | .arithmetic => true

/-- Whether a word ends before a character, with no bracket open. -/
def Place.endsAt : Place → Char → List Char → Bool
  | .command _, c, _ => isDelimiter c
  | .quotes, c, _ => c = '"'
  | .braces _, c, _ => c = '}'
  | .document, _, _ => false
  | .arithmetic, c, r => c = ')' && r.head? = some ')'

/-- Whether a word may end with the text. -/
def Place.endsWithText : Place → Bool
  | .command _ | .document => true
  | _ => false

/-- The characters before which a backslash between quotes vanishes. -/
def Place.escapes : Place → List Char
  | .document => ['\\', '\x60', '$']
  | .braces _ => ['\\', '\x60', '$', '"', '}']
  | _ => ['\\', '\x60', '$', '"']

/-- What is wanted. -/
inductive Goal where
  | word (place : Place)
  | command

/-- What is read for it. -/
abbrev Goal.Result : Goal → Type
  | .word _ => Word
  | .command => Command

/-- The text that is read: how many line ends it has, a bound on the steps through it, and the texts for
    which names of commands stand in it. -/
structure Source where
  lines : Nat
  size : Nat
  aliases : List (String × List Char)

/-- The source of a whole text. -/
def Source.of (aliases : List (String × List Char)) (s : List Char) : Source :=
  ⟨s.count '\n', s.length + 1, aliases⟩

/-- The number of the line on which the rest of a text begins. -/
def Source.lineOf (source : Source) (rest : List Char) : Nat := source.lines - rest.count '\n' + 1

/-- A reader of what is nested. -/
abbrev Nested := Source → (goal : Goal) → List Char → Option (goal.Result × List Char)

end BenchSweep.Machine.Shell.Reader
