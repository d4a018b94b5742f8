/-
  Text without what steers a terminal.

  `withoutControls` takes out control sequences, from the escape character to the end that their kind has,
  and all single controls but the blank ones.  A blank control is shown even inside a sequence, unless the
  sequence carries a string; with it the text is shown again, up to a control that is not, and there the
  sequence goes on where it was left.

  `firstLine` gives what is seen of a text where only one line is looked at.
-/
import BenchSweep.Text.Utf8

namespace BenchSweep.Text

/-- How far the parameters of a sequence have come. -/
inductive Stage where
  | entry
  | parameter
  | intermediate
  /-- Something is out of place; the end is the same. -/
  | ignored
deriving DecidableEq, Repr

/-- The stage after a character; none after the last one of the sequence. -/
def Stage.next? (stage : Stage) (c : Char) : Option Stage :=
  let n := c.toNat
  if n < 0x20 ∨ 0x7F ≤ n then some stage
  else if 0x40 ≤ n then none
  else match stage with
    | .entry => some (if n < 0x30 then .intermediate else .parameter)
    | .parameter => some (if n < 0x30 then .intermediate else if n < 0x3C then .parameter else .ignored)
    | .intermediate => some (if n < 0x30 then .intermediate else .ignored)
    | .ignored => some .ignored

/-- How far a sequence has come. -/
inductive Sequence where
  /-- There is none. -/
  | ground
  /-- Behind the escape character. -/
  | escape
  /-- Behind the escape character and others that say that one more comes. -/
  | designation
  /-- Behind `ESC [`. -/
  | control (stage : Stage)
  /-- Behind `ESC P`; a string follows the parameters. -/
  | device (stage : Stage)
  /-- Behind `ESC ]`: a string up to the bell. -/
  | command
  /-- A string up to the byte that terminates strings. -/
  | string
deriving DecidableEq, Repr

namespace Sequence

/-- The sequence after a character that is not shown. -/
def next (s : Sequence) (c : Char) : Sequence :=
  let n := c.toNat
  if n = 0x18 ∨ n = 0x1A then ground
  else if n = 0x1B then escape
  else match s with
    | ground => ground
    | escape =>
      if n < 0x20 ∨ 0x7F ≤ n then escape
      else if n < 0x30 then designation
      else if c = '[' then control .entry
      else if c = ']' then command
      else if c = 'P' then device .entry
      else if c = 'X' ∨ c = '^' ∨ c = '_' then string
      else ground
    | designation => if n < 0x30 ∨ 0x7F ≤ n then designation else ground
    | control stage =>
      match stage.next? c with
      | some stage => control stage
      | none => ground
    | device stage =>
      match stage.next? c with
      | none | some .ignored => string
      | some stage => device stage
    | command => if n = 0x07 then ground else command
    | string => if 0x9C ∈ Utf8.encode [c] then ground else string

/-- Whether the sequence carries a string, or is about to. -/
def holdsString : Sequence → Bool
  | device _ | command | string => true
  | _ => false

end Sequence

/-- Tab, line feed, form feed and carriage return. -/
def isBlankControl (c : Char) : Bool := c == '\t' || c == '\n' || c == '\x0c' || c == '\r'

/-- Whether a character is shown where there is no sequence. -/
def isShown (c : Char) : Bool := isBlankControl c || (0x20 ≤ c.toNat && c.toNat ≠ 0x7F)

/-- What is shown of a text behind a beginning of a sequence; while `showing` holds the sequence waits. -/
def shownBehind (showing : Bool) (s : Sequence) : List Char → List Char
  | [] => []
  | c :: r =>
    let shown := isShown c && (showing || s == .ground || (isBlankControl c && !s.holdsString))
    if shown then c :: shownBehind true (if c.toNat < 0x80 then s else .ground) r
    else shownBehind false (s.next c) r

/-- A text without control sequences and controls. -/
def withoutControls (text : String) : String :=
  String.ofList (shownBehind false .ground text.toList)

/-- The first line of a text, without its end, of which a carriage return may be the first half. -/
def firstLine (text : String) : String :=
  let line := text.toList.takeWhile (· ≠ '\n')
  String.ofList (if line.getLast? = some '\r' then line.dropLast else line)

example : withoutControls "a\x1b[1;31mb\x1b]0;title\x07c\x07\n" = "abc\n" := by decide
example : withoutControls "\x1b[\tab\x7f0mc" = "\tabc" := by decide

end BenchSweep.Text
