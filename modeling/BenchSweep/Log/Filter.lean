/-
  The filter that lets some lines of the log through.

  A filter is a list of directives between commas.  A directive is a level, or has a target and perhaps a
  level behind `=`; between brackets it may name a span, and a field between braces.  The most specific
  directive that covers a line decides about it: the one with the longest target, then the one with a
  field.  A line that no directive covers is left out.

  No line is written inside a span, so a directive that is for a span, or for a value of a field, covers
  none.  Blanks around a directive are no part of it, but what is cut out of it is cut as many characters
  too early as blanks stand in front, and ends where the text with the blanks ends; so ` info` is a target
  and `a=warn ` is no directive.
-/
import BenchSweep.Log.Basic
import BenchSweep.Text.Alphanumeric
import BenchSweep.Text.Blank
import BenchSweep.Text.Split

namespace BenchSweep.Log

/-- Lets lines through up to a rank. -/
structure Directive where
  /-- What the targets of the lines begin with; empty for all. -/
  target : String
  /-- A field that the lines have. -/
  field : Option String
  rank : Nat
deriving DecidableEq, Repr

/-! ## Reading -/

/-- The rank up to which a level, by its name or its number, lets lines through; `off` lets none. -/
def rank? (text : List Char) : Option Nat :=
  let digits := match text with
    | '+' :: r => r
    | r => r
  if digits ≠ [] ∧ digits.all Char.isDigit then
    let n := digits.foldl (fun n c => 10 * n + (c.toNat - 48)) 0
    if n ≤ 5 then some n else none
  else
    ["off", "error", "warn", "info", "debug", "trace"].findIdx? (·.toList = text.map Char.toLower)

/-- The rank that lets all lines through. -/
def fullRank : Nat := 5

namespace Directive

/-- A directive, and the same text without the blanks around it. -/
structure Source where
  text : List Char
  trimmed : List Char

namespace Source

/-- What is cut out between two places of the trimmed text. -/
def cut (s : Source) (start stop : Nat) : List Char := (s.text.drop start).take (stop - start)

/-- The level behind a place; without one all lines are let through. -/
def rankFrom? (s : Source) (start : Nat) : Option Nat :=
  match s.text.drop start with
  | [] => some fullRank
  | level => rank? level

/-- The first place from `start` on with one of the characters, and the character. -/
def next? (s : Source) (marks : List Char) (start : Nat) : Option (Nat × Char) :=
  let rest := s.trimmed.drop start
  let before := rest.takeWhile (fun c => !marks.contains c)
  (rest[before.length]?).map (start + before.length, ·)

/-- The level that follows a closing bracket, from the place behind it on; there may be none. -/
def afterBracket? (s : Source) (start : Nat) : Option Nat :=
  match s.trimmed.drop start with
  | [] => some fullRank
  | c :: _ => if c = '=' then s.rankFrom? (start + 1) else none

end Source

/-- The rest of a directive with a span or a field, from behind its first bracket; the directives that it
    comes to, which are none when it covers no line. -/
def readBracket? (s : Source) (target : List Char) (start : Nat) : Option (List Directive) := do
  match ← s.next? [']', '\x7b'] start with
  | (stop, ']') =>
    let _ ← s.afterBracket? (stop + 1)
    return []
  | (opening, _) =>
    let (closing, _) ← s.next? ['\x7d'] (opening + 1)
    let field := s.cut (opening + 1) closing
    if field = [] ∨ s.trimmed[closing + 1]? ≠ some ']' then none
    let rank ← s.afterBracket? (closing + 2)
    if s.cut start opening ≠ [] ∨ field.contains '=' then return []
    return [⟨String.ofList target, some (String.ofList field), rank⟩]

/-- The characters with which a target may start. -/
def startsTarget (c : Char) : Bool := c == '-' || c == ':' || c == '_' || Text.isAlphanumeric c

/-- The directives that a text comes to. -/
def read? (text : List Char) : Option (List Directive) :=
  let s : Source := ⟨text, Text.trim text⟩
  match s.trimmed with
  | [] => none
  | '[' :: _ => readBracket? s [] 1
  | c :: _ =>
    if !startsTarget c then none
    else match s.next? ['=', '['] 0 with
      | none =>
        match rank? text with
        | some rank => some [⟨"", none, rank⟩]
        | none => some [⟨String.ofList text, none, fullRank⟩]
      | some (stop, '=') =>
        (s.rankFrom? (stop + 1)).map fun rank => [⟨String.ofList (s.cut 0 stop), none, rank⟩]
      | some (stop, _) => readBracket? s (s.cut 0 stop) (stop + 1)

end Directive

/-- The directives between commas; empty texts are left out. -/
def directives? (text : String) : Option (List Directive) :=
  (((List.splitOn ',' text.toList).filter (· ≠ [])).mapM Directive.read?).map List.flatten

/-! ## Settings -/

/-- The lines that the program lets through by itself. -/
def usual : List Directive := [⟨"parsweep_core", none, 3⟩, ⟨"parsweep", none, 3⟩]

/-- A setting that only asks for logs says no more than the usual filter. -/
def isPlainRequest (setting : List Char) : Bool :=
  let word := setting.map Char.toLower
  word = [] || word = "1".toList || word = "true".toList || word = "on".toList

/-- The filter that two settings ask for; the first one counts unless it only asks for logs. -/
def filterOf (own general : Option String) : List Directive :=
  let chosen := match own.map (fun text => Text.trim text.toList) with
    | some setting => if isPlainRequest setting then general else some (String.ofList setting)
    | none => general
  match chosen.bind directives? with
  | some directives => directives
  | none => usual

/-! ## Filtering -/

/-- Whether a directive is for a line. -/
def Directive.covers (d : Directive) (event : Event) : Bool :=
  d.target.toList.isPrefixOf event.target.toList && d.field.all event.hasField

/-- Whether the first of two directives is not more specific than the second.  Of two that differ in their
    field only, the one with the greater name counts as the more specific. -/
def Directive.notAbove (a b : Directive) : Bool :=
  if a.target.length ≠ b.target.length then a.target.length < b.target.length
  else match a.field, b.field with
    | none, _ => true
    | some _, none => false
    | some f, some g => !(g < f)

/-- The directive that decides about a line: the most specific one, and of equals the last. -/
def directiveFor (filter : List Directive) (event : Event) : Option Directive :=
  (filter.filter (·.covers event)).foldl (fun best d =>
    match best with
    | some b => if b.notAbove d then some d else some b
    | none => some d) none

/-- Whether a line is let through. -/
def passes (filter : List Directive) (event : Event) : Bool :=
  match directiveFor filter event with
  | some d => event.level.rank ≤ d.rank
  | none => false

example : directives? "a=+4,b= ,warn" = none ∧
    directives? "a=+4, info" = some [⟨"a", none, 4⟩, ⟨" info", none, 5⟩] := by decide +kernel

end BenchSweep.Log
