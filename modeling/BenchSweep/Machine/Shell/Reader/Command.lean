/-
  Reading commands.

  A command within another one is read by `read`, which is given; so no function here calls itself through
  the others, and what recursion is left goes along the text with a bound on its length.  Every reader gives
  what it has read and the rest of the text.

  Part of the stand-in for the machine (`Machine/System`).
-/
import BenchSweep.Machine.Shell.Reader.Redirect

namespace BenchSweep.Machine.Shell.Reader

/-- The parts of `if` behind its first word, and the rest. -/
def branch? (read : Nested) (source : Source) : Nat → List Char → Option (Command × List Char)
  | 0, _ => none
  | fuel + 1, s => do
    let (condition, r) ← block? read source s
    let r ← expectWord? "then" r
    let (yes, r) ← block? read source r
    let word := String.ofList (plainWord r)
    if word = "elif" then
      let (no, r) ← branch? read source fuel (r.drop 4)
      return (.choice condition yes no, r)
    else if word = "else" then
      let (no, r) ← block? read source (r.drop 4)
      let r ← expectWord? "fi" r
      return (.choice condition yes no, r)
    else
      let r ← expectWord? "fi" r
      -- without `else` nothing is done
      return (.choice condition yes (.sequence []), r)

/-- The parts of a loop between `do` and `done`, and the rest. -/
def loopBody? (read : Nested) (source : Source) (s : List Char) : Option (Command × List Char) := do
  let r ← expectWord? "do" s
  let (body, r) ← block? read source r
  let r ← expectWord? "done" r
  return (body, r)

/-- The parts of `for` behind its first word, and the rest. -/
def each? (read : Nested) (source : Source) (line : Nat) (s : List Char) : Option (Command × List Char) := do
  let s := skipBlanks s
  let name := plainWord s
  if !isName name then none
  let r := s.drop name.length
  -- the words may stand on a line of their own; without `in` the loop goes over the arguments
  let next := skipLines false r
  if plainWord next = "in".toList then
    let (words, r) ← words? read source source.size (next.drop 2)
    match r with
    | ';' :: r | '\n' :: r =>
      let (body, r) ← loopBody? read source r
      return (.each line (String.ofList name) (some words) body, r)
    | _ => none
  else
    let r := match next with
      | ';' :: r => r
      | _ => next
    let (body, r) ← loopBody? read source r
    return (.each line (String.ofList name) none body, r)

/-- The patterns of a branch up to its bracket, and the rest. -/
def patterns? (read : Nested) (source : Source) : Nat → List Char → Option (List Word × List Char)
  | 0, _ => none
  | fuel + 1, s => do
    let (pattern, r) ← word? read source (skipBlanks s)
    if pattern.isEmpty then none
    match skipBlanks r with
    | ')' :: r => return ([pattern], r)
    | '|' :: r =>
      let (more, r) ← patterns? read source fuel r
      return (pattern :: more, r)
    | _ => none

/-- The branches of `case` up to its end, and the rest. -/
def branches? (read : Nested) (source : Source) :
    Nat → List Char → Option (List (List Word × Command) × List Char)
  | 0, _ => none
  | fuel + 1, s =>
    let s := skipLines false s
    if plainWord s = "esac".toList then some ([], s.drop 4)
    else do
      let s := match s with
        | '(' :: r => r
        | _ => s
      let (patterns, r) ← patterns? read source source.size s
      let (body, r) ← list? read source source.size r
      match r with
      | ';' :: ';' :: r =>
        let (more, r) ← branches? read source fuel r
        return ((patterns, .sequence body) :: more, r)
      | _ =>
        let r ← expectWord? "esac" r
        return ([(patterns, .sequence body)], r)

/-- A simple command of which some parts are read, the last of each in front, and the rest. -/
def parts? (read : Nested) (source : Source) : Nat → (line : Nat) → List (String × Word) → List Word →
    List Redirect → List Char → Option (Command × List Char)
  | 0, _, _, _, _, _ => none
  | fuel + 1, line, assignments, words, redirects, s =>
    let s := skipBlanks s
    let isFirst := assignments.isEmpty && words.isEmpty && redirects.isEmpty
    let lineAt (rest : List Char) : Nat := if isFirst then source.lineOf rest else line
    match redirect? read source s with
    | some none => none
    | some (some (redirect, r)) =>
      parts? read source fuel (lineAt r) assignments words (redirect :: redirects) r
    | none =>
      if s.head?.all isDelimiter then
        if isFirst then none
        else some (.simple line assignments.reverse words.reverse redirects.reverse, s)
      else
        -- behind the first word of a command nothing is an assignment any more
        match if words.isEmpty then assignment? s else none with
        | some (name, r) => do
          let (value, r) ← read source (.word (.command true)) r
          parts? read source fuel (lineAt r) ((name, value) :: assignments) words redirects r
        | none => do
          let (word, r) ← word? read source s
          parts? read source fuel (lineAt r) assignments (word :: words) redirects r

/-- The name of a function and its brackets, if its definition begins here, and the rest. -/
def heading? (s : List Char) : Option (String × List Char) :=
  let name := plainWord s
  if isName name ∧ !specialCommands.contains (String.ofList name) then
    match skipBlanks (s.drop name.length) with
    | '(' :: r =>
      match skipBlanks r with
      | ')' :: rest => some (String.ofList name, rest)
      | _ => none
    | _ => none
  else none

/-- A definition of a function or a simple command, and the rest. -/
def simple? (read : Nested) (source : Source) (s : List Char) : Option (Command × List Char) :=
  match heading? s with
  | some (name, r) =>
    (read source .command (skipLines false r)).map fun (body, r) => (.define name body, r)
  | none => parts? read source source.size 0 [] [] [] s

/-- A command that its first word, or an opening bracket, announces, and the rest; none for a command
    without such a word. -/
def compound? (read : Nested) (source : Source) (s : List Char) : Option (Option (Command × List Char)) :=
  let line := source.lineOf s
  let word := String.ofList (plainWord s)
  let after := s.drop word.length
  match s with
  | '(' :: r => some do
    let (body, r) ← block? read source r
    match r with
    | ')' :: r => return (.subshell line body, r)
    | _ => none
  | _ =>
    if word = "if" then some (branch? read source source.size after)
    else if word = "while" ∨ word = "until" then some do
      let (condition, r) ← block? read source after
      let (body, r) ← loopBody? read source r
      return (.loop (word = "while") condition body, r)
    else if word = "for" then some (each? read source line after)
    else if word = "case" then some do
      let (subject, r) ← word? read source (skipBlanks after)
      if subject.isEmpty then none
      let r ← expectWord? "in" r
      let (branches, r) ← branches? read source source.size r
      return (.select line subject branches, r)
    else if word = "\x7b" then some do
      let (body, r) ← block? read source after
      let r ← expectWord? "\x7d" r
      return (body, r)
    -- what closes a command cannot begin one
    else if word = "!" ∨ closers.contains word then some none
    else none

/-- The text with what the name of the first command stands for in its place; it does not stand for that
    again within that. -/
def unaliased (source : Source) (s : List Char) : Source × List Char :=
  let word := plainWord s
  match source.aliases.lookup (String.ofList word) with
  | some value =>
    let others := source.aliases.filter (·.1 ≠ String.ofList word)
    ({ source with aliases := others, size := source.size + value.length },
      skipBlanks (value ++ s.drop word.length))
  | none => (source, s)

/-- One command, and the rest. -/
def command? (read : Nested) (source : Source) (s : List Char) : Option (Command × List Char) :=
  -- once for each alias is enough, since none stands for itself again
  let (source, s) := source.aliases.foldl (fun (source, s) _ => unaliased source s) (source, skipBlanks s)
  match compound? read source s with
  | none => simple? read source s
  | some none => none
  | some (some (c, r)) => do
    match ← redirects? read source source.size r with
    | ([], r) => return (c, r)
    | (rs, r) => return (.redirected (source.lineOf s) c rs, r)

end BenchSweep.Machine.Shell.Reader
