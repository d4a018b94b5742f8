/-
  Reading words, with the lists of commands that stand within them.

  Part of the stand-in for the machine (`Machine/System`).
-/
import BenchSweep.Machine.Shell.Reader.Basic

namespace BenchSweep.Machine.Shell.Reader

/-! ## Parameters

  Behind a dollar sign stands a name, or braces with a name and what is done with its value.  A word within
  the braces ends at their closing one. -/

/-- The name of a parameter behind a dollar sign, and the rest. -/
def parameterName? (s : List Char) : Option (String × List Char) :=
  match s with
  | [] => none
  | c :: r =>
    if isNameStart c then
      some (String.ofList (s.takeWhile isNameChar), s.dropWhile isNameChar)
    else if isSpecial c then some (String.ofList [c], r)
    else none

/-- The name of a parameter between braces, where a number may have several digits. -/
def bracedName? (s : List Char) : Option (String × List Char) :=
  if s.head?.any Char.isDigit then
    some (String.ofList (s.takeWhile Char.isDigit), s.dropWhile Char.isDigit)
  else parameterName? s

/-- A parameter between braces whose length is wanted: behind the sign for it stand a name and the end. -/
def measured? (s : List Char) : Option (String × List Char) :=
  match s with
  | '#' :: r =>
    match bracedName? r with
    | some (name, '}' :: rest) => some (name, rest)
    | _ => none
  | _ => none

/-- What is done with a parameter of which the name is read, up to the closing brace. -/
def edit? (read : Nested) (source : Source) (quoted : Bool) (s : List Char) :
    Option (Edit × List Char) :=
  let finish (inside : Bool) (edit : Word → Edit) (r : List Char) : Option (Edit × List Char) :=
    match read source (.word (.braces inside)) r with
    | some (word, '}' :: rest) => some (edit word, rest)
    | _ => none
  match s with
  | '}' :: rest => some (.keep, rest)
  | ':' :: '-' :: r => finish quoted (.orElse true) r
  | '-' :: r => finish quoted (.orElse false) r
  | ':' :: '=' :: r => finish quoted (.assign true) r
  | '=' :: r => finish quoted (.assign false) r
  | ':' :: '?' :: r => finish quoted (.require true) r
  | '?' :: r => finish quoted (.require false) r
  | ':' :: '+' :: r => finish quoted (.ifGiven true) r
  | '+' :: r => finish quoted (.ifGiven false) r
  -- patterns are not quoted by the quotes around the whole
  | '#' :: '#' :: r => finish false (.cutFront true) r
  | '#' :: r => finish false (.cutFront false) r
  | '%' :: '%' :: r => finish false (.cutBack true) r
  | '%' :: r => finish false (.cutBack false) r
  | r => finish quoted (fun _ => .unknown) r

/-- A parameter behind a dollar sign and a brace. -/
def braced? (read : Nested) (source : Source) (quoted : Bool) (s : List Char) :
    Option (Piece × List Char) :=
  match measured? s with
  | some (name, rest) => some (.parameter name .length quoted, rest)
  | none =>
    let (name, r) := (bracedName? s).getD ("", s)
    match edit? read source quoted r with
    | some (edit, rest) => some (.parameter name (if name = "" then .unknown else edit) quoted, rest)
    | none => none

/-! ## Lists of commands

  Lists are made of chains, chains of pipelines, and pipelines of commands; a single command is read by
  `read`.  Where a list ends is decided by what follows, which is left to whoever reads the list. -/

/-- Commands between `|`, and the rest. -/
def pipes? (read : Nested) (source : Source) : Nat → List Char → Option (List Command × List Char)
  | 0, _ => none
  | fuel + 1, s => do
    let (c, r) ← read source .command s
    match skipBlanks r with
    | '|' :: '|' :: _ => return ([c], r)
    | '|' :: r =>
      let (cs, r) ← pipes? read source fuel (skipLines false r)
      return (c :: cs, r)
    | _ => return ([c], r)

/-- A pipeline, and the rest. -/
def pipeline? (read : Nested) (source : Source) (s : List Char) : Option (Command × List Char) := do
  let s := skipBlanks s
  let negated := plainWord s = ['!']
  let (cs, r) ← pipes? read source source.size (if negated then skipBlanks s.tail else s)
  let command : Command := match cs with
    | [c] => c
    | cs => .piped cs
  return (if negated then .negated command else command, r)

/-- What is linked to a command by `&&` and `||`, and the rest. -/
def links? (read : Nested) (source : Source) : Nat → Command → List Char → Option (Command × List Char)
  | 0, _, _ => none
  | fuel + 1, c, s =>
    match skipBlanks s with
    | '&' :: '&' :: r => do
      let (d, r) ← pipeline? read source (skipLines false r)
      links? read source fuel (.both c d) r
    | '|' :: '|' :: r => do
      let (d, r) ← pipeline? read source (skipLines false r)
      links? read source fuel (.either c d) r
    | r => some (c, r)

/-- Pipelines between `&&` and `||`, and the rest. -/
def chain? (read : Nested) (source : Source) (s : List Char) : Option (Command × List Char) := do
  let (c, r) ← pipeline? read source s
  links? read source source.size c r

/-- Commands up to something that ends a list, and the rest. -/
def list? (read : Nested) (source : Source) : Nat → List Char → Option (List Command × List Char)
  | 0, _ => none
  | fuel + 1, s =>
    let s := skipLines false s
    if endsList s then some ([], s)
    else do
      let (c, r) ← chain? read source s
      let goOn (c : Command) (r : List Char) : Option (List Command × List Char) :=
        (list? read source fuel r).map fun (cs, r) => (c :: cs, r)
      match r with
      | ';' :: ';' :: _ => return ([c], r)
      | ';' :: r => goOn c r
      | '&' :: r => goOn (.background c) r
      | '\n' :: r => goOn c r
      | _ => return ([c], r)

/-- Commands, at least one, up to something that ends a list, as one command, and the rest. -/
def block? (read : Nested) (source : Source) (s : List Char) : Option (Command × List Char) := do
  let (cs, r) ← list? read source source.size s
  if cs.isEmpty then none else return (.sequence cs, r)

/-! ## Words

  A word is read piece by piece.  Which characters end it, which a backslash hides and whether quotes count
  depends on the place in which it stands, so `pieces?` is told the place and nothing else. -/

/-- The text up to a closing backquote, without the backslashes that hide characters in it, and the rest. -/
def backquoted? (quoted : Bool) : List Char → Option (List Char × List Char)
  | [] => none
  | '\x60' :: r => some ([], r)
  | '\\' :: d :: r =>
    let hides := d = '\\' ∨ d = '$' ∨ d = '\x60' ∨ (quoted ∧ d = '"')
    (backquoted? quoted r).map fun (s, rest) => (if hides then d :: s else '\\' :: d :: s, rest)
  | c :: r => (backquoted? quoted r).map fun (s, rest) => (c :: s, rest)

/-- What a dollar sign begins, and the rest. -/
def dollar? (read : Nested) (source : Source) (quoted : Bool) (s : List Char) :
    Option (Piece × List Char) :=
  match s with
  | '(' :: '(' :: r =>
    (read source (.word .arithmetic) r).map fun (e, rest) => (.arithmetic e quoted, rest.drop 2)
  | '(' :: r =>
    match list? read source source.size r with
    | some (body, ')' :: rest) => some (.output (.sequence body) quoted, rest)
    | _ => none
  | '{' :: r => braced? read source quoted r
  | _ => (parameterName? s).map fun (name, rest) => (.parameter name .keep quoted, rest)

/-- Whether a dollar sign before this begins something. -/
def beginsDollar (s : List Char) : Bool :=
  match s with
  | [] => false
  | c :: _ => c = '(' || c = '{' || isNameStart c || isSpecial c

/-- Whether a tilde before this is the home directory. -/
def endsHome (value : Bool) (s : List Char) : Bool :=
  match s with
  | [] => true
  | c :: _ => c = '/' || isDelimiter c || (value && c = ':')

/-- The pieces of a word up to its end, and the rest.  `depth` brackets are open, and a tilde counts when
    `start` holds. -/
def pieces? (read : Nested) (source : Source) (place : Place) :
    Nat → (depth : Nat) → (start : Bool) → List Char → Option (Word × List Char)
  | 0, _, _, _ => none
  | _ + 1, _, _, [] => if place.endsWithText then some ([], []) else none
  | fuel + 1, depth, start, c :: r =>
    let quoted := place.isQuoted
    let isValue := place = .command true
    let goOn := pieces? read source place fuel depth false
    let more (piece : Piece) (rest : List Char) : Option (Word × List Char) :=
      (goOn rest).map fun (ps, r) => (piece :: ps, r)
    if depth = 0 ∧ place.endsAt c r then some ([], c :: r)
    else if c = '\'' ∧ !quoted then
      match r.dropWhile (· ≠ '\'') with
      | [] => none
      | _ :: rest => more (.text (Text.Utf8.encode (r.takeWhile (· ≠ '\''))) true) rest
    else if c = '"' ∧ place ≠ .document ∧ place ≠ .arithmetic then
      match read source (.word .quotes) r with
      | some (ps, _ :: rest) =>
        -- empty quotes are a field all the same
        let inner := if ps.isEmpty then [Piece.text [] true] else ps
        (goOn rest).map fun (qs, r) => (inner ++ qs, r)
      | _ => none
    else if c = '\\' then
      match r with
      | [] => some ([.text [0x5C] true], [])
      | d :: rest =>
        -- a hidden end of line is no part of the word
        if d = '\n' then pieces? read source place fuel depth start rest
        else if quoted ∧ !place.escapes.contains d then more (.text [0x5C] true) r
        else more (.text (Text.Utf8.encodeChar d) true) rest
    else if c = '$' ∧ beginsDollar r then
      match dollar? read source quoted r with
      | some (piece, rest) => more piece rest
      | none => none
    else if c = '\x60' then
      match backquoted? quoted r with
      -- a backquote that is not closed
      | none => none
      | some (inner, rest) =>
        let inside := Source.of source.aliases inner
        match list? read inside inside.size inner with
        | some (body, []) => more (.output (.sequence body) quoted) rest
        | _ => none
    else if c = '~' ∧ start ∧ !quoted ∧ endsHome isValue r then more (.home true) r
    else
      let depth :=
        if place ≠ .arithmetic then depth
        else if c = '(' then depth + 1
        else if c = ')' then depth - 1
        else depth
      let piece := Piece.text (Text.Utf8.encodeChar c) quoted
      (pieces? read source place fuel depth (isValue && c = ':') r).map fun (ps, r) => (piece :: ps, r)

/-- The name of an assignment at the front of a word, and its value. -/
def assignment? (s : List Char) : Option (String × List Char) :=
  match s.dropWhile isNameChar with
  | '=' :: r =>
    let name := s.takeWhile isNameChar
    if isName name then some (String.ofList name, r) else none
  | _ => none

/-- A word among those of a command, and the rest. -/
def word? (read : Nested) (source : Source) (s : List Char) : Option (Word × List Char) :=
  match assignment? s with
  | none => read source (.word (.command false)) s
  | some (name, r) => do
    let (value, rest) ← read source (.word (.command true)) r
    -- a tilde is not expanded in a word that only looks like an assignment
    let value := value.map fun
      | .home _ => .home false
      | piece => piece
    return (.text (bytesOf (name ++ "=")) false :: value, rest)

/-- Words up to an operator or the end of the line, and the rest. -/
def words? (read : Nested) (source : Source) : Nat → List Char → Option (List Word × List Char)
  | 0, _ => none
  | fuel + 1, s =>
    match skipBlanks s with
    | [] => some ([], [])
    | c :: r =>
      if isDelimiter c then some ([], c :: r)
      else do
        let (word, r) ← word? read source (c :: r)
        let (words, r) ← words? read source fuel r
        return (word :: words, r)

end BenchSweep.Machine.Shell.Reader
