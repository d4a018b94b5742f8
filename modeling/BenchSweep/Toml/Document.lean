/-
  Reading a TOML document.

  A document is a sequence of lines: a header that opens a section, a key with its value, or nothing,
  each with a comment at its end if there is one.  `read?` refuses text that is no document, among it
  text that gives a key twice; what the values mean is left to those who ask.

  Arrays and inline tables may hold one another up to `maxDepth` deep.  The functions that read them call
  each other; `fuel` bounds the calls, and twice the length of the text is always enough, because every
  second call takes a character.
-/
import BenchSweep.Toml.Dates
import BenchSweep.Toml.Numbers
import BenchSweep.Toml.Section

namespace BenchSweep.Toml.Document

/-- How deep arrays and inline tables may be nested. -/
def maxDepth : Nat := 80

/-- How many keys may stand with dots between them. -/
def maxKeys : Nat := 80

/-! ## Space, comments and line ends -/

/-- The characters between words on a line. -/
def isSpace (c : Char) : Bool := c == ' ' || c == '\t'

/-- Drops spaces and tabs. -/
def skipSpace (s : List Char) : List Char := s.dropWhile isSpace

/-- Drops a comment; it ends before a control character, as which the end of the line counts. -/
def skipComment : List Char → List Char
  | '#' :: r => r.dropWhile (fun c => !Strings.isControl c)
  | r => r

/-- The next line, if this one ends here. -/
def newline? : List Char → Option (List Char)
  | '\n' :: r => some r
  | '\r' :: '\n' :: r => some r
  | _ => none

/-- The next line, if there is nothing on this one but space and a comment. -/
def endOfLine? (s : List Char) : Option (List Char) :=
  match skipComment (skipSpace s) with
  | [] => some []
  | r => newline? r

/-- Drops space, comments and line ends; inside a comment when `comment` holds. -/
def skipLines (comment : Bool) : List Char → List Char
  | [] => []
  | '\n' :: r => skipLines false r
  | '\r' :: '\n' :: r => skipLines false r
  | c :: r =>
    if comment then if Strings.isControl c then c :: r else skipLines true r
    else if isSpace c then skipLines false r
    else if c = '#' then skipLines true r
    else c :: r

/-! ## Keys -/

/-- A key between dots, and the rest. -/
def simpleKey? (s : List Char) : Option (String × List Char) :=
  match s with
  | '"' :: _ | '\'' :: _ => (Strings.readLine s).map fun (key, r) => (String.ofList key, r)
  | _ =>
    let key := s.takeWhile Strings.isBare
    if key = [] then none else some (String.ofList key, s.dropWhile Strings.isBare)

/-- At most `n` keys with dots between them, and the rest. -/
def keys? : Nat → List Char → Option (List String × List Char)
  | 0, _ => none
  | n + 1, s => do
    let (key, r) ← simpleKey? s
    match skipSpace r with
    | '.' :: r' =>
      let (path, rest) ← keys? n (skipSpace r')
      return (key :: path, rest)
    | r => return ([key], r)

/-- A key path and the rest behind the space that follows. -/
def keyPath? (s : List Char) : Option (List String × List Char) := keys? maxKeys (skipSpace s)

/-! ## Values -/

/-- The characters of words: booleans, numbers, dates and times end only at a mark, space or line end. -/
def isWordChar (c : Char) : Bool := !"=,[]\x7b\x7d# \t\r\n".contains c

/-- Whether a time follows a date behind a single space. -/
def hasTimeBehind (word rest : List Char) : Bool :=
  match Dates.date? word, rest with
  | some (_, []), ' ' :: c :: _ => c.isDigit
  | _, _ => false

/-- The word at the front of a text, a date and a time behind it being one word. -/
def splitWord (s : List Char) : List Char × List Char :=
  let word := s.takeWhile isWordChar
  let rest := s.dropWhile isWordChar
  if hasTimeBehind word rest then
    (word ++ ' ' :: (rest.drop 1).takeWhile isWordChar, (rest.drop 1).dropWhile isWordChar)
  else (word, rest)

/-- The value of a word. -/
def wordValue? (word : List Char) : Option Value :=
  if word = "true".toList then some (.boolean true)
  else if word = "false".toList then some (.boolean false)
  else match Dates.read? word with
    | some text => some (.date (String.ofList text))
    | none => Numbers.read? word

mutual

/-- A value that may hold others to the given depth, and the rest. -/
def value? (fuel depth : Nat) (s : List Char) : Option (Value × List Char) :=
  match fuel with
  | 0 => none
  | fuel + 1 =>
    match s with
    | '"' :: _ | '\'' :: _ => (Strings.read s).map fun (text, r) => (.string (String.ofList text), r)
    | '[' :: r =>
      match depth with
      | 0 => none
      | depth + 1 => (items? fuel depth (skipLines false r)).map fun (vs, r) => (.array vs, r)
    | '{' :: r =>
      match depth with
      | 0 => none
      | depth + 1 =>
        (fields? fuel depth [] (skipLines false r)).map fun (es, r) =>
          (.table (Section.toEntries es), r)
    | _ =>
      let (word, r) := splitWord s
      (wordValue? word).map (·, r)

/-- The items of an array up to its end, and the rest. -/
def items? (fuel depth : Nat) (s : List Char) : Option (List Value × List Char) :=
  match fuel with
  | 0 => none
  | fuel + 1 =>
    match s with
    | ']' :: r => some ([], r)
    | _ => do
      let (v, r) ← value? fuel depth s
      match skipLines false r with
      | ']' :: r => return ([v], r)
      | ',' :: r =>
        let (vs, r) ← items? fuel depth (skipLines false r)
        return (v :: vs, r)
      | _ => none

/-- The fields of an inline table up to its end, after those in `es`, and the rest. -/
def fields? (fuel depth : Nat) (es : Section) (s : List Char) : Option (Section × List Char) :=
  match fuel with
  | 0 => none
  | fuel + 1 =>
    match s with
    | '}' :: r => some (es, r)
    | _ => do
      let (path, r) ← keyPath? s
      match skipLines false r with
      | '=' :: r =>
        let (v, r) ← value? fuel depth (skipLines false r)
        let es ← Section.assign path v es
        match skipLines false r with
        | '}' :: r => return (es, r)
        | ',' :: r => fields? fuel depth es (skipLines false r)
        | _ => none
      | _ => none

end

/-! ## Lines -/

/-- The document as far as it is read. -/
structure State where
  /-- The header of the section that is open. -/
  header : List String
  root : Section

/-- A header behind its first bracket: whether it is for an element of an array, its keys, the rest. -/
def header? (s : List Char) : Option (Bool × List String × List Char) :=
  match s with
  | '[' :: r => do
    let (path, r) ← keyPath? r
    match r with
    | ']' :: ']' :: r => return (true, path, r)
    | _ => none
  | _ => do
    let (path, r) ← keyPath? s
    match r with
    | ']' :: r => return (false, path, r)
    | _ => none

/-- Opens the section of a header. -/
def State.openSection (st : State) (isElement : Bool) (path : List String) : Option State := do
  let key ← path.getLast?
  let root ← Section.descend (if isElement then Section.openElement key else Section.openTable key)
    path.dropLast st.root
  return ⟨path, root⟩

/-- A key and its value, and the rest. -/
def assignment? (s : List Char) : Option (List String × Value × List Char) := do
  let (path, r) ← keyPath? s
  match r with
  | '=' :: r =>
    let (v, r) ← value? (2 * r.length + 2) maxDepth (skipSpace r)
    return (path, v, r)
  | _ => none

/-- What a line adds to the document, and the next line. -/
def line? (st : State) (s : List Char) : Option (State × List Char) :=
  match endOfLine? s with
  | some rest => some (st, rest)
  | none =>
    match skipSpace s with
    | '[' :: r => do
      let (isElement, path, r) ← header? r
      let rest ← endOfLine? r
      let st ← st.openSection isElement path
      return (st, rest)
    | r => do
      let (path, v, r) ← assignment? r
      let rest ← endOfLine? r
      let root ← Section.descend (Section.assign path v) st.header st.root
      return ({ st with root }, rest)

/-- All lines to the end of the text. -/
def lines? : Nat → State → List Char → Option State
  | _, st, [] => some st
  | 0, _, _ => none
  | fuel + 1, st, s => do
    let (st, rest) ← line? st s
    lines? fuel st rest

/-- Drops a byte order mark. -/
def dropMark : List Char → List Char
  | '\uFEFF' :: r => r
  | r => r

/-- The entries of the document that a text is. -/
def read? (text : List Char) : Option (List (String × Value)) :=
  let s := dropMark text
  (lines? s.length ⟨[], []⟩ s).map fun st => Section.toEntries st.root

end BenchSweep.Toml.Document
