/-
  The program that finds files.

  Its words are an expression of tests and actions, which is asked about each file and directory below the
  places in front of it, the outermost first.

  Part of the stand-in for the machine (`Machine/System`).
-/
import BenchSweep.Machine.Shell.Launcher
import BenchSweep.Machine.Shell.Utility.Tree

namespace BenchSweep.Machine.Shell.Finding

/-- What is asked about a file, or done with it. -/
inductive Query where
  | always (answer : Bool)
  | name (fold : Bool) (pattern : Pattern)
  | path (pattern : Pattern)
  | kind (letter : Char)
  | empty
  | executable
  /-- Its size in bytes is so many, or fewer, or more. -/
  | size (order : Ordering) (bytes : Nat)
  | print (mark : UInt8)
  | delete
  /-- Nothing below it is looked at. -/
  | prune
  /-- Runs words in which the path replaces a mark. -/
  | run (words : List Bytes)
  /-- Runs words with the paths of all files in the end. -/
  | gather (words : List Bytes)
  | negated (query : Query)
  | both (first second : Query)
  | either (first second : Query)

/-- Limits on how deep is looked, and in which order. -/
structure Limits where
  least : Nat
  most : Nat
  /-- What is below a directory comes before it. -/
  fromBelow : Bool

/-- What is found out by the way. -/
structure Findings where
  gathered : List Bytes
  pruned : Bool

/-! ## Reading -/

/-- What may be wrong with an expression. -/
inductive Fault where
  | unknownPredicate (word : Bytes)
  | missingArgument (word : Bytes)
  | badExpression

/-- What `find` says of it. -/
def Fault.message : Fault → Bytes
  | .unknownPredicate word => bytesOf "unknown predicate \x60" ++ word ++ bytesOf "'"
  | .missingArgument word => bytesOf "missing argument to \x60" ++ word ++ bytesOf "'"
  | .badExpression => bytesOf "invalid expression"

/-- What reading comes to: a query and the words behind it. -/
abbrev Reading := Except Fault (Query × List Bytes)

/-- Bytes with all letters small. -/
def lower (bytes : Bytes) : Bytes := bytes.map fun b => if 0x41 ≤ b ∧ b ≤ 0x5A then b + 0x20 else b

/-- A word as a pattern in which nothing is quoted. -/
def patternOf (word : Bytes) : Pattern := Pattern.ofMarked (word.map (·, false))

/-- A number of bytes with a sign in front. -/
def sizeOf? (word : Bytes) : Option Query :=
  let (order, word) : Ordering × Bytes := match word with
    | 0x2B :: r => (.gt, r)
    | 0x2D :: r => (.lt, r)
    | r => (.eq, r)
  if word.getLast? = some 0x63 then (textOf word.dropLast).toNat?.map (.size order) else none

/-- The words of a program up to the one that ends them. -/
def programWords (word : Bytes) (words : List Bytes) : Reading :=
  let program := words.takeWhile fun w => !hasBytes w ";" && !hasBytes w "+"
  match words.drop program.length with
  | ending :: rest =>
    if hasBytes ending ";" then .ok (.run program, rest)
    else .ok (.gather (program.filter fun w => !hasBytes w "\x7b\x7d"), rest)
  | [] => .error (.missingArgument word)

/-- A test with one word behind it. -/
def argumentQuery? (name : String) : Option (Bytes → Option Query) :=
  match name with
  | "-name" => some fun w => some (.name false (patternOf w))
  | "-iname" => some fun w => some (.name true (patternOf (lower w)))
  | "-path" | "-wholename" => some fun w => some (.path (patternOf w))
  | "-type" => some fun w => (textOf w).toList.head?.map .kind
  | "-size" => some sizeOf?
  | "-maxdepth" | "-mindepth" => some fun _ => some (.always true)
  | "-mtime" | "-mmin" | "-newer" | "-perm" | "-user" => some fun _ => some (.always true)
  | _ => none

/-- A test or action that is one word. -/
def plainQuery? (name : String) : Option Query :=
  match name with
  | "-true" | "-depth" | "-mount" | "-xdev" => some (.always true)
  | "-false" => some (.always false)
  | "-empty" => some .empty
  | "-executable" => some .executable
  | "-print" => some (.print 0x0A)
  | "-print0" => some (.print 0)
  | "-delete" => some .delete
  | "-prune" => some .prune
  | _ => none

mutual

/-- Queries with `-o` between them. -/
def anyOf (fuel : Nat) (words : List Bytes) : Reading :=
  match fuel with
  | 0 => .error .badExpression
  | fuel + 1 => do
    let (first, rest) ← allOf fuel words
    match rest with
    | word :: more =>
      if hasBytes word "-o" ∨ hasBytes word "-or" then
        let (second, rest) ← anyOf fuel more
        return (.either first second, rest)
      else return (first, rest)
    | [] => return (first, [])

/-- Queries one behind the other. -/
def allOf (fuel : Nat) (words : List Bytes) : Reading :=
  match fuel with
  | 0 => .error .badExpression
  | fuel + 1 => do
    let (first, rest) ← single fuel words
    match rest with
    | word :: more =>
      if hasBytes word "-o" ∨ hasBytes word "-or" ∨ hasBytes word ")" then return (first, rest)
      else
        let isAnd := hasBytes word "-a" ∨ hasBytes word "-and"
        let (second, rest) ← allOf fuel (if isAnd then more else rest)
        return (.both first second, rest)
    | [] => return (first, [])

/-- One query. -/
def single (fuel : Nat) (words : List Bytes) : Reading :=
  match fuel with
  | 0 => .error .badExpression
  | fuel + 1 =>
    match words with
    | [] => .error .badExpression
    | word :: rest =>
      let name := textOf word
      if name = "(" then do
        match ← anyOf fuel rest with
        | (query, [0x29] :: rest) => return (query, rest)
        | _ => throw .badExpression
      else if name = "!" ∨ name = "-not" then do
        let (query, rest) ← single fuel rest
        return (.negated query, rest)
      else if name = "-exec" ∨ name = "-execdir" ∨ name = "-ok" then programWords word rest
      else match argumentQuery? name, plainQuery? name with
        | some query, _ =>
          match rest with
          | [] => .error (.missingArgument word)
          | argument :: rest =>
            match query argument with
            | some query => .ok (query, rest)
            | none => .error .badExpression
        | none, some query => .ok (query, rest)
        | none, none => .error (.unknownPredicate word)

end

/-- Whether a query does something by itself, so that nothing is put out for it. -/
def Query.acts : Query → Bool
  | .print _ | .delete | .run _ | .gather _ => true
  | .negated query => query.acts
  | .both first second | .either first second => first.acts || second.acts
  | _ => false

/-- The words of the programs that run in the end. -/
def Query.gathers : Query → List (List Bytes)
  | .gather words => [words]
  | .negated query => query.gathers
  | .both first second | .either first second => first.gathers ++ second.gathers
  | _ => []

/-- The value of a limit among the words. -/
def limit? (name : String) : List Bytes → Option Nat
  | word :: value :: rest => if hasBytes word name then (textOf value).toNat? else limit? name (value :: rest)
  | _ => none

/-! ## Asking -/

/-- Runs words for one path; whether that succeeds. -/
def runFor (start : Starter) (words : List Bytes) (path : Bytes) : Act Bool := do
  let s ← get
  let words := words.map fun w => Launcher.replaced (bytesOf "\x7b\x7d") path (w.length + 1) w
  match start s words with
  | .error refusal =>
    modify (Utility.fail "find" s.status (Utility.shown (words.headD []) ++ bytesOf (": " ++ reasonOf refusal)))
    return false
  | .ok act =>
    let ending ← asProcess act
    modify (·.withStatus s.status)
    match ending with
    | .exited status => return status = 0
    | .killed _ => return false

/-- Takes a file or an empty directory away. -/
def erase (path : Bytes) (node : Node) : Act Bool := do
  let s ← get
  match node, s.files.find ⟨path⟩ with
  | .directory (_ :: _), _ => return false
  | _, .ok place =>
    set (s.remove place.location)
    return true
  | _, .error _ => return false

/-- The answer to a query about a path, and what is found out by the way. -/
def ask (start : Starter) (path : Bytes) (node : Node) : Query → Findings → Act (Bool × Findings)
  | .always answer, found => return (answer, found)
  | .name fold pattern, found =>
    let last := Utility.lastPart path
    return (pattern.matchesAll (if fold then lower last else last), found)
  | .path pattern, found => return (pattern.matchesAll path, found)
  | .kind letter, found => return (letter = (if node.isDirectory then 'd' else 'f'), found)
  | .empty, found =>
    return (match node with
      | .file content _ => content.isEmpty
      | .directory entries => entries.isEmpty, found)
  | .executable, found =>
    return (match node with
      | .file _ executable => executable
      | .directory _ => true, found)
  | .size order bytes, found =>
    return (match node with
      | .file content _ => compare content.length bytes = order
      | .directory _ => compare 4096 bytes = order, found)
  | .print mark, found => do
    modify (·.print (path ++ [mark]))
    return (true, found)
  | .delete, found => do return (← erase path node, found)
  | .prune, found => return (true, { found with pruned := true })
  | .run words, found => do return (← runFor start words path, found)
  | .gather _, found => return (true, { found with gathered := found.gathered ++ [path] })
  | .negated query, found => do
    let (answer, found) ← ask start path node query found
    return (!answer, found)
  | .both first second, found => do
    let (answer, found) ← ask start path node first found
    if answer then ask start path node second found else return (false, found)
  | .either first second, found => do
    let (answer, found) ← ask start path node first found
    if answer then return (true, found) else ask start path node second found

mutual

/-- Asks about a node and all below it. -/
def visit (start : Starter) (query : Query) (limits : Limits) (depth : Nat) (path : Bytes) :
    Node → Findings → Act Findings
  | .file content executable, found => do
    if depth < limits.least then return found
    return (← ask start path (.file content executable) query found).2
  | .directory entries, found => do
    let node := Node.directory entries
    if limits.fromBelow then
      let found ← if depth < limits.most then visitAll start query limits (depth + 1) path entries found
        else pure found
      if depth < limits.least then return found
      let node := ((← get).files.nodeOf? ⟨path⟩).getD node
      return (← ask start path node query found).2
    else
      let found ← if depth < limits.least then pure { found with pruned := false }
        else do pure (← ask start path node query { found with pruned := false }).2
      if depth < limits.most && !found.pruned then
        visitAll start query limits (depth + 1) path entries found
      else return found

/-- The same for entries, one after the other. -/
def visitAll (start : Starter) (query : Query) (limits : Limits) (depth : Nat) (path : Bytes) :
    List (Name × Node) → Findings → Act Findings
  | [], found => return found
  | (n, node) :: rest, found => do
    let found ← visit start query limits depth (Utility.inside path n) node found
    visitAll start query limits depth path rest found

end

/-- Asks about all below each place. -/
def visitPlaces (start : Starter) (query : Query) (limits : Limits) : List Bytes → Findings → Act Findings
  | [], found => return found
  | place :: rest, found => do
    match (← get).files.find ⟨place⟩ with
    | .ok ⟨_, node⟩ =>
      let found ← visit start query limits 0 place node found
      visitPlaces start query limits rest found
    | .error fault =>
      modify (Utility.fail "find" 1 (Utility.shown place ++ Utility.because fault))
      visitPlaces start query limits rest found

/-- Whether a word begins the expression. -/
def beginsExpression (word : Bytes) : Bool :=
  (word.head? = some 0x2D && 1 < word.length) || hasBytes word "(" || hasBytes word "!"

/-- Goes through directories and does with what it finds as its words say. -/
def find (start : Starter) (words : List Bytes) : Act Unit := do
  modify (·.withStatus 0)
  let words := words.dropWhile fun w => hasBytes w "-H" || hasBytes w "-L" || hasBytes w "-P"
  let places := words.takeWhile fun w => !beginsExpression w
  let expression := words.drop places.length
  let reading := if expression.isEmpty then .ok (.always true, []) else anyOf (4 * expression.length + 4) expression
  match reading with
  | .error fault => modify (Utility.fail "find" 1 fault.message)
  | .ok (_, _ :: _) => modify (Utility.fail "find" 1 Fault.badExpression.message)
  | .ok (query, []) =>
    let limits : Limits :=
      ⟨(limit? "-mindepth" expression).getD 0, (limit? "-maxdepth" expression).getD 1000,
        expression.any fun w => hasBytes w "-depth" || hasBytes w "-delete"⟩
    let whole := if query.acts then query else .both query (.print 0x0A)
    let found ← visitPlaces start whole limits (if places.isEmpty then [[Path.dot]] else places) ⟨[], false⟩
    if !found.gathered.isEmpty then
      for words in query.gathers do
        let _ ← runFor start (words ++ found.gathered) []

end BenchSweep.Machine.Shell.Finding
