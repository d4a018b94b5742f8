/-
  Searching lines for expressions.

  Contents are searched line by line.  The walk carries what was found and the lines around it that may
  still be shown, so lines between two matches are put out once and gaps are marked.

  Part of the stand-in for the machine (`Machine/System`).
-/
import BenchSweep.Machine.Shell.Utility.Lines
import BenchSweep.Machine.Shell.Utility.Regex

namespace BenchSweep.Machine.Shell.Utility

/-- What a search looks for, and how. -/
structure Query where
  expressions : List Regex
  reading : Regex.Reading
  /-- Whether a match must be a whole line, or whole words. -/
  wholeLine : Bool
  wholeWord : Bool

/-- The first of the leftmost matches behind a position, the longest of those. -/
def Query.find? (q : Query) (line : Bytes) (first : Nat) : Option Regex.Match :=
  let found := q.expressions.filterMap fun r =>
    let r := if q.wholeLine then .sequence .lineStart (.sequence r .lineEnd)
      else if q.wholeWord then .sequence (.wordEdge true) (.sequence r (.wordEdge true))
      else r
    Regex.search? q.reading r line first
  found.foldl (fun best m =>
    match best with
    | none => some m
    | some b =>
      if m.start < b.start ∨ (m.start = b.start ∧ b.length < m.length) then some m else best) none

/-- The parts of a line that match, with something in them. -/
def Query.parts (q : Query) (line : Bytes) : Nat → Nat → List Bytes
  | 0, _ => []
  | fuel + 1, first =>
    match q.find? line first with
    | none => []
    | some m =>
      if line.length < m.start + m.length ∨ (m.length = 0 ∧ line.length ≤ m.start) then []
      -- a match of nothing is passed over
      else if m.length = 0 then q.parts line fuel (m.start + 1)
      else (line.drop m.start).take m.length :: q.parts line fuel (m.start + m.length)

/-- What was found in one file: the output, and how many lines were chosen. -/
structure Findings where
  output : Bytes
  count : Nat

/-- The context lines around the chosen ones: `after` lines are still due, `kept` are the last lines, the
    last one in front. -/
structure Context where
  due : Nat
  kept : List (Nat × Bytes)
  last : Option Nat

/-- Searches one content. -/
def Query.search (q : Query) (a : Arguments) (name : Bytes) (titled : Bool) (content : Bytes) : Findings :=
  let number (letter : Char) : Option Nat := (a.value? letter).bind countOf?
  let limit := number 'm'
  let around := number 'C'
  let (before, after) := (((number 'B').or around).getD 0, ((number 'A').or around).getD 0)
  let line (mark : UInt8) (n : Nat) (text : Bytes) : Bytes :=
    (if titled then name ++ [mark] else []) ++
      (if a.has 'n' then Session.decimal n ++ [mark] else []) ++ text ++ [0x0A]
  let silent := a.has 'q' || a.has 'c' || a.has 'l' || a.has 'L'
  let step (state : Findings × Context) (item : Bytes × Nat) : Findings × Context :=
    let (found, context) := state
    let (text, i) := item
    let n := i + 1
    let isChosen := (q.find? text 0).isSome != a.has 'v'
    -- behind the last line that is wanted, only the lines after it are shown
    if limit.any (· ≤ found.count) ∧ (context.due = 0 ∨ isChosen) then (found, { context with due := 0 })
    else if isChosen then
      let pieces := if a.has 'o' then (if a.has 'v' then [] else q.parts text (text.length + 1) 0) else [text]
      let earlier := context.kept.reverse
      let first := (earlier.head?.map Prod.fst).getD n
      -- a gap is marked only where lines around matches are asked for
      let gap : Bytes := match context.last with
        | some l => if (0 < before ∨ 0 < after) ∧ l + 1 < first then bytesOf "--\n" else []
        | none => []
      let shown := gap ++ (earlier.flatMap fun (k, t) => line 0x2D k t) ++ pieces.flatMap (line 0x3A n)
      (⟨if silent then [] else found.output ++ shown, found.count + 1⟩, ⟨after, [], some n⟩)
    else if 0 < context.due then
      (⟨if silent || a.has 'o' then found.output else found.output ++ line 0x2D n text, found.count⟩,
        ⟨context.due - 1, [], some n⟩)
    else (found, { context with kept := ((n, text) :: context.kept).take before })
  let (found, _) := (linesOf content).zipIdx.foldl step (⟨[], 0⟩, ⟨0, [], none⟩)
  let titleLine := name ++ [0x0A]
  if a.has 'q' then found
  else if a.has 'l' then { found with output := if 0 < found.count then titleLine else [] }
  else if a.has 'L' then { found with output := if found.count = 0 then titleLine else [] }
  else if a.has 'c' then
    { found with
      output := (if titled then name ++ [0x3A] else []) ++ Session.decimal found.count ++ [0x0A] }
  else found

/-- How many bytes there are behind the last one of so many chosen lines. -/
def Query.behind (q : Query) (inverted : Bool) : (limit : Nat) → List Bytes → Nat
  | 0, lines => (lines.map List.length).sum
  | _, [] => 0
  | limit + 1, line :: rest =>
    let text := if line.getLast? = some 0x0A then line.dropLast else line
    if (q.find? text 0).isSome != inverted then q.behind inverted limit rest
    else q.behind inverted (limit + 1) rest

mutual

/-- The files below a node, with their paths. -/
def filesBelow (path : Bytes) : Node → List (Bytes × Bytes)
  | .file content _ => [(path, content)]
  | .directory entries => filesAmong path entries

/-- The same for entries, one after the other. -/
def filesAmong (path : Bytes) : List (Name × Node) → List (Bytes × Bytes)
  | [] => []
  | (n, node) :: r => filesBelow (path ++ Path.slash :: n) node ++ filesAmong path r

end

/-- The options of `grep`. -/
def grepSpec : Spec :=
  spec "EFGPivwxcnlLoqshHrRazbUZT" "efmABCD" [("extended-regexp", 'E'), ("fixed-strings", 'F'),
    ("basic-regexp", 'G'), ("ignore-case", 'i'), ("invert-match", 'v'), ("word-regexp", 'w'),
    ("line-regexp", 'x'), ("count", 'c'), ("line-number", 'n'), ("files-with-matches", 'l'),
    ("files-without-match", 'L'), ("only-matching", 'o'), ("quiet", 'q'), ("silent", 'q'), ("no-messages", 's'),
    ("no-filename", 'h'), ("with-filename", 'H'), ("recursive", 'r'), ("text", 'a'), ("regexp", 'e'), ("file", 'f'),
    ("max-count", 'm'), ("after-context", 'A'), ("before-context", 'B'), ("context", 'C'), ("color", 'Z'),
    ("colour", 'Z')]

/-- Searches with the form of expressions that is usual for a name of the program. -/
def grepWith (usual : Char) : Program :=
  withOptions "grep" grepSpec 2 fun a s =>
    let form := ((a.last? "EFGP").map Prod.fst).getD usual
    let fromFiles := (a.values 'f').map fun word => s.files.read ⟨word⟩
    let given := a.values 'e'
    let (texts, operands) : List Bytes × List Bytes :=
      if given.isEmpty ∧ fromFiles.isEmpty then (a.operands.take 1, a.operands.drop 1)
      else (given ++ fromFiles.flatMap fun
        | .ok content => linesOf content
        | .error _ => [], a.operands)
    if given.isEmpty ∧ fromFiles.isEmpty ∧ a.operands.isEmpty then
      ((s.complain "Usage: grep [OPTION]... PATTERNS [FILE]...").complain
        "Try 'grep --help' for more information.").withStatus 2
    else
      let lines := texts.flatMap (List.splitOn 0x0A)
      let parsed := lines.mapM fun t =>
        if form = 'F' then some (Regex.literal t) else Regex.parse? (form ≠ 'G') t
      match parsed with
      | none => fail "grep" 2 (bytesOf "Invalid regular expression") s
      | some expressions =>
        let q : Query := ⟨expressions, ⟨a.has 'i'⟩, a.has 'x', a.has 'w'⟩
        let recursive := a.has 'r' || a.has 'R'
        let titled := (1 < operands.length || recursive || a.has 'H') && !a.has 'h'
        let operands := if operands.isEmpty then (if recursive then [[Path.dot]] else [[0x2D]]) else operands
        let titleOf (word : Bytes) : Bytes := if hasBytes word "-" then bytesOf "(standard input)" else word
        let one (state : Nat × Bool × Session) (name content : Bytes) : Nat × Bool × Session :=
          let found := q.search a (titleOf name) titled content
          (state.1 + found.count, state.2.1, state.2.2.print found.output)
        let isSilent := a.has 'q' || a.has 'c' || a.has 'l' || a.has 'L' || (a.value? 'm').any (hasBytes · "1")
        -- a file that grows while it is read would never end
        let isRefused (word : Bytes) (s : Session) : Bool := !isSilent && isOutput word s
        let refuse (word : Bytes) (s : Session) : Session :=
          if a.has 's' then s else fail "grep" 2 (titleOf word ++ bytesOf ": input file is also the output") s
        let (count, failed, s) := operands.foldl (fun (state : Nat × Bool × Session) word =>
          if isRefused word state.2.2 then (state.1, true, refuse word state.2.2)
          else match contentOf word state.2.2 with
          | (.ok content, s) =>
            let s := match (a.value? 'm').bind countOf? with
              | some limit =>
                -- what stands behind the last line that is wanted is left to whoever reads next
                if hasBytes word "-" then s.giveBack 0 (q.behind (a.has 'v') limit (keepEnds content)) else s
              | none => s
            one (state.1, state.2.1, s) word content
          | (.error .isDirectory, s) =>
            if recursive then
              let below := match s.files.nodeOf? ⟨word⟩ with
                | some node => filesBelow word node
                | none => []
              below.foldl (fun state (name, content) =>
                if isRefused name state.2.2 then (state.1, true, refuse name state.2.2)
                else one state name content) (state.1, state.2.1, s)
            else (state.1, state.2.1, fail "grep" 0 (word ++ bytesOf ": Is a directory") s)
          | (.error fault, s) =>
            let s := if a.has 's' then s else fail "grep" 2 (word ++ bytesOf (": " ++ reasonOf fault)) s
            (state.1, true, s)) (0, false, s)
        s.withStatus (if a.has 'q' && 0 < count then 0 else if failed then 2 else if 0 < count then 0 else 1)

end BenchSweep.Machine.Shell.Utility
