/-
  Editing streams of lines.

  An edit script is a sequence of instructions, each for the lines that its addresses choose.  Every line in
  turn is put into the pattern space, the instructions work on it, and what is left is put out.

  Part of the stand-in for the machine (`Machine/System`).
-/
import BenchSweep.Machine.Shell.Utility.EditScript

namespace BenchSweep.Machine.Shell.Utility

/-- Where the editor stands. -/
structure Editor where
  pattern : Bytes
  hold : Bytes
  number : Nat
  /-- The lines that are still to come. -/
  lines : List Bytes
  /-- Whether the last line of the input has an end. -/
  endsWell : Bool
  output : Bytes
  /-- Whether the end of the last line that was put out is still missing. -/
  missing : Bool
  /-- What is put out at the end of the cycle. -/
  appended : Bytes
  replaced : Bool
  /-- The ranges that are open, by the place of their instruction, with the line of their end if known. -/
  active : List (Nat × Option Nat)
  status : Option Nat
  /-- What has been written into files, the last of it in front. -/
  written : List (Bytes × Bytes)

/-- No line is left. -/
def Editor.isLast (d : Editor) : Bool := d.lines.isEmpty

/-- Writes bytes, behind the end of line that the last ones may lack. -/
def Editor.raw (d : Editor) (bytes : Bytes) : Editor :=
  if bytes.isEmpty then d
  else { d with output := d.output ++ (if d.missing then [0x0A] else []) ++ bytes, missing := false }

/-- Puts out a line; the last line of the input keeps its missing end. -/
def Editor.line (d : Editor) (bytes : Bytes) : Editor :=
  if d.isLast ∧ !d.endsWell then
    { d with output := d.output ++ (if d.missing then [0x0A] else []) ++ bytes, missing := true }
  else d.raw (bytes ++ [0x0A])

/-- Whether an address chooses the line. -/
def Editor.isAt (d : Editor) : Address → Bool
  | .line n => d.number = n
  | .last => d.isLast
  | .matching e => Regex.matches? e.reading e.regex d.pattern
  | .every first step => if step = 0 then d.number = first else first ≤ d.number && (d.number - first) % step = 0
  | .further _ | .multiple _ => false

/-- The last line of a range that begins at the line, if it is known, and whether the range goes on. -/
def Editor.rangeEnd (d : Editor) : Address → Option Nat × Bool
  | .line n => (some n, d.number < n)
  | .further n => (some (d.number + n), 0 < n)
  | .multiple n =>
    let stop := if n = 0 then d.number else (d.number + n - 1) / n * n
    (some stop, d.number < stop)
  | .last => (none, !d.isLast)
  | _ => (none, true)

/-- Whether an instruction at a place is for the line, and the editor after looking. -/
def Editor.chooses (d : Editor) (place : Nat) (step : Step) : Bool × Editor :=
  let (chosen, d) : Bool × Editor :=
    match step.first, step.second with
    | none, _ => (true, d)
    | some first, none => (d.isAt first, d)
    | some first, some second =>
      let close : Editor := { d with active := d.active.filter (·.1 ≠ place) }
      match d.active.lookup place with
      | some (some stop) =>
        -- a range that was over before the line was looked at; the line may begin a new one
        if stop < d.number then (d.isAt first, close)
        else (true, if stop ≤ d.number then close else d)
      | some none => (true, if d.isAt second then close else d)
      | none =>
        match first with
        -- such a range is open before the first line
        | .line 0 => if d.number = 1 ∧ !d.isAt second then (true, { d with active := (place, none) :: d.active })
          else (d.number = 1, d)
        | _ =>
          if d.isAt first then
            let (stop, goesOn) := d.rangeEnd second
            (true, if goesOn then { d with active := (place, stop) :: d.active } else d)
          else (false, d)
  (chosen != step.negated, d)

/-- How letters are changed while a replacement is built: for all that follows, and for the next one. -/
def changeLetters (all next : Option Char) (bytes : Bytes) : Bytes :=
  let apply (c : Option Char) (b : UInt8) : UInt8 := match c with
    | some 'U' | some 'u' => Regex.upper b
    | some 'L' | some 'l' => Regex.lower b
    | _ => b
  match bytes with
  | [] => []
  | b :: r => (if next.isSome then apply next b else apply all b) :: r.map (apply all)

/-- What a replacement becomes for a match. -/
def replacementFor (m : Regex.Match) (text : Bytes) (parts : List ReplacementPart) : Bytes :=
  (parts.foldl (fun (state : Bytes × Option Char × Option Char) part =>
    let (out, all, next) := state
    let add (bytes : Bytes) : Bytes × Option Char × Option Char :=
      (out ++ changeLetters all next bytes, all, if bytes.isEmpty then next else none)
    match part with
    | .text bytes => add bytes
    | .group 0 => add ((text.drop m.start).take m.length)
    | .group n => add ((m.groups.lookup n).getD [])
    | .letters 'E' => (out, none, none)
    | .letters c => if c = 'U' ∨ c = 'L' then (out, some c, next) else (out, all, some c))
    (([] : Bytes), none, none)).1

/-- A text with matches replaced from the match `which` on, and whether there was one.  `first` is where the
    search goes on, `copied` how far the text is copied, and `count` how many matches were found. -/
def substituted (e : Expression) (parts : List ReplacementPart) (every : Bool) (which : Nat) (text : Bytes) :
    Nat → (first copied count : Nat) → Bytes × Bool
  | 0, _, copied, _ => (text.drop copied, false)
  | fuel + 1, first, copied, count =>
    if text.length < first then (text.drop copied, false)
    else match Regex.search? e.reading e.regex text first with
      | none => (text.drop copied, false)
      | some m =>
        let before := (text.take m.start).drop copied
        let stop := m.start + m.length
        -- a match of nothing right behind another match does not count
        if m.length = 0 ∧ m.start = copied ∧ 0 < copied ∧ 0 < count then
          substituted e parts every which text fuel (m.start + 1) copied count
        else
          let next := if m.length = 0 then stop + 1 else stop
          if count + 1 < which then
            let (rest, found) := substituted e parts every which text fuel next copied (count + 1)
            (rest, found)
          else
            let new := before ++ replacementFor m text parts
            if every then
              let (rest, _) := substituted e parts every which text fuel next stop (count + 1)
              (new ++ rest, true)
            else (new ++ text.drop stop, true)

/-- The place behind the end of the block that begins before `steps`. -/
def blockEnd : (depth place : Nat) → List Step → Nat
  | _, place, [] => place
  | depth, place, step :: rest =>
    match step.instruction with
    | .openBlock => blockEnd (depth + 1) (place + 1) rest
    | .closeBlock => if depth = 0 then place + 1 else blockEnd (depth - 1) (place + 1) rest
    | _ => blockEnd depth (place + 1) rest

/-- The place of a label; the end of the script for none. -/
def labelPlace (steps : List Step) (name : Bytes) : Nat :=
  if name.isEmpty then steps.length
  else (steps.findIdx? fun step => match step.instruction with
    | .label other => other = name
    | _ => false).getD steps.length

/-- A line with what cannot be seen made visible. -/
def unambiguous (line : Bytes) : Bytes :=
  (line.flatMap fun b =>
    match Char.ofNat b.toNat with
    | '\\' => bytesOf "\\\\"
    | '\n' => bytesOf "\\n"
    | '\t' => bytesOf "\\t"
    | _ =>
      if 0x20 ≤ b ∧ b < 0x7F then [b]
      else 0x5C :: [b / 64 + 0x30, b / 8 % 8 + 0x30, b % 8 + 0x30]) ++ [0x24]

/-- How a cycle goes on after an instruction. -/
inductive Course where
  | at (place : Nat)
  /-- The cycle is over; with `print`, the pattern space is put out. -/
  | over (print : Bool)
  /-- The cycle begins again without a new line. -/
  | again

/-- One instruction that is for the line. -/
def Editor.perform (d : Editor) (files : Files) (steps : List Step) (place : Nat) (i : Instruction) :
    Editor × Course :=
  let next : Course := .at (place + 1)
  let (head, tail) := (d.pattern.takeWhile (· ≠ 0x0A), d.pattern.dropWhile (· ≠ 0x0A))
  match i with
  | .openBlock | .closeBlock | .label _ => (d, next)
  | .substitute e parts every print which file =>
    let (new, found) := substituted e parts every which d.pattern (2 * d.pattern.length + 4) 0 0 0
    if found then
      let written := file.toList.map (·, new ++ [0x0A]) ++ d.written
      let d : Editor := { d with pattern := new, replaced := true, written }
      (if print then d.line new else d, next)
    else (d, next)
  | .exchange pairs => ({ d with pattern := d.pattern.map fun b => (pairs.lookup b).getD b }, next)
  | .append text => ({ d with appended := d.appended ++ text }, next)
  | .insert text => (d.raw text, next)
  | .change text =>
    -- the text of a range stands once, in place of its last line
    let inRange := (steps[place]?).any fun step => step.second.isSome && !step.negated
    let isOpen := (d.active.lookup place).isSome
    (if inRange ∧ isOpen then d else d.raw text, .over false)
  | .readFile name =>
    match files.read ⟨name⟩ with
    | .ok content => ({ d with appended := d.appended ++ content }, next)
    | .error _ => (d, next)
  | .writeFile name => ({ d with written := (name, d.pattern ++ [0x0A]) :: d.written }, next)
  | .jump name => (d, .at (labelPlace steps name))
  | .jumpIfReplaced name =>
    if d.replaced then ({ d with replaced := false }, .at (labelPlace steps name)) else (d, next)
  | .jumpUnlessReplaced name =>
    if d.replaced then ({ d with replaced := false }, next) else (d, .at (labelPlace steps name))
  | .quit print status => ({ d with status := some status, lines := if print then d.lines else d.lines }, .over print)
  | .simple c =>
    match c with
    | 'd' => (d, .over false)
    | 'D' => if tail.isEmpty then (d, .over false) else ({ d with pattern := tail.tail }, .again)
    | 'g' => ({ d with pattern := d.hold }, next)
    | 'G' => ({ d with pattern := d.pattern ++ 0x0A :: d.hold }, next)
    | 'h' => ({ d with hold := d.pattern }, next)
    | 'H' => ({ d with hold := d.hold ++ 0x0A :: d.pattern }, next)
    | 'x' => ({ d with pattern := d.hold, hold := d.pattern }, next)
    | 'p' => (d.line d.pattern, next)
    | 'P' => (d.raw (head ++ [0x0A]), next)
    | '=' => (d.raw (Session.decimal d.number ++ [0x0A]), next)
    | 'l' => (d.raw (unambiguous d.pattern ++ [0x0A]), next)
    | 'z' => ({ d with pattern := [] }, next)
    | _ => (d, next)

/-- The next line in the pattern space, or behind it. -/
def Editor.advance (d : Editor) (behind : Bool) : Editor :=
  match d.lines with
  | [] => d
  | line :: rest =>
    { d with
      pattern := if behind then d.pattern ++ 0x0A :: line else line
      lines := rest, number := d.number + 1 }

/-- What stands at the end of a cycle. -/
def Editor.finish (d : Editor) (print : Bool) : Editor :=
  let d := if print then d.line d.pattern else d
  { d.raw d.appended with appended := [] }

/-- The instructions from a place on, for the line in the pattern space. -/
def Editor.cycle (files : Files) (steps : List Step) (quiet : Bool) :
    Nat → (place : Nat) → Editor → Editor × Bool
  | 0, _, d => ({ d with status := some 1, lines := [] }, false)
  | fuel + 1, place, d =>
    match steps[place]? with
    | none => (d.finish (!quiet), false)
    | some step =>
      let (chosen, d) := d.chooses place step
      if !chosen then
        let place := match step.instruction with
          -- a block that is not for the line is passed over as a whole
          | .openBlock => blockEnd 0 (place + 1) (steps.drop (place + 1))
          | _ => place + 1
        Editor.cycle files steps quiet fuel place d
      else
        let course : Editor × Course :=
          match step.instruction with
          | .simple 'n' =>
            -- without a next line the script ends, and the pattern space is put out
            if d.isLast then ({ d with status := some 0 }, .over true)
            else ((d.finish (!quiet)).advance false, .at (place + 1))
          | .simple 'N' =>
            if d.isLast then ({ d with status := some 0 }, .over true)
            else (({ d.raw d.appended with appended := [] } : Editor).advance true, .at (place + 1))
          | instruction => d.perform files steps place instruction
        match course with
        | (d, .at place) => Editor.cycle files steps quiet fuel place d
        | (d, .over print) => (d.finish (print && !quiet), false)
        | (d, .again) => (d.finish false, true)

/-- All cycles. -/
def Editor.cycles (files : Files) (steps : List Step) (quiet : Bool) : Nat → (again : Bool) → Editor → Editor
  | 0, _, d => d
  | fuel + 1, again, d =>
    if d.status.isSome ∨ (!again ∧ d.lines.isEmpty) then d
    else
      let d := if again then d else d.advance false
      -- the bound stops a script that jumps in circles
      let (d, again) := Editor.cycle files steps quiet 100000 0 { d with replaced := d.replaced && again }
      Editor.cycles files steps quiet fuel again d

/-- The files into which the instructions write, with nothing written yet. -/
def emptyFiles (steps : List Step) : List (Bytes × Bytes) :=
  steps.filterMap fun step =>
    match step.instruction with
    | .substitute _ _ _ _ _ (some name) | .writeFile name => some (name, [])
    | _ => none

/-- Edits one stream. -/
def edited (files : Files) (steps : List Step) (quiet : Bool) (content : Bytes) : Editor :=
  Editor.cycles files steps quiet (content.length + 1000) false
    ⟨[], [], 0, linesOf content, content.getLast?.all (· = 0x0A), [], false, [], false, [], none, emptyFiles steps⟩

/-- Writes what the editor has written into files. -/
def Editor.store (d : Editor) (s : Session) : Session :=
  let names := (d.written.map Prod.fst).eraseDups
  names.foldl (fun s name =>
    let content := (d.written.reverse.filter (·.1 = name)).flatMap Prod.snd
    if hasBytes name "/dev/stdout" then s.print content
    else match s.files.write ⟨name⟩ (.replace content) with
      | .ok files => { s with files }
      | .error _ => s) s

/-- Edits its input line by line as a script says. -/
def sed : Program :=
  withOptions "sed" ⟨"nErsuz", "efl", [("quiet", 'n'), ("silent", 'n'), ("regexp-extended", 'E'), ("expression", 'e'),
      ("file", 'f'), ("in-place", 'i'), ("separate", 's')], "i"⟩ 1 fun a s =>
    let fromFiles := (a.values 'f').flatMap fun word => ((s.files.read ⟨word⟩).toOption).toList
    let given := a.values 'e' ++ fromFiles
    let (texts, operands) := if given.isEmpty then (a.operands.take 1, a.operands.drop 1) else (given, a.operands)
    if texts.isEmpty then
      (s.complain "Usage: sed [OPTION]... \x7bscript-only-if-no-other-script\x7d [input-file]...").withStatus 1
    else
      let script := List.intercalate [0x0A] texts
      match steps? (script.length + 2) ⟨a.has 'E' || a.has 'r', none⟩ script with
      | none => fail "sed" 1 (bytesOf "-e expression #1, char 0: invalid script") s
      | some steps =>
        let quiet := a.has 'n' || script.take 3 = bytesOf "#n\n"
        let refused (word : Bytes) (fault : Files.Fault) (s : Session) : Session :=
          if fault = .isDirectory then
            fail "sed" 2 (bytesOf "couldn't edit " ++ word ++ bytesOf ": not a regular file") s
          else fail "sed" 2 (bytesOf "can't read " ++ word ++ bytesOf (": " ++ reasonOf fault)) s
        if a.has 'i' then
          operands.foldl (fun s word =>
            match s.files.read ⟨word⟩ with
            | .error fault => refused word fault s
            | .ok content =>
              let d := edited s.files steps quiet content
              let left := if d.status.isSome then unlines d.lines else []
              let ending := (a.value? 'i').getD []
              let s := if ending.isEmpty then s
                else match s.files.write ⟨word ++ ending⟩ (.replace content) with
                  | .ok files => { s with files }
                  | .error _ => s
              -- channels that are open on the old file keep its content
              let kept := match s.files.find ⟨word⟩ with
                | .ok place => s.keepOpen place.location
                | .error _ => s
              match s.files.write ⟨word⟩ (.replace (d.output ++ left)) with
              | .ok files => d.store { kept with files }
              | .error fault => refused word fault s) s
        else
          let (found, s) := contents operands refused s
          let streams := if a.has 's' then found.map Prod.snd
            else
              let whole (c : Bytes) : Bytes :=
                if c.getLast?.all (· = 0x0A) ∨ found.length = 1 then c else c ++ [0x0A]
              [found.flatMap fun (_, c) => whole c]
          streams.foldl (fun s content =>
            let d := edited s.files steps quiet content
            -- a script that quits leaves the rest of the input to others
            let left := (unlines d.lines).length - (if d.endsWell then 0 else 1)
            let s := if d.status.isSome ∧ (operands.isEmpty ∨ operands = [[0x2D]]) then s.giveBack 0 left else s
            let s := d.store (s.print d.output)
            match d.status with
            | some status => if status = 0 then s else s.withStatus status
            | none => s) s

end BenchSweep.Machine.Shell.Utility
