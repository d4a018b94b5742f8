/-
  Programs that read lines and put out some of them, or parts of them.

  Part of the stand-in for the machine (`Machine/System`).
-/
import BenchSweep.Machine.Shell.Utility.Options

namespace BenchSweep.Machine.Shell.Utility

/-- A number in a word that holds nothing else. -/
def countOf? (word : Bytes) : Option Nat :=
  if word ≠ [] ∧ word.all (fun b => 0x30 ≤ b && b ≤ 0x39) then (textOf word).toNat? else none

/-- Bytes with blanks in front up to a width. -/
def rightIn (width : Nat) (s : Bytes) : Bytes := List.replicate (width - s.length) 0x20 ++ s

/-- Hands the contents of the operands to a function, one after the other.  Where `guarded`, an operand to
    which the output goes is refused. -/
def withEach {α : Type} (name : String) (guarded : Bool) (operands : List Bytes)
    (use : Bytes → α → Session → α × Session) (state : α) (s : Session) : Session :=
  ((if operands.isEmpty then [[0x2D]] else operands).foldl (fun (state, s) word =>
    if guarded ∧ isOutput word s then (state, fail name 1 (word ++ bytesOf ": input file is output file") s)
    else match contentOf word s with
      | (.ok content, s) => use content state s
      | (.error fault, s) => (state, cannotRead name word fault s)) (state, s)).2

/-- Prints what some function makes of all contents of the operands, one after the other. -/
def printEach (name : String) (guarded : Bool) (operands : List Bytes) (make : Bytes → Bytes) (s : Session) :
    Session :=
  withEach name guarded operands (fun content _ s => ((), s.print (make content))) () s

/-- Prints what is made of the contents of the operands taken together.  What is made of a part in front
    must be a part in front of what is made of the whole. -/
def printTogether (name : String) (guarded : Bool) (operands : List Bytes) (make : Bytes → Bytes)
    (s : Session) : Session :=
  withEach name guarded operands (fun content before s =>
    let whole := before ++ content
    (whole, s.print ((make whole).drop (make before).length))) [] s

/-! ## Whole files -/

/-- How a byte is shown that cannot be seen by itself. -/
def visible (b : UInt8) : Bytes :=
  if b = 0x09 ∨ b = 0x0A then [b]
  else
    let low (b : UInt8) : Bytes :=
      if b < 0x20 then [0x5E, b + 0x40] else if b = 0x7F then [0x5E, 0x3F] else [b]
    if b < 0x80 then low b else bytesOf "M-" ++ low (b - 0x80)

/-- Numbered lines; with `filled`, only those that are not empty. -/
def numberLines (filled : Bool) : Nat → List Bytes → List Bytes
  | _, [] => []
  | n, line :: rest =>
    if filled ∧ line = [0x0A] then line :: numberLines filled n rest
    else (rightIn 6 (Session.decimal n) ++ 0x09 :: line) :: numberLines filled (n + 1) rest

/-- Lines with one empty line in place of several. -/
def squeezeEmpty (before : Bool) : List Bytes → List Bytes
  | [] => []
  | line :: rest =>
    let isEmpty := line = [0x0A]
    if isEmpty && before then squeezeEmpty true rest else line :: squeezeEmpty isEmpty rest

/-- Writes files one after the other, with numbers and marks if asked to. -/
def cat : Program :=
  withOptions "cat"
    (spec "AbeEnstTuv" "" [("number", 'n'), ("number-nonblank", 'b'), ("squeeze-blank", 's'), ("show-all", 'A'),
      ("show-ends", 'E'), ("show-tabs", 'T'), ("show-nonprinting", 'v')]) 1 fun a s =>
    let any (letters : String) : Bool := (a.last? letters).isSome
    let display (b : UInt8) : Bytes :=
      if b = 0x0A then (if any "AeE" then [0x24, 0x0A] else [0x0A])
      else if b = 0x09 then (if any "AtT" then [0x5E, 0x49] else [0x09])
      else if any "Aetv" then visible b else [b]
    if a.options.all (·.1 = 'u') then printEach "cat" true a.operands id s
    else
      printTogether "cat" true a.operands (fun content =>
        let lines := keepEnds content
        let lines := if any "s" then squeezeEmpty false lines else lines
        let lines := if any "bn" then numberLines (any "b") 1 lines else lines
        lines.flatten.flatMap display) s

/-- Writes the lines of files from the last one to the first. -/
def tac : Program :=
  withOptions "tac" (spec "" "" []) 1 fun a s =>
    let refused (word : Bytes) (fault : Files.Fault) (s : Session) : Session :=
      fail "tac" 1 (bytesOf "failed to open " ++ shown word ++
        bytesOf (" for reading: " ++ reasonOf fault)) s
    let (found, s) := contents a.operands refused s
    s.print (found.flatMap fun (_, content) => (keepEnds content).reverse.flatten)

/-- Writes every line from its end to its front. -/
def rev : Program :=
  withOptions "rev" (spec "" "" []) 1 fun a s =>
    let refused (word : Bytes) (fault : Files.Fault) (s : Session) : Session :=
      fail "rev" 1 (bytesOf "cannot open " ++ word ++ bytesOf (": " ++ reasonOf fault)) s
    let (found, s) := contents a.operands refused s
    s.print (found.flatMap fun (_, content) =>
      unlines ((linesOf content).map fun l => Text.Utf8.encode (Text.Utf8.lossy l).reverse))

/-- The first or the last lines or bytes: how many, and from where they are counted. -/
structure Portion where
  bytes : Bool
  /-- Counted from the other end: all but so many at the end, or all from so many on. -/
  other : Bool
  count : Nat

/-- A count with a unit behind it. -/
def sizeOf? (word : Bytes) : Option Nat :=
  let digits := word.takeWhile fun b => 0x30 ≤ b && b ≤ 0x39
  let unit : Option Nat := match textOf (word.drop digits.length) with
    | "" => some 1
    | "b" => some 512
    | "K" | "k" | "KiB" => some 1024
    | "kB" | "KB" => some 1000
    | "M" | "MiB" => some 1048576
    | "MB" => some 1000000
    | _ => none
  do return (← countOf? digits) * (← unit)

/-- A portion from the value of an option, where a sign says from which end it is counted. -/
def portion? (sign : UInt8) (bytes : Bool) (value : Bytes) : Option Portion :=
  match value with
  | b :: r =>
    if b = sign then (sizeOf? r).map (⟨bytes, true, ·⟩)
    else if b = 0x2D ∨ b = 0x2B then (sizeOf? r).map (⟨bytes, false, ·⟩)
    else (sizeOf? value).map (⟨bytes, false, ·⟩)
  | [] => none

/-- The old form of a count, a number behind a dash in front, as the option for it. -/
def modernCount (words : List Bytes) : List Bytes :=
  match words with
  | (0x2D :: d :: r) :: rest =>
    let digits := (d :: r).takeWhile fun b => 0x30 ≤ b && b ≤ 0x39
    if digits.length = r.length + 1 then bytesOf "-n" :: (d :: r) :: rest
    else if digits ≠ [] ∧ digits.length = r.length ∧ (d :: r).getLast? = some 0x63 then
      bytesOf "-c" :: digits :: rest
    else words
  | _ => words

/-- The contents of operands in parts, each under its name when there are several.  Where `isFront`, the
    part is in front, and what is behind it can still be read; `limit` is the most bytes it can have, when
    that is known. -/
def printParts (name : String) (isFront : Bool) (limit : Nat) (a : Arguments) (take : Bytes → Bytes) (s : Session) :
    Session :=
  let refused (word : Bytes) (fault : Files.Fault) (s : Session) : Session :=
    if fault = .isDirectory then fail name 1 (bytesOf "error reading " ++ shown word ++
      bytesOf ": Is a directory") s
    else fail name 1 (bytesOf "cannot open " ++ shown word ++ bytesOf (" for reading: " ++ reasonOf fault)) s
  let titled := (1 < a.operands.length || a.has 'v') && !a.has 'q'
  let (_, s) := (if a.operands.isEmpty then [[0x2D]] else a.operands).foldl (fun (first, s) word =>
    match startOf limit word s with
    | (.error fault, s) => (first, refused word fault s)
    | (.ok content, s) =>
      let title := if hasBytes word "-" then bytesOf "standard input" else word
      let heading := if titled then
          (if first then [] else [0x0A]) ++ bytesOf "==> " ++ title ++ bytesOf " <==\n"
        else []
      let part := take content
      let s := if isFront ∧ hasBytes word "-" then s.giveBack 0 (content.length - part.length) else s
      (false, s.print (heading ++ part))) (true, s)
  s

/-- The options that `head` and `tail` share. -/
def lineCountSpec (more : String) : Spec :=
  spec ("qvz" ++ more) "nc" [("lines", 'n'), ("bytes", 'c'), ("quiet", 'q'), ("silent", 'q'), ("verbose", 'v')]

/-- The portion that the options ask for. -/
def wantedPortion (sign : UInt8) (a : Arguments) : Option Portion :=
  match a.last? "nc" with
  | some (letter, value) => portion? sign (letter = 'c') value
  | none => some ⟨false, false, 10⟩

/-- The pieces of a content that are counted. -/
def units (bytes : Bool) (content : Bytes) : List Bytes :=
  if bytes then content.map ([·]) else keepEnds content

/-- Writes the first lines of files. -/
def head : Program := fun words =>
  withOptions "head" (lineCountSpec "") 1 (fun a s =>
    match wantedPortion 0x2D a with
    | none => fail "head" 1 (bytesOf "invalid number") s
    | some p =>
      printParts "head" (!p.other) (if p.bytes then p.count else 0) a (fun content =>
        let us := units p.bytes content
        (if p.other then us.take (us.length - p.count) else us.take p.count).flatten) s)
    (modernCount words)

/-- Writes the last lines of files. -/
def tail : Program := fun words =>
  let words := match words with
    | (0x2B :: d :: r) :: rest =>
      if (countOf? (d :: r)).isSome then bytesOf "-n" :: (0x2B :: d :: r) :: rest else words
    | _ => modernCount words
  withOptions "tail" (lineCountSpec "fF") 1 (fun a s =>
    match wantedPortion 0x2B a with
    | none => fail "tail" 1 (bytesOf "invalid number") s
    | some p =>
      printParts "tail" false 0 a (fun content =>
        let us := units p.bytes content
        (if p.other then us.drop (p.count - 1) else us.drop (us.length - p.count)).flatten) s)
    words

/-! ## Counting -/

/-- The words of a text, between blanks. -/
def wordCount (content : Bytes) : Nat :=
  let isBlank (b : UInt8) : Bool := b = 0x20 || (0x09 ≤ b && b ≤ 0x0D)
  (content.foldl (fun (n, inside) b => if isBlank b then (n, false) else (if inside then n else n + 1, true))
    ((0 : Nat), false)).1

/-- The length of the longest line. -/
def longestLine (content : Bytes) : Nat := ((linesOf content).map List.length).foldl max 0

/-- What is counted, in the order in which it is shown. -/
def countsOf (a : Arguments) (content : Bytes) : List Nat :=
  let usual := (a.last? "lwcmL").isNone
  let given (letter : Char) (always : Bool) (n : Nat) : List Nat := if a.has letter || always then [n] else []
  given 'l' usual (content.count 0x0A) ++ given 'w' usual (wordCount content) ++
    given 'm' false content.length ++ given 'c' usual content.length ++ given 'L' false (longestLine content)

/-- The width of the numbers: of the size of all files, and seven when something is no file. -/
def countWidth (a : Arguments) (s : Session) : Nat :=
  let operands := if a.operands.isEmpty then [[0x2D]] else a.operands
  let single := operands.length = 1 && (countsOf a []).length = 1
  if single then 1
  else
    let sizeOf (word : Bytes) : Option Nat :=
      if hasBytes word "-" then
        match s.channel? 0 with
        | some (_, channel) => match channel.medium with
          | .file _ => some (s.contentOf channel).length
          | _ => none
        | none => none
      else match s.files.read ⟨word⟩ with
        | .ok content => some content.length
        | .error .isDirectory => none
        | .error _ => some 0
    let sizes := operands.map sizeOf
    let total := (sizes.map (·.getD 0)).foldl (· + ·) 0
    max (Nat.toDigits 10 total).length (if sizes.any Option.isNone then 7 else 1)

/-- Counts lines, words, characters and bytes. -/
def wc : Program :=
  withOptions "wc" (spec "lwcmL" "" [("lines", 'l'), ("words", 'w'), ("bytes", 'c'), ("chars", 'm'),
      ("max-line-length", 'L')]) 1 fun a s =>
    let width := countWidth a s
    let line (counts : List Nat) (name : Bytes) : Bytes :=
      List.intercalate [0x20] (counts.map fun n => rightIn width (Session.decimal n)) ++
        (if name.isEmpty then [] else 0x20 :: name) ++ [0x0A]
    let add (xs ys : List Nat) : List Nat := if xs.isEmpty then ys else List.zipWith (· + ·) xs ys
    let (total, s) := (if a.operands.isEmpty then [[]] else a.operands).foldl (fun (total, s) word =>
      match contentOf (if word.isEmpty then [0x2D] else word) s with
      | (.ok content, s) => (add total (countsOf a content), s.print (line (countsOf a content) word))
      | (.error fault, s) => (total, cannotRead "wc" word fault s)) (([] : List Nat), s)
    if 1 < a.operands.length then
      s.print (line (if total.isEmpty then countsOf a [] else total) (bytesOf "total"))
    else s

/-! ## Parts of lines -/

/-- A range of positions, from one on; without an end it goes on. -/
structure Range where
  low : Nat
  high : Option Nat

/-- Whether a number lies in a range. -/
def Range.holds (r : Range) (n : Nat) : Bool := r.low ≤ n && r.high.all (n ≤ ·)

/-- The ranges of a list such as `1,3-5`. -/
def ranges? (list : Bytes) : Option (List Range) :=
  let parts := List.splitOn 0x2C (list.map fun b => if b = 0x20 then 0x2C else b)
  parts.mapM fun part =>
    match List.splitOn 0x2D part with
    | [n] => (countOf? n).map fun n => ⟨n, some n⟩
    | [[], m] => (countOf? m).map fun m => ⟨1, some m⟩
    | [n, []] => (countOf? n).map fun n => ⟨n, none⟩
    | [n, m] => do return ⟨← countOf? n, some (← countOf? m)⟩
    | _ => none

/-- The items at the chosen positions. -/
def chosen (ranges : List Range) (complement : Bool) (items : List Bytes) : List Bytes :=
  (items.zipIdx.filter fun (_, i) => (ranges.any fun r => r.holds (i + 1)) != complement).map Prod.fst

/-- A byte string between each two. -/
def joinWith (between : Bytes) (items : List Bytes) : Bytes := (items.intersperse between).flatten

/-- Writes the chosen bytes or fields of every line. -/
def cut : Program :=
  withOptions "cut" (spec "snzK" "bcfdO" [("bytes", 'b'), ("characters", 'c'), ("fields", 'f'), ("delimiter", 'd'),
      ("only-delimited", 's'), ("complement", 'K'), ("output-delimiter", 'O')]) 1 fun a s =>
    match a.last? "bcf" with
    | none => misuse "cut" 1 "you must specify a list of bytes, characters, or fields" s
    | some (letter, list) =>
      match ranges? list with
      | none => misuse "cut" 1 "invalid byte, character or field list" s
      | some ranges =>
        let delimiter := match a.value? 'd' with
          | some (b :: _) => b
          | some [] => 0
          | none => 0x09
        if letter ≠ 'f' ∧ a.has 'd' then
          misuse "cut" 1 "an input delimiter may be specified only when operating on fields" s
        else if letter = 'f' ∧ (a.value? 'd').any (1 < ·.length) then
          misuse "cut" 1 "the delimiter must be a single character" s
        else
          let cutLine (line : Bytes) : List Bytes :=
            if letter ≠ 'f' then
              [joinWith ((a.value? 'O').getD []) (chosen ranges (a.has 'K') (line.map ([·])))]
            else if !line.contains delimiter then (if a.has 's' then [] else [line])
            else
              [joinWith ((a.value? 'O').getD [delimiter])
                (chosen ranges (a.has 'K') (List.splitOn delimiter line))]
          printEach "cut" false a.operands (fun content => unlines ((linesOf content).flatMap cutLine)) s

/-! ## Files side by side -/

/-- The lines of several files side by side, the separators taken in turn. -/
def sideBySide (separators : Bytes) : Nat → List (List Bytes) → List Bytes
  | 0, _ => []
  | fuel + 1, files =>
    if files.all List.isEmpty then []
    else
      let firsts := files.map (·.headD [])
      let between := (List.range (firsts.length - 1)).map fun i =>
        ((separators[i % separators.length]?).toList)
      let line := (firsts.zip (between ++ [[]])).flatMap fun (l, b) => l ++ b
      line :: sideBySide separators fuel (files.map List.tail)

/-- The separators that a list names, where a backslash has a meaning. -/
def separatorList : Bytes → Bytes
  | 0x5C :: 0x6E :: r => 0x0A :: separatorList r
  | 0x5C :: 0x74 :: r => 0x09 :: separatorList r
  | 0x5C :: 0x5C :: r => 0x5C :: separatorList r
  | 0x5C :: 0x30 :: r => 0 :: separatorList r
  | b :: r => b :: separatorList r
  | [] => []

/-- The lines of one file in one line, the separators taken in turn. -/
def serial (separators : Bytes) (i : Nat) : List Bytes → Bytes
  | [] => []
  | [line] => line
  | line :: rest =>
    let between := if separators.isEmpty then [] else (separators[i % separators.length]?).toList
    line ++ between ++ serial separators (i + 1) rest

/-- Writes the lines of files side by side. -/
def paste : Program :=
  withOptions "paste" (spec "sz" "d" [("serial", 's'), ("delimiters", 'd')]) 1 fun a s =>
    let separators := (a.value? 'd').elim [0x09] separatorList
    let (found, s) := contents a.operands (cannotRead "paste") s
    if s.status ≠ 0 then s
    else
      let files := found.map fun (_, content) => linesOf content
      let lines := if a.has 's' then files.map (serial separators 0)
        else sideBySide separators ((files.map List.length).foldl max 0) files
      s.print (unlines lines)

/-- The lines of two files in order: in which of three columns each stands. -/
def columns : Nat → List Bytes → List Bytes → List (Nat × Bytes)
  | 0, _, _ => []
  | _, [], ys => ys.map (2, ·)
  | _, xs, [] => xs.map (1, ·)
  | fuel + 1, x :: xs, y :: ys =>
    if x = y then (3, x) :: columns fuel xs ys
    else if x.lex y (· < ·) then (1, x) :: columns fuel xs (y :: ys)
    else (2, y) :: columns fuel (x :: xs) ys

/-- Writes the lines of two ascending files in three columns: of the first, of the second, of both. -/
def comm : Program :=
  withOptions "comm" (spec "123" "" []) 1 fun a s =>
    match a.operands with
    | [_, _] =>
      let (found, s) := contents a.operands (cannotRead "comm") s
      match found with
      | [(_, x), (_, y)] =>
        let (xs, ys) := (linesOf x, linesOf y)
        let hidden (n : Nat) : Bool := a.has (Nat.digitChar n)
        let tabs (n : Nat) : Nat := ((List.range n).filter fun k => 0 < k && !hidden k).length
        s.print (((columns (xs.length + ys.length) xs ys).filter (!hidden ·.1)).flatMap fun (n, line) =>
          List.replicate (tabs n) 0x09 ++ line ++ [0x0A])
      | _ => s
    | _ => misuse "comm" 1 "missing operand" s

/-! ## Numbered and folded lines -/

/-- Writes lines behind their numbers. -/
def nl : Program :=
  withOptions "nl" (spec "p" "bhfdilnsvw" [("body-numbering", 'b'), ("number-width", 'w'), ("number-separator", 's'),
      ("starting-line-number", 'v'), ("line-increment", 'i'), ("number-format", 'n')]) 1 fun a s =>
    let width := ((a.value? 'w').bind countOf?).getD 6
    let separator := (a.value? 's').getD [0x09]
    let start := ((a.value? 'v').bind countOf?).getD 1
    let increment := ((a.value? 'i').bind countOf?).getD 1
    let style := textOf ((a.value? 'b').getD [0x74])
    let form (n : Nat) : Bytes :=
      let ds := Session.decimal n
      match textOf ((a.value? 'n').getD []) with
      | "ln" => ds ++ List.replicate (width - ds.length) 0x20
      | "rz" => List.replicate (width - ds.length) 0x30 ++ ds
      | _ => rightIn width ds
    let counted (line : Bytes) : Bool := style = "a" || (style = "t" && line ≠ [])
    let number (content : Bytes) : Bytes :=
      let (_, out) := (linesOf content).foldl (fun ((n : Nat), (out : List Bytes)) line =>
        if counted line then (n + increment, (form n ++ separator ++ line) :: out)
        else (n, (List.replicate (width + separator.length) 0x20 ++ line) :: out)) (start, [])
      unlines out.reverse
    printTogether "nl" false a.operands number s

/-- Pieces of at most `width` bytes. -/
def piecesOf (width : Nat) : Nat → Bytes → List Bytes
  | 0, _ => []
  | fuel + 1, s => if s.length ≤ width then [s] else s.take width :: piecesOf width fuel (s.drop width)

/-- Breaks lines that are too long. -/
def fold : Program :=
  withOptions "fold" (spec "bs" "w" [("width", 'w'), ("bytes", 'b'), ("spaces", 's')]) 1 fun a s =>
    let width := max 1 (((a.value? 'w').bind countOf?).getD 80)
    printEach "fold" false a.operands (fun content =>
      unlines ((linesOf content).flatMap fun l => piecesOf width (l.length + 1) l)) s

/-! ## Repeated lines -/

/-- Lines in groups of neighbours that are equal for `same`. -/
def groups (same : Bytes → Bytes → Bool) : List Bytes → List (Bytes × Nat)
  | [] => []
  | line :: rest =>
    match groups same rest with
    | (first, n) :: more => if same line first then (line, n + 1) :: more else (line, 1) :: (first, n) :: more
    | [] => [(line, 1)]

/-- A line without its first fields. -/
def dropFields : Nat → Bytes → Bytes
  | 0, s => s
  | n + 1, s =>
    let isBlank (b : UInt8) : Bool := b = 0x20 || b = 0x09
    dropFields n ((s.dropWhile isBlank).dropWhile fun b => !isBlank b)

/-- A letter as a small one. -/
def lowerByte (b : UInt8) : UInt8 := if 0x41 ≤ b ∧ b ≤ 0x5A then b + 0x20 else b

/-- Writes lines once that stand next to each other more often. -/
def uniq : Program :=
  withOptions "uniq" (spec "cdDuiz" "fsw" [("count", 'c'), ("repeated", 'd'), ("unique", 'u'), ("ignore-case", 'i'),
      ("skip-fields", 'f'), ("skip-chars", 's'), ("check-chars", 'w')]) 1 fun a s =>
    let number (letter : Char) : Option Nat := (a.value? letter).bind countOf?
    let key (line : Bytes) : Bytes :=
      let rest := (dropFields ((number 'f').getD 0) line).drop ((number 's').getD 0)
      let rest := match number 'w' with
        | some n => rest.take n
        | none => rest
      if a.has 'i' then rest.map lowerByte else rest
    let (found, s) := contents (a.operands.take 1) (cannotRead "uniq") s
    match found with
    | [] => s
    | (_, content) :: _ =>
      let kept := (groups (fun x y => key x = key y) (linesOf content)).filter fun (_, n) =>
        (!a.has 'd' || 1 < n) && (!a.has 'u' || n = 1)
      let shownLine (g : Bytes × Nat) : Bytes :=
        if a.has 'c' then rightIn 7 (Session.decimal g.2) ++ 0x20 :: g.1 else g.1
      let out := unlines (kept.map shownLine)
      match a.operands.drop 1 with
      | [] => s.print out
      | word :: _ =>
        match s.files.write ⟨word⟩ (.replace out) with
        | .ok files => { s with files }
        | .error fault => cannotRead "uniq" word fault s

/-- The input, put out and written into files as well. -/
def tee : Program :=
  withOptions "tee" (spec "aip" "" [("append", 'a'), ("ignore-interrupts", 'i')]) 1 fun a s =>
    let (content, s) := s.takeAll 0
    let s := s.print content
    a.operands.foldl (fun s word =>
      if hasBytes word "/dev/null" then s
      else
        match s.files.write ⟨word⟩ (if a.has 'a' then .append content else .replace content) with
        | .ok files => { s with files }
        | .error fault => cannotRead "tee" word fault s) s

/-- Writes a line again and again, until the reader has gone away. -/
def yes : Program := fun words s =>
  let line := (if words.isEmpty then bytesOf "y" else Session.spaced words) ++ [0x0A]
  (s.print (List.replicate 20000 line).flatten).withStatus 141

end BenchSweep.Machine.Shell.Utility
