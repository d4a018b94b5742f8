/-
  The words of the system's programs.

  Options stand anywhere among the words before `--`: letters behind a dash, or long names behind two.  A
  letter may want a value, which is the rest of its word or the next word.  Each long name stands for a
  letter.

  Part of the stand-in for the machine (`Machine/System`).
-/
import BenchSweep.Machine.Shell.Session

namespace BenchSweep.Machine.Shell.Utility

/-- The options that a program knows. -/
structure Spec where
  /-- Letters without a value. -/
  flags : String
  /-- Letters with a value. -/
  valued : String
  /-- Long names, with the letters for which they stand. -/
  long : List (String × Char)
  /-- Letters whose value is what is left of the word, if anything is. -/
  attached : String

/-- Options of which none has its value only in its own word. -/
def spec (flags valued : String) (long : List (String × Char)) : Spec := ⟨flags, valued, long, ""⟩

/-- The options of a program, in order, and its operands. -/
structure Arguments where
  options : List (Char × Bytes)
  operands : List Bytes

namespace Arguments

/-- Whether an option was given. -/
def has (a : Arguments) (letter : Char) : Bool := a.options.any (·.1 = letter)

/-- The value of the last option with a letter. -/
def value? (a : Arguments) (letter : Char) : Option Bytes := a.options.reverse.lookup letter

/-- The last one of some options that is given. -/
def last? (a : Arguments) (letters : String) : Option (Char × Bytes) :=
  a.options.reverse.find? fun o => letters.toList.contains o.1

/-- All values that were given with a letter, in order. -/
def values (a : Arguments) (letter : Char) : List Bytes :=
  a.options.filterMap fun o => if o.1 = letter then some o.2 else none

/-- Puts an option in front. -/
def addOption (letter : Char) (value : Bytes) (a : Arguments) : Arguments :=
  { a with options := (letter, value) :: a.options }

/-- Puts an operand in front. -/
def addOperand (word : Bytes) (a : Arguments) : Arguments := { a with operands := word :: a.operands }

end Arguments

/-- What a long option is, by its name: the letter and its own value. -/
def longOption (known : Spec) (word : Bytes) : Except String (Char × Option Bytes) :=
  let name := textOf (word.takeWhile (· ≠ 0x3D))
  let value := match word.dropWhile (· ≠ 0x3D) with
    | [] => none
    | _ :: v => some v
  match known.long.lookup name with
  | some letter => .ok (letter, value)
  | none =>
    match known.long.filter fun (long, _) => name.toList.isPrefixOf long.toList with
    | [(_, letter)] => .ok (letter, value)
    | [] => .error ("unrecognized option '--" ++ textOf word ++ "'")
    | (_, letter) :: others =>
      if others.all (·.2 = letter) then .ok (letter, value)
      else .error ("option '--" ++ textOf word ++ "' is ambiguous")

/-- The letters of a word of options, and whether the last one wants the next word. -/
def letters (known : Spec) : Bytes → Except String (List (Char × Bytes) × Option Char)
  | [] => .ok ([], none)
  | b :: r =>
    let c := Char.ofNat b.toNat
    if known.flags.toList.contains c then do
      let (more, pending) ← letters known r
      return ((c, []) :: more, pending)
    else if known.attached.toList.contains c then .ok ([(c, r)], none)
    else if known.valued.toList.contains c then
      .ok (if r.isEmpty then ([], some c) else ([(c, r)], none))
    else .error ("invalid option -- '" ++ String.ofList [c] ++ "'")

/-- The options and operands among words, of which the first `fuel` are looked at.  Unless they are `mixed`,
    no option stands behind an operand. -/
def parseWithin (known : Spec) (mixed : Bool) : Nat → List Bytes → Except String Arguments
  | 0, _ => .ok ⟨[], []⟩
  | _, [] => .ok ⟨[], []⟩
  | fuel + 1, word :: rest =>
    if hasBytes word "--" then .ok ⟨[], rest⟩
    else if word.take 2 = [0x2D, 0x2D] then do
      let (letter, value) ← longOption known (word.drop 2)
      if known.valued.toList.contains letter then
        match value, rest with
        | some value, _ => return (← parseWithin known mixed fuel rest).addOption letter value
        | none, value :: rest => return (← parseWithin known mixed fuel rest).addOption letter value
        | none, [] => throw ("option '" ++ textOf word ++ "' requires an argument")
      else return (← parseWithin known mixed fuel rest).addOption letter (value.getD [])
    else if word.head? = some 0x2D ∧ 1 < word.length then do
      let (found, pending) ← letters known word.tail
      let (found, rest) ← match pending, rest with
        | none, _ => pure (found, rest)
        | some c, value :: rest => pure (found ++ [(c, value)], rest)
        | some c, [] => throw ("option requires an argument -- '" ++ String.ofList [c] ++ "'")
      let more ← parseWithin known mixed fuel rest
      return { more with options := found ++ more.options }
    else if mixed then return (← parseWithin known mixed fuel rest).addOperand word
    else return ⟨[], word :: rest⟩

/-- Options and operands of all words. -/
def parse (known : Spec) (words : List Bytes) : Except String Arguments :=
  parseWithin known true words.length words

/-- The options in front of the first operand, and the words from there on. -/
def parseFront (known : Spec) (words : List Bytes) : Except String Arguments :=
  parseWithin known false words.length words

/-- The words of a program without its name, and the state of the shell that calls it; the state after it. -/
abbrev Program := List Bytes → Session → Session

/-- The programs that say their name without the directories with which they were called. -/
def briefNames : List String := ["rev", "setsid"]

/-- How a program says its name: as it was called, if it was called by a path to that name. -/
def titleOf (name : String) (s : Session) : Bytes :=
  if bytesOf ("/" ++ name) <:+ s.calledAs ∧ name ∉ briefNames then s.calledAs else bytesOf name

/-- Ends a program with a complaint about how it was called. -/
def misuse (name : String) (status : Nat) (text : String) (s : Session) : Session :=
  let title := titleOf name s
  let lines := title ++ bytesOf (": " ++ text ++ "\nTry '") ++ title ++
    bytesOf " --help' for more information.\n"
  ((s.put? 2 lines).getD s).withStatus status

/-- A program with options; a call that it does not understand leaves the status `failure`. -/
def withOptions (name : String) (known : Spec) (failure : Nat) (run : Arguments → Session → Session) :
    Program := fun words s =>
  match parse known words with
  | .ok arguments => run arguments (s.withStatus 0)
  | .error text => misuse name failure text s

/-- Complains and leaves a status. -/
def fail (name : String) (status : Nat) (text : Bytes) (s : Session) : Session :=
  ((s.put? 2 (titleOf name s ++ bytesOf ": " ++ text ++ [0x0A])).getD s).withStatus status

/-- Why an operation on files was refused, in words. -/
def reasonOf (fault : Files.Fault) : String :=
  match fault with
  | .notFound => "No such file or directory"
  | .permissionDenied => "Permission denied"
  | .alreadyExists => "File exists"
  | .notDirectory => "Not a directory"
  | .isDirectory => "Is a directory"
  | .nameTooLong => "File name too long"
  | fault => fault.message

/-- A text between single quotation marks. -/
def shown (word : Bytes) : Bytes := 0x27 :: word ++ [0x27]

/-- The content that an operand names; `-` names the standard input.  A file that is known by the path of a
    stream is read from its beginning. -/
def contentOf (word : Bytes) (s : Session) : Except Files.Fault Bytes × Session :=
  if hasBytes word "-" then
    let (bytes, s) := s.takeAll 0
    (.ok bytes, s)
  else match Session.deviceStream? word with
    | none => (s.files.read ⟨word⟩, s)
    | some stream =>
      match s.channel? stream with
      | none => (.error .notFound, s)
      | some (_, ⟨.file location, _, _, _, _⟩) =>
        (match s.files.node? location with
          | some (.file content _) => .ok content
          | _ => .error .notFound, s)
      | some _ =>
        let (bytes, s) := s.takeAll stream
        (.ok bytes, s)

/-- The location of an operand and how much of it is read already, if it is a file. -/
def placeOf? (word : Bytes) (s : Session) : Option (Location × Nat) :=
  if hasBytes word "-" then
    match s.channel? 0 with
    | some (_, ⟨.file location, position, _, _, _⟩) => some (location, position)
    | _ => none
  else (s.files.find ⟨word⟩).toOption.map fun place => (place.location, 0)

/-- The content that an operand names, of which no more than `limit` bytes are wanted: a device whose
    content has no end gives as many zeros. -/
def startOf (limit : Nat) (word : Bytes) (s : Session) : Except Files.Fault Bytes × Session :=
  let endless := ["/dev/zero", "/dev/urandom", "/dev/random"].filterMap fun path =>
    (s.files.find ⟨bytesOf path⟩).toOption.map (·.location)
  if (placeOf? word s).any fun place => endless.contains place.1 then (.ok (List.replicate limit 0), s)
  else contentOf word s

/-- Whether what a program puts out goes to an operand, behind what is left to read there. -/
def isOutput (word : Bytes) (s : Session) : Bool :=
  match s.channel? 1, placeOf? word s with
  | some (_, channel), some (location, read) =>
    channel.medium = .file location &&
      read < (if channel.appends then (s.contentOf channel).length else channel.position)
  | _, _ => false

/-- The contents of some operands, or of the standard input when there are none, each with its name; for one
    that cannot be read, `refused` complains. -/
def contents (operands : List Bytes) (refused : Bytes → Files.Fault → Session → Session) (s : Session) :
    List (Bytes × Bytes) × Session :=
  (if operands.isEmpty then [[0x2D]] else operands).foldl (fun (found, s) word =>
    match contentOf word s with
    | (.ok content, s) => (found ++ [(word, content)], s)
    | (.error fault, s) => (found, refused word fault s)) ([], s)

/-- A complaint about an operand that cannot be read. -/
def cannotRead (name : String) (word : Bytes) (fault : Files.Fault) (s : Session) : Session :=
  fail name 1 (word ++ bytesOf (": " ++ reasonOf fault)) s

/-- The lines of a content, without their ends. -/
def linesOf (content : Bytes) : List Bytes :=
  let parts := List.splitOn 0x0A content
  if parts.getLast? = some [] then parts.dropLast else parts

/-- Lines, each with its end. -/
def unlines (lines : List Bytes) : Bytes := lines.flatMap (· ++ [0x0A])

/-- The lines of a content, the last one without an end if it has none. -/
def keepEnds (content : Bytes) : List Bytes :=
  let lines := linesOf content
  if content.getLast?.all (· = 0x0A) then lines.map (· ++ [0x0A])
  else lines.dropLast.map (· ++ [0x0A]) ++ lines.getLast?.toList

end BenchSweep.Machine.Shell.Utility
