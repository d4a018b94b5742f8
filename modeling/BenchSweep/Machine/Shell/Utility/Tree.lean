/-
  Programs that make, change and remove files and directories.

  Part of the stand-in for the machine (`Machine/System`).
-/
import BenchSweep.Machine.Shell.Expansion
import BenchSweep.Machine.Shell.Utility.Lines

namespace BenchSweep.Machine.Shell.Utility

/-! ## Names

  These work on the spelling of a path and never look at the tree. -/

/-- What stands in front of the last component of a path, as text. -/
def directoryPart (s : Bytes) : Bytes :=
  let isSlash (b : UInt8) : Bool := b = Path.slash
  let back := s.reverse.dropWhile isSlash
  if back.isEmpty then (if s.isEmpty then [Path.dot] else [Path.slash])
  else
    let front := back.dropWhile (fun b => !isSlash b)
    if front.isEmpty then [Path.dot]
    else
      let kept := front.dropWhile isSlash
      if kept.isEmpty then [Path.slash] else kept.reverse

/-- The last component of a path, as text. -/
def lastPart (s : Bytes) : Bytes :=
  let isSlash (b : UInt8) : Bool := b = Path.slash
  let back := s.reverse.dropWhile isSlash
  if back.isEmpty then (if s.isEmpty then [] else [Path.slash])
  else (back.takeWhile (fun b => !isSlash b)).reverse

/-- A name in a directory, as a path. -/
def inside (directory name : Bytes) : Bytes :=
  if directory.getLast? = some Path.slash then directory ++ name else directory ++ Path.slash :: name

/-- Writes the directories of its operands. -/
def dirname : Program :=
  withOptions "dirname" (spec "z" "" []) 1 fun a s =>
    if a.operands.isEmpty then misuse "dirname" 1 "missing operand" s
    else s.print (unlines (a.operands.map directoryPart))

/-- Writes the last names of its operands, without an ending. -/
def basename : Program :=
  withOptions "basename" (spec "az" "s" [("multiple", 'a'), ("suffix", 's')]) 1 fun a s =>
    let cut (ending w : Bytes) : Bytes :=
      let last := lastPart w
      if ending.isSuffixOf last ∧ ending ≠ last then last.take (last.length - ending.length) else last
    match a.operands, a.has 'a' || a.has 's' with
    | [], _ => misuse "basename" 1 "missing operand" s
    | words, true => s.print (unlines (words.map (cut ((a.value? 's').getD []))))
    | [w], _ => s.print (cut [] w ++ [0x0A])
    | [w, ending], _ => s.print (cut ending w ++ [0x0A])
    | _ :: _ :: extra :: _, _ => misuse "basename" 1 ("extra operand '" ++ textOf extra ++ "'") s

/-- Writes the working directory. -/
def pwd : Program :=
  withOptions "pwd" (spec "LP" "" []) 1 fun _ s =>
    s.print (Path.slash :: List.intercalate [Path.slash] s.files.workingDirectory.reverse ++ [0x0A])

/-! ## Making and removing

  The tree does the work, by the operations that the model has for it; a program reads its words, and says
  what was refused in its own way. -/

/-- Handles the operands one after the other; a refusal leaves the status 1 and does not stop it. -/
def eachOperand (name : String) (operands : List Bytes) (run : Bytes → Session → Except Bytes Session)
    (s : Session) : Session :=
  operands.foldl (fun s w =>
    match run w s with
    | .ok s => s
    | .error text => fail name 1 text s) s

/-- The words for a fault, behind a colon. -/
def because (fault : Files.Fault) : Bytes := bytesOf (": " ++ reasonOf fault)

/-- Keeps what has been done, with a complaint if it was refused in the middle. -/
def withFault (name : String) (text : Bytes) (result : Except Files.Fault Unit × Files) (s : Session) : Session :=
  match result with
  | (.ok (), files) => { s with files }
  | (.error fault, files) => fail name 1 (text ++ because fault) { s with files }

/-- Makes directories, and those above them if asked to. -/
def mkdir : Program :=
  withOptions "mkdir" (spec "pvZ" "m" [("parents", 'p'), ("mode", 'm'), ("verbose", 'v')]) 1 fun a s =>
    if a.operands.isEmpty then misuse "mkdir" 1 "missing operand" s
    else a.operands.foldl (fun s w =>
      let text := bytesOf "cannot create directory " ++ shown w
      let result : Except Files.Fault Unit × Files :=
        if w.isEmpty then (.error .notFound, s.files)
        else if a.has 'p' then s.files.makeDirectories ⟨w⟩
        else match s.files.makeDirectory ⟨w⟩ with
          | .ok files => (.ok (), files)
          | .error fault => (.error fault, s.files)
      let isNew := !s.files.pathExists ⟨w⟩
      let s := withFault "mkdir" text result s
      if a.has 'v' ∧ isNew ∧ result.1.toBool then
        s.print (bytesOf "mkdir: created directory " ++ shown w ++ [0x0A])
      else s) s

/-- The names of an entry and of those above it, the entry first. -/
def ancestors : Nat → Bytes → List Bytes
  | 0, _ => []
  | fuel + 1, w =>
    let above := directoryPart w
    if above = [Path.dot] ∨ above = [Path.slash] then [w] else w :: ancestors fuel above

/-- Removes directories that have no entries. -/
def rmdir : Program :=
  let long := [("parents", 'p'), ("verbose", 'v'), ("ignore-fail-on-non-empty", 'I')]
  withOptions "rmdir" (spec "pvI" "" long) 1 fun a s =>
    if a.operands.isEmpty then misuse "rmdir" 1 "missing operand" s
    else
      let one (w : Bytes) (s : Session) : Except Bytes Session :=
        let refuse (reason : String) : Except Bytes Session :=
          .error (bytesOf "failed to remove " ++ shown w ++ bytesOf (": " ++ reason))
        match s.files.find ⟨w⟩ with
        | .error fault => refuse (reasonOf fault)
        | .ok ⟨_, .file _ _⟩ => refuse "Not a directory"
        | .ok ⟨location, .directory []⟩ => .ok { s with files := s.files.erase location }
        | .ok _ => if a.has 'I' then .ok s else refuse "Directory not empty"
      -- with parents, each operand is followed by the directories above it
      let words := if a.has 'p' then a.operands.flatMap fun w => ancestors w.length w else a.operands
      eachOperand "rmdir" words one s

/-- Removes files, and directories with all that is in them if asked to. -/
def rm : Program :=
  withOptions "rm" (spec "frRivId" "" [("force", 'f'), ("recursive", 'r'), ("dir", 'd'), ("verbose", 'v')]) 1 fun a s =>
    if a.operands.isEmpty then (if a.has 'f' then s else misuse "rm" 1 "missing operand" s)
    else
      let recursive := a.has 'r' || a.has 'R'
      let one (w : Bytes) (s : Session) : Except Bytes Session :=
        let refuse (reason : String) : Except Bytes Session :=
          .error (bytesOf "cannot remove " ++ shown w ++ bytesOf (": " ++ reason))
        let last := lastPart w
        if recursive ∧ (last = [Path.dot] ∨ last = [Path.dot, Path.dot]) then
          .error (bytesOf "refusing to remove '.' or '..' directory: skipping " ++ shown w)
        else match s.files.find ⟨w⟩ with
          | .error fault =>
            if a.has 'f' ∧ (fault = .notFound ∨ fault = .notDirectory) then .ok s else refuse (reasonOf fault)
          | .ok ⟨location, .file _ _⟩ =>
            let s := s.remove location
            .ok (if a.has 'v' then s.print (bytesOf "removed " ++ shown w ++ [0x0A]) else s)
          | .ok ⟨location, .directory entries⟩ =>
            if recursive then
              -- the root cannot go
              if location.isEmpty then refuse "Device or resource busy"
              else .ok (s.remove location)
            else if a.has 'd' then
              if entries.isEmpty then .ok { s with files := s.files.erase location } else refuse "Directory not empty"
            else refuse "Is a directory"
      eachOperand "rm" a.operands one s

/-- Removes one file. -/
def unlink : Program :=
  withOptions "unlink" (spec "" "" []) 1 fun a s =>
    match a.operands with
    | [w] =>
      match s.files.find ⟨w⟩ with
      | .ok ⟨location, .file _ _⟩ => s.remove location
      | .ok _ => fail "unlink" 1 (bytesOf "cannot unlink " ++ shown w ++ bytesOf ": Is a directory") s
      | .error fault => fail "unlink" 1 (bytesOf "cannot unlink " ++ shown w ++ because fault) s
    | _ => misuse "unlink" 1 "missing operand" s

/-- Makes files that are missing. -/
def touch : Program :=
  withOptions "touch" (spec "acfhm" "drt" [("no-create", 'c'), ("date", 'd'), ("reference", 'r')]) 1 fun a s =>
    if a.operands.isEmpty then misuse "touch" 1 "missing file operand" s
    else
      let one (w : Bytes) (s : Session) : Except Bytes Session :=
        if s.files.pathExists ⟨w⟩ ∨ hasBytes w "-" then .ok s
        else if a.has 'c' then .ok s
        else match s.files.write ⟨w⟩ (.append []) with
          | .ok files => .ok { s with files }
          | .error fault =>
            -- a name with a separator behind it that does not exist
            let fault := if fault = .isDirectory then .notFound else fault
            .error (bytesOf "cannot touch " ++ shown w ++ because fault)
      eachOperand "touch" a.operands one s

/-- Cuts or extends files to a size. -/
def truncate : Program :=
  withOptions "truncate" (spec "co" "sr" [("size", 's'), ("no-create", 'c')]) 1 fun a s =>
    match a.value? 's' with
    | none => misuse "truncate" 1 "you must specify either '--size' or '--reference'" s
    | some value =>
      let (sign, digits) := match value with
        | 0x2B :: r => (1, r)
        | 0x2D :: r => (2, r)
        | r => (0, r)
      match sizeOf? digits with
      | none => fail "truncate" 1 (bytesOf "Invalid number: " ++ shown value) s
      | some n =>
        let one (w : Bytes) (s : Session) : Except Bytes Session :=
          let old := (s.files.read ⟨w⟩).toOption.getD []
          if a.has 'c' ∧ !s.files.pathExists ⟨w⟩ then .ok s
          else
            let size := if sign = 1 then old.length + n else if sign = 2 then old.length - n else n
            let new := old.take size ++ List.replicate (size - old.length) 0
            match s.files.write ⟨w⟩ (.replace new) with
            | .ok files => .ok { s with files }
            | .error fault => .error (bytesOf "cannot open " ++ shown w ++ bytesOf " for writing" ++ because fault)
        eachOperand "truncate" a.operands one s

/-! ## Modes

  Of a mode only one thing counts here, whether the file can be run. -/

/-- Whether a file is executable after a change such as `u+x` or `755`. -/
def modeChange? (word : Bytes) (executable : Bool) : Option Bool :=
  if word ≠ [] ∧ word.all (fun b => 0x30 ≤ b && b ≤ 0x37) then
    some ((word.reverse.take 3).any fun b => (b.toNat - 48) % 2 = 1)
  else
    (List.splitOn 0x2C word).foldlM (fun executable clause =>
      let who := clause.takeWhile fun b => (bytesOf "ugoa").contains b
      match clause.drop who.length with
      | [] => none
      | sign :: r =>
        if r.any fun b => !(bytesOf "rwxXstugo").contains b then none
        else
          let runs := r.contains 0x78 || (r.contains 0x58 && executable)
          -- a clause for others alone takes nothing from the owner
          let all := who.isEmpty || who.contains 0x61 || who.contains 0x75
          match Char.ofNat sign.toNat with
          | '+' => some (executable || runs)
          | '-' => some (if runs && all then false else executable)
          | '=' => some (if all then runs else executable || runs)
          | _ => none) executable

mutual

/-- A node with the mode of every file in it changed. -/
def changeModes (change : Bool → Bool) : Node → Node
  | .file content executable => .file content (change executable)
  | .directory entries => .directory (changeModesAmong change entries)

/-- The same for entries, one after the other. -/
def changeModesAmong (change : Bool → Bool) : List (Name × Node) → List (Name × Node)
  | [] => []
  | (n, node) :: r => (n, changeModes change node) :: changeModesAmong change r

end

/-- Words in which a mode that begins with a dash is no option. -/
def modeFirst (words : List Bytes) : List Bytes :=
  match words with
  | (0x2D :: c :: r) :: rest =>
    if (bytesOf "rwxX").contains c ∧ (modeChange? (0x2D :: c :: r) false).isSome then
      bytesOf "--" :: (0x2D :: c :: r) :: rest
    else words
  | _ => words

/-- Changes whether files can be run. -/
def chmod : Program := fun words =>
  withOptions "chmod" (spec "cfvR" "" [("recursive", 'R'), ("silent", 'f'), ("quiet", 'f')]) 1 (fun a s =>
    match a.operands with
    | [] => misuse "chmod" 1 "missing operand" s
    | [mode] => misuse "chmod" 1 ("missing operand after '" ++ textOf mode ++ "'") s
    | mode :: operands =>
      if (modeChange? mode false).isNone then misuse "chmod" 1 ("invalid mode: '" ++ textOf mode ++ "'") s
      else
        let change (executable : Bool) : Bool := (modeChange? mode executable).getD executable
        let one (w : Bytes) (s : Session) : Except Bytes Session :=
          match s.files.find ⟨w⟩ with
          | .error fault => .error (bytesOf "cannot access " ++ shown w ++ because fault)
          | .ok ⟨location, .file content executable⟩ =>
            .ok { s with files := s.files.put location (.file content (change executable)) }
          | .ok ⟨location, node⟩ =>
            if a.has 'R' then .ok { s with files := s.files.put location (changeModes change node) } else .ok s
        eachOperand "chmod" operands one s) (modeFirst words)

end BenchSweep.Machine.Shell.Utility
