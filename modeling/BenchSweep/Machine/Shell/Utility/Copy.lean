/-
  Programs that copy and move files and directories.

  All of them take things and a place: one thing and its new name, or several things and a directory.
  `placement` reads the operands in this way and `placeAll` goes through the things, so each program only
  says what it does with one of them.

  Part of the stand-in for the machine (`Machine/System`).
-/
import BenchSweep.Machine.Shell.Utility.Tree

namespace BenchSweep.Machine.Shell.Utility

/-- Where something is put: below a directory that is there, or in the place itself. -/
def targetOf (files : Files) (target source : Bytes) (whole : Bool) : Bytes :=
  if !whole ∧ files.isDirectory ⟨target⟩ then inside target (lastPart source) else target

mutual

/-- A node copied over what stands in its place: files keep the mode that they have, and directories what
    else is in them. -/
def copyOver (old : Option Node) : Node → Node
  | .file content executable =>
    match old with
    | some (.file _ kept) => .file content kept
    | _ => .file content executable
  | .directory entries =>
    match old with
    | some (.directory there) => .directory (copyAmong there entries)
    | _ => .directory (copyAmong [] entries)

/-- The same for entries, one after the other. -/
def copyAmong (there : List (Name × Node)) : List (Name × Node) → List (Name × Node)
  | [] => there
  | (n, node) :: r => copyAmong (Node.putEntry n (copyOver (there.lookup n) node) there) r

end

/-- The operands of a program that puts things into a place: the things, the place, and whether it must be a
    directory. -/
def placement (name : String) (a : Arguments) (s : Session) : Except Session (List Bytes × Bytes × Bool) :=
  match a.value? 't', a.operands with
  | _, [] => .error (misuse name 1 "missing file operand" s)
  | some target, sources => .ok (sources, target, true)
  | none, [w] => .error (misuse name 1 ("missing destination file operand after '" ++ textOf w ++ "'") s)
  | none, words => .ok (words.dropLast, words.getLast?.getD [], 2 < words.length)

/-- Puts things into a place, one after the other. -/
def placeAll (name : String) (a : Arguments) (one : Bytes → Bytes → Session → Except Bytes Session)
    (s : Session) : Session :=
  match placement name a s with
  | .error s => s
  | .ok (sources, target, isPlace) =>
    if isPlace ∧ !s.files.isDirectory ⟨target⟩ then
      fail name 1 (bytesOf "target " ++ shown target ++
        bytesOf (if s.files.pathExists ⟨target⟩ then ": Not a directory" else ": No such file or directory")) s
    else
      eachOperand name sources (fun source s => one source (targetOf s.files target source (a.has 'T')) s) s

/-- Puts a node in the place of a path. -/
def putAt (files : Files) (p : Bytes) (node : Node) : Except Files.Fault Files := do
  match ← files.destination ⟨p⟩ with
  | none => throw .alreadyExists
  | some d =>
    if !Files.isEntryName d.last then throw .alreadyExists
    else if 255 < d.last.length then throw .nameTooLong
    else if d.trailing ∧ !node.isDirectory then throw .notDirectory
    else return files.put (d.last :: d.parent) node

/-- Copies files, and directories with all that is in them if asked to. -/
def cp : Program :=
  withOptions "cp" (spec "rRafnpvuTdPLHilsbx" "tS" [("recursive", 'r'), ("archive", 'a'), ("force", 'f'),
      ("no-clobber", 'n'), ("verbose", 'v'), ("target-directory", 't'), ("no-target-directory", 'T'),
      ("preserve", 'p')]) 1 fun a s =>
    let recursive := a.has 'r' || a.has 'R' || a.has 'a'
    let one (source target : Bytes) (s : Session) : Except Bytes Session :=
      match s.files.find ⟨source⟩ with
      | .error fault => .error (bytesOf "cannot stat " ++ shown source ++ because fault)
      | .ok place =>
        if place.node.isDirectory ∧ !recursive then
          .error (bytesOf "-r not specified; omitting directory " ++ shown source)
        else
          let there := (s.files.find ⟨target⟩).toOption
          -- told by where they lead, not by how they are spelled
          if there.any (·.location = place.location) then
            .error (shown source ++ bytesOf " and " ++ shown target ++ bytesOf " are the same file")
          else if a.has 'n' ∧ there.isSome then .ok s
          else if hasBytes target "/dev/null" then .ok s
          else match there.map Files.Place.node, place.node with
            | some (.directory _), .file _ _ =>
              .error (bytesOf "cannot overwrite directory " ++ shown target ++ bytesOf " with non-directory")
            | some (.file _ _), .directory _ =>
              .error (bytesOf "cannot overwrite non-directory " ++ shown target ++ bytesOf " with directory " ++
                shown source)
            | old, node =>
              match putAt s.files target (copyOver old node) with
              | .ok files =>
                let s : Session := { s with files }
                .ok (if a.has 'v' then s.print (shown source ++ bytesOf " -> " ++ shown target ++ [0x0A]) else s)
              | .error fault =>
                let what := if node.isDirectory then "directory " else "regular file "
                .error (bytesOf ("cannot create " ++ what) ++ shown target ++ because fault)
    placeAll "cp" a one s

/-- Moves files and directories. -/
def mv : Program :=
  withOptions "mv" (spec "finvuTb" "tS" [("force", 'f'), ("no-clobber", 'n'), ("verbose", 'v'),
      ("target-directory", 't'), ("no-target-directory", 'T')]) 1 fun a s =>
    let one (source target : Bytes) (s : Session) : Except Bytes Session :=
      match s.files.find ⟨source⟩ with
      | .error fault => .error (bytesOf "cannot stat " ++ shown source ++ because fault)
      | .ok place =>
        let there := (s.files.find ⟨target⟩).toOption
        if there.any (·.location = place.location) then
          .error (shown source ++ bytesOf " and " ++ shown target ++ bytesOf " are the same file")
        else if a.has 'n' ∧ there.isSome then .ok s
        else match there.map Files.Place.node, place.node with
          | some (.directory (_ :: _)), .directory _ =>
            .error (bytesOf "cannot move " ++ shown source ++ bytesOf " to " ++ shown target ++
              bytesOf ": Directory not empty")
          | some (.directory _), .file _ _ =>
            .error (bytesOf "cannot overwrite directory " ++ shown target ++ bytesOf " with non-directory")
          | some (.file _ _), .directory _ =>
            .error (bytesOf "cannot overwrite non-directory " ++ shown target ++ bytesOf " with directory " ++
              shown source)
          | _, node =>
            -- a directory cannot go below itself
            let parent := (s.files.find ⟨directoryPart target⟩).toOption
            if parent.any fun p => place.location.reverse.isPrefixOf p.location.reverse ∧ node.isDirectory then
              .error (bytesOf "cannot move " ++ shown source ++ bytesOf " to a subdirectory of itself, " ++
                shown target)
            else match putAt (s.files.erase place.location) target node with
              | .ok files =>
                -- channels that were open on the file stay with it in its new place
                let s := match files.find ⟨target⟩ with
                  | .ok new => (s.keepOpen new.location).followOpen place.location new.location
                  | .error _ => s
                let s : Session := { s with files }
                .ok (if a.has 'v' then
                  s.print (bytesOf "renamed " ++ shown source ++ bytesOf " -> " ++ shown target ++ [0x0A]) else s)
              | .error fault =>
                .error (bytesOf "cannot move " ++ shown source ++ bytesOf " to " ++ shown target ++ because fault)
    placeAll "mv" a one s

/-- Puts copies of files into places of their own, with a mode, and makes directories. -/
def install : Program :=
  withOptions "install" (spec "cdDpsvCT" "mgoStb" [("directory", 'd'), ("mode", 'm'), ("target-directory", 't'),
      ("no-target-directory", 'T'), ("verbose", 'v')]) 1 fun a s =>
    let executable := match a.value? 'm' with
      | some mode => (modeChange? mode false).getD true
      | none => true
    if a.has 'd' then
      if a.operands.isEmpty then misuse "install" 1 "missing file operand" s
      else a.operands.foldl (fun s w =>
        withFault "install" (bytesOf "cannot create directory " ++ shown w) (s.files.makeDirectories ⟨w⟩) s) s
    else
      let one (source target : Bytes) (s : Session) : Except Bytes Session :=
        match s.files.find ⟨source⟩ with
        | .error fault => .error (bytesOf "cannot stat " ++ shown source ++ because fault)
        | .ok ⟨_, .directory _⟩ => .error (bytesOf "omitting directory " ++ shown source)
        | .ok ⟨location, .file content _⟩ =>
          -- what could be made of the way stays made, even if the file cannot be put there
          let files := if a.has 'D' then (s.files.makeDirectories ⟨directoryPart target⟩).2 else s.files
          if (files.find ⟨target⟩).toOption.any (·.location = location) then
            .error (shown source ++ bytesOf " and " ++ shown target ++ bytesOf " are the same file")
          else match putAt files target (.file content executable) with
            | .ok files =>
              let s := match files.find ⟨target⟩ with
                | .ok place => s.keepOpen place.location
                | .error _ => s
              .ok { s with files }
            | .error fault =>
              .error (bytesOf "cannot create regular file " ++ shown target ++ because fault)
      placeAll "install" a one s

/-- Another name for a file: as there are no links, the name of a copy. -/
def ln : Program :=
  withOptions "ln" (spec "sfnvTirL" "tS" [("symbolic", 's'), ("force", 'f'), ("target-directory", 't')]) 1 fun a s =>
    let a : Arguments := match a.operands with
      | [w] => { a with operands := [w, [Path.dot]] }
      | _ => a
    let one (source target : Bytes) (s : Session) : Except Bytes Session :=
      -- a symbolic link is read from its own directory, not from the working directory
      let isBeside := a.has 's' && source.head? ≠ some Path.slash
      let start := if isBeside then inside (directoryPart target) source else source
      match s.files.find ⟨start⟩ with
      | .error fault => .error (bytesOf "failed to access " ++ shown source ++ because fault)
      | .ok place =>
        if s.files.pathExists ⟨target⟩ ∧ !a.has 'f' then
          let what := if a.has 's' then "failed to create symbolic link " else "failed to create hard link "
          .error (bytesOf what ++ shown target ++ bytesOf ": File exists")
        else if place.node.isDirectory ∧ !a.has 's' then
          .error (shown source ++ bytesOf ": hard link not allowed for directory")
        else match putAt s.files target place.node with
          | .ok files =>
            let s := match files.find ⟨target⟩ with
              | .ok new => s.keepOpen new.location
              | .error _ => s
            .ok { s with files }
          | .error fault => .error (bytesOf "failed to create link " ++ shown target ++ because fault)
    placeAll "ln" a one s

/-- A new file, or directory, under a name that nothing has. -/
def mktemp : Program :=
  withOptions "mktemp" (spec "dqut" "p" [("directory", 'd'), ("tmpdir", 'p'), ("dry-run", 'u')]) 1 fun a s =>
    let template := a.operands.headD (bytesOf "/tmp/tmp.XXXXXXXXXX")
    let template := if a.operands ≠ [] ∧ a.has 't' then bytesOf "/tmp/" ++ template
      else match a.value? 'p' with
        | some directory => inside directory (if a.operands.isEmpty then bytesOf "tmp.XXXXXXXXXX" else template)
        | none => template
    let marks := (template.reverse.takeWhile (· = 0x58)).length
    if marks < 3 then fail "mktemp" 1 (bytesOf "too few X's in template " ++ shown template) s
    else
      let front := template.take (template.length - marks)
      let name (n : Nat) : Bytes :=
        let ds := Session.decimal n
        front ++ List.replicate (marks - ds.length) 0x71 ++ ds
      -- names are counted up instead of drawn, so that a run gives the same names again
      let free := (List.range 500).find? fun n => !s.files.pathExists ⟨name n⟩
      let path := name (free.getD 0)
      match putAt s.files path (if a.has 'd' then .directory [] else .file [] false) with
      | .ok files => { s.print (path ++ [0x0A]) with files := if a.has 'u' then s.files else files }
      | .error fault =>
        fail "mktemp" 1 (bytesOf "failed to create file via template " ++ shown template ++ because fault) s

end BenchSweep.Machine.Shell.Utility
