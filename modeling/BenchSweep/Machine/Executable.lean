/-
  Executable files, and what it comes to when one is started.

  A file can be executed when it is marked so and its content is an image: a script, whose first line names
  the program that interprets it, or a program of the system, whose content is a mark and the program's name.
  `start` goes from a script to its interpreter, which may be a script again, until it comes to a program of
  the system; on the way the name of each script becomes an argument.

  Part of the stand-in for the machine (`Machine/System`).
-/
import BenchSweep.Files.Tree

namespace BenchSweep.Machine

/-! ## Images -/

/-- What an executable file is. -/
inductive Image where
  /-- A script, with the program that interprets it and the word that this program is given first. -/
  | script (interpreter : Path) (word : Option (List UInt8))
  /-- A program of the system, by its name. -/
  | utility (name : String)
deriving DecidableEq, Repr

/-- The mark in front of the name of a program of the system. -/
def utilityMark : List UInt8 := [0x7F, 0x45, 0x4C, 0x46, 2, 1, 1, 0, 0, 0, 0, 0, 0, 0, 0, 0]

/-- The mark in front of the interpreter of a script, `#!`. -/
def scriptMark : List UInt8 := [0x23, 0x21]

/-- The file of a program of the system. -/
def utilityFile (name : String) : Node := .file (utilityMark ++ Text.Utf8.encode name.toList) true

/-- So many bytes of a file tell what it is. -/
def headSize : Nat := 256

/-- A space or a tab. -/
def isBlank (b : UInt8) : Bool := b = 0x20 || b = 0x09

/-- Bytes up to the last that is no blank. -/
def withoutBlanksBehind (bytes : List UInt8) : List UInt8 := (bytes.reverse.dropWhile isBlank).reverse

/-- The interpreter and the word for it that stand behind the mark of a script.  The word reaches up to the
    end of the line.  Where the line has no end, a blank behind the interpreter is enough for a word, which
    may be empty; no name at all stands for the working directory; and a name that goes on behind the head
    of the file is none. -/
def interpreterOf? (head : List UInt8) : Option (Path × Option (List UInt8)) :=
  let visible := head.takeWhile (· ≠ 0)
  let line := (visible.drop scriptMark.length).takeWhile (· ≠ 0x0A)
  let isEnded := visible.contains 0x0A
  let isCut := !isEnded && visible.length = headSize
  let shown := if isEnded then withoutBlanksBehind line
    else if isCut then withoutBlanksBehind line.dropLast else line
  let name := (shown.dropWhile isBlank).takeWhile fun b => !isBlank b
  let behind := (shown.dropWhile isBlank).drop name.length
  if isCut && !(line.dropWhile isBlank).any isBlank then none
  else if name.isEmpty then if isEnded || isCut then none else some (⟨[Path.dot]⟩, none)
  else some (⟨name⟩, if behind.isEmpty then none else some (behind.dropWhile isBlank))

/-- The image in a content. -/
def imageOf? (content : List UInt8) : Option Image :=
  let head := content.take headSize
  if scriptMark.isPrefixOf head then (interpreterOf? head).map fun (p, word) => .script p word
  else
    let name := head.drop utilityMark.length
    if utilityMark.isPrefixOf head ∧ name ≠ [] then some (.utility (String.ofList (Text.Utf8.lossy name)))
    else none

/-! ## Starting -/

/-- Why a program is not started. -/
inductive Refusal where
  | file (fault : Files.Fault)
  /-- The file is no image. -/
  | unknownFormat
  /-- Too many interpreters one after the other are scripts. -/
  | tooManyInterpreters
  /-- The name or an argument holds the byte that ends them. -/
  | nulByte
  /-- The arguments and variables take more than the system gives. -/
  | argumentsTooLong
deriving DecidableEq, Repr

/-- A refusal in the words of the system, with its number. -/
def Refusal.message : Refusal → String
  | .file fault => fault.message
  | .unknownFormat => "Exec format error (os error 8)"
  | .tooManyInterpreters => "Too many levels of symbolic links (os error 40)"
  | .nulByte => "nul byte found in provided data"
  | .argumentsTooLong => "Argument list too long (os error 7)"

/-- Whether a refusal says that nothing is there. -/
def Refusal.isMissing : Refusal → Bool
  | .file .notFound | .file .notDirectory => true
  | _ => false

/-- The variables that a program sees. -/
abbrev Environment := List (String × List UInt8)

/-- What a variable looks like for the programs that see it. -/
def entryOf (v : String × List UInt8) : List UInt8 := Text.Utf8.encode v.1.toList ++ 0x3D :: v.2

/-- An argument or a variable has less than this many bytes. -/
def maxStringSize : Nat := 131072

/-- The arguments and variables of a program take so many bytes at most. -/
def maxWholeSize : Nat := 2097152

/-- Whether strings fit into what the system gives for them: each needs a byte that ends it and a place for
    where it stands, which takes eight. -/
def fit (strings : List (List UInt8)) : Bool :=
  strings.all (·.length < maxStringSize) &&
    strings.foldl (fun n s => n + s.length + 9) 0 ≤ maxWholeSize

/-- A program of the system, and the words with which it runs: the name by which it was called, and its
    arguments. -/
structure Started where
  name : String
  words : List (List UInt8)
deriving DecidableEq, Repr, Inhabited

/-- The content of a file that may be executed. -/
def contentOf (files : Files) (p : Path) : Except Refusal (List UInt8) :=
  match files.find p with
  | .error fault => .error (.file fault)
  | .ok ⟨_, .file content true⟩ => .ok content
  | .ok _ => .error (.file .permissionDenied)

/-- Whether a path names a file that may be executed. -/
def isExecutable (files : Files) (p : Path) : Bool := (contentOf files p).toOption.isSome

/-- Starts the content of a file, with so many scripts on the way to a program of the system. -/
def startWithin (files : Files) : (depth : Nat) → List UInt8 → Path → List (List UInt8) →
    Except Refusal Started
  | depth, content, p, words =>
    match imageOf? content with
    | none => .error .unknownFormat
    | some (.utility name) => .ok ⟨name, words⟩
    | some (.script interpreter word) => do
      let next ← contentOf files interpreter
      match depth with
      | 0 => throw .tooManyInterpreters
      | depth + 1 =>
        startWithin files depth next interpreter (interpreter.bytes :: word.toList ++ p.bytes :: words.tail)

/-- So many scripts may stand between a file and a program of the system. -/
def maxInterpreters : Nat := 5

/-- What it comes to when a file is started with words. -/
def start (files : Files) (environment : Environment) (words : List (List UInt8)) (p : Path) :
    Except Refusal Started := do
  let content ← contentOf files p
  if !fit (words ++ environment.map entryOf) then throw .argumentsTooLong
  startWithin files maxInterpreters content p words

/-- The shell. -/
def shell : Path := .ofString "/bin/sh"

/-- What it comes to when a file is started, or else read by the shell if it is no image. -/
def startOrRead (files : Files) (environment : Environment) (words : List (List UInt8)) (p : Path) :
    Except Refusal Started :=
  match start files environment words p with
  | .error .unknownFormat => start files environment (shell.bytes :: p.bytes :: words.tail) shell
  | result => result

end BenchSweep.Machine
