/-
  Scripts of the shell.

  A word is a sequence of pieces that are expanded when the command runs; a piece knows whether it stood
  between quotes, for only what did not is split into fields and has patterns.  A command that can fail by
  itself keeps the line on which it began, which its complaints name.

  Part of the stand-in for the machine (`Machine/System`).
-/
import BenchSweep.Text.Utf8

namespace BenchSweep.Machine.Shell

/-- A string of bytes: what the shell's values are. -/
abbrev Bytes := List UInt8

/-- A text as bytes. -/
def bytesOf (s : String) : Bytes := Text.Utf8.encode s.toList

/-- How a redirection opens a file. -/
inductive Opening where
  /-- To write into a file that starts empty; with `force`, also into one that is there and protected. -/
  | replace (force : Bool)
  /-- To write at the end of a file. -/
  | append
  /-- To read a file. -/
  | input
  /-- To read and write a file. -/
  | update
deriving DecidableEq, Repr

mutual

/-- A part of a word. -/
inductive Piece where
  | text (bytes : Bytes) (quoted : Bool)
  | parameter (name : String) (edit : Edit) (quoted : Bool)
  /-- The output of commands. -/
  | output (body : Command) (quoted : Bool)
  /-- The value of an arithmetic expression. -/
  | arithmetic (expression : List Piece) (quoted : Bool)
  /-- The home directory; unless `always` holds, only in a word that a command takes as an assignment. -/
  | home (always : Bool)

/-- What is done with the value of a parameter.  With `orEmpty`, an empty value counts as a missing one. -/
inductive Edit where
  | keep
  | length
  | orElse (orEmpty : Bool) (word : List Piece)
  | assign (orEmpty : Bool) (word : List Piece)
  | require (orEmpty : Bool) (word : List Piece)
  | ifGiven (orEmpty : Bool) (word : List Piece)
  | cutFront (longest : Bool) (pattern : List Piece)
  | cutBack (longest : Bool) (pattern : List Piece)
  /-- Something else, which cannot be done. -/
  | unknown

/-- A redirection of the stream with a number. -/
inductive Redirect where
  /-- To or from a file. -/
  | file (stream : Nat) (opening : Opening) (target : List Piece)
  /-- To where another stream leads; `-` closes it. -/
  | same (stream : Nat) (source : List Piece)
  /-- From a text in the script. -/
  | document (stream : Nat) (content : List Piece)

/-- A command. -/
inductive Command where
  /-- Assignments, words and redirections. -/
  | simple (line : Nat) (assignments : List (String × List Piece)) (words : List (List Piece))
      (redirects : List Redirect)
  /-- The definition of a function. -/
  | define (name : String) (body : Command)
  | sequence (commands : List Command)
  | both (first second : Command)
  | either (first second : Command)
  | negated (command : Command)
  /-- Commands of which each reads what the one before it puts out. -/
  | piped (commands : List Command)
  | background (command : Command)
  | choice (condition yes no : Command)
  /-- A loop that goes on while the condition's success is `wanted`. -/
  | loop (wanted : Bool) (condition body : Command)
  /-- A loop over words, or over the arguments when there are none. -/
  | each (line : Nat) (name : String) (words : Option (List (List Piece))) (body : Command)
  | select (line : Nat) (subject : List Piece) (branches : List (List (List Piece) × Command))
  | redirected (line : Nat) (command : Command) (redirects : List Redirect)
  | subshell (line : Nat) (command : Command)

end

/-- A word is its pieces, each quoted or not. -/
abbrev Word := List Piece

/-- Whether a word begins with a name and `=`, which its first piece holds then. -/
def Word.isAssignment : Word → Bool
  | .text bytes false :: _ => 1 < bytes.length && bytes.getLast? = some 0x3D
  | _ => false

instance : Inhabited Command := ⟨.sequence []⟩

end BenchSweep.Machine.Shell
