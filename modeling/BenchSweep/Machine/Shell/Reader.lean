/-
  Reading scripts.

  Words and commands are read by one function, `read`, that is told which of them is wanted; its fuel bounds
  how deep they are nested.  A script is read line by line, for what a line does may change how the next one
  is read.

  Part of the stand-in for the machine (`Machine/System`).
-/
import BenchSweep.Machine.Shell.Reader.Command

namespace BenchSweep.Machine.Shell.Reader

/-- What is wanted, and the rest. -/
def read : Nat → Nested
  | 0, _, _, _ => none
  | fuel + 1, source, .word place, s => pieces? (read fuel) source place (s.length + 1) 0 true s
  | fuel + 1, source, .command, s => command? (read fuel) source s

/-- What stands at the front of a script. -/
inductive Next where
  /-- Nothing more. -/
  | finished
  /-- The commands that end with a line, and the rest. -/
  | commands (command : Command) (rest : List Char)
  /-- Something that is no command. -/
  | fault (line : Nat)

/-- The commands up to the end of a line, and the rest. -/
def line? (nested : Nested) (source : Source) : Nat → List Char → Option (List Command × List Char)
  | 0, _ => none
  | fuel + 1, s => do
    let (c, r) ← chain? nested source s
    let goOn (c : Command) (r : List Char) : Option (List Command × List Char) :=
      match skipBlanks r with
      | [] => some ([c], [])
      | '\n' :: r => some ([c], r)
      | r => (line? nested source fuel r).map fun (cs, r) => (c :: cs, r)
    match r with
    | [] => return ([c], [])
    | '\n' :: r => return ([c], r)
    | ';' :: r => goOn c r
    | '&' :: r => goOn (.background c) r
    | _ => none

/-- What stands at the front of a script, of which the whole is `source`. -/
def next (source : Source) (s : List Char) : Next :=
  match skipLines false s with
  | [] => .finished
  | s =>
    match line? (read source.size) source source.size s with
    | some (commands, rest) => .commands (.sequence commands) rest
    | none => .fault (source.lineOf s)

end BenchSweep.Machine.Shell.Reader
