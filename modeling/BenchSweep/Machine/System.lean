/-
  The machine.

  Everything in `Machine` is a stand-in.  It plays the part of what the program finds around it when it
  launches a harness: a kernel that starts executable files, a shell that reads scripts, and the utilities
  that scripts call, each as far as scripts of a few lines need it.  None of it is the program, and no
  statement about the program rests on it: the model knows a machine only as a `System`, of which this file
  makes the one instance there is, and what is proved of launching holds of every system.  With the machine
  in its place a run that launches programs can be carried out to its end.

  The parts of the stand-in: `Executable` and `SearchPath` for the kernel and its search for programs;
  `Shell` for the shell (`Reader` takes scripts apart, `Run` carries them out) with its own commands in
  `Shell/Builtin` and the other programs in `Shell/Utility`; and `Bare` for the files of a system on which
  nothing is installed besides.
-/
import BenchSweep.Harness.Launch
import BenchSweep.Machine.SearchPath
import BenchSweep.Machine.Shell.Run

namespace BenchSweep.Machine

/-- What it comes to when a program is started with arguments.  A path with a separator is taken as it is, and
    a bare name is looked for.  Nothing may hold the byte that ends names and arguments. -/
def startProgram (files : Files) (environment : Environment) (program : Path)
    (arguments : List (List UInt8)) : Except Refusal Started :=
  let searchPath := (environment.lookup "PATH").getD []
  let words := program.bytes :: arguments
  if (searchPath :: words).any (·.contains 0) then .error .nulByte
  else if program.bytes.contains Path.slash then start files environment words program
  else startNamed files environment searchPath program words

/-- The refusal as the program sees it. -/
def Refusal.forProgram : Refusal → System.Refusal
  | .file .notFound => .missing
  | refusal => .refused refusal.message

/-- The end of a program as the one that launched it sees it. -/
def Shell.Ending.forProgram : Shell.Ending → System.Ending
  | .exited status => .exited status
  | .killed _ => .killed

instance : System where
  spawn files environment program arguments :=
    match startProgram files environment program arguments with
    | .error refusal => .error refusal.forProgram
    | .ok started =>
      let remains := Shell.execute files environment started
      .ok { ending := remains.ending.forProgram, files := remains.files, output := remains.output }

end BenchSweep.Machine
