/-
  The program at the command line.

  What the program finds goes into a setting: the variables of the environment, the time, the plan file,
  the outputs and the executables that a run may launch.  What it leaves is put out and stored.  Nothing is
  decided here.
-/
import BenchSweep.CommandLine.Terminal
import BenchSweep.Machine.Bare
import Std.Time.DateTime.Timestamp

namespace BenchSweep.Console

/-- The variables of the environment that the program looks at. -/
def variableNames : List String := ["PATH", "PARSWEEP_LOG", "RUST_LOG"]

/-- The variables that are set. -/
def environment : IO (List (String × List UInt8)) :=
  variableNames.filterMapM fun name => do
    return (← IO.getEnv name).map fun value => (name, Text.Utf8.encode value.toList)

/-- The time. -/
def now : IO Moment := do
  return .ofNanoseconds (← Std.Time.Timestamp.now).toNanosecondsSinceUnixEpoch.val

/-- Puts the file of a path in its place, if it can be read. -/
def fetch (executable : Bool) (files : Files) (p : Path) : IO Files := do
  match p.text? with
  | none => return files
  | some name =>
    try
      let content ← IO.FS.readBinFile name
      return Machine.addFile files p content.toList executable
    catch _ => return files

/-- What the program finds. -/
def setting (task : CommandLine.Task) : IO CommandLine.Setting := do
  let bare : CommandLine.Setting :=
    { files := Machine.bare, clock := ← now, environment := ← environment, baseDir := .ofString "." }
  let files ← (CommandLine.planWanted task).toList.foldlM (fetch false) bare.files
  let planned := { bare with files }
  let files ← (CommandLine.outputsWanted planned task).foldlM (fetch false) files
  let files ← (CommandLine.executablesWanted planned task).foldlM (fetch true) files
  let files := (CommandLine.summaryWanted task).toList.foldl Machine.addParent files
  return { bare with files }

/-- Stores a file or a directory. -/
def store (p : Path) (node : Node) : IO Unit :=
  match p.text?, node with
  | some name, .file content _ => IO.FS.writeBinFile name ⟨content.toArray⟩
  | some name, .directory _ => IO.FS.createDirAll name
  | none, _ => pure ()

/-- Stores what a run leaves, and says what cannot be stored; whether all of it was. -/
def storeAll (left : List (Path × Node)) : IO Bool :=
  left.foldlM (fun stored (p, node) => do
    try
      store p node
      return stored
    catch e =>
      IO.eprintln s!"Error: write {p.display}: {e}"
      return false) true

/-- Shows the output and the messages of a result. -/
def display (environment : List (String × List UInt8)) (result : CommandLine.Result) : IO Unit := do
  let stdout ← IO.getStdout
  stdout.write ⟨result.output.toArray⟩
  stdout.flush
  for line in CommandLine.messages environment result do
    IO.eprintln line

end BenchSweep.Console

open BenchSweep in
/-- Reads the words, does what they ask for, and ends with the number that says how it went. -/
def main (words : List String) : IO UInt32 := do
  match CommandLine.read words with
  | .error fault =>
    IO.eprintln ("error: " ++ fault.message)
    return 2
  | .ok task =>
    let setting ← Console.setting task
    let result := CommandLine.perform setting task
    Console.display setting.environment result
    let stored ← Console.storeAll (CommandLine.written task setting.files result.files)
    return if stored then UInt32.ofNat result.ending.exitCode else 1
