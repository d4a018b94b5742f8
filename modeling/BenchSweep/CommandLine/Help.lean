/-
  What the program says about its command line.

  There is a page on the program and one on each of its commands.  A page tells what it is about and how
  the words go, and then lists commands, arguments and options, each list under a heading of its own; the
  texts of a list stand in one column behind the longest entry.  The options of a page are those that the
  program reads at that place (`Place.flags`).
-/
import BenchSweep.CommandLine.Options

namespace BenchSweep.CommandLine

/-- A page of the help. -/
structure Page where
  about : String
  /-- The words behind the name of the program. -/
  usage : String
  /-- Headings, and under each of them entries with what is said about them. -/
  lists : List (String × List (String × String))
  closing : Option String := none

namespace Page

/-- The lines of a list, with all texts in one column. -/
def column (entries : List (String × String)) : List String :=
  let width := (entries.map fun entry => entry.1.length).foldl max 0
  entries.map fun (entry, text) => entry ++ String.ofList (List.replicate (width + 2 - entry.length) ' ') ++ text

/-- The parts of a page with an empty line between each two. -/
def text (page : Page) : String :=
  let lists := page.lists.map fun (heading, entries) => String.intercalate "\n" (heading :: column entries)
  let parts := [page.about, "Usage: parsweep " ++ page.usage] ++ lists ++ page.closing.toList
  String.intercalate "\n\n" parts ++ "\n"

end Page

/-- An option in a list, with its letter in front; without one its place stays blank. -/
def Flag.entry (flag : Flag) : String :=
  (match flag.letter? with
    | some letter => "  -" ++ String.singleton letter ++ ", "
    | none => "      ") ++ flag.label

/-- What is said about an option. -/
def Place.describe : Place → Flag → String
  | .run, .matrix => "Built-in matrix to run; repeat to run several. Defaults to all of them"
  | .showing, .matrix => "Built-in matrix to print [default: general]"
  | _, .config => "Run the plan described by a TOML file instead of the built-in matrices"
  | _, .repetitions => "Override the repetition count of every selected plan"
  | _, .dryRun => "Print each harness command instead of running it"
  | _, .summary => "Write a JSON report of every invocation to FILE"
  | _, .baseDir => "Harness `scripts/` directory the search path is built from " ++
      "(default: this executable's directory)"
  | _, .help => "Print help"
  | _, .version => "Print version"

/-- The options that are read at a place. -/
def Place.options (place : Place) : String × List (String × String) :=
  ("Options:", place.flags.map fun flag => (flag.entry, place.describe flag))

namespace Topic

/-- What a page is about, as it also stands in the list of commands. -/
def about : Topic → String
  | .program => "Run the parharness memory-reclamation benchmark sweeps"
  | .show => "Print a plan as TOML, suitable as a starting point for `--config`"
  | .help => "Print this message or the help of the given subcommand(s)"

/-- The help page of a topic. -/
def page : Topic → Page
  | .program =>
    { about := about .program, usage := "[OPTIONS] [COMMAND]"
      lists := [("Commands:", [("  show", about .show), ("  help", about .help)]), Place.run.options]
      closing := some "With no arguments every built-in matrix runs in full (general, then crturn)." }
  | .show => { about := about .show, usage := "show [OPTIONS]", lists := [Place.showing.options] }
  | .help =>
    { about := about .help, usage := "help [COMMAND]..."
      lists := [("Arguments:", [("  [COMMAND]...", "Print help for the subcommand(s)")])] }

/-- What the program says about a topic. -/
def helpText (topic : Topic) : String := topic.page.text

end Topic

example : Topic.show.helpText =
    "Print a plan as TOML, suitable as a starting point for `--config`\n\n" ++
    "Usage: parsweep show [OPTIONS]\n\n" ++
    "Options:\n" ++
    "      --matrix <NAME>  Built-in matrix to print [default: general]\n" ++
    "  -h, --help           Print help\n" := by decide +kernel

end BenchSweep.CommandLine
