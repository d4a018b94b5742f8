import BenchSweep.Main
import BenchSweep.Matrix
import BenchSweep.Plan.Text
import BenchSweep.Proofs.Calls
import BenchSweep.Proofs.Enumeration
import BenchSweep.Proofs.Plan.RoundTrip
import BenchSweep.Proofs.Spelling
import BenchSweep.Request.Display
import BenchSweep.Sweep.Basic
import BenchSweep.Proofs.Arguments
import BenchSweep.Proofs.Selection
import BenchSweep.Proofs.Toml.Ordered
import BenchSweep.Proofs.Plan.Shape
import BenchSweep.Proofs.Destination
import BenchSweep.Proofs.Ownership
import BenchSweep.Proofs.Transcript
import BenchSweep.Proofs.Json.Reader
import BenchSweep.Proofs.Json.ReadBack
import BenchSweep.Proofs.Number.Format
import BenchSweep.Proofs.Number.Shortest
import BenchSweep.Proofs.Json.Decimal
import BenchSweep.Proofs.Summary
import BenchSweep.Proofs.Display
import BenchSweep.Proofs.MetaText
import BenchSweep.Proofs.Definitions
import BenchSweep.Proofs.LineByLine
import BenchSweep.Proofs.Files.Tree
import BenchSweep.Proofs.Files.Walk
import BenchSweep.Proofs.Path.Nesting
import BenchSweep.Proofs.Preparation
import BenchSweep.Proofs.Levels
import BenchSweep.Proofs.SearchPath
import BenchSweep.Proofs.Path.NormalForm
import BenchSweep.Proofs.Path.Rebuilding
import BenchSweep.Proofs.Parents
import BenchSweep.Proofs.FlagValues
import BenchSweep.Proofs.Path.Rebuilding
import BenchSweep.Proofs.Launching
