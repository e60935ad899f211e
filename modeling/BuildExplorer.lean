import BuildExplorer.Text.Replace
import BuildExplorer.Text.Utf8
import BuildExplorer.Text.Quoted
import BuildExplorer.Json.Parser
import BuildExplorer.Json.Printer
import BuildExplorer.Json.Decode
import BuildExplorer.Listing.Parse
import BuildExplorer.DeviceBundle
import BuildExplorer.Linker
import BuildExplorer.Yaml.Scanner
import BuildExplorer.Yaml.Resolve
import BuildExplorer.Yaml.Node
import BuildExplorer.Remark.Body
import BuildExplorer.Remark.Stream
import BuildExplorer.CacheKey
import BuildExplorer.Config.Coding
import BuildExplorer.Config.Toml
import BuildExplorer.Tool.Basic
import BuildExplorer.Audit
import BuildExplorer.Host.Program
import BuildExplorer.Host.FileTree
import BuildExplorer.Result.Coding
import BuildExplorer.Family.Outputs
import BuildExplorer.Family.Environment
import BuildExplorer.Explorer.Compile
import BuildExplorer.Host.Machine
import BuildExplorer.Config.Load
import BuildExplorer.Tool.Supervision
import BuildExplorer.Shell.Launch
import BuildExplorer.CommandLine.Run
import BuildExplorer.Main
import BuildExplorer.Proofs.Program.Trace
import BuildExplorer.Proofs.Program.Plain
import BuildExplorer.Proofs.Result.Record
import BuildExplorer.Proofs.Step.Fold
import BuildExplorer.Proofs.Explorer.Phases
import BuildExplorer.Proofs.Explorer.Storing
import BuildExplorer.Proofs.Text.Runs
import BuildExplorer.Proofs.Listing.Labels
import BuildExplorer.Proofs.Text.Utf8
import BuildExplorer.Proofs.Json.RoundTrip
import BuildExplorer.Proofs.Explorer.Key
import BuildExplorer.Proofs.Explorer.Plan
import BuildExplorer.Proofs.Explorer.Serving
import BuildExplorer.Proofs.Listing.Filtered
import BuildExplorer.Proofs.Tool.Issued
import BuildExplorer.Proofs.CommandLine.Status
import BuildExplorer.Proofs.Explorer.Setup
import BuildExplorer.Proofs.Explorer.Aggregate
import BuildExplorer.Proofs.Explorer.Ready
import BuildExplorer.Proofs.Family.HandedOn
import BuildExplorer.Proofs.Decimal.Spelling
import BuildExplorer.Proofs.Json.Numeral
import BuildExplorer.Proofs.Json.Record
import BuildExplorer.Proofs.Result.Coding
import BuildExplorer.Proofs.Yaml.Lasting
import BuildExplorer.Proofs.Cache.Stored
import BuildExplorer.Proofs.Attempt
import BuildExplorer.Proofs.Explorer.Devices
import BuildExplorer.Proofs.Path
import BuildExplorer.Proofs.Host.Placing
import BuildExplorer.Proofs.Explorer.Repeating
import BuildExplorer.Proofs.Program.Bringing
import BuildExplorer.Proofs.Host.Filling
import BuildExplorer.Proofs.Explorer.Filled
import BuildExplorer.Proofs.Explorer.Shown
import BuildExplorer.Proofs.Explorer.Forged
import BuildExplorer.Proofs.Cache.Atomic
import BuildExplorer.Proofs.Tool.Supervised
import BuildExplorer.Proofs.Text.Trimmed
import BuildExplorer.Proofs.Text.Interspersed
import BuildExplorer.Proofs.DeviceBundle.Sections
import BuildExplorer.Proofs.Listing.Code
import BuildExplorer.Proofs.Remark.Documents
import BuildExplorer.Proofs.Listing.Records
import BuildExplorer.Proofs.Listing.Attribution
import BuildExplorer.Proofs.Text.Replaced
import BuildExplorer.Proofs.Diagnostic.Placeholder
import BuildExplorer.Proofs.Diagnostic.Colour
import BuildExplorer.Proofs.Diagnostic.Written
import BuildExplorer.Proofs.Diagnostic.OtherFile
import BuildExplorer.Proofs.Text.Lines
import BuildExplorer.Proofs.Remark.Joined
import BuildExplorer.Proofs.DeviceBundle.Enclosed
import BuildExplorer.Proofs.Family.Bundled
import BuildExplorer.Proofs.Listing.Separated
import BuildExplorer.Proofs.Listing.Stable
import BuildExplorer.Proofs.Tool.Captured
import BuildExplorer.Proofs.Family.Directories
import BuildExplorer.Proofs.Config
import BuildExplorer.Proofs.CommandLine.Picked
import BuildExplorer.Proofs.Audit
import BuildExplorer.Proofs.Host.Inside
import BuildExplorer.Proofs.Explorer.Inside
import BuildExplorer.Proofs.Tool.Scheduled
import BuildExplorer.Proofs.Shell.Streams
import BuildExplorer.Proofs.Shell.Launched
