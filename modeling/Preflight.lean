import Preflight.Source.Expiry
import Preflight.Source.ErrorHandling
import Preflight.Source.Guard
import Preflight.Source.Middleware
import Preflight.Source.Route
import Preflight.Text.Alphanumeric
import Preflight.Text.Printable
import Preflight.Text.Uppercase
import Preflight.Decimal.Shortest
import Preflight.Json.Parser
import Preflight.Json.Display
import Preflight.Source.RoutePath
import Preflight.Url.Parts
import Preflight.Env.ValueKind
import Preflight.Env.Table
import Preflight.Release
import Preflight.Glob.Basic
import Preflight.DatabaseKind
import Preflight.Disk.Listing
import Preflight.Disk.RealPath
import Preflight.Manifest
import Preflight.Scan
import Preflight.Verdict
import Preflight.Check.Module
import Preflight.Record.Integer
import Preflight.Moment.Epoch
import Preflight.Record.Config
import Preflight.Record.Verdict
import Preflight.Report.Validation
import Preflight.Record.Report
import Preflight.Record.Fix
import Preflight.Console.Report
import Preflight.Main
import Preflight.Service.Respond
import Preflight.Proofs.Disk.Walk
import Preflight.Proofs.Scan.Answers
import Preflight.Proofs.Scan.Every
import Preflight.Proofs.Store.Recorded
import Preflight.Proofs.Store.Query
import Preflight.Proofs.Store.Session
import Preflight.Proofs.Check.Independence
import Preflight.Proofs.Disk.Path
import Preflight.Proofs.Check.Routes
import Preflight.Proofs.Check.Coverage
import Preflight.Proofs.Disk.Growth
import Preflight.Proofs.Disk.RealPath
import Preflight.Proofs.Fix.Creation
import Preflight.Proofs.Check.Passing
import Preflight.Proofs.Fix.Template
import Preflight.Proofs.Fix.Keeping
import Preflight.Proofs.Fix.Actions
import Preflight.Proofs.Fix.Safety
import Preflight.Proofs.Pairs
import Preflight.Proofs.Env.Table
import Preflight.Proofs.Fix.Preview
import Preflight.Proofs.Disk.Tree
import Preflight.Proofs.Disk.Change
import Preflight.Proofs.Glob.Matching
import Preflight.Proofs.Glob.Ending
import Preflight.Proofs.Scan.Stopping
import Preflight.Proofs.Json.Refusal
import Preflight.Proofs.Release
import Preflight.Proofs.Check.Manifest
import Preflight.Proofs.Check.Alike
import Preflight.Proofs.Check.Irrelevance
import Preflight.Proofs.Check.Stopping
import Preflight.Proofs.Check.Consistency
import Preflight.Proofs.Report.Consistency
import Preflight.Proofs.Console.Markup
import Preflight.Proofs.Console.Report
import Preflight.Proofs.Fix.Frame
import Preflight.Proofs.Fix.Failure
import Preflight.Proofs.Command.Exit
import Preflight.Proofs.Disk.Visible
import Preflight.Proofs.Service.Fetch
import Preflight.Proofs.Service.Handler
import Preflight.Proofs.Check.LineEnds
import Preflight.Proofs.Command.Verdict
import Preflight.Proofs.Json.RoundTrip
import Preflight.Proofs.Record.Export
import Preflight.Proofs.Store.Agreement
import Preflight.Proofs.Store.Extraction
import Preflight.Proofs.Pattern.Reading
import Preflight.Proofs.Pattern.Occurrence
import Preflight.Proofs.Pattern.Scan
import Preflight.Proofs.Pattern.Search
import Preflight.Proofs.Text.Digit
import Preflight.Proofs.Source.Expiry
import Preflight.Proofs.Duration
import Preflight.Proofs.Check.Origins
import Preflight.Proofs.Text.Case
import Preflight.Proofs.Check.Environment
import Preflight.Proofs.Source.Registration
import Preflight.Proofs.Source.Written
import Preflight.Proofs.Glob.Place
import Preflight.Proofs.Check.RouteFiles
import Preflight.Proofs.Source.Guard
import Preflight.Proofs.Source.Locality
import Preflight.Proofs.Check.Auth
import Preflight.Proofs.Check.SelfGuarding
import Preflight.Proofs.DatabaseKind
import Preflight.Proofs.Check.Database
import Preflight.Proofs.Disk.Zero
import Preflight.Proofs.Firsts
import Preflight.Proofs.Check.Api
import Preflight.Proofs.Disk.Shape
import Preflight.Proofs.Check.Reading
import Preflight.Proofs.Check.Caps
import Preflight.Proofs.Glob.Braces
import Preflight.Proofs.Glob.Product
import Preflight.Proofs.Release.Reading
import Preflight.Proofs.Release.Range
import Preflight.Proofs.Json.Keys
import Preflight.Proofs.Manifest
import Preflight.Proofs.Check.Dependencies
import Preflight.Proofs.Check.SourceStops
import Preflight.Proofs.Env.MailAddress
import Preflight.Proofs.Text.Strip
import Preflight.Proofs.Config
import Preflight.Proofs.Check.Places
import Preflight.Proofs.Text.Parts
import Preflight.Proofs.Source.ErrorHandling
import Preflight.Proofs.Check.ErrorHandling
import Preflight.Proofs.Check.SubPaths
import Preflight.Proofs.Store.Lookup
