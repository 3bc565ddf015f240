import LintRelay.Text.Scan
import LintRelay.Text.Digit
import LintRelay.Text.Encoding
import LintRelay.Table
import LintRelay.Path.Form
import LintRelay.Path.Identity
import LintRelay.Variables
import LintRelay.Diagnostic
import LintRelay.Failure
import LintRelay.Log
import LintRelay.Text.Letter
import LintRelay.Json
import LintRelay.Json.Printer
import LintRelay.Json.Relaxed
import LintRelay.Settings
import LintRelay.Settings.Options
import LintRelay.Settings.Field
import LintRelay.Settings.Written
import LintRelay.Path.Local
import LintRelay.Analyzer.Kind
import LintRelay.Analyzer.Reading
import LintRelay.Analyzer.Arguments
import LintRelay.Analyzer.Clang
import LintRelay.Analyzer.CppCheck
import LintRelay.Analyzer.Flexelint
import LintRelay.Analyzer.PclintPlus
import LintRelay.Analyzer.FlawFinder
import LintRelay.Analyzer.Lizard
import LintRelay.Process
import LintRelay.Linter
import LintRelay.Finding
import LintRelay.Pass
import LintRelay.Publication
import LintRelay.Diagnostic.Written
import LintRelay.Tree
import LintRelay.Host
import LintRelay.CommandLine.Arguments
import LintRelay.CommandLine.Report
import LintRelay.CommandLine.Run
import LintRelay.Uri
import LintRelay.Uri.Percent
import LintRelay.Uri.Reader
import LintRelay.Server.Connection
import LintRelay.Server.Handle
import LintRelay.Server.Message
import LintRelay.Server.Notice
import LintRelay.Server.Session
import LintRelay.Main
import LintRelay.Double
import LintRelay.Double.Shortest
import LintRelay.Json.Number
import LintRelay.Text.Chart
import LintRelay.Text.Canonical.Chart
import LintRelay.Text.Canonical
import LintRelay.Uri.Domain.Chart
import LintRelay.Uri.Domain.Punycode
import LintRelay.Uri.Domain
import LintRelay.Uri.Address
import LintRelay.Uri.Authority
import LintRelay.Uri.Segment
import LintRelay.Text.Quoted
import LintRelay.Server.Form
import LintRelay.Server.Form.Common
import LintRelay.Server.Form.Editor
import LintRelay.Server.Form.Request
import LintRelay.Proofs.Table
import LintRelay.Proofs.Finding
import LintRelay.Proofs.Pass
import LintRelay.Proofs.Publication
import LintRelay.Proofs.Identity
import LintRelay.Proofs.Failure
import LintRelay.Proofs.Arguments
import LintRelay.Proofs.CommandLine
import LintRelay.Proofs.Server.Course
import LintRelay.Proofs.Server.Display
import LintRelay.Proofs.Server.Caches
import LintRelay.Proofs.Server.Versions
import LintRelay.Proofs.Server.Frame
import LintRelay.Proofs.Server.Queue
import LintRelay.Proofs.Server.Debounce
import LintRelay.Proofs.Server.Residue
import LintRelay.Proofs.Server.Visits
import LintRelay.Proofs.Server.Triggers
import LintRelay.Proofs.Server.Independence
import LintRelay.Proofs.CommandForm
import LintRelay.Proofs.Reordering
import LintRelay.Proofs.Settings.Codec
import LintRelay.Proofs.Settings.RoundTrip
import LintRelay.Proofs.Json
import LintRelay.Proofs.Report
import LintRelay.Proofs.Scan
import LintRelay.Proofs.Template
import LintRelay.Proofs.WorkspaceRoot
import LintRelay.Proofs.Server.Texts
import LintRelay.Proofs.Continuation
import LintRelay.Proofs.Colons
import LintRelay.Proofs.Stepwise
import LintRelay.Proofs.Noise
import LintRelay.Proofs.Places
import LintRelay.Proofs.Shadow
import LintRelay.Proofs.Canonical
import LintRelay.Proofs.Containment
import LintRelay.Proofs.Expansion
import LintRelay.Proofs.Figures
import LintRelay.Proofs.Positions
import LintRelay.Proofs.Invocation
import LintRelay.Proofs.SearchPath
import LintRelay.Proofs.Probe
