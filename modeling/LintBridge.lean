import LintBridge.Document.Language
import LintBridge.Json.Relaxed
import LintBridge.Linter.Arguments
import LintBridge.Main
import LintBridge.Proofs.Document.Store
import LintBridge.Proofs.Hub.Closing
import LintBridge.Proofs.Hub.Notices
import LintBridge.Proofs.Hub.Orderly
import LintBridge.Proofs.Hub.Sequence
import LintBridge.Proofs.Hub.Snapshot
import LintBridge.Proofs.Locator.Asking
import LintBridge.Proofs.Report.LineTable
import LintBridge.Report.Diagnostic
import LintBridge.Report.FileReport
import LintBridge.Uri.Reader
import LintBridge.Workspace.Folders
import LintBridge.Proofs.Report.Pipeline
import LintBridge.Proofs.Channel.Serving
import LintBridge.Proofs.Document.History
import LintBridge.Proofs.Files.Tree
import LintBridge.Proofs.Linter.Buffer
import LintBridge.Proofs.Json.Fields
import LintBridge.Proofs.Json.Numeral
import LintBridge.Proofs.Json.Tokens
import LintBridge.Proofs.Text.Utf8
import LintBridge.Proofs.Json.RoundTrip
import LintBridge.Proofs.Settings.Persistence
import LintBridge.Proofs.Settings.Effective
import LintBridge.Proofs.Locator.Choice
import LintBridge.Proofs.Hub.Tidings
import LintBridge.Proofs.Workspace.Folders
import LintBridge.Proofs.Channel.Readers
import LintBridge.Proofs.CommandLine.Status
import LintBridge.Proofs.Document.Versions
import LintBridge.Proofs.Hub.Debounce
import LintBridge.Proofs.Text.Cut
import LintBridge.Proofs.Report.Grammar
import LintBridge.Proofs.Report.RoundTrip
import LintBridge.Proofs.Hub.Progress
import LintBridge.Proofs.Locator.Handover
import LintBridge.Proofs.Hub.Failures
import LintBridge.Proofs.Settings.InForce
import LintBridge.Proofs.Path.Parent
import LintBridge.Proofs.Files.Scope
import LintBridge.Proofs.Channel.Lifecycle
import LintBridge.Proofs.Linter.Traceless
import LintBridge.Proofs.Executable.Validated
import LintBridge.Proofs.Path.Components
import LintBridge.Proofs.Workspace.Root
import LintBridge.Proofs.Report.Widths
import LintBridge.Proofs.Channel.Address
import LintBridge.Proofs.Json.Documents
import LintBridge.Proofs.Report.Printed
