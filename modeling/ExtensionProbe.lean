import ExtensionProbe.Calendar
import ExtensionProbe.Check
import ExtensionProbe.Command
import ExtensionProbe.Command.Execute
import ExtensionProbe.Command.Show
import ExtensionProbe.Command.Usage
import ExtensionProbe.Console
import ExtensionProbe.Data
import ExtensionProbe.Data.Decode
import ExtensionProbe.Data.Display
import ExtensionProbe.Data.Issue
import ExtensionProbe.Data.Item
import ExtensionProbe.Data.Portable
import ExtensionProbe.Descriptor
import ExtensionProbe.Document
import ExtensionProbe.Files
import ExtensionProbe.Gate
import ExtensionProbe.Json.Reader
import ExtensionProbe.Json.Writer
import ExtensionProbe.Log.Clock
import ExtensionProbe.Log.Event
import ExtensionProbe.Log.Failure
import ExtensionProbe.Log.Layout
import ExtensionProbe.Log.Level
import ExtensionProbe.Log.Record
import ExtensionProbe.Log.Setup
import ExtensionProbe.Main
import ExtensionProbe.Malformed
import ExtensionProbe.Markup
import ExtensionProbe.Markup.Parameters
import ExtensionProbe.Markup.Style
import ExtensionProbe.Markup.Symbol
import ExtensionProbe.Markup.Symbol.Names
import ExtensionProbe.Number.Binary64
import ExtensionProbe.Number.Decimal
import ExtensionProbe.Number.Literal
import ExtensionProbe.Number.Places
import ExtensionProbe.Number.Shortest
import ExtensionProbe.Path
import ExtensionProbe.Policy
import ExtensionProbe.Probe
import ExtensionProbe.Proofs.Assignments
import ExtensionProbe.Proofs.CheckLanguage
import ExtensionProbe.Proofs.Coercion
import ExtensionProbe.Proofs.Diagnostic
import ExtensionProbe.Proofs.Ending
import ExtensionProbe.Proofs.ExitCode
import ExtensionProbe.Proofs.Fallible
import ExtensionProbe.Proofs.FirstFlaw
import ExtensionProbe.Proofs.GateText
import ExtensionProbe.Proofs.Grammar
import ExtensionProbe.Proofs.Growth
import ExtensionProbe.Proofs.Halves
import ExtensionProbe.Proofs.HostOrder
import ExtensionProbe.Proofs.JsonDocument
import ExtensionProbe.Proofs.JsonReading
import ExtensionProbe.Proofs.JsonText
import ExtensionProbe.Proofs.LastRow
import ExtensionProbe.Proofs.Live
import ExtensionProbe.Proofs.LogContext
import ExtensionProbe.Proofs.LogFile
import ExtensionProbe.Proofs.LogSettings
import ExtensionProbe.Proofs.LogTemplate
import ExtensionProbe.Proofs.Loggable
import ExtensionProbe.Proofs.Loosening
import ExtensionProbe.Proofs.MarkupEscape
import ExtensionProbe.Proofs.MarkupFault
import ExtensionProbe.Proofs.NormalForm
import ExtensionProbe.Proofs.Numeral
import ExtensionProbe.Proofs.OneQuery
import ExtensionProbe.Proofs.Overwriting
import ExtensionProbe.Proofs.PolicyWords
import ExtensionProbe.Proofs.ProbeLog
import ExtensionProbe.Proofs.Probing
import ExtensionProbe.Proofs.Quoting
import ExtensionProbe.Proofs.Recording
import ExtensionProbe.Proofs.Registrations
import ExtensionProbe.Proofs.Reload
import ExtensionProbe.Proofs.ReportDocument
import ExtensionProbe.Proofs.ReportReload
import ExtensionProbe.Proofs.RunExit
import ExtensionProbe.Proofs.RunForms
import ExtensionProbe.Proofs.Sources
import ExtensionProbe.Proofs.Spelling
import ExtensionProbe.Proofs.StableOrder
import ExtensionProbe.Proofs.Stripped
import ExtensionProbe.Proofs.StructuredLine
import ExtensionProbe.Proofs.Tagless
import ExtensionProbe.Proofs.TwoRegistries
import ExtensionProbe.Proofs.Unloadable
import ExtensionProbe.Proofs.Usable
import ExtensionProbe.Proofs.Verbatim
import ExtensionProbe.Proofs.Verdict
import ExtensionProbe.Proofs.VersionCommand
import ExtensionProbe.Proofs.VersionOrder
import ExtensionProbe.Proofs.Words
import ExtensionProbe.Registration
import ExtensionProbe.Registry
import ExtensionProbe.Report
import ExtensionProbe.Schema.Assign
import ExtensionProbe.Schema.Extension
import ExtensionProbe.Schema.Host
import ExtensionProbe.Schema.Report
import ExtensionProbe.Schema.Settings
import ExtensionProbe.Settings
import ExtensionProbe.Settings.Load
import ExtensionProbe.Snapshot
import ExtensionProbe.Table
import ExtensionProbe.Template
import ExtensionProbe.Template.Field
import ExtensionProbe.Text
import ExtensionProbe.Text.Alphanumeric
import ExtensionProbe.Text.Base64
import ExtensionProbe.Text.Blank
import ExtensionProbe.Text.Case
import ExtensionProbe.Text.Cased
import ExtensionProbe.Text.Codes
import ExtensionProbe.Text.Digit
import ExtensionProbe.Text.Encoded
import ExtensionProbe.Text.Hex
import ExtensionProbe.Text.Newline
import ExtensionProbe.Text.Printable
import ExtensionProbe.Text.Quoted
import ExtensionProbe.Text.Ranges
import ExtensionProbe.Text.Styled
import ExtensionProbe.Text.Width
import ExtensionProbe.Text.Wrap
import ExtensionProbe.Value
import ExtensionProbe.Version
import ExtensionProbe.Version.Order
import ExtensionProbe.Yaml.Build
import ExtensionProbe.Yaml.Cursor
import ExtensionProbe.Yaml.Fault
import ExtensionProbe.Yaml.Node
import ExtensionProbe.Yaml.Scalar
import ExtensionProbe.Yaml.Tag
import ExtensionProbe.Yaml.Token
import ExtensionProbe.Yaml.Value
