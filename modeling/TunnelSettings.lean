import TunnelSettings.Calendar
import TunnelSettings.Cli.Command
import TunnelSettings.Cli.Grammar
import TunnelSettings.Cli.Options
import TunnelSettings.Cli.Syntax
import TunnelSettings.Display.Outline
import TunnelSettings.Display.Wrap
import TunnelSettings.Failure
import TunnelSettings.Files.Path
import TunnelSettings.Files.Store
import TunnelSettings.Json.Fault
import TunnelSettings.Json.Reader
import TunnelSettings.Json.Writer
import TunnelSettings.Logging.Journal
import TunnelSettings.Logging.Level
import TunnelSettings.Main
import TunnelSettings.Net.Address
import TunnelSettings.Net.HostPort
import TunnelSettings.Net.Network
import TunnelSettings.Number.Binary64
import TunnelSettings.Number.Decimal
import TunnelSettings.Number.Integer
import TunnelSettings.Number.Numeral
import TunnelSettings.Number.Rounding
import TunnelSettings.Number.Shortest
import TunnelSettings.Package
import TunnelSettings.Report
import TunnelSettings.Servers
import TunnelSettings.Session
import TunnelSettings.Settings.Advice
import TunnelSettings.Settings.Basic
import TunnelSettings.Settings.Catalogue
import TunnelSettings.Settings.Complaint
import TunnelSettings.Settings.Defaults
import TunnelSettings.Settings.Document
import TunnelSettings.Settings.Field
import TunnelSettings.Settings.Fragment
import TunnelSettings.Settings.Layering
import TunnelSettings.Settings.Loading
import TunnelSettings.Settings.Override
import TunnelSettings.Settings.Raw
import TunnelSettings.Settings.Reading
import TunnelSettings.Settings.Summary
import TunnelSettings.Settings.Validity
import TunnelSettings.Text.Base64
import TunnelSettings.Text.Blank
import TunnelSettings.Text.Bracket
import TunnelSettings.Text.CaseTable
import TunnelSettings.Text.Casing
import TunnelSettings.Text.Cell
import TunnelSettings.Text.CellTable
import TunnelSettings.Text.Digit
import TunnelSettings.Text.Line
import TunnelSettings.Text.Printable
import TunnelSettings.Text.Quoted
import TunnelSettings.Text.Range
import TunnelSettings.Text.Utf8
import TunnelSettings.Value.Basic
import TunnelSettings.Value.Conversion
import TunnelSettings.Value.Text
import TunnelSettings.Yaml.Block
import TunnelSettings.Yaml.Cursor
import TunnelSettings.Yaml.Node
import TunnelSettings.Yaml.Plain
import TunnelSettings.Yaml.Quoted
import TunnelSettings.Yaml.Reader
import TunnelSettings.Yaml.Scalar
import TunnelSettings.Yaml.Token
import TunnelSettings.Yaml.Writer
import TunnelSettings.Proofs.Fields
import TunnelSettings.Proofs.Overrides
import TunnelSettings.Proofs.Runs
import TunnelSettings.Proofs.Reading
import TunnelSettings.Proofs.Fragments
import TunnelSettings.Proofs.Escapes
import TunnelSettings.Proofs.Documents
import TunnelSettings.Proofs.Tasks
import TunnelSettings.Proofs.CommandLines
import TunnelSettings.Proofs.Summaries
import TunnelSettings.Proofs.ExitCodes
import TunnelSettings.Proofs.Trees
import TunnelSettings.Proofs.RawData
import TunnelSettings.Proofs.Acceptance
import TunnelSettings.Proofs.Verdicts
import TunnelSettings.Proofs.Showing
import TunnelSettings.Proofs.Places
import TunnelSettings.Proofs.Agreement
import TunnelSettings.Proofs.SmallLetters
import TunnelSettings.Proofs.Numerals
import TunnelSettings.Proofs.Rounding
import TunnelSettings.Proofs.Shortest
import TunnelSettings.Proofs.Decimals
import TunnelSettings.Proofs.JsonTexts
import TunnelSettings.Proofs.JsonScalars
import TunnelSettings.Proofs.JsonValues
import TunnelSettings.Proofs.Storing
import TunnelSettings.Proofs.SavedSettings
import TunnelSettings.Proofs.Ranges
import TunnelSettings.Proofs.Secrecy
import TunnelSettings.Proofs.LayeredData
import TunnelSettings.Proofs.Layers
import TunnelSettings.Proofs.NullData
import TunnelSettings.Proofs.Monotone
import TunnelSettings.Proofs.LetterCase
import TunnelSettings.Proofs.ActivePart
import TunnelSettings.Proofs.ValidDefaults
import TunnelSettings.Proofs.IntegerTexts
import TunnelSettings.Proofs.Endpoints
import TunnelSettings.Proofs.Choices
import TunnelSettings.Proofs.ServerData
import TunnelSettings.Proofs.Keys
import TunnelSettings.Proofs.Completion
import TunnelSettings.Proofs.Roots
import TunnelSettings.Proofs.Journals
import TunnelSettings.Proofs.PartNames
import TunnelSettings.Proofs.UnknownSections
import TunnelSettings.Proofs.Transcripts
import TunnelSettings.Proofs.Advisories
import TunnelSettings.Proofs.Reports
import TunnelSettings.Proofs.Durations
