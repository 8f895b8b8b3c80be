import MarkupTidy.Text.Blank
import MarkupTidy.Text.Digits
import MarkupTidy.Text.Find
import MarkupTidy.Text.Integer
import MarkupTidy.Text.Lines
import MarkupTidy.Text.Printable
import MarkupTidy.Text.Surrogate
import MarkupTidy.Text.Quote
import MarkupTidy.Text.Case
import MarkupTidy.Text.Double
import MarkupTidy.Markup.Tag
import MarkupTidy.Markup.Scan
import MarkupTidy.Markup.Signed
import MarkupTidy.Markup.Segment
import MarkupTidy.Markup.Balance
import MarkupTidy.Markup.Compact
import MarkupTidy.Markup.Layout
import MarkupTidy.Yaml.Fault
import MarkupTidy.Yaml.Token
import MarkupTidy.Yaml.Lex
import MarkupTidy.Yaml.Resolve
import MarkupTidy.Yaml.Node
import MarkupTidy.Yaml.Number
import MarkupTidy.Yaml.Value
import MarkupTidy.Settings
import MarkupTidy.Diff.Match
import MarkupTidy.Diff.Unified
import MarkupTidy.Host.Path
import MarkupTidy.Host.Effects
import MarkupTidy.Host.World
import MarkupTidy.Host.Log
import MarkupTidy.Job.Failure
import MarkupTidy.Job.Run
import MarkupTidy.Json.Double
import MarkupTidy.Json.Encoding
import MarkupTidy.Json.Value
import MarkupTidy.Json.Print
import MarkupTidy.Json.Read
import MarkupTidy.Cli.Grammar
import MarkupTidy.Cli.Parse
import MarkupTidy.Cli.Commands
import MarkupTidy.Cli.Run
import MarkupTidy.Service.Fields
import MarkupTidy.Service.Route
import MarkupTidy.Service.App
import MarkupTidy.Main
import MarkupTidy.Proofs.Nesting
import MarkupTidy.Proofs.Scanning
import MarkupTidy.Proofs.Trimming
import MarkupTidy.Proofs.Seams
import MarkupTidy.Proofs.Relayout
import MarkupTidy.Proofs.Compaction
import MarkupTidy.Proofs.Cutting
import MarkupTidy.Proofs.CompactionTags
import MarkupTidy.Proofs.LayoutTags
import MarkupTidy.Proofs.CleanLayout
import MarkupTidy.Proofs.Ink
import MarkupTidy.Proofs.Squeezing
import MarkupTidy.Proofs.Uncommenting
import MarkupTidy.Proofs.BlankRuns
import MarkupTidy.Proofs.Reading
import MarkupTidy.Proofs.Issues
import MarkupTidy.Proofs.Worlds
import MarkupTidy.Proofs.Formatting
import MarkupTidy.Proofs.CommandLine
import MarkupTidy.Proofs.Stability
import MarkupTidy.Proofs.Modes
import MarkupTidy.Proofs.Footprint
import MarkupTidy.Proofs.CountingBack
import MarkupTidy.Proofs.SettingsFile
import MarkupTidy.Proofs.Settling
