import Rulebook.Bundled
import Rulebook.Check
import Rulebook.CommandLine.Arguments
import Rulebook.CommandLine.Lint
import Rulebook.CommandLine.Request
import Rulebook.CommandLine.Switch
import Rulebook.CommandLine.Usage
import Rulebook.Console
import Rulebook.Decimal.Binary64
import Rulebook.Decimal.Shortest
import Rulebook.Diagnostic
import Rulebook.FileTree.Basic
import Rulebook.FileTree.Edit
import Rulebook.FileTree.Host
import Rulebook.FileTree.Manifest
import Rulebook.FileTree.Resolve
import Rulebook.Frontmatter.Block
import Rulebook.Frontmatter.Line
import Rulebook.Frontmatter.Metadata
import Rulebook.Main
import Rulebook.Path
import Rulebook.Problem
import Rulebook.Proofs.CommandLine.Composition
import Rulebook.Proofs.CommandLine.Exit
import Rulebook.Proofs.CommandLine.Verbatim
import Rulebook.Proofs.CommandLine.Words
import Rulebook.Proofs.FileTree.Lookup
import Rulebook.Proofs.FileTree.Outline
import Rulebook.Proofs.FileTree.Placed
import Rulebook.Proofs.FileTree.Reached
import Rulebook.Proofs.Frontmatter.Cursor
import Rulebook.Proofs.Frontmatter.Delimited
import Rulebook.Proofs.Frontmatter.Enclosed
import Rulebook.Proofs.Frontmatter.Entries
import Rulebook.Proofs.Frontmatter.Grammar
import Rulebook.Proofs.Frontmatter.KeyLines
import Rulebook.Proofs.Frontmatter.Patterns
import Rulebook.Proofs.Frontmatter.Spelling
import Rulebook.Proofs.Frontmatter.Trailing
import Rulebook.Proofs.Frontmatter.Written
import Rulebook.Proofs.Path.Covering
import Rulebook.Proofs.Report.Counts
import Rulebook.Proofs.Run.Abreast
import Rulebook.Proofs.Run.Alike
import Rulebook.Proofs.Run.Cut
import Rulebook.Proofs.Run.Links
import Rulebook.Proofs.Run.Outcome
import Rulebook.Proofs.Run.Placed
import Rulebook.Proofs.Run.Relaxed
import Rulebook.Proofs.Settings.Accepted
import Rulebook.Proofs.Settings.Ending
import Rulebook.Proofs.Settings.Extension
import Rulebook.Proofs.Settings.Keywords
import Rulebook.Proofs.Settings.Least
import Rulebook.Proofs.Settings.Legible
import Rulebook.Proofs.Settings.Rearranged
import Rulebook.Proofs.Settings.Reported
import Rulebook.Proofs.Settings.UnknownKeys
import Rulebook.Proofs.Text.Emoji
import Rulebook.Proofs.Text.Escapes
import Rulebook.Proofs.Text.Pattern
import Rulebook.Proofs.Text.Trim
import Rulebook.Proofs.Validation.Below
import Rulebook.Proofs.Validation.Findings
import Rulebook.Proofs.Validation.Inserted
import Rulebook.Proofs.Validation.Lenient
import Rulebook.Proofs.Validation.LineEndings
import Rulebook.Proofs.Validation.Relaxed
import Rulebook.Proofs.Validation.Tidy
import Rulebook.Proofs.Validation.Unfailing
import Rulebook.Proofs.Validation.Verdict
import Rulebook.Proofs.Validation.WellFormed
import Rulebook.Proofs.Walk.Alike
import Rulebook.Proofs.Walk.Calls
import Rulebook.Proofs.Walk.Changes
import Rulebook.Proofs.Walk.Deeds
import Rulebook.Proofs.Walk.Itinerary
import Rulebook.Proofs.Walk.Preorder
import Rulebook.Proofs.Walk.Thorough
import Rulebook.Proofs.Yaml.DistinctKeys
import Rulebook.Proofs.Yaml.Failures
import Rulebook.Proofs.Yaml.Rearranged
import Rulebook.Report
import Rulebook.Run
import Rulebook.Settings.Basic
import Rulebook.Settings.Load
import Rulebook.Settings.Schema
import Rulebook.Text.Blank
import Rulebook.Text.Cells
import Rulebook.Text.Emoji
import Rulebook.Text.Escapes
import Rulebook.Text.Lines
import Rulebook.Text.Printable
import Rulebook.Text.Quoted
import Rulebook.Text.Ranges
import Rulebook.Text.Similar
import Rulebook.Text.Utf8
import Rulebook.Text.Word
import Rulebook.Validation
import Rulebook.Walk
import Rulebook.Yaml.Cursor
import Rulebook.Yaml.Document
import Rulebook.Yaml.Event
import Rulebook.Yaml.Node
import Rulebook.Yaml.Scalar
import Rulebook.Yaml.Tag
import Rulebook.Yaml.Timestamp
import Rulebook.Yaml.Token
import Rulebook.Yaml.Token.Scalar
import Rulebook.Yaml.Token.Scan
