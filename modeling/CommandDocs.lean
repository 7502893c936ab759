import CommandDocs.Batch
import CommandDocs.Bundle
import CommandDocs.CommandLine.Command
import CommandDocs.CommandLine.Program
import CommandDocs.CommandLine.Reading
import CommandDocs.CommandLine.Request
import CommandDocs.CommandLine.Terminal
import CommandDocs.CommandLine.Usage
import CommandDocs.Console.ColorNames
import CommandDocs.Console.Emoji
import CommandDocs.Console.EmojiNames
import CommandDocs.Console.Grapheme
import CommandDocs.Console.Marked
import CommandDocs.Console.Markup
import CommandDocs.Console.Sequence
import CommandDocs.Console.Style
import CommandDocs.Console.Table
import CommandDocs.Console.Width
import CommandDocs.Console.Wrap
import CommandDocs.Digest
import CommandDocs.Failure
import CommandDocs.Files.Changes
import CommandDocs.Files.Path
import CommandDocs.Files.Search
import CommandDocs.Files.Store
import CommandDocs.Help.Extract
import CommandDocs.Help.Fields
import CommandDocs.Help.Layout
import CommandDocs.HelpText
import CommandDocs.Host.Catalogue
import CommandDocs.Host.Interface
import CommandDocs.Host.PowerShell
import CommandDocs.Host.Script
import CommandDocs.Html.Escape
import CommandDocs.Json.Quoted
import CommandDocs.Log
import CommandDocs.Main
import CommandDocs.Manifest
import CommandDocs.Page
import CommandDocs.Proofs.Batch.Agreement
import CommandDocs.Proofs.Batch.Alone
import CommandDocs.Proofs.Batch.FailFast
import CommandDocs.Proofs.Batch.Oversized
import CommandDocs.Proofs.Batch.Pages
import CommandDocs.Proofs.Batch.Placement
import CommandDocs.Proofs.Batch.Resolving
import CommandDocs.Proofs.Batch.Summaries
import CommandDocs.Proofs.Batch.Turns
import CommandDocs.Proofs.Bundle.Again
import CommandDocs.Proofs.Bundle.Exact
import CommandDocs.Proofs.Bundle.Listing
import CommandDocs.Proofs.Bundle.Manifests
import CommandDocs.Proofs.Bundle.Parts
import CommandDocs.Proofs.CommandLine.Results
import CommandDocs.Proofs.CommandLine.Running
import CommandDocs.Proofs.Console.Emoji
import CommandDocs.Proofs.Console.Segments
import CommandDocs.Proofs.Console.Showing
import CommandDocs.Proofs.Files.Children
import CommandDocs.Proofs.Files.Frames
import CommandDocs.Proofs.Files.Reached
import CommandDocs.Proofs.Files.Searching
import CommandDocs.Proofs.Files.Trees
import CommandDocs.Proofs.Files.Writing
import CommandDocs.Proofs.Help.Blocks
import CommandDocs.Proofs.Help.Breaks
import CommandDocs.Proofs.Help.Document
import CommandDocs.Proofs.Help.ExampleBodies
import CommandDocs.Proofs.Help.Examples
import CommandDocs.Proofs.Help.Forms
import CommandDocs.Proofs.Help.GapLines
import CommandDocs.Proofs.Help.LaidOut
import CommandDocs.Proofs.Help.ParameterBlocks
import CommandDocs.Proofs.Help.Places
import CommandDocs.Proofs.Help.Reading
import CommandDocs.Proofs.Help.SectionValues
import CommandDocs.Proofs.Help.Sections
import CommandDocs.Proofs.Help.Values
import CommandDocs.Proofs.Host.Answers
import CommandDocs.Proofs.Host.Faults
import CommandDocs.Proofs.Host.Listings
import CommandDocs.Proofs.Host.Quoting
import CommandDocs.Proofs.Host.Registry
import CommandDocs.Proofs.Host.Scripts
import CommandDocs.Proofs.Json.Reading
import CommandDocs.Proofs.Outcomes
import CommandDocs.Proofs.Page.Listing
import CommandDocs.Proofs.Page.Lossless
import CommandDocs.Proofs.Page.Shown
import CommandDocs.Proofs.Settings.Escaping
import CommandDocs.Proofs.Settings.Finding
import CommandDocs.Proofs.Settings.Fresh
import CommandDocs.Proofs.Settings.Merging
import CommandDocs.Proofs.Settings.Overriding
import CommandDocs.Proofs.Settings.Reloading
import CommandDocs.Proofs.Settings.Replacing
import CommandDocs.Proofs.Settings.Saving
import CommandDocs.Proofs.Settings.Typing
import CommandDocs.Proofs.Text.Breaks
import CommandDocs.Proofs.Text.Classes
import CommandDocs.Proofs.Text.Documents
import CommandDocs.Proofs.Text.Lines
import CommandDocs.Proofs.Text.Order
import CommandDocs.Proofs.Text.Patterns
import CommandDocs.Proofs.Text.Strict
import CommandDocs.Proofs.Text.Utf16
import CommandDocs.Proofs.Text.Utf8
import CommandDocs.Proofs.Toml.Flat.Edit
import CommandDocs.Proofs.Toml.Flat.Kept
import CommandDocs.Proofs.Toml.Flat.Keys
import CommandDocs.Proofs.Toml.Flat.Rows
import CommandDocs.Proofs.Toml.Flat.Strict
import CommandDocs.Proofs.Toml.Literals
import CommandDocs.Proofs.Toml.Merge.Apart
import CommandDocs.Proofs.Toml.Merge.Cuts
import CommandDocs.Proofs.Toml.Merge.Editing
import CommandDocs.Proofs.Toml.Merge.Effects
import CommandDocs.Proofs.Toml.Merge.Joining
import CommandDocs.Proofs.Toml.Merge.Merged
import CommandDocs.Proofs.Toml.Merge.Remarks
import CommandDocs.Proofs.Toml.Merge.Rests
import CommandDocs.Proofs.Toml.Merge.Strips
import CommandDocs.Proofs.Toml.Numerals
import CommandDocs.Proofs.Toml.Quoting
import CommandDocs.Proofs.Toml.Sections.Blocks
import CommandDocs.Proofs.Toml.Sections.Joining
import CommandDocs.Proofs.Toml.Sections.Kept
import CommandDocs.Proofs.Toml.Sections.Order
import CommandDocs.Proofs.Toml.Sections.Texts
import CommandDocs.Proofs.Workspace.Course
import CommandDocs.Proofs.Workspace.Extracts
import CommandDocs.Proofs.Workspace.Fetching
import CommandDocs.Proofs.Workspace.Reading
import CommandDocs.Proofs.Workspace.Running
import CommandDocs.Proofs.Workspace.Writers
import CommandDocs.Settings.Basic
import CommandDocs.Settings.Fault
import CommandDocs.Settings.File
import CommandDocs.Settings.Written
import CommandDocs.Sources
import CommandDocs.Summary
import CommandDocs.Text.Blank
import CommandDocs.Text.Decoding
import CommandDocs.Text.Digit
import CommandDocs.Text.Fold
import CommandDocs.Text.Interval
import CommandDocs.Text.Line
import CommandDocs.Text.Lower
import CommandDocs.Text.Number
import CommandDocs.Text.Pattern
import CommandDocs.Text.Printable
import CommandDocs.Text.Quoted
import CommandDocs.Text.Similar
import CommandDocs.Text.Utf16
import CommandDocs.Text.Utf8
import CommandDocs.Text.Word
import CommandDocs.Toml.Collections
import CommandDocs.Toml.Document
import CommandDocs.Toml.Layout.Block
import CommandDocs.Toml.Layout.Edit
import CommandDocs.Toml.Layout.Key
import CommandDocs.Toml.Layout.Line
import CommandDocs.Toml.Layout.Literal
import CommandDocs.Toml.Layout.Moment
import CommandDocs.Toml.Layout.Node
import CommandDocs.Toml.Layout.Numeral
import CommandDocs.Toml.Layout.Quoted
import CommandDocs.Toml.Layout.Text
import CommandDocs.Toml.Namespace
import CommandDocs.Toml.Scalars
import CommandDocs.Toml.Strings
import CommandDocs.Toml.Value
import CommandDocs.Toml.Written
import CommandDocs.Workspace
