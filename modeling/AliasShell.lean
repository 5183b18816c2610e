import AliasShell.Aliases
import AliasShell.Builtin.Aliases
import AliasShell.Builtin.Basic
import AliasShell.Builtin.Directory
import AliasShell.Builtin.Table
import AliasShell.Builtin.Variables
import AliasShell.Calc.Operation
import AliasShell.Calc.Reader
import AliasShell.Calc.Token
import AliasShell.Calc.Value
import AliasShell.Command
import AliasShell.CommandLine.Erase
import AliasShell.CommandLine.Flags
import AliasShell.CommandLine.Run
import AliasShell.Completion.Line
import AliasShell.Completion.Paths
import AliasShell.Completion.Verbs
import AliasShell.Console
import AliasShell.Dispatch
import AliasShell.Environment.Basic
import AliasShell.Environment.Entries
import AliasShell.Environment.Sorted
import AliasShell.Environment.Store
import AliasShell.Files.Basic
import AliasShell.Files.Calendar
import AliasShell.Files.Operations
import AliasShell.Files.Walk
import AliasShell.Highlight
import AliasShell.Launch.Executor
import AliasShell.Launch.Request
import AliasShell.Launch.Scripted
import AliasShell.Machine.Condition
import AliasShell.Machine.Dates.Basic
import AliasShell.Machine.Dates.Format
import AliasShell.Machine.Dates.Reader
import AliasShell.Machine.Edits
import AliasShell.Machine.Files.Change
import AliasShell.Machine.Files.Facts
import AliasShell.Machine.Format
import AliasShell.Machine.Image
import AliasShell.Machine.Number.Double
import AliasShell.Machine.Number.Quantity
import AliasShell.Machine.Process
import AliasShell.Machine.Quoting
import AliasShell.Machine.Regex.Basic
import AliasShell.Machine.Regex.Brackets
import AliasShell.Machine.Regex.Matcher
import AliasShell.Machine.Regex.Reader
import AliasShell.Machine.Rights
import AliasShell.Machine.Script.Channels
import AliasShell.Machine.Script.Expand
import AliasShell.Machine.Script.Lexeme
import AliasShell.Machine.Script.Own.Basic
import AliasShell.Machine.Script.Own.Control
import AliasShell.Machine.Script.Own.Directory
import AliasShell.Machine.Script.Own.Limits
import AliasShell.Machine.Script.Own.Read
import AliasShell.Machine.Script.Own.Table
import AliasShell.Machine.Script.Own.Variables
import AliasShell.Machine.Script.Pattern
import AliasShell.Machine.Script.Program
import AliasShell.Machine.Script.Reader
import AliasShell.Machine.Script.Run
import AliasShell.Machine.Script.Runner
import AliasShell.Machine.Script.State
import AliasShell.Machine.Script.Sum
import AliasShell.Machine.Script.Syntax
import AliasShell.Machine.Search
import AliasShell.Machine.Signal
import AliasShell.Machine.Start
import AliasShell.Machine.Tools.Attributes
import AliasShell.Machine.Tools.Basic
import AliasShell.Machine.Tools.Characters
import AliasShell.Machine.Tools.Circumstances
import AliasShell.Machine.Tools.Clock
import AliasShell.Machine.Tools.Columns
import AliasShell.Machine.Tools.Comparing
import AliasShell.Machine.Tools.Contents
import AliasShell.Machine.Tools.Copying
import AliasShell.Machine.Tools.Describing
import AliasShell.Machine.Tools.Differences
import AliasShell.Machine.Tools.Directories
import AliasShell.Machine.Tools.Dumping
import AliasShell.Machine.Tools.Editing
import AliasShell.Machine.Tools.Editing.Basic
import AliasShell.Machine.Tools.Editing.Reader
import AliasShell.Machine.Tools.Editing.Run
import AliasShell.Machine.Tools.Encoding
import AliasShell.Machine.Tools.Expr
import AliasShell.Machine.Tools.Finding
import AliasShell.Machine.Tools.Finding.Basic
import AliasShell.Machine.Tools.Finding.Reader
import AliasShell.Machine.Tools.Finding.Report
import AliasShell.Machine.Tools.Identity
import AliasShell.Machine.Tools.Layout
import AliasShell.Machine.Tools.Linking
import AliasShell.Machine.Tools.Listing
import AliasShell.Machine.Tools.Plain
import AliasShell.Machine.Tools.Progress
import AliasShell.Machine.Tools.Records
import AliasShell.Machine.Tools.Records.Fields
import AliasShell.Machine.Tools.Records.Functions
import AliasShell.Machine.Tools.Records.Lexeme
import AliasShell.Machine.Tools.Records.Reader
import AliasShell.Machine.Tools.Records.Run
import AliasShell.Machine.Tools.Records.State
import AliasShell.Machine.Tools.Records.Syntax
import AliasShell.Machine.Tools.Records.Table
import AliasShell.Machine.Tools.Records.Value
import AliasShell.Machine.Tools.Removing
import AliasShell.Machine.Tools.Repetitions
import AliasShell.Machine.Tools.Searching
import AliasShell.Machine.Tools.Series
import AliasShell.Machine.Tools.Sorting
import AliasShell.Machine.Tools.Starting
import AliasShell.Machine.Tools.Supplying
import AliasShell.Machine.Tools.Table
import AliasShell.Machine.Tools.Targets
import AliasShell.Main
import AliasShell.Number.Binary
import AliasShell.Number.Integer
import AliasShell.Number.Positional
import AliasShell.Path
import AliasShell.Proofs.Aliases.Declared
import AliasShell.Proofs.Aliases.Listing
import AliasShell.Proofs.Aliases.Order
import AliasShell.Proofs.Assigned
import AliasShell.Proofs.Calc.Exact
import AliasShell.Proofs.Calc.Extremes
import AliasShell.Proofs.Calc.Grammar
import AliasShell.Proofs.Calc.Kinds
import AliasShell.Proofs.Calc.Nesting
import AliasShell.Proofs.Calc.Overflow
import AliasShell.Proofs.Calc.Printed
import AliasShell.Proofs.Calc.Range
import AliasShell.Proofs.Calc.Reading
import AliasShell.Proofs.Calc.Spelling
import AliasShell.Proofs.Calc.Unambiguous
import AliasShell.Proofs.Calc.Words
import AliasShell.Proofs.Canonical
import AliasShell.Proofs.Completion.Cursor
import AliasShell.Proofs.Completion.Paths
import AliasShell.Proofs.Completion.Verbs
import AliasShell.Proofs.Computed
import AliasShell.Proofs.Dispatch.Directory
import AliasShell.Proofs.Dispatch.History
import AliasShell.Proofs.Dispatch.Indifference
import AliasShell.Proofs.Dispatch.Inherited
import AliasShell.Proofs.Dispatch.Limit
import AliasShell.Proofs.Dispatch.Lines
import AliasShell.Proofs.Dispatch.Names
import AliasShell.Proofs.Dispatch.Replay
import AliasShell.Proofs.Dispatch.Sequence
import AliasShell.Proofs.Dispatch.Shifted
import AliasShell.Proofs.Dispatch.TokenLevel
import AliasShell.Proofs.Dispatch.Variables
import AliasShell.Proofs.Environment
import AliasShell.Proofs.Environment.Changes
import AliasShell.Proofs.Environment.Interchange
import AliasShell.Proofs.Failures
import AliasShell.Proofs.Home
import AliasShell.Proofs.Joined
import AliasShell.Proofs.Launch
import AliasShell.Proofs.Listed
import AliasShell.Proofs.Number.Conversion
import AliasShell.Proofs.Number.Nearest
import AliasShell.Proofs.Pieces
import AliasShell.Proofs.Shell.Calls
import AliasShell.Proofs.Shell.Loop
import AliasShell.Proofs.Startup
import AliasShell.Proofs.Surroundings
import AliasShell.Proofs.Tokens
import AliasShell.Session
import AliasShell.Shell.Basic
import AliasShell.Shell.Hook
import AliasShell.Shell.Loop
import AliasShell.Startup.Locations
import AliasShell.Startup.Source
import AliasShell.Text.Basic
import AliasShell.Text.Blank
import AliasShell.Text.BreakClass
import AliasShell.Text.Bytes
import AliasShell.Text.Cluster
import AliasShell.Text.Letter
import AliasShell.Text.Order
import AliasShell.Text.Ranges
