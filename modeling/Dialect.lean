import Dialect.Address.Basic
import Dialect.Address.Escape
import Dialect.Address.Host
import Dialect.Address.Name
import Dialect.Address.Name.Character
import Dialect.Address.Name.Label
import Dialect.Address.Name.Replacement
import Dialect.Address.Path
import Dialect.Address.Punycode
import Dialect.Analysis
import Dialect.Cli.Args
import Dialect.Cli.FileSystem
import Dialect.Cli.Files
import Dialect.Cli.Report
import Dialect.Cli.Run
import Dialect.Code.Line
import Dialect.Code.TopLevel
import Dialect.Declaration.Basic
import Dialect.Declaration.Check
import Dialect.Declaration.Head
import Dialect.Diagnostic
import Dialect.Editor.Call
import Dialect.Editor.Completion
import Dialect.Editor.Diagnostic
import Dialect.Editor.Edit
import Dialect.Editor.Encoding
import Dialect.Editor.Protocol.Basic
import Dialect.Editor.Protocol.Method
import Dialect.Editor.Protocol.Opening
import Dialect.Editor.Scheduler
import Dialect.Editor.Server
import Dialect.Editor.Session
import Dialect.Editor.Table
import Dialect.Editor.Timeline
import Dialect.Editor.Uri
import Dialect.Editor.Workspace
import Dialect.Filter.Arguments
import Dialect.Filter.Columns.Cut
import Dialect.Filter.Columns.Fold
import Dialect.Filter.Columns.Paste
import Dialect.Filter.Columns.Tabs
import Dialect.Filter.Condition
import Dialect.Filter.Copying
import Dialect.Filter.Counting
import Dialect.Filter.Encoding
import Dialect.Filter.Ends
import Dialect.Filter.Exchange
import Dialect.Filter.Exchange.Listing
import Dialect.Filter.Files
import Dialect.Filter.Naming
import Dialect.Filter.Octet
import Dialect.Filter.Pattern.Basic
import Dialect.Filter.Pattern.Bracket
import Dialect.Filter.Pattern.Reader
import Dialect.Filter.Printing
import Dialect.Filter.Printing.Number
import Dialect.Filter.Program
import Dialect.Filter.Search
import Dialect.Filter.Sorting
import Dialect.Filter.StreamEdit
import Dialect.Filter.StreamEdit.Basic
import Dialect.Filter.StreamEdit.Reader
import Dialect.Filter.StreamEdit.Run
import Dialect.Filter.StreamEdit.Text
import Dialect.Filter.Waiting
import Dialect.Host.Check
import Dialect.Host.Command
import Dialect.Host.Format
import Dialect.Host.Launch
import Dialect.Host.Report
import Dialect.Host.Settings
import Dialect.Host.Tool
import Dialect.Main
import Dialect.Mask.Basic
import Dialect.Mask.Construct
import Dialect.Mask.Placeholder
import Dialect.Mask.Restore
import Dialect.Mask.Splice
import Dialect.Order
import Dialect.Position
import Dialect.Proofs.Code.Lexeme
import Dialect.Proofs.Code.Lexer
import Dialect.Proofs.Code.TopLevel
import Dialect.Proofs.Declaration.Basic
import Dialect.Proofs.Mask.Bytes
import Dialect.Proofs.Mask.Construct
import Dialect.Proofs.Mask.Document
import Dialect.Proofs.Mask.Mark
import Dialect.Proofs.Mask.Position
import Dialect.Proofs.Mask.Respaced
import Dialect.Proofs.Mask.Restore
import Dialect.Proofs.Mask.RoundTrip
import Dialect.Proofs.Mask.Run
import Dialect.Proofs.Mask.Splice
import Dialect.Proofs.Mask.Stage
import Dialect.Proofs.Mask.Token
import Dialect.Proofs.Mask.Wrap
import Dialect.Proofs.Order
import Dialect.Proofs.Position
import Dialect.Proofs.Text.Blank
import Dialect.Proofs.Text.Line
import Dialect.Proofs.Text.Measure
import Dialect.Proofs.Text.Respaced
import Dialect.Proofs.Text.Search
import Dialect.Shape
import Dialect.Shell.Arithmetic
import Dialect.Shell.Builtin
import Dialect.Shell.Expansion
import Dialect.Shell.Glob
import Dialect.Shell.Reader
import Dialect.Shell.Run
import Dialect.Shell.Script
import Dialect.Shell.Signal
import Dialect.Shell.State
import Dialect.Shell.Token
import Dialect.Structure.Bracket
import Dialect.Structure.Scan
import Dialect.Structure.Statement
import Dialect.Text.Ascii
import Dialect.Text.Blank
import Dialect.Text.CombiningClass
import Dialect.Text.Composite
import Dialect.Text.Composite.Table
import Dialect.Text.Digit
import Dialect.Text.Direction
import Dialect.Text.Joining
import Dialect.Text.Line
import Dialect.Text.Mark
import Dialect.Text.Measure
import Dialect.Text.Pieces
import Dialect.Text.Range
import Dialect.Text.Search
import Dialect.Text.Utf8
import Dialect.Text.Word
import Dialect.Value
import Dialect.Vocabulary
import Dialect.Proofs.Editor.Publication
import Dialect.Proofs.Editor.History
import Dialect.Proofs.Code.Mode
import Dialect.Proofs.Code.Search
import Dialect.Proofs.Declaration.Head
import Dialect.Proofs.Code.Literal
import Dialect.Proofs.Declaration.Meaning
import Dialect.Proofs.Mask.Spacing
import Dialect.Proofs.Mask.Indent
import Dialect.Proofs.Mask.Meaning
import Dialect.Proofs.Editor.Generation
import Dialect.Proofs.Editor.Handle
import Dialect.Proofs.Editor.Debounce
import Dialect.Proofs.Structure.Balance
import Dialect.Proofs.Structure.Bracket
import Dialect.Proofs.Position.Bytes
import Dialect.Proofs.Position.Index
import Dialect.Proofs.Code.Line
import Dialect.Proofs.Position.Resolve
import Dialect.Proofs.Position.Table
import Dialect.Proofs.Structure.Place
import Dialect.Proofs.Structure.Unseen
import Dialect.Proofs.Structure.Canonical
import Dialect.Proofs.Analysis
import Dialect.Proofs.Declaration.Reported
import Dialect.Proofs.Text.Seam
import Dialect.Proofs.Code.Seam
import Dialect.Proofs.Declaration.Spelling
import Dialect.Proofs.Declaration.Verdict
import Dialect.Proofs.Declaration.Bytes
import Dialect.Proofs.Declaration.Comment
import Dialect.Proofs.Declaration.Language
import Dialect.Proofs.Structure.Terminator
import Dialect.Proofs.Code.Level
import Dialect.Proofs.Mask.Action
import Dialect.Proofs.Declaration.Value
import Dialect.Proofs.Editor.Edit
import Dialect.Proofs.Host.Format
import Dialect.Proofs.Host.Report
import Dialect.Proofs.Position.Offset
import Dialect.Proofs.Editor.Cursor
import Dialect.Proofs.Structure.Block
import Dialect.Proofs.Structure.Section
import Dialect.Proofs.Mask.Unwrap
import Dialect.Proofs.Mask.Fresh
import Dialect.Proofs.Text.Utf8
import Dialect.Proofs.Cli.FileSystem
import Dialect.Proofs.Cli.Files
import Dialect.Proofs.Cli.Format
import Dialect.Proofs.Editor.Completion
