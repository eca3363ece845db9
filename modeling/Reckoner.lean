import Reckoner.Answer
import Reckoner.Calculator
import Reckoner.Calendar.Moment
import Reckoner.Calendar.Stamp
import Reckoner.Command
import Reckoner.Command.Sliced
import Reckoner.Console.Buffer
import Reckoner.Console.Editor
import Reckoner.Console.EntryRows
import Reckoner.Console.Event
import Reckoner.Console.HelpPage
import Reckoner.Console.Highlight
import Reckoner.Console.Highlight.Scan
import Reckoner.Console.MainPage
import Reckoner.Console.Spacing
import Reckoner.Console.State
import Reckoner.DataDir
import Reckoner.Decimal.Binary
import Reckoner.Decimal.Notation
import Reckoner.Decimal.Rounding
import Reckoner.Decimal.Shortest
import Reckoner.Disk
import Reckoner.Disk.Path
import Reckoner.Expression.Error
import Reckoner.Expression.Evaluation
import Reckoner.Expression.Function
import Reckoner.Expression.Grammar
import Reckoner.Expression.Operator
import Reckoner.Expression.Postfix
import Reckoner.Expression.Token
import Reckoner.Expression.Tree
import Reckoner.Expression.Value
import Reckoner.History
import Reckoner.Journal
import Reckoner.Json.Numeral
import Reckoner.Json.Reader
import Reckoner.Json.Value
import Reckoner.Json.Writer
import Reckoner.Launch
import Reckoner.Launch.Arguments
import Reckoner.Launch.Log
import Reckoner.Main
import Reckoner.Screen.Canvas
import Reckoner.Screen.Frame
import Reckoner.Screen.Paragraph
import Reckoner.Screen.Rows
import Reckoner.Screen.Style
import Reckoner.Session
import Reckoner.Settings
import Reckoner.Store
import Reckoner.Text.Basic
import Reckoner.Text.Bytes
import Reckoner.Text.Cluster
import Reckoner.Text.Cluster.Class
import Reckoner.Text.CodeRange
import Reckoner.Text.Columns
import Reckoner.Text.Columns.Basic
import Reckoner.Text.Columns.Following
import Reckoner.Text.Columns.Ligature
import Reckoner.Text.Columns.Table
import Reckoner.Text.Fold
import Reckoner.Text.Letter
import Reckoner.Text.Mark
import Reckoner.Text.Quoted
import Reckoner.Text.Quoted.Table
import Reckoner.Text.Wrap
import Reckoner.Text.Wrap.Passes
import Reckoner.Theme
import Reckoner.Proofs.Expression.Conversion
import Reckoner.Proofs.Expression.Evaluation
import Reckoner.Proofs.Expression.Brackets
import Reckoner.Proofs.Expression.Operands
import Reckoner.Proofs.Expression.Glyph
import Reckoner.Proofs.Expression.Sentence
import Reckoner.Proofs.Expression.Runs
import Reckoner.Proofs.Expression.Reading
import Reckoner.Proofs.Expression.Substitution
import Reckoner.Proofs.Expression.Rearrangement
import Reckoner.Proofs.Expression.Steps
import Reckoner.Proofs.Prompt.Commands
import Reckoner.Proofs.Prompt.Replay
import Reckoner.Proofs.Json.Numerals
import Reckoner.Proofs.Json.Grammar
import Reckoner.Proofs.Json.Reading
import Reckoner.Proofs.Json.RoundTrip
import Reckoner.Proofs.Calendar.Days
import Reckoner.Proofs.Calendar.Stamps
import Reckoner.Proofs.Disk.Saving
import Reckoner.Proofs.History.Format
import Reckoner.Proofs.History.Persistence
import Reckoner.Proofs.Text.Blanks
import Reckoner.Proofs.Text.Case
import Reckoner.Proofs.Text.Digits
import Reckoner.Proofs.Decimal.Digits
import Reckoner.Proofs.Decimal.Magnitude
import Reckoner.Proofs.Decimal.Notation
import Reckoner.Proofs.History.Recent
import Reckoner.Proofs.History.Identifiers
import Reckoner.Proofs.Console.Agreement
import Reckoner.Proofs.Console.Failure
import Reckoner.Proofs.Settings.Format
import Reckoner.Proofs.Disk.Changes
import Reckoner.Proofs.Disk.Names
import Reckoner.Proofs.Prompt.Writes
import Reckoner.Proofs.Launch.Overrides
import Reckoner.Proofs.Prompt.Registers
import Reckoner.Proofs.Prompt.Memory
import Reckoner.Proofs.Prompt.Requests
import Reckoner.Proofs.Prompt.Recalled
import Reckoner.Proofs.Keypad.Keys
import Reckoner.Proofs.Keypad.Operators
import Reckoner.Proofs.Keypad.Points
import Reckoner.Proofs.Keypad.Signs
import Reckoner.Proofs.Decimal.Length
import Reckoner.Proofs.Decimal.Midpoints
import Reckoner.Proofs.Decimal.Words
import Reckoner.Proofs.Decimal.Quotients
import Reckoner.Proofs.Decimal.Reading
import Reckoner.Proofs.Keypad.Results
import Reckoner.Proofs.Keypad.RoundTrip
import Reckoner.Proofs.Keypad.Continuing
import Reckoner.Proofs.Launch.Once
import Reckoner.Proofs.Console.Editing
import Reckoner.Proofs.Console.Reactions
import Reckoner.Proofs.Console.Cursor
import Reckoner.Proofs.Console.Recall
import Reckoner.Proofs.Console.Typed
import Reckoner.Proofs.Settings.Fields
import Reckoner.Proofs.Text.Words
import Reckoner.Proofs.Text.Lines
import Reckoner.Proofs.Text.Wrapping
import Reckoner.Proofs.Console.Spacing
import Reckoner.Proofs.Console.Highlighting
import Reckoner.Proofs.Text.Narrow
import Reckoner.Proofs.Screen.Cells
import Reckoner.Proofs.Screen.Writing
import Reckoner.Proofs.Screen.Drawing
import Reckoner.Proofs.Console.Scrolling
import Reckoner.Proofs.Console.Redrawing
import Reckoner.Proofs.Console.Answers
import Reckoner.Proofs.Console.Page
