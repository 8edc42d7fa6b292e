import TurtleScript.Alias.File
import TurtleScript.Alias.Table
import TurtleScript.Console.Arguments
import TurtleScript.Console.Launch
import TurtleScript.Console.Log
import TurtleScript.Console.Output
import TurtleScript.Console.Run
import TurtleScript.Console.Shell
import TurtleScript.Data.Json.Reader
import TurtleScript.Data.Json.Writer
import TurtleScript.Data.Table
import TurtleScript.Data.Value
import TurtleScript.Engine.Basic
import TurtleScript.Engine.Error
import TurtleScript.Engine.Notify
import TurtleScript.Engine.Observer
import TurtleScript.Engine.Run
import TurtleScript.Engine.Session
import TurtleScript.Engine.Step
import TurtleScript.Language.Command
import TurtleScript.Language.Cursor
import TurtleScript.Language.Diagnostic
import TurtleScript.Language.Kind
import TurtleScript.Language.Lexer
import TurtleScript.Language.Parser
import TurtleScript.Language.Reader
import TurtleScript.Language.Sample
import TurtleScript.Language.Step
import TurtleScript.Language.Token
import TurtleScript.Language.TokenStream
import TurtleScript.Level
import TurtleScript.Main
import TurtleScript.Number.Basic
import TurtleScript.Number.Binary64
import TurtleScript.Number.Decimal
import TurtleScript.Number.Literal
import TurtleScript.Number.Power
import TurtleScript.Number.Reading
import TurtleScript.Objective
import TurtleScript.Storage.DataFile
import TurtleScript.Storage.Folder
import TurtleScript.Text.Blank
import TurtleScript.Text.Case
import TurtleScript.Text.DecimalDigit
import TurtleScript.Text.Layout
import TurtleScript.Text.LineBreak
import TurtleScript.Text.Printable
import TurtleScript.Text.Quoted
import TurtleScript.Text.Ranges
import TurtleScript.Text.Utf8
import TurtleScript.Turtle.Basic
import TurtleScript.Turtle.Drawing
import TurtleScript.Turtle.Geometry
import TurtleScript.Turtle.Obstacle
import TurtleScript.Turtle.Palette
import TurtleScript.Proofs.Grammar
import TurtleScript.Proofs.Notification
import TurtleScript.Proofs.Resumption
import TurtleScript.Proofs.Meaning
import TurtleScript.Proofs.Lifecycle
import TurtleScript.Proofs.Stopping
import TurtleScript.Proofs.Reading
import TurtleScript.Proofs.Accounting
import TurtleScript.Proofs.Contract
import TurtleScript.Proofs.History
import TurtleScript.Proofs.Changes
import TurtleScript.Proofs.Path
import TurtleScript.Proofs.Results
import TurtleScript.Proofs.Casing
import TurtleScript.Proofs.Lexing
import TurtleScript.Proofs.Likeness
import TurtleScript.Proofs.Lines
import TurtleScript.Proofs.LongNumbers
import TurtleScript.Proofs.AliasLists
import TurtleScript.Proofs.Aliases
import TurtleScript.Proofs.AliasFiles
import TurtleScript.Proofs.Bystanders
import TurtleScript.Proofs.Sequence
import TurtleScript.Proofs.Vocabulary
import TurtleScript.Proofs.Watchers
import TurtleScript.Proofs.Budget
import TurtleScript.Proofs.Snapshots
import TurtleScript.Proofs.Showings
import TurtleScript.Proofs.Attendance
import TurtleScript.Proofs.ObstacleFiles
import TurtleScript.Proofs.Brackets
import TurtleScript.Proofs.Complaints
import TurtleScript.Proofs.LineBreaks
import TurtleScript.Proofs.Recovery
import TurtleScript.Proofs.Wording
import TurtleScript.Proofs.Respacing
import TurtleScript.Proofs.AliasSpelling
import TurtleScript.Proofs.Applying
import TurtleScript.Proofs.Strokes
import TurtleScript.Proofs.Subscriptions
import TurtleScript.Proofs.Headings
import TurtleScript.Proofs.ExitCodes
import TurtleScript.Proofs.Margins
import TurtleScript.Proofs.Conversation
import TurtleScript.Proofs.ShellPrograms
import TurtleScript.Proofs.Blocks
import TurtleScript.Proofs.ExactValues
import TurtleScript.Proofs.Rounding
import TurtleScript.Proofs.Sums
import TurtleScript.Proofs.Bearings
import TurtleScript.Proofs.FullTurns
import TurtleScript.Proofs.Numerals
import TurtleScript.Proofs.NumberWords
