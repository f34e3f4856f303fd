import SchemaDrift.CommandLine.Report
import SchemaDrift.CommandLine.Request
import SchemaDrift.CommandLine.Run
import SchemaDrift.Comparison
import SchemaDrift.Config.Basic
import SchemaDrift.Config.Reader
import SchemaDrift.Dump.Block
import SchemaDrift.Dump.Events
import SchemaDrift.Dump.Line
import SchemaDrift.Dump.Reading
import SchemaDrift.Failure
import SchemaDrift.Host.Basic
import SchemaDrift.Host.ExitStatus
import SchemaDrift.Host.Fault
import SchemaDrift.Host.FileTree
import SchemaDrift.Host.Storage
import SchemaDrift.Log.Event
import SchemaDrift.Log.Level
import SchemaDrift.Log.Logged
import SchemaDrift.Main
import SchemaDrift.Migration.Basic
import SchemaDrift.Migration.Compare
import SchemaDrift.Migration.Events
import SchemaDrift.Migration.Names
import SchemaDrift.Migration.Script
import SchemaDrift.Posix.Shell.Arithmetic
import SchemaDrift.Posix.Shell.Basic
import SchemaDrift.Posix.Shell.Brace
import SchemaDrift.Posix.Shell.Builtin.Flow
import SchemaDrift.Posix.Shell.Builtin.Naming
import SchemaDrift.Posix.Shell.Builtin.Place
import SchemaDrift.Posix.Shell.Builtin.Reading
import SchemaDrift.Posix.Shell.Builtin.Setting
import SchemaDrift.Posix.Shell.Builtin.Table
import SchemaDrift.Posix.Shell.Dialect
import SchemaDrift.Posix.Shell.Expansion
import SchemaDrift.Posix.Shell.Field
import SchemaDrift.Posix.Shell.Giving
import SchemaDrift.Posix.Shell.Host
import SchemaDrift.Posix.Shell.Lexeme
import SchemaDrift.Posix.Shell.Program
import SchemaDrift.Posix.Shell.Reader
import SchemaDrift.Posix.Shell.Run
import SchemaDrift.Posix.Shell.State
import SchemaDrift.Posix.Shell.Variable
import SchemaDrift.Posix.Shell.World
import SchemaDrift.Posix.System
import SchemaDrift.Posix.Text.Bytes
import SchemaDrift.Posix.Text.CharSet
import SchemaDrift.Posix.Text.Escape
import SchemaDrift.Posix.Text.Expression
import SchemaDrift.Posix.Text.Fraction
import SchemaDrift.Posix.Text.Pattern
import SchemaDrift.Posix.Tool.Basic
import SchemaDrift.Posix.Tool.Coding
import SchemaDrift.Posix.Tool.Columns
import SchemaDrift.Posix.Tool.Condition
import SchemaDrift.Posix.Tool.Edit.Basic
import SchemaDrift.Posix.Tool.Edit.Run
import SchemaDrift.Posix.Tool.Entries
import SchemaDrift.Posix.Tool.Errand
import SchemaDrift.Posix.Tool.Find
import SchemaDrift.Posix.Tool.Format
import SchemaDrift.Posix.Tool.Lines
import SchemaDrift.Posix.Tool.Number
import SchemaDrift.Posix.Tool.Options
import SchemaDrift.Posix.Tool.Order
import SchemaDrift.Posix.Tool.Record.Basic
import SchemaDrift.Posix.Tool.Record.Format
import SchemaDrift.Posix.Tool.Record.Lexeme
import SchemaDrift.Posix.Tool.Record.Reader
import SchemaDrift.Posix.Tool.Record.Run
import SchemaDrift.Posix.Tool.Record.State
import SchemaDrift.Posix.Tool.Report
import SchemaDrift.Posix.Tool.Run
import SchemaDrift.Posix.Tool.Search
import SchemaDrift.Proofs.CommandLine.Outcome
import SchemaDrift.Proofs.CommandLine.Passwords
import SchemaDrift.Proofs.CommandLine.Words
import SchemaDrift.Proofs.Comparison
import SchemaDrift.Proofs.Config.Overrides
import SchemaDrift.Proofs.Dump.BlockLines
import SchemaDrift.Proofs.Dump.ColumnLines
import SchemaDrift.Proofs.Dump.Concatenation
import SchemaDrift.Proofs.Dump.Conservation
import SchemaDrift.Proofs.Dump.KeyLines
import SchemaDrift.Proofs.Dump.Layout
import SchemaDrift.Proofs.Dump.LineEndings
import SchemaDrift.Proofs.Dump.LineReading
import SchemaDrift.Proofs.Dump.Origins
import SchemaDrift.Proofs.Dump.Places
import SchemaDrift.Proofs.Dump.RoundTrip
import SchemaDrift.Proofs.Dump.Scan
import SchemaDrift.Proofs.Dump.Statements
import SchemaDrift.Proofs.Dump.Tables
import SchemaDrift.Proofs.Host.Journal
import SchemaDrift.Proofs.Host.LogText
import SchemaDrift.Proofs.Host.LogTree
import SchemaDrift.Proofs.Host.Path
import SchemaDrift.Proofs.Migration.Agreement
import SchemaDrift.Proofs.Migration.Alteration
import SchemaDrift.Proofs.Migration.Clauses
import SchemaDrift.Proofs.Migration.ColumnLookUp
import SchemaDrift.Proofs.Migration.Dependence
import SchemaDrift.Proofs.Migration.Effect
import SchemaDrift.Proofs.Migration.FirstOccurrence
import SchemaDrift.Proofs.Migration.IndexNames
import SchemaDrift.Proofs.Migration.LastWins
import SchemaDrift.Proofs.Migration.Locality
import SchemaDrift.Proofs.Migration.Minimality
import SchemaDrift.Proofs.Migration.Provenance
import SchemaDrift.Proofs.Migration.Reread
import SchemaDrift.Proofs.Migration.Soundness
import SchemaDrift.Proofs.Migration.TableNames
import SchemaDrift.Proofs.Server.ConnectionUrl
import SchemaDrift.Proofs.Server.PortTexts
import SchemaDrift.Proofs.Server.Properties
import SchemaDrift.Proofs.Server.StepRun
import SchemaDrift.Proofs.Server.UrlQuery
import SchemaDrift.Proofs.Server.UrlReading
import SchemaDrift.Proofs.Source.Description
import SchemaDrift.Proofs.Source.Grammar
import SchemaDrift.Proofs.Source.Passwords
import SchemaDrift.Proofs.Source.TemporaryDatabase
import SchemaDrift.Proofs.Table.Additions
import SchemaDrift.Proofs.Table.Columns
import SchemaDrift.Proofs.Table.IndexName
import SchemaDrift.Proofs.Text.ByteOrder
import SchemaDrift.Proofs.Text.Decimal
import SchemaDrift.Proofs.Text.LineEndings
import SchemaDrift.Proofs.Text.Pieces
import SchemaDrift.Proofs.Text.Search
import SchemaDrift.Proofs.Text.Words
import SchemaDrift.Proofs.Toml.Documents
import SchemaDrift.Proofs.Toml.Number
import SchemaDrift.Proofs.Toml.Quoted
import SchemaDrift.Proofs.Toml.Values
import SchemaDrift.Proofs.Toml.Writing
import SchemaDrift.Server.Connection
import SchemaDrift.Server.Exchange
import SchemaDrift.Server.Ipv6
import SchemaDrift.Server.Options
import SchemaDrift.Server.Percent
import SchemaDrift.Server.Port
import SchemaDrift.Server.Url
import SchemaDrift.Source.Argument
import SchemaDrift.Source.Fetch
import SchemaDrift.Source.Grammar
import SchemaDrift.Table.Basic
import SchemaDrift.Table.Build
import SchemaDrift.Table.Document
import SchemaDrift.Table.IndexName
import SchemaDrift.Text.Basic
import SchemaDrift.Text.Blank
import SchemaDrift.Text.Decimal
import SchemaDrift.Text.Quoted
import SchemaDrift.Text.Utf8
import SchemaDrift.Toml.Number
import SchemaDrift.Toml.Quoted
import SchemaDrift.Toml.Reader
import SchemaDrift.Toml.Value
