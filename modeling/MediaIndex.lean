import MediaIndex.Batch
import MediaIndex.Browser.Console
import MediaIndex.Browser.Frame
import MediaIndex.Browser.Input
import MediaIndex.Browser.State
import MediaIndex.Column
import MediaIndex.CommandLine.Arguments
import MediaIndex.CommandLine.Report
import MediaIndex.CommandLine.Run
import MediaIndex.Error
import MediaIndex.Event
import MediaIndex.Extraction
import MediaIndex.Glob
import MediaIndex.GroupKey
import MediaIndex.Index.Delivery
import MediaIndex.Index.Lookup
import MediaIndex.Index.Mutation
import MediaIndex.Index.State
import MediaIndex.Item
import MediaIndex.Json.Document
import MediaIndex.Json.Numeral
import MediaIndex.Json.Value
import MediaIndex.Library
import MediaIndex.Main
import MediaIndex.Node
import MediaIndex.Notifier
import MediaIndex.Proofs.Grouping.Batch
import MediaIndex.Proofs.Grouping.Key
import MediaIndex.Query.Basic
import MediaIndex.Query.Written
import MediaIndex.Regex.Class
import MediaIndex.Regex.Match
import MediaIndex.Regex.Pattern
import MediaIndex.Regex.Reader
import MediaIndex.Regex.Syntax
import MediaIndex.Replay
import MediaIndex.RowText
import MediaIndex.Script
import MediaIndex.Session
import MediaIndex.Settings.Basic
import MediaIndex.Settings.Written
import MediaIndex.Store
import MediaIndex.Text.Age
import MediaIndex.Text.CaseMapping
import MediaIndex.Text.CaseTable
import MediaIndex.Text.CellRow
import MediaIndex.Text.CharProperty
import MediaIndex.Text.CodeSet
import MediaIndex.Text.Decimal
import MediaIndex.Text.Digits
import MediaIndex.Text.Edition
import MediaIndex.Text.GeneralCategory
import MediaIndex.Text.Grapheme
import MediaIndex.Text.GraphemeBreak
import MediaIndex.Text.NamedCategory
import MediaIndex.Text.NamedProperty
import MediaIndex.Text.Pieces
import MediaIndex.Text.Quoted
import MediaIndex.Text.Reading
import MediaIndex.Text.Script
import MediaIndex.Text.ScriptExtension
import MediaIndex.Text.SentenceBreak
import MediaIndex.Text.SimpleFold
import MediaIndex.Text.WhiteSpace
import MediaIndex.Text.Width
import MediaIndex.Text.WordBreak
import MediaIndex.Toml.Moment
import MediaIndex.Toml.Numeral
import MediaIndex.Toml.Quoted
import MediaIndex.Toml.Statement
import MediaIndex.Toml.Table
import MediaIndex.Toml.Value
import MediaIndex.Worker
import MediaIndex.Proofs.Store.Detach
import MediaIndex.Proofs.Store.Merge
import MediaIndex.Proofs.Store.Displayed
import MediaIndex.Proofs.Queue.Absorb
import MediaIndex.Proofs.Queue.Jobs
import MediaIndex.Proofs.Queue.Tickets
import MediaIndex.Proofs.Telling
import MediaIndex.Proofs.Grouping.Copies
import MediaIndex.Proofs.Index.Moves
import MediaIndex.Proofs.Index.Step
import MediaIndex.Proofs.Index.Orderly
import MediaIndex.Proofs.Index.Carried
import MediaIndex.Proofs.Refinement
import MediaIndex.Proofs.NewestCopy
import MediaIndex.Proofs.Supersession
import MediaIndex.Proofs.View.Following
import MediaIndex.Proofs.View.Moves
import MediaIndex.Proofs.RowView
import MediaIndex.Proofs.Removal
import MediaIndex.Proofs.Representation
import MediaIndex.Proofs.Index.Forecast
import MediaIndex.Proofs.Convergence
import MediaIndex.Proofs.Schedule
import MediaIndex.Proofs.View.Resets
import MediaIndex.Proofs.ResetThenAdd
import MediaIndex.Proofs.Queue.History
import MediaIndex.Proofs.BatchAccounting
import MediaIndex.Proofs.Index.Landings
import MediaIndex.Proofs.RepeatedItems
import MediaIndex.Proofs.UpdateTicket
import MediaIndex.Proofs.View.Pairs
import MediaIndex.Proofs.EventStream
import MediaIndex.Proofs.Termination
import MediaIndex.Proofs.Grouping.Partition
import MediaIndex.Proofs.Browsing
import MediaIndex.Proofs.Browser.Rows
import MediaIndex.Proofs.Text.Sets
import MediaIndex.Proofs.Pattern.Matching
import MediaIndex.Proofs.Text.Folding
import MediaIndex.Proofs.Pattern.Globs
import MediaIndex.Proofs.Pattern.Substrings
import MediaIndex.Proofs.Reloading
import MediaIndex.Proofs.Drawing
import MediaIndex.Proofs.Hiding
import MediaIndex.Proofs.Text.Bytes
import MediaIndex.Proofs.RowOrder
import MediaIndex.Proofs.Grouping.FieldValues
import MediaIndex.Proofs.Pattern.WordOrder
import MediaIndex.Proofs.Narrowing
import MediaIndex.Proofs.Queue.Marks
import MediaIndex.Proofs.Settings.ColumnLists
import MediaIndex.Proofs.Text.Readings
import MediaIndex.Proofs.Toml.Strings
import MediaIndex.Proofs.Toml.Bounds
import MediaIndex.Proofs.Toml.Values
import MediaIndex.Proofs.Toml.Lines
import MediaIndex.Proofs.Toml.Tables
import MediaIndex.Proofs.Settings.Saving
import MediaIndex.Proofs.RowLookup
import MediaIndex.Proofs.Brackets
