import TaskQuery.Calendar.Date
import TaskQuery.Calendar.Iso
import TaskQuery.Calendar.Period
import TaskQuery.Calendar.Week
import TaskQuery.Command.Arguments
import TaskQuery.Command.Check
import TaskQuery.Command.Help
import TaskQuery.Command.Init
import TaskQuery.Command.Output
import TaskQuery.Command.Request
import TaskQuery.Command.Run
import TaskQuery.Command.Search
import TaskQuery.Command.Session
import TaskQuery.Config.Basic
import TaskQuery.Config.Reader
import TaskQuery.Config.Starter
import TaskQuery.DateFilter.Basic
import TaskQuery.DateFilter.Instant
import TaskQuery.DateFilter.Phrase
import TaskQuery.DateFilter.Reader
import TaskQuery.Files.Access
import TaskQuery.Files.PathName
import TaskQuery.Json.Reader
import TaskQuery.Json.Writer
import TaskQuery.Main
import TaskQuery.Match.Field
import TaskQuery.Match.FreeText
import TaskQuery.Match.Property
import TaskQuery.Match.Query
import TaskQuery.Match.Settings
import TaskQuery.Number.Binary64
import TaskQuery.Number.Reader
import TaskQuery.Number.Shortest
import TaskQuery.Proofs.Calendar.Ordinal
import TaskQuery.Proofs.DateFilter.IsoText
import TaskQuery.Proofs.Match.Clock
import TaskQuery.Proofs.Match.Precedence
import TaskQuery.Proofs.Match.ShortCircuit
import TaskQuery.Proofs.Query.Derivation
import TaskQuery.Proofs.Query.Grammar
import TaskQuery.Proofs.Query.LeafText
import TaskQuery.Proofs.Query.RoundTrip
import TaskQuery.Proofs.Query.Rows
import TaskQuery.Proofs.Query.Steps
import TaskQuery.Proofs.Query.Writing
import TaskQuery.Proofs.Text.Decimal
import TaskQuery.Proofs.Text.Plain
import TaskQuery.Proofs.Text.Quoting
import TaskQuery.Proofs.Token.Brackets
import TaskQuery.Proofs.Token.Gluing
import TaskQuery.Proofs.Token.Units
import TaskQuery.Query.Basic
import TaskQuery.Query.Parser
import TaskQuery.Query.Printer
import TaskQuery.Result
import TaskQuery.Task.Basic
import TaskQuery.Task.Column
import TaskQuery.Task.Export
import TaskQuery.Task.Keyword
import TaskQuery.Task.Priority
import TaskQuery.Task.Record
import TaskQuery.Terminal.Lines
import TaskQuery.Terminal.Markup
import TaskQuery.Terminal.ShortNames
import TaskQuery.Terminal.Table
import TaskQuery.Terminal.Tree
import TaskQuery.Text.Blank
import TaskQuery.Text.CaseTables
import TaskQuery.Text.Casing
import TaskQuery.Text.Cells
import TaskQuery.Text.Digit
import TaskQuery.Text.Grapheme
import TaskQuery.Text.Printable
import TaskQuery.Text.Reading
import TaskQuery.Text.Sigma
import TaskQuery.Text.Span
import TaskQuery.Text.Word
import TaskQuery.Token.Basic
import TaskQuery.Token.Lexer
import TaskQuery.Toml.Document
import TaskQuery.Toml.Lexical
import TaskQuery.Toml.Reader
import TaskQuery.Toml.Writer
import TaskQuery.Value.Basic
import TaskQuery.Value.Printer
import TaskQuery.Proofs.Match.Formula
import TaskQuery.Proofs.Match.Leniency
import TaskQuery.Proofs.Token.Tiling
import TaskQuery.Proofs.Calendar.DayCount
import TaskQuery.Proofs.Query.Branching
import TaskQuery.Proofs.Text.CaseRules
import TaskQuery.Proofs.Text.Lowering
import TaskQuery.Proofs.Text.Squeeze
import TaskQuery.Proofs.DateFilter.Vocabulary
import TaskQuery.Proofs.DateFilter.Reading
import TaskQuery.Proofs.Match.Ranges
import TaskQuery.Proofs.Match.CalendarEdges
import TaskQuery.Proofs.Match.Reach
import TaskQuery.Proofs.Text.Surroundings
import TaskQuery.Proofs.Match.Fields
import TaskQuery.Proofs.Match.LetterCase
import TaskQuery.Proofs.Toml.JsonStrings
import TaskQuery.Proofs.Toml.Lines
import TaskQuery.Proofs.Config.Starter
import TaskQuery.Proofs.Task.Loading
import TaskQuery.Proofs.Config.Lookups
import TaskQuery.Proofs.Files.PathName
import TaskQuery.Proofs.Config.ReadBack
import TaskQuery.Proofs.Json.Strings
import TaskQuery.Proofs.Json.Numbers
import TaskQuery.Proofs.Json.ReadBack
import TaskQuery.Proofs.Calendar.Iso
import TaskQuery.Proofs.Task.Record
import TaskQuery.Proofs.Json.Characters
import TaskQuery.Proofs.Command.Printed
import TaskQuery.Proofs.Text.Words
import TaskQuery.Proofs.DateFilter.Words
import TaskQuery.Proofs.Match.PropertyDates
import TaskQuery.Proofs.Token.Quotes
import TaskQuery.Proofs.Query.PropertyText
import TaskQuery.Proofs.Query.QuotedKeys
import TaskQuery.Proofs.Number.Reading
import TaskQuery.Proofs.Number.Rounding
import TaskQuery.Proofs.Value.Entries
import TaskQuery.Proofs.Value.Texts
import TaskQuery.Proofs.Match.Alternatives
import TaskQuery.Proofs.Match.PropertyNumbers
import TaskQuery.Proofs.Match.Phrases
import TaskQuery.Proofs.Text.Spellings
import TaskQuery.Proofs.Match.PhraseTerms
import TaskQuery.Proofs.Match.ExactFilters
import TaskQuery.Proofs.Text.SmallLetters
import TaskQuery.Proofs.Match.SameLetters
import TaskQuery.Proofs.Calendar.Weekdays
import TaskQuery.Proofs.Calendar.Months
import TaskQuery.Proofs.DateFilter.Buckets
import TaskQuery.Proofs.DateFilter.NamedDays
import TaskQuery.Proofs.DateFilter.Prefixes
import TaskQuery.Proofs.Match.DateFields
import TaskQuery.Proofs.DateFilter.CountedDays
import TaskQuery.Proofs.DateFilter.Quoting
import TaskQuery.Proofs.Query.Leaves
import TaskQuery.Proofs.Query.Faults
import TaskQuery.Proofs.Task.Sorting
import TaskQuery.Proofs.Match.Folders
import TaskQuery.Proofs.Task.Tags
import TaskQuery.Proofs.Token.Locality
import TaskQuery.Proofs.Text.UpperCase
import TaskQuery.Proofs.Task.Keywords
import TaskQuery.Proofs.Match.States
import TaskQuery.Proofs.Config.Conflicts
import TaskQuery.Proofs.Match.Priorities
import TaskQuery.Proofs.Calendar.MonthArithmetic
import TaskQuery.Proofs.Query.Dashes
import TaskQuery.Proofs.Text.Cells
import TaskQuery.Proofs.Terminal.Lines
import TaskQuery.Proofs.Terminal.Markup
import TaskQuery.Proofs.Terminal.Table
import TaskQuery.Proofs.Terminal.Tree
import TaskQuery.Proofs.Command.Check
import TaskQuery.Proofs.Files.Access
import TaskQuery.Proofs.Command.Runs
import TaskQuery.Proofs.Command.Arguments
import TaskQuery.Proofs.Toml.Written
import TaskQuery.Proofs.DateFilter.Instants
