import QueryFuzz.Candidate
import QueryFuzz.CommandLine
import QueryFuzz.Corpus
import QueryFuzz.Coverage.Digest
import QueryFuzz.Coverage.LineReport
import QueryFuzz.Coverage.Probe
import QueryFuzz.Coverage.Signature
import QueryFuzz.Decimal.Binary64
import QueryFuzz.Decimal.Digits
import QueryFuzz.Decimal.Reading
import QueryFuzz.Draw.KeyStream
import QueryFuzz.Draw.Question
import QueryFuzz.Draw.Sampling
import QueryFuzz.Draw.Source
import QueryFuzz.Engine.Command
import QueryFuzz.Engine.Exchange
import QueryFuzz.Engine.Execution
import QueryFuzz.Engine.Machine
import QueryFuzz.Engine.Outcome
import QueryFuzz.Engine.Process
import QueryFuzz.Grammar.Generator
import QueryFuzz.Grammar.Literal
import QueryFuzz.Grammar.Phrase
import QueryFuzz.Grammar.Rules
import QueryFuzz.Main
import QueryFuzz.Mutation.Mutator
import QueryFuzz.Mutation.Operator
import QueryFuzz.Mutation.Reference
import QueryFuzz.Mutation.Site
import QueryFuzz.NameSet
import QueryFuzz.Oracle.Comparison
import QueryFuzz.Oracle.Value
import QueryFuzz.Oracle.Verdict
import QueryFuzz.Reduction
import QueryFuzz.Report.BugReport
import QueryFuzz.Report.Sink
import QueryFuzz.Report.Timestamp
import QueryFuzz.Run.Fuzzer
import QueryFuzz.Run.Statistics
import QueryFuzz.Run.Summary
import QueryFuzz.Run.Tally
import QueryFuzz.Run.Trial
import QueryFuzz.Scheduling
import QueryFuzz.Schema
import QueryFuzz.Settings.Assembly
import QueryFuzz.Settings.Basic
import QueryFuzz.Settings.Document
import QueryFuzz.Settings.Toml.Draft
import QueryFuzz.Settings.Toml.Reader
import QueryFuzz.Settings.Toml.Scalar
import QueryFuzz.Settings.Validation
import QueryFuzz.Shell.Arithmetic
import QueryFuzz.Shell.Builtin
import QueryFuzz.Shell.Command
import QueryFuzz.Shell.Condition
import QueryFuzz.Shell.Expansion
import QueryFuzz.Shell.Expression
import QueryFuzz.Shell.Fields
import QueryFuzz.Shell.Interpreter
import QueryFuzz.Shell.Launch
import QueryFuzz.Shell.Number
import QueryFuzz.Shell.Pattern
import QueryFuzz.Shell.Printing
import QueryFuzz.Shell.Program
import QueryFuzz.Shell.Reader
import QueryFuzz.Shell.Redirect
import QueryFuzz.Shell.Session
import QueryFuzz.Shell.Token
import QueryFuzz.Shell.Tool
import QueryFuzz.Shell.Tool.Basic
import QueryFuzz.Shell.Tool.Characters
import QueryFuzz.Shell.Tool.Edit
import QueryFuzz.Shell.Tool.Files
import QueryFuzz.Shell.Tool.Lines
import QueryFuzz.Shell.Tool.Search
import QueryFuzz.Shell.Tool.Sort
import QueryFuzz.Shell.Tool.Values
import QueryFuzz.Sql.Clause
import QueryFuzz.Sql.Error
import QueryFuzz.Sql.Lexer
import QueryFuzz.Sql.Name
import QueryFuzz.Sql.Render
import QueryFuzz.Sql.Script
import QueryFuzz.Sql.Span
import QueryFuzz.Sql.Statement
import QueryFuzz.Sql.Token
import QueryFuzz.Storage.Disk
import QueryFuzz.Storage.Path
import QueryFuzz.Storage.Tree
import QueryFuzz.Text.Alphabetic
import QueryFuzz.Text.CaseIgnorable
import QueryFuzz.Text.Cased
import QueryFuzz.Text.Character
import QueryFuzz.Text.CodePointSet
import QueryFuzz.Text.GraphemeExtender
import QueryFuzz.Text.LetterCase
import QueryFuzz.Text.Numeric
import QueryFuzz.Text.Octets
import QueryFuzz.Text.Quoted
import QueryFuzz.Text.Unprintable
import QueryFuzz.Text.Utf8
import QueryFuzz.Text.Words
import QueryFuzz.Width
import QueryFuzz.Proofs.Sql.Lexeme
import QueryFuzz.Proofs.Sql.Reading
import QueryFuzz.Proofs.Sql.Rendering
import QueryFuzz.Proofs.Sql.Script
import QueryFuzz.Proofs.Draw.Replay
import QueryFuzz.Proofs.Draw.Yields
import QueryFuzz.Proofs.Sql.Composition
import QueryFuzz.Proofs.Grammar.Literals
import QueryFuzz.Proofs.Mutation.Tokens
import QueryFuzz.Proofs.Mutation.Kind
import QueryFuzz.Proofs.Mutation.Changes
import QueryFuzz.Proofs.Mutation.Texts
import QueryFuzz.Proofs.Sql.Clauses
import QueryFuzz.Proofs.Reduction.Edits
import QueryFuzz.Proofs.Reduction.Search
import QueryFuzz.Proofs.Sql.Structure
import QueryFuzz.Proofs.Sql.Templates
import QueryFuzz.Proofs.Sql.Depths
import QueryFuzz.Proofs.Grammar.Grounding
import QueryFuzz.Proofs.Grammar.Phrases
import QueryFuzz.Proofs.Grammar.Selections
import QueryFuzz.Proofs.Grammar.Clauses
import QueryFuzz.Proofs.Grammar.Sentences
import QueryFuzz.Proofs.Grammar.Runs
import QueryFuzz.Proofs.Grammar.Traces
import QueryFuzz.Proofs.Grammar.Expressions
import QueryFuzz.Proofs.Grammar.Choices
import QueryFuzz.Proofs.Grammar.Generation
import QueryFuzz.Proofs.Grammar.Candidates
import QueryFuzz.Proofs.Grammar.Coverage
import QueryFuzz.Proofs.Grammar.SelectionShape
import QueryFuzz.Proofs.Reduction.Generated
import QueryFuzz.Proofs.Oracle.Agreement
import QueryFuzz.Proofs.Reduction.Contract
import QueryFuzz.Proofs.Sql.Outside
import QueryFuzz.Proofs.Sql.Partition
import QueryFuzz.Proofs.Sql.Parts
import QueryFuzz.Proofs.Corpus.History
import QueryFuzz.Proofs.Run.Trials
import QueryFuzz.Proofs.Run.Accounting
import QueryFuzz.Proofs.Sql.Extents
import QueryFuzz.Proofs.Sql.Bounds
import QueryFuzz.Proofs.Sql.Items
import QueryFuzz.Proofs.Sql.Pieces
import QueryFuzz.Proofs.Sql.Orders
import QueryFuzz.Proofs.Sql.TotalOrders
import QueryFuzz.Proofs.Mutation.Orders
import QueryFuzz.Proofs.Mutation.Exchanges
import QueryFuzz.Proofs.Mutation.Substitutions
import QueryFuzz.Proofs.Mutation.TotalOrders
import QueryFuzz.Proofs.Run.Dialogue
import QueryFuzz.Proofs.Run.Interference
import QueryFuzz.Proofs.Run.Course
import QueryFuzz.Proofs.Run.Crew
import QueryFuzz.Proofs.Run.Lineage
import QueryFuzz.Proofs.Run.Readiness
import QueryFuzz.Proofs.Run.Merging
import QueryFuzz.Proofs.Run.Reproduction
import QueryFuzz.Proofs.Run.Independence
import QueryFuzz.Proofs.Run.Threads
import QueryFuzz.Proofs.Sql.Tilings
import QueryFuzz.Proofs.Sql.Removal
import QueryFuzz.Proofs.Reduction.Drops
import QueryFuzz.Proofs.Sql.Capitals
import QueryFuzz.Proofs.Sql.LetterCase
import QueryFuzz.Proofs.Storage.Trees
import QueryFuzz.Proofs.Storage.Disks
import QueryFuzz.Proofs.Storage.Staging
import QueryFuzz.Proofs.Report.Bundles
import QueryFuzz.Proofs.Sql.Splits
import QueryFuzz.Proofs.Mutation.Betweens
import QueryFuzz.Proofs.Sql.SelectLists
import QueryFuzz.Proofs.Reduction.Cases
import QueryFuzz.Proofs.Sql.AddedOrders
import QueryFuzz.Proofs.Mutation.Widths
import QueryFuzz.Proofs.Reduction.Minimality
import QueryFuzz.Proofs.Sql.Lookahead
import QueryFuzz.Proofs.Sql.Tokenization
import QueryFuzz.Proofs.Engine.Wrapping
import QueryFuzz.Proofs.Decimal.Rounding
import QueryFuzz.Proofs.Decimal.Nearest
import QueryFuzz.Proofs.Decimal.Figures
import QueryFuzz.Proofs.Decimal.Printing
import QueryFuzz.Proofs.Oracle.Canonical
import QueryFuzz.Proofs.Mutation.Flips
import QueryFuzz.Proofs.Mutation.Splices
import QueryFuzz.Proofs.Coverage.Paths
import QueryFuzz.Proofs.Engine.Rows
import QueryFuzz.Proofs.Draw.Weights
import QueryFuzz.Proofs.Run.Parents
import QueryFuzz.Proofs.Oracle.Differences
