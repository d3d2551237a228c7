import SeriesQuery.CommandLine.Arguments
import SeriesQuery.CommandLine.Program
import SeriesQuery.CommandLine.Report
import SeriesQuery.Csv.Reader
import SeriesQuery.Csv.Writer
import SeriesQuery.Decimal.Binary64
import SeriesQuery.Decimal.Shortest
import SeriesQuery.Decimal.Text
import SeriesQuery.Dictionary
import SeriesQuery.Driver.Basic
import SeriesQuery.Driver.Batch
import SeriesQuery.Driver.Registry
import SeriesQuery.Driver.Scripted
import SeriesQuery.Failure
import SeriesQuery.Files.Disk
import SeriesQuery.Files.Path
import SeriesQuery.Files.Tree
import SeriesQuery.Flux.Compiler
import SeriesQuery.Flux.Script
import SeriesQuery.Graphite.Compiler
import SeriesQuery.Graphite.Plaintext
import SeriesQuery.Graphite.Response
import SeriesQuery.Graphite.Service
import SeriesQuery.Graphite.Target
import SeriesQuery.Http.Exchange
import SeriesQuery.Http.Request
import SeriesQuery.Http.Status
import SeriesQuery.Influx.LineProtocol
import SeriesQuery.Influx.Response
import SeriesQuery.Influx.Service
import SeriesQuery.Json.Literal
import SeriesQuery.Json.Reader
import SeriesQuery.Json.Tree
import SeriesQuery.Json.Value
import SeriesQuery.Main
import SeriesQuery.Prometheus.Compiler
import SeriesQuery.Prometheus.Expression
import SeriesQuery.Prometheus.Response
import SeriesQuery.Prometheus.Service
import SeriesQuery.Proofs.Acceptance
import SeriesQuery.Proofs.Aggregations
import SeriesQuery.Proofs.Batches
import SeriesQuery.Proofs.Csv.Records
import SeriesQuery.Proofs.Decimal.Nearest
import SeriesQuery.Proofs.Decimal.Numerals
import SeriesQuery.Proofs.Decimal.Products
import SeriesQuery.Proofs.Decimal.RoundTrip
import SeriesQuery.Proofs.Dictionaries
import SeriesQuery.Proofs.Driver.Batches
import SeriesQuery.Proofs.Driver.Fates
import SeriesQuery.Proofs.Entries
import SeriesQuery.Proofs.Files.Places
import SeriesQuery.Proofs.Files.Resolved
import SeriesQuery.Proofs.Flux.Acceptance
import SeriesQuery.Proofs.Flux.Aggregations
import SeriesQuery.Proofs.Flux.Calls
import SeriesQuery.Proofs.Flux.Conditions
import SeriesQuery.Proofs.Flux.Erasure
import SeriesQuery.Proofs.Flux.Expressions
import SeriesQuery.Proofs.Flux.Filters
import SeriesQuery.Proofs.Flux.Injection
import SeriesQuery.Proofs.Flux.Likeness
import SeriesQuery.Proofs.Flux.Offsets
import SeriesQuery.Proofs.Flux.Orders
import SeriesQuery.Proofs.Flux.Plans
import SeriesQuery.Proofs.Flux.Predicates
import SeriesQuery.Proofs.Flux.Readings
import SeriesQuery.Proofs.Flux.Sorting
import SeriesQuery.Proofs.Flux.Tokens
import SeriesQuery.Proofs.Graphite.Equalities
import SeriesQuery.Proofs.Graphite.Framing
import SeriesQuery.Proofs.Graphite.Outlines
import SeriesQuery.Proofs.Graphite.Reads
import SeriesQuery.Proofs.Graphite.Selections
import SeriesQuery.Proofs.Influx.Grouping
import SeriesQuery.Proofs.Influx.Lines
import SeriesQuery.Proofs.Influx.Reports
import SeriesQuery.Proofs.Influx.RoundTrip
import SeriesQuery.Proofs.Influx.Tables
import SeriesQuery.Proofs.Influx.Timestamps
import SeriesQuery.Proofs.Journal
import SeriesQuery.Proofs.Json.Doubles
import SeriesQuery.Proofs.Json.Leaves
import SeriesQuery.Proofs.Json.Members
import SeriesQuery.Proofs.Json.Records
import SeriesQuery.Proofs.Json.RoundTrip
import SeriesQuery.Proofs.Language.Builders
import SeriesQuery.Proofs.Language.Compilable
import SeriesQuery.Proofs.Language.Durations
import SeriesQuery.Proofs.Language.Refinements
import SeriesQuery.Proofs.Language.Selection
import SeriesQuery.Proofs.Language.SingleConditions
import SeriesQuery.Proofs.Language.Statement
import SeriesQuery.Proofs.Language.Taken
import SeriesQuery.Proofs.Language.Trimming
import SeriesQuery.Proofs.Language.Windows
import SeriesQuery.Proofs.Outcomes
import SeriesQuery.Proofs.PassedOver
import SeriesQuery.Proofs.Points
import SeriesQuery.Proofs.Prometheus.Fields
import SeriesQuery.Proofs.Prometheus.Injection
import SeriesQuery.Proofs.Prometheus.Membership
import SeriesQuery.Proofs.Query.Checks
import SeriesQuery.Proofs.Query.Groups
import SeriesQuery.Proofs.Query.RoundTrip
import SeriesQuery.Proofs.Query.Steps
import SeriesQuery.Proofs.Rrd.Addresses
import SeriesQuery.Proofs.Rrd.Agreement
import SeriesQuery.Proofs.Rrd.Answers
import SeriesQuery.Proofs.Rrd.Calls
import SeriesQuery.Proofs.Rrd.CommandLines
import SeriesQuery.Proofs.Rrd.Confinement
import SeriesQuery.Proofs.Rrd.Definitions
import SeriesQuery.Proofs.Rrd.Discovery
import SeriesQuery.Proofs.Rrd.Exports
import SeriesQuery.Proofs.Rrd.FirstWrites
import SeriesQuery.Proofs.Rrd.Information
import SeriesQuery.Proofs.Rrd.Isolation
import SeriesQuery.Proofs.Rrd.Listings
import SeriesQuery.Proofs.Rrd.Names
import SeriesQuery.Proofs.Rrd.Replies
import SeriesQuery.Proofs.Rrd.Resolution
import SeriesQuery.Proofs.Rrd.Rows
import SeriesQuery.Proofs.Rrd.SoftFailures
import SeriesQuery.Proofs.Rrd.Sources
import SeriesQuery.Proofs.Rrd.Tables
import SeriesQuery.Proofs.Rrd.Timestamps
import SeriesQuery.Proofs.Rrd.Variables
import SeriesQuery.Proofs.Rrd.Writes
import SeriesQuery.Proofs.Serialisation
import SeriesQuery.Proofs.Text.Bytes
import SeriesQuery.Proofs.Text.Literals
import SeriesQuery.Proofs.Text.Padding
import SeriesQuery.Proofs.Text.Patterns
import SeriesQuery.Proofs.Text.Stretches
import SeriesQuery.Proofs.Text.Unquoted
import SeriesQuery.Proofs.Time.Dates
import SeriesQuery.Proofs.Time.Earlier
import SeriesQuery.Proofs.Time.Lenient
import SeriesQuery.Proofs.Time.Months
import SeriesQuery.Proofs.Time.RoundTrip
import SeriesQuery.Query.Aggregate
import SeriesQuery.Query.Basic
import SeriesQuery.Query.Condition
import SeriesQuery.Query.Duration
import SeriesQuery.Query.Error
import SeriesQuery.Query.Grammar
import SeriesQuery.Query.Json
import SeriesQuery.Query.Reader
import SeriesQuery.Result.Basic
import SeriesQuery.Result.Json
import SeriesQuery.Result.Problem
import SeriesQuery.Rrd.Command
import SeriesQuery.Rrd.Compiler
import SeriesQuery.Rrd.Consolidation
import SeriesQuery.Rrd.Failure
import SeriesQuery.Rrd.Layout
import SeriesQuery.Rrd.Response
import SeriesQuery.Rrd.Runner
import SeriesQuery.Rrd.Session
import SeriesQuery.Rrd.Store
import SeriesQuery.Settings.Basic
import SeriesQuery.Settings.Document
import SeriesQuery.Settings.Json
import SeriesQuery.Settings.Load
import SeriesQuery.Text.Blank
import SeriesQuery.Text.Case
import SeriesQuery.Text.Encoded
import SeriesQuery.Text.Hexadecimal
import SeriesQuery.Text.Letters
import SeriesQuery.Text.Pattern
import SeriesQuery.Text.Quoted
import SeriesQuery.Text.Shown
import SeriesQuery.Text.Split
import SeriesQuery.Time.Calendar
import SeriesQuery.Time.Format
import SeriesQuery.Time.Instant
import SeriesQuery.Time.Reader
import SeriesQuery.Toml.Reader
import SeriesQuery.Toml.Value
import SeriesQuery.Write.Batch
import SeriesQuery.Write.Json
import SeriesQuery.Write.Point
import SeriesQuery.Write.Schema
