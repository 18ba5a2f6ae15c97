import QueryFuzz.Campaign.Backend
import QueryFuzz.Campaign.Basic
import QueryFuzz.Campaign.Tally
import QueryFuzz.Catalog.Basic
import QueryFuzz.Catalog.Document
import QueryFuzz.Catalog.Entry
import QueryFuzz.Catalog.Introspection
import QueryFuzz.Catalog.ResultIndex
import QueryFuzz.CommandLine.Arguments
import QueryFuzz.CommandLine.Run
import QueryFuzz.Count
import QueryFuzz.Document.File
import QueryFuzz.Document.Knobs
import QueryFuzz.Document.Problem
import QueryFuzz.Document.Record
import QueryFuzz.Double.Basic
import QueryFuzz.Double.Shortest
import QueryFuzz.Generate.Relation
import QueryFuzz.Generate.Scalar
import QueryFuzz.Generate.Schema
import QueryFuzz.Generate.Scope
import QueryFuzz.Generate.Tower
import QueryFuzz.Generate.Type
import QueryFuzz.Json.Basic
import QueryFuzz.Json.Numeral
import QueryFuzz.Json.Options
import QueryFuzz.Json.Reader
import QueryFuzz.Json.Typed
import QueryFuzz.Json.Writer
import QueryFuzz.Json5.Basic
import QueryFuzz.Json5.Complaint
import QueryFuzz.Json5.Profile
import QueryFuzz.Json5.Reader
import QueryFuzz.Json5.Typed
import QueryFuzz.Loading
import QueryFuzz.Log.Directive
import QueryFuzz.Log.Event
import QueryFuzz.Log.Filter
import QueryFuzz.Log.Pattern
import QueryFuzz.Main
import QueryFuzz.NameCounter
import QueryFuzz.Options
import QueryFuzz.Profile
import QueryFuzz.Proofs.Additions
import QueryFuzz.Proofs.Aliases
import QueryFuzz.Proofs.Assembly
import QueryFuzz.Proofs.Blindness
import QueryFuzz.Proofs.Catalog
import QueryFuzz.Proofs.CatalogLaws
import QueryFuzz.Proofs.Choices
import QueryFuzz.Proofs.Composition
import QueryFuzz.Proofs.CreatedTables
import QueryFuzz.Proofs.Damping
import QueryFuzz.Proofs.DepthCap
import QueryFuzz.Proofs.Derivation
import QueryFuzz.Proofs.Documents
import QueryFuzz.Proofs.DrawRange
import QueryFuzz.Proofs.Draws
import QueryFuzz.Proofs.Effort
import QueryFuzz.Proofs.Faults
import QueryFuzz.Proofs.FreshNames
import QueryFuzz.Proofs.FromItems
import QueryFuzz.Proofs.Grouping
import QueryFuzz.Proofs.Growth
import QueryFuzz.Proofs.Height
import QueryFuzz.Proofs.Inserts
import QueryFuzz.Proofs.Introspection
import QueryFuzz.Proofs.Mirroring
import QueryFuzz.Proofs.Naming
import QueryFuzz.Proofs.NewTables
import QueryFuzz.Proofs.NodeRules
import QueryFuzz.Proofs.Occurrences
import QueryFuzz.Proofs.Patience
import QueryFuzz.Proofs.Places
import QueryFuzz.Proofs.Reading.Expressions
import QueryFuzz.Proofs.Reading.Statements
import QueryFuzz.Proofs.Reading.Tables
import QueryFuzz.Proofs.Rebuilding
import QueryFuzz.Proofs.Records
import QueryFuzz.Proofs.Remarks
import QueryFuzz.Proofs.Renaming
import QueryFuzz.Proofs.RowSources
import QueryFuzz.Proofs.Runs.Accounting
import QueryFuzz.Proofs.Runs.Course
import QueryFuzz.Proofs.Runs.Crashes
import QueryFuzz.Proofs.Runs.Currency
import QueryFuzz.Proofs.Runs.DryRuns
import QueryFuzz.Proofs.Runs.GivingUp
import QueryFuzz.Proofs.Runs.Recording
import QueryFuzz.Proofs.Runs.Reporting
import QueryFuzz.Proofs.Runs.Reproducibility
import QueryFuzz.Proofs.Safety
import QueryFuzz.Proofs.Scoping
import QueryFuzz.Proofs.Sessions
import QueryFuzz.Proofs.Soundness
import QueryFuzz.Proofs.Termination
import QueryFuzz.Proofs.Typing
import QueryFuzz.Random.Gen
import QueryFuzz.Random.WordStream
import QueryFuzz.Session
import QueryFuzz.SqlType
import QueryFuzz.Statement.Basic
import QueryFuzz.Statement.CreateTable
import QueryFuzz.Statement.Render
import QueryFuzz.Unicode.Alphanumeric
import QueryFuzz.Unicode.Escaped
import QueryFuzz.Unicode.Letter
import QueryFuzz.Unicode.NameMark
import QueryFuzz.Unicode.Ranges
