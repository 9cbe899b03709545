import SearchIndex.Act
import SearchIndex.Command.Arguments
import SearchIndex.Command.Desk
import SearchIndex.Command.Inquiry
import SearchIndex.Command.Reindexing
import SearchIndex.Command.Request
import SearchIndex.Command.Upkeep
import SearchIndex.Config.Document
import SearchIndex.Config.Fault
import SearchIndex.Config.Settings
import SearchIndex.Config.Tree
import SearchIndex.Entity.Registry
import SearchIndex.Entity.Repository
import SearchIndex.Entity.Source
import SearchIndex.Failure
import SearchIndex.Index.Document
import SearchIndex.Index.Finder
import SearchIndex.Index.Gateway
import SearchIndex.Index.Hydration
import SearchIndex.Index.Page
import SearchIndex.Index.Rehearsal
import SearchIndex.Index.Remote
import SearchIndex.Index.Result
import SearchIndex.Json.Reader
import SearchIndex.Json.Writer
import SearchIndex.Keyed
import SearchIndex.Log.Journal
import SearchIndex.Log.Level
import SearchIndex.Log.Note
import SearchIndex.Main
import SearchIndex.Number.Basic
import SearchIndex.Number.Binary64
import SearchIndex.Number.Decimal
import SearchIndex.Number.Extended
import SearchIndex.Number.Power
import SearchIndex.Proofs.Bookkeeping
import SearchIndex.Proofs.Building
import SearchIndex.Proofs.Changes
import SearchIndex.Proofs.Connections
import SearchIndex.Proofs.Contents
import SearchIndex.Proofs.Couriers
import SearchIndex.Proofs.FieldFilters
import SearchIndex.Proofs.Groups
import SearchIndex.Proofs.History
import SearchIndex.Proofs.Interleaving
import SearchIndex.Proofs.JsonKey
import SearchIndex.Proofs.JsonScalar
import SearchIndex.Proofs.JsonValue
import SearchIndex.Proofs.Literal
import SearchIndex.Proofs.NormalForm
import SearchIndex.Proofs.Outcome
import SearchIndex.Proofs.Parts
import SearchIndex.Proofs.Reader
import SearchIndex.Proofs.Recovery
import SearchIndex.Proofs.Rounding
import SearchIndex.Proofs.Scripts
import SearchIndex.Proofs.SentParameters
import SearchIndex.Proofs.Spreading
import SearchIndex.Proofs.Statistics
import SearchIndex.Proofs.Synchronization
import SearchIndex.Proofs.TextualRequest
import SearchIndex.Proofs.Transaction
import SearchIndex.Proofs.Upgrades
import SearchIndex.Query.Builder
import SearchIndex.Query.Clause
import SearchIndex.Query.Draft
import SearchIndex.Query.Escape
import SearchIndex.Query.Expression
import SearchIndex.Query.Geometry
import SearchIndex.Query.Request
import SearchIndex.Queue.Access
import SearchIndex.Queue.Column
import SearchIndex.Queue.Delivery
import SearchIndex.Queue.Intent
import SearchIndex.Queue.Operation
import SearchIndex.Queue.Rehearsal
import SearchIndex.Queue.Store
import SearchIndex.Queue.Table
import SearchIndex.Schema.Migration
import SearchIndex.Schema.Tables
import SearchIndex.Schema.Upgrade
import SearchIndex.Storage.Disk
import SearchIndex.Storage.Files
import SearchIndex.Storage.Path
import SearchIndex.Storage.Pool
import SearchIndex.Text.Blank
import SearchIndex.Text.Case
import SearchIndex.Text.CaseTable
import SearchIndex.Text.Digit
import SearchIndex.Text.Lines
import SearchIndex.Text.Pieces
import SearchIndex.Text.PrintableTable
import SearchIndex.Text.Quoted
import SearchIndex.Value.Basic
import SearchIndex.Value.Key
import SearchIndex.Value.Shape
import SearchIndex.Value.Text
import SearchIndex.Wire.Client
import SearchIndex.Wire.Endpoint
import SearchIndex.Wire.Exchange
import SearchIndex.Wire.Parameters
import SearchIndex.Yaml.Cursor
import SearchIndex.Yaml.Document
import SearchIndex.Yaml.Fault
import SearchIndex.Yaml.Node
import SearchIndex.Yaml.Plain
import SearchIndex.Yaml.Scalar
import SearchIndex.Yaml.Token
import SearchIndex.Yaml.Tokens
import SearchIndex.Proofs.Enclosure
import SearchIndex.Proofs.Neighbours
import SearchIndex.Proofs.Restoration
import SearchIndex.Proofs.Chunks
import SearchIndex.Proofs.Routes
import SearchIndex.Proofs.Denotation
import SearchIndex.Proofs.Consumers
import SearchIndex.Proofs.Refusals
import SearchIndex.Proofs.Overlap
import SearchIndex.Proofs.Paging
import SearchIndex.Proofs.Attempts
import SearchIndex.Proofs.Course
import SearchIndex.Proofs.Compilation
import SearchIndex.Proofs.Progress
import SearchIndex.Proofs.Sharing
import SearchIndex.Proofs.Breakdowns
import SearchIndex.Proofs.Boundaries
import SearchIndex.Proofs.Managers
import SearchIndex.Proofs.Rejections
import SearchIndex.Proofs.KindField
import SearchIndex.Proofs.FirstEntity
import SearchIndex.Proofs.Merging
import SearchIndex.Proofs.ResultGroups
import SearchIndex.Proofs.IntegerFloats
import SearchIndex.Proofs.Inspection
import SearchIndex.Proofs.Acceptance
import SearchIndex.Proofs.Offences
import SearchIndex.Proofs.PageWalk
import SearchIndex.Proofs.Reindexing
import SearchIndex.Proofs.Reports
import SearchIndex.Proofs.Endpoints
