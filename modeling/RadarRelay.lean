import RadarRelay.Activity
import RadarRelay.Calendar.Date
import RadarRelay.Calendar.Format
import RadarRelay.Calendar.Interval
import RadarRelay.Calendar.Moment
import RadarRelay.Check.CommandLine
import RadarRelay.Check.Findings
import RadarRelay.Config.Model
import RadarRelay.Config.Reader
import RadarRelay.Delivery.Chain
import RadarRelay.Delivery.Connection
import RadarRelay.Delivery.Pool
import RadarRelay.Delivery.TemporaryFile
import RadarRelay.Document.Builder
import RadarRelay.Document.Outline
import RadarRelay.Document.Record
import RadarRelay.Document.Shape
import RadarRelay.Error
import RadarRelay.Event
import RadarRelay.File
import RadarRelay.Filter.Evaluation
import RadarRelay.Filter.Expression
import RadarRelay.Filter.Lookup
import RadarRelay.Filter.Match
import RadarRelay.Filter.Operator
import RadarRelay.Filter.Reader
import RadarRelay.Filter.Report
import RadarRelay.Filter.Tree
import RadarRelay.Filter.Value
import RadarRelay.Filter.Wildcard
import RadarRelay.Json.Literal
import RadarRelay.Json.Printer
import RadarRelay.Json.Reader
import RadarRelay.Json.Value
import RadarRelay.Json5.Literal
import RadarRelay.Json5.Reader
import RadarRelay.Main
import RadarRelay.Metadata.Basic
import RadarRelay.Metadata.Document
import RadarRelay.Metadata.Sample
import RadarRelay.Metadata.Source
import RadarRelay.Node.Basic
import RadarRelay.Node.Control
import RadarRelay.Node.Dispatch
import RadarRelay.Number.Decimal
import RadarRelay.Number.Double
import RadarRelay.Number.DoubleText
import RadarRelay.Plugin.Registry
import RadarRelay.Processor.Registry
import RadarRelay.Publication.Basic
import RadarRelay.Publication.Delivering
import RadarRelay.Publication.Queueing
import RadarRelay.Publication.Registry
import RadarRelay.Rehearsal.Basic
import RadarRelay.Rehearsal.Cast
import RadarRelay.Rehearsal.Report
import RadarRelay.Rehearsal.Script
import RadarRelay.Rehearsal.Step
import RadarRelay.Routing.Directory
import RadarRelay.Routing.RecentFiles
import RadarRelay.Routing.Subscription
import RadarRelay.Statistics.Counter
import RadarRelay.Statistics.Increment
import RadarRelay.Storage.Registry
import RadarRelay.Surroundings
import RadarRelay.Text.Blank
import RadarRelay.Text.Identifier
import RadarRelay.Text.Printable
import RadarRelay.Text.Quoted
import RadarRelay.Text.Split
import RadarRelay.Text.UniqueId
import RadarRelay.Proofs.Activity.Alike
import RadarRelay.Proofs.Activity.Alone
import RadarRelay.Proofs.Activity.Carried
import RadarRelay.Proofs.Activity.Crew
import RadarRelay.Proofs.Activity.Dues
import RadarRelay.Proofs.Activity.Recorded
import RadarRelay.Proofs.Activity.Retold
import RadarRelay.Proofs.Activity.Returning
import RadarRelay.Proofs.Activity.Running
import RadarRelay.Proofs.Activity.Watched
import RadarRelay.Proofs.Calendar.Shifting
import RadarRelay.Proofs.Check.Agreement
import RadarRelay.Proofs.Check.Verdict
import RadarRelay.Proofs.Config.Crashes
import RadarRelay.Proofs.Config.Filters
import RadarRelay.Proofs.Config.Nesting
import RadarRelay.Proofs.Config.Rereading
import RadarRelay.Proofs.Delivery.Accounts
import RadarRelay.Proofs.Delivery.Chains
import RadarRelay.Proofs.Delivery.Closing
import RadarRelay.Proofs.Delivery.Ledger
import RadarRelay.Proofs.Delivery.NoLoss
import RadarRelay.Proofs.Delivery.Order
import RadarRelay.Proofs.Delivery.Reaching
import RadarRelay.Proofs.Delivery.StopSafety
import RadarRelay.Proofs.Delivery.Strategies
import RadarRelay.Proofs.Delivery.Tally
import RadarRelay.Proofs.Delivery.Telling
import RadarRelay.Proofs.Delivery.Workforce
import RadarRelay.Proofs.Document.Calm
import RadarRelay.Proofs.Document.Legible
import RadarRelay.Proofs.Document.Lenient
import RadarRelay.Proofs.Document.Outcome
import RadarRelay.Proofs.Document.Printed
import RadarRelay.Proofs.Document.Rereading
import RadarRelay.Proofs.Document.Sound
import RadarRelay.Proofs.Filter.Anchoring
import RadarRelay.Proofs.Filter.Arithmetic
import RadarRelay.Proofs.Filter.Canonical
import RadarRelay.Proofs.Filter.Comparisons
import RadarRelay.Proofs.Filter.Grammar
import RadarRelay.Proofs.Filter.Growth
import RadarRelay.Proofs.Filter.Meaning
import RadarRelay.Proofs.Filter.Parts
import RadarRelay.Proofs.Filter.Paths
import RadarRelay.Proofs.Filter.Selection
import RadarRelay.Proofs.Filter.Wildcards
import RadarRelay.Proofs.Filter.Written
import RadarRelay.Proofs.Handing.Effects
import RadarRelay.Proofs.Handing.Holding
import RadarRelay.Proofs.Handing.Independence
import RadarRelay.Proofs.Handing.Isolation
import RadarRelay.Proofs.Handing.Ownership
import RadarRelay.Proofs.Handing.Reach
import RadarRelay.Proofs.Handing.Seats
import RadarRelay.Proofs.Handing.Traced
import RadarRelay.Proofs.Handing.Turns
import RadarRelay.Proofs.Json.Accepted
import RadarRelay.Proofs.Json.Literals
import RadarRelay.Proofs.Json.Numerals
import RadarRelay.Proofs.Json.Ordered
import RadarRelay.Proofs.Json.Parts
import RadarRelay.Proofs.Json.Rereading
import RadarRelay.Proofs.Json.Tokens
import RadarRelay.Proofs.Json5.Contents
import RadarRelay.Proofs.Json5.Literals
import RadarRelay.Proofs.Json5.Numerals
import RadarRelay.Proofs.Json5.Plain
import RadarRelay.Proofs.Json5.Rereading
import RadarRelay.Proofs.Json5.Sound
import RadarRelay.Proofs.Json5.Strings
import RadarRelay.Proofs.Metadata.Rereading
import RadarRelay.Proofs.Metadata.Sources
import RadarRelay.Proofs.Number.Counted
import RadarRelay.Proofs.Number.Rounding
import RadarRelay.Proofs.Number.Scaling
import RadarRelay.Proofs.Number.Written
import RadarRelay.Proofs.Plugin.Contents
import RadarRelay.Proofs.Plugin.Faults
import RadarRelay.Proofs.Plugin.Mirrored
import RadarRelay.Proofs.Processor.Service
import RadarRelay.Proofs.Routing.AtMostOnce
import RadarRelay.Proofs.Routing.Router
import RadarRelay.Proofs.Routing.Store
import RadarRelay.Proofs.Routing.Traffic
import RadarRelay.Proofs.Routing.Window
import RadarRelay.Proofs.Rules.AllOrNothing
import RadarRelay.Proofs.Rules.Building
import RadarRelay.Proofs.Rules.Custody
import RadarRelay.Proofs.Rules.Directory
import RadarRelay.Proofs.Rules.Lifecycle
import RadarRelay.Proofs.Rules.Sizes
import RadarRelay.Proofs.Rules.Superseding
