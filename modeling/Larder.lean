import Larder.Json.Printer
import Larder.Main
import Larder.Simulation.Launch
import Larder.Simulation.Session
import Larder.Simulation.Server
import Larder.Store.Relational
import Larder.Proofs.Decimal.Order
import Larder.Proofs.Service.Run
import Larder.Proofs.Store.Replacement
import Larder.Proofs.Store.Writes
import Larder.Proofs.Text.Trimming
import Larder.Proofs.Review.Walk
import Larder.Proofs.Review.Commit
import Larder.Proofs.Review.Amendment
import Larder.Proofs.Review.Editing
import Larder.Proofs.Review.Failure
import Larder.Proofs.Review.Retry
import Larder.Proofs.Interleaving.Pool
import Larder.Proofs.Service.Values
import Larder.Proofs.Interleaving.Conduct
import Larder.Proofs.Interleaving.Operations
import Larder.Proofs.Interleaving.Calls
import Larder.Proofs.Interleaving.Invariant
import Larder.Proofs.Interleaving.LifeCycle
import Larder.Proofs.Store.Constraints
import Larder.Proofs.Interleaving.Integrity
import Larder.Proofs.Service.Protocol
import Larder.Proofs.Intake.Processing
import Larder.Proofs.Interleaving.Lawfulness
import Larder.Proofs.Interleaving.Race
import Larder.Proofs.Service.Uses
import Larder.Proofs.Service.Requests
import Larder.Proofs.Interleaving.Traffic
import Larder.Proofs.Store.Parts
import Larder.Proofs.Intake.Handling
import Larder.Proofs.Interleaving.Sparing
import Larder.Proofs.Review.Course
import Larder.Proofs.Interleaving.Completeness
import Larder.Proofs.Interleaving.Overlap
import Larder.Proofs.Interleaving.Standing
import Larder.Proofs.Interleaving.Edits
import Larder.Proofs.Service.Twins
import Larder.Proofs.Store.Likeness
import Larder.Proofs.Intake.Likeness
import Larder.Proofs.Interleaving.Separation
import Larder.Proofs.Service.Accounts
import Larder.Proofs.Service.Publisher
import Larder.Proofs.Service.Notifications
import Larder.Proofs.Store.Inventory
import Larder.Proofs.Store.Rows
import Larder.Proofs.Sql.Statements
import Larder.Proofs.Store.Rules
import Larder.Proofs.Store.Execution
import Larder.Proofs.Store.Agreement
import Larder.Proofs.Service.Footprint
import Larder.Proofs.Http.Answers
import Larder.Proofs.Http.Rejection
import Larder.Proofs.Http.Envelope
import Larder.Proofs.Intake.Staging
import Larder.Proofs.Intake.Assessment
import Larder.Proofs.Intake.Ingestion
import Larder.Proofs.Config.NormalForm
import Larder.Proofs.Provider.Attempts
import Larder.Proofs.Text.Utf8
import Larder.Proofs.Json.Tokens
import Larder.Proofs.Json.Reading
import Larder.Proofs.Json.Written
import Larder.Proofs.Json.Surplus
import Larder.Proofs.Provider.Replies
import Larder.Proofs.Json.Records
import Larder.Proofs.Text.Identifiers
import Larder.Proofs.Wire.Values
import Larder.Proofs.Json.Parts
import Larder.Proofs.Wire.Overrides
import Larder.Proofs.Wire.RoundTrip
import Larder.Proofs.Named
import Larder.Proofs.Provider.Headers
import Larder.Proofs.Text.Order
import Larder.Proofs.Service.Addition
import Larder.Proofs.Intake.Refusal
import Larder.Proofs.Config.Acceptance
import Larder.Proofs.Url.Origin
import Larder.Proofs.Provider.Destination
import Larder.Proofs.Store.StagedListing
import Larder.Proofs.Store.Bootstrap
import Larder.Proofs.Review.Screening
import Larder.Proofs.Intake.Repair
