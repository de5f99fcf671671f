import KeepApart.Http.Server
import KeepApart.Http.Startup
import KeepApart.Legacy.Sync
import KeepApart.Legacy.View
import KeepApart.Merge.Event
import KeepApart.Monitoring.Metrics
import KeepApart.Query
import KeepApart.Storage.Connection
import KeepApart.Storage.Provider
import KeepApart.Proofs.Draft
import KeepApart.Proofs.Table
import KeepApart.Proofs.Action
import KeepApart.Proofs.Command
import KeepApart.Proofs.Sync
import KeepApart.Proofs.History
import KeepApart.Proofs.Merge.Step
import KeepApart.Proofs.Merge.Pass
import KeepApart.Proofs.Merge.Values
import KeepApart.Proofs.Merge.Survivors
import KeepApart.Proofs.Merge.Results
import KeepApart.Proofs.OpenPairs
import KeepApart.Proofs.Failure
import KeepApart.Proofs.Conflict
import KeepApart.Proofs.Submission
import KeepApart.Proofs.Atomicity
import KeepApart.Proofs.Query
import KeepApart.Proofs.RoundTrip
import KeepApart.Proofs.Merge.Pairs
import KeepApart.Proofs.Merge.Doubles
import KeepApart.Proofs.Merge.Repetition
import KeepApart.Proofs.Frame
import KeepApart.Proofs.Publication
import KeepApart.Proofs.Closure
import KeepApart.Proofs.Carried
import KeepApart.Proofs.Merge.Reports
import KeepApart.Proofs.Dates
import KeepApart.Proofs.Comments
import KeepApart.Proofs.Listing
import KeepApart.Proofs.Listing.Order
import KeepApart.Proofs.Mirror
import KeepApart.Proofs.Listing.Outcome
import KeepApart.Proofs.Http.Calls
import KeepApart.Proofs.Numbers
import KeepApart.Proofs.Schema
import KeepApart.Proofs.Http.Forms
import KeepApart.Proofs.Http.Numbers
import KeepApart.Proofs.People
import KeepApart.Proofs.Http.Names
import KeepApart.Proofs.Http.Answers
import KeepApart.Proofs.Http.Keys
import KeepApart.Proofs.Http.Attribution
import KeepApart.Proofs.Digits
import KeepApart.Proofs.Http.Paths
import KeepApart.Proofs.Http.ReadBack
import KeepApart.Proofs.Listing.Group
import KeepApart.Proofs.Redelivery
import KeepApart.Proofs.Merge.Failures
import KeepApart.Proofs.Events
import KeepApart.Proofs.Http.NumberForm
import KeepApart.Proofs.Text.Words
import KeepApart.Proofs.Text.Clipped
import KeepApart.Proofs.Json.Fields
import KeepApart.Proofs.Json.Characters
import KeepApart.Proofs.Json.Literals
import KeepApart.Proofs.Json.Reading
import KeepApart.Proofs.Security.Context
import KeepApart.Proofs.Security.Events
import KeepApart.Proofs.Security.Lines
import KeepApart.Proofs.Merge.EntryPoints
import KeepApart.Proofs.Directory
import KeepApart.Proofs.Listing.Sorting
import KeepApart.Proofs.Repository
import KeepApart.Proofs.UnitOfWork
import KeepApart.Proofs.Settings
import KeepApart.Proofs.Monitoring
import KeepApart.Proofs.Amendments
