import LiveCounter.Counter.Store
import LiveCounter.Event
import LiveCounter.Health
import LiveCounter.Http.Handler
import LiveCounter.Http.Listener
import LiveCounter.Http.Percent
import LiveCounter.Http.Query
import LiveCounter.Http.Response
import LiveCounter.Http.Route
import LiveCounter.Http.Target
import LiveCounter.Hub.Admission
import LiveCounter.Hub.Basic
import LiveCounter.Hub.Closing
import LiveCounter.Hub.Publishing
import LiveCounter.Hub.Stopping
import LiveCounter.Hub.Tasks
import LiveCounter.Json.Access
import LiveCounter.Json.Merge
import LiveCounter.Json.Reader
import LiveCounter.Json.Schema
import LiveCounter.Json.Skip
import LiveCounter.Json.Value
import LiveCounter.Log.Format
import LiveCounter.Log.Line
import LiveCounter.Log.Record
import LiveCounter.Main
import LiveCounter.Metrics
import LiveCounter.Program.Console
import LiveCounter.Program.Options
import LiveCounter.Program.Run
import LiveCounter.Proofs.Accounts
import LiveCounter.Proofs.Admissions
import LiveCounter.Proofs.Admitting
import LiveCounter.Proofs.Aftermath
import LiveCounter.Proofs.Backlog
import LiveCounter.Proofs.Backpressure
import LiveCounter.Proofs.Bookkeeping
import LiveCounter.Proofs.Calls
import LiveCounter.Proofs.Changes
import LiveCounter.Proofs.Clamping
import LiveCounter.Proofs.Clearing
import LiveCounter.Proofs.Closing
import LiveCounter.Proofs.ClosingOnce
import LiveCounter.Proofs.Conduct
import LiveCounter.Proofs.Confluence
import LiveCounter.Proofs.Conservation
import LiveCounter.Proofs.Conveying
import LiveCounter.Proofs.Counters
import LiveCounter.Proofs.Course
import LiveCounter.Proofs.Deliveries
import LiveCounter.Proofs.Departures
import LiveCounter.Proofs.Effects
import LiveCounter.Proofs.Elapsing
import LiveCounter.Proofs.FirstValue
import LiveCounter.Proofs.Following
import LiveCounter.Proofs.Framing
import LiveCounter.Proofs.GracefulStops
import LiveCounter.Proofs.Grounds
import LiveCounter.Proofs.Handles
import LiveCounter.Proofs.Heartbeats
import LiveCounter.Proofs.Independence
import LiveCounter.Proofs.Keepalives
import LiveCounter.Proofs.Layers
import LiveCounter.Proofs.Ledger
import LiveCounter.Proofs.LiveTasks
import LiveCounter.Proofs.Members
import LiveCounter.Proofs.Merging
import LiveCounter.Proofs.Moves
import LiveCounter.Proofs.Naming
import LiveCounter.Proofs.Noninterference
import LiveCounter.Proofs.Numbering
import LiveCounter.Proofs.Numerals
import LiveCounter.Proofs.Operations
import LiveCounter.Proofs.Outboxes
import LiveCounter.Proofs.Outcomes
import LiveCounter.Proofs.Overlays
import LiveCounter.Proofs.Overrides
import LiveCounter.Proofs.Pacing
import LiveCounter.Proofs.Publications
import LiveCounter.Proofs.Punctuality
import LiveCounter.Proofs.Quiescence
import LiveCounter.Proofs.Races
import LiveCounter.Proofs.Reactions
import LiveCounter.Proofs.ReadingDry
import LiveCounter.Proofs.Reasons
import LiveCounter.Proofs.Registrations
import LiveCounter.Proofs.Replies
import LiveCounter.Proofs.Requests
import LiveCounter.Proofs.Resting
import LiveCounter.Proofs.Routing
import LiveCounter.Proofs.Sections
import LiveCounter.Proofs.Settling
import LiveCounter.Proofs.Silence
import LiveCounter.Proofs.Simulations
import LiveCounter.Proofs.Slots
import LiveCounter.Proofs.Snapshots
import LiveCounter.Proofs.Standings
import LiveCounter.Proofs.Stopping
import LiveCounter.Proofs.Subscriptions
import LiveCounter.Proofs.Tallies
import LiveCounter.Proofs.UnboundedCounters
import LiveCounter.Proofs.ValueStream
import LiveCounter.Proofs.WriteLimits
import LiveCounter.Proofs.Writing
import LiveCounter.Server
import LiveCounter.Server.Setup
import LiveCounter.SessionId
import LiveCounter.Settings.Basic
import LiveCounter.Settings.Environment
import LiveCounter.Settings.Load
import LiveCounter.Settings.Validation
import LiveCounter.Stream.Client
import LiveCounter.Stream.Fault
import LiveCounter.Stream.Outbox
import LiveCounter.Stream.Policy
import LiveCounter.Stream.Session
import LiveCounter.Stream.Subscriptions
import LiveCounter.Stream.Watch
import LiveCounter.Stream.Writer
import LiveCounter.Text.Decimal
import LiveCounter.Text.Hex
import LiveCounter.Text.Quoted
import LiveCounter.Text.Shortest
import LiveCounter.Text.Visible
import LiveCounter.Time.Duration
import LiveCounter.Time.Timer
import LiveCounter.Time.Timestamp
import LiveCounter.Topic
