import LiveCounter.Log.Record
import LiveCounter.Metrics
import LiveCounter.Stream.Subscriptions
import LiveCounter.Stream.Watch
import LiveCounter.Stream.Writer

/-!
# The hub of streams

The hub admits sessions, delivers events to them and closes them. Sessions are numbered in the order
of their creation, and found by their numbers, which stand for identifiers that no two sessions
share. What the hub knows about live sessions it knows four times: by the stage of each session, by
the table of live sessions, by the subscriptions, and by the number of taken slots. Admitting and
closing change these one after the other, each by a step of its own.
-/

namespace LiveCounter

/-- The writer of a session and the client that it writes to. -/
structure Service where
  phase : Phase := .spawned
  client : Client

/-- A session with its tasks. -/
structure Connection where
  session : Session
  watch : Watch := .absent
  service : Option Service := none
  /-- Somebody outside still refers to the session. -/
  held : Bool := true
  /-- The timers that the tasks have set so far. -/
  timersSet : Nat := 0

namespace Connection

/-- Whether a writer runs for the session. -/
def writerRuns (connection : Connection) : Bool :=
  connection.service.elim false fun service => service.phase != .ended

/-- The number of tasks that have not ended. -/
def liveTasks (connection : Connection) : Nat :=
  connection.watch.isPending.toNat + connection.writerRuns.toNat

end Connection

/-- All that the server knows about its streams. -/
structure Hub where
  policy : StreamPolicy
  /-- The present millisecond. -/
  now : Nat := 0
  connections : List Connection := []
  /-- The numbers of the live sessions. -/
  table : List Nat := []
  subscriptions : Subscriptions := {}
  /-- The number of slots taken. -/
  active : Nat := 0
  stopping : Bool := false
  opened : Nat := 0
  closed : Nat := 0
  forced : Nat := 0
  published : Nat := 0
  delivered : Nat := 0
  dropped : Nat := 0
  disagreements : Nat := 0
  metrics : Metrics := {}
  /-- What has been reported, latest first. -/
  journal : List LogRecord := []

/-- The statistics of the server. -/
structure HubStats where
  activeConnections : Nat
  maxConnections : Nat
  topics : Nat
  subscribers : Nat
  totalMessages : Nat
  deliveredMessages : Nat
  droppedMessages : Nat
  sessionsOpened : Nat
  sessionsClosed : Nat
  forcedClosures : Nat
  disagreements : Nat
  liveTasks : Nat
  deriving DecidableEq, Repr

/-- The JSON form of the statistics. -/
def HubStats.json (stats : HubStats) : Json :=
  .object [
    ("active_connections", .nat stats.activeConnections),
    ("max_connections", .nat stats.maxConnections),
    ("topics", .nat stats.topics),
    ("subscribers", .nat stats.subscribers),
    ("total_messages", .nat stats.totalMessages),
    ("delivered_messages", .nat stats.deliveredMessages),
    ("dropped_messages", .nat stats.droppedMessages),
    ("sessions_opened", .nat stats.sessionsOpened),
    ("sessions_closed", .nat stats.sessionsClosed),
    ("forced_closures", .nat stats.forcedClosures),
    ("registry_inconsistencies", .nat stats.disagreements),
    ("pending_tasks", .nat stats.liveTasks)]

namespace Hub

/-- A hub without sessions; it uses the clamped form of the policy. -/
def new (policy : StreamPolicy) : Hub where
  policy := policy.clamped
  journal := policy.warnings.reverse

/-- Reports something. -/
def log (hub : Hub) (level : LogLevel) (message : String) (fields : List (String × Json)) : Hub :=
  { hub with journal := ⟨level, message, fields⟩ :: hub.journal }

/-- Adds one to a metric. -/
def count (hub : Hub) (metric : Metric) : Hub :=
  { hub with metrics := hub.metrics.increment metric }

/-- The session of a number. -/
def session? (hub : Hub) (n : Nat) : Option Session :=
  hub.connections[n]?.map (·.session)

/-- Changes the connection of a number. -/
def modify (hub : Hub) (n : Nat) (f : Connection → Connection) : Hub :=
  { hub with connections := hub.connections.modify n f }

/-- Changes the session of a number. -/
def modifySession (hub : Hub) (n : Nat) (f : Session → Session) : Hub :=
  hub.modify n fun connection => { connection with session := f connection.session }

/-- A session and a topic, as fields of a report. -/
def topicFields (id : SessionId) (topic : Topic) : List (String × Json) :=
  [("session_id", .str id.text), ("topic", .str topic.name)]

/-- The number of tasks that have not ended. -/
def liveTasks (hub : Hub) : Nat :=
  (hub.connections.map (·.liveTasks)).foldr (· + ·) 0

/-- The present statistics. -/
def stats (hub : Hub) : HubStats where
  activeConnections := hub.active
  maxConnections := hub.policy.maxConnections
  topics := hub.subscriptions.numTopics
  subscribers := hub.subscriptions.total
  totalMessages := hub.published
  deliveredMessages := hub.delivered
  droppedMessages := hub.dropped
  sessionsOpened := hub.opened
  sessionsClosed := hub.closed
  forcedClosures := hub.forced
  disagreements := hub.disagreements
  liveTasks := hub.liveTasks

/-- Whether anything still refers to a session: its holder outside, the table, or one of its
tasks. -/
def isAlive (hub : Hub) (n : Nat) : Bool :=
  match hub.connections[n]? with
  | none => false
  | some connection =>
    connection.held || hub.table.contains n || connection.liveTasks != 0

/-! Reporting, counting and changing one connection leave the clock alone. -/

/-- A report takes no time. -/
@[simp] theorem now_log (hub : Hub) (level : LogLevel) (message : String)
    (fields : List (String × Json)) : (hub.log level message fields).now = hub.now := rfl

/-- Counting takes no time. -/
@[simp] theorem now_count (hub : Hub) (metric : Metric) : (hub.count metric).now = hub.now := rfl

/-- Changing a connection takes no time. -/
@[simp] theorem now_modify (hub : Hub) (n : Nat) (f : Connection → Connection) :
    (hub.modify n f).now = hub.now := rfl

end Hub

end LiveCounter
