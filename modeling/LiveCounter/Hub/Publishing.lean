import LiveCounter.Hub.Admission

/-!
# Publishing events

An event is offered to the sessions that were subscribed to its topic at one moment, one after the
other, and no client is waited for. Sessions that have dropped too many events in a row, and those
that should not have been subscribed any more, are closed afterwards.
-/

namespace LiveCounter

/-- What became of one published event. -/
structure Delivery where
  recipients : Nat := 0
  delivered : Nat := 0
  dropped : Nat := 0
  /-- The sessions that have dropped too many events in a row. -/
  forced : List Nat := []
  /-- The terminated sessions that were still subscribed. -/
  inconsistent : List Nat := []
  /-- The handles whose session is gone. -/
  stale : List Nat := []
  deriving DecidableEq, Repr

namespace Hub

/-- Notes who is subscribed to a topic, and takes the stale handles off it. -/
def takeRecipients (hub : Hub) (topic : Topic) : Recipients × Hub :=
  let (recipients, subscriptions) := hub.subscriptions.recipients hub.isAlive topic
  (recipients, { hub with subscriptions })

/-- Notes a handle whose session is gone. -/
def noteStale (topic : Topic) (hub : Hub) (n : Nat) : Hub :=
  let hub := hub.noteDisagreement
  match hub.session? n with
  | none => hub
  | some session =>
    hub.log .error "registry held a handle to a dropped session" (topicFields session.id topic)

/-- The run of dropped events after which a session is closed. -/
def dropThreshold (hub : Hub) : UInt32 := max hub.policy.maxConsecutiveDrops 1

/-- Delivers an event to one of its recipients. -/
def deliver (event : CounterEvent) (report : Delivery) (hub : Hub) (n : Nat) : Delivery × Hub :=
  match hub.session? n with
  | none => (report, hub)
  | some session =>
    let (offer, hub) := hub.offer n event
    match offer with
    | .queued => ({ report with delivered := report.delivered + 1 }, hub)
    | .dropped consecutive =>
      let hub := hub.count .broadcastDrops
      let report := { report with dropped := report.dropped + 1 }
      let fields := topicFields session.id event.topic ++ [("consecutive", .nat consecutive.toNat)]
      if hub.dropThreshold ≤ consecutive then
        ({ report with forced := report.forced ++ [n] },
          hub.log .warn "disconnecting slow subscriber" fields)
      else (report, hub.log .debug "subscriber queue full, event dropped" fields)
    | .inactive =>
      if session.stage = .terminated then
        let hub := hub.noteDisagreement.log .error "terminated session still registered"
          (topicFields session.id event.topic)
        ({ report with inconsistent := report.inconsistent ++ [n] },
          { hub with subscriptions := (hub.subscriptions.unsubscribe event.topic n).2 })
      else (report, hub)

/-- Delivers an event to its recipients in turn. -/
def deliverAll (event : CounterEvent) : List Nat → Delivery → Hub → Delivery × Hub
  | [], report, hub => (report, hub)
  | n :: rest, report, hub =>
    let (report, hub) := deliver event report hub n
    deliverAll event rest report hub

/-- Counts an event that is to be published. -/
def countPublished (hub : Hub) : Hub :=
  { hub with published := hub.published + 1 }.count .eventsPublished

/-- Offers an event to recipients that have been noted before. -/
def distributeTo (recipients : Recipients) (event : CounterEvent) (hub : Hub) : Delivery × Hub :=
  let hub := recipients.stale.foldl (noteStale event.topic) hub
  let (report, hub) := deliverAll event recipients.sessions
    { recipients := recipients.sessions.length, stale := recipients.stale } hub
  let hub := { hub with
    delivered := hub.delivered + report.delivered
    dropped := hub.dropped + report.dropped }
  (report, hub.log .debug "broadcast event" [
    ("topic", .str event.topic.name),
    ("value", .int event.value.toInt),
    ("recipients", .nat report.recipients),
    ("delivered", .nat report.delivered),
    ("dropped", .nat report.dropped)])

/-- Offers an event to all subscribers of its topic. -/
def distribute (hub : Hub) (event : CounterEvent) : Delivery × Hub :=
  let (recipients, hub) := hub.countPublished.takeRecipients event.topic
  hub.distributeTo recipients event

/-- The error of a session that was still subscribed after its end. -/
def stillSubscribed (hub : Hub) (n : Nat) : StreamFault :=
  let id := (hub.session? n).elim "" (·.id.text)
  .disagreement ("session " ++ id ++ " still registered after termination")

/-- Publishes an event, and closes the sessions that the publication found to be too slow or out of
order. -/
def publish (hub : Hub) (event : CounterEvent) : Delivery × Hub :=
  let (report, hub) := hub.distribute event
  let hub := report.forced.foldl (fun hub n => (hub.closeFor n .backpressureDrop).2) hub
  let hub := report.inconsistent.foldl (fun hub n => (hub.closeFor n (hub.stillSubscribed n)).2) hub
  (report, hub)

end Hub

end LiveCounter
