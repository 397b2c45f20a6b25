import LiveCounter.Hub.Closing

/-!
# Admitting sessions

A session is admitted if the hub is not stopping and a slot is free. It is entered into the table
and under its topic before it opens, so that a sweep or a close that comes in between finds it; the
last steps look for both.

The slot is taken before the session is made. Where the outbox cannot be made the call panics in
between, and nobody gives the slot back.
-/

namespace LiveCounter

/-- Why a call that asks for a stream does not get one. -/
inductive Denial where
  /-- The call returns an error. -/
  | refused (fault : StreamFault)
  /-- The call panics, for want of an outbox. -/
  | panicked
  deriving DecidableEq, Repr

namespace Hub

/-- Takes a slot, if one is free. -/
def claimSlot? (hub : Hub) : Option Hub :=
  if hub.active < hub.policy.maxConnections then some { hub with active := hub.active + 1 }
  else none

/-- Creates a session, if an outbox can be made for it. -/
def create (hub : Hub) (topic : Topic) (capacity : Nat) (id : SessionId) : Option (Nat × Hub) := do
  let outbox ← Outbox.ofCapacity? capacity
  let session := Session.create id topic outbox hub.now
  some (hub.connections.length, { hub with connections := hub.connections ++ [{ session }] })

/-- Puts a session into the table. -/
def enterTable (hub : Hub) (n : Nat) : Hub :=
  { hub with table := hub.table ++ [n] }

/-- Subscribes a session to a topic. -/
def subscribe (hub : Hub) (n : Nat) (topic : Topic) : Hub :=
  { hub with subscriptions := hub.subscriptions.subscribe topic n }

/-- The hub with a session opened, if the session is still opening. -/
def opened? (hub : Hub) (n : Nat) : Option Hub := do
  let session ← hub.session? n
  let opened ← session.opened?
  some (hub.modifySession n fun _ => opened)

/-- Counts a session that has opened. -/
def countOpened (hub : Hub) : Hub :=
  let hub := { hub with opened := hub.opened + 1 }.count .sessionsOpened
  { hub with metrics := hub.metrics.moveActive 1 }

/-- Starts to watch a session. -/
def startWatch (hub : Hub) (n : Nat) : Hub :=
  hub.modify n fun connection => { connection with watch := .spawned }

/-- Refuses a stream because the hub is stopping. -/
def refuseStopping (hub : Hub) : Except Denial Nat × Hub :=
  (.error (.refused .stopping), hub.count (.sessionsRejected .stopping))

/-- Refuses a stream because all slots are taken. -/
def refuseCapacity (hub : Hub) (topic : Topic) : Except Denial Nat × Hub :=
  let max := hub.policy.maxConnections
  (.error (.refused (.capacityExceeded max)),
    (hub.count (.sessionsRejected .capacity)).log .warn "connection limit reached, rejecting stream"
      [("topic", .str topic.name), ("max", .nat max)])

/-- The last steps of admitting a session that is in the table and subscribed to its topic. The
session may have been closed since, and the hub may have begun to stop; both are looked for. -/
def finishAdmission (hub : Hub) (n : Nat) (topic : Topic) (id : SessionId) :
    Except Denial Nat × Hub :=
  match hub.opened? n with
  | none =>
    (.error (.refused .sessionClosed),
      { hub with subscriptions := (hub.subscriptions.unsubscribe topic n).2 })
  | some hub =>
    let hub := hub.countOpened
    if hub.stopping then (.error (.refused .stopping), (hub.close n .shutdown).2)
    else
      let hub := hub.log .info "session opened" (topicFields id topic)
      (.ok n, hub.startWatch n)

/-- Admits a session for a topic and makes it visible to publishers. -/
def join (hub : Hub) (topic : Topic) (id : SessionId) : Except Denial Nat × Hub :=
  if hub.stopping then hub.refuseStopping
  else
    match hub.claimSlot? with
    | none => hub.refuseCapacity topic
    | some hub =>
      match hub.create topic hub.policy.queueCapacity id with
      | none => (.error .panicked, hub)
      | some (n, hub) => ((hub.enterTable n).subscribe n topic).finishAdmission n topic id

/-- Offers an event to a session. -/
def offer (hub : Hub) (n : Nat) (event : CounterEvent) : Offer × Hub :=
  match hub.session? n with
  | none => (.inactive, hub)
  | some session =>
    let (session, offer) := session.offer event
    (offer, hub.modifySession n fun _ => session)

/-- Offers the first value to a session. -/
def offerInitial (hub : Hub) (n : Nat) (topic : Topic) (id : SessionId) (value : Int64) : Hub :=
  let (offer, hub) := hub.offer n ⟨topic, value⟩
  if offer = .queued then hub
  else hub.log .debug "initial value not queued" [("session_id", .str id.text)]

/-- Starts a writer that writes to a client. -/
def startWriter (hub : Hub) (n : Nat) (client : Client) : Hub :=
  hub.modify n fun connection => { connection with service := some { client } }

/-- Admits a session and serves a client with it. A first value is queued before the writer
starts. -/
def connect (hub : Hub) (topic : Topic) (id : SessionId) (client : Client)
    (initial : Option Int64) : Except Denial Nat × Hub :=
  match hub.join topic id with
  | (.error denial, hub) => (.error denial, hub)
  | (.ok n, hub) =>
    let hub :=
      match initial with
      | some value => hub.offerInitial n topic id value
      | none => hub
    (.ok n, hub.startWriter n client)

/-! ## Clients -/

/-- Changes the client of a session, if it has one. -/
def modifyClient (hub : Hub) (n : Nat) (f : Client → Client) : Hub :=
  hub.modify n fun connection =>
    { connection with
      service := connection.service.map fun service =>
        { service with client := f service.client } }

/-- The client of a session goes away. -/
def loseClient (hub : Hub) (n : Nat) : Hub :=
  hub.modifyClient n (·.leave)

/-- The client of a session reads at most so many frames. -/
def receive (hub : Hub) (n : Nat) (limit : Nat) : List Frame × Hub :=
  match hub.connections[n]? with
  | some { service := some service, .. } =>
    let (frames, client) := service.client.receive limit
    (frames, hub.modifyClient n fun _ => client)
  | _ => ([], hub)

/-- Whoever refers to a session from outside lets go of it. -/
def letGo (hub : Hub) (n : Nat) : Hub :=
  hub.modify n fun connection => { connection with held := false }

end Hub

end LiveCounter
