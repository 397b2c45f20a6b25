import LiveCounter.Hub.Stopping

/-!
# Runs of a hub

A run is a list of operations, each of which takes effect as a whole: a call of somebody outside, a
poll of one task, what a client does at its end of a stream, or the passing of time. Polls and time
come in any order, so a run may wake a task late, early or never. What a run leaves behind is said by
histories, which collect something from every operation of it.

Operations that reach around the hub, into a session or into the subscriptions, are irregular.
-/

namespace LiveCounter

/-- How the far end of a stream behaves. -/
inductive Transport where
  /-- Each attempt to write is treated as the script says. -/
  | scripted (script : Nat → Treatment)
  /-- Frames wait in a buffer until they are read. -/
  | channel (buffer : Nat)

/-- The client of a transport that has not been used yet. -/
def Transport.client : Transport → Client
  | .scripted script => .scripted script
  | .channel buffer => .buffered buffer

namespace Hub

/-- One operation of a run. -/
inductive Operation where
  | join (topic : Topic) (id : SessionId)
  | connect (topic : Topic) (id : SessionId) (transport : Transport) (initial : Option Int64)
  | publish (event : CounterEvent)
  | offer (n : Nat) (event : CounterEvent)
  /-- Somebody outside takes an event off the outbox of a session. -/
  | take (n : Nat)
  | close (n : Nat) (reason : CloseReason)
  | closeFor (n : Nat) (fault : StreamFault)
  | closeLive (n : Nat) (reason : CloseReason)
  | clearTopic (topic : Topic)
  /-- The hub begins to stop and closes all live sessions. What it waits for afterwards are polls
  and the passing of time. -/
  | sweep
  | refresh (n : Nat)
  | noteWrite (n : Nat)
  | receive (n limit : Nat)
  | loseClient (n : Nat)
  | letGo (n : Nat)
  | pass (millis : Nat)
  | pollWatch (n : Nat)
  | pollWriter (n : Nat)
  | report (level : LogLevel) (message : String) (fields : List (String × Json))
  | countHit
  /-- Somebody outside makes a session of its own. -/
  | create (topic : Topic) (capacity : Nat) (id : SessionId)
  /-- Somebody outside claims the closing of a session and leaves it at that. -/
  | claim (n : Nat) (reason : CloseReason)
  | release (n : Nat)
  | subscribe (n : Nat) (topic : Topic)
  | unsubscribe (n : Nat) (topic : Topic)

/-- Whether an operation goes through the hub and not around it. -/
def Operation.isRegular : Operation → Bool
  | .create .. | .claim .. | .release .. | .subscribe .. | .unsubscribe .. => false
  | _ => true

/-- Takes an event off the outbox of a session. -/
def take (hub : Hub) (n : Nat) : Hub :=
  hub.modifySession n fun session => { session with outbox := session.outbox.pop.2 }

/-- Lets time pass, and nothing else. -/
def pass (hub : Hub) (millis : Nat) : Hub :=
  { hub with now := hub.now + millis }

/-- The hub with the closing of a session claimed, if that was still possible. -/
def claimed (hub : Hub) (n : Nat) (reason : CloseReason) : Hub :=
  match hub.claim? n reason with
  | some (_, hub) => hub
  | none => hub

/-- Subscribes a session that exists to a topic. -/
def enroll (hub : Hub) (n : Nat) (topic : Topic) : Hub :=
  if n < hub.connections.length then hub.subscribe n topic else hub

/-- Takes a session off a topic. -/
def withdraw (hub : Hub) (n : Nat) (topic : Topic) : Hub :=
  { hub with subscriptions := (hub.subscriptions.unsubscribe topic n).2 }

/-- The hub after an operation. -/
def step (hub : Hub) : Operation → Hub
  | .join topic id => (hub.join topic id).2
  | .connect topic id transport initial => (hub.connect topic id transport.client initial).2
  | .publish event => (hub.publish event).2
  | .offer n event => (hub.offer n event).2
  | .take n => hub.take n
  | .close n reason => (hub.close n reason).2
  | .closeFor n fault => (hub.closeFor n fault).2
  | .closeLive n reason => (hub.closeLive n reason).2
  | .clearTopic topic => (hub.clearTopic topic).2
  | .sweep => hub.beginStop.sweep.2
  | .refresh n => hub.modifySession n (·.refresh hub.now)
  | .noteWrite n => hub.modifySession n (·.noteWrite hub.now)
  | .receive n limit => (hub.receive n limit).2
  | .loseClient n => hub.loseClient n
  | .letGo n => hub.letGo n
  | .pass millis => hub.pass millis
  | .pollWatch n => hub.pollWatch n
  | .pollWriter n => hub.pollWriter n
  | .report level message fields => hub.log level message fields
  | .countHit => hub.count .hits
  | .create topic capacity id => (hub.create topic capacity id).elim hub (·.2)
  | .claim n reason => hub.claimed n reason
  | .release n => hub.releaseOutbox n
  | .subscribe n topic => hub.enroll n topic
  | .unsubscribe n topic => hub.withdraw n topic

/-- The hub after a run. -/
def run (hub : Hub) (operations : List Operation) : Hub :=
  operations.foldl step hub

/-- A run of no operations leaves the hub as it is. -/
@[simp] theorem run_nil (hub : Hub) : hub.run [] = hub := rfl

/-- A run begins with its first operation. -/
@[simp] theorem run_cons (hub : Hub) (operation : Operation) (rest : List Operation) :
    hub.run (operation :: rest) = (hub.step operation).run rest := rfl

/-- A run can be cut anywhere. -/
theorem run_append (hub : Hub) (first second : List Operation) :
    hub.run (first ++ second) = (hub.run first).run second :=
  List.foldl_append

/-- What a run leaves behind, given what each operation leaves behind. -/
def history {A : Type} (observe : Hub → Operation → List A) : Hub → List Operation → List A
  | _, [] => []
  | hub, operation :: rest => observe hub operation ++ history observe (hub.step operation) rest

/-- The history of a run continues with the history of what follows it. -/
theorem history_append {A : Type} (observe : Hub → Operation → List A) (hub : Hub)
    (first second : List Operation) :
    history observe hub (first ++ second) =
      history observe hub first ++ history observe (hub.run first) second := by
  induction first generalizing hub with
  | nil => rfl
  | cons operation rest ih => simp [history, ih, List.append_assoc]

end Hub

end LiveCounter
