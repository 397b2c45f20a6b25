import LiveCounter.Topic

/-!
# Subscriptions

Subscriptions say which sessions want the events of a topic. They are handles, the numbers of
sessions, and do not keep the sessions alive; a handle whose session is gone is stale. A topic has
an entry only while it has a handle.
-/

namespace LiveCounter

/-- The handles of each topic. -/
structure Subscriptions where
  topics : List (Topic × List Nat) := []
  deriving DecidableEq

/-- The subscribers of a topic at one moment. -/
structure Recipients where
  sessions : List Nat
  stale : List Nat
  deriving DecidableEq, Repr

namespace Subscriptions

/-- The handles under a topic. -/
def handles (subs : Subscriptions) (topic : Topic) : List Nat :=
  match subs.topics.find? fun entry => entry.1 = topic with
  | some (_, list) => list
  | none => []

/-- Whether a session is subscribed to a topic. -/
def contains (subs : Subscriptions) (topic : Topic) (session : Nat) : Bool :=
  (subs.handles topic).contains session

/-- The entries with a handle put under a topic, once. -/
def insertHandle (topic : Topic) (session : Nat) :
    List (Topic × List Nat) → List (Topic × List Nat)
  | [] => [(topic, [session])]
  | (other, list) :: rest =>
    if other = topic then
      (other, if list.contains session then list else list ++ [session]) :: rest
    else (other, list) :: insertHandle topic session rest

/-- Subscribes a session to a topic. -/
def subscribe (subs : Subscriptions) (topic : Topic) (session : Nat) : Subscriptions :=
  ⟨insertHandle topic session subs.topics⟩

/-- The entries without the given handle under a topic, and without entries that it leaves empty. -/
def eraseHandle (topic : Topic) (session : Nat) :
    List (Topic × List Nat) → List (Topic × List Nat)
  | [] => []
  | (other, list) :: rest =>
    if other = topic then
      match list.erase session with
      | [] => rest
      | kept => (other, kept) :: rest
    else (other, list) :: eraseHandle topic session rest

/-- Takes a session off a topic; says whether it was there. -/
def unsubscribe (subs : Subscriptions) (topic : Topic) (session : Nat) : Bool × Subscriptions :=
  (subs.contains topic session, ⟨eraseHandle topic session subs.topics⟩)

/-- Takes several sessions off a topic. -/
def unsubscribeAll (subs : Subscriptions) (topic : Topic) (sessions : List Nat) : Subscriptions :=
  sessions.foldl (fun subs session => (subs.unsubscribe topic session).2) subs

/-- The subscribers of a topic, told apart by whether their sessions are alive; the stale ones are
taken off the topic. -/
def recipients (subs : Subscriptions) (alive : Nat → Bool) (topic : Topic) :
    Recipients × Subscriptions :=
  let handles := subs.handles topic
  let stale := handles.filter fun session => !alive session
  (⟨handles.filter alive, stale⟩, subs.unsubscribeAll topic stale)

/-- The number of subscribers of a topic. -/
def count (subs : Subscriptions) (topic : Topic) : Nat := (subs.handles topic).length

/-- The number of topics with a subscriber. -/
def numTopics (subs : Subscriptions) : Nat := subs.topics.length

/-- The number of handles under all topics. -/
def total (subs : Subscriptions) : Nat :=
  (subs.topics.map fun entry => entry.2.length).foldr (· + ·) 0

/-- Whether nobody is subscribed. -/
def isEmpty (subs : Subscriptions) : Bool := subs.topics.isEmpty

end Subscriptions

end LiveCounter
