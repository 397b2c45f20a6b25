import LiveCounter.Topic
import LiveCounter.Time.Timestamp
import LiveCounter.Json.Value

/-!
# Counter events and their frames

An event says that a counter took a value. On the wire it becomes one record of a
`text/event-stream`, ended by a blank line; a keepalive is a comment record, which clients skip.
-/

namespace LiveCounter

/-- A counter changed its value. -/
structure CounterEvent where
  topic : Topic
  value : Int64
  deriving DecidableEq

/-- The JSON form of a topic. -/
def Topic.json (topic : Topic) : Json :=
  .object [("namespace", .str topic.space), ("key", .str topic.key)]

/-- The JSON form of an event that was observed at the given time. -/
def CounterEvent.json (event : CounterEvent) (timestamp : Timestamp) : Json :=
  .object [("topic", event.topic.json), ("value", .int event.value.toInt),
    ("timestamp", .str timestamp.text)]

/-- One record of an event stream. -/
inductive Frame where
  | event (value : Int64)
  | keepalive
  deriving DecidableEq, Repr

namespace Frame

/-- The record that reports an event. -/
def ofEvent (event : CounterEvent) : Frame := .event event.value

/-- The encoded comment that keeps a quiet stream alive. -/
def keepaliveText : String := ": keepalive\n\n"

/-- The encoded form of a record. -/
def text : Frame → String
  | .event value => "data: \x7b\"value\":" ++ toString value.toInt ++ "\x7d\n\n"
  | .keepalive => keepaliveText

/-- Whether an encoded record is a keepalive. -/
def isKeepalive (encoded : String) : Bool := encoded == keepaliveText

end Frame

end LiveCounter
