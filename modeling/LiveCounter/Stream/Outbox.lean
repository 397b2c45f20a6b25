import LiveCounter.Event

/-!
# Outboxes

The events that wait for a client, first in, first out. An outbox has room for a fixed number of
events and refuses more. Once it is released it is empty and stays so. The room is set aside when
the outbox is made, and no outbox can be made that would take more memory than there are addresses.
-/

namespace LiveCounter

/-- The events that wait for a client. -/
structure Outbox where
  capacity : Nat
  items : List CounterEvent := []
  released : Bool := false
  deriving DecidableEq

/-- Why an outbox refuses an event. -/
inductive PushFault where
  | full
  | released
  deriving DecidableEq, Repr

/-- What an outbox has to give. -/
inductive Popped where
  | event (event : CounterEvent)
  | pending
  | released
  deriving DecidableEq

namespace Outbox

/-- The largest number of events for which room can be set aside: an event takes 56 bytes, and no
piece of memory is longer than 9223372036854775800 bytes. -/
def maxCapacity : Nat := 164703072086692425

/-- An empty outbox with room for at least one event. -/
def ofCapacity (capacity : Nat) : Outbox := { capacity := max capacity 1 }

/-- Makes an empty outbox. To ask for more room than can be set aside is a panic, here `none`. -/
def ofCapacity? (capacity : Nat) : Option Outbox :=
  if (ofCapacity capacity).capacity ≤ maxCapacity then some (ofCapacity capacity) else none

/-- The number of events that wait. -/
def length (outbox : Outbox) : Nat := outbox.items.length

/-- Puts an event at the back. -/
def push (outbox : Outbox) (event : CounterEvent) : Except PushFault Outbox :=
  if outbox.released then .error .released
  else if outbox.capacity ≤ outbox.length then .error .full
  else .ok { outbox with items := outbox.items ++ [event] }

/-- Takes the event at the front. -/
def pop (outbox : Outbox) : Popped × Outbox :=
  if outbox.released then (.released, outbox)
  else
    match outbox.items with
    | [] => (.pending, outbox)
    | event :: rest => (.event event, { outbox with items := rest })

/-- Gives all events up and refuses further ones; says whether this is the first release. -/
def release (outbox : Outbox) : Bool × Outbox :=
  (!outbox.released, { outbox with items := [], released := true })

end Outbox

end LiveCounter
