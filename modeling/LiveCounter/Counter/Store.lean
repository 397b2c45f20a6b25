import LiveCounter.Topic

/-!
# Counters

A counter is a 64-bit number under a topic. Counters are created explicitly or by their first hit.
An operation that would leave the range fails, and whatever fails changes nothing.
-/

namespace LiveCounter

/-- Why an operation on a counter fails. -/
inductive CounterFault where
  | alreadyExists (topic : Topic)
  | notFound (topic : Topic)
  | missing (topic : Topic)
  | overflow (topic : Topic)
  deriving DecidableEq

/-- The wording of a failed operation. -/
def CounterFault.message : CounterFault → String
  | .alreadyExists topic => "counter " ++ topic.name ++ " already exists"
  | .notFound topic => "counter " ++ topic.name ++ " not found"
  | .missing topic => "counter " ++ topic.name ++ " does not exist, create it first"
  | .overflow topic => "counter " ++ topic.name ++ " is at its maximum value"

/-- The name of a kind of failed operation. -/
def CounterFault.kind : CounterFault → String
  | .alreadyExists _ => "AlreadyExists"
  | .notFound _ => "NotFound"
  | .missing _ => "Missing"
  | .overflow _ => "Overflow"

/-- The topic of a failed operation. -/
def CounterFault.topic : CounterFault → Topic
  | .alreadyExists topic | .notFound topic | .missing topic | .overflow topic => topic

/-- The form of a failed operation in diagnostics. -/
def CounterFault.debugText (fault : CounterFault) : String :=
  fault.kind ++ "(" ++ fault.topic.debugText ++ ")"

/-- The sum of two numbers, if it is in range. -/
def addInRange? (a b : Int64) : Option Int64 :=
  let sum := a.toInt + b.toInt
  if Int64.minValue.toInt ≤ sum ∧ sum ≤ Int64.maxValue.toInt then some (.ofInt sum) else none

/-- The counters of a server. -/
structure CounterStore where
  entries : List (Topic × Int64) := []
  deriving DecidableEq

namespace CounterStore

/-- The value of a counter. -/
def get? (store : CounterStore) (topic : Topic) : Option Int64 :=
  (store.entries.find? fun entry => entry.1 = topic).map (·.2)

/-- Entries with a value put under a topic. -/
def insertEntry (topic : Topic) (value : Int64) : List (Topic × Int64) → List (Topic × Int64)
  | [] => [(topic, value)]
  | (other, old) :: rest =>
    if other = topic then (topic, value) :: rest else (other, old) :: insertEntry topic value rest

/-- Gives a counter a value, whether it exists or not. -/
def put (store : CounterStore) (topic : Topic) (value : Int64) : CounterStore :=
  ⟨insertEntry topic value store.entries⟩

/-- Removes a counter. -/
def erase (store : CounterStore) (topic : Topic) : CounterStore :=
  ⟨store.entries.filter fun entry => entry.1 ≠ topic⟩

/-- The number of counters. -/
def size (store : CounterStore) : Nat := store.entries.length

/-- What an operation answers, with the counters after it. -/
abbrev Outcome := Except CounterFault Int64 × CounterStore

/-- Puts a value and answers with it. -/
def answer (store : CounterStore) (topic : Topic) (value : Int64) : Outcome :=
  (.ok value, store.put topic value)

/-- Creates a counter that does not exist. -/
def create (store : CounterStore) (topic : Topic) (initial : Int64) : Outcome :=
  match store.get? topic with
  | some _ => (.error (.alreadyExists topic), store)
  | none => store.answer topic initial

/-- Adds one to a counter; one that does not exist counts as zero. -/
def hit (store : CounterStore) (topic : Topic) : Outcome :=
  match addInRange? ((store.get? topic).getD 0) 1 with
  | some value => store.answer topic value
  | none => (.error (.overflow topic), store)

/-- Gives an existing counter a value. -/
def set (store : CounterStore) (topic : Topic) (value : Int64) : Outcome :=
  match store.get? topic with
  | some _ => store.answer topic value
  | none => (.error (.missing topic), store)

/-- Gives an existing counter the value zero. -/
def reset (store : CounterStore) (topic : Topic) : Outcome :=
  store.set topic 0

/-- Adds to an existing counter. -/
def add (store : CounterStore) (topic : Topic) (delta : Int64) : Outcome :=
  match store.get? topic with
  | none => (.error (.missing topic), store)
  | some current =>
    match addInRange? current delta with
    | some value => store.answer topic value
    | none => (.error (.overflow topic), store)

/-- Removes an existing counter and answers with its last value. -/
def delete (store : CounterStore) (topic : Topic) : Outcome :=
  match store.get? topic with
  | some value => (.ok value, store.erase topic)
  | none => (.error (.notFound topic), store)

end CounterStore

end LiveCounter
