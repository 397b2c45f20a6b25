import LiveCounter.Event
import LiveCounter.Stream.Fault

/-!
# Clients

The far end of a stream. A scripted client treats each attempt to write as its script says: it takes
some time, and then accepts the frame, refuses it, breaks down, or never answers. A buffered client
accepts frames as long as its buffer has room; they wait there until they are read.
-/

namespace LiveCounter

/-- How an attempt to write ends. -/
inductive Reception where
  | accept
  | refuse (fault : TransportFault)
  | panic
  | stall
  deriving DecidableEq, Repr

/-- How a client treats one attempt to write. -/
structure Treatment where
  /-- Milliseconds until the client reacts. -/
  delay : Nat
  reception : Reception
  deriving DecidableEq, Repr

/-- What a client is. -/
inductive Peer where
  /-- The script gives the treatment of each attempt, counted from one. -/
  | scripted (script : Nat → Treatment) (attempts : Nat)
  | buffered (capacity : Nat) (unread : List Frame)

/-- A client and what it has got. -/
structure Client where
  peer : Peer
  /-- The client has gone away. -/
  gone : Bool := false
  /-- The frames that were accepted with the time of their acceptance, latest first. -/
  accepted : List (Nat × Frame) := []

/-- How far an attempt to write has got. -/
inductive WriteStep where
  | accepted
  | refused (fault : TransportFault)
  | panicked
  /-- The client reacts after so many milliseconds. -/
  | delayed (millis : Nat)
  /-- The client does not react for now. -/
  | stuck
  deriving DecidableEq, Repr

namespace Client

/-- A client that follows a script. -/
def scripted (script : Nat → Treatment) : Client := { peer := .scripted script 0 }

/-- A client with room for at least one unread frame. -/
def buffered (capacity : Nat) : Client := { peer := .buffered (max capacity 1) [] }

/-- The client with one more accepted frame. -/
def accept (client : Client) (now : Nat) (frame : Frame) : Client :=
  { client with accepted := (now, frame) :: client.accepted }

/-- The end of an attempt with a scripted client. -/
def conclude (client : Client) (now : Nat) (frame : Frame) : Reception → WriteStep × Client
  | .accept => (.accepted, client.accept now frame)
  | .refuse fault => (.refused fault, client)
  | .panic => (.panicked, client)
  | .stall => (.stuck, client)

/-- Offers a frame to a buffer. -/
def fill (client : Client) (now : Nat) (frame : Frame) (capacity : Nat) (unread : List Frame) :
    WriteStep × Client :=
  if client.gone then (.refused .closed, client)
  else if unread.length < capacity then
    (.accepted, { client.accept now frame with peer := .buffered capacity (unread ++ [frame]) })
  else (.stuck, client)

/-- Begins to write a frame. -/
def beginWrite (client : Client) (now : Nat) (frame : Frame) : WriteStep × Client :=
  match client.peer with
  | .scripted script attempts =>
    let attempt := attempts + 1
    let client := { client with peer := .scripted script attempt }
    let treatment := script attempt
    if treatment.delay = 0 then client.conclude now frame treatment.reception
    else (.delayed treatment.delay, client)
  | .buffered capacity unread => client.fill now frame capacity unread

/-- Goes on with a write whose delay is over. -/
def endDelay (client : Client) (now : Nat) (frame : Frame) : WriteStep × Client :=
  match client.peer with
  | .scripted script attempts => client.conclude now frame (script attempts).reception
  | .buffered capacity unread => client.fill now frame capacity unread

/-- Goes on with a write that was stuck. -/
def retry (client : Client) (now : Nat) (frame : Frame) : WriteStep × Client :=
  match client.peer with
  | .scripted _ _ => (.stuck, client)
  | .buffered capacity unread => client.fill now frame capacity unread

/-- Reads at most so many frames out of the buffer. -/
def receive (client : Client) (limit : Nat) : List Frame × Client :=
  match client.peer with
  | .scripted _ _ => ([], client)
  | .buffered capacity unread =>
    (unread.take limit, { client with peer := .buffered capacity (unread.drop limit) })

/-- The frames that wait in the buffer. -/
def unread (client : Client) : List Frame :=
  match client.peer with
  | .scripted _ _ => []
  | .buffered _ unread => unread

/-- The client goes away; what it has not read is lost. -/
def leave (client : Client) : Client :=
  match client.peer with
  | .scripted _ _ => { client with gone := true }
  | .buffered capacity _ => { client with gone := true, peer := .buffered capacity [] }

end Client

end LiveCounter
