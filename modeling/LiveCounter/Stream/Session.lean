import LiveCounter.Event
import LiveCounter.SessionId
import LiveCounter.Stream.Fault
import LiveCounter.Stream.Outbox

/-!
# Sessions

A session is what the server knows about one open stream. Its stage only moves forward, through
opening, open, draining and terminated, and only an open session takes events. Whoever moves it to
draining has claimed its closing: the reason is written down, and the cancel token tells the tasks
of the session to stop.
-/

namespace LiveCounter

/-- How far a session has come. -/
inductive SessionStage where
  | opening
  | open
  | draining
  | terminated
  deriving DecidableEq, Repr

namespace SessionStage

/-- The name of a stage. -/
def name : SessionStage → String
  | .opening => "opening"
  | .open => "open"
  | .draining => "draining"
  | .terminated => "terminated"

/-- The form of a stage in diagnostics. -/
def debugText : SessionStage → String
  | .opening => "Opening"
  | .open => "Open"
  | .draining => "Draining"
  | .terminated => "Terminated"

/-- The place of a stage in the life of a session. -/
def rank : SessionStage → Nat
  | .opening => 0
  | .open => 1
  | .draining => 2
  | .terminated => 3

end SessionStage

/-- What became of an event that was offered to a session. -/
inductive Offer where
  | queued
  /-- The outbox was full; so many events in a row have been dropped now. -/
  | dropped (consecutive : UInt32)
  /-- The session takes no events. -/
  | inactive
  deriving DecidableEq, Repr

/-- One client's stream, as the server sees it. Instants are milliseconds of the clock. -/
structure Session where
  id : SessionId
  topic : Topic
  outbox : Outbox
  stage : SessionStage := .opening
  openedAt : Nat
  /-- When the session last showed a sign of life. -/
  lastActivity : Nat
  consecutiveDrops : UInt32 := 0
  dropped : Nat := 0
  written : Nat := 0
  reason : Option CloseReason := none
  failure : Option StreamFault := none
  cancelled : Bool := false
  deriving DecidableEq

namespace Session

/-- A new session with an outbox of its own. -/
def create (id : SessionId) (topic : Topic) (outbox : Outbox) (now : Nat) : Session where
  id
  topic
  outbox
  openedAt := now
  lastActivity := now

/-- Whether a session takes events. -/
def isOpen (session : Session) : Bool := session.stage == .open

/-- Whether the last event was dropped. -/
def isLagging (session : Session) : Bool := session.consecutiveDrops != 0

/-- Offers an event to a session. One that is queued ends the run of dropped events. -/
def offer (session : Session) (event : CounterEvent) : Session × Offer :=
  if session.isOpen then
    match session.outbox.push event with
    | .ok outbox => ({ session with outbox, consecutiveDrops := 0 }, .queued)
    | .error .full =>
      let consecutive := session.consecutiveDrops + 1
      ({ session with dropped := session.dropped + 1, consecutiveDrops := consecutive },
        .dropped consecutive)
    | .error .released => (session, .inactive)
  else (session, .inactive)

/-- Claims the closing of a session, unless it is claimed already; gives the stage that it left. -/
def claim? (session : Session) (reason : CloseReason) : Option (SessionStage × Session) :=
  match session.stage with
  | .opening | .open =>
    some (session.stage,
      { session with stage := .draining, reason := session.reason <|> some reason,
                     cancelled := true })
  | .draining | .terminated => none

/-- The session opened, if it is still opening. -/
def opened? (session : Session) : Option Session :=
  match session.stage with
  | .opening => some { session with stage := .open }
  | _ => none

/-- Ends a session. -/
def terminate (session : Session) : Session :=
  { session with stage := .terminated }

/-- Keeps the error that closed a session; the first one stays. -/
def keepFault (session : Session) (fault : StreamFault) : Session :=
  { session with failure := session.failure <|> some fault }

/-- Notes a sign of life. -/
def refresh (session : Session) (now : Nat) : Session :=
  { session with lastActivity := now }

/-- Notes a successful write. -/
def noteWrite (session : Session) (now : Nat) : Session :=
  { session with written := session.written + 1, lastActivity := now }

/-- The time since the last sign of life. -/
def silence (session : Session) (now : Nat) : Duration := .ofMillis (now - session.lastActivity)

/-- The time since the session began. -/
def lifetime (session : Session) (now : Nat) : Duration := .ofMillis (now - session.openedAt)

/-- The reason for which the tasks of a session stop. -/
def statedReason (session : Session) : CloseReason := session.reason.getD .explicit

/-- The JSON summary of a session. -/
def json (session : Session) : Json :=
  .object [
    ("id", .str session.id.hyphenated),
    ("topic", session.topic.json),
    ("state", .str session.stage.name),
    ("queued", .nat session.outbox.length),
    ("dropped", .nat session.dropped),
    ("written", .nat session.written),
    ("degraded", .bool session.isLagging)]

/-- The form of a session in diagnostics. -/
def debugText (session : Session) : String :=
  "Session \x7b id: SessionId(" ++ session.id.hyphenated ++ "), topic: " ++
    session.topic.debugText ++ ", state: " ++ session.stage.debugText ++ ", .. \x7d"

end Session

end LiveCounter
