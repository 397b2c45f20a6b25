import LiveCounter.Stream.Policy
import LiveCounter.Stream.Session
import LiveCounter.Time.Timer

/-!
# Idle watches

A watch looks at a session when it first runs and then once in every detection interval, until the
session is cancelled or found silent for too long. A watch that comes late by more than five
milliseconds starts its rhythm anew, otherwise it keeps it.
-/

namespace LiveCounter

/-- How far a watch has come. -/
inductive Watch where
  /-- The session is not watched. -/
  | absent
  /-- The watch has not run yet. -/
  | spawned
  /-- The watch waits for its next look. -/
  | ticking (timer : Timer)
  | ended
  deriving DecidableEq, Repr

/-- What a run of a watch comes to. -/
inductive Finding where
  /-- Nothing is to be done yet. -/
  | alive
  /-- The session is closing for some other reason. -/
  | cancelled
  | silent
  deriving DecidableEq, Repr

namespace Watch

/-- The delay that a watch makes up for. -/
def patience : Duration := .ofMillis 5

/-- The first instant after the present that belongs to a rhythm. -/
def nextLook (interval : Duration) (clock : Clock) (last : Duration) : Duration :=
  if last + patience < clock.instant ∨ Clock.overflows interval then
    clock.after clock.instant interval
  else
    let missed := (clock.instant.nanos - last.nanos) / interval.nanos
    ⟨last.nanos + (missed + 1) * interval.nanos⟩

/-- Looks at a session. -/
def look (policy : StreamPolicy) (session : Session) (clock : Clock) (last : Duration) :
    Finding × Watch × Clock :=
  if policy.idleTimeout ≤ session.silence clock.now then (.silent, .ended, clock)
  else
    let (timer, clock) := clock.setAt (nextLook policy.detectionInterval clock last)
    (.alive, .ticking timer, clock)

/-- Runs a watch until it has to wait or to stop. -/
def run (policy : StreamPolicy) (watch : Watch) (session : Session) (clock : Clock) :
    Finding × Watch × Clock :=
  match watch with
  | .absent | .ended => (.alive, watch, clock)
  | .spawned =>
    if session.cancelled then (.cancelled, .ended, clock)
    else look policy session clock clock.instant
  | .ticking timer =>
    if session.cancelled then (.cancelled, .ended, clock)
    else if timer.isDue clock.now then look policy session clock timer.instant
    else (.alive, watch, clock)

/-- The timers that a watch waits for. -/
def timers : Watch → List Timer
  | .ticking timer => [timer]
  | _ => []

/-- Whether a watch has not ended. -/
def isPending : Watch → Bool
  | .spawned | .ticking _ => true
  | .absent | .ended => false

end Watch

end LiveCounter
