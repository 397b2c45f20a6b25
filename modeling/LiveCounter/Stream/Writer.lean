import LiveCounter.Stream.Client
import LiveCounter.Stream.Policy
import LiveCounter.Stream.Session
import LiveCounter.Time.Timer

/-!
# Writers

A writer takes the events of a session from its outbox and writes them to the client, one at a time.
When nothing has been written for the keepalive period it writes a keepalive. It stops when the
session is cancelled, when the client has gone, when the outbox is released, and when a write fails
or takes too long; it looks for these causes in this order.

A writer runs until it has to wait. What it waits for is its phase: the next event, or the end of a
write.
-/

namespace LiveCounter

/-- What the write at hand waits for. -/
inductive WriteWait where
  /-- The end of the client's delay. -/
  | delay (timer : Timer)
  /-- Room in the client's buffer, or nothing at all. -/
  | client
  deriving DecidableEq, Repr

/-- Whether the client may react to the write by now. -/
def WriteWait.isOver (now : Nat) : WriteWait → Bool
  | .delay timer => timer.isDue now
  | .client => true

/-- A write that has begun and not ended. -/
structure Write where
  frame : Frame
  wait : WriteWait
  /-- When the write is given up. -/
  deadline : Timer
  /-- When the write began, in milliseconds of the clock. -/
  began : Nat
  deriving DecidableEq, Repr

/-- What a writer waits for. -/
inductive Phase where
  /-- Its first run. -/
  | spawned
  /-- An event, or the time for a keepalive. -/
  | waiting (keepalive : Option Timer)
  | writing (write : Write)
  | ended
  deriving DecidableEq, Repr

/-- How a writer ends. -/
inductive WriterExit where
  | orderly (reason : CloseReason)
  | failed (fault : TransportFault)
  | panicked
  deriving DecidableEq, Repr

/-- What a run of a writer comes to. -/
inductive Run where
  | suspended (phase : Phase)
  | exited (exit : WriterExit)
  deriving DecidableEq, Repr

/-- What a writer works with. -/
structure Desk where
  session : Session
  client : Client
  clock : Clock

namespace Writer

/-- Sets the timer for the next keepalive. -/
def armKeepalive (policy : StreamPolicy) (desk : Desk) : Option Timer × Desk :=
  match policy.keepaliveInterval with
  | none => (none, desk)
  | some period =>
    let (timer, clock) := desk.clock.set period
    (some timer, { desk with clock })

/-- What a writer does next. -/
inductive Task where
  | stop (reason : CloseReason)
  | write (frame : Frame)
  | wait
  deriving DecidableEq, Repr

/-- Chooses what to do next, taking an event off the outbox if there is one. -/
def choose (keepalive : Option Timer) (desk : Desk) : Task × Desk :=
  if desk.session.cancelled then (.stop desk.session.statedReason, desk)
  else if desk.client.gone then (.stop .clientClosed, desk)
  else
    match desk.session.outbox.pop with
    | (.released, _) => (.stop desk.session.statedReason, desk)
    | (.event event, outbox) =>
      (.write (.ofEvent event), { desk with session := { desk.session with outbox } })
    | (.pending, _) =>
      match keepalive with
      | some timer =>
        if timer.isDue desk.clock.now then (.write .keepalive, desk) else (.wait, desk)
      | none => (.wait, desk)

/-- What one step of a write means for the run: go on with the next frame, or stop running. -/
inductive Progress where
  | written
  | halted (run : Run)
  deriving DecidableEq, Repr

/-- Begins to write a frame. -/
def beginWrite (policy : StreamPolicy) (frame : Frame) (desk : Desk) : Progress × Desk :=
  let began := desk.clock.now
  let (step, client) := desk.client.beginWrite began frame
  let desk := { desk with client }
  match step with
  | .accepted => (.written, { desk with session := desk.session.noteWrite began })
  | .refused fault => (.halted (.exited (.failed fault)), desk)
  | .panicked => (.halted (.exited .panicked), desk)
  | .delayed millis =>
    let (timer, clock) := desk.clock.set (.ofMillis millis)
    let (deadline, clock) := clock.set policy.writeTimeout
    (.halted (.suspended (.writing { frame, wait := .delay timer, deadline, began })),
      { desk with clock })
  | .stuck =>
    let (deadline, clock) := desk.clock.set policy.writeTimeout
    (.halted (.suspended (.writing { frame, wait := .client, deadline, began })),
      { desk with clock })

/-- Goes on with a write. The client is asked before the deadline is looked at, so a write that
ends at its deadline still succeeds. -/
def resumeWrite (policy : StreamPolicy) (write : Write) (desk : Desk) : Progress × Desk :=
  let now := desk.clock.now
  let elapsed := write.wait.isOver now
  let (step, client) :=
    match write.wait with
    | .delay _ => if elapsed then desk.client.endDelay now write.frame else (.stuck, desk.client)
    | .client => desk.client.retry now write.frame
  let desk := { desk with client }
  match step with
  | .accepted => (.written, { desk with session := desk.session.noteWrite now })
  | .refused fault => (.halted (.exited (.failed fault)), desk)
  | .panicked => (.halted (.exited .panicked), desk)
  | .delayed _ | .stuck =>
    if write.deadline.isDue now then
      (.halted (.exited (.failed (.timeout policy.writeTimeout))), desk)
    else
      let wait := if elapsed then .client else write.wait
      (.halted (.suspended (.writing { write with wait })), desk)

/-- Serves the outbox until the writer has to wait or to stop. Each step but the last takes an event
off the outbox or writes the one keepalive that is due. -/
def serve (policy : StreamPolicy) : (steps : Nat) → (keepalive : Option Timer) → Desk → Run × Desk
  | 0, keepalive, desk => (.suspended (.waiting keepalive), desk)
  | steps + 1, keepalive, desk =>
    match choose keepalive desk with
    | (.stop reason, desk) => (.exited (.orderly reason), desk)
    | (.wait, desk) => (.suspended (.waiting keepalive), desk)
    | (.write frame, desk) =>
      match beginWrite policy frame desk with
      | (.halted run, desk) => (run, desk)
      | (.written, desk) =>
        let (keepalive, desk) := armKeepalive policy desk
        serve policy steps keepalive desk

/-- The steps that the outbox can keep a writer busy for: each event, one keepalive, and the step
that finds nothing to do. -/
def enough (desk : Desk) : Nat := desk.session.outbox.length + 2

/-- Runs a writer until it has to wait or to stop. -/
def run (policy : StreamPolicy) (phase : Phase) (desk : Desk) : Run × Desk :=
  match phase with
  | .ended => (.suspended .ended, desk)
  | .spawned =>
    match policy.keepaliveInterval with
    | some period =>
      if Clock.overflows period then (.exited .panicked, desk)
      else
        let (keepalive, desk) := armKeepalive policy desk
        serve policy (enough desk) keepalive desk
    | none => serve policy (enough desk) none desk
  | .waiting keepalive => serve policy (enough desk) keepalive desk
  | .writing write =>
    if desk.session.cancelled then (.exited (.orderly desk.session.statedReason), desk)
    else
      match resumeWrite policy write desk with
      | (.halted run, desk) => (run, desk)
      | (.written, desk) =>
        let (keepalive, desk) := armKeepalive policy desk
        serve policy (enough desk) keepalive desk

/-- The timers that a writer waits for. -/
def timers : Phase → List Timer
  | .spawned | .ended => []
  | .waiting keepalive => keepalive.toList
  | .writing write =>
    match write.wait with
    | .delay timer => [timer, write.deadline]
    | .client => [write.deadline]

end Writer

end LiveCounter
