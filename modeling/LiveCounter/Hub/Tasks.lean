import LiveCounter.Hub.Publishing

/-!
# The tasks of a hub

Each session has up to two tasks, its watch and its writer. A poll runs one task until it has to
wait. Settling polls tasks until none of them can go on before time passes. When time passes, each
timer takes effect at its own instant, so the clock stops at every instant at which a timer is due
and the tasks settle there.

A poll finds out for itself what there is to do. The permits by which an outbox wakes a writer are
not kept: a task may be polled at any time, and has settled when a poll of it would change nothing,
whether or not something has woken it.
-/

namespace LiveCounter

namespace Connection

/-- The clock as the tasks of a connection see it. -/
def clock (connection : Connection) (now : Nat) : Clock := ⟨now, connection.timersSet⟩

/-- The timers for which the writer waits. -/
def writerTimers (connection : Connection) : List Timer :=
  match connection.service with
  | some service => Writer.timers service.phase
  | none => []

/-- The timers for which the tasks wait. -/
def timers (connection : Connection) : List Timer :=
  connection.watch.timers ++ connection.writerTimers

/-- The number of the earliest-set timer that is due. -/
def firstDue? (now : Nat) (timers : List Timer) : Option Nat :=
  (timers.filter (·.isDue now)).foldl
    (fun least timer => some (least.elim timer.number (min timer.number))) none

/-- Whether the writer is woken before the watch. -/
def writerFirst (connection : Connection) (now : Nat) : Bool :=
  match firstDue? now connection.writerTimers, firstDue? now connection.watch.timers with
  | some writer, some watch => writer < watch
  | _, _ => false

end Connection

namespace Hub

/-- Runs the watch of a session until it has to wait. -/
def pollWatch (hub : Hub) (n : Nat) : Hub :=
  match hub.connections[n]? with
  | none => hub
  | some connection =>
    let session := connection.session
    let clock := connection.clock hub.now
    let (finding, watch, clock) := connection.watch.run hub.policy session clock
    let hub := hub.modify n fun connection => { connection with watch, timersSet := clock.next }
    match finding with
    | .alive | .cancelled => hub
    | .silent =>
      let silence := session.silence hub.now
      let hub := hub.log .warn "session idle, closing"
        (topicFields session.id session.topic ++ [("idle_ms", .nat silence.millis)])
      (hub.closeFor n (.idleTimeout silence)).2

/-- Closes the session of a writer that has ended, if it is not closed yet. -/
def endWriter (hub : Hub) (n : Nat) : WriterExit → Hub
  | .orderly reason =>
    ((hub.log .debug "session worker exiting" [("reason", .str reason.label)]).close n reason).2
  | .failed fault =>
    let hub := hub.log .warn "write failed, closing session" [("error", .str fault.message)]
    let hub := (hub.closeFor n (.transport fault)).2
    let reason := CloseReason.transportError
    ((hub.log .debug "session worker exiting" [("reason", .str reason.label)]).close n reason).2
  | .panicked => (hub.close n .aborted).2

/-- Runs the writer of a session until it has to wait. -/
def pollWriter (hub : Hub) (n : Nat) : Hub :=
  match hub.connections[n]? with
  | none => hub
  | some connection =>
    match connection.service with
    | none => hub
    | some service =>
      let (run, desk) := Writer.run hub.policy service.phase
        { session := connection.session, client := service.client
          clock := connection.clock hub.now }
      let store (phase : Phase) : Hub :=
        hub.modify n fun connection =>
          { connection with
            session := desk.session
            service := some { phase, client := desk.client }
            timersSet := desk.clock.next }
      match run with
      | .suspended phase => store phase
      | .exited exit => (store .ended).endWriter n exit

/-- Polls the tasks of a session until none of them can go on: the one that is woken first, the
other one, and then the first again, for the other may have closed the session. -/
def settleOne (hub : Hub) (n : Nat) : Hub :=
  let writerFirst : Bool :=
    match hub.connections[n]? with
    | some connection => connection.writerFirst hub.now
    | none => false
  if writerFirst then ((hub.pollWriter n).pollWatch n).pollWriter n
  else ((hub.pollWatch n).pollWriter n).pollWatch n

/-- Polls all tasks until none of them can go on before time passes. -/
def settle (hub : Hub) : Hub :=
  (List.range hub.connections.length).foldl settleOne hub

/-- A poll of a watch takes no time. -/
@[simp] theorem now_pollWatch (hub : Hub) (n : Nat) : (hub.pollWatch n).now = hub.now := by
  unfold pollWatch
  split
  · rfl
  · simp only
    split <;> simp

/-- The end of a writer takes no time. -/
@[simp] theorem now_endWriter (hub : Hub) (n : Nat) (exit : WriterExit) :
    (hub.endWriter n exit).now = hub.now := by
  cases exit <;> simp [endWriter]

/-- A poll of a writer takes no time. -/
@[simp] theorem now_pollWriter (hub : Hub) (n : Nat) : (hub.pollWriter n).now = hub.now := by
  unfold pollWriter
  split
  · rfl
  · split
    · rfl
    · simp only
      split <;> simp

/-- Letting the tasks of one session settle takes no time. -/
@[simp] theorem now_settleOne (hub : Hub) (n : Nat) : (hub.settleOne n).now = hub.now := by
  simp only [settleOne]
  split <;> split <;> simp_all

/-- Settling takes no time. -/
@[simp] theorem now_settle (hub : Hub) : hub.settle.now = hub.now := by
  suffices ∀ (ns : List Nat) (hub : Hub), (ns.foldl settleOne hub).now = hub.now from this _ hub
  intro ns
  induction ns with
  | nil => intro hub; rfl
  | cons n ns ih => intro hub; simp [ih]

/-- The next instant at which a timer is due. -/
def nextDue? (hub : Hub) : Option Nat :=
  (hub.connections.flatMap (·.timers)).foldl
    (fun least timer => some (least.elim timer.due (min timer.due))) none

/-- Lets time pass until the given instant, or until an instant at which `done` holds after the
tasks have settled. -/
def runUntil (target : Nat) (done : Hub → Bool) (hub : Hub) : Hub :=
  if done hub ∨ target ≤ hub.now then hub
  else
    let next := max (hub.now + 1) (hub.nextDue?.elim target (min target))
    runUntil target done { hub with now := next }.settle
termination_by target - hub.now
decreasing_by
  simp only [now_settle]
  omega

/-- Lets the tasks settle, and then lets so many milliseconds pass. -/
def advance (hub : Hub) (millis : Nat) : Hub :=
  runUntil (hub.now + millis) (fun _ => false) hub.settle

end Hub

end LiveCounter
