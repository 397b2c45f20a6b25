import LiveCounter.Hub.Tasks

/-!
# Stopping the hub

A hub that stops admits no more sessions, closes the live ones, and waits for their tasks.
-/

namespace LiveCounter

/-- What the hub achieved by stopping. -/
structure StopReport where
  closed : Nat
  /-- All tasks have ended in time. -/
  drained : Bool
  remainingTasks : Nat
  deriving DecidableEq, Repr

/-- A report as fields. -/
def StopReport.fields (report : StopReport) : List (String × Json) := [
  ("closed", .nat report.closed),
  ("drained", .bool report.drained),
  ("remaining_tasks", .nat report.remainingTasks)]

/-- The JSON form of a report. -/
def StopReport.json (report : StopReport) : Json := .object report.fields

namespace Hub

/-- Stops admitting sessions. -/
def beginStop (hub : Hub) : Hub := { hub with stopping := true }

/-- Closes all live sessions, and counts them. -/
def sweep (hub : Hub) : Nat × Hub :=
  let hub := hub.log .info "closing all streams for shutdown" [("sessions", .nat hub.table.length)]
  closeEach (fun hub n => hub.close n .shutdown) hub.table hub

/-- The millisecond at which a wait ends that begins now and may take the given time. -/
def deadline (hub : Hub) (timeout : Duration) : Nat :=
  let clock : Clock := { now := hub.now, next := 0 }
  (clock.set timeout).1.due

/-- Waits for all tasks to end, but no longer than the given time. Without any time to wait, no task
gets to run. -/
def awaitTasks (hub : Hub) (timeout : Duration) : Hub :=
  let deadline := hub.deadline timeout
  if deadline ≤ hub.now then hub
  else runUntil deadline (fun hub => hub.liveTasks == 0) hub.settle

/-- Stops admitting sessions, closes all live ones, and waits for their tasks for at most the given
time. -/
def stop (hub : Hub) (timeout : Duration) : StopReport × Hub :=
  let (closed, hub) := hub.beginStop.sweep
  let hub := if hub.liveTasks = 0 then hub else hub.awaitTasks timeout
  let remainingTasks := hub.liveTasks
  let hub :=
    if remainingTasks = 0 then
      hub.log .info "stream shutdown complete" [("closed", .nat closed)]
    else
      hub.log .warn ("stream shutdown timed out after " ++ timeout.text)
        [("closed", .nat closed), ("remaining_tasks", .nat remainingTasks)]
  (⟨closed, remainingTasks = 0, remainingTasks⟩, hub)

end Hub

end LiveCounter
