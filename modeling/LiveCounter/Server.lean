import LiveCounter.Counter.Store
import LiveCounter.Health
import LiveCounter.Hub.Stopping

/-!
# The server

A server keeps counters and streams their changes. It stops in two phases: it closes all streams and
waits for their tasks, and then it waits for the tasks that it was given besides; each phase has the
whole timeout.
-/

namespace LiveCounter

/-- A server. -/
structure Server where
  hub : Hub
  counters : CounterStore := {}
  /-- The signal to stop has been given. -/
  stopping : Bool := false
  /-- Metrics are collected for operators. -/
  servesMetrics : Bool := false

namespace Server

/-- A new server. -/
def new (policy : StreamPolicy) : Server := { hub := .new policy }

/-- Reports something. -/
def log (server : Server) (level : LogLevel) (message : String) (fields : List (String × Json)) :
    Server :=
  { server with hub := server.hub.log level message fields }

/-- Publishes the value of a counter. -/
def publish (server : Server) (topic : Topic) (value : Int64) : Server :=
  { server with hub := (server.hub.publish ⟨topic, value⟩).2 }

/-- How the server is. -/
def health (server : Server) (uptimeSecs : Nat) : Health where
  draining := server.stopping
  uptimeSecs
  connections := server.hub.active
  counters := server.counters.size

/-- Gives the signal to stop. -/
def cancel (server : Server) : Server := { server with stopping := true }

/-- Waits for tasks that take so many milliseconds each, but no longer than the timeout; says
whether they have ended. A task that ends when the timeout runs out comes too late, and a timeout of
zero gives up on any task. -/
def awaitHandles (server : Server) (tasks : List Nat) (timeout : Duration) : Bool × Server :=
  let longest := tasks.foldl max 0
  let patience := server.hub.deadline timeout - server.hub.now
  if tasks.isEmpty then (true, server)
  else if patience = 0 then (false, server)
  else
    (longest < patience,
      { server with hub := server.hub.advance (min longest patience) })

/-- Stops the server: gives the signal, closes all streams, and waits for the given tasks. -/
def stopGracefully (server : Server) (tasks : List Nat) (timeout : Duration) :
    StopReport × Server :=
  let server := server.cancel
  let (report, hub) := server.hub.stop timeout
  let server := { server with hub }.log .info "waiting for server tasks to complete"
    [("task_count", .nat tasks.length),
      ("timeout_ms", .nat (min timeout.millis ((1 <<< 64) - 1)))]
  let (ended, server) := server.awaitHandles tasks timeout
  if ended then (report, server)
  else
    (report, server.log .warn
      ("shutdown timed out after " ++ timeout.text ++
        ", some tasks may still be running") [])

end Server

end LiveCounter
