import LiveCounter.Json.Value

/-!
# Health

A short report on whether the server is serving, and how much.
-/

namespace LiveCounter

/-- How the server is. -/
structure Health where
  draining : Bool
  uptimeSecs : Nat
  connections : Nat
  counters : Nat
  deriving DecidableEq, Repr

/-- The JSON form of a report. -/
def Health.json (health : Health) : Json :=
  .object [
    ("status", .str (if health.draining then "draining" else "ok")),
    ("uptime_secs", .nat health.uptimeSecs),
    ("connections", .nat health.connections),
    ("counters", .nat health.counters)]

end LiveCounter
