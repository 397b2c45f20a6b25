import LiveCounter.Log.Record
import LiveCounter.Settings.Basic
import LiveCounter.Time.Duration

/-!
# Stream policies

The settings for streams in the form in which streams use them: lengths of time, and no keepalive
instead of one of length zero. Before use a policy is clamped, so that timers have a positive
period, outboxes have room, and keepalives are sent more often than silence is tolerated.
-/

namespace LiveCounter

/-- How streams are treated. -/
structure StreamPolicy where
  maxConnections : Nat
  queueCapacity : Nat
  maxConsecutiveDrops : UInt32
  /-- The silence after which a session counts as dead. -/
  idleTimeout : Duration
  /-- The time between two looks at a session. -/
  detectionInterval : Duration
  keepaliveInterval : Option Duration
  /-- The longest that a single write may take. -/
  writeTimeout : Duration
  deriving DecidableEq, Repr

namespace StreamPolicy

/-- The policy that the settings for streams describe. -/
def ofSettings (settings : StreamSettings) : StreamPolicy where
  maxConnections := settings.maxConnections.toNat
  queueCapacity := settings.queueCapacity.toNat
  maxConsecutiveDrops := settings.maxConsecutiveDrops
  idleTimeout := .ofMillis settings.idleTimeoutMs.toNat
  detectionInterval := .ofMillis settings.detectionIntervalMs.toNat
  keepaliveInterval :=
    if settings.keepaliveIntervalMs = 0 then none
    else some (.ofMillis settings.keepaliveIntervalMs.toNat)
  writeTimeout := .ofMillis settings.writeTimeoutMs.toNat

/-- The policy of the default settings. -/
def default : StreamPolicy := ofSettings {}

instance : Inhabited StreamPolicy := ⟨default⟩

/-- The shortest period of a timer. -/
def shortestPeriod : Duration := .ofMillis 1

/-- Half the tolerated silence, but no less than the shortest period. -/
def loweredKeepalive (policy : StreamPolicy) : Duration :=
  max policy.idleTimeout.half shortestPeriod

/-- The keepalive period in use, given the wanted one. -/
def usableKeepalive (policy : StreamPolicy) : Option Duration → Option Duration
  | none => none
  | some period =>
    if period = ⟨0⟩ then none
    else if policy.idleTimeout ≤ period then some policy.loweredKeepalive
    else some period

/-- The policy with every value brought into its range. -/
def clamped (policy : StreamPolicy) : StreamPolicy :=
  { policy with
    detectionInterval := max policy.detectionInterval shortestPeriod
    writeTimeout := max policy.writeTimeout shortestPeriod
    queueCapacity := max policy.queueCapacity 1
    maxConsecutiveDrops := max policy.maxConsecutiveDrops 1
    keepaliveInterval := policy.usableKeepalive policy.keepaliveInterval }

/-- What is reported when a policy is clamped. -/
def warnings (policy : StreamPolicy) : List LogRecord :=
  match policy.keepaliveInterval with
  | none => []
  | some period =>
    if period ≠ ⟨0⟩ ∧ policy.idleTimeout ≤ period then
      [{ level := .warn
         message := "keepalive not shorter than idle timeout, lowering"
         fields := [
          ("keepalive", .str period.text),
          ("idle_timeout", .str policy.idleTimeout.text),
          ("lowered", .str policy.loweredKeepalive.text)] }]
    else []

/-- The JSON form of a policy. -/
def json (policy : StreamPolicy) : Json :=
  .object [
    ("max_connections", .nat policy.maxConnections),
    ("queue_capacity", .nat policy.queueCapacity),
    ("max_consecutive_drops", .nat policy.maxConsecutiveDrops.toNat),
    ("idle_timeout", policy.idleTimeout.json),
    ("detection_interval", policy.detectionInterval.json),
    ("keepalive_interval", Json.orNull Duration.json policy.keepaliveInterval),
    ("write_timeout", policy.writeTimeout.json)]

end StreamPolicy

end LiveCounter
