import LiveCounter.Settings.Basic
import LiveCounter.Text.Decimal

/-!
# Settings from the environment

Variables of the environment override single settings. A variable that does not denote a value of
its setting, or one out of range, leaves the setting alone and raises a warning; texts that are
empty count as absent. The variables are looked at in a fixed order, each of them once.
-/

namespace LiveCounter

/-- The value of each variable that is set. -/
abbrev Environment := String → Option String

/-- A variable that was ignored. -/
structure OverrideWarning where
  key : String
  value : String
  message : String
  deriving DecidableEq, Repr

/-- One variable and what its value does to the settings. -/
structure Override where
  key : String
  /-- The new settings, or why the value is ignored. -/
  apply : String → Settings → Except String Settings

namespace Override

/-- A variable that holds any text but the empty one. -/
def text (key : String) (set : String → Settings → Settings) : Override where
  key
  apply value settings := .ok (if value.isEmpty then settings else set value settings)

/-- A variable that holds a number of `bits` bits between two bounds, under the name of its type. -/
def number (key type : String) (bits lo hi : Nat) (set : Nat → Settings → Settings) : Override where
  key
  apply value settings :=
    match Decimal.natInRange? bits lo hi value with
    | some n => .ok (set n settings)
    | none => .error ("invalid " ++ type ++ " env var, ignoring")

/-- A variable that holds a number for the listener. -/
def server (key type : String) (bits lo hi : Nat) (set : Nat → ServerSettings → ServerSettings) :
    Override :=
  number key type bits lo hi fun n settings => { settings with server := set n settings.server }

/-- A variable that holds a number for the streams. -/
def stream (key type : String) (lo hi : Nat) (set : Nat → StreamSettings → StreamSettings) :
    Override :=
  number key type 64 lo hi fun n settings => { settings with stream := set n settings.stream }

/-- A variable that holds a log format. -/
def format (key : String) : Override where
  key
  apply value settings :=
    if value.isEmpty then .ok settings
    else match LogFormat.parse? value with
      | some format => .ok { settings with logging := { settings.logging with format } }
      | none => .error "invalid log format, ignoring"

/-- All variables, in the order in which they are looked at. -/
def all : List Override := [
  text "TALLY_HOST" fun host settings => { settings with server := { settings.server with host } },
  server "TALLY_PORT" "u16" 16 0 65535 fun n part => { part with port := .ofNat n },
  server "TALLY_SHUTDOWN_TIMEOUT_MS" "u64" 64 100 600000 fun n part =>
    { part with shutdownTimeoutMs := .ofNat n },
  stream "TALLY_MAX_CONNECTIONS" "usize" 1 10000000 fun n part =>
    { part with maxConnections := .ofNat n },
  stream "TALLY_QUEUE_CAPACITY" "usize" 1 65536 fun n part =>
    { part with queueCapacity := .ofNat n },
  stream "TALLY_MAX_CONSECUTIVE_DROPS" "u64" 1 1000000 fun n part =>
    { part with maxConsecutiveDrops := .ofNat n },
  stream "TALLY_IDLE_TIMEOUT_MS" "u64" 100 86400000 fun n part =>
    { part with idleTimeoutMs := .ofNat n },
  stream "TALLY_DETECTION_INTERVAL_MS" "u64" 10 600000 fun n part =>
    { part with detectionIntervalMs := .ofNat n },
  stream "TALLY_KEEPALIVE_INTERVAL_MS" "u64" 0 3600000 fun n part =>
    { part with keepaliveIntervalMs := .ofNat n },
  stream "TALLY_WRITE_TIMEOUT_MS" "u64" 10 600000 fun n part =>
    { part with writeTimeoutMs := .ofNat n },
  text "TALLY_LOG_LEVEL" fun level settings =>
    { settings with logging := { settings.logging with level } },
  format "TALLY_LOG_FORMAT"]

/-- Applies one variable, if it is set. -/
def step (environment : Environment) (sofar : Settings × List OverrideWarning) (entry : Override) :
    Settings × List OverrideWarning :=
  match environment entry.key with
  | none => sofar
  | some value =>
    match entry.apply value sofar.1 with
    | .ok settings => (settings, sofar.2)
    | .error message => (sofar.1, sofar.2 ++ [⟨entry.key, value, message⟩])

end Override

/-- The settings after all variables, with the warnings in the order in which they arose. -/
def Settings.override (settings : Settings) (environment : Environment) :
    Settings × List OverrideWarning :=
  Override.all.foldl (Override.step environment) (settings, [])

end LiveCounter
