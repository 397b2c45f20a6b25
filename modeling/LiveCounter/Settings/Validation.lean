import LiveCounter.Settings.Basic

/-!
# Valid settings

Settings that parse may still contradict themselves. They are checked in a fixed order, and the
first fault is the one that is reported.
-/

namespace LiveCounter

/-- What makes settings unusable. -/
inductive SettingsFault where
  | noQueue
  | noConnections
  | noDrops
  | noPeriod
  | idleBelowDetection (idle detection : UInt64)
  | keepaliveNotBelowIdle (keepalive idle : UInt64)
  deriving DecidableEq, Repr

/-- The wording of a fault. -/
def SettingsFault.message : SettingsFault → String
  | .noQueue => "stream.queueCapacity must be at least 1"
  | .noConnections => "stream.maxConnections must be at least 1"
  | .noDrops => "stream.maxConsecutiveDrops must be at least 1"
  | .noPeriod => "stream.detectionIntervalMs and stream.writeTimeoutMs must be positive"
  | .idleBelowDetection idle detection =>
    "stream.idleTimeoutMs (" ++ toString idle.toNat ++
      ") must not be shorter than stream.detectionIntervalMs (" ++ toString detection.toNat ++ ")"
  | .keepaliveNotBelowIdle keepalive idle =>
    "stream.keepaliveIntervalMs (" ++ toString keepalive.toNat ++
      ") must be shorter than stream.idleTimeoutMs (" ++ toString idle.toNat ++
      "), or 0 to disable"

/-- The first fault of the settings for streams. -/
def StreamSettings.fault? (stream : StreamSettings) : Option SettingsFault :=
  if stream.queueCapacity = 0 then some .noQueue
  else if stream.maxConnections = 0 then some .noConnections
  else if stream.maxConsecutiveDrops = 0 then some .noDrops
  else if stream.detectionIntervalMs = 0 ∨ stream.writeTimeoutMs = 0 then some .noPeriod
  else if stream.idleTimeoutMs < stream.detectionIntervalMs then
    some (.idleBelowDetection stream.idleTimeoutMs stream.detectionIntervalMs)
  else if stream.keepaliveIntervalMs ≠ 0 ∧ stream.idleTimeoutMs ≤ stream.keepaliveIntervalMs then
    some (.keepaliveNotBelowIdle stream.keepaliveIntervalMs stream.idleTimeoutMs)
  else none

/-- The first fault of the settings; only those for streams can have one. -/
def Settings.fault? (settings : Settings) : Option SettingsFault :=
  settings.stream.fault?

end LiveCounter
