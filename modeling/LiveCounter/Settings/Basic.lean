import LiveCounter.Log.Format
import LiveCounter.Json.Schema

/-!
# Settings

The settings of a server stand in three sections: where it listens, how it treats its streams, and
how it logs. Each field has a default, and the numbers are words of fixed size. The schema gives the
fields in the order in which they stand in an array.
-/

namespace LiveCounter

/-- Where the server listens, and how long it waits for its tasks when it stops. -/
structure ServerSettings where
  host : String := "0.0.0.0"
  port : UInt16 := 8080
  shutdownTimeoutMs : UInt64 := 10000
  deriving DecidableEq, Repr, Inhabited

/-- How the server treats its streams. -/
structure StreamSettings where
  maxConnections : UInt64 := 100000
  queueCapacity : UInt64 := 10
  maxConsecutiveDrops : UInt32 := 32
  idleTimeoutMs : UInt64 := 60000
  detectionIntervalMs : UInt64 := 1000
  /-- Zero turns keepalives off. -/
  keepaliveIntervalMs : UInt64 := 15000
  writeTimeoutMs : UInt64 := 1000
  deriving DecidableEq, Repr, Inhabited

/-- What the server logs, and how. -/
structure LoggingSettings where
  level : String := "info"
  format : LogFormat := .compact
  deriving DecidableEq, Repr

/-- The settings of a server. -/
structure Settings where
  server : ServerSettings := {}
  stream : StreamSettings := {}
  logging : LoggingSettings := {}
  deriving DecidableEq, Repr

open Json (Schema Field)

/-- The schema of the section about the listener. -/
def ServerSettings.schema : Schema ServerSettings :=
  .fields "ServerSettings" {} [
    .of "host" .text fun value part => { part with host := value },
    .of "port" (.word "u16" 16) fun n part => { part with port := .ofNat n },
    .of "shutdownTimeoutMs" (.word "u64" 64) fun n part =>
      { part with shutdownTimeoutMs := .ofNat n }]

/-- The schema of the section about streams. -/
def StreamSettings.schema : Schema StreamSettings :=
  .fields "StreamSettings" {} [
    .of "maxConnections" (.word "usize" 64) fun n part =>
      { part with maxConnections := .ofNat n },
    .of "queueCapacity" (.word "usize" 64) fun n part =>
      { part with queueCapacity := .ofNat n },
    .of "maxConsecutiveDrops" (.word "u32" 32) fun n part =>
      { part with maxConsecutiveDrops := .ofNat n },
    .of "idleTimeoutMs" (.word "u64" 64) fun n part =>
      { part with idleTimeoutMs := .ofNat n },
    .of "detectionIntervalMs" (.word "u64" 64) fun n part =>
      { part with detectionIntervalMs := .ofNat n },
    .of "keepaliveIntervalMs" (.word "u64" 64) fun n part =>
      { part with keepaliveIntervalMs := .ofNat n },
    .of "writeTimeoutMs" (.word "u64" 64) fun n part =>
      { part with writeTimeoutMs := .ofNat n }]

/-- The schema of a log format. -/
def LogFormat.schema : Schema LogFormat :=
  .choice ([.compact, .json].map fun format : LogFormat => (format.name, format))

/-- The schema of the section about logs. -/
def LoggingSettings.schema : Schema LoggingSettings :=
  .fields "LoggingSettings" {} [
    .of "level" .text fun value part => { part with level := value },
    .of "format" LogFormat.schema fun format part => { part with format }]

namespace Settings

/-- The schema of the settings as a whole. -/
def schema : Schema Settings :=
  .fields "TallySettings" {} [
    .of "server" ServerSettings.schema fun server settings => { settings with server },
    .of "stream" StreamSettings.schema fun stream settings => { settings with stream },
    .of "logging" LoggingSettings.schema fun logging settings => { settings with logging }]

/-- The JSON form of the settings. -/
def json (settings : Settings) : Json :=
  let word (n : UInt64) : Json := .nat n.toNat
  .object [
    ("server", .object [
      ("host", .str settings.server.host),
      ("port", .nat settings.server.port.toNat),
      ("shutdownTimeoutMs", word settings.server.shutdownTimeoutMs)]),
    ("stream", .object [
      ("maxConnections", word settings.stream.maxConnections),
      ("queueCapacity", word settings.stream.queueCapacity),
      ("maxConsecutiveDrops", .nat settings.stream.maxConsecutiveDrops.toNat),
      ("idleTimeoutMs", word settings.stream.idleTimeoutMs),
      ("detectionIntervalMs", word settings.stream.detectionIntervalMs),
      ("keepaliveIntervalMs", word settings.stream.keepaliveIntervalMs),
      ("writeTimeoutMs", word settings.stream.writeTimeoutMs)]),
    ("logging", .object [
      ("level", .str settings.logging.level),
      ("format", .str settings.logging.format.name)])]

end Settings

end LiveCounter
