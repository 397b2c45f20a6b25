import LiveCounter.Stream.Policy

/-!
# Setting up a server

The settings of a server in the form in which it uses them.
-/

namespace LiveCounter

/-- How a server is set up. -/
structure ServerSetup where
  host : String
  port : UInt16
  shutdownTimeout : Duration
  stream : StreamPolicy
  deriving DecidableEq, Repr

namespace ServerSetup

/-- The setup that settings describe. -/
def ofSettings (settings : Settings) : ServerSetup where
  host := settings.server.host
  port := settings.server.port
  shutdownTimeout := .ofMillis settings.server.shutdownTimeoutMs.toNat
  stream := .ofSettings settings.stream

/-- The setup of the default settings. -/
def default : ServerSetup := ofSettings {}

/-- The JSON form of a setup. -/
def json (setup : ServerSetup) : Json :=
  .object [
    ("host", .str setup.host),
    ("port", .nat setup.port.toNat),
    ("shutdown_timeout", setup.shutdownTimeout.json),
    ("stream", setup.stream.json)]

end ServerSetup

end LiveCounter
