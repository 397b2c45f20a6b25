import LiveCounter.Http.Listener
import LiveCounter.Program.Options
import LiveCounter.Server
import LiveCounter.Server.Setup

/-!
# Running the program

A run loads the settings, lets the options override them, starts to listen, and in the end stops the
server. A run that fails tells at which of these points it failed, and the chain of causes.
-/

namespace LiveCounter

/-- Why a run has failed: where, and the causes from the nearest to the last. -/
structure Failure where
  context : String
  causes : List String
  deriving DecidableEq, Repr

namespace Failure

/-- Puts a mark before the first line of a text and blanks before the others. -/
def indented (mark blanks text : String) : List String :=
  match text.splitOn "\n" with
  | [] => []
  | first :: rest => (mark ++ first) :: rest.map (blanks ++ ·)

/-- The causes of a failure; they are numbered when there are several. -/
def causeLines : List String → List String
  | [cause] => indented "    " "    " cause
  | causes => causes.zipIdx.flatMap fun (cause, n) =>
    indented ("    " ++ toString n ++ ": ") "       " cause

/-- The report of a failure. -/
def lines (failure : Failure) : List String :=
  ("Error: " ++ failure.context) ::
    (if failure.causes.isEmpty then [] else "" :: "Caused by:" :: causeLines failure.causes)

end Failure

/-- A malformed text in words. -/
def Json.Fault.message : Json.Fault → String
  | .endOfText => "the text ends too early"
  | .malformed => "the text is malformed"
  | .mismatch message => message

/-- The causes behind settings that cannot be loaded. -/
def LoadFault.causes (fault : LoadFault) : List String :=
  match fault with
  | .unreadable cause => [fault.message, cause.message]
  | .json cause => [fault.message, cause.message]
  | .invalid _ => [fault.message]

/-- A server that listens. -/
structure Running where
  setup : ServerSetup
  logging : LoggingSettings
  socket : Http.Socket
  server : Server

namespace Program

/-- The settings of a run: the file and the environment, and over them the options. The file is the
one at the path that the options and the home directory give. -/
def settings (options : Options) (home : Option String) (file : SettingsFile)
    (environment : Environment) : Except Failure Settings :=
  match (Settings.load file environment).1 with
  | .ok settings => .ok (options.applyTo settings)
  | .error fault =>
    .error ⟨"Failed to load settings from " ++ options.filePath home, fault.causes⟩

/-- Starts a server, which serves metrics. -/
def start (settings : Settings) (sockets : Http.Sockets) : Except Failure Running :=
  let setup := ServerSetup.ofSettings settings
  match sockets.bind setup.host setup.port with
  | .error fault => .error ⟨"Failed to bind server", [fault.message]⟩
  | .ok (socket, _) =>
    .ok {
      setup, socket
      logging := settings.logging
      server := { Server.new setup.stream with servesMetrics := true } }

end Program

namespace Running

/-- The record of a server that has started. -/
def greeting (running : Running) : LogRecord where
  level := .info
  message := "Tally listening on http://" ++ running.socket.text
  fields := [("max_connections", .nat running.setup.stream.maxConnections)]

/-- Stops the server. Besides the streams it waits for the listener, which ends at once. -/
def stop (running : Running) : StopReport × Server :=
  running.server.stopGracefully [0] running.setup.shutdownTimeout

/-- The record of a server that has stopped. -/
def farewell (report : StopReport) : LogRecord where
  level := .info
  message := "Shutdown complete"
  fields := report.fields

end Running

end LiveCounter
