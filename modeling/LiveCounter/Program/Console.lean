import LiveCounter.Http.Handler
import LiveCounter.Log.Line
import LiveCounter.Program.Run

/-!
# The console

Requests to a running server, written as lines. A line holds a method and a target. It is answered
with the lines of the response, of which there are none if the request was cut off; after them stand
the frames that the open streams have received.
-/

namespace LiveCounter

/-- A running server with the streams that its requests have opened. -/
structure Console where
  running : Running
  streams : List Nat := []

namespace Console

/-- The hub of the server. -/
def hub (console : Console) : Hub := console.running.server.hub

/-- Replaces the server. -/
def withServer (console : Console) (server : Server) : Console :=
  { console with running := { console.running with server } }

/-- Replaces the hub of the server. -/
def withHub (console : Console) (hub : Hub) : Console :=
  console.withServer { console.running.server with hub }

/-- Lets time pass until the given instant. -/
def passUntil (console : Console) (now : Nat) : Console :=
  console.withHub (console.hub.advance (now - console.hub.now))

/-- Takes the log records that are to be written. -/
def takeLog (console : Console) : List String × Console :=
  let logging := console.running.logging
  let records := console.hub.journal.reverse.filter (·.isWritten logging.level)
  (records.map (·.line logging.format),
    console.withHub { console.hub with journal := [] })

/-- The lines of a response. -/
def responseLines (response : Http.Response) : List String :=
  toString response.status :: response.headers.map (fun (name, value) => name ++ ": " ++ value) ++
    (match response.body with
    | .text content => if content.isEmpty then [] else ["", content]
    | .stream n => ["", "stream " ++ toString n])

/-- Answers one request. -/
def respond (console : Console) (entropy : Nat) (request : Http.Request) :
    List String × Console :=
  let now := console.hub.now
  let (response, server) := Http.handle console.running.server request {
    sessionId := .fresh now entropy, entropy := entropy >>> 80, uptimeSecs := now / 1000 }
  let console := console.withServer { server with hub := server.hub.settle }
  match response with
  | none => ([], console)
  | some response =>
    match response.body with
    | .text _ => (responseLines response, console)
    | .stream n => (responseLines response, { console with streams := console.streams ++ [n] })

/-- The frames that a stream has received since it was looked at last. -/
def takeFrames (console : Console) (n : Nat) : List String × Console :=
  let (frames, hub) := console.hub.receive n Http.bodyBuffer
  (frames.map fun frame => toString n ++ " " ++ frame.text.trimAsciiEnd.toString,
    console.withHub hub.settle)

/-- The frames that all open streams have received. -/
def takeAllFrames (console : Console) : List String × Console :=
  console.streams.foldl
    (fun (lines, console) n =>
      let (more, console) := console.takeFrames n
      (lines ++ more, console))
    ([], console)

/-- Answers a line that arrives at an instant. -/
def answer (console : Console) (now entropy : Nat) (line : String) : List String × Console :=
  let console := console.passUntil now
  let words := (line.splitOn " ").filter (!·.isEmpty)
  let (lines, console) :=
    match words with
    | [method, target] =>
      match Http.Request.ofTexts? method target with
      | some request => console.respond entropy request
      | none => (["400"], console)
    | _ => (["400"], console)
  let (frames, console) := console.takeAllFrames
  (lines ++ frames, console)

/-- Stops the server, and reports it. -/
def stop (console : Console) : Console :=
  let (report, server) := console.running.stop
  let farewell := Running.farewell report
  console.withServer (server.log farewell.level farewell.message farewell.fields)

end Console

end LiveCounter
