import LiveCounter.Http.Query
import LiveCounter.Http.Response
import LiveCounter.Http.Route
import LiveCounter.Http.Target
import LiveCounter.Server

/-!
# Handling requests

Each request is handled as a whole. A counter that changes is published at once, before the request
is answered; a request that fails changes no counter and publishes nothing. A request whose handling
panics is not answered at all. What a request takes from outside, such as random bits, is handed to
it.
-/

namespace LiveCounter.Http

/-- A request without a body. -/
structure Request where
  method : String
  target : Target
  deriving DecidableEq, Repr

/-- The request of a method and a target; `none` if one of them is malformed. -/
def Request.ofTexts? (method target : String) : Option Request :=
  if isMethod method then (Target.ofText? target).map fun target => ⟨method, target⟩ else none

/-- What a request takes from outside. -/
structure Circumstances where
  /-- The identifier of a session that the request may open. -/
  sessionId : SessionId
  /-- Bits for a random topic. -/
  entropy : Nat
  /-- How long the server has been running. -/
  uptimeSecs : Nat

/-- The answer to a request, and the server after it. There is no answer if the handling of the
request panicked: then its connection is cut off. -/
abbrev Reply := Option Response × Server

/-- The frames that a response body holds back from a slow reader. -/
def bodyBuffer : Nat := 4

/-- The answer that names a value. -/
def valueResponse (value : Int64) : Response :=
  .json 200 (.object [("value", .int value.toInt)])

/-- Goes on with the topic of a path, if it is one. -/
def withTopic (server : Server) (params : Option PathParams) (handle : Topic → Reply) : Reply :=
  match (params.getD ⟨none, ""⟩).topic with
  | .ok topic => handle topic
  | .error fault => (some (Refusal.ofTopic fault).response, server)

/-- Goes on with the result of an operation on a counter, if it succeeded. -/
def withCounter (server : Server) (outcome : CounterStore.Outcome)
    (handle : Int64 → Server → Reply) : Reply :=
  match outcome with
  | (.ok value, counters) => handle value { server with counters }
  | (.error fault, _) => (some (Refusal.ofCounter fault).response, server)

/-- Opens a stream that begins with the present value. -/
def handleStream (server : Server) (topic : Topic) (id : SessionId) : Reply :=
  match server.hub.connect topic id (.buffered bodyBuffer) (server.counters.get? topic) with
  | (.error (.refused fault), hub) =>
    (some (Refusal.ofStream fault).response, { server with hub })
  | (.error .panicked, hub) => (none, { server with hub })
  | (.ok n, hub) =>
    (some (.eventStream n), { server with hub }.log .debug "stream accepted"
      (Hub.topicFields id topic))

/-- Counts a hit. -/
def handleHit (server : Server) (topic : Topic) : Reply :=
  withCounter server (server.counters.hit topic) fun value server =>
    let server := { server with hub := server.hub.count .hits }
    (some (valueResponse value), server.publish topic value)

/-- Tells the value of a counter. -/
def handleGet (server : Server) (topic : Topic) : Reply :=
  match server.counters.get? topic with
  | some value => (some (valueResponse value), server)
  | none => (some (Refusal.ofCounter (.notFound topic)).response, server)

/-- Creates a counter; without a text its first value is zero. -/
def handleCreate (server : Server) (topic : Topic) (initializer : Option String) : Reply :=
  let initial : Option Int64 :=
    match initializer with
    | none | some "" => some 0
    | some text => Decimal.int64? text
  match initial with
  | none => (some (Refusal.mk 400 "initializer must be a number").response, server)
  | some initial =>
    withCounter server (server.counters.create topic initial) fun value server =>
      let server := server.log .info "counter created"
        [("topic", .str topic.name), ("value", .int value.toInt)]
      (some (.json 201 (.object [
          ("namespace", .str topic.space),
          ("key", .str topic.key),
          ("value", .int value.toInt)])),
        server.publish topic value)

/-- Tells about a counter, whether it exists or not. -/
def handleInfo (server : Server) (topic : Topic) : Reply :=
  let value := server.counters.get? topic
  (some (.json 200 (.object [
      ("value", .int (value.elim (-1) (·.toInt))),
      ("full_key", .str topic.name),
      ("exists", .bool value.isSome),
      ("streams", .nat (server.hub.subscriptions.count topic))])),
    server)

/-- Removes a counter, if it exists, and closes the streams of its topic in any case. -/
def handleDelete (server : Server) (topic : Topic) : Reply :=
  let server :=
    match server.counters.delete topic with
    | (.ok _, counters) => { server with counters }
    | (.error _, _) =>
      server.log .debug "delete of missing counter" [("topic", .str topic.name)]
  let (closed, hub) := server.hub.clearTopic topic
  let server := { server with hub }.log .info "counter deleted"
    [("topic", .str topic.name), ("closed", .nat closed)]
  (some (.json 200 (.object [
      ("status", .str "ok"),
      ("message", .str ("Deleted key: " ++ topic.name)),
      ("closed_streams", .nat closed)])),
    server)

/-- The number that the value field of a query holds. -/
def requiredValue : Option String → Except Refusal Int64
  | none | some "" =>
    .error ⟨400, "value is required, please provide a number in the fmt of ?value=NEW_VALUE"⟩
  | some text =>
    match Decimal.int64? text with
    | some value => .ok value
    | none => .error ⟨400, "value must be a number"⟩

/-- Goes on with the number of a query, if it holds one. -/
def withValue (server : Server) (text : Option String) (handle : Int64 → Reply) : Reply :=
  match requiredValue text with
  | .ok value => handle value
  | .error refusal => (some refusal.response, server)

/-- Gives a counter a value. The value is looked at before the topic. -/
def handleSet (server : Server) (params : Option PathParams) (text : Option String) : Reply :=
  withValue server text fun value =>
    withTopic server params fun topic =>
      withCounter server (server.counters.set topic value) fun value server =>
        let server := server.log .info "counter set"
          [("topic", .str topic.name), ("value", .int value.toInt)]
        (some (valueResponse value), server.publish topic value)

/-- Gives a counter the value zero. -/
def handleReset (server : Server) (topic : Topic) : Reply :=
  withCounter server (server.counters.reset topic) fun value server =>
    let server := server.log .info "counter reset" [("topic", .str topic.name)]
    (some (valueResponse value), server.publish topic value)

/-- Adds to a counter. The number is looked at before the topic, and may not be zero. -/
def handleUpdate (server : Server) (params : Option PathParams) (text : Option String) : Reply :=
  withValue server text fun delta =>
    if delta = 0 then
      (some (Refusal.mk 400
        "changing value by 0 does nothing, please provide a non-zero value").response, server)
    else
      withTopic server params fun topic =>
        withCounter server (server.counters.add topic delta) fun value server =>
          let server := server.log .debug "counter updated"
            [("topic", .str topic.name), ("delta", .int delta.toInt), ("value", .int value.toInt)]
          (some (valueResponse value), server.publish topic value)

/-- Serves the metrics to operators, if they are collected. -/
def handleMetrics (server : Server) : Reply :=
  if server.servesMetrics then (some (.plain 200 server.hub.metrics.text), server)
  else
    (some (Refusal.mk 404 "metrics recorder not installed").response,
      server.log .warn "metrics requested but no recorder installed" [])

/-- Handles a request that has found its endpoint, with the field of its query. -/
def respond (server : Server) (endpoint : Endpoint) (params : Option PathParams)
    (field : Option String) (circumstances : Circumstances) : Reply :=
  match endpoint with
  | .stream =>
    withTopic server params fun topic => handleStream server topic circumstances.sessionId
  | .hit => withTopic server params (handleHit server)
  | .get => withTopic server params (handleGet server)
  | .create => withTopic server params fun topic => handleCreate server topic field
  | .createRandom => handleCreate server (.random circumstances.entropy) field
  | .info => withTopic server params (handleInfo server)
  | .delete => withTopic server params (handleDelete server)
  | .set => handleSet server params field
  | .reset => withTopic server params (handleReset server)
  | .update => handleUpdate server params field
  | .stats => (some (.json 200 server.hub.stats.json), server)
  | .health => (some (.json 200 (server.health circumstances.uptimeSecs).json), server)
  | .metrics => handleMetrics server

/-- Reads the path and the query of a request and handles it. A part of the path that cannot be
decoded is reported before a fault of the query. -/
def serve (server : Server) (route : Route) (query : Option String)
    (circumstances : Circumstances) : Reply :=
  let params : Except UndecodablePart (Option PathParams) :=
    match route.params with
    | none => .ok none
    | some params => params.decode.map some
  let field : Except Query.DuplicateField (Option String) :=
    match route.endpoint.queryField? with
    | none => .ok none
    | some name => Query.value? query name
  match params, field with
  | .error fault, _ => (some (.plain 400 fault.message), server)
  | _, .error fault => (some (.plain 400 fault.message), server)
  | .ok params, .ok field => respond server route.endpoint params field circumstances

/-- Takes the body off a response. A stream whose body nobody gets has lost its client. -/
def withoutBody (reply : Reply) : Reply :=
  match reply with
  | (some response, server) =>
    (some { response with body := .text "" },
      match response.body with
      | .text _ => server
      | .stream n => { server with hub := server.hub.loseClient n })
  | (none, server) => (none, server)

/-- The headers that let pages of any origin read a response. -/
def sharedHeaders : List (String × String) := [
  ("access-control-allow-origin", "*"),
  ("vary", "origin, access-control-request-method, access-control-request-headers")]

/-- The headers that allow any request of any origin. -/
def permittingHeaders : List (String × String) := [
  ("access-control-allow-headers", "*"),
  ("access-control-allow-methods", "*")]

/-- Handles a request. -/
def handle (server : Server) (request : Request) (circumstances : Circumstances) : Reply :=
  let route := Route.ofPath? request.target.path
  let allow := route.elim [] fun route => [("allow", route.endpoint.allow)]
  if request.method = "OPTIONS" then
    (some (.empty 200 (allow ++ permittingHeaders ++ sharedHeaders)), server)
  else
    let reply : Reply :=
      match route with
      | none => (some (.empty 404 []), server)
      | some route =>
        if route.endpoint.answers request.method then
          let reply := serve server route request.target.query circumstances
          if request.method = "HEAD" then withoutBody reply else reply
        else (some (.empty 405 allow), server)
    (reply.1.map (·.withHeaders (sharedHeaders ++ [("access-control-expose-headers", "*")])),
      reply.2)

end LiveCounter.Http
