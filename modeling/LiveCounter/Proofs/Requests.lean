import LiveCounter.Http.Handler
import LiveCounter.Proofs.Independence

/-!
# Servers that differ in one session

Two servers are alike but for one session if their hubs are and if they agree in all else. They stay
so when both handle the same request: what a request does to counters and sessions is decided by the
request and the counters. The answers may differ in what they tell about the hub, but a stream that
opens has the same number on both sides.
-/

namespace LiveCounter

namespace Server

/-- The servers are alike but for session `x`. -/
structure Alike (x : Nat) (server server' : Server) : Prop where
  hub : Hub.Alike x server.hub server'.hub
  counters_eq : server.counters = server'.counters
  stopping_eq : server.stopping = server'.stopping
  servesMetrics_eq : server.servesMetrics = server'.servesMetrics

variable {x : Nat} {server server' : Server}

/-- Servers stay alike when hubs that are alike take the place of their own. -/
theorem Alike.withHub (h : Alike x server server') {hub hub' : Hub} (hhub : Hub.Alike x hub hub') :
    Alike x { server with hub } { server' with hub := hub' } :=
  ⟨hhub, h.counters_eq, h.stopping_eq, h.servesMetrics_eq⟩

/-- Different things may be reported on both sides. -/
theorem Alike.log (h : Alike x server server') (level level' : LogLevel) (message message' : String)
    (fields fields' : List (String × Json)) :
    Alike x (server.log level message fields) (server'.log level' message' fields') :=
  h.withHub (h.hub.reports (Hub.reports_log _ _ _ _) (Hub.reports_log _ _ _ _))

/-- Servers stay alike when both publish a value. -/
theorem Alike.publish (h : Alike x server server') (topic : Topic) (value : Int64) :
    Alike x (server.publish topic value) (server'.publish topic value) :=
  h.withHub (h.hub.step (.publish ⟨topic, value⟩) rfl)

/-- Servers stay alike when both are told to stop. -/
theorem Alike.cancel (h : Alike x server server') : Alike x server.cancel server'.cancel :=
  ⟨h.hub, h.counters_eq, rfl, h.servesMetrics_eq⟩

/-- Servers that are alike wait for the same handles with the same result, and stay alike. -/
theorem Alike.awaitHandles (h : Alike x server server') (tasks : List Nat) (timeout : Duration) :
    (server.awaitHandles tasks timeout).1 = (server'.awaitHandles tasks timeout).1 ∧
      Alike x (server.awaitHandles tasks timeout).2 (server'.awaitHandles tasks timeout).2 := by
  simp only [Server.awaitHandles, Hub.deadline_eq, Nat.add_sub_cancel_left]
  split
  · exact ⟨rfl, h⟩
  · split
    · exact ⟨rfl, h⟩
    · exact ⟨rfl, h.withHub (h.hub.advance _)⟩

/-- Servers stay alike when both are stopped gracefully. -/
theorem Alike.stopGracefully (h : Alike x server server') (tasks : List Nat) (timeout : Duration) :
    Alike x (server.stopGracefully tasks timeout).2 (server'.stopGracefully tasks timeout).2 := by
  have hstop := (h.cancel.withHub (h.cancel.hub.stop timeout)).log .info .info
    "waiting for server tasks to complete" "waiting for server tasks to complete"
    [("task_count", .nat tasks.length),
      ("timeout_ms", .nat (min timeout.millis ((1 <<< 64) - 1)))]
    [("task_count", .nat tasks.length),
      ("timeout_ms", .nat (min timeout.millis ((1 <<< 64) - 1)))]
  obtain ⟨hended, hawait⟩ := hstop.awaitHandles tasks timeout
  simp only [Server.stopGracefully]
  rw [hended]
  split
  · exact hawait
  · exact hawait.log _ _ _ _ _ _

end Server

namespace Http

/-- The session that feeds a body. -/
def Body.session? : Body → Option Nat
  | .text _ => none
  | .stream session => some session

/-- The session that feeds the body of the answer, if there is one. -/
def Reply.session? (reply : Reply) : Option Nat := reply.1.bind (·.body.session?)

/-- The session of a stream feeds the body of its answer. -/
theorem Reply.session?_of_body {reply : Reply} {n : Nat}
    (h : reply.1.map (·.body) = some (.stream n)) : reply.session? = some n := by
  obtain ⟨response, hresponse, hbody⟩ := Option.map_eq_some_iff.mp h
  rw [session?, hresponse, Option.bind_some, hbody]
  rfl

/-- The replies leave the servers alike but for session `x`, and open the same stream, if any. -/
structure RepliesAlike (x : Nat) (reply reply' : Reply) : Prop where
  server : reply.2.Alike x reply'.2
  stream : reply.2.hub.Unrefused → reply'.2.hub.Unrefused →
    reply.session? = reply'.session?

variable {x : Nat} {server server' : Server}

/-- Answers that open no stream need not be the same. -/
theorem repliesAlike_of_text (h : server.Alike x server') {response response' : Response}
    (htext : response.body.session? = none) (htext' : response'.body.session? = none) :
    RepliesAlike x (some response, server) (some response', server') :=
  ⟨h, fun _ _ => htext.trans htext'.symm⟩

/-- Replies for a topic are alike if they are so for every topic of the path. -/
theorem repliesAlike_withTopic (h : server.Alike x server') (params : Option PathParams)
    {handle handle' : Topic → Reply}
    (hhandle : ∀ topic, RepliesAlike x (handle topic) (handle' topic)) :
    RepliesAlike x (withTopic server params handle) (withTopic server' params handle') := by
  unfold withTopic
  split
  · exact hhandle _
  · exact repliesAlike_of_text h rfl rfl

/-- Replies to what a counter says are alike if they are so for every value of it. -/
theorem repliesAlike_withCounter (h : server.Alike x server') (outcome : CounterStore.Outcome)
    {handle : Int64 → Server → Reply}
    (hhandle : ∀ value server server', server.Alike x server' →
      RepliesAlike x (handle value server) (handle value server')) :
    RepliesAlike x (withCounter server outcome handle) (withCounter server' outcome handle) := by
  unfold withCounter
  split
  · exact hhandle _ _ _ ⟨h.hub, rfl, h.stopping_eq, h.servesMetrics_eq⟩
  · exact repliesAlike_of_text h rfl rfl

/-- Replies for a value are alike if they are so for every value. -/
theorem repliesAlike_withValue (h : server.Alike x server') (text : Option String)
    {handle handle' : Int64 → Reply}
    (hhandle : ∀ value, RepliesAlike x (handle value) (handle' value)) :
    RepliesAlike x (withValue server text handle) (withValue server' text handle') := by
  unfold withValue
  split
  · exact hhandle _
  · exact repliesAlike_of_text h rfl rfl

/-- A request for a stream comes down to opening one, and the body names it. -/
theorem handleStream_spec (server : Server) (topic : Topic) (id : SessionId) :
    (handleStream server topic id).session? =
        (server.hub.connect topic id (Transport.channel bodyBuffer).client
          (server.counters.get? topic)).1.toOption ∧
      ∃ hub, (server.hub.connect topic id (Transport.channel bodyBuffer).client
          (server.counters.get? topic)).2.Reports hub ∧
        (handleStream server topic id).2 = { server with hub } := by
  have hclient : (Transport.channel bodyBuffer).client = .buffered bodyBuffer := rfl
  rw [hclient]
  unfold handleStream
  split
  · next heq =>
    rw [heq]
    exact ⟨rfl, _, .refl _, rfl⟩
  · next heq =>
    rw [heq]
    exact ⟨rfl, _, .refl _, rfl⟩
  · next heq =>
    rw [heq]
    exact ⟨rfl, _, Hub.reports_log _ _ _ _, rfl⟩

/-- Servers that are alike open the same stream, or refuse alike. -/
theorem repliesAlike_handleStream (h : server.Alike x server') (topic : Topic) (id : SessionId) :
    RepliesAlike x (handleStream server topic id) (handleStream server' topic id) := by
  obtain ⟨hconnect, hanswer⟩ := h.hub.connect topic id (.channel bodyBuffer) (.channel bodyBuffer)
    (server.counters.get? topic) fun _ _ => rfl
  obtain ⟨hbody, hub, hreports, hserver⟩ := handleStream_spec server topic id
  obtain ⟨hbody', hub', hreports', hserver'⟩ := handleStream_spec server' topic id
  rw [← h.counters_eq] at hbody' hreports'
  refine ⟨?_, fun hunrefused hunrefused' => ?_⟩
  · rw [hserver, hserver']
    exact h.withHub (hconnect.reports hreports hreports')
  · rw [hserver] at hunrefused
    rw [hserver'] at hunrefused'
    rw [hbody, hbody', hanswer (hunrefused.of_reports hreports) (hunrefused'.of_reports hreports')]

/-- Servers that are alike answer a hit alike. -/
theorem repliesAlike_handleHit (h : server.Alike x server') (topic : Topic) :
    RepliesAlike x (handleHit server topic) (handleHit server' topic) := by
  unfold handleHit
  rw [h.counters_eq]
  apply repliesAlike_withCounter h
  intro value first second hboth
  exact repliesAlike_of_text
    ((hboth.withHub (hboth.hub.step .countHit rfl)).publish topic value) rfl rfl

/-- Servers that are alike have the same counters to look at. -/
theorem repliesAlike_handleGet (h : server.Alike x server') (topic : Topic) :
    RepliesAlike x (handleGet server topic) (handleGet server' topic) := by
  unfold handleGet
  rw [h.counters_eq]
  split
  · exact repliesAlike_of_text h rfl rfl
  · exact repliesAlike_of_text h rfl rfl

/-- A counter that has a new value: this is reported, and the value is published. -/
theorem repliesAlike_handleCreate (h : server.Alike x server') (topic : Topic)
    (initializer : Option String) :
    RepliesAlike x (handleCreate server topic initializer)
      (handleCreate server' topic initializer) := by
  simp only [handleCreate]
  rw [h.counters_eq]
  split
  · exact repliesAlike_of_text h rfl rfl
  · apply repliesAlike_withCounter h
    intro value first second hboth
    exact repliesAlike_of_text ((hboth.log _ _ _ _ _ _).publish topic value) rfl rfl

/-- Servers that are alike tell the same of a counter. -/
theorem repliesAlike_handleInfo (h : server.Alike x server') (topic : Topic) :
    RepliesAlike x (handleInfo server topic) (handleInfo server' topic) :=
  repliesAlike_of_text h rfl rfl

/-- Servers that are alike delete a counter alike. -/
theorem repliesAlike_handleDelete (h : server.Alike x server') (topic : Topic) :
    RepliesAlike x (handleDelete server topic) (handleDelete server' topic) := by
  have hdelete : server.counters.delete topic = server'.counters.delete topic := by
    rw [h.counters_eq]
  have hclear {first second : Server} (hboth : first.Alike x second) :=
    hboth.withHub (hboth.hub.step (.clearTopic topic) rfl)
  simp only [handleDelete, hdelete]
  split
  · next counters _ =>
    have hforgotten : Server.Alike x { server with counters } { server' with counters } :=
      ⟨h.hub, rfl, h.stopping_eq, h.servesMetrics_eq⟩
    exact repliesAlike_of_text ((hclear hforgotten).log _ _ _ _ _ _) rfl rfl
  · have hlogged := h.log .debug .debug "delete of missing counter" "delete of missing counter"
      [("topic", .str topic.name)] [("topic", .str topic.name)]
    exact repliesAlike_of_text ((hclear hlogged).log _ _ _ _ _ _) rfl rfl

/-- Servers that are alike set a counter alike. -/
theorem repliesAlike_handleSet (h : server.Alike x server') (params : Option PathParams)
    (text : Option String) :
    RepliesAlike x (handleSet server params text) (handleSet server' params text) := by
  unfold handleSet
  rw [h.counters_eq]
  apply repliesAlike_withValue h
  intro wanted
  apply repliesAlike_withTopic h
  intro topic
  apply repliesAlike_withCounter h
  intro value first second hboth
  exact repliesAlike_of_text ((hboth.log _ _ _ _ _ _).publish topic value) rfl rfl

/-- Servers that are alike reset a counter alike. -/
theorem repliesAlike_handleReset (h : server.Alike x server') (topic : Topic) :
    RepliesAlike x (handleReset server topic) (handleReset server' topic) := by
  unfold handleReset
  rw [h.counters_eq]
  apply repliesAlike_withCounter h
  intro value first second hboth
  exact repliesAlike_of_text ((hboth.log _ _ _ _ _ _).publish topic value) rfl rfl

/-- Servers that are alike update a counter alike. -/
theorem repliesAlike_handleUpdate (h : server.Alike x server') (params : Option PathParams)
    (text : Option String) :
    RepliesAlike x (handleUpdate server params text) (handleUpdate server' params text) := by
  unfold handleUpdate
  rw [h.counters_eq]
  apply repliesAlike_withValue h
  intro delta
  split
  · exact repliesAlike_of_text h rfl rfl
  · apply repliesAlike_withTopic h
    intro topic
    apply repliesAlike_withCounter h
    intro value first second hboth
    exact repliesAlike_of_text ((hboth.log _ _ _ _ _ _).publish topic value) rfl rfl

/-- Servers that are alike stay so when their metrics are looked at. -/
theorem repliesAlike_handleMetrics (h : server.Alike x server') :
    RepliesAlike x (handleMetrics server) (handleMetrics server') := by
  unfold handleMetrics
  rw [h.servesMetrics_eq]
  split
  · exact repliesAlike_of_text h rfl rfl
  · exact repliesAlike_of_text (h.log _ _ _ _ _ _) rfl rfl

/-- Servers that are alike answer alike at every endpoint. -/
theorem repliesAlike_respond (h : server.Alike x server') (endpoint : Endpoint)
    (params : Option PathParams) (field : Option String) (circumstances : Circumstances) :
    RepliesAlike x (respond server endpoint params field circumstances)
      (respond server' endpoint params field circumstances) := by
  cases endpoint with
  | stream => exact repliesAlike_withTopic h params fun topic => repliesAlike_handleStream h topic _
  | hit => exact repliesAlike_withTopic h params (repliesAlike_handleHit h)
  | get => exact repliesAlike_withTopic h params (repliesAlike_handleGet h)
  | create =>
    exact repliesAlike_withTopic h params fun topic => repliesAlike_handleCreate h topic field
  | createRandom => exact repliesAlike_handleCreate h _ field
  | info => exact repliesAlike_withTopic h params (repliesAlike_handleInfo h)
  | delete => exact repliesAlike_withTopic h params (repliesAlike_handleDelete h)
  | set => exact repliesAlike_handleSet h params field
  | reset => exact repliesAlike_withTopic h params (repliesAlike_handleReset h)
  | update => exact repliesAlike_handleUpdate h params field
  | stats => exact repliesAlike_of_text h rfl rfl
  | health => exact repliesAlike_of_text h rfl rfl
  | metrics => exact repliesAlike_handleMetrics h

/-- Servers that are alike answer alike on every route. -/
theorem repliesAlike_serve (h : server.Alike x server') (route : Route) (query : Option String)
    (circumstances : Circumstances) :
    RepliesAlike x (serve server route query circumstances)
      (serve server' route query circumstances) := by
  simp only [serve]
  split
  · exact repliesAlike_of_text h rfl rfl
  · exact repliesAlike_of_text h rfl rfl
  · exact repliesAlike_respond h _ _ _ circumstances

/-- What taking the body off a response does to the hub. -/
theorem withoutBody_spec (reply : Reply) :
    (withoutBody reply).session? = none ∧
      (withoutBody reply).2 =
        { reply.2 with hub := reply.session?.elim reply.2.hub reply.2.hub.loseClient } := by
  obtain ⟨response, server⟩ := reply
  cases response with
  | none => exact ⟨rfl, rfl⟩
  | some response =>
    obtain ⟨status, headers, body⟩ := response
    cases body with
    | text content => exact ⟨rfl, rfl⟩
    | stream session => exact ⟨rfl, rfl⟩

/-- Replies stay alike without their bodies. -/
theorem repliesAlike_withoutBody {reply reply' : Reply} (h : RepliesAlike x reply reply') :
    RepliesAlike x (withoutBody reply) (withoutBody reply') := by
  obtain ⟨hbody, hserver⟩ := withoutBody_spec reply
  obtain ⟨hbody', hserver'⟩ := withoutBody_spec reply'
  refine ⟨?_, fun _ _ => hbody.trans hbody'.symm⟩
  rw [hserver, hserver']
  exact h.server.withHub (h.server.hub.loseClients h.stream)

/-- Headers are put on an answer, if there is one, and feed no body. -/
theorem session?_withHeaders (reply : Reply) (headers : List (String × String)) :
    Reply.session? (reply.1.map (·.withHeaders headers), reply.2) = reply.session? := by
  obtain ⟨response, server⟩ := reply
  cases response with
  | none => rfl
  | some response => rfl

/-- Replies stay alike with more headers. -/
theorem repliesAlike_withHeaders {reply reply' : Reply} (h : RepliesAlike x reply reply')
    (headers : List (String × String)) :
    RepliesAlike x (reply.1.map (·.withHeaders headers), reply.2)
      (reply'.1.map (·.withHeaders headers), reply'.2) := by
  refine ⟨h.server, fun hunrefused hunrefused' => ?_⟩
  rw [session?_withHeaders, session?_withHeaders]
  exact h.stream hunrefused hunrefused'

/-- Servers that are alike but for one session answer alike, and stay alike. -/
theorem repliesAlike_handle (h : server.Alike x server') (request : Request)
    (circumstances : Circumstances) :
    RepliesAlike x (handle server request circumstances) (handle server' request circumstances) := by
  simp only [handle]
  split
  · exact repliesAlike_of_text h rfl rfl
  · apply repliesAlike_withHeaders
    split
    · exact repliesAlike_of_text h rfl rfl
    · next route _ =>
      have hserve := repliesAlike_serve h route request.target.query circumstances
      split
      · split
        · exact repliesAlike_withoutBody hserve
        · exact hserve
      · exact repliesAlike_of_text h rfl rfl

end Http

end LiveCounter
