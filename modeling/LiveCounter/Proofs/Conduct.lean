import LiveCounter.Proofs.Counters
import LiveCounter.Proofs.Noninterference

/-!
# What handling a request comes to

The endpoints look at the query, the topic and the counters in different orders, but a request comes
to one of a few things: it is refused and leaves no trace except in the reports, it gives one counter
a value and publishes it, it removes one counter and closes the streams of its topic, it opens a
stream, it is cut off over one, or it is told something.
-/

namespace LiveCounter

namespace Http

/-- Whether a response reports success. -/
def Response.isSuccess (response : Response) : Bool :=
  200 ≤ response.status && response.status < 300

/-- Whether there is an answer that reports success. -/
def Reply.isSuccess (reply : Reply) : Bool := reply.1.any (·.isSuccess)

namespace Endpoint

/-- Whether an endpoint is there to give a counter a value. -/
def writes : Endpoint → Bool
  | .create | .createRandom | .hit | .set | .reset | .update => true
  | .stream | .get | .info | .delete | .stats | .health | .metrics => false

/-- The answer of an endpoint that has given a counter a value. -/
def confirmation (endpoint : Endpoint) (topic : Topic) (value : Int64) : Response :=
  match endpoint with
  | .create | .createRandom =>
    .json 201 (.object [
      ("namespace", .str topic.space),
      ("key", .str topic.key),
      ("value", .int value.toInt)])
  | _ => valueResponse value

/-- A confirmation reports success, and opens no stream. -/
theorem isSuccess_confirmation (endpoint : Endpoint) (topic : Topic) (value : Int64) :
    (endpoint.confirmation topic value).isSuccess = true ∧
      (endpoint.confirmation topic value).body.session? = none := by
  cases endpoint <;> exact ⟨rfl, rfl⟩

end Endpoint

/-- The topic of a request that has found its route: one part of the path, or a random one. -/
def Route.topic? (route : Route) (circumstances : Circumstances) : Option Topic :=
  if route.endpoint = .createRandom then some (.random circumstances.entropy)
  else route.params.bind fun params => params.decode.toOption.bind (·.topic.toOption)

/-- The route of a request, if what is there answers the method. -/
def Request.route? (request : Request) : Option Route :=
  (Route.ofPath? request.target.path).filter fun route => route.endpoint.answers request.method

/-- What a request with the given route comes to. -/
inductive Conduct (server : Server) (route : Route) (circumstances : Circumstances) : Reply → Prop
  | refused (response : Response) (hub : Hub) (hfailure : response.isSuccess = false)
      (hbody : response.body.session? = none) (hhub : server.hub.Reports hub) :
      Conduct server route circumstances (some response, { server with hub })
  | changed (topic : Topic) (value : Int64) (hub : Hub) (hwrites : route.endpoint.writes = true)
      (htopic : route.topic? circumstances = some topic) (hhub : server.hub.Reports hub) :
      Conduct server route circumstances (some (route.endpoint.confirmation topic value),
        { server with
          hub := (hub.publish ⟨topic, value⟩).2
          counters := server.counters.put topic value })
  | removed (topic : Topic) (response : Response) (hub later : Hub)
      (hdelete : route.endpoint = .delete) (htopic : route.topic? circumstances = some topic)
      (hsuccess : response.isSuccess = true) (hbody : response.body.session? = none)
      (hhub : server.hub.Reports hub) (hlater : (hub.clearTopic topic).2.Reports later) :
      Conduct server route circumstances (some response,
        { server with hub := later, counters := server.counters.erase topic })
  | opened (topic : Topic) (n : Nat) (later : Hub) (hstream : route.endpoint = .stream)
      (htopic : route.topic? circumstances = some topic)
      (haccepted : (server.hub.connect topic circumstances.sessionId
        (Transport.channel bodyBuffer).client (server.counters.get? topic)).1 = .ok n)
      (hlater : (server.hub.connect topic circumstances.sessionId
        (Transport.channel bodyBuffer).client (server.counters.get? topic)).2.Reports later) :
      Conduct server route circumstances (some (.eventStream n), { server with hub := later })
  | cutOff (topic : Topic) (hstream : route.endpoint = .stream)
      (hpanicked : (server.hub.connect topic circumstances.sessionId
        (Transport.channel bodyBuffer).client (server.counters.get? topic)).1 = .error .panicked) :
      Conduct server route circumstances (none,
        { server with
          hub := (server.hub.connect topic circumstances.sessionId
            (Transport.channel bodyBuffer).client (server.counters.get? topic)).2 })
  | told (response : Response) (hub : Hub) (hreads : route.endpoint.writes = false)
      (hdelete : route.endpoint ≠ .delete) (hbody : response.body.session? = none)
      (hhub : server.hub.Reports hub) :
      Conduct server route circumstances (some response, { server with hub })

/-! ## The endpoints -/

section Endpoints

variable {server : Server} {route : Route} {circumstances : Circumstances}

/-- To fail and leave the server alone is proper conduct on every route. -/
theorem Conduct.untouched {response : Response} (hfailure : response.isSuccess = false)
    (hbody : response.body.session? = none) :
    Conduct server route circumstances (some response, server) :=
  .refused response server.hub hfailure hbody (.refl _)

/-- A counter fault is not reported as a success. -/
theorem isSuccess_ofCounter (fault : CounterFault) :
    (Refusal.ofCounter fault).response.isSuccess = false := by
  cases fault <;> rfl

/-- A stream fault is not reported as a success. -/
theorem isSuccess_ofStream (fault : StreamFault) :
    (Refusal.ofStream fault).response.isSuccess = false := by
  cases fault <;> rfl

/-- A handler that needs a topic conducts itself if it does so for every topic of the path. -/
theorem conduct_withTopic {params : Option PathParams} {handle : Topic → Reply}
    (h : ∀ topic, (params.getD ⟨none, ""⟩).topic = .ok topic →
      Conduct server route circumstances (handle topic)) :
    Conduct server route circumstances (withTopic server params handle) := by
  unfold withTopic
  split
  · next htopic => exact h _ htopic
  · exact .untouched rfl rfl

/-- A handler that needs a value conducts itself if it does so for every value. -/
theorem conduct_withValue {text : Option String} {handle : Int64 → Reply}
    (h : ∀ value, Conduct server route circumstances (handle value)) :
    Conduct server route circumstances (withValue server text handle) := by
  unfold withValue requiredValue
  split
  · exact h _
  · next heq =>
    refine .untouched ?_ rfl
    split at heq
    · cases heq; rfl
    · cases heq; rfl
    · split at heq
      · cases heq
      · cases heq; rfl

/-- A request that gives a counter a value confirms and publishes it. -/
theorem conduct_withCounter {topic : Topic} (hwrites : route.endpoint.writes = true)
    (htopic : route.topic? circumstances = some topic) {outcome : CounterStore.Outcome}
    (houtcome : server.counters.Writes topic outcome) {handle : Int64 → Server → Reply}
    (h : ∀ value counters, ∃ hub, server.hub.Reports hub ∧ handle value { server with counters } =
      (some (route.endpoint.confirmation topic value),
        { server with hub := (hub.publish ⟨topic, value⟩).2, counters })) :
    Conduct server route circumstances (withCounter server outcome handle) := by
  cases houtcome with
  | failed fault => exact .untouched (isSuccess_ofCounter fault) rfl
  | wrote value =>
    obtain ⟨hub, hhub, hhandle⟩ := h value (server.counters.put topic value)
    have hanswer : withCounter server (server.counters.answer topic value) handle =
        handle value { server with counters := server.counters.put topic value } := rfl
    rw [hanswer, hhandle]
    exact .changed topic value hub hwrites htopic hhub

/-- A stream is opened for the topic of the request, or refused. -/
theorem conduct_handleStream {topic : Topic} (hstream : route.endpoint = .stream)
    (htopic : route.topic? circumstances = some topic) :
    Conduct server route circumstances
      (handleStream server topic circumstances.sessionId) := by
  have hclient : (Transport.channel bodyBuffer).client = .buffered bodyBuffer := rfl
  unfold handleStream
  split
  · next fault hub hconnect =>
    refine .refused _ hub (isSuccess_ofStream fault) rfl ?_
    cases server.hub.joinCase topic circumstances.sessionId with
    | stopping _ hanswer hhub =>
      rw [Hub.connect_of_error hanswer] at hconnect
      exact (Prod.mk.inj hconnect).2 ▸ hhub
    | full _ _ hanswer hhub =>
      rw [Hub.connect_of_error hanswer] at hconnect
      exact (Prod.mk.inj hconnect).2 ▸ hhub
    | panicked _ _ hanswer =>
      rw [Hub.connect_of_error hanswer] at hconnect
      cases (Prod.mk.inj hconnect).1
    | admitted _ _ hanswer =>
      have hok := (Hub.connect_of_ok hanswer (.buffered bodyBuffer)
        (server.counters.get? topic)).1
      simp [hconnect] at hok
  · next hub hconnect =>
    rw [← hclient] at hconnect
    have hcut : Conduct server route circumstances (none, { server with
        hub := (server.hub.connect topic circumstances.sessionId
          (Transport.channel bodyBuffer).client (server.counters.get? topic)).2 }) :=
      .cutOff topic hstream (congrArg (·.1) hconnect)
    rwa [hconnect] at hcut
  · next n hub hconnect =>
    rw [← hclient] at hconnect
    exact .opened topic n _ hstream htopic (congrArg (·.1) hconnect)
      (congrArg (·.2) hconnect ▸ Hub.reports_log _ _ _ _)

/-- A hit is published, or fails. -/
theorem conduct_handleHit {topic : Topic} (hhit : route.endpoint = .hit)
    (htopic : route.topic? circumstances = some topic) :
    Conduct server route circumstances (handleHit server topic) :=
  conduct_withCounter (by rw [hhit]; rfl) htopic (server.counters.writes_hit topic)
    fun value counters => ⟨_, Hub.reports_count _ .hits, by rw [hhit]; rfl⟩

/-- Looking at a counter leaves the server alone. -/
theorem conduct_handleGet {topic : Topic} (hget : route.endpoint = .get) :
    Conduct server route circumstances (handleGet server topic) := by
  unfold handleGet
  split
  · exact .told _ _ (by rw [hget]; rfl) (by simp [hget]) rfl (.refl _)
  · exact .untouched rfl rfl

/-- A new counter is published with its first value, or the request fails. -/
theorem conduct_handleCreate {topic : Topic} {text : Option String}
    (hcreate : route.endpoint = .create ∨ route.endpoint = .createRandom)
    (htopic : route.topic? circumstances = some topic) :
    Conduct server route circumstances (handleCreate server topic text) := by
  have hwrites : route.endpoint.writes = true := by
    rcases hcreate with h | h <;> rw [h] <;> rfl
  simp only [handleCreate]
  split
  · exact .untouched rfl rfl
  · next initial _ =>
    refine conduct_withCounter hwrites htopic (server.counters.writes_create topic initial)
      fun value counters => ?_
    rcases hcreate with h | h
    · exact ⟨_, Hub.reports_log _ _ _ _, by rw [h]; rfl⟩
    · exact ⟨_, Hub.reports_log _ _ _ _, by rw [h]; rfl⟩

/-- Deleting a counter clears its topic, or fails. -/
theorem conduct_handleDelete {topic : Topic} (hdelete : route.endpoint = .delete)
    (htopic : route.topic? circumstances = some topic) :
    Conduct server route circumstances (handleDelete server topic) := by
  unfold handleDelete CounterStore.delete
  cases hcounter : server.counters.get? topic with
  | some value =>
    exact .removed topic _ server.hub _ hdelete htopic rfl rfl (.refl _) (Hub.reports_log _ _ _ _)
  | none =>
    have hstore := CounterStore.erase_of_get?_eq_none hcounter
    have hmissing (response : Response) (hub later : Hub) (hsuccess : response.isSuccess = true)
        (hbody : response.body.session? = none) (hhub : server.hub.Reports hub)
        (hlater : (hub.clearTopic topic).2.Reports later) :
        Conduct server route circumstances (some response, { server with hub := later }) := by
      have hremoved := Conduct.removed topic response hub later hdelete htopic hsuccess hbody hhub
        hlater
      rwa [hstore] at hremoved
    exact hmissing _ _ _ rfl rfl (Hub.reports_log _ _ _ _) (Hub.reports_log _ _ _ _)

/-- A value that is set is published, or the request fails. -/
theorem conduct_handleSet {params : Option PathParams} {text : Option String}
    (hset : route.endpoint = .set)
    (htopic : ∀ topic, (params.getD ⟨none, ""⟩).topic = .ok topic →
      route.topic? circumstances = some topic) :
    Conduct server route circumstances (handleSet server params text) := by
  refine conduct_withValue fun value => conduct_withTopic fun topic hok => ?_
  exact conduct_withCounter (by rw [hset]; rfl) (htopic topic hok)
    (server.counters.writes_set topic value)
    fun value counters => ⟨_, Hub.reports_log _ _ _ _, by rw [hset]; rfl⟩

/-- A reset is published as a zero, or fails. -/
theorem conduct_handleReset {topic : Topic} (hreset : route.endpoint = .reset)
    (htopic : route.topic? circumstances = some topic) :
    Conduct server route circumstances (handleReset server topic) :=
  conduct_withCounter (by rw [hreset]; rfl) htopic (server.counters.writes_set topic 0)
    fun value counters => ⟨_, Hub.reports_log _ _ _ _, by rw [hreset]; rfl⟩

/-- An update is published with the value it leads to, or fails. -/
theorem conduct_handleUpdate {params : Option PathParams} {text : Option String}
    (hupdate : route.endpoint = .update)
    (htopic : ∀ topic, (params.getD ⟨none, ""⟩).topic = .ok topic →
      route.topic? circumstances = some topic) :
    Conduct server route circumstances (handleUpdate server params text) := by
  refine conduct_withValue fun delta => ?_
  split
  · exact .untouched rfl rfl
  · refine conduct_withTopic fun topic hok => ?_
    exact conduct_withCounter (by rw [hupdate]; rfl) (htopic topic hok)
      (server.counters.writes_add topic delta)
      fun value counters => ⟨_, Hub.reports_log _ _ _ _, by rw [hupdate]; rfl⟩

/-- Looking at the metrics leaves the server alone. -/
theorem conduct_handleMetrics (hmetrics : route.endpoint = .metrics) :
    Conduct server route circumstances (handleMetrics server) := by
  unfold handleMetrics
  split
  · exact .told _ _ (by rw [hmetrics]; rfl) (by simp [hmetrics]) rfl (.refl _)
  · exact .refused _ _ rfl rfl (Hub.reports_log _ _ _ _)

/-- Every endpoint acts on the topic of its route. -/
theorem conduct_respond {params : Option PathParams} (field : Option String)
    (htopic : route.endpoint ≠ .createRandom → ∀ topic,
      (params.getD ⟨none, ""⟩).topic = .ok topic → route.topic? circumstances = some topic) :
    Conduct server route circumstances
      (respond server route.endpoint params field circumstances) := by
  cases hendpoint : route.endpoint with
  | stream =>
    exact conduct_withTopic fun topic hok =>
      conduct_handleStream hendpoint (htopic (by simp [hendpoint]) topic hok)
  | hit =>
    exact conduct_withTopic fun topic hok =>
      conduct_handleHit hendpoint (htopic (by simp [hendpoint]) topic hok)
  | get => exact conduct_withTopic fun topic _ => conduct_handleGet hendpoint
  | create =>
    exact conduct_withTopic fun topic hok =>
      conduct_handleCreate (Or.inl hendpoint) (htopic (by simp [hendpoint]) topic hok)
  | createRandom =>
    exact conduct_handleCreate (Or.inr hendpoint) (by simp [Route.topic?, hendpoint])
  | info =>
    refine conduct_withTopic fun topic _ => ?_
    exact .told _ _ (by rw [hendpoint]; rfl) (by simp [hendpoint]) rfl (.refl _)
  | delete =>
    exact conduct_withTopic fun topic hok =>
      conduct_handleDelete hendpoint (htopic (by simp [hendpoint]) topic hok)
  | set => exact conduct_handleSet hendpoint (htopic (by simp [hendpoint]))
  | reset =>
    exact conduct_withTopic fun topic hok =>
      conduct_handleReset hendpoint (htopic (by simp [hendpoint]) topic hok)
  | update => exact conduct_handleUpdate hendpoint (htopic (by simp [hendpoint]))
  | stats => exact .told _ _ (by rw [hendpoint]; rfl) (by simp [hendpoint]) rfl (.refl _)
  | health => exact .told _ _ (by rw [hendpoint]; rfl) (by simp [hendpoint]) rfl (.refl _)
  | metrics => exact conduct_handleMetrics hendpoint

/-- Each endpoint conducts itself as its route says. -/
theorem conduct_serve (server : Server) (route : Route) (query : Option String)
    (circumstances : Circumstances) :
    Conduct server route circumstances (serve server route query circumstances) := by
  simp only [serve]
  split
  · exact .untouched rfl rfl
  · exact .untouched rfl rfl
  · next params field hparams _ =>
    refine conduct_respond field fun hendpoint topic hok => ?_
    cases hroute : route.params with
    | none =>
      rw [hroute] at hparams
      obtain rfl := Except.ok.inj hparams
      -- The empty key is no topic.
      have hempty : (PathParams.mk none "").topic.toOption = none := by decide
      have hok : (PathParams.mk none "").topic = .ok topic := hok
      simp [hok, Except.toOption] at hempty
    | some encoded =>
      rw [hroute] at hparams
      cases hdecode : encoded.decode with
      | error fault => simp [hdecode, Except.map] at hparams
      | ok decoded =>
        obtain rfl : some decoded = params := by simpa [hdecode, Except.map] using hparams
        have htopic : decoded.topic = .ok topic := hok
        simp [Route.topic?, hendpoint, hroute, hdecode, htopic, Except.toOption]

end Endpoints

/-! ## Methods -/

/-- A request that finds no route, or asks in a wrong way, leaves the server as it is. -/
theorem handle_of_route?_eq_none {request : Request} (h : request.route? = none) (server : Server)
    (circumstances : Circumstances) :
    (handle server request circumstances).2 = server ∧
      (handle server request circumstances).session? = none := by
  unfold handle
  split
  · exact ⟨rfl, rfl⟩
  · cases hroute : Route.ofPath? request.target.path with
    | none => exact ⟨rfl, rfl⟩
    | some route =>
      have hanswers : route.endpoint.answers request.method = false := by
        simpa [Request.route?, hroute, Option.filter] using h
      simp only [hanswers]
      exact ⟨rfl, rfl⟩

/-- Headers change neither the success nor the body of an answer. -/
theorem answer_withHeaders (reply : Reply) (headers : List (String × String)) :
    Reply.isSuccess (reply.1.map (·.withHeaders headers), reply.2) = reply.isSuccess ∧
      (reply.1.map (·.withHeaders headers)).map (·.body) = reply.1.map (·.body) := by
  obtain ⟨response, server⟩ := reply
  cases response with
  | none => exact ⟨rfl, rfl⟩
  | some response => exact ⟨rfl, rfl⟩

/-- Without its body an answer is as successful as with it. -/
theorem answer_withoutBody (reply : Reply) :
    (withoutBody reply).isSuccess = reply.isSuccess ∧
      (withoutBody reply).1.map (·.body) = reply.1.map fun _ => .text "" := by
  obtain ⟨response, server⟩ := reply
  cases response with
  | none => exact ⟨rfl, rfl⟩
  | some response => exact ⟨rfl, rfl⟩

/-- A request that finds its route is served. One that asks for the head gets no body, and has lost
the client of the stream that it may have opened. -/
theorem handle_of_route? {request : Request} {route : Route} (h : request.route? = some route)
    (server : Server) (circumstances : Circumstances) :
    let served := serve server route request.target.query circumstances
    let reply := handle server request circumstances
    reply.isSuccess = served.isSuccess ∧
      reply.1.map (·.body) =
        served.1.map (fun response => if request.method = "HEAD" then .text "" else response.body) ∧
      reply.2 = if request.method = "HEAD" then
        { served.2 with hub := served.session?.elim served.2.hub served.2.hub.loseClient }
      else served.2 := by
  intro served reply
  obtain ⟨hroute, hanswers⟩ := Option.filter_eq_some_iff.mp h
  have hmethod : request.method ≠ "OPTIONS" := by
    rintro hoptions
    rw [hoptions] at hanswers
    cases hanswers
  simp only [reply, handle, if_neg hmethod, hroute, hanswers, if_true]
  by_cases hhead : request.method = "HEAD"
  · obtain ⟨hsuccess, hbody⟩ := answer_withoutBody served
    obtain ⟨hsame, hkept⟩ := answer_withHeaders (withoutBody served)
      (sharedHeaders ++ [("access-control-expose-headers", "*")])
    simp only [if_pos hhead]
    exact ⟨hsame.trans hsuccess, hkept.trans hbody, (withoutBody_spec served).2⟩
  · obtain ⟨hsame, hkept⟩ := answer_withHeaders served
      (sharedHeaders ++ [("access-control-expose-headers", "*")])
    simp only [if_neg hhead]
    exact ⟨hsame, hkept, rfl⟩

/-- Whatever the method is, a request that opens no stream leaves the server as serving it does. -/
theorem handle_of_text {request : Request} {route : Route} (h : request.route? = some route)
    (server : Server) (circumstances : Circumstances)
    (hbody : (serve server route request.target.query circumstances).session? = none) :
    (handle server request circumstances).2 =
      (serve server route request.target.query circumstances).2 := by
  rw [(handle_of_route? h server circumstances).2.2, hbody]
  split <;> rfl

end Http

end LiveCounter
