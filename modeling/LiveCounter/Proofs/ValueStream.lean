import LiveCounter.Proofs.Effects
import LiveCounter.Proofs.ReadingDry
import LiveCounter.Proofs.Stopping

/-!
# A stream tells the values of its counter

A client that opens a stream and reads it dry between the requests to the server follows the counter
without gaps: it gets the value at the opening and then each value that a request leaves in the
counter. So what it has got last is what the counter holds.
-/

namespace LiveCounter

namespace Hub

/-- Whether an operation fills or empties outboxes by itself, and not through a request. -/
def Operation.meddles : Operation → Bool
  | .publish _ | .offer .. | .take _ => true
  | _ => false

/-- No session about a topic is open after the topic was cleared. -/
theorem Consistent.not_isOpen_clearTopic {hub : Hub} (h : hub.Consistent) {n : Nat} {topic : Topic}
    {connection : Connection} (hconnection : hub.connections[n]? = some connection)
    (htopic : connection.session.topic = topic) : ¬ (hub.clearTopic topic).2.IsOpen n := by
  rintro ⟨later, hlater, hopen⟩
  rw [h.connections_clearTopic topic hconnection] at hlater
  obtain rfl := Option.some.inj hlater
  have hbefore := Connection.open_of_after hopen
  rw [Connection.closeMoves, if_pos ⟨hbefore, htopic⟩] at hopen
  exact connection.not_open_after_close _ _ hopen

end Hub

namespace Http

/-- The topic whose counter a request with the given route is there to give a value. -/
def Route.writesTo? (route : Route) (circumstances : Circumstances) : Option Topic :=
  if route.endpoint.writes then route.topic? circumstances else none

/-- The topic whose counter a request is there to give a value. -/
def Request.writesTo? (request : Request) (circumstances : Circumstances) : Option Topic :=
  request.route?.bind (·.writesTo? circumstances)

end Http

namespace Server

/-- Whether an operation is a request, or something that goes on between requests. -/
def Operation.isOrdinary : Operation → Bool
  | .hub operation => operation.isRegular && !operation.meddles
  | _ => true

/-- Whether an operation is a request. -/
def Operation.isRequest : Operation → Bool
  | .request .. => true
  | _ => false

/-- What a run leaves behind, given what each operation leaves behind. -/
def history {A : Type} (observe : Server → Operation → List A) :
    Server → List Operation → List A
  | _, [] => []
  | server, operation :: rest =>
    observe server operation ++ history observe (server.step operation) rest

/-- The frames that an operation reads from the client of a session. -/
def received (n : Nat) (server : Server) : Operation → List Frame
  | .hub operation => Hub.received n server.hub operation
  | _ => []

/-- The value that a reply leaves in the counter of a topic, if this is the counter that was to be
written and the reply reports success. -/
def leftIn (topic : Topic) (written : Option Topic) (reply : Http.Reply) : List Int64 :=
  if written = some topic ∧ reply.isSuccess = true then (reply.2.counters.get? topic).toList
  else []

/-- The value that an operation leaves in the counter of a topic, if it is a request that was there to
write it and succeeded. -/
def leftBy (topic : Topic) (server : Server) : Operation → List Int64
  | .request request circumstances =>
    leftIn topic (request.writesTo? circumstances) (Http.handle server request circumstances)
  | _ => []

/-- The client of session `n` has read everything before each request of the run, and at its end. -/
def ReadsDry (n : Nat) : Server → List Operation → Prop
  | server, [] => server.hub.Dry n
  | server, operation :: rest =>
    (operation.isRequest = true → server.hub.Dry n) ∧ ReadsDry n (server.step operation) rest

instance : (n : Nat) → (server : Server) → (operations : List Operation) →
    Decidable (server.ReadsDry n operations)
  | n, server, [] => inferInstanceAs (Decidable (server.hub.Dry n))
  | n, server, operation :: rest =>
    have := instDecidableReadsDry n (server.step operation) rest
    inferInstanceAs (Decidable ((operation.isRequest = true → server.hub.Dry n) ∧
      ReadsDry n (server.step operation) rest))

/-- Session `n` streams a topic, and these frames have been read. While it is open these values have
been queued, and the last one is what the counter holds. -/
structure Tells (n : Nat) (topic : Topic) (values : List Int64) (frames : List Frame)
    (server : Server) : Prop where
  consistent : server.hub.Consistent
  usable : server.hub.policy.Usable
  feeds : ∃ events, server.hub.Feeds n topic Http.bodyBuffer events frames ∧
    (server.hub.IsOpen n → events.map (·.value) = values ∧
      values.getLast? = server.counters.get? topic)

variable {n : Nat} {topic : Topic} {values : List Int64} {frames : List Frame} {server : Server}

/-- What passes a session by adds nothing to the values that it tells. -/
theorem Tells.passedBy (h : server.Tells n topic values frames) {later : Server}
    (hfollows : server.hub.Follows later.hub) (hpasses : server.hub.PassesBy n later.hub)
    (hcounter : later.hub.IsOpen n → later.counters.get? topic = server.counters.get? topic) :
    later.Tells n topic values frames := by
  obtain ⟨events, hfeeds, hvalues⟩ := h.feeds
  obtain ⟨hlater, hopen⟩ := hfeeds.passedBy hpasses
  refine ⟨hfollows.consistent, hfollows.policy_eq ▸ h.usable, events, hlater, fun hstill => ?_⟩
  rw [hcounter hstill]
  exact hvalues (hopen hstill)

/-! ## Requests -/

/-- A failure leaves no value. -/
theorem leftIn_of_failure {written : Option Topic} {reply : Http.Reply}
    (h : reply.isSuccess = false) : leftIn topic written reply = [] :=
  if_neg fun hboth => by simp [h] at hboth

/-- A request that does not write leaves no value. -/
theorem leftIn_of_reads {route : Http.Route} {circumstances : Http.Circumstances}
    {reply : Http.Reply} (h : route.endpoint.writes = false) :
    leftIn topic (route.writesTo? circumstances) reply = [] :=
  if_neg fun hboth => by simp [Http.Route.writesTo?, h] at hboth

/-- A value that is published reaches the stream if it is about its topic. -/
theorem Tells.changed (h : server.Tells n topic values frames) (hdry : server.hub.Dry n) {hub : Hub}
    (hreports : server.hub.Reports hub) (written : Topic) (value : Int64) :
    Tells n topic (values ++ if written = topic then [value] else []) frames
      { server with
        hub := (hub.publish ⟨written, value⟩).2
        counters := server.counters.put written value } := by
  obtain ⟨events, hfeeds, hvalues⟩ := h.feeds
  have hfeeds := hfeeds.same hreports.connections
  have hconsistent := h.consistent.reports hreports
  have hfollows := (h.consistent.follows_path hreports.path).trans
    (hconsistent.follows_step (show (Hub.Operation.publish ⟨written, value⟩).isRegular = true from rfl))
  have hstep := hfeeds.step
    (show (Hub.Operation.publish ⟨written, value⟩).drains n = false from rfl)
  rw [Hub.received_of_ne (by simp), List.append_nil] at hstep
  refine ⟨hfollows.consistent, hfollows.policy_eq ▸ h.usable, _, hstep, fun hopen => ?_⟩
  have hbefore := Hub.isOpen_of_step hfeeds (.publish ⟨written, value⟩) hopen
  obtain ⟨htold, hlast⟩ := hvalues (Hub.isOpen_of_same hreports.connections hbefore)
  rw [hfeeds.queued_publish hconsistent hbefore (hreports.dry hdry), CounterStore.get?_put]
  by_cases htopic : written = topic
  · simp [htopic, htold]
  · simp [htopic, Ne.symm htopic, htold, hlast]

/-- A route adds the value that it leaves in the counter to those that the session tells. -/
theorem Tells.conduct (h : server.Tells n topic values frames) (hdry : server.hub.Dry n)
    {route : Http.Route} {circumstances : Http.Circumstances} {reply : Http.Reply}
    (hconduct : Http.Conduct server route circumstances reply) :
    reply.2.Tells n topic (values ++ leftIn topic (route.writesTo? circumstances) reply) frames := by
  have hfollows := (undergoes_of_conduct hconduct).follows h.consistent
  cases hconduct with
  | refused response hub hfailure _ hhub =>
    have hfailed : Http.Reply.isSuccess (some response, { server with hub }) = false := hfailure
    rw [leftIn_of_failure hfailed, List.append_nil]
    exact h.passedBy hfollows (Hub.PassesBy.refl.same hhub.connections) fun _ => rfl
  | changed written value hub hwrites htopic hhub =>
    have hleft : leftIn topic (route.writesTo? circumstances)
        (route.endpoint.confirmation written value,
          { server with
            hub := (hub.publish ⟨written, value⟩).2
            counters := server.counters.put written value }) =
        if written = topic then [value] else [] := by
      have hsuccess : Http.Reply.isSuccess (some (route.endpoint.confirmation written value),
          { server with
            hub := (hub.publish ⟨written, value⟩).2
            counters := server.counters.put written value }) = true :=
        (route.endpoint.isSuccess_confirmation written value).1
      simp only [leftIn, Http.Route.writesTo?, hwrites, htopic, if_true, hsuccess, and_true,
        Option.some.injEq, CounterStore.get?_put]
      by_cases hsame : written = topic
      · simp [hsame]
      · simp [hsame]
    rw [hleft]
    exact h.changed hdry hhub written value
  | removed removed _ hub later hdelete _ _ _ hhub hlater =>
    rw [leftIn_of_reads (by rw [hdelete]; rfl), List.append_nil]
    refine h.passedBy hfollows (((Hub.PassesBy.refl.same hhub.connections).step
      (.clearTopic removed) rfl).same hlater.connections) fun hopen => ?_
    -- A stream about the removed counter has been closed.
    have hother : removed ≠ topic := by
      rintro rfl
      obtain ⟨events, hfeeds, -⟩ := h.feeds
      obtain ⟨connection, -, hconnection, -⟩ := hfeeds.streams
      have htopic := (hfeeds.buffered connection hconnection).topic_eq
      rw [← hhub.connections] at hconnection
      exact (h.consistent.reports hhub).not_isOpen_clearTopic hconnection htopic
        (Hub.isOpen_of_same hlater.connections hopen)
    rw [CounterStore.get?_erase, if_neg (Ne.symm hother)]
  | opened opened m later hstream _ _ hlater =>
    rw [leftIn_of_reads (by rw [hstream]; rfl), List.append_nil]
    exact h.passedBy hfollows ((Hub.PassesBy.refl.step (.connect opened circumstances.sessionId
      (.channel Http.bodyBuffer) (server.counters.get? opened)) rfl).same hlater.connections)
      fun _ => rfl
  | cutOff opened hstream =>
    rw [leftIn_of_reads (by rw [hstream]; rfl), List.append_nil]
    exact h.passedBy hfollows (Hub.PassesBy.refl.step (.connect opened circumstances.sessionId
      (.channel Http.bodyBuffer) (server.counters.get? opened)) rfl) fun _ => rfl
  | told _ hub hreads _ _ hhub =>
    rw [leftIn_of_reads hreads, List.append_nil]
    exact h.passedBy hfollows (Hub.PassesBy.refl.same hhub.connections) fun _ => rfl

/-- A request leaves the value that it has written, if any, to the stream of its topic. -/
theorem Tells.request (h : server.Tells n topic values frames) (hdry : server.hub.Dry n)
    (request : Http.Request) (circumstances : Http.Circumstances) :
    (server.step (.request request circumstances)).Tells n topic
      (values ++ server.leftBy topic (.request request circumstances)) frames := by
  show (Http.handle server request circumstances).2.Tells n topic
    (values ++ leftIn topic (request.writesTo? circumstances) _) frames
  cases hroute : request.route? with
  | none =>
    rw [(Http.handle_of_route?_eq_none hroute server circumstances).1]
    simpa [leftIn, Http.Request.writesTo?, hroute] using h
  | some route =>
    have hwritten : request.writesTo? circumstances = route.writesTo? circumstances := by
      simp [Http.Request.writesTo?, hroute]
    obtain ⟨hstatus, -, hserver⟩ := Http.handle_of_route? hroute server circumstances
    have hserved := h.conduct hdry
      (Http.conduct_serve server route request.target.query circumstances)
    have hcounters : (Http.handle server request circumstances).2.counters =
        (Http.serve server route request.target.query circumstances).2.counters := by
      rw [hserver]
      split <;> rfl
    have hleft : leftIn topic (request.writesTo? circumstances)
          (Http.handle server request circumstances) =
        leftIn topic (route.writesTo? circumstances)
          (Http.serve server route request.target.query circumstances) := by
      rw [leftIn, leftIn, hwritten, hstatus, hcounters]
    rw [hleft, hserver]
    split
    · cases (Http.serve server route request.target.query circumstances).session? with
      | none => exact hserved
      | some m =>
        have hfollows := hserved.consistent.follows_step
          (show (Hub.Operation.loseClient m).isRegular = true from rfl)
        exact hserved.passedBy hfollows (Hub.PassesBy.refl.step (.loseClient m) rfl) fun _ => rfl
    · exact hserved

/-! ## Runs -/

/-- An operation of the hub that does not meddle adds no values. -/
theorem Tells.operation (h : server.Tells n topic values frames) {operation : Hub.Operation}
    (hregular : operation.isRegular = true) (hmeddles : operation.meddles = false) :
    (server.step (.hub operation)).Tells n topic (values ++ [])
      (frames ++ Hub.received n server.hub operation) := by
  have hoffers : operation.offers n = false := by
    cases operation with
    | publish | offer => cases hmeddles
    | _ => rfl
  have hdrains : operation.drains n = false := by
    cases operation with
    | take => cases hmeddles
    | release => cases hregular
    | _ => rfl
  obtain ⟨events, hfeeds, hvalues⟩ := h.feeds
  have hfollows := h.consistent.follows_step hregular
  rw [List.append_nil]
  exact ⟨hfollows.consistent, hfollows.policy_eq ▸ h.usable, events,
    hfeeds.step_of_not_offers hoffers hdrains,
    fun hopen => hvalues (Hub.isOpen_of_step hfeeds operation hopen)⟩

/-- A graceful stop passes every session by, and changes no counter. -/
theorem passesBy_stopGracefully (n : Nat) (server : Server) (tasks : List Nat)
    (timeout : Duration) :
    server.hub.PassesBy n (server.stopGracefully tasks timeout).2.hub ∧
      (server.stopGracefully tasks timeout).2.counters = server.counters := by
  have hpaused : server.hub.PassesBy n
      (server.drained (server.hub.stop timeout).2 tasks timeout).hub :=
    (Hub.passesBy_stop n server.hub timeout).same (Hub.reports_log _ _ _ _).connections
  obtain ⟨-, -, hcounters, ⟨-, hreports⟩ | hreports⟩ := server.stopGracefully_cases tasks timeout
  · exact ⟨hpaused.same hreports.connections, hcounters⟩
  · exact ⟨(hpaused.trans (Hub.passesBy_advance n _ _)).same hreports.connections, hcounters⟩

/-- An operation adds the value that it leaves in the counter to those that the session tells. -/
theorem Tells.step (h : server.Tells n topic values frames) {operation : Operation}
    (hordinary : operation.isOrdinary = true)
    (hdry : operation.isRequest = true → server.hub.Dry n) :
    (server.step operation).Tells n topic (values ++ server.leftBy topic operation)
      (frames ++ server.received n operation) := by
  have hidle (later : Server) (hfollows : server.hub.Follows later.hub)
      (hpasses : server.hub.PassesBy n later.hub) (hcounters : later.counters = server.counters) :
      later.Tells n topic (values ++ []) (frames ++ []) := by
    rw [List.append_nil, List.append_nil]
    exact h.passedBy hfollows hpasses fun _ => by rw [hcounters]
  cases operation with
  | hub operation =>
    obtain ⟨hregular, hmeddles⟩ : operation.isRegular = true ∧ operation.meddles = false := by
      simpa [Operation.isOrdinary] using hordinary
    exact h.operation hregular hmeddles
  | settle =>
    exact hidle _ (h.consistent.follows_path server.hub.path_settle)
      (Hub.passesBy_settle n server.hub) rfl
  | advance millis =>
    exact hidle _ (h.consistent.follows_advance millis).1 (Hub.passesBy_advance n _ millis) rfl
  | stop timeout =>
    exact hidle _ (h.consistent.follows_stop h.usable timeout).1 (Hub.passesBy_stop n _ timeout) rfl
  | cancel => exact hidle _ h.consistent.follows .refl rfl
  | stopGracefully tasks timeout =>
    obtain ⟨hpasses, hcounters⟩ := passesBy_stopGracefully n server tasks timeout
    exact hidle _ ((undergoes_stopGracefully h.usable tasks timeout).follows h.consistent) hpasses
      hcounters
  | request request circumstances =>
    have htold := h.request (hdry rfl) request circumstances
    rwa [← List.append_nil frames] at htold

/-- A run adds the values that it leaves in the counter to those that the session tells. -/
theorem Tells.run (h : server.Tells n topic values frames) {operations : List Operation}
    (hordinary : ∀ operation ∈ operations, operation.isOrdinary = true)
    (hdry : server.ReadsDry n operations) :
    (server.run operations).Tells n topic (values ++ history (leftBy topic) server operations)
        (frames ++ history (received n) server operations) ∧
      (server.run operations).hub.Dry n := by
  induction operations generalizing server values frames with
  | nil => exact ⟨by simpa [history, run] using h, hdry⟩
  | cons operation rest ih =>
    have hfirst := h.step (hordinary operation List.mem_cons_self) hdry.1
    have hrest := ih hfirst (fun other hother => hordinary other (List.mem_cons_of_mem _ hother))
      hdry.2
    simpa [history, run] using hrest

/-- A stream that has just been opened tells the value of the counter first. -/
theorem tells_of_opened (hconsistent : server.hub.Consistent) (husable : server.hub.policy.Usable)
    {request : Http.Request} (hasks : request.AsksForStream topic)
    (circumstances : Http.Circumstances)
    (hbody : (Http.handle server request circumstances).1.map (·.body) = some (.stream n)) :
    (Http.handle server request circumstances).2.Tells n topic (server.counters.get? topic).toList
      [] := by
  have hfollows := (undergoes_request server request circumstances).follows hconsistent
  obtain ⟨route, hpath, hanswers, hserve⟩ := Http.serve_stream hasks server circumstances
  have hroute : request.route? = some route := Option.filter_eq_some_iff.mpr ⟨hpath, hanswers⟩
  obtain ⟨-, hshown, hserver⟩ := Http.handle_of_route? hroute server circumstances
  have hmethod : request.method ≠ "HEAD" := by
    intro hhead
    simp only [hbody, if_pos hhead] at hshown
    cases hserved : (Http.serve server route request.target.query circumstances).1 <;>
      simp [hserved] at hshown
  obtain ⟨hsession, hub, hreports, hstream⟩ :=
    Http.handleStream_spec server topic circumstances.sessionId
  simp only [if_neg hmethod, hserve] at hshown hserver
  have hstreams : (Http.handleStream server topic circumstances.sessionId).session? = some n :=
    Http.Reply.session?_of_body (hshown.symm.trans hbody)
  rw [hstreams] at hsession
  have haccepted : (server.hub.connect topic circumstances.sessionId
      (Transport.channel Http.bodyBuffer).client (server.counters.get? topic)).1 = .ok n := by
    generalize (server.hub.connect topic circumstances.sessionId
      (Transport.channel Http.bodyBuffer).client (server.counters.get? topic)).1 = answer at hsession
    cases answer with
    | ok m => exact congrArg Except.ok (Option.some.inj hsession).symm
    | error fault => cases hsession
  refine ⟨hfollows.consistent, hfollows.policy_eq ▸ husable,
    Hub.firstEvent topic (server.counters.get? topic), ?_, fun _ => ?_⟩
  · rw [hserver, hstream]
    exact (Hub.feeds_connect haccepted).same hreports.connections
  · rw [hserver, hstream]
    cases server.counters.get? topic with
    | none => exact ⟨rfl, rfl⟩
    | some value => exact ⟨rfl, rfl⟩

/-- What a client that reads dry has got of an open stream is the value of the counter at the opening,
if there was one, and then the value that each successful request has left in it, in order and without
gaps or repetitions. What it has got last is what the counter holds. -/
theorem streams_tell_values_of_counter (policy : StreamPolicy) (servesMetrics : Bool)
    {before after : List Operation} (hregular : ∀ operation ∈ before, operation.isRegular = true)
    (hordinary : ∀ operation ∈ after, operation.isOrdinary = true) {request : Http.Request}
    {topic : Topic} (hasks : request.AsksForStream topic) (circumstances : Http.Circumstances)
    {n : Nat} :
    let server := (initial policy servesMetrics).run before
    let reply := Http.handle server request circumstances
    let last := reply.2.run after
    let values := (history (received n) reply.2 after).filterMap Frame.value?
    reply.1.map (·.body) = some (.stream n) → reply.2.ReadsDry n after → last.hub.IsOpen n →
      values = (server.counters.get? topic).toList ++ history (leftBy topic) reply.2 after ∧
        values.getLast? = last.counters.get? topic := by
  intro server reply last values hbody hdry hopen
  have hfollows := follows_run policy servesMetrics hregular
  have husable : server.hub.policy.Usable := hfollows.policy_eq ▸ policy.usable_clamped
  have htells := tells_of_opened hfollows.consistent husable hasks circumstances hbody
  obtain ⟨hlast, hlastDry⟩ := htells.run hordinary hdry
  obtain ⟨events, hfeeds, hvalues⟩ := hlast.feeds
  obtain ⟨htold, hcounter⟩ := hvalues hopen
  have hread : values = events.map (·.value) := hfeeds.values_eq hopen hlastDry
  rw [hread, htold]
  exact ⟨rfl, hcounter⟩

/-- A counter is hit before and after somebody opens a stream. -/
theorem streams_tell_values_of_counter_between_hits :
    let topic : Topic := ⟨"default", "abc", by decide, by decide⟩
    let hit : Operation := .request ⟨"GET", "/hit/abc", none⟩ ⟨⟨0⟩, 0, 0⟩
    let server := (initial .default false).run [hit]
    let reply := Http.handle server ⟨"GET", "/stream/abc", none⟩ ⟨⟨1⟩, 0, 0⟩
    let after : List Operation :=
      [.settle, .hub (.receive 0 4), hit, .settle, .hub (.receive 0 4)]
    let values := (history (received 0) reply.2 after).filterMap Frame.value?
    values = [1, 2] ∧
      values = (server.counters.get? topic).toList ++ history (leftBy topic) reply.2 after ∧
      (reply.2.run after).counters.get? topic = some 2 := by
  intro topic hit server reply after values
  have hhitPath := Http.Route.ofPath?_verb_key
    (show "/hit/abc" = "/" ++ "hit" ++ "/" ++ "abc" by decide) (by decide) (by decide) (by decide)
  have hstreamPath := Http.Route.ofPath?_verb_key
    (show "/stream/abc" = "/" ++ "stream" ++ "/" ++ "abc" by decide) (by decide) (by decide)
    (by decide)
  have hhitRoute : Http.Request.route? ⟨"GET", "/hit/abc", none⟩ =
      some ⟨.hit, some ⟨none, "abc"⟩⟩ := by
    simp only [Http.Request.route?, hhitPath]
    decide
  have hstreamRoute : Http.Request.route? ⟨"GET", "/stream/abc", none⟩ =
      some ⟨.stream, some ⟨none, "abc"⟩⟩ := by
    simp only [Http.Request.route?, hstreamPath]
    decide
  have hhit (server : Server) : server.step hit =
      (Http.serve server ⟨.hit, some ⟨none, "abc"⟩⟩ none ⟨⟨0⟩, 0, 0⟩).2 :=
    (Http.handle_of_route? hhitRoute server ⟨⟨0⟩, 0, 0⟩).2.2
  have hserver : server =
      (Http.serve (initial .default false) ⟨.hit, some ⟨none, "abc"⟩⟩ none ⟨⟨0⟩, 0, 0⟩).2 :=
    hhit _
  obtain ⟨-, hbody, hreply⟩ := Http.handle_of_route? hstreamRoute server ⟨⟨1⟩, 0, 0⟩
  have hreply : reply.2 =
      (Http.serve server ⟨.stream, some ⟨none, "abc"⟩⟩ none ⟨⟨1⟩, 0, 0⟩).2 := hreply
  have hasks : Http.Request.AsksForStream ⟨"GET", "/stream/abc", none⟩ topic :=
    ⟨.inl rfl, ⟨none, "abc"⟩, ⟨none, "abc"⟩, hstreamPath, by decide +kernel, by decide +kernel⟩
  have hopened : reply.1.map (·.body) = some (.stream 0) := by
    refine hbody.trans ?_
    rw [hserver]
    decide +kernel
  have hdry : reply.2.ReadsDry 0 after := by
    rw [hreply, hserver]
    simp only [after, ReadsDry, hhit]
    decide +kernel
  have hlast : reply.2.run after = ((((reply.2.step .settle).step (.hub (.receive 0 4))).step hit).step
      .settle).step (.hub (.receive 0 4)) := rfl
  have hopen : (reply.2.run after).hub.IsOpen 0 := by
    rw [hlast, hhit, hreply, hserver]
    decide +kernel
  have hvalues : values = [1, 2] := by
    simp only [values, after, history, hhit]
    rw [hreply, hserver]
    decide +kernel
  obtain ⟨htold, hcounter⟩ := streams_tell_values_of_counter .default false
    (show ∀ operation ∈ [hit], operation.isRegular = true by decide)
    (show ∀ operation ∈ after, operation.isOrdinary = true by decide) hasks ⟨⟨1⟩, 0, 0⟩ hopened hdry
    hopen
  refine ⟨hvalues, htold, hcounter.symm.trans ?_⟩
  exact congrArg List.getLast? hvalues

end Server

end LiveCounter
