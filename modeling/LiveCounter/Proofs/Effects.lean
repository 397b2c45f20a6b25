import LiveCounter.Proofs.Conduct
import LiveCounter.Proofs.Punctuality
import LiveCounter.Proofs.Routing

/-!
# Requests take effect as a whole or not at all

A request that fails changes nothing but the reports. One that changes a counter changes that counter
alone and publishes its new value once, and one that removes a counter closes the streams of its
topic and nothing else.
-/

namespace LiveCounter

namespace Hub

/-! ## Publications are counted by publishing alone -/

/-- Reports publish nothing. -/
theorem Reports.published {hub later : Hub} (h : hub.Reports later) :
    later.published = hub.published := by
  obtain ⟨_, _, _, rfl⟩ := h
  rfl

/-- Retiring a session publishes nothing. -/
theorem published_retire (hub : Hub) (n : Nat) (reason : CloseReason)
    (fault : Option StreamFault) : (hub.retire n reason fault).2.published = hub.published := by
  by_cases h : ∀ session, hub.session? n = some session → session.isClaimed = true
  · rw [retire_of_isClaimed h]
  · simp only [not_forall, Bool.not_eq_true] at h
    obtain ⟨session, hs, hu⟩ := h
    rw [(retire_of_unclaimed hs hu reason fault).2.published]
    rfl

/-- A loop publishes nothing if its turns publish nothing. -/
theorem published_foldl {f : Hub → Nat → Hub}
    (h : ∀ hub n, (f hub n).published = hub.published) (ns : List Nat) (hub : Hub) :
    (ns.foldl f hub).published = hub.published := by
  induction ns generalizing hub with
  | nil => rfl
  | cons n rest ih => rw [List.foldl_cons, ih, h]

/-- Clearing a topic publishes nothing. -/
theorem published_clearTopic (hub : Hub) (topic : Topic) :
    (hub.clearTopic topic).2.published = hub.published := by
  have hclose (hub : Hub) (n : Nat) :
      (hub.closeLive n .topicClosed).2.published = hub.published := by
    unfold closeLive
    split
    · exact published_retire hub n .topicClosed none
    · rfl
  have hall := published_foldl hclose (hub.subscriptions.handles topic) hub
  simp only [clearTopic, closeEach_snd]
  split
  · exact hall
  · exact hall

/-- Accepting a client publishes nothing, its first value included. -/
theorem published_connect (hub : Hub) (topic : Topic) (id : SessionId) (client : Client)
    (initial : Option Int64) : (hub.connect topic id client initial).2.published = hub.published := by
  cases hub.joinCase topic id with
  | stopping _ hanswer hhub => rw [connect_of_error hanswer, hhub.published]
  | full _ _ hanswer hhub => rw [connect_of_error hanswer, hhub.published]
  | panicked _ _ hanswer hhub =>
    rw [connect_of_error hanswer, hhub]
    rfl
  | admitted _ _ hanswer hhub =>
    rw [(connect_of_ok hanswer client initial).2.published]
    exact hhub.published

/-- A delivery is part of a publication and is not counted by itself. -/
theorem published_deliver (event : CounterEvent) (report : Delivery) (hub : Hub) (n : Nat) :
    (deliver event report hub n).2.published = hub.published := by
  have hoffer : (hub.offer n event).2.published = hub.published := by
    rw [offer_snd]
    rfl
  unfold deliver
  split
  · rfl
  · simp only
    split
    · exact hoffer
    · split <;> exact hoffer
    · split <;> exact hoffer

/-- Deliveries are part of a publication and are not counted by themselves. -/
theorem published_deliverAll (event : CounterEvent) (ns : List Nat) (report : Delivery) (hub : Hub) :
    (deliverAll event ns report hub).2.published = hub.published := by
  induction ns generalizing report hub with
  | nil => rfl
  | cons n rest ih => rw [deliverAll, ih, published_deliver]

/-- A publication counts as one, however many take it. -/
theorem published_publish (hub : Hub) (event : CounterEvent) :
    (hub.publish event).2.published = hub.published + 1 := by
  have hstale (hub : Hub) (n : Nat) :
      (noteStale event.topic hub n).published = hub.published := by
    unfold noteStale
    simp only
    split <;> rfl
  have hdistribute : (hub.distribute event).2.published = hub.published + 1 := by
    refine (published_deliverAll event _ _ _).trans ?_
    exact published_foldl hstale _ _
  have hforced := published_foldl
    (fun hub n => published_retire hub n (.ofError .backpressureDrop) (some .backpressureDrop))
    (hub.distribute event).1.forced (hub.distribute event).2
  refine (published_foldl (fun hub n => published_retire hub n _ _) _ _).trans ?_
  exact hforced.trans hdistribute

/-! ## What becomes of the hub of a server -/

/-- The later hub comes out of the first one by operations that go through it and by reports. -/
inductive Undergoes (hub : Hub) : Hub → Prop
  | refl : Undergoes hub hub
  | step {later : Hub} (h : Undergoes hub later) (operation : Operation)
      (hregular : operation.isRegular = true) : Undergoes hub (later.step operation)
  | reports {later last : Hub} (h : Undergoes hub later) (hreports : later.Reports last) :
      Undergoes hub last

variable {hub later last : Hub}

/-- A line in the log is a report. -/
theorem Undergoes.log (h : hub.Undergoes later) (level : LogLevel) (message : String)
    (fields : List (String × Json)) : hub.Undergoes (later.log level message fields) :=
  h.reports (reports_log later level message fields)

/-- What a hub undergoes adds up. -/
theorem Undergoes.trans (h : hub.Undergoes later) (h' : later.Undergoes last) :
    hub.Undergoes last := by
  induction h' with
  | refl => exact h
  | step _ operation hregular ih => exact ih.step operation hregular
  | reports _ hreports ih => exact ih.reports hreports

/-- A regular run is undergone. -/
theorem Undergoes.run (h : hub.Undergoes later) {operations : List Operation}
    (hregular : ∀ operation ∈ operations, operation.isRegular = true) :
    hub.Undergoes (later.run operations) := by
  induction operations generalizing later with
  | nil => exact h
  | cons operation rest ih =>
    obtain ⟨hfirst, hrest⟩ := List.forall_mem_cons.mp hregular
    exact ih (h.step operation hfirst) hrest

/-- Time that passes while tasks run is undergone. -/
theorem Undergoes.reaches (h : hub.Undergoes later) (hreaches : later.Reaches last) :
    hub.Undergoes last := by
  obtain ⟨operations, hregular, -, rfl⟩ := hreaches
  exact h.run hregular

/-- What a hub undergoes comes about by changes. -/
theorem Undergoes.follows (h : hub.Undergoes later) (hconsistent : hub.Consistent) :
    hub.Follows later := by
  induction h with
  | refl => exact hconsistent.follows
  | step _ operation hregular ih => exact ih.trans (ih.consistent.follows_step hregular)
  | reports _ hreports ih => exact ih.trans (ih.consistent.follows_path hreports.path)

end Hub

namespace Server

/-- A hub undergoes what a route makes of it. -/
theorem undergoes_of_conduct {server : Server} {route : Http.Route}
    {circumstances : Http.Circumstances} {reply : Http.Reply}
    (hconduct : Http.Conduct server route circumstances reply) :
    server.hub.Undergoes reply.2.hub := by
  cases hconduct with
  | refused _ _ _ _ hhub => exact .reports .refl hhub
  | changed topic value _ _ _ hhub =>
    exact (Hub.Undergoes.refl.reports hhub).step (.publish ⟨topic, value⟩) rfl
  | removed topic _ _ _ _ _ _ _ hhub hlater =>
    exact ((Hub.Undergoes.refl.reports hhub).step (.clearTopic topic) rfl).reports hlater
  | opened topic _ _ _ _ _ hlater =>
    exact (Hub.Undergoes.refl.step (.connect topic circumstances.sessionId
      (.channel Http.bodyBuffer) (server.counters.get? topic)) rfl).reports hlater
  | cutOff topic =>
    exact Hub.Undergoes.refl.step (.connect topic circumstances.sessionId
      (.channel Http.bodyBuffer) (server.counters.get? topic)) rfl
  | told _ _ _ _ _ hhub => exact .reports .refl hhub

/-- A hub undergoes every request. -/
theorem undergoes_request (server : Server) (request : Http.Request)
    (circumstances : Http.Circumstances) :
    server.hub.Undergoes (Http.handle server request circumstances).2.hub := by
  cases hroute : request.route? with
  | none =>
    rw [(Http.handle_of_route?_eq_none hroute server circumstances).1]
    exact .refl
  | some route =>
    have hserved := undergoes_of_conduct
      (Http.conduct_serve server route request.target.query circumstances)
    rw [(Http.handle_of_route? hroute server circumstances).2.2]
    split
    · cases (Http.serve server route request.target.query circumstances).session? with
      | none => exact hserved
      | some n => exact hserved.step (.loseClient n) rfl
    · exact hserved

/-! ## Graceful stops -/

/-- The server between the two waits, when its hub has stopped. -/
def drained (server : Server) (hub : Hub) (tasks : List Nat) (timeout : Duration) : Server :=
  { server.cancel with hub }.log .info "waiting for server tasks to complete"
    [("task_count", .nat tasks.length),
      ("timeout_ms", .nat (min timeout.millis ((1 <<< 64) - 1)))]

/-- Waiting for tasks lets time pass until the last of them ends or the timeout is over, or leaves the
server alone if there is nothing to wait for. -/
theorem awaitHandles_cases (server : Server) (tasks : List Nat) (timeout : Duration) :
    let waiting := min (tasks.foldl max 0) timeout.patience
    waiting = 0 ∧ (server.awaitHandles tasks timeout).2 = server ∨
      (server.awaitHandles tasks timeout).2 =
        { server with hub := server.hub.advance waiting } := by
  simp only [awaitHandles, Hub.deadline_eq, Nat.add_sub_cancel_left]
  split
  · next hnone =>
    rw [List.isEmpty_iff.mp hnone]
    exact Or.inl ⟨Nat.zero_min _, rfl⟩
  · split
    · next hzero => exact Or.inl ⟨by rw [hzero, Nat.min_zero], rfl⟩
    · exact Or.inr rfl

/-- A graceful stop reports what the stop of the hub comes to. After it the server waits for the
given tasks, and otherwise there is nothing left but to report. -/
theorem stopGracefully_cases (server : Server) (tasks : List Nat) (timeout : Duration) :
    let paused := server.drained (server.hub.stop timeout).2 tasks timeout
    let stopped := (server.stopGracefully tasks timeout).2
    let waiting := min (tasks.foldl max 0) timeout.patience
    (server.stopGracefully tasks timeout).1 = (server.hub.stop timeout).1 ∧
      stopped.stopping = true ∧ stopped.counters = server.counters ∧
      (waiting = 0 ∧ paused.hub.Reports stopped.hub ∨
        (paused.hub.advance waiting).Reports stopped.hub) := by
  intro paused stopped waiting
  have hstop : server.stopGracefully tasks timeout =
      let result := paused.awaitHandles tasks timeout
      if result.1 then ((server.hub.stop timeout).1, result.2)
      else ((server.hub.stop timeout).1, result.2.log .warn
        ("shutdown timed out after " ++ timeout.text ++ ", some tasks may still be running") []) :=
    rfl
  have hlast := paused.awaitHandles_cases tasks timeout
  simp only [stopped, hstop]
  generalize paused.awaitHandles tasks timeout = result at hlast ⊢
  obtain ⟨ended, last⟩ := result
  obtain ⟨hzero, rfl⟩ | rfl : waiting = 0 ∧ last = paused ∨
      last = { paused with hub := paused.hub.advance waiting } := hlast
  · cases ended with
    | true => exact ⟨rfl, rfl, rfl, Or.inl ⟨hzero, .refl _⟩⟩
    | false => exact ⟨rfl, rfl, rfl, Or.inl ⟨hzero, Hub.reports_log _ _ _ _⟩⟩
  · cases ended with
    | true => exact ⟨rfl, rfl, rfl, Or.inr (.refl _)⟩
    | false => exact ⟨rfl, rfl, rfl, Or.inr (Hub.reports_log _ _ _ _)⟩

/-- After the stop of its hub a graceful stop lets time pass, and reports. -/
theorem undergoes_rest_of_stopGracefully {server : Server} (husable : server.hub.policy.Usable)
    (tasks : List Nat) (timeout : Duration) :
    (server.hub.stop timeout).2.Undergoes (server.stopGracefully tasks timeout).2.hub := by
  have hpolicy := (Hub.reaches_stop husable timeout).policy_eq
  have hpaused : (server.hub.stop timeout).2.Undergoes
      (server.drained (server.hub.stop timeout).2 tasks timeout).hub := Hub.Undergoes.refl.log _ _ _
  obtain ⟨-, -, -, ⟨-, hreports⟩ | hreports⟩ := server.stopGracefully_cases tasks timeout
  · exact hpaused.reports hreports
  · exact (hpaused.reaches (Hub.reaches_advance (hpolicy.symm ▸ husable) _)).reports hreports

/-- A hub undergoes a graceful stop. -/
theorem undergoes_stopGracefully {server : Server} (husable : server.hub.policy.Usable)
    (tasks : List Nat) (timeout : Duration) :
    server.hub.Undergoes (server.stopGracefully tasks timeout).2.hub :=
  (Hub.Undergoes.refl.reaches (Hub.reaches_stop husable timeout)).trans
    (undergoes_rest_of_stopGracefully husable tasks timeout)

/-- A hub undergoes every regular operation of its server. -/
theorem undergoes_step {server : Server} (husable : server.hub.policy.Usable) {operation : Operation}
    (hregular : operation.isRegular = true) :
    server.hub.Undergoes (server.step operation).hub := by
  cases operation with
  | hub operation => exact Hub.Undergoes.refl.step operation hregular
  | settle => exact .reaches .refl (Hub.reaches_settle _)
  | advance millis => exact .reaches .refl (Hub.reaches_advance husable millis)
  | stop timeout => exact .reaches .refl (Hub.reaches_stop husable timeout)
  | cancel => exact .refl
  | stopGracefully tasks timeout => exact undergoes_stopGracefully husable tasks timeout
  | request request circumstances => exact undergoes_request server request circumstances

/-! ## Runs of a server -/

/-- Every operation of a server leaves the records of its hub in agreement. -/
theorem follows_step {server : Server} (h : server.hub.Consistent)
    (husable : server.hub.policy.Usable) {operation : Operation}
    (hregular : operation.isRegular = true) : server.hub.Follows (server.step operation).hub :=
  (undergoes_step husable hregular).follows h

/-- The hub of a server comes about by changes in every regular run. -/
theorem follows_run (policy : StreamPolicy) (servesMetrics : Bool) {operations : List Operation}
    (hregular : ∀ operation ∈ operations, operation.isRegular = true) :
    (Hub.new policy).Follows ((initial policy servesMetrics).run operations).hub := by
  induction operations using List.reverseRecOn with
  | nil => exact (Hub.consistent_new policy).follows
  | append_singleton operations operation ih =>
    have hbefore := ih fun other hother => hregular other (List.mem_append_left _ hother)
    have husable : ((initial policy servesMetrics).run operations).hub.policy.Usable := by
      rw [hbefore.policy_eq]
      exact policy.usable_clamped
    rw [run_append]
    exact hbefore.trans (follows_step hbefore.consistent husable (hregular operation (by simp)))

/-! ## What a request leaves behind -/

/-- Counters, live sessions, subscriptions, outboxes and the number of publications are what they
were. -/
structure Spared (server later : Server) : Prop where
  counters : later.counters = server.counters
  table : later.hub.table = server.hub.table
  subscriptions : later.hub.subscriptions = server.hub.subscriptions
  connections : later.hub.connections = server.hub.connections
  published : later.hub.published = server.hub.published

/-- The counter of a topic has got a value, others have kept theirs, and apart from reports all that
happened is that this value was published once. -/
structure Wrote (server : Server) (topic : Topic) (value : Int64) (later : Server) : Prop where
  counters : ∀ other, later.counters.get? other =
    if other = topic then some value else server.counters.get? other
  event : ∃ hub, server.hub.Reports hub ∧ later.hub = (hub.publish ⟨topic, value⟩).2
  published : later.hub.published = server.hub.published + 1

/-- The counter of a topic is gone, others have kept their values, nothing has been published, and
exactly the open sessions of the topic have been closed. -/
structure Removed (server : Server) (topic : Topic) (later : Server) : Prop where
  counters : ∀ other, later.counters.get? other =
    if other = topic then none else server.counters.get? other
  published : later.hub.published = server.hub.published
  length : later.hub.connections.length = server.hub.connections.length
  closed : ∀ (n : Nat) (session : Session), server.hub.session? n = some session → session.stage = .open →
    session.topic = topic → ∃ ended, later.hub.session? n = some ended ∧
      ended.stage = .terminated ∧ ended.reason = some .topicClosed ∧ ended.failure = none
  kept : ∀ (n : Nat) (connection : Connection), server.hub.connections[n]? = some connection →
    (connection.session.stage ≠ .open ∨ connection.session.topic ≠ topic) →
      later.hub.connections[n]? = some connection

/-- Neither counters nor the number of publications have changed. -/
structure Unwritten (server later : Server) : Prop where
  counters : later.counters = server.counters
  published : later.hub.published = server.hub.published

/-- Reports spare everything. -/
theorem spared_of_reports {server : Server} {hub : Hub} (h : server.hub.Reports hub) :
    server.Spared { server with hub } := by
  obtain ⟨_, _, -, rfl⟩ := h
  exact ⟨rfl, rfl, rfl, rfl, rfl⟩

/-- All that is left of a call that panicked is a slot. -/
theorem spared_of_panicked {server : Server} {topic : Topic} {id : SessionId} {client : Client}
    {initial : Option Int64}
    (h : (server.hub.connect topic id client initial).1 = .error .panicked) :
    server.Spared { server with hub := (server.hub.connect topic id client initial).2 } := by
  have hpanicked : Hub.hasPanicked (server.hub.join topic id).1 = true := by
    rw [← Hub.hasPanicked_connect _ _ _ client initial, h]
    rfl
  rw [Hub.connect_of_error (Hub.eq_panicked_of_hasPanicked hpanicked),
    (Hub.join_of_hasPanicked hpanicked).1]
  exact ⟨rfl, rfl, rfl, rfl, rfl⟩

/-- Where everything is spared nothing was written. -/
theorem Spared.unwritten {server later : Server} (h : server.Spared later) :
    server.Unwritten later :=
  ⟨h.counters, h.published⟩

/-- A value is written by giving it to the counter and publishing it, between reports. -/
theorem wrote_of_reports {server : Server} {hub : Hub} (h : server.hub.Reports hub) (topic : Topic)
    (value : Int64) :
    server.Wrote topic value
      { server with
        hub := (hub.publish ⟨topic, value⟩).2
        counters := server.counters.put topic value } where
  counters := server.counters.get?_put topic value
  event := ⟨hub, h, rfl⟩
  published := by rw [Hub.published_publish, h.published]

/-- A counter is removed by dropping it and clearing its topic, between reports. -/
theorem removed_of_reports {server : Server} (hconsistent : server.hub.Consistent) {topic : Topic}
    {hub later : Hub} (h : server.hub.Reports hub) (hlater : (hub.clearTopic topic).2.Reports later) :
    server.Removed topic
      { server with hub := later, counters := server.counters.erase topic } := by
  have hconnections {n : Nat} {connection : Connection}
      (hconnection : server.hub.connections[n]? = some connection) :
      later.connections[n]? = some (connection.after
        (connection.closeMoves .topicClosed (connection.session.topic = topic))) := by
    rw [hlater.connections]
    exact (hconsistent.reports h).connections_clearTopic topic (by rwa [h.connections])
  constructor
  case counters => exact server.counters.get?_erase topic
  case published =>
    rw [hlater.published, Hub.published_clearTopic, h.published]
  case length =>
    rw [hlater.connections, (hub.acts_clearTopic topic).length_eq, h.connections]
  case closed =>
    rintro n session hs hopen rfl
    have hsettled := hconsistent.settled n session hs
    obtain ⟨connection, hconnection, rfl⟩ := Hub.connection_of_session? hs
    cases hsettled with
    | ended stage => simp [stage] at hopen
    | live _ reason failure =>
      refine ⟨connection.session.retired .topicClosed none, ?_, ?_⟩
      · simp [Hub.session?, hconnections hconnection, Connection.closeMoves, hopen, Connection.move,
          Connection.withSession, Cause.reason, Cause.failure]
      · simp [Session.retired, Session.isClaimed_of_open hopen, reason, failure]
  case kept =>
    intro n connection hconnection hother
    have hnot : ¬ (connection.session.stage = .open ∧ connection.session.topic = topic) :=
      fun hboth => hother.elim (fun h => h hboth.1) fun h => h hboth.2
    have hnone : connection.closeMoves .topicClosed (connection.session.topic = topic) = [] :=
      if_neg hnot
    rw [hconnections hconnection, hnone, Connection.after_nil]

/-! ## Each outcome of a request -/

section Outcomes

variable {server : Server} {route : Http.Route} {circumstances : Http.Circumstances}
  {reply : Http.Reply}

/-- A request that fails spares everything and opens no stream. -/
theorem spared_of_failure (hconduct : Http.Conduct server route circumstances reply)
    (hfailure : reply.isSuccess = false) :
    server.Spared reply.2 ∧ reply.session? = none := by
  cases hconduct with
  | refused _ _ _ hbody hhub => exact ⟨spared_of_reports hhub, hbody⟩
  | changed topic value =>
    cases (route.endpoint.isSuccess_confirmation topic value).1.symm.trans hfailure
  | removed _ _ _ _ _ _ hsuccess => cases hsuccess.symm.trans hfailure
  | opened => cases hfailure
  | cutOff topic _ hpanicked => exact ⟨spared_of_panicked hpanicked, rfl⟩
  | told _ _ _ _ hbody hhub => exact ⟨spared_of_reports hhub, hbody⟩

/-- A request that writes and succeeds has written the value it answers with. -/
theorem wrote_of_success (hconduct : Http.Conduct server route circumstances reply)
    (hwrites : route.endpoint.writes = true) (hsuccess : reply.isSuccess = true) :
    ∃ topic value, route.topic? circumstances = some topic ∧
      reply.1 = some (route.endpoint.confirmation topic value) ∧
      server.Wrote topic value reply.2 := by
  cases hconduct with
  | refused _ _ hfailure => cases hfailure.symm.trans hsuccess
  | changed topic value hub _ htopic hhub =>
    exact ⟨topic, value, htopic, rfl, wrote_of_reports hhub topic value⟩
  | removed _ _ _ _ hdelete =>
    rw [hdelete] at hwrites
    cases hwrites
  | opened _ _ _ hstream =>
    rw [hstream] at hwrites
    cases hwrites
  | cutOff => cases hsuccess
  | told _ _ hreads => simp [hreads] at hwrites

/-- A request that deletes and succeeds has removed the counter of its topic. -/
theorem removed_of_success (hconsistent : server.hub.Consistent)
    (hconduct : Http.Conduct server route circumstances reply) (hdelete : route.endpoint = .delete)
    (hsuccess : reply.isSuccess = true) :
    ∃ topic, route.topic? circumstances = some topic ∧ reply.session? = none ∧
      server.Removed topic reply.2 := by
  cases hconduct with
  | refused _ _ hfailure => cases hfailure.symm.trans hsuccess
  | changed _ _ _ hwrites =>
    rw [hdelete] at hwrites
    cases hwrites
  | removed topic _ _ _ _ htopic _ hbody hhub hlater =>
    exact ⟨topic, htopic, hbody, removed_of_reports hconsistent hhub hlater⟩
  | opened _ _ _ hstream => simp [hdelete] at hstream
  | cutOff => cases hsuccess
  | told _ _ _ hother => exact absurd hdelete hother

/-- A request that neither writes nor deletes changes no counter and publishes nothing. -/
theorem unwritten_of_reads (hconduct : Http.Conduct server route circumstances reply)
    (hreads : route.endpoint.writes = false) (hother : route.endpoint ≠ .delete) :
    server.Unwritten reply.2 := by
  cases hconduct with
  | refused _ _ _ _ hhub => exact (spared_of_reports hhub).unwritten
  | changed _ _ _ hwrites => simp [hreads] at hwrites
  | removed _ _ _ _ hdelete => exact absurd hdelete hother
  | opened topic _ _ _ _ _ hlater =>
    exact ⟨rfl, by rw [hlater.published, Hub.published_connect]⟩
  | cutOff => exact ⟨rfl, Hub.published_connect _ _ _ _ _⟩
  | told _ _ _ _ _ hhub => exact (spared_of_reports hhub).unwritten

end Outcomes

/-- A request takes effect as a whole or not at all. If there is no response that reports success,
counters, live sessions, subscriptions, outboxes and the number of publications are what they were,
also if the handling of the request has panicked. If an endpoint that writes reports success, the
counter of the topic has the value that the response tells, no other counter has changed, and the
value was published once. If a removal reports success, the counter is gone, no other counter has
changed, nothing was published, and exactly the open sessions of the topic were closed. All other
requests change no counter and publish nothing. -/
theorem requests_act_wholly_or_not_at_all (policy : StreamPolicy) (servesMetrics : Bool)
    {operations : List Operation} (hregular : ∀ operation ∈ operations, operation.isRegular = true)
    (request : Http.Request) (circumstances : Http.Circumstances) :
    let server := (initial policy servesMetrics).run operations
    let reply := Http.handle server request circumstances
    (reply.isSuccess = false → server.Spared reply.2) ∧
      (∀ route, request.route? = some route → reply.isSuccess = true →
        (route.endpoint.writes = true → ∃ topic value, route.topic? circumstances = some topic ∧
          reply.1.map (·.body) = some (if request.method = "HEAD" then .text ""
            else (route.endpoint.confirmation topic value).body) ∧
          server.Wrote topic value reply.2) ∧
        (route.endpoint = .delete → ∃ topic, route.topic? circumstances = some topic ∧
          server.Removed topic reply.2)) ∧
      ((∀ route, request.route? = some route →
        route.endpoint.writes = false ∧ route.endpoint ≠ .delete) → server.Unwritten reply.2) := by
  intro server reply
  have hconsistent : server.hub.Consistent :=
    (follows_run policy servesMetrics hregular).consistent
  cases hroute : request.route? with
  | none =>
    have hsame : server.Spared reply.2 := by
      rw [(Http.handle_of_route?_eq_none hroute server circumstances).1]
      exact spared_of_reports (.refl _)
    exact ⟨fun _ => hsame, by simp, fun _ => hsame.unwritten⟩
  | some route =>
    obtain ⟨hstatus, hbody, hserver⟩ := Http.handle_of_route? hroute server circumstances
    have htext := Http.handle_of_text hroute server circumstances
    have hconduct := Http.conduct_serve server route request.target.query circumstances
    refine ⟨fun hfailure => ?_, ?_, fun hother => ?_⟩
    · obtain ⟨hspared, hnone⟩ := spared_of_failure hconduct (hstatus.symm.trans hfailure)
      rwa [← htext hnone] at hspared
    · intro found hfound hsuccess
      obtain rfl := Option.some.inj hfound
      have hserved := hstatus.symm.trans hsuccess
      refine ⟨fun hwrites => ?_, fun hdelete => ?_⟩
      · obtain ⟨topic, value, htopic, hconfirmed, hwrote⟩ :=
          wrote_of_success hconduct hwrites hserved
        have hnone := (route.endpoint.isSuccess_confirmation topic value).2
        rw [← htext (by rw [Http.Reply.session?, hconfirmed]; exact hnone)] at hwrote
        exact ⟨topic, value, htopic, by rw [hbody, hconfirmed]; rfl, hwrote⟩
      · obtain ⟨topic, htopic, hnone, hremoved⟩ :=
          removed_of_success hconsistent hconduct hdelete hserved
        rw [← htext hnone] at hremoved
        exact ⟨topic, htopic, hremoved⟩
    · obtain ⟨hreads, hdelete⟩ := hother route rfl
      have hunwritten := unwritten_of_reads hconduct hreads hdelete
      rw [hserver]
      split
      · refine ⟨hunwritten.counters, ?_⟩
        rw [← hunwritten.published]
        cases (Http.serve server route request.target.query circumstances).session? with
        | none => rfl
        | some n => rfl
      · exact hunwritten

/-- The first hit of a counter that has a stream already. -/
theorem requests_act_wholly_or_not_at_all_of_first_hit :
    let topic : Topic := ⟨"default", "abc", by decide, by decide⟩
    let operations : List Operation := [.hub (.connect topic ⟨0⟩ (.channel 4) none), .settle]
    let server := (initial .default false).run operations
    let later := (Http.handle server ⟨"GET", "/hit/abc", none⟩ ⟨⟨1⟩, 0, 0⟩).2
    (server.hub.session? 0).map (·.stage) = some .open ∧ server.counters.get? topic = none ∧
      ∃ value, server.Wrote topic value later := by
  intro topic operations server later
  have hroute : Http.Request.route? ⟨"GET", "/hit/abc", none⟩ =
      some ⟨.hit, some ⟨none, "abc"⟩⟩ := by
    have hpath := Http.Route.ofPath?_verb_key
      (show "/hit/abc" = "/" ++ "hit" ++ "/" ++ "abc" by decide) (by decide) (by decide) (by decide)
    simp only [Http.Request.route?, hpath]
    decide
  have hsuccess := (Http.handle_of_route? hroute server ⟨⟨1⟩, 0, 0⟩).1.trans
    (show _ = true by decide +kernel)
  obtain ⟨-, hall, -⟩ := requests_act_wholly_or_not_at_all .default false
    (show ∀ operation ∈ operations, operation.isRegular = true by decide)
    ⟨"GET", "/hit/abc", none⟩ ⟨⟨1⟩, 0, 0⟩
  obtain ⟨hwrites, -⟩ := hall _ hroute hsuccess
  obtain ⟨found, value, htopic, -, hwrote⟩ := hwrites rfl
  obtain rfl : topic = found :=
    Option.some.inj ((show some topic = _ by decide +kernel).trans htopic)
  exact ⟨by decide +kernel, by decide +kernel, value, hwrote⟩

end Server

end LiveCounter
