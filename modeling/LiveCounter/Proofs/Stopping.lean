import LiveCounter.Proofs.Punctuality
import LiveCounter.Proofs.Requests
import LiveCounter.Proofs.Slots

/-!
# What a stop achieves

A stop closes each open session, and whoever is closed is cancelled. A cancelled task ends as soon as
it is polled, wherever it was, so a stop that waits at all waits for no time. Afterwards nobody is
admitted any more, and nothing that is refused leaves a trace except in the reports.
-/

namespace LiveCounter

/-- The second session ends as the first one has ended, and for the same causes. -/
structure Session.SameEnd (before after : Session) : Prop where
  stage : after.stage = before.stage
  reason : after.reason = before.reason
  failure : after.failure = before.failure

/-- A session ends as itself. -/
theorem Session.SameEnd.refl (session : Session) : session.SameEnd session := ⟨rfl, rfl, rfl⟩

/-- An end that is kept twice is kept. -/
theorem Session.SameEnd.trans {first second third : Session} (h : first.SameEnd second)
    (h' : second.SameEnd third) : first.SameEnd third :=
  ⟨h'.stage.trans h.stage, h'.reason.trans h.reason, h'.failure.trans h.failure⟩

/-- A session that keeps its end is claimed if it was so before. -/
theorem Session.SameEnd.isClaimed {before after : Session} (h : before.SameEnd after) :
    after.isClaimed = before.isClaimed := by
  rw [Session.isClaimed, Session.isClaimed, h.stage]

namespace Connection

/-- What is claimed ends as it is claimed, whatever happens to it. -/
theorem sameEnd_move {connection : Connection} (h : connection.session.isClaimed = true)
    (move : Move) : connection.session.SameEnd (connection.move move).session := by
  cases hends : endsCourse move with
  | false =>
    have hsame := connection.sameCourse_move hends
    exact ⟨hsame.stage, hsame.reason, hsame.failure⟩
  | true =>
    cases move with
    | close cause =>
      simp only [Connection.move, withSession, Session.retired_of_isClaimed h]
      exact .refl _
    | claim reason =>
      simp only [Connection.move, withSession, h, if_true]
      exact .refl _
    | release => exact ⟨rfl, rfl, rfl⟩
    | _ => cases hends

/-- A session that is claimed keeps its end, whatever the moves. -/
theorem sameEnd_after {connection : Connection} (h : connection.session.isClaimed = true)
    (moves : List Move) : connection.session.SameEnd (connection.after moves).session := by
  induction moves generalizing connection with
  | nil => exact .refl _
  | cons move rest ih => exact (sameEnd_move h move).trans (ih (isClaimed_move h move))

/-- A session that is claimed keeps its end when its tasks settle. -/
theorem sameEnd_settled {connection : Connection} (h : connection.session.isClaimed = true)
    (policy : StreamPolicy) (now : Nat) :
    connection.session.SameEnd (connection.settled policy now).session := by
  have hpolled {current : Connection} (hcurrent : connection.session.SameEnd current.session)
      (moves : List Move) : connection.session.SameEnd (current.after moves).session :=
    hcurrent.trans (sameEnd_after (hcurrent.isClaimed.trans h) moves)
  unfold settled
  split
  · exact hpolled (hpolled (hpolled (.refl _) _) _) _
  · exact hpolled (hpolled (hpolled (.refl _) _) _) _

/-- A sweep ends an open session, and leaves one alone that has ended before. -/
theorem ended_swept {connection : Connection} (h : connection.session.Settled) :
    let swept := connection.after (connection.closeMoves .shutdown True)
    swept.session.stage = .terminated ∧
      (connection.session.stage = .open →
        swept.session.reason = some .shutdown ∧ swept.session.failure = none) ∧
      (connection.session.stage ≠ .open → connection.session.SameEnd swept.session) := by
  intro swept
  cases h with
  | live stage reason failure =>
    have hswept : swept.session = connection.session.retired .shutdown none := by
      simp only [swept, closeMoves, stage, true_and, if_true]
      rfl
    have hunclaimed := Session.isClaimed_of_open stage
    rw [hswept]
    refine ⟨Session.stage_retired hunclaimed .shutdown none, fun _ => ?_, fun hended => ?_⟩
    · simp [Session.retired, hunclaimed, reason, failure]
    · exact absurd stage hended
  | ended stage =>
    have hswept : swept = connection := by simp [swept, closeMoves, stage]
    rw [hswept]
    exact ⟨stage, fun hopen => by simp [stage] at hopen, fun _ => .refl _⟩

end Connection

namespace Hub

/-! ## Sessions -/

/-- A stop ends each open session for its own reason, and changes nothing about how others have
ended. -/
theorem session?_stop {hub : Hub} (h : hub.Consistent) (hpolicy : hub.policy.Usable)
    (timeout : Duration) {n : Nat} {session : Session} (hs : hub.session? n = some session) :
    ∃ ended, (hub.stop timeout).2.session? n = some ended ∧ ended.stage = .terminated ∧
      (session.stage = .open → ended.reason = some .shutdown ∧ ended.failure = none) ∧
      (session.stage ≠ .open → session.SameEnd ended) := by
  have hsettled := h.settled n session hs
  obtain ⟨connection, hconnection, rfl⟩ := connection_of_session? hs
  obtain ⟨hstage, hopen, hended⟩ := Connection.ended_swept hsettled
  have hclaimed :
      (connection.after (connection.closeMoves .shutdown True)).session.isClaimed = true := by
    simp [Session.isClaimed, hstage]
  have hlast : (connection.after (connection.closeMoves .shutdown True)).session.SameEnd
      (if timeout.nanos = 0 then connection.after (connection.closeMoves .shutdown True)
        else (connection.after (connection.closeMoves .shutdown True)).settled hub.policy
          hub.now).session := by
    split
    · exact .refl _
    · exact Connection.sameEnd_settled hclaimed hub.policy hub.now
  refine ⟨_, by simp only [session?, connections_stop h hpolicy, List.getElem?_map, hconnection,
    Option.map_some], hlast.stage.trans hstage, fun hlive => ?_,
    fun hover => (hended hover).trans hlast⟩
  exact ⟨hlast.reason.trans (hopen hlive).1, hlast.failure.trans (hopen hlive).2⟩

/-- Nobody has asked for the session of a number to close. -/
def isUnclaimed (hub : Hub) (n : Nat) : Bool :=
  (hub.session? n).any fun session => !session.isClaimed

/-- Of the sessions that are closed in turn those are counted whose closing nobody has claimed. -/
theorem closed_closeEach (reason : CloseReason) {ns : List Nat} (hns : ns.Nodup) (hub : Hub) :
    (closeEach (fun hub n => hub.close n reason) ns hub).1 = ns.countP hub.isUnclaimed := by
  induction ns generalizing hub with
  | nil => rfl
  | cons n rest ih =>
    obtain ⟨hn, hrest⟩ := List.nodup_cons.mp hns
    have hothers : (closeEach (fun hub n => hub.close n reason) rest (hub.close n reason).2).1 =
        rest.countP hub.isUnclaimed := by
      rw [ih hrest]
      refine List.countP_congr fun m hm => ?_
      have hne : m ≠ n := fun heq => hn (heq ▸ hm)
      rw [isUnclaimed, isUnclaimed, (acts_close hub n reason).session?_of_ne hne]
    have hclosed : (hub.close n reason).1 = .closed ↔ hub.isUnclaimed n = true := by
      by_cases hclaimed : ∀ session, hub.session? n = some session → session.isClaimed = true
      · refine iff_of_false ?_ ?_
        · rw [close, retire_of_isClaimed hclaimed]
          simp
        · simpa [isUnclaimed, Option.any_eq_true] using hclaimed
      · simp only [not_forall, Bool.not_eq_true] at hclaimed
        obtain ⟨session, hs, hunclaimed⟩ := hclaimed
        exact iff_of_true (retire_of_unclaimed hs hunclaimed reason none).1
          (by simp [isUnclaimed, hs, hunclaimed])
    simp only [closeEach, hothers, hclosed, List.countP_cons]
    split <;> rfl

/-- The open sessions are those in the table whose closing nobody has claimed. -/
theorem Booked.length_openConnections {hub : Hub} {lost : Nat} (h : hub.Booked lost) :
    hub.openConnections.length = hub.table.countP hub.isUnclaimed := by
  rw [openConnections, length_filter_eq_places, List.countP_eq_length_filter]
  apply length_eq_of_nodup (List.nodup_range.filter _) (h.table_nodup.filter _)
  intro n
  rw [List.mem_filter, List.mem_range, List.mem_filter]
  constructor
  · rintro ⟨hlt, hany⟩
    have hs : hub.session? n = some hub.connections[n].session := by simp [session?, hlt]
    have hopen : hub.connections[n].session.stage = .open := by
      simpa [hlt, Session.isOpen] using hany
    exact ⟨h.enlisted n (by rw [stage?, hs, Option.map_some, hopen]),
      by simp [isUnclaimed, hs, Session.isClaimed_of_open hopen]⟩
  · rintro ⟨hn, hany⟩
    obtain ⟨session, hs, hunclaimed⟩ := Option.any_eq_true .. |>.mp hany
    have hopen : session.stage = .open := (h.mem_table_iff hs (by simpa using hunclaimed)).mp hn
    obtain ⟨connection, hconnection, rfl⟩ := connection_of_session? hs
    obtain ⟨hlt, -⟩ := List.getElem?_eq_some_iff.mp hconnection
    exact ⟨hlt, by simp [hconnection, Session.isOpen, hopen]⟩

/-- A sweep counts the open sessions. -/
theorem closed_sweep {hub : Hub} {lost : Nat} (h : hub.Booked lost) :
    hub.sweep.1 = hub.openConnections.length := by
  rw [h.length_openConnections]
  exact closed_closeEach .shutdown h.table_nodup _

/-! ## Tasks -/

/-- Cancelled tasks that get to run at all have ended when the waiting is over. -/
theorem liveTasks_awaited {hub : Hub} (hpolicy : hub.policy.Usable)
    (h : ∀ connection ∈ hub.connections, connection.Ceases) {timeout : Duration}
    (htimeout : 0 < timeout.nanos) : (hub.awaited timeout).liveTasks = 0 := by
  unfold awaited
  split
  · next hnone => exact hnone
  · rw [awaitTasks_of_ceases hpolicy h, if_neg (Nat.ne_of_gt htimeout)]
    exact liveTasks_settle hpolicy h

/-- With some time to wait all tasks end in time, if the sweep leaves none that would go on. -/
theorem drained_stop {hub : Hub} (hpolicy : hub.policy.Usable)
    (h : ∀ connection ∈ hub.beginStop.sweep.2.connections, connection.Ceases) {timeout : Duration}
    (htimeout : 0 < timeout.nanos) :
    (hub.stop timeout).1.drained = true ∧ (hub.stop timeout).1.remainingTasks = 0 ∧
      (hub.stop timeout).2.stats.liveTasks = 0 := by
  have husable : hub.beginStop.sweep.2.policy.Usable :=
    (frame_path (path_sweep hub.beginStop)).1.symm ▸ hpolicy
  have hnone : (hub.beginStop.sweep.2.awaited timeout).liveTasks = 0 :=
    liveTasks_awaited husable h htimeout
  have hlater :
      (hub.stop timeout).2.liveTasks = (hub.beginStop.sweep.2.awaited timeout).liveTasks := by
    rw [liveTasks, (reports_stop hub timeout).connections, liveTasks]
  exact ⟨decide_eq_true hnone, hnone, hlater.trans hnone⟩

/-! ## Records -/

/-- Where all sessions have ended the records of live ones are empty. -/
theorem Consistent.records_of_ended {hub : Hub} (h : hub.Consistent)
    (hended : ∀ n session, hub.session? n = some session → session.stage = .terminated) :
    hub.table = [] ∧ hub.subscriptions.topics = [] ∧
      hub.stats.sessionsOpened = hub.stats.sessionsClosed := by
  have htable : hub.table = [] := by
    refine List.eq_nil_iff_forall_not_mem.mpr fun n hn => ?_
    obtain ⟨session, hs, hopen⟩ := (h.listed n).mp hn
    rw [hended n session hs] at hopen
    cases hopen
  have hopen : hub.openConnections = [] := by
    rw [← List.length_eq_zero_iff, h.length_openConnections, htable]
    rfl
  have htopics : hub.subscriptions.topics.length = 0 := by
    have hnum := h.numTopics_eq
    rwa [hopen] at hnum
  refine ⟨htable, List.length_eq_zero_iff.mp htopics, ?_⟩
  have hopened := h.opened_eq
  rwa [htable, List.length_nil, Nat.add_zero] at hopened

/-- The beginning of a stop does not touch the accounts of slots. -/
theorem Booked.beginStop {hub : Hub} {lost : Nat} (h : hub.Booked lost) :
    hub.beginStop.Booked lost :=
  h.of_eq (fun _ => rfl) ⟨rfl, rfl, rfl, rfl, rfl⟩

/-- A stop loses no slot. -/
theorem Booked.stop {hub : Hub} {lost : Nat} (h : hub.Booked lost) (hpolicy : hub.policy.Usable)
    (hceases : ∀ connection ∈ hub.beginStop.sweep.2.connections, connection.Ceases)
    (timeout : Duration) : (hub.stop timeout).2.Booked lost :=
  h.beginStop.path (path_stop hpolicy hceases timeout)

/-- A stop counts the open sessions. -/
theorem Booked.closed_stop {hub : Hub} {lost : Nat} (h : hub.Booked lost) (timeout : Duration) :
    (hub.stop timeout).1.closed = hub.openConnections.length :=
  closed_sweep h.beginStop

/-! ## Refusals -/

/-- The answer is that the hub is stopping, and apart from reports the hub is what it was. -/
structure Refuses (hub : Hub) (result : Except Denial Nat × Hub) : Prop where
  answer : result.1 = .error (.refused .stopping)
  reports : hub.Reports result.2
  stats : result.2.stats = hub.stats

/-- Reports do not bear on the statistics. -/
theorem Reports.stats_eq {hub later : Hub} (h : hub.Reports later) : later.stats = hub.stats := by
  obtain ⟨_, _, -, rfl⟩ := h
  rfl

/-- A hub that stops admits nobody. -/
theorem refuses_join {hub : Hub} (h : hub.stopping = true) (topic : Topic) (id : SessionId) :
    hub.Refuses (hub.join topic id) := by
  cases hub.joinCase topic id with
  | stopping _ hanswer hhub => exact ⟨hanswer, hhub, hhub.stats_eq⟩
  | full hstopping | panicked hstopping | admitted hstopping => simp [h] at hstopping

/-- A hub that is stopping accepts no client. -/
theorem connect_of_stopping {hub : Hub} (h : hub.stopping = true) (topic : Topic) (id : SessionId)
    (client : Client) (initial : Option Int64) :
    hub.connect topic id client initial =
      (.error (.refused .stopping), (hub.join topic id).2) :=
  connect_of_error (refuses_join h topic id).answer client initial

/-- A hub that is stopping refuses every client and stays what it was. -/
theorem refuses_connect {hub : Hub} (h : hub.stopping = true) (topic : Topic) (id : SessionId)
    (client : Client) (initial : Option Int64) :
    hub.Refuses (hub.connect topic id client initial) := by
  rw [connect_of_stopping h]
  have hjoin := refuses_join h topic id
  exact ⟨rfl, hjoin.reports, hjoin.stats⟩

end Hub

namespace Http

/-- The request asks for the stream of a topic. -/
structure Request.AsksForStream (request : Request) (topic : Topic) : Prop where
  method : request.method = "GET" ∨ request.method = "HEAD"
  route : ∃ params decoded, Route.ofPath? request.target.path = some ⟨.stream, some params⟩ ∧
    params.decode = .ok decoded ∧ decoded.topic = .ok topic

/-- The request is turned away because the hub is stopping, and apart from reports the server is
what it was. -/
structure TurnedAway (server : Server) (request : Request) (reply : Reply) : Prop where
  answer : ∃ response, reply.1 = some response ∧ response.status = 503 ∧ response.body = .text
    (if request.method = "HEAD" then "" else (Refusal.ofStream .stopping).json.compact)
  server : ∃ hub, server.hub.Reports hub ∧ hub.stats = server.hub.stats ∧
    reply.2 = { server with hub }

/-- A request for a stream is answered with the refusal of the hub. -/
theorem handleStream_of_stopping {server : Server} (h : server.hub.stopping = true) (topic : Topic)
    (id : SessionId) :
    handleStream server topic id = (some (Refusal.ofStream .stopping).response,
      { server with hub := (server.hub.join topic id).2 }) := by
  unfold handleStream
  rw [Hub.connect_of_stopping h]

/-- A request for a stream reaches the stream with its topic. -/
theorem serve_stream {request : Request} {topic : Topic} (h : request.AsksForStream topic)
    (server : Server) (circumstances : Circumstances) :
    ∃ route, Route.ofPath? request.target.path = some route ∧
      route.endpoint.answers request.method = true ∧
      serve server route request.target.query circumstances =
        handleStream server topic circumstances.sessionId := by
  obtain ⟨params, decoded, hroute, hdecode, htopic⟩ := h.route
  refine ⟨_, hroute, ?_, ?_⟩
  · rcases h.method with hget | hhead
    · rw [hget]; rfl
    · rw [hhead]; rfl
  · simp [serve, hdecode, Endpoint.queryField?, respond, withTopic, htopic, Except.map]

/-- While the hub stops, requests for streams are turned away. -/
theorem turnedAway_handle {server : Server} (h : server.hub.stopping = true) {request : Request}
    {topic : Topic} (hrequest : request.AsksForStream topic) (circumstances : Circumstances) :
    TurnedAway server request (handle server request circumstances) := by
  obtain ⟨route, hroute, hanswers, hserve⟩ := serve_stream hrequest server circumstances
  have hmethod : request.method ≠ "OPTIONS" := by
    rcases hrequest.method with hget | hhead
    · simp [hget]
    · simp [hhead]
  rw [handleStream_of_stopping h] at hserve
  have hjoin := Hub.refuses_join h topic circumstances.sessionId
  simp only [handle, if_neg hmethod, hroute, hanswers, if_true, hserve]
  split
  · next hhead =>
    exact ⟨⟨_, rfl, rfl, by rw [if_pos hhead]; rfl⟩, _, hjoin.reports, hjoin.stats, rfl⟩
  · next hget =>
    exact ⟨⟨_, rfl, rfl, by rw [if_neg hget]; rfl⟩, _, hjoin.reports, hjoin.stats, rfl⟩

end Http

namespace Hub

/-- A stop closes exactly the open sessions, each because of the stop, and reports their number.
Afterwards all sessions have ended, no record has a live one, and only those slots are taken that
calls have lost that panicked, which none does where the outboxes can be made. If the stop may wait
for any time at all, all tasks end without any time passing, whatever they were waiting for. From
then on, whatever is done, nobody is admitted, requests for streams are turned away, and this changes
nothing but the reports. -/
theorem stop_ends_all_sessions (policy : StreamPolicy) {operations : List Operation}
    (hregular : ∀ operation ∈ operations, operation.isRegular = true) (timeout : Duration) :
    let hub := (Hub.new policy).run operations
    let lost := lostSlots policy operations
    let report := (hub.stop timeout).1
    let stopped := (hub.stop timeout).2
    (report.closed = hub.openConnections.length ∧
      stopped.connections.length = hub.connections.length ∧
      ∀ n session, hub.session? n = some session → ∃ ended, stopped.session? n = some ended ∧
        ended.stage = .terminated ∧
        (session.stage = .open → ended.reason = some .shutdown ∧ ended.failure = none) ∧
        (session.stage ≠ .open → session.SameEnd ended)) ∧
      (stopped.table = [] ∧ stopped.subscriptions.topics = [] ∧
        stopped.stats.sessionsOpened = stopped.stats.sessionsClosed ∧
        stopped.stats.activeConnections = lost ∧
        (policy.queueCapacity ≤ Outbox.maxCapacity → lost = 0)) ∧
      stopped.now = hub.now ∧
      (0 < timeout.nanos → report.drained = true ∧ report.remainingTasks = 0 ∧
        stopped.stats.liveTasks = 0) ∧
      ∀ more, let later := stopped.run more
        (∀ topic id, later.Refuses (later.join topic id)) ∧
        (∀ topic id (transport : Transport) initial,
          later.Refuses (later.connect topic id transport.client initial)) ∧
        ∀ (server : Server) (request : Http.Request) (topic : Topic)
          (circumstances : Http.Circumstances), server.hub = later → request.AsksForStream topic →
          Http.TurnedAway server request (Http.handle server request circumstances) := by
  intro hub lost report stopped
  have hconsistent : hub.Consistent := (follows_run policy hregular).consistent
  have hbooked : hub.Booked lost := booked_run policy operations
  have husable : hub.policy.Usable := usable_run policy operations
  have hceases : ∀ connection ∈ hub.beginStop.sweep.2.connections, connection.Ceases :=
    ceases_sweep (hconsistent.outset .sweep)
  obtain ⟨hfollows, hnow, hstopping⟩ := hconsistent.follows_stop husable timeout
  have hlength : stopped.connections.length = hub.connections.length := by
    rw [connections_stop hconsistent husable, List.length_map]
  have hended (n : Nat) (ended : Session) (hs : stopped.session? n = some ended) :
      ended.stage = .terminated := by
    obtain ⟨connection, hconnection, -⟩ := connection_of_session? hs
    have hn : n < hub.connections.length :=
      hlength ▸ (List.getElem?_eq_some_iff.mp hconnection).1
    have hbefore : hub.session? n = some hub.connections[n].session := by simp [session?, hn]
    obtain ⟨found, hfound, hstage, -⟩ := session?_stop hconsistent husable timeout hbefore
    rwa [Option.some.inj (hs.symm.trans hfound)]
  obtain ⟨htable, htopics, hopened⟩ := hfollows.consistent.records_of_ended hended
  have hclosed : report.closed = hub.openConnections.length := hbooked.closed_stop timeout
  have hactive : stopped.active = lost := by
    rw [(hbooked.stop husable hceases timeout).active_eq, htable, List.length_nil, Nat.zero_add]
  refine ⟨⟨hclosed, hlength, fun n session hs => session?_stop hconsistent husable timeout hs⟩,
    ⟨htable, htopics, hopened, hactive, fun hfits => lostSlots_of_fits hfits operations⟩, hnow,
    drained_stop husable hceases, fun more => ?_⟩
  intro later
  have hstill : later.stopping = true := stopping_run hstopping more
  refine ⟨refuses_join hstill, fun topic id transport initial =>
    refuses_connect hstill topic id transport.client initial, ?_⟩
  rintro server request topic circumstances hserver hrequest
  exact Http.turnedAway_handle (hserver ▸ hstill) hrequest circumstances

/-- A client that never answers, a session that nobody serves and one that was closed before. -/
theorem stop_ends_all_sessions_of_stuck_client :
    let hub := (Hub.new .default).run [.connect (.random 0) ⟨0⟩ (.scripted fun _ => ⟨0, .stall⟩)
      (some 5), .join (.random 1) ⟨1⟩, .join (.random 1) ⟨2⟩, .pollWriter 0, .pass 3,
      .close 1 .explicit]
    let stopped := (hub.stop (.ofMillis 1)).2
    (hub.stop (.ofMillis 1)).1.closed = 2 ∧ (hub.stop (.ofMillis 1)).1.drained = true ∧
      stopped.table = [] ∧ stopped.now = 3 ∧
      ∃ ended, stopped.session? 0 = some ended ∧ ended.reason = some .shutdown := by
  intro hub stopped
  have hregular : ∀ operation ∈ [Operation.connect (.random 0) ⟨0⟩ (.scripted fun _ => ⟨0, .stall⟩)
      (some 5), .join (.random 1) ⟨1⟩, .join (.random 1) ⟨2⟩, .pollWriter 0, .pass 3,
      .close 1 .explicit], operation.isRegular = true := by decide
  obtain ⟨⟨hclosed, -, hsessions⟩, ⟨htable, -⟩, hnow, hdrained, -⟩ :=
    stop_ends_all_sessions .default hregular (.ofMillis 1)
  have hopen : hub.openConnections.length = 2 := by decide +kernel
  have hstage : (hub.session? 0).map (·.stage) = some .open := by decide +kernel
  have hbefore : hub.now = 3 := by decide +kernel
  obtain ⟨session, hs, hstage⟩ := Option.map_eq_some_iff.mp hstage
  obtain ⟨ended, hended, -, hreason, -⟩ := hsessions 0 session hs
  obtain ⟨hall, -⟩ := hdrained (by decide)
  exact ⟨hclosed.trans hopen, hall, htable, hnow.trans hbefore, ended, hended, (hreason hstage).1⟩

/-- Where an outbox cannot be made, the client that asked for it leaves a slot taken for good: a stop
that closes everybody does not give it back. -/
theorem stop_ends_all_sessions_not_after_panic :
    ¬ ∀ (policy : StreamPolicy) (operations : List Operation) (timeout : Duration),
      (∀ operation ∈ operations, operation.isRegular = true) →
      (((Hub.new policy).run operations).stop timeout).2.stats.activeConnections = 0 := by
  intro hsame
  have hlost := hsame { StreamPolicy.default with queueCapacity := 18446744073709551615 }
    [.connect (.random 0) ⟨0⟩ (.channel 1) (some 5)] (.ofMillis 1) (by decide)
  exact absurd hlost (by decide +kernel)

end Hub

end LiveCounter
