import LiveCounter.Proofs.Conveying
import LiveCounter.Proofs.Pacing

/-!
# Clients that have read all there is

When the tasks of a session have nothing to do, and its client has a buffer that it has read to the
end, nothing is on the way any more: what the client has read is what was queued, and the outbox has
room for the next event.
-/

namespace LiveCounter

namespace Frame

/-- The value that a record reports. -/
def value? : Frame → Option Int64
  | .event value => some value
  | .keepalive => none

/-- A keepalive reports no value. -/
theorem filterMap_value?_unlessKeepalive (frames : List Frame) :
    (frames.flatMap unlessKeepalive).filterMap value? = frames.filterMap value? := by
  induction frames with
  | nil => rfl
  | cons frame rest ih =>
    cases frame with
    | event value => simpa [unlessKeepalive, value?] using ih
    | keepalive => exact ih

/-- The record of an event reports its value. -/
theorem filterMap_value?_ofEvent (events : List CounterEvent) :
    (events.map ofEvent).filterMap value? = events.map (·.value) := by
  induction events with
  | nil => rfl
  | cons event rest ih => simpa [ofEvent, value?] using ih

end Frame

/-! ## Clients with a buffer -/

namespace Client

/-- The client has a buffer. -/
def IsBuffered (client : Client) : Prop :=
  ∃ capacity unread, client.peer = .buffered capacity unread

/-- A client keeps its buffer when a frame is put into it. -/
theorem IsBuffered.fill {client : Client} (h : client.IsBuffered) (now : Nat) (frame : Frame)
    (capacity : Nat) (unread : List Frame) :
    (client.fill now frame capacity unread).2.IsBuffered := by
  unfold Client.fill
  split
  · exact h
  · split
    · exact ⟨_, _, rfl⟩
    · exact h

/-- A write to a client with a buffer puts a frame into it. -/
theorem IsBuffered.beginWrite_eq {client : Client} (h : client.IsBuffered) (now : Nat)
    (frame : Frame) :
    ∃ capacity unread, client.beginWrite now frame = client.fill now frame capacity unread := by
  obtain ⟨capacity, unread, hpeer⟩ := h
  exact ⟨capacity, unread, by simp only [Client.beginWrite, hpeer]⟩

/-- Whatever a writer does, the client keeps its buffer. -/
theorem kept_isBuffered : Writer.Kept IsBuffered where
  begin client now frame h := by
    obtain ⟨capacity, unread, hfill⟩ := h.beginWrite_eq now frame
    exact hfill ▸ h.fill now frame capacity unread
  delay client now frame h := by
    obtain ⟨capacity, unread, hpeer⟩ := h
    simp only [Client.endDelay, hpeer]
    exact IsBuffered.fill ⟨_, _, hpeer⟩ now frame capacity unread
  retry client now frame h := by
    obtain ⟨capacity, unread, hpeer⟩ := h
    simp only [Client.retry, hpeer]
    exact IsBuffered.fill ⟨_, _, hpeer⟩ now frame capacity unread

/-- A client keeps its buffer when it reads. -/
theorem IsBuffered.receive {client : Client} (h : client.IsBuffered) (limit : Nat) :
    (client.receive limit).2.IsBuffered := by
  obtain ⟨capacity, unread, hpeer⟩ := h
  simp only [Client.receive, hpeer]
  exact ⟨_, _, rfl⟩

/-- A client keeps its buffer when it leaves. -/
theorem IsBuffered.leave {client : Client} (h : client.IsBuffered) : client.leave.IsBuffered := by
  obtain ⟨capacity, unread, hpeer⟩ := h
  simp only [Client.leave, hpeer]
  exact ⟨_, _, rfl⟩

end Client

/-- An outbox keeps its capacity when an event is taken out. -/
theorem Outbox.capacity_pop (outbox : Outbox) : outbox.pop.2.capacity = outbox.capacity := by
  unfold Outbox.pop
  split
  · rfl
  · split <;> rfl

namespace Writer

/-- A write to a buffer that does not end at once waits for room. -/
theorem wait_beginWrite {policy : StreamPolicy} {frame : Frame} {desk last : Desk} {write : Write}
    (hbuffered : desk.client.IsBuffered)
    (h : beginWrite policy frame desk = (.halted (.suspended (.writing write)), last)) :
    write.wait = .client := by
  obtain ⟨capacity, unread, hfill⟩ := hbuffered.beginWrite_eq desk.clock.now frame
  have hstep := desk.client.fill_ne_delayed desk.clock.now frame capacity unread
  rw [← hfill] at hstep
  rw [beginWrite] at h
  generalize desk.client.beginWrite desk.clock.now frame = result at h hstep
  obtain ⟨step, client⟩ := result
  cases step with
  | stuck =>
    cases h
    rfl
  | delayed millis => exact absurd rfl (hstep millis)
  | accepted | refused | panicked => cases h

/-- A write that waits for its client and does not end goes on to wait for it. -/
theorem wait_resumeWrite {policy : StreamPolicy} {write later : Write} {desk last : Desk}
    (hwait : write.wait = .client)
    (h : resumeWrite policy write desk = (.halted (.suspended (.writing later)), last)) :
    later.wait = .client := by
  rw [resumeWrite_eq] at h
  generalize answer write desk = result at h
  obtain ⟨step, client⟩ := result
  cases step with
  | accepted | refused | panicked => cases h
  | delayed | stuck =>
    simp only at h
    split at h
    · cases h
    · cases h
      simp [hwait]

/-- The work of a writer leaves the capacity of the outbox alone. -/
theorem stepwise_capacity (policy : StreamPolicy) :
    Stepwise policy fun before after =>
      after.session.outbox.capacity = before.session.outbox.capacity where
  refl _ := rfl
  trans hfirst hsecond := hsecond.trans hfirst
  chosen keepalive desk := by
    have hpop := desk.session.outbox.capacity_pop
    unfold choose
    split
    · rfl
    · split
      · rfl
      · split
        · rfl
        · next heq => rwa [heq] at hpop
        · split
          · split <;> rfl
          · rfl
  armed desk := by rw [session_armKeepalive]
  begun frame desk := by
    unfold beginWrite
    simp only
    split <;> rfl
  resumed write desk := by
    rw [session_resumeWrite]
    split <;> rfl

end Writer

namespace Connection

/-- The session is about the topic, its outbox is one that has room for something, and its client
has a buffer, so that no write waits for the end of a delay. -/
structure Buffered (topic : Topic) (connection : Connection) : Prop where
  topic_eq : connection.session.topic = topic
  room : 0 < connection.session.outbox.capacity
  client : ∀ service, connection.service = some service → service.client.IsBuffered
  wait : ∀ service, connection.service = some service →
    ∀ write, service.phase = .writing write → write.wait = .client

/-- An outbox keeps its capacity with every move. -/
theorem capacity_move (connection : Connection) (move : Move) :
    (connection.move move).session.outbox.capacity = connection.session.outbox.capacity := by
  cases move with
  | offer event =>
    simp only [Connection.move, withSession, Session.offer_eq]
    split
    · split <;> rfl
    · rfl
  | take => exact connection.session.outbox.capacity_pop
  | close cause =>
    simp only [Connection.move, withSession, Session.retired]
    split <;> rfl
  | claim reason =>
    simp only [Connection.move, withSession]
    split <;> rfl
  | release | refresh | noteWrite | receive | leave | letGo | watch => rfl
  | write policy now =>
    cases hservice : connection.service with
    | none => simp [Connection.move, written, hservice]
    | some service =>
      rw [Connection.move, session_written hservice]
      exact (Writer.stepwise_capacity policy).run service.phase
        (connection.desk service.client now)

/-- An outbox keeps its capacity, whatever the moves. -/
theorem capacity_after (connection : Connection) (moves : List Move) :
    (connection.after moves).session.outbox.capacity = connection.session.outbox.capacity := by
  induction moves generalizing connection with
  | nil => rfl
  | cons move rest ih => rw [after_cons, ih, capacity_move]

/-- A session that is open has not been asked to close. -/
theorem not_open_after_close (connection : Connection) (cause : Cause) (rest : List Move) :
    (connection.after (.close cause :: rest)).session.stage ≠ .open := by
  intro hopen
  have hclaimed : (connection.move (.close cause)).session.isClaimed = true :=
    Session.isClaimed_retired _ _ _
  have hafter : (connection.after (.close cause :: rest)).session.isClaimed = true :=
    isClaimed_after hclaimed rest
  rw [Session.isClaimed_of_open hopen] at hafter
  cases hafter

/-- A run of the writer leaves the buffer in place. -/
theorem Buffered.written {topic : Topic} {connection : Connection} (h : connection.Buffered topic)
    (policy : StreamPolicy) (now : Nat) : (connection.written policy now).Buffered topic := by
  refine ⟨(connection.topic_move (.write policy now)).trans h.topic_eq,
    (connection.capacity_move (.write policy now)).symm ▸ h.room, ?_, ?_⟩
  all_goals
    intro later hlater
    cases hservice : connection.service with
    | none => simp [Connection.written, hservice] at hlater
    | some service => ?_
    rw [service_written hservice] at hlater
    obtain rfl := Option.some.inj hlater
  · exact Client.kept_isBuffered.run policy service.phase (h.client service hservice)
  · intro write hwrite
    have hclient : (connection.desk service.client now).client.IsBuffered :=
      h.client service hservice
    refine Client.kept_isBuffered.write_run policy (fun _ _ _ _ => Writer.wait_beginWrite)
      (fun _ _ _ _ _ => Writer.wait_resumeWrite) hclient (h.wait service hservice) write ?_
    generalize (Writer.run policy service.phase (connection.desk service.client now)).1 = run
      at hwrite
    cases run with
    | suspended phase => exact congrArg Run.suspended hwrite
    | exited exit => cases hwrite

/-- A connection with a buffer keeps it with every move. -/
theorem Buffered.move {topic : Topic} {connection : Connection} (h : connection.Buffered topic)
    (move : Move) : (connection.move move).Buffered topic := by
  cases move with
  | write policy now => exact h.written policy now
  | receive limit =>
    refine ⟨h.topic_eq, h.room, ?_, ?_⟩
    all_goals
      intro later hlater
      simp only [Connection.move, withClient, Option.map_eq_some_iff] at hlater
      obtain ⟨service, hservice, rfl⟩ := hlater
    · exact (h.client service hservice).receive limit
    · exact h.wait service hservice
  | leave =>
    refine ⟨h.topic_eq, h.room, ?_, ?_⟩
    all_goals
      intro later hlater
      simp only [Connection.move, withClient, Option.map_eq_some_iff] at hlater
      obtain ⟨service, hservice, rfl⟩ := hlater
    · exact (h.client service hservice).leave
    · exact h.wait service hservice
  | _ =>
    exact ⟨(connection.topic_move _).trans h.topic_eq, (connection.capacity_move _).symm ▸ h.room,
      h.client, h.wait⟩

/-- A connection with a buffer keeps it, whatever the moves. -/
theorem Buffered.after {topic : Topic} {connection : Connection} (h : connection.Buffered topic)
    (moves : List Move) : (connection.after moves).Buffered topic :=
  after_induction h fun move _ _ hbefore => hbefore.move move

/-! ## Nothing on the way -/

/-- The tasks have nothing to do, and the client has read everything. -/
def Dry (connection : Connection) (now : Nat) : Prop :=
  connection.AtRest now ∧ ∀ service ∈ connection.service, service.client.unread = []

instance (connection : Connection) (now : Nat) : Decidable (connection.Dry now) :=
  inferInstanceAs (Decidable (_ ∧ _))

/-- The writer of an open session whose client has read everything waits for the next event. -/
theorem Dry.idle {connection : Connection} {now : Nat} (h : connection.Dry now) {topic : Topic}
    (hbuffered : connection.Buffered topic) (hmanned : connection.Manned) {size : Nat}
    {frames : List Frame} (hreads : Reads size frames connection)
    (hopen : connection.session.stage = .open) {service : Service}
    (hservice : connection.service = some service) :
    ∃ keepalive, service.phase = .waiting keepalive ∧
      Writer.Idle keepalive (connection.desk service.client now) := by
  have hrests := h.1.writer service hservice
  cases hphase : service.phase with
  | spawned =>
    rw [hphase] at hrests
    cases hrests
  | ended =>
    have hclaimed := hmanned service hservice hphase
    rw [Session.isClaimed_of_open hopen] at hclaimed
    cases hclaimed
  | waiting keepalive =>
    rw [hphase] at hrests
    exact ⟨keepalive, rfl, hrests⟩
  | writing write =>
    -- A write that waits for room has found the buffer full, but there is nothing in it.
    rw [hphase] at hrests
    obtain ⟨-, -, hblocks⟩ := hrests
    simp only [hbuffered.wait service hservice write hphase] at hblocks
    have hblocks : service.client.Blocks := hblocks
    have hunread : service.client.unread = [] := h.2 service hservice
    obtain ⟨capacity, unread, hpeer⟩ := hbuffered.client service hservice
    simp only [Client.Blocks, hpeer] at hblocks
    simp only [Client.unread, hpeer] at hunread
    rcases hreads service hservice with hgone | ⟨_, hpeer', -⟩
    · rw [hblocks.1] at hgone
      cases hgone
    · obtain ⟨rfl, -⟩ := Peer.buffered.inj (hpeer.symm.trans hpeer')
      have hfull : max size 1 ≤ 0 := by simpa [hunread] using hblocks.2
      omega

end Connection

namespace Hub

/-! ## Streams to clients with a buffer -/

/-- Session `n` streams events about a topic to a client with a buffer: these events have been
queued, and these frames have been read. -/
structure Feeds (n : Nat) (topic : Topic) (size : Nat) (events : List CounterEvent)
    (frames : List Frame) (hub : Hub) : Prop where
  streams : Streams n (some size) events frames hub
  buffered : ∀ connection, hub.connections[n]? = some connection → connection.Buffered topic

/-- Session `n` is open. -/
def IsOpen (n : Nat) (hub : Hub) : Prop :=
  ∃ connection ∈ hub.connections[n]?, connection.session.stage = .open

instance (n : Nat) (hub : Hub) : Decidable (hub.IsOpen n) :=
  inferInstanceAs (Decidable (∃ connection ∈ hub.connections[n]?, connection.session.stage = .open))

/-- The tasks of session `n` have nothing to do, and its client has read everything. -/
def Dry (n : Nat) (hub : Hub) : Prop :=
  ∀ connection ∈ hub.connections[n]?, connection.Dry hub.now

instance (n : Nat) (hub : Hub) : Decidable (hub.Dry n) :=
  inferInstanceAs (Decidable (∀ connection ∈ hub.connections[n]?, connection.Dry hub.now))

variable {n : Nat} {topic : Topic} {size : Nat} {events : List CounterEvent} {frames : List Frame}
  {hub : Hub}

/-- A session streams what it did as long as the connections are the same. -/
theorem Feeds.same {later : Hub} (h : Feeds n topic size events frames hub)
    (hsame : later.connections = hub.connections) : Feeds n topic size events frames later := by
  obtain ⟨hstreams, hbuffered⟩ := h
  unfold Streams at hstreams
  rw [← hsame] at hstreams hbuffered
  exact ⟨hstreams, hbuffered⟩

/-- An operation adds to the stream what it queues and reads. -/
theorem Feeds.step (h : Feeds n topic size events frames hub) {operation : Operation}
    (hdrains : operation.drains n = false) :
    Feeds n topic size (events ++ queued n hub operation) (frames ++ received n hub operation)
      (hub.step operation) := by
  refine ⟨h.streams.step hdrains, fun later hlater => ?_⟩
  obtain ⟨connection, -, hconnection, -⟩ := h.streams
  rw [connections_step hconnection] at hlater
  obtain rfl := Option.some.inj hlater
  exact (h.buffered connection hconnection).after _

/-- A session that has just been accepted has its first event in the outbox. -/
theorem feeds_connect {id : SessionId} {initial : Option Int64}
    (h : (hub.connect topic id (Transport.channel size).client initial).1 = .ok n) :
    Feeds n topic size (firstEvent topic initial) []
      (hub.connect topic id (Transport.channel size).client initial).2 := by
  have hunopened : (hub.welcomed topic id (Transport.channel size).client none).Buffered topic := by
    refine ⟨rfl, ?_, ?_, ?_⟩
    · show 0 < max hub.policy.queueCapacity 1
      omega
    · intro service hservice
      obtain rfl := Option.some.inj hservice
      exact ⟨_, _, rfl⟩
    · intro service hservice write hwrite
      obtain rfl := Option.some.inj hservice
      cases hwrite
  refine ⟨streams_connect h, fun connection hconnection => ?_⟩
  rw [connections_connect h] at hconnection
  obtain rfl := Option.some.inj hconnection
  cases initial with
  | none => exact hunopened
  | some value => exact hunopened.move (.offer ⟨topic, value⟩)

/-- Reports leave a session with nothing to do. -/
theorem Reports.dry {later : Hub} (h : hub.Reports later) (hdry : hub.Dry n) : later.Dry n := by
  obtain ⟨_, _, -, rfl⟩ := h
  exact hdry

/-- A session is open if it is so among the same connections. -/
theorem isOpen_of_same {later : Hub} (hsame : later.connections = hub.connections)
    (hopen : later.IsOpen n) : hub.IsOpen n := by
  unfold IsOpen at hopen
  rwa [hsame] at hopen

/-- A session that is open after an operation was open before. -/
theorem isOpen_of_step (h : Feeds n topic size events frames hub) (operation : Operation)
    (hopen : (hub.step operation).IsOpen n) : hub.IsOpen n := by
  obtain ⟨connection, -, hconnection, -⟩ := h.streams
  obtain ⟨later, hlater, hstage⟩ := hopen
  rw [connections_step hconnection] at hlater
  obtain rfl := Option.some.inj hlater
  exact ⟨connection, hconnection, Connection.open_of_after hstage⟩

/-- What a client has read that reads dry is what was queued. -/
theorem Feeds.values_eq (h : Feeds n topic size events frames hub) (hopen : hub.IsOpen n)
    (hdry : hub.Dry n) : frames.filterMap Frame.value? = events.map (·.value) := by
  obtain ⟨connection, service, hconnection, hservice, haccounts, hmanned, hreads⟩ := h.streams
  obtain ⟨_, hfound, hstage⟩ := hopen
  obtain rfl := Option.some.inj (hconnection.symm.trans hfound)
  have hconnectionDry := hdry connection hconnection
  have hreads := hreads size rfl
  obtain ⟨keepalive, hphase, hidle⟩ := hconnectionDry.idle (h.buffered connection hconnection)
    hmanned hreads hstage hservice
  have hunread : service.client.unread = [] := hconnectionDry.2 service hservice
  have hread : service.client.frames = frames := by
    rcases hreads service hservice with hgone | ⟨unread, hpeer, hframes, -⟩
    · exact absurd (hidle.gone.symm.trans hgone) (by simp)
    · simp only [Client.unread, hpeer] at hunread
      rw [hframes, hunread, List.append_nil]
  have hitems : connection.session.outbox.items = [] := hidle.items
  have hflow := haccounts.flow (haccounts.live hstage) (by simp [hphase])
  rw [hphase, hitems, Client.eventFrames, hread] at hflow
  rw [← Frame.filterMap_value?_ofEvent, hflow, ← Frame.filterMap_value?_unlessKeepalive]
  simp [Phase.inFlight]

/-- The outbox of a client that reads dry takes every event of its topic, and no other one. -/
theorem Feeds.queued_publish (h : Feeds n topic size events frames hub) (hconsistent : hub.Consistent)
    (hopen : hub.IsOpen n) (hdry : hub.Dry n) (event : CounterEvent) :
    queued n hub (.publish event) = if event.topic = topic then [event] else [] := by
  obtain ⟨connection, service, hconnection, hservice, -, hmanned, hreads⟩ := h.streams
  obtain ⟨_, hfound, hstage⟩ := hopen
  obtain rfl := Option.some.inj (hconnection.symm.trans hfound)
  have hbuffered := h.buffered connection hconnection
  obtain ⟨keepalive, -, hidle⟩ := (hdry connection hconnection).idle hbuffered hmanned
    (hreads size rfl) hstage hservice
  have hitems : connection.session.outbox.items = [] := hidle.items
  have hreleased : connection.session.outbox.released = false := hidle.released
  have hroom : ¬ connection.session.outbox.capacity ≤ connection.session.outbox.length := by
    have := hbuffered.room
    simp only [Outbox.length, hitems, List.length_nil]
    omega
  have htaken : (connection.session.offer event).2 = .queued := by
    simp [Session.offer_eq, hstage, hreleased, hroom]
  rw [queued_of_connection hconnection]
  show connection.trace Connection.queues (hub.publishMoves n event) = _
  rw [publishMoves_eq hconsistent hconnection, Connection.eventMoves, hbuffered.topic_eq]
  by_cases htopic : event.topic = topic
  · simp [hstage, htopic, Connection.lags, htaken, Connection.trace, Connection.queues]
  · simp [htopic, Ne.symm htopic, Connection.trace]

/-! ## Operations that leave a stream alone -/

/-- Whether an operation may offer an event to session `n`. -/
def Operation.offers (n : Nat) : Operation → Bool
  | .publish _ => true
  | .offer target _ => target = n
  | _ => false

/-- Whether an operation may offer an event to session `n`, take one off its outbox, or read from its
client. -/
def Operation.concerns (n : Nat) : Operation → Bool
  | .take target | .release target | .receive target _ => target = n
  | operation => operation.offers n

/-- The later hub comes out of the first one without any event for session `n` or frame of its
client. -/
inductive PassesBy (n : Nat) (hub : Hub) : Hub → Prop
  | refl : PassesBy n hub hub
  | same {between later : Hub} (h : PassesBy n hub between)
      (hsame : later.connections = between.connections) : PassesBy n hub later
  | step {between : Hub} (h : PassesBy n hub between) (operation : Operation)
      (hconcerns : operation.concerns n = false) : PassesBy n hub (between.step operation)

/-- What passes a session by adds up. -/
theorem PassesBy.trans {first second third : Hub} (h : first.PassesBy n second)
    (h' : second.PassesBy n third) : first.PassesBy n third := by
  induction h' with
  | refl => exact h
  | same _ hsame ih => exact ih.same hsame
  | step _ operation hconcerns ih => exact ih.step operation hconcerns

/-- An operation that offers nothing to a session makes no offer among its moves. -/
theorem not_offer_of_mem {operation : Operation} (hoffers : operation.offers n = false)
    {move : Move} (h : move ∈ hub.moves n operation) (event : CounterEvent) :
    move ≠ .offer event := by
  rintro rfl
  cases operation with
  | publish => cases hoffers
  | offer target =>
    have hother : target ≠ n := by simpa [Operation.offers] using hoffers
    exact hother (mem_only h).1.symm
  | pollWatch target =>
    obtain ⟨-, hmem⟩ := mem_only h
    unfold watchMoves Connection.watchMoves at hmem
    split at hmem
    · simp at hmem
    · split at hmem <;> simp at hmem
  | pollWriter target =>
    obtain ⟨-, hmem⟩ := mem_only h
    unfold writerMoves Connection.writerMoves at hmem
    split at hmem <;> simp at hmem
  | closeLive target reason =>
    obtain ⟨-, hmem⟩ := mem_only h
    split at hmem <;> simp at hmem
  | clearTopic topic =>
    obtain ⟨_, -, hmem⟩ := List.mem_flatMap.mp h
    split at hmem <;> simp at hmem
  | sweep =>
    obtain ⟨_, -, hmem⟩ := List.mem_map.mp h
    cases hmem
  | take | close | closeFor | refresh | noteWrite | receive | loseClient | letGo | claim | release =>
    simpa using (mem_only h).2
  | _ => cases h

/-- An operation that offers nothing to a session queues nothing for it. -/
theorem queued_of_not_offers {operation : Operation} (h : operation.offers n = false) :
    queued n hub operation = [] := by
  unfold queued
  split
  · refine Connection.trace_eq_nil (fun connection move hmem => ?_) _
    cases move with
    | offer event => exact absurd rfl (not_offer_of_mem h hmem event)
    | _ => rfl
  · rfl

/-- An operation that offers nothing adds to the stream only what it reads. -/
theorem Feeds.step_of_not_offers (h : Feeds n topic size events frames hub)
    {operation : Operation} (hoffers : operation.offers n = false)
    (hdrains : operation.drains n = false) :
    Feeds n topic size events (frames ++ received n hub operation) (hub.step operation) := by
  simpa [queued_of_not_offers hoffers] using h.step hdrains

/-- An operation that does not concern a session leaves its stream as it is. -/
theorem Feeds.step_of_not_concerns (h : Feeds n topic size events frames hub)
    {operation : Operation} (hconcerns : operation.concerns n = false) :
    Feeds n topic size events frames (hub.step operation) := by
  have hoffers : operation.offers n = false := by
    cases operation with
    | publish | offer => exact hconcerns
    | _ => rfl
  have hdrains : operation.drains n = false := by
    cases operation with
    | take | release => exact hconcerns
    | _ => rfl
  have hreceived : received n hub operation = [] :=
    received_of_ne fun limit heq => by simp [heq, Operation.concerns] at hconcerns
  simpa [hreceived] using h.step_of_not_offers hoffers hdrains

/-- What passes a session by leaves its stream as it is, and does not open it. -/
theorem Feeds.passedBy (h : Feeds n topic size events frames hub) {later : Hub}
    (hpasses : hub.PassesBy n later) :
    Feeds n topic size events frames later ∧ (later.IsOpen n → hub.IsOpen n) := by
  induction hpasses with
  | refl => exact ⟨h, id⟩
  | same _ hsame ih =>
    exact ⟨ih.1.same hsame, fun hopen => ih.2 (isOpen_of_same hsame hopen)⟩
  | step _ operation hconcerns ih =>
    exact ⟨ih.1.step_of_not_concerns hconcerns, fun hopen => ih.2 (isOpen_of_step ih.1 operation hopen)⟩

/-! ## The tasks and the clock -/

/-- Polls pass every session by. -/
theorem passesBy_settleOne (n : Nat) (hub : Hub) (m : Nat) : hub.PassesBy n (hub.settleOne m) := by
  have hwatch {between : Hub} (h : hub.PassesBy n between) : hub.PassesBy n (between.pollWatch m) :=
    h.step (.pollWatch m) rfl
  have hwriter {between : Hub} (h : hub.PassesBy n between) :
      hub.PassesBy n (between.pollWriter m) :=
    h.step (.pollWriter m) rfl
  simp only [settleOne]
  split <;> split
  all_goals
    first
    | exact hwriter (hwatch (hwriter .refl))
    | exact hwatch (hwriter (hwatch .refl))

/-- Tasks that settle pass every session by. -/
theorem passesBy_settle (n : Nat) (hub : Hub) : hub.PassesBy n hub.settle := by
  suffices ∀ (ms : List Nat) (hub : Hub), hub.PassesBy n (ms.foldl settleOne hub) from this _ hub
  intro ms
  induction ms with
  | nil => exact fun _ => .refl
  | cons m rest ih => exact fun hub => (passesBy_settleOne n hub m).trans (ih _)

/-- Time that passes while tasks run passes every session by. -/
theorem passesBy_runUntil (n : Nat) (hub : Hub) (target : Nat) (done : Hub → Bool) :
    hub.PassesBy n (runUntil target done hub) :=
  runUntil_induction (P := fun later => hub.PassesBy n later)
    (fun later now h => (h.same (show { later with now }.connections = _ from rfl)).trans
      (passesBy_settle n _)) target done .refl

/-- Time passes every session by. -/
theorem passesBy_advance (n : Nat) (hub : Hub) (millis : Nat) :
    hub.PassesBy n (hub.advance millis) :=
  (passesBy_settle n hub).trans (passesBy_runUntil n _ _ _)

/-- A stop passes every session by. -/
theorem passesBy_stop (n : Nat) (hub : Hub) (timeout : Duration) :
    hub.PassesBy n (hub.stop timeout).2 := by
  have hswept : hub.PassesBy n hub.beginStop.sweep.2 :=
    PassesBy.refl.step .sweep rfl
  have hawaited (later : Hub) : later.PassesBy n (later.awaited timeout) := by
    unfold awaited
    split
    · exact .refl
    · simp only [awaitTasks]
      split
      · exact .refl
      · exact (passesBy_settle n later).trans (passesBy_runUntil n _ _ _)
  exact (hswept.trans (hawaited _)).same (reports_stop hub timeout).connections

end Hub

end LiveCounter
