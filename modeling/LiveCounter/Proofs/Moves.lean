import LiveCounter.Proofs.Admitting
import LiveCounter.Proofs.Course
import LiveCounter.Proofs.Operations

/-!
# What an operation does to one connection

An operation of the hub reaches each connection through a few moves, and what they make of the
connection depends on nothing else. So a run can be followed for one session at a time: the
moves of its operations, one after the other, tell the whole story of the session.
-/

namespace LiveCounter

/-- What asks for a session to close. An error determines the reason that it leads to. -/
inductive Cause where
  | plain (reason : CloseReason)
  | error (fault : StreamFault)
  deriving DecidableEq

namespace Cause

/-- The reason that a cause gives. -/
def reason : Cause → CloseReason
  | .plain reason => reason
  | .error fault => .ofError fault

/-- The error behind a cause. -/
def failure : Cause → Option StreamFault
  | .plain _ => none
  | .error fault => some fault

/-- A cause with an error has the reason that the error leads to. -/
theorem reason_of_failure {cause : Cause} {fault : StreamFault} (h : cause.failure = some fault) :
    cause.reason = .ofError fault := by
  cases cause with
  | plain reason => simp [failure] at h
  | error fault' =>
    obtain rfl : fault' = fault := by simpa [failure] using h
    rfl

end Cause

/-- The closings that the end of a writer asks for. -/
def WriterExit.causes : WriterExit → List Cause
  | .orderly reason => [.plain reason]
  | .failed fault => [.error (.transport fault), .plain .transportError]
  | .panicked => [.plain .aborted]

/-- Something that happens to one connection. -/
inductive Move where
  | offer (event : CounterEvent)
  | take
  | close (cause : Cause)
  /-- The closing is claimed, and nothing else is done. -/
  | claim (reason : CloseReason)
  | release
  | refresh (now : Nat)
  | noteWrite (now : Nat)
  | receive (limit : Nat)
  | leave
  | letGo
  /-- The watch runs until it has to wait. -/
  | watch (policy : StreamPolicy) (now : Nat)
  /-- The writer runs until it has to wait. -/
  | write (policy : StreamPolicy) (now : Nat)

/-- What asks for the session to close, if the move is a closing. -/
def Move.cause? : Move → Option Cause
  | .close cause => some cause
  | .claim reason => some (.plain reason)
  | _ => none

namespace Connection

/-- The connection with its session changed. -/
def withSession (connection : Connection) (f : Session → Session) : Connection :=
  { connection with session := f connection.session }

/-- The connection with its client changed, if it has one. -/
def withClient (connection : Connection) (f : Client → Client) : Connection :=
  { connection with
    service := connection.service.map fun service => { service with client := f service.client } }

/-- What the watch finds. -/
def watchFinding (connection : Connection) (policy : StreamPolicy) (now : Nat) : Finding :=
  (connection.watch.run policy connection.session (connection.clock now)).1

/-- The connection after its watch has run. -/
def watched (connection : Connection) (policy : StreamPolicy) (now : Nat) : Connection :=
  let result := connection.watch.run policy connection.session (connection.clock now)
  { connection with watch := result.2.1, timersSet := result.2.2.next }

/-- What the writer works with. -/
def desk (connection : Connection) (client : Client) (now : Nat) : Desk where
  session := connection.session
  client
  clock := connection.clock now

/-- How the writer ends, if its run is its last one. -/
def writerExit? (connection : Connection) (policy : StreamPolicy) (now : Nat) :
    Option WriterExit :=
  match connection.service with
  | none => none
  | some service =>
    match (Writer.run policy service.phase (connection.desk service.client now)).1 with
    | .suspended _ => none
    | .exited exit => some exit

/-- The phase after a run of a writer. -/
def phaseAfter : Run → Phase
  | .suspended phase => phase
  | .exited _ => .ended

/-- The connection after its writer has run. -/
def written (connection : Connection) (policy : StreamPolicy) (now : Nat) : Connection :=
  match connection.service with
  | none => connection
  | some service =>
    let result := Writer.run policy service.phase (connection.desk service.client now)
    { connection with
      session := result.2.session
      service := some { phase := phaseAfter result.1, client := result.2.client }
      timersSet := result.2.clock.next }

/-- The connection after a move. -/
def move (connection : Connection) : Move → Connection
  | .offer event => connection.withSession fun session => (session.offer event).1
  | .take => connection.withSession fun session => { session with outbox := session.outbox.pop.2 }
  | .close cause => connection.withSession fun session =>
      session.retired cause.reason cause.failure
  | .claim reason => connection.withSession fun session =>
      if session.isClaimed then session else session.claimedFor reason
  | .release => connection.withSession fun session =>
      { session with outbox := session.outbox.release.2 }
  | .refresh now => connection.withSession fun session => session.refresh now
  | .noteWrite now => connection.withSession fun session => session.noteWrite now
  | .receive limit => connection.withClient fun client => (client.receive limit).2
  | .leave => connection.withClient Client.leave
  | .letGo => { connection with held := false }
  | .watch policy now => connection.watched policy now
  | .write policy now => connection.written policy now

/-- The connection after several moves. -/
def after (connection : Connection) (moves : List Move) : Connection :=
  moves.foldl move connection

/-- No moves change nothing. -/
@[simp] theorem after_nil (connection : Connection) : connection.after [] = connection := rfl

/-- Moves are made one after the other. -/
@[simp] theorem after_cons (connection : Connection) (move : Move) (rest : List Move) :
    connection.after (move :: rest) = (connection.move move).after rest := rfl

/-- Moves can be cut anywhere. -/
theorem after_append (connection : Connection) (first second : List Move) :
    connection.after (first ++ second) = (connection.after first).after second :=
  List.foldl_append

/-- What each of the moves keeps, all of them together keep. -/
theorem after_induction {P : Connection → Prop} {connection : Connection} (h : P connection)
    {moves : List Move}
    (hmove : ∀ move ∈ moves, ∀ connection, P connection → P (connection.move move)) :
    P (connection.after moves) :=
  List.foldlRecOn moves move h fun before hbefore move hmem => hmove move hmem before hbefore

/-- What may shut an outbox or claim a session. -/
def endsCourse : Move → Bool
  | .close _ | .claim _ | .release => true
  | _ => false

/-- What a writer does takes its session no further. -/
theorem sameCourse_written (connection : Connection) (policy : StreamPolicy) (now : Nat) :
    connection.session.SameCourse (connection.written policy now).session := by
  unfold written
  split
  · exact .refl _
  · next service _ =>
    exact Writer.sameCourse_run policy service.phase (connection.desk service.client now)

/-- Only closings and releases change the course of a session. -/
theorem sameCourse_move (connection : Connection) {move : Move} (h : endsCourse move = false) :
    connection.session.SameCourse (connection.move move).session := by
  cases move with
  | close | claim | release => simp [endsCourse] at h
  | offer event => exact connection.session.sameCourse_offer event
  | take => exact connection.session.sameCourse_pop
  | refresh now => exact connection.session.sameCourse_refresh now
  | noteWrite now => exact connection.session.sameCourse_noteWrite now
  | receive | leave | letGo | watch => exact .refl _
  | write policy now => exact connection.sameCourse_written policy now

/-- No move gives a session another identifier or another topic. -/
theorem identity_move (connection : Connection) (move : Move) :
    (connection.move move).session.id = connection.session.id ∧
      (connection.move move).session.topic = connection.session.topic := by
  cases hends : endsCourse move with
  | false =>
    have hsame := connection.sameCourse_move hends
    exact ⟨hsame.id, hsame.topic⟩
  | true =>
    cases move with
    | close cause =>
      simp only [Connection.move, withSession, Session.retired]
      split <;> exact ⟨rfl, rfl⟩
    | claim reason =>
      simp only [Connection.move, withSession]
      split <;> exact ⟨rfl, rfl⟩
    | release => exact ⟨rfl, rfl⟩
    | _ => simp [endsCourse] at hends

/-- No move changes the topic of a session. -/
theorem topic_move (connection : Connection) (move : Move) :
    (connection.move move).session.topic = connection.session.topic :=
  (connection.identity_move move).2

/-- No session changes its identifier. -/
theorem id_after (connection : Connection) (moves : List Move) :
    (connection.after moves).session.id = connection.session.id := by
  induction moves generalizing connection with
  | nil => rfl
  | cons move rest ih => rw [after_cons, ih, (connection.identity_move move).1]

/-- No session changes its topic. -/
theorem topic_after (connection : Connection) (moves : List Move) :
    (connection.after moves).session.topic = connection.session.topic := by
  induction moves generalizing connection with
  | nil => rfl
  | cons move rest ih => rw [after_cons, ih, topic_move]

/-- The moves of a poll of the watch: it runs, and a silent session is closed. -/
def watchMoves (connection : Connection) (policy : StreamPolicy) (now : Nat) : List Move :=
  .watch policy now ::
    match connection.watchFinding policy now with
    | .alive | .cancelled => []
    | .silent => [.close (.error (.idleTimeout (connection.session.silence now)))]

/-- The moves of a poll of the writer: it runs, and what it ends with closes the session. -/
def writerMoves (connection : Connection) (policy : StreamPolicy) (now : Nat) : List Move :=
  .write policy now :: ((connection.writerExit? policy now).elim [] (·.causes)).map .close

end Connection

namespace Hub

/-- The moves of a session whose watch is polled. -/
def watchMoves (hub : Hub) (n : Nat) : List Move :=
  match hub.connections[n]? with
  | none => []
  | some connection => connection.watchMoves hub.policy hub.now

/-- The moves of a session whose writer is polled. -/
def writerMoves (hub : Hub) (n : Nat) : List Move :=
  match hub.connections[n]? with
  | none => []
  | some connection => connection.writerMoves hub.policy hub.now

/-- The moves of a session when an event is published: the event is offered to each recipient, and
those that have dropped too many, or had ended, are closed. -/
def publishMoves (hub : Hub) (n : Nat) (event : CounterEvent) : List Move :=
  let recipients := (hub.countPublished.takeRecipients event.topic).1.sessions
  let report := (hub.distribute event).1
  (recipients.filter (· = n)).map (fun _ => .offer event) ++
    (report.forced.filter (· = n)).map (fun _ => .close (.error .backpressureDrop)) ++
    (report.inconsistent.filter (· = n)).map fun target =>
      .close (.error (hub.stillSubscribed target))

/-- Moves of one session only. -/
def only (target : Nat) (moves : List Move) (n : Nat) : List Move :=
  if n = target then moves else []

/-- The moves by which an operation reaches a session that exists. -/
def moves (hub : Hub) (n : Nat) : Operation → List Move
  | .publish event => hub.publishMoves n event
  | .offer target event => only target [.offer event] n
  | .take target => only target [.take] n
  | .close target reason => only target [.close (.plain reason)] n
  | .closeFor target fault => only target [.close (.error fault)] n
  | .closeLive target reason =>
    only target (if target ∈ hub.table then [.close (.plain reason)] else []) n
  | .clearTopic topic => ((hub.subscriptions.handles topic).filter (· = n)).flatMap fun target =>
      if target ∈ hub.table then [.close (.plain .topicClosed)] else []
  | .sweep => (hub.table.filter (· = n)).map fun _ => .close (.plain .shutdown)
  | .refresh target => only target [.refresh hub.now] n
  | .noteWrite target => only target [.noteWrite hub.now] n
  | .receive target limit => only target [.receive limit] n
  | .loseClient target => only target [.leave] n
  | .letGo target => only target [.letGo] n
  | .pollWatch target => only target (hub.watchMoves target) n
  | .pollWriter target => only target (hub.writerMoves target) n
  | .claim target reason => only target [.claim reason] n
  | .release target => only target [.release] n
  | .join .. | .connect .. | .pass _ | .report .. | .countHit | .create .. | .subscribe ..
  | .unsubscribe .. => []

/-! ## The steps of an operation -/

/-- The second hub has the connections of the first one after the given moves of each. -/
def Acts (hub later : Hub) (moves : Nat → List Move) : Prop :=
  ∀ n, later.connections[n]? = (hub.connections[n]?).map fun connection : Connection =>
    connection.after (moves n)

/-- Where the connections stay as they are, no moves are made. -/
theorem acts_nothing {hub later : Hub} (h : later.connections = hub.connections) :
    hub.Acts later fun _ => [] := fun n => by
  simp [h]

/-- Of two changes in turn, the moves of the second one come after those of the first. -/
theorem Acts.trans {first second third : Hub} {moves moves' : Nat → List Move}
    (h : first.Acts second moves) (h' : second.Acts third moves') :
    first.Acts third fun n => moves n ++ moves' n := fun n => by
  rw [h' n, h n, Option.map_map]
  simp only [Function.comp_def, Connection.after_append]

/-- Moves may be written in another way. -/
theorem Acts.of_eq {hub later : Hub} {moves moves' : Nat → List Move} (h : hub.Acts later moves)
    (heq : ∀ n, moves n = moves' n) : hub.Acts later moves' :=
  funext heq ▸ h

/-- What is reported afterwards does not matter. -/
theorem Acts.reports {first second third : Hub} {moves : Nat → List Move}
    (h : first.Acts second moves) (h' : second.Reports third) : first.Acts third moves := fun n => by
  rw [h'.connections, h n]

/-- A change of one connection that amounts to moves makes those moves. -/
theorem acts_modify {hub : Hub} {n : Nat} {f : Connection → Connection} {moves : List Move}
    (h : ∀ connection, hub.connections[n]? = some connection → f connection = connection.after moves) :
    hub.Acts (hub.modify n f) (only n moves) := fun m => by
  rw [modify, List.getElem?_modify]
  by_cases hm : n = m
  · subst hm
    cases hconnection : hub.connections[n]? with
    | none => rfl
    | some connection => simp [only, h connection hconnection]
  · simp [only, hm, Ne.symm hm]

/-- Of the connections, the end of a session changes its own. -/
theorem connections_ended (hub : Hub) (n : Nat) (session : Session) (reason : CloseReason)
    (fault : Option StreamFault) :
    (hub.ended n session reason fault).connections =
      (hub.modifySession n (·.retired reason fault)).connections := rfl

/-- Whatever ends a session makes one move, of that session. -/
theorem acts_retire (hub : Hub) (n : Nat) (cause : Cause) :
    hub.Acts (hub.retire n cause.reason cause.failure).2 (only n [.close cause]) := by
  have hmodify : hub.Acts (hub.modifySession n (·.retired cause.reason cause.failure))
      (only n [.close cause]) := acts_modify fun _ _ => rfl
  cases hs : hub.session? n with
  | none =>
    rw [retire_of_isClaimed (by simp [hs])]
    intro m
    by_cases hm : m = n
    · have hnone : hub.connections[m]? = none := by simpa [session?, hm] using hs
      simp [hnone]
    · simp [only, hm]
  | some session =>
    by_cases hclaimed : session.isClaimed = true
    · rw [retire_of_isClaimed (by simpa [hs] using hclaimed)]
      intro m
      by_cases hm : m = n
      · subst hm
        obtain ⟨connection, hconnection, rfl⟩ := connection_of_session? hs
        simp [hconnection, only, Connection.move, Connection.withSession,
          Session.retired_of_isClaimed hclaimed]
      · simp [only, hm]
    · have hended := (retire_of_unclaimed hs (by simpa using hclaimed) cause.reason
        cause.failure).2
      exact fun m => by rw [hended.connections, connections_ended, hmodify m]

/-- A close makes one move. -/
theorem acts_close (hub : Hub) (n : Nat) (reason : CloseReason) :
    hub.Acts (hub.close n reason).2 (only n [.close (.plain reason)]) :=
  acts_retire hub n (.plain reason)

/-- So does a close for an error. -/
theorem acts_closeFor (hub : Hub) (n : Nat) (fault : StreamFault) :
    hub.Acts (hub.closeFor n fault).2 (only n [.close (.error fault)]) :=
  acts_retire hub n (.error fault)

/-- What is done to several sessions in turn, provided that it stays the same for each of them. -/
theorem acts_foldl (f : Hub → Nat → Hub) (moves : Nat → List Move) (P : Hub → Prop)
    (hstep : ∀ hub n, P hub → P (f hub n) ∧ hub.Acts (f hub n) (only n (moves n)))
    (ns : List Nat) (hub : Hub) (h : P hub) :
    hub.Acts (ns.foldl f hub) fun n => (ns.filter (· = n)).flatMap moves := by
  induction ns generalizing hub with
  | nil => exact acts_nothing rfl
  | cons n rest ih =>
    obtain ⟨hkeep, hacts⟩ := hstep hub n h
    apply (hacts.trans (ih _ hkeep)).of_eq
    intro m
    by_cases hm : m = n
    · subst hm
      simp [only]
    · simp [only, hm, Ne.symm hm]

/-! ## Publishing -/

/-- An offer makes one move. -/
theorem acts_offer (hub : Hub) (n : Nat) (event : CounterEvent) :
    hub.Acts (hub.offer n event).2 (only n [.offer event]) := by
  rw [offer_snd]
  exact acts_modify fun _ _ => rfl

/-- A delivery does to the connections what its offer does. -/
theorem connections_deliver (event : CounterEvent) (report : Delivery) (hub : Hub) (n : Nat) :
    (deliver event report hub n).2.connections = (hub.offer n event).2.connections := by
  unfold deliver
  cases hs : hub.session? n with
  | none => simp [offer, hs]
  | some session =>
    simp only
    split
    · rfl
    · split <;> rfl
    · split <;> rfl

/-- Deliveries make one move for each time that a session is listed. -/
theorem acts_deliverAll (event : CounterEvent) (ns : List Nat) (report : Delivery) (hub : Hub) :
    hub.Acts (deliverAll event ns report hub).2 fun n =>
      (ns.filter (· = n)).map fun _ => .offer event := by
  induction ns generalizing report hub with
  | nil => exact acts_nothing rfl
  | cons n rest ih =>
    have hfirst : hub.Acts (deliver event report hub n).2 (only n [.offer event]) := fun m => by
      rw [connections_deliver, acts_offer hub n event m]
    apply (hfirst.trans (ih _ _)).of_eq
    intro m
    by_cases hm : m = n
    · subst hm
      simp [only]
    · simp [only, hm, Ne.symm hm]

/-- Reporting stale handles changes no connection. -/
theorem connections_noteStale (topic : Topic) (ns : List Nat) (hub : Hub) :
    (ns.foldl (noteStale topic) hub).connections = hub.connections := by
  induction ns generalizing hub with
  | nil => rfl
  | cons n rest ih =>
    rw [List.foldl_cons, ih, noteStale]
    split <;> rfl

/-- A distribution makes one move for each time that a session is a recipient. -/
theorem acts_distribute (hub : Hub) (event : CounterEvent) :
    hub.Acts (hub.distribute event).2 fun n =>
      ((hub.countPublished.takeRecipients event.topic).1.sessions.filter (· = n)).map
        fun _ => .offer event := by
  intro n
  have hall := acts_deliverAll event
    (hub.countPublished.takeRecipients event.topic).1.sessions
    { recipients := (hub.countPublished.takeRecipients event.topic).1.sessions.length
      stale := (hub.countPublished.takeRecipients event.topic).1.stale }
    ((hub.countPublished.takeRecipients event.topic).1.stale.foldl (noteStale event.topic)
      (hub.countPublished.takeRecipients event.topic).2) n
  rw [connections_noteStale] at hall
  exact hall

/-- What is said about a session that is still subscribed does not depend on moves. -/
theorem Acts.stillSubscribed {hub later : Hub} {moves : Nat → List Move} (h : hub.Acts later moves)
    (n : Nat) : later.stillSubscribed n = hub.stillSubscribed n := by
  have hid : (later.session? n).map (·.id) = (hub.session? n).map (·.id) := by
    simp only [session?, h n, Option.map_map, Function.comp_def, Connection.id_after]
  unfold Hub.stillSubscribed
  cases hlater : later.session? n <;> cases hhub : hub.session? n <;> simp [hlater, hhub] at hid
  · simp
  · simp [hid]

/-- Publishing reaches a session through the offers to it and the closings after them. -/
theorem acts_publish (hub : Hub) (event : CounterEvent) :
    hub.Acts (hub.publish event).2 fun n => hub.publishMoves n event := by
  have hdistribute := acts_distribute hub event
  have hforced := acts_foldl (fun hub n => (hub.closeFor n .backpressureDrop).2)
    (fun _ => [.close (.error .backpressureDrop)]) (fun _ => True)
    (fun later n _ => ⟨trivial, acts_closeFor later n .backpressureDrop⟩)
    (hub.distribute event).1.forced (hub.distribute event).2 trivial
  have hinconsistent := acts_foldl
    (fun hub n => (hub.closeFor n (hub.stillSubscribed n)).2)
    (fun n => [.close (.error (hub.stillSubscribed n))])
    (fun later => ∀ n, later.stillSubscribed n = hub.stillSubscribed n)
    (fun later n hlater => by
      have hclose := acts_closeFor later n (later.stillSubscribed n)
      refine ⟨fun m => (hclose.stillSubscribed m).trans (hlater m), ?_⟩
      simpa only [hlater n] using hclose)
    (hub.distribute event).1.inconsistent _
    (fun n => (hforced.stillSubscribed n).trans (hdistribute.stillSubscribed n))
  apply ((hdistribute.trans hforced).trans hinconsistent).of_eq
  intro n
  simp only [publishMoves, List.append_assoc, List.map_eq_flatMap]

/-! ## Sweeps, tasks and clients -/

/-- Closing several sessions is closing one after the other. -/
theorem closeEach_snd (close : Hub → Nat → CloseEffect × Hub) (ns : List Nat) (hub : Hub) :
    (closeEach close ns hub).2 = ns.foldl (fun hub n => (close hub n).2) hub := by
  induction ns generalizing hub with
  | nil => rfl
  | cons n rest ih => exact ih _

/-- A sweep makes one move for each time that a session is in the table. -/
theorem acts_sweep (hub : Hub) :
    hub.Acts hub.sweep.2 fun n => (hub.table.filter (· = n)).map fun _ =>
      .close (.plain .shutdown) := by
  have hclose := acts_foldl (fun hub n => (hub.close n .shutdown).2)
    (fun _ => [.close (.plain .shutdown)]) (fun _ => True)
    (fun later n _ => ⟨trivial, acts_close later n .shutdown⟩) hub.table
    (hub.log .info "closing all streams for shutdown" [("sessions", .nat hub.table.length)])
    trivial
  intro n
  simp only [sweep, closeEach_snd]
  rw [List.map_eq_flatMap]
  exact hclose n

/-- The end of a session takes that session out of the table, or nobody. -/
theorem table_retire (hub : Hub) (n : Nat) (reason : CloseReason) (fault : Option StreamFault) :
    (hub.retire n reason fault).2.table = hub.table ∨
      (hub.retire n reason fault).2.table = hub.table.erase n := by
  by_cases h : ∀ session, hub.session? n = some session → session.isClaimed = true
  · rw [retire_of_isClaimed h]
    exact Or.inl rfl
  · simp only [not_forall, Bool.not_eq_true] at h
    obtain ⟨session, hs, hu⟩ := h
    obtain ⟨_, _, -, heq⟩ := (retire_of_unclaimed hs hu reason fault).2
    rw [heq]
    exact Or.inr rfl

/-- Whatever a session was, its closing is claimed once it has been torn down. -/
theorem isClaimed_of_retire {hub : Hub} {n : Nat} (cause : Cause) {session : Session}
    (h : (hub.retire n cause.reason cause.failure).2.session? n = some session) :
    session.isClaimed = true := by
  simp only [session?, acts_retire hub n cause n, only, if_true, Option.map_eq_some_iff] at h
  obtain ⟨_, ⟨connection, -, rfl⟩, rfl⟩ := h
  simp [Connection.move, Connection.withSession]

/-- The later table is the earlier one without some sessions whose closing has been claimed. -/
def Tables (hub later : Hub) : Prop :=
  ∀ n, (n ∈ later.table → n ∈ hub.table) ∧
    (n ∈ hub.table → n ∉ later.table →
      ∀ session, later.session? n = some session → session.isClaimed = true)

/-- Moves of one session leave the others as they are. -/
theorem Acts.session?_of_ne {hub later : Hub} {n m : Nat} {moves : List Move}
    (h : hub.Acts later (only n moves)) (hne : m ≠ n) : later.session? m = hub.session? m := by
  simp [session?, h m, only, hne]

/-- A close of a session that is looked for in the table only takes from the table. -/
theorem tables_closeLive {hub later : Hub} (h : hub.Tables later) (n : Nat) (reason : CloseReason) :
    hub.Tables (later.closeLive n reason).2 := by
  unfold closeLive
  split
  · intro m
    by_cases hm : m = n
    · subst hm
      refine ⟨fun hmem => ?_, fun _ _ session hs => isClaimed_of_retire (.plain reason) hs⟩
      rcases later.table_retire m reason none with heq | heq
      · exact (h m).1 (heq ▸ hmem)
      · exact (h m).1 (List.mem_of_mem_erase (heq ▸ hmem))
    · have hmem : m ∈ (later.close n reason).2.table ↔ m ∈ later.table := by
        rcases later.table_retire n reason none with heq | heq
        · rw [close, heq]
        · rw [close, heq, List.mem_erase_of_ne hm]
      rw [hmem, (acts_close later n reason).session?_of_ne hm]
      exact h m
  · exact h

/-- To close a session that is in no table any more is to close it again. -/
theorem acts_closeLive {hub later : Hub} (h : hub.Tables later) (n : Nat) (reason : CloseReason) :
    later.Acts (later.closeLive n reason).2
      (only n (if n ∈ hub.table then [.close (.plain reason)] else [])) := by
  have hclose := acts_close later n reason
  unfold closeLive
  split
  · next hmem => rwa [if_pos ((h n).1 (by simpa using hmem))]
  · next hmem =>
    split
    · next hhub =>
      have hclaimed := (h n).2 hhub (by simpa using hmem)
      rwa [close, retire_of_isClaimed hclaimed] at hclose
    · exact (acts_nothing rfl).of_eq fun m => by simp [only]

/-- Clearing a topic makes a move for each subscriber that is in the table. -/
theorem acts_clearTopic (hub : Hub) (topic : Topic) :
    hub.Acts (hub.clearTopic topic).2 fun n =>
      ((hub.subscriptions.handles topic).filter (· = n)).flatMap fun target =>
        if target ∈ hub.table then [.close (.plain .topicClosed)] else [] := by
  have hfold := acts_foldl (fun hub n => (hub.closeLive n .topicClosed).2)
    (fun n => if n ∈ hub.table then [.close (.plain .topicClosed)] else []) hub.Tables
    (fun later n h => ⟨tables_closeLive h n .topicClosed, acts_closeLive h n .topicClosed⟩)
    (hub.subscriptions.handles topic) hub
    fun n => ⟨id, fun hmem hnot => absurd hmem hnot⟩
  simp only [clearTopic, closeEach_snd]
  split
  · exact hfold.reports (reports_log _ _ _ _)
  · exact hfold

/-- Moves of one session can be cut anywhere. -/
theorem only_append (target : Nat) (first second : List Move) (n : Nat) :
    only target (first ++ second) n = only target first n ++ only target second n := by
  unfold only
  split <;> rfl

/-- Two changes in turn that move the same session move it twice. -/
theorem Acts.then {first second third : Hub} {n : Nat} {moves moves' : List Move}
    (h : first.Acts second (only n moves)) (h' : second.Acts third (only n moves')) :
    first.Acts third (only n (moves ++ moves')) :=
  (h.trans h').of_eq fun m => (only_append n moves moves' m).symm

/-- A report moves nobody. -/
theorem acts_log (hub : Hub) (level : LogLevel) (message : String)
    (fields : List (String × Json)) (n : Nat) :
    hub.Acts (hub.log level message fields) (only n []) :=
  (acts_nothing rfl).of_eq fun m => by simp [only]

/-- What a poll of a watch does to its connection. -/
theorem acts_pollWatch (hub : Hub) (n : Nat) :
    hub.Acts (hub.pollWatch n) (only n (hub.watchMoves n)) := by
  unfold pollWatch watchMoves Connection.watchMoves
  cases hconnection : hub.connections[n]? with
  | none => exact (acts_nothing rfl).of_eq fun m => by simp [only]
  | some connection =>
    have hwatch : hub.Acts
        (hub.modify n fun connection' =>
          { connection' with
            watch := (connection.watched hub.policy hub.now).watch
            timersSet := (connection.watched hub.policy hub.now).timersSet })
        (only n [.watch hub.policy hub.now]) :=
      acts_modify fun connection' h => by
        obtain rfl : connection = connection' := Option.some.inj (hconnection.symm.trans h)
        rfl
    simp only [Connection.watchFinding]
    cases (connection.watch.run hub.policy connection.session (connection.clock hub.now)).1 with
    | alive => exact hwatch
    | cancelled => exact hwatch
    | silent => exact hwatch.then ((acts_log _ _ _ _ n).then (acts_closeFor _ n _))

/-- The end of a writer asks for what its causes say. -/
theorem acts_endWriter (hub : Hub) (n : Nat) (exit : WriterExit) :
    hub.Acts (hub.endWriter n exit) (only n (exit.causes.map .close)) := by
  cases exit with
  | orderly reason => exact (acts_log _ _ _ _ n).then (acts_close _ n reason)
  | failed fault =>
    exact ((acts_log _ _ _ _ n).then (acts_closeFor _ n (.transport fault))).then
      ((acts_log _ _ _ _ n).then (acts_close _ n .transportError))
  | panicked => exact acts_close hub n .aborted

/-- What a poll of a writer does to its connection. -/
theorem acts_pollWriter (hub : Hub) (n : Nat) :
    hub.Acts (hub.pollWriter n) (only n (hub.writerMoves n)) := by
  unfold pollWriter writerMoves Connection.writerMoves
  cases hconnection : hub.connections[n]? with
  | none => exact (acts_nothing rfl).of_eq fun m => by simp [only]
  | some connection =>
    cases hservice : connection.service with
    | none =>
      intro m
      by_cases hm : m = n
      · subst hm
        simp [hconnection, only, Connection.writerExit?, Connection.move, Connection.written, hservice]
      · simp [only, hm, hservice]
    | some service =>
      have hstore : hub.Acts (hub.modify n (·.written hub.policy hub.now))
          (only n [.write hub.policy hub.now]) := acts_modify fun _ _ => rfl
      have hwritten : hub.modify n (·.written hub.policy hub.now) = hub.modify n fun connection' =>
          { connection' with
            session := (connection.written hub.policy hub.now).session
            service := (connection.written hub.policy hub.now).service
            timersSet := (connection.written hub.policy hub.now).timersSet } := by
        refine congrArg (fun connections => { hub with connections })
          (modify_congr_at hconnection ?_)
        simp only [Connection.written, hservice]
      rw [hwritten] at hstore
      simp only [Connection.written, hservice, Connection.writerExit?, Connection.desk] at hstore ⊢
      generalize Writer.run hub.policy service.phase { session := connection.session
                                                       client := service.client
                                                       clock := connection.clock hub.now } = result
        at hstore ⊢
      obtain ⟨run, desk⟩ := result
      cases run with
      | suspended phase => exact hstore
      | exited exit => exact hstore.then (acts_endWriter _ n exit)

/-- A client that reads makes one move. -/
theorem acts_receive (hub : Hub) (n limit : Nat) :
    hub.Acts (hub.receive n limit).2 (only n [.receive limit]) := by
  cases hconnection : hub.connections[n]? with
  | none =>
    rw [show (hub.receive n limit).2 = hub by simp [receive, hconnection]]
    intro m
    by_cases hm : m = n
    · simp [hm, hconnection]
    · simp [only, hm]
  | some connection =>
    obtain ⟨session, watch, service, held, timersSet⟩ := connection
    cases service with
    | none =>
      rw [show (hub.receive n limit).2 = hub by simp [receive, hconnection]]
      intro m
      by_cases hm : m = n
      · simp [hm, hconnection, only, Connection.move, Connection.withClient]
      · simp [only, hm]
    | some service =>
      rw [show (hub.receive n limit).2 = hub.modifyClient n fun _ => (service.client.receive limit).2
        by simp [receive, hconnection]]
      apply acts_modify
      intro connection h
      obtain rfl := Option.some.inj (hconnection.symm.trans h)
      rfl

/-- To claim a closing is to change the session, if nobody has claimed its closing before. -/
theorem claimed_eq (hub : Hub) (n : Nat) (reason : CloseReason) :
    hub.claimed n reason = hub.modifySession n fun session =>
      if session.isClaimed then session else session.claimedFor reason := by
  cases hs : hub.session? n with
  | none =>
    have hlength : hub.connections.length ≤ n := by simpa [session?] using hs
    simp [claimed, claim?, hs, modifySession, modify, List.modify_eq_self hlength]
  | some session =>
    obtain ⟨connection, hconnection, rfl⟩ := connection_of_session? hs
    cases hclaimed : connection.session.isClaimed with
    | true =>
      have hnone := Session.claim?_of_isClaimed hclaimed reason
      have hsame : hub.connections = hub.connections.modify n fun connection =>
          { connection with session :=
              if connection.session.isClaimed then connection.session
              else connection.session.claimedFor reason } := by
        refine (List.modify_id n hub.connections).symm.trans (modify_congr_at hconnection ?_)
        simp [hclaimed]
      simp only [claimed, claim?, hs, Option.bind_eq_bind, Option.bind_some, hnone, Option.bind_none]
      exact congrArg (fun connections : List Connection => { hub with connections }) hsame
    | false =>
      have hsome := Session.claim?_of_unclaimed hclaimed reason
      simp only [claimed, claim?, hs, Option.bind_eq_bind, Option.bind_some, hsome]
      refine congrArg (fun connections : List Connection => { hub with connections })
        (modify_congr_at hconnection ?_)
      simp [hclaimed]

/-- A claim makes one move. -/
theorem acts_claimed (hub : Hub) (n : Nat) (reason : CloseReason) :
    hub.Acts (hub.claimed n reason) (only n [.claim reason]) := by
  rw [claimed_eq]
  exact acts_modify fun _ _ => rfl

/-- Whether an operation may add a session. -/
def Operation.creates : Operation → Bool
  | .join .. | .connect .. | .create .. => true
  | _ => false

/-- An operation that adds no session is the sum of its moves. -/
theorem acts_step (hub : Hub) {operation : Operation} (h : operation.creates = false) :
    hub.Acts (hub.step operation) fun n => hub.moves n operation := by
  cases operation with
  | join | connect | create => simp [Operation.creates] at h
  | publish event => exact acts_publish hub event
  | offer n event => exact acts_offer hub n event
  | take n => exact acts_modify fun _ _ => rfl
  | close n reason => exact acts_close hub n reason
  | closeFor n fault => exact acts_closeFor hub n fault
  | closeLive n reason =>
    exact acts_closeLive (fun m => ⟨id, fun hmem hnot => absurd hmem hnot⟩) n reason
  | clearTopic topic => exact acts_clearTopic hub topic
  | sweep => exact fun n => acts_sweep hub.beginStop n
  | refresh n => exact acts_modify fun _ _ => rfl
  | noteWrite n => exact acts_modify fun _ _ => rfl
  | receive n limit => exact acts_receive hub n limit
  | loseClient n => exact acts_modify fun _ _ => rfl
  | letGo n => exact acts_modify fun _ _ => rfl
  | pollWatch n => exact acts_pollWatch hub n
  | pollWriter n => exact acts_pollWriter hub n
  | claim n reason => exact acts_claimed hub n reason
  | release n => exact acts_modify fun _ _ => rfl
  | pass | report | countHit | unsubscribe => exact acts_nothing rfl
  | subscribe n topic =>
    apply acts_nothing
    simp only [step, enroll]
    split <;> rfl

/-- An operation that adds a connection moves none of those before. -/
theorem moves_of_creates (hub : Hub) (n : Nat) {operation : Operation}
    (h : operation.creates = true) : hub.moves n operation = [] := by
  cases operation <;> simp [Operation.creates] at h <;> rfl

/-! ## What a step finds and what it adds -/

/-- The connection that an operation adds. -/
inductive Arrives (hub : Hub) : Operation → Connection → Prop
  | joined (topic : Topic) (id : SessionId) : Arrives hub (.join topic id) (hub.newcomer topic id)
  | accepted (topic : Topic) (id : SessionId) (transport : Transport) (initial : Option Int64)
      (h : (hub.connect topic id transport.client initial).1 = .ok hub.connections.length) :
      Arrives hub (.connect topic id transport initial)
        (hub.welcomed topic id transport.client initial)
  | created (topic : Topic) (capacity : Nat) (id : SessionId) :
      Arrives hub (.create topic capacity id)
        { session := Session.create id topic (.ofCapacity capacity) hub.now }

/-- Somebody outside makes a session, or is told in vain to. -/
theorem step_create (hub : Hub) (topic : Topic) (capacity : Nat) (id : SessionId) :
    hub.step (.create topic capacity id) =
      if capacity ≤ Outbox.maxCapacity then hub.created topic capacity id else hub := by
  rw [step, create_eq]
  split <;> rfl

/-- An operation that may add a connection adds at most one. -/
theorem arrives_of_creates (hub : Hub) {operation : Operation} (h : operation.creates = true) :
    (hub.step operation).connections = hub.connections ∨
      ∃ connection, hub.Arrives operation connection ∧
        (hub.step operation).connections = hub.connections ++ [connection] := by
  cases operation with
  | join topic id =>
    cases hub.joinCase topic id with
    | stopping _ _ hhub => exact Or.inl hhub.connections
    | full _ _ _ hhub => exact Or.inl hhub.connections
    | panicked _ _ _ hhub => exact Or.inl (by rw [step, hhub, forfeited])
    | admitted _ _ _ hhub => exact Or.inr ⟨_, .joined topic id, hhub.connections⟩
  | connect topic id transport initial =>
    cases hub.connectCase topic id transport.client initial with
    | stopping _ _ hconnections => exact Or.inl hconnections
    | full _ _ hconnections => exact Or.inl hconnections
    | panicked _ _ hconnections => exact Or.inl hconnections
    | admitted _ hanswer hconnections =>
      exact Or.inr ⟨_, .accepted topic id transport initial hanswer, hconnections⟩
  | create topic capacity id =>
    rw [step_create]
    split
    · exact Or.inr ⟨_, .created topic capacity id, rfl⟩
    · exact Or.inl rfl
  | _ => cases h

/-- What is there before a step is there after it, with the moves of the step made. -/
theorem connections_step {hub : Hub} {n : Nat} {before : Connection}
    (h : hub.connections[n]? = some before) (operation : Operation) :
    (hub.step operation).connections[n]? = some (before.after (hub.moves n operation)) := by
  cases hcreates : operation.creates with
  | false => rw [hub.acts_step hcreates n, h, Option.map_some]
  | true =>
    rw [moves_of_creates hub n hcreates]
    rcases hub.arrives_of_creates hcreates with hkept | ⟨added, -, hadded⟩
    · rwa [hkept]
    · rwa [hadded, List.getElem?_append_left (List.getElem?_eq_some_iff.mp h).1]

/-- What is there before a run is there after it, with some moves made. -/
theorem connections_run {hub : Hub} {n : Nat} {before : Connection}
    (h : hub.connections[n]? = some before) (operations : List Operation) :
    ∃ moves, (hub.run operations).connections[n]? = some (before.after moves) := by
  induction operations generalizing hub before with
  | nil => exact ⟨[], h⟩
  | cons operation rest ih =>
    obtain ⟨moves, hlater⟩ := ih (connections_step h operation)
    exact ⟨hub.moves n operation ++ moves, by rw [run_cons, hlater, before.after_append]⟩

/-- What is only there after a step has arrived by it, and has the next number. -/
theorem arrives_step {hub : Hub} {n : Nat} {operation : Operation} {later : Connection}
    (hnone : hub.connections[n]? = none)
    (hlater : (hub.step operation).connections[n]? = some later) :
    n = hub.connections.length ∧ hub.Arrives operation later := by
  have hlength : hub.connections.length ≤ n := List.getElem?_eq_none_iff.mp hnone
  cases hcreates : operation.creates with
  | false =>
    rw [hub.acts_step hcreates n, hnone] at hlater
    cases hlater
  | true =>
    rcases hub.arrives_of_creates hcreates with hkept | ⟨added, harrives, hadded⟩
    · rw [hkept, hnone] at hlater
      cases hlater
    · rw [hadded, List.getElem?_append_right hlength] at hlater
      have hfirst : n - hub.connections.length = 0 := by
        have hlt := (List.getElem?_eq_some_iff.mp hlater).1
        rw [List.length_singleton] at hlt
        omega
      rw [hfirst] at hlater
      obtain rfl := Option.some.inj hlater
      exact ⟨by omega, harrives⟩

end Hub

end LiveCounter
