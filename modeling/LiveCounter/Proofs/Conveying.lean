import LiveCounter.Proofs.ClosingOnce
import LiveCounter.Proofs.Writing

/-!
# What is queued is what arrives

An event that a session takes waits in the outbox, then it is in flight, then the client has it; a
frame that a buffered client has taken waits in the buffer until it is read. Nothing is lost or
doubled on the way while the session is open, and what arrives of a closed one is the beginning of
what was queued.
-/

namespace LiveCounter

/-- Whether a move takes events from the outbox past the writer. -/
def Move.drains : Move → Bool
  | .take | .release => true
  | _ => false

namespace Connection

/-- What some moves of a connection leave behind, given what each one leaves behind. -/
def trace {A : Type} (observe : Connection → Move → List A) : Connection → List Move → List A
  | _, [] => []
  | connection, move :: rest => observe connection move ++ trace observe (connection.move move) rest

/-- What no move leaves behind, all of them together do not either. -/
theorem trace_eq_nil {A : Type} {observe : Connection → Move → List A} {moves : List Move}
    (h : ∀ connection, ∀ move ∈ moves, observe connection move = []) (connection : Connection) :
    connection.trace observe moves = [] := by
  induction moves generalizing connection with
  | nil => rfl
  | cons move rest ih =>
    rw [trace, h connection move List.mem_cons_self, List.nil_append]
    exact ih (fun other later hlater => h other later (List.mem_cons_of_mem _ hlater)) _

/-- The event that a move puts into the outbox. -/
def queues (connection : Connection) : Move → List CounterEvent
  | .offer event => if (connection.session.offer event).2 = .queued then [event] else []
  | _ => []

/-- What the client has accepted is the beginning of what was queued. While the session is open, and
its writer runs, the rest is in flight or in the outbox. -/
structure Accounts (queued : List Frame) (session : Session) (service : Service) : Prop where
  live : session.stage = .open → session.cancelled = false
  handed : service.client.eventFrames <+: queued
  flow : session.cancelled = false → service.phase ≠ .ended →
    queued = service.client.eventFrames ++ service.phase.inFlight ++
      session.outbox.items.map .ofEvent

/-- The accounts take in an event that is offered to the session. -/
theorem Accounts.offer {queued : List Frame} {session : Session} {service : Service}
    (h : Accounts queued session service) (event : CounterEvent) :
    Accounts (queued ++ (if (session.offer event).2 = .queued then [event] else []).map .ofEvent)
      (session.offer event).1 service := by
  rw [Session.offer_eq]
  split
  · split
    · simpa using ⟨h.live, h.handed, h.flow⟩
    · refine ⟨h.live, h.handed.trans (List.prefix_append _ _), fun hcancelled hphase => ?_⟩
      simp [h.flow hcancelled hphase]
  · simpa using h

/-- The accounts stay in order when the session is retired. -/
theorem Accounts.retired {queued : List Frame} {session : Session} {service : Service}
    (h : Accounts queued session service) (reason : CloseReason) (fault : Option StreamFault) :
    Accounts queued (session.retired reason fault) service := by
  unfold Session.retired
  split
  · exact h
  · exact ⟨by simp, h.handed, by simp⟩

/-- The accounts stay in order when the session is claimed. -/
theorem Accounts.claimed {queued : List Frame} {session : Session} {service : Service}
    (h : Accounts queued session service) (reason : CloseReason) :
    Accounts queued (if session.isClaimed then session else session.claimedFor reason) service := by
  split
  · exact h
  · exact ⟨by simp [Session.claimedFor], h.handed, by simp [Session.claimedFor]⟩

/-- The accounts concern nothing of the client but what it has accepted. -/
theorem Accounts.sameAccepted {queued : List Frame} {session : Session} {service : Service}
    (h : Accounts queued session service) {client : Client}
    (hsame : client.accepted = service.client.accepted) :
    Accounts queued session { service with client } := by
  have hframes : client.eventFrames = service.client.eventFrames := by
    simp only [Client.eventFrames, Client.frames, hsame]
  exact ⟨h.live, hframes ▸ h.handed, fun hcancelled hphase => by
    rw [hframes]
    exact h.flow hcancelled hphase⟩

/-- What a client reads, it had accepted before. -/
theorem accepted_receive (client : Client) (limit : Nat) :
    (client.receive limit).2.accepted = client.accepted := by
  unfold Client.receive
  split <;> rfl

/-- A client that leaves keeps what it has accepted. -/
theorem accepted_leave (client : Client) : client.leave.accepted = client.accepted := by
  unfold Client.leave
  split <;> rfl

/-- The service of a connection after its writer has run. -/
theorem service_written {connection : Connection} {service : Service}
    (h : connection.service = some service) (policy : StreamPolicy) (now : Nat) :
    (connection.written policy now).service = some
      { phase := phaseAfter (Writer.run policy service.phase
          (connection.desk service.client now)).1
        client := (Writer.run policy service.phase (connection.desk service.client now)).2.client } := by
  simp [written, h]

/-- A poll leaves the session as the run of the writer does. -/
theorem session_written {connection : Connection} {service : Service}
    (h : connection.service = some service) (policy : StreamPolicy) (now : Nat) :
    (connection.written policy now).session =
      (Writer.run policy service.phase (connection.desk service.client now)).2.session := by
  simp [written, h]

/-- A run of the writer hands on what the outbox held, and the accounts stay in order. -/
theorem Accounts.written {queued : List Frame} {connection : Connection} {service : Service}
    (h : Accounts queued connection.session service) (hservice : connection.service = some service)
    (policy : StreamPolicy) (now : Nat) :
    ∃ service', (connection.written policy now).service = some service' ∧
      Accounts queued (connection.written policy now).session service' := by
  refine ⟨_, service_written hservice policy now, ?_⟩
  rw [session_written hservice]
  have hsame := Writer.sameCourse_run policy service.phase (connection.desk service.client now)
  have hlive : (Writer.run policy service.phase (connection.desk service.client now)).2.session.stage =
      .open → (Writer.run policy service.phase
        (connection.desk service.client now)).2.session.cancelled = false := fun hopen =>
    hsame.cancelled.trans (h.live (hsame.stage.symm.trans hopen))
  by_cases hphase : service.phase = .ended
  · simpa [hphase, Writer.run, phaseAfter, desk] using
      (⟨h.live, h.handed, fun _ hnot => absurd rfl hnot⟩ :
        Accounts queued connection.session { phase := .ended, client := service.client })
  · cases hcancelled : connection.session.cancelled with
    | true =>
      obtain ⟨exit, later, hrun, hclient, -⟩ := Writer.run_of_cancelled policy hphase
        (show (connection.desk service.client now).session.cancelled = true from hcancelled)
      refine ⟨hlive, ?_, fun _ hnot => ?_⟩
      · simp only [hrun, hclient]
        exact h.handed
      · simp [hrun, phaseAfter] at hnot
    | false =>
      have hconveys := Writer.conveys_run policy hphase
        (show queued = (connection.desk service.client now).client.eventFrames ++
          service.phase.inFlight ++ Writer.pending (connection.desk service.client now) from
          h.flow hcancelled hphase)
      generalize Writer.run policy service.phase (connection.desk service.client now) = result at *
      obtain ⟨run, later⟩ := result
      cases run with
      | suspended phase =>
        obtain ⟨-, hflow⟩ := hconveys
        refine ⟨hlive, ?_, fun _ _ => hflow⟩
        rw [hflow, List.append_assoc]
        exact List.prefix_append _ _
      | exited exit => exact ⟨hlive, hconveys, fun _ hnot => absurd rfl hnot⟩

/-- A move that takes nothing from the outbox past the writer keeps the account. -/
theorem Accounts.move {queued : List Frame} {connection : Connection} {service : Service}
    (h : Accounts queued connection.session service) (hservice : connection.service = some service)
    {move : Move} (hmove : move.drains = false) :
    ∃ service', (connection.move move).service = some service' ∧
      Accounts (queued ++ (connection.queues move).map .ofEvent) (connection.move move).session
        service' := by
  cases move with
  | take | release => simp [Move.drains] at hmove
  | offer event => exact ⟨service, hservice, h.offer event⟩
  | close cause =>
    simp only [queues, List.map_nil, List.append_nil]
    exact ⟨service, hservice, h.retired _ _⟩
  | claim reason =>
    simp only [queues, List.map_nil, List.append_nil]
    exact ⟨service, hservice, h.claimed reason⟩
  | refresh | noteWrite | letGo | watch =>
    simp only [queues, List.map_nil, List.append_nil]
    exact ⟨service, hservice, h.live, h.handed, h.flow⟩
  | receive limit =>
    simp only [queues, List.map_nil, List.append_nil]
    exact ⟨_, by rw [Connection.move, withClient, hservice]; rfl,
      h.sameAccepted (accepted_receive service.client limit)⟩
  | leave =>
    simp only [queues, List.map_nil, List.append_nil]
    exact ⟨_, by rw [Connection.move, withClient, hservice]; rfl,
      h.sameAccepted (accepted_leave service.client)⟩
  | write policy now =>
    simp only [queues, List.map_nil, List.append_nil]
    exact h.written hservice policy now

/-- The accounts stay in order as long as nobody takes events past the writer. -/
theorem Accounts.after {queued : List Frame} {connection : Connection} {service : Service}
    (h : Accounts queued connection.session service) (hservice : connection.service = some service)
    {moves : List Move} (hmoves : ∀ move ∈ moves, move.drains = false) :
    ∃ service', (connection.after moves).service = some service' ∧
      Accounts (queued ++ (connection.trace queues moves).map .ofEvent)
        (connection.after moves).session service' := by
  induction moves generalizing queued connection service with
  | nil => exact ⟨service, hservice, by simpa [trace] using h⟩
  | cons move rest ih =>
    obtain ⟨service', hservice', hmove⟩ := h.move hservice (hmoves move List.mem_cons_self)
    obtain ⟨service'', hservice'', hrest⟩ :=
      ih hmove hservice' fun other hother => hmoves other (List.mem_cons_of_mem _ hother)
    exact ⟨service'', hservice'', by simpa [trace] using hrest⟩

/-! ## Writers that have ended -/

/-- A writer only ends together with its session. -/
def Manned (connection : Connection) : Prop :=
  ∀ service, connection.service = some service → service.phase = .ended →
    connection.session.isClaimed = true

/-- A claim is not taken back. -/
theorem isClaimed_move {connection : Connection} (h : connection.session.isClaimed = true)
    (move : Move) : (connection.move move).session.isClaimed = true := by
  have hrank := connection.rank_move move
  rw [Hub.isClaimed_iff_rank] at h ⊢
  exact Nat.le_trans h hrank

/-- A claim is not taken back by any moves. -/
theorem isClaimed_after {connection : Connection} (h : connection.session.isClaimed = true)
    (moves : List Move) : (connection.after moves).session.isClaimed = true := by
  have hrank := connection.rank_after moves
  rw [Hub.isClaimed_iff_rank] at h ⊢
  exact Nat.le_trans h hrank

/-- A session that nobody has claimed was unclaimed before. -/
theorem unclaimed_of_after {connection : Connection} {moves : List Move}
    (h : (connection.after moves).session.isClaimed = false) :
    connection.session.isClaimed = false := by
  cases hclaimed : connection.session.isClaimed with
  | false => rfl
  | true => exact (isClaimed_after hclaimed moves).symm.trans h

/-- Whether a move lets the writer run. -/
def runsWriter : Move → Bool
  | .write .. => true
  | _ => false

/-- A writer that does not run does not end. -/
theorem Manned.move {connection : Connection} (h : connection.Manned) {move : Move}
    (hmove : runsWriter move = false) : (connection.move move).Manned := by
  intro service hservice hphase
  refine isClaimed_move ?_ move
  cases move with
  | write => simp [runsWriter] at hmove
  | receive | leave =>
    simp only [Connection.move, withClient, Option.map_eq_some_iff] at hservice
    obtain ⟨before, hbefore, rfl⟩ := hservice
    exact h before hbefore hphase
  | _ => exact h service hservice hphase

/-- A writer that does not run does not end, whatever else happens. -/
theorem Manned.after {connection : Connection} (h : connection.Manned) {moves : List Move}
    (hmoves : ∀ move ∈ moves, runsWriter move = false) : (connection.after moves).Manned :=
  after_induction h fun move hmem _ hmanned => hmanned.move (hmoves move hmem)

/-- Closing a session does not touch its writer and its client. -/
theorem service_after_closes (connection : Connection) (causes : List Cause) :
    (connection.after (causes.map .close)).service = connection.service := by
  induction causes generalizing connection with
  | nil => rfl
  | cons cause rest ih => exact ih _

/-- A session that is asked to close is claimed. -/
theorem isClaimed_after_closes (connection : Connection) {causes : List Cause} (h : causes ≠ []) :
    (connection.after (causes.map .close)).session.isClaimed = true := by
  obtain ⟨cause, rest, rfl⟩ := List.exists_cons_of_ne_nil h
  have hclaimed : (connection.move (.close cause)).session.isClaimed = true :=
    Session.isClaimed_retired _ _ _
  exact isClaimed_after hclaimed _

/-- Every exit of a writer asks for the session to be closed. -/
theorem causes_ne_nil (exit : WriterExit) : exit.causes ≠ [] := by
  cases exit <;> simp [WriterExit.causes]

/-- Only a writer that has ended already stays ended without a word. -/
theorem writerExit?_of_ended {connection : Connection} {service : Service}
    (hservice : connection.service = some service) (hphase : service.phase ≠ .ended)
    {policy : StreamPolicy} {now : Nat}
    (hended : phaseAfter (Writer.run policy service.phase
      (connection.desk service.client now)).1 = .ended) :
    ∃ exit, connection.writerExit? policy now = some exit := by
  have hconveys := Writer.conveys_run policy hphase
    (rfl : _ = (connection.desk service.client now).client.eventFrames ++ service.phase.inFlight ++
      Writer.pending (connection.desk service.client now))
  simp only [writerExit?, hservice]
  generalize Writer.run policy service.phase (connection.desk service.client now) = result at *
  obtain ⟨run, later⟩ := result
  cases run with
  | suspended phase => exact absurd hended hconveys.1
  | exited exit => exact ⟨exit, rfl⟩

/-- A writer that has run to its end is followed by the closings that it asks for. -/
theorem Manned.write {connection : Connection} (h : connection.Manned) (policy : StreamPolicy)
    (now : Nat) :
    ((connection.written policy now).after
      (((connection.writerExit? policy now).elim [] (·.causes)).map .close)).Manned := by
  intro service hservice hphase
  rw [service_after_closes] at hservice
  cases hbefore : connection.service with
  | none => simp [written, hbefore] at hservice
  | some before =>
    by_cases hended : before.phase = .ended
    · refine isClaimed_after ?_ _
      rw [(connection.sameCourse_written policy now).isClaimed]
      exact h before hbefore hended
    · rw [service_written hbefore] at hservice
      obtain rfl := Option.some.inj hservice
      obtain ⟨exit, hexit⟩ := writerExit?_of_ended hbefore hended hphase
      rw [hexit]
      exact isClaimed_after_closes _ (causes_ne_nil exit)

/-! ## Reading -/

/-- The frames that a buffered client has accepted are those that were read, and a few more. -/
def Delivers (buffer : Nat) (received : List Frame) (client : Client) : Prop :=
  client.gone = true ∨ ∃ unread, client.peer = .buffered (max buffer 1) unread ∧
    client.frames = received ++ unread ∧ unread.length ≤ max buffer 1

/-- A frame that is put into a buffer waits there to be read. -/
theorem Delivers.fill {buffer : Nat} {received : List Frame} {client : Client}
    (h : Delivers buffer received client) {unread : List Frame} {capacity : Nat}
    (hpeer : client.peer = .buffered capacity unread) (now : Nat) (frame : Frame) :
    Delivers buffer received (client.fill now frame capacity unread).2 := by
  unfold Client.fill
  split
  · exact h
  · next hgone =>
    split
    · next hroom =>
      obtain ⟨unread', hpeer', hframes, -⟩ := h.resolve_left hgone
      rw [hpeer] at hpeer'
      obtain ⟨rfl, rfl⟩ := Peer.buffered.inj hpeer'
      refine Or.inr ⟨_, rfl, ?_, by simpa using Nat.succ_le_of_lt hroom⟩
      show (client.accept now frame).frames = _
      rw [Client.frames_accept, hframes, List.append_assoc]
    · exact h

/-- A client that delivers what is read from it is not scripted, unless it has gone. -/
theorem Delivers.scripted {buffer : Nat} {received : List Frame} {client : Client}
    (h : Delivers buffer received client) {script : Nat → Treatment} {attempts : Nat}
    (hpeer : client.peer = .scripted script attempts) : client.gone = true := by
  rcases h with hgone | ⟨unread, hbuffered, -⟩
  · exact hgone
  · rw [hpeer] at hbuffered
    cases hbuffered

/-- A client does not leave by the end of an attempt. -/
theorem gone_conclude (client : Client) (now : Nat) (frame : Frame) (reception : Reception) :
    (client.conclude now frame reception).2.gone = client.gone := by
  cases reception <;> rfl

/-- Writing to a buffered client keeps what it delivers. -/
theorem kept_delivers (buffer : Nat) (received : List Frame) :
    Writer.Kept (Delivers buffer received) where
  begin client now frame h := by
    unfold Client.beginWrite
    split
    · next hpeer =>
      apply Or.inl
      simp only
      split
      · exact (gone_conclude _ _ _ _).trans (h.scripted hpeer)
      · exact h.scripted hpeer
    · next hpeer => exact h.fill hpeer now frame
  delay client now frame h := by
    unfold Client.endDelay
    split
    · next hpeer => exact Or.inl ((gone_conclude _ _ _ _).trans (h.scripted hpeer))
    · next hpeer => exact h.fill hpeer now frame
  retry client now frame h := by
    unfold Client.retry
    split
    · exact h
    · next hpeer => exact h.fill hpeer now frame

/-- What a client reads was waiting for it. -/
theorem Delivers.receive {buffer : Nat} {received : List Frame} {client : Client}
    (h : Delivers buffer received client) (limit : Nat) :
    Delivers buffer (received ++ (client.receive limit).1) (client.receive limit).2 := by
  unfold Client.receive
  split
  · next hpeer => exact Or.inl (h.scripted hpeer)
  · next hpeer =>
    rcases h with hgone | ⟨unread', hpeer', hframes, hlength⟩
    · exact Or.inl hgone
    · rw [hpeer] at hpeer'
      obtain ⟨rfl, rfl⟩ := Peer.buffered.inj hpeer'
      refine Or.inr ⟨_, rfl, ?_, ?_⟩
      · rw [List.append_assoc, List.take_append_drop]
        exact hframes
      · exact Nat.le_trans (by simp) hlength

/-- Nothing is promised of a client that has left. -/
theorem delivers_leave {buffer : Nat} {received : List Frame} (client : Client) :
    Delivers buffer received client.leave := by
  apply Or.inl
  unfold Client.leave
  split <;> rfl

/-- The client of a connection delivers what has been read from it. -/
def Reads (buffer : Nat) (received : List Frame) (connection : Connection) : Prop :=
  ∀ service, connection.service = some service → Delivers buffer received service.client

/-- Whether a move reads from the client. -/
def readsClient : Move → Bool
  | .receive _ => true
  | _ => false

/-- Frames that are written and not read wait in the buffer. -/
theorem Reads.move {buffer : Nat} {received : List Frame} {connection : Connection}
    (h : Reads buffer received connection) {move : Move} (hmove : readsClient move = false) :
    Reads buffer received (connection.move move) := by
  intro service hservice
  cases move with
  | receive => simp [readsClient] at hmove
  | leave =>
    simp only [Connection.move, withClient, Option.map_eq_some_iff] at hservice
    obtain ⟨before, -, rfl⟩ := hservice
    exact delivers_leave before.client
  | write policy now =>
    cases hbefore : connection.service with
    | none => simp [Connection.move, written, hbefore] at hservice
    | some before =>
      rw [Connection.move, service_written hbefore] at hservice
      obtain rfl := Option.some.inj hservice
      exact (kept_delivers buffer received).run policy before.phase (h before hbefore)
  | _ => exact h service hservice

/-- Frames that are written and not read wait in the buffer, whatever else happens. -/
theorem Reads.after {buffer : Nat} {received : List Frame} {connection : Connection}
    (h : Reads buffer received connection) {moves : List Move}
    (hmoves : ∀ move ∈ moves, readsClient move = false) :
    Reads buffer received (connection.after moves) :=
  after_induction h fun move hmem _ hreads => hreads.move (hmoves move hmem)

end Connection

namespace Hub

/-- Whether an operation takes events from the outbox of a session past its writer. -/
def Operation.drains (n : Nat) : Operation → Bool
  | .take target | .release target => target = n
  | _ => false

/-- The moves of a session under the operations that are not all offers and closings. -/
inductive Operation.Does (n : Nat) : Operation → Move → Prop
  | offer (operation : Operation) (event : CounterEvent) : Does n operation (.offer event)
  | close (operation : Operation) (cause : Cause) : Does n operation (.close cause)
  | take : Does n (.take n) .take
  | claim (reason : CloseReason) : Does n (.claim n reason) (.claim reason)
  | release : Does n (.release n) .release
  | refresh (now : Nat) : Does n (.refresh n) (.refresh now)
  | noteWrite (now : Nat) : Does n (.noteWrite n) (.noteWrite now)
  | receive (limit : Nat) : Does n (.receive n limit) (.receive limit)
  | leave : Does n (.loseClient n) .leave
  | letGo : Does n (.letGo n) .letGo
  | watch (policy : StreamPolicy) (now : Nat) : Does n (.pollWatch n) (.watch policy now)
  | write (policy : StreamPolicy) (now : Nat) : Does n (.pollWriter n) (.write policy now)

/-- The moves of one session are not those of another. -/
theorem mem_only {target n : Nat} {moves : List Move} {move : Move} (h : move ∈ only target moves n) :
    n = target ∧ move ∈ moves := by
  unfold only at h
  split at h
  · next heq => exact ⟨heq, h⟩
  · simp at h

/-- A move of a session comes from an operation that makes such moves. -/
theorem does_of_mem {hub : Hub} {n : Nat} {operation : Operation} {move : Move}
    (h : move ∈ hub.moves n operation) : operation.Does n move := by
  cases operation with
  | publish event =>
    simp only [moves, publishMoves, List.mem_append, List.mem_map] at h
    rcases h with (⟨_, -, rfl⟩ | ⟨_, -, rfl⟩) | ⟨_, -, rfl⟩
    · exact .offer _ event
    · exact .close _ _
    · exact .close _ _
  | clearTopic topic =>
    simp only [moves, List.mem_flatMap] at h
    obtain ⟨_, -, h⟩ := h
    split at h
    · obtain rfl := List.mem_singleton.mp h
      exact .close _ _
    · simp at h
  | sweep =>
    simp only [moves, List.mem_map] at h
    obtain ⟨_, -, rfl⟩ := h
    exact .close _ _
  | closeLive target reason =>
    simp only [moves] at h
    obtain ⟨rfl, hmem⟩ := mem_only h
    split at hmem
    · obtain rfl := List.mem_singleton.mp hmem
      exact .close _ _
    · simp at hmem
  | pollWatch target =>
    simp only [moves] at h
    obtain ⟨rfl, hmem⟩ := mem_only h
    unfold watchMoves Connection.watchMoves at hmem
    split at hmem
    · simp at hmem
    · rcases List.mem_cons.mp hmem with rfl | hmem
      · exact .watch _ _
      · split at hmem
        · simp at hmem
        · simp at hmem
        · obtain rfl := List.mem_singleton.mp hmem
          exact .close _ _
  | pollWriter target =>
    simp only [moves] at h
    obtain ⟨rfl, hmem⟩ := mem_only h
    unfold writerMoves Connection.writerMoves at hmem
    split at hmem
    · simp at hmem
    · rcases List.mem_cons.mp hmem with rfl | hmem
      · exact .write _ _
      · obtain ⟨_, -, rfl⟩ := List.mem_map.mp hmem
        exact .close _ _
  | offer | close | closeFor | take | claim | release | refresh | noteWrite | receive | loseClient
  | letGo =>
    simp only [moves] at h
    obtain ⟨rfl, hmem⟩ := mem_only h
    obtain rfl := List.mem_singleton.mp hmem
    constructor
  | join | connect | pass | report | countHit | create | subscribe | unsubscribe => simp [moves] at h

/-- The events of an operation that the outbox of a session takes. -/
def queued (n : Nat) (hub : Hub) (operation : Operation) : List CounterEvent :=
  match hub.connections[n]? with
  | some connection => connection.trace Connection.queues (hub.moves n operation)
  | none => []

/-- What an operation queues is what the moves of the session queue. -/
theorem queued_of_connection {hub : Hub} {n : Nat} {connection : Connection}
    (h : hub.connections[n]? = some connection) (operation : Operation) :
    queued n hub operation = connection.trace Connection.queues (hub.moves n operation) := by
  simp only [queued, h]

/-- The frames that an operation reads from the client of a session. -/
def received (n : Nat) (hub : Hub) : Operation → List Frame
  | .receive target limit => if target = n then (hub.receive n limit).1 else []
  | _ => []

/-- A session with a client stands as the events that were queued and the frames that were read have
left it. -/
def Streams (n : Nat) (buffer : Option Nat) (events : List CounterEvent) (frames : List Frame)
    (hub : Hub) : Prop :=
  ∃ connection service, hub.connections[n]? = some connection ∧ connection.service = some service ∧
    Connection.Accounts (events.map .ofEvent) connection.session service ∧ connection.Manned ∧
    ∀ size ∈ buffer, Connection.Reads size frames connection

/-- An operation takes no events past the writer if none of its moves do. -/
theorem drains_eq_false {hub : Hub} {n : Nat} {operation : Operation}
    (h : operation.drains n = false) : ∀ move ∈ hub.moves n operation, move.drains = false := by
  intro move hmem
  cases does_of_mem hmem with
  | take | release => simp [Operation.drains] at h
  | _ => rfl

/-- Whatever an operation does, a writer that ends leaves a session that closes. -/
theorem manned_step {hub : Hub} {n : Nat} {connection : Connection}
    (hconnection : hub.connections[n]? = some connection) (h : connection.Manned)
    (operation : Operation) : (connection.after (hub.moves n operation)).Manned := by
  by_cases hpoll : operation = .pollWriter n
  · subst hpoll
    simp only [moves, only, if_true, writerMoves, hconnection, Connection.writerMoves,
      Connection.after_cons]
    exact h.write hub.policy hub.now
  · apply h.after
    intro move hmem
    cases does_of_mem hmem with
    | write => exact absurd rfl hpoll
    | _ => rfl

/-- Frames are read by an operation that reads only. -/
theorem received_of_ne {hub : Hub} {n : Nat} {operation : Operation}
    (h : ∀ limit, operation ≠ .receive n limit) : received n hub operation = [] := by
  cases operation with
  | receive target limit =>
    have hne : target ≠ n := fun heq => h limit (heq ▸ rfl)
    simp [received, hne]
  | _ => rfl

/-- What an operation reads from a client was waiting for it. -/
theorem reads_step {hub : Hub} {n : Nat} {connection : Connection} {size : Nat}
    {frames : List Frame} (hconnection : hub.connections[n]? = some connection)
    (h : Connection.Reads size frames connection) (operation : Operation) :
    Connection.Reads size (frames ++ received n hub operation)
      (connection.after (hub.moves n operation)) := by
  by_cases hreceive : ∃ limit, operation = .receive n limit
  · obtain ⟨limit, rfl⟩ := hreceive
    intro service hservice
    simp only [moves, only, if_true, Connection.after_cons, Connection.after_nil, Connection.move,
      Connection.withClient, Option.map_eq_some_iff] at hservice
    obtain ⟨before, hbefore, rfl⟩ := hservice
    obtain ⟨session, watch, _, held, timersSet⟩ := connection
    obtain rfl : _ = some before := hbefore
    have hreceived : received n hub (.receive n limit) = (before.client.receive limit).1 := by
      simp [received, receive, hconnection]
    rw [hreceived]
    exact (h before rfl).receive limit
  · simp only [not_exists] at hreceive
    rw [received_of_ne hreceive, List.append_nil]
    apply h.after
    intro move hmem
    cases does_of_mem hmem with
    | receive limit => exact absurd rfl (hreceive limit)
    | _ => rfl

/-- An operation that takes no events past the writer adds to the stream what it queues and reads.
-/
theorem Streams.step {n : Nat} {buffer : Option Nat} {events : List CounterEvent}
    {frames : List Frame} {hub : Hub} (h : Streams n buffer events frames hub)
    {operation : Operation} (hdrains : operation.drains n = false) :
    Streams n buffer (events ++ queued n hub operation) (frames ++ received n hub operation)
      (hub.step operation) := by
  obtain ⟨connection, service, hconnection, hservice, haccounts, hmanned, hreads⟩ := h
  obtain ⟨service', hservice', hafter⟩ := haccounts.after hservice (drains_eq_false hdrains)
  refine ⟨connection.after (hub.moves n operation), service', connections_step hconnection operation,
    hservice', ?_, manned_step hconnection hmanned operation,
    fun size hsize => reads_step hconnection (hreads size hsize) operation⟩
  rw [List.map_append, queued_of_connection hconnection]
  exact hafter

/-- A run that takes no events past the writer adds to the stream what it queues and reads. -/
theorem Streams.run {n : Nat} {buffer : Option Nat} {events : List CounterEvent}
    {frames : List Frame} {hub : Hub} (h : Streams n buffer events frames hub)
    {operations : List Operation}
    (hdrains : ∀ operation ∈ operations, operation.drains n = false) :
    Streams n buffer (events ++ history (queued n) hub operations)
      (frames ++ history (received n) hub operations) (hub.run operations) := by
  induction operations generalizing hub events frames with
  | nil => simpa [history] using h
  | cons operation rest ih =>
    have hrest := ih (h.step (hdrains operation List.mem_cons_self)) fun other hother =>
      hdrains other (List.mem_cons_of_mem _ hother)
    simpa [history] using hrest

/-- The buffer of a transport that has one. -/
def bufferOf : Transport → Option Nat
  | .scripted _ => none
  | .channel buffer => some buffer

/-- The first event of a session that is accepted with a value. -/
def firstEvent (topic : Topic) (initial : Option Int64) : List CounterEvent :=
  (initial.map (CounterEvent.mk topic)).toList

/-- The outbox of a new session has room for the first event. -/
theorem items_greeted (hub : Hub) (topic : Topic) (id : SessionId) (initial : Option Int64) :
    ((hub.newcomer topic id).session.greeted topic initial).outbox.items =
      firstEvent topic initial := by
  cases initial with
  | none => rfl
  | some value =>
    have hroom : ¬ max hub.policy.queueCapacity 1 ≤ 0 := by omega
    simp [Session.greeted, Session.offer_eq, newcomer, Session.create, Outbox.ofCapacity,
      Outbox.length, firstEvent, hroom]

/-- A session that has been greeted with a value is not cancelled by it. -/
theorem cancelled_greeted (hub : Hub) (topic : Topic) (id : SessionId) (initial : Option Int64) :
    ((hub.newcomer topic id).session.greeted topic initial).cancelled = false := by
  cases initial with
  | none => rfl
  | some value => exact (Session.sameCourse_offer _ _).cancelled

/-- A session that has just been accepted has its first event in the outbox. -/
theorem streams_connect {hub : Hub} {topic : Topic} {id : SessionId} {transport : Transport}
    {initial : Option Int64} {n : Nat}
    (h : (hub.connect topic id transport.client initial).1 = .ok n) :
    Streams n (bufferOf transport) (firstEvent topic initial) []
      (hub.connect topic id transport.client initial).2 := by
  refine ⟨_, { client := transport.client }, connections_connect h, rfl, ?_, ?_, ?_⟩
  · have hframes : transport.client.eventFrames = [] := by cases transport <;> rfl
    refine ⟨fun _ => cancelled_greeted hub topic id initial, ?_, fun _ _ => ?_⟩
    · rw [hframes]
      exact List.nil_prefix
    · simp [hframes, Phase.inFlight, welcomed, items_greeted]
  · intro service hservice hphase
    obtain rfl := Option.some.inj hservice
    cases hphase
  · intro size hsize service hservice
    obtain rfl := Option.some.inj hservice
    cases transport with
    | scripted script => cases hsize
    | channel buffer =>
      obtain rfl : buffer = size := Option.some.inj hsize
      exact Or.inr ⟨[], rfl, rfl, Nat.zero_le _⟩

/-- What the outbox of an accepted session takes, the first value included, reaches its client in
order and once: while the session is open it is what the client has accepted, followed by at most
one frame that is being written, followed by the outbox; afterwards what the client has accepted is
the beginning of it. What a buffered client that has not gone has accepted is what has been read,
followed by a buffer that is no fuller than allowed. -/
theorem stream_conveys_what_is_queued (policy : StreamPolicy) (before after : List Operation)
    (topic : Topic) (id : SessionId) (transport : Transport) (initial : Option Int64) (n : Nat)
    (haccepted : (((Hub.new policy).run before).connect topic id transport.client initial).1 = .ok n)
    (hdirect : ∀ operation ∈ after, operation.drains n = false) :
    let start := (((Hub.new policy).run before).connect topic id transport.client initial).2
    let hub := start.run after
    let events := firstEvent topic initial ++ history (queued n) start after
    ∃ connection service, hub.connections[n]? = some connection ∧
      connection.service = some service ∧
      (connection.session.stage = .open →
        events.map .ofEvent = service.client.eventFrames ++ service.phase.inFlight ++
          connection.session.outbox.items.map .ofEvent) ∧
      service.phase.inFlight.length ≤ 1 ∧
      service.client.eventFrames <+: events.map .ofEvent ∧
      ∀ buffer, transport = .channel buffer → service.client.gone = false →
        service.client.frames = history (received n) start after ++ service.client.unread ∧
          service.client.unread.length ≤ max buffer 1 := by
  intro start hub events
  obtain ⟨connection, service, hconnection, hservice, haccounts, hmanned, hreads⟩ :=
    (streams_connect haccepted).run hdirect
  refine ⟨connection, service, hconnection, hservice, fun hopen => ?_,
    service.phase.length_inFlight_le_one, haccounts.handed, ?_⟩
  · apply haccounts.flow (haccounts.live hopen)
    intro hphase
    have hclaimed := hmanned service hservice hphase
    rw [Session.isClaimed_of_open hopen] at hclaimed
    cases hclaimed
  · rintro buffer rfl hgone
    rcases hreads buffer rfl service hservice with hleft | ⟨unread, hpeer, hframes, hlength⟩
    · simp [hleft] at hgone
    · have hunread : service.client.unread = unread := by simp [Client.unread, hpeer]
      rw [hunread]
      exact ⟨hframes, hlength⟩

/-- A stream with room for one unread frame, two events behind its first value. -/
theorem stream_conveys_what_is_queued_to_channel :
    let start := (((Hub.new .default).run []).connect (.random 0) ⟨0⟩ (Transport.channel 1).client
      (some 5)).2
    let hub := start.run [.pollWriter 0, .publish ⟨.random 0, 6⟩, .publish ⟨.random 0, 7⟩,
      .pollWriter 0, .receive 0 1, .pollWriter 0]
    ∃ connection service, hub.connections[0]? = some connection ∧
      connection.service = some service ∧
      [.event 5, .event 6, .event 7] = service.client.eventFrames ++ service.phase.inFlight ++
        connection.session.outbox.items.map .ofEvent ∧
      service.client.frames = [.event 5] ++ service.client.unread := by
  intro start hub
  obtain ⟨connection, service, hconnection, hservice, hopen, -, -, hchannel⟩ :=
    stream_conveys_what_is_queued .default [] [.pollWriter 0, .publish ⟨.random 0, 6⟩,
      .publish ⟨.random 0, 7⟩, .pollWriter 0, .receive 0 1, .pollWriter 0]
      (.random 0) ⟨0⟩ (.channel 1) (some 5) 0 (by decide +kernel) (by decide)
  have hevents : (firstEvent (.random 0) (some 5) ++ history (queued 0) start [.pollWriter 0,
      .publish ⟨.random 0, 6⟩, .publish ⟨.random 0, 7⟩, .pollWriter 0, .receive 0 1,
      .pollWriter 0]).map Frame.ofEvent = [.event 5, .event 6, .event 7] := by decide +kernel
  have hreceived : history (received 0) start [.pollWriter 0, .publish ⟨.random 0, 6⟩,
      .publish ⟨.random 0, 7⟩, .pollWriter 0, .receive 0 1, .pollWriter 0] = [.event 5] := by
    decide +kernel
  have hstage : (hub.connections[0]?).map (·.session.stage) = some .open := by decide +kernel
  have hgone : (hub.connections[0]?).map (fun connection =>
      connection.service.map (·.client.gone)) = some (some false) := by decide +kernel
  rw [hconnection] at hstage hgone
  rw [Option.map_some, hservice] at hgone
  refine ⟨connection, service, hconnection, hservice, ?_, ?_⟩
  · rw [← hevents]
    exact hopen (by simpa using hstage)
  · rw [← hreceived]
    exact (hchannel 1 rfl (by simpa using hgone)).1

end Hub

end LiveCounter
