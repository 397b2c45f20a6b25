import LiveCounter.Proofs.LiveTasks

/-!
# After the claim

Whoever claims the closing of a session cancels its tasks in the same moment, and a writer looks for
that before it looks at anything else. So the client has got its last frame when the claim lands,
whatever was queued, in flight or due just then, and publications pass the session by.
-/

namespace LiveCounter

/-- The first item counts as one if it has the property, and as nothing otherwise. -/
theorem countP_cons_toNat {A : Type} (p : A → Bool) (item : A) (rest : List A) :
    (item :: rest).countP p = (p item).toNat + rest.countP p := by
  rw [List.countP_cons, Nat.add_comm]
  cases p item <;> rfl

/-- Whether a move notes a write that no writer has made. -/
def Move.notesWrite : Move → Bool
  | .noteWrite _ => true
  | _ => false

namespace Session

/-- A session that is claimed takes no event. -/
theorem offer_of_isClaimed {session : Session} (h : session.isClaimed = true)
    (event : CounterEvent) : session.offer event = (session, .inactive) := by
  have hnot : session.stage ≠ .open := fun hopen => by simp [isClaimed_of_open hopen] at h
  rw [offer_eq, if_neg fun hboth => hnot hboth.1]

end Session

namespace Connection

/-- The second connection comes after the first one in the life of a session that is claimed. Its
client has accepted nothing more, and only the given number of writes has been noted. -/
structure Spent (before after : Connection) (noted : Nat) : Prop where
  claimed : after.session.isClaimed = true
  cancelled : after.session.cancelled = true
  accepted : after.service.map (·.client.accepted) = before.service.map (·.client.accepted)
  written : after.session.written = before.session.written + noted

/-- What is spent stays so, and the writes noted add up. -/
theorem Spent.trans {first second third : Connection} {noted noted' : Nat}
    (h : first.Spent second noted) (h' : second.Spent third noted') :
    first.Spent third (noted + noted') :=
  ⟨h'.claimed, h'.cancelled, h'.accepted.trans h.accepted, by
    rw [h'.written, h.written, Nat.add_assoc]⟩

variable {connection : Connection}

/-- A client that has accepted no more leaves its connection spent. -/
theorem spent_withClient (hclaimed : connection.session.isClaimed = true)
    (hcancelled : connection.session.cancelled = true) {f : Client → Client}
    (h : ∀ client, (f client).accepted = client.accepted) :
    connection.Spent (connection.withClient f) 0 := by
  refine ⟨hclaimed, hcancelled, ?_, rfl⟩
  cases hservice : connection.service with
  | none => simp [withClient, hservice]
  | some service => simp [withClient, hservice, h]

/-- The writer of a claimed session has nothing more to do. -/
theorem spent_written (hclaimed : connection.session.isClaimed = true)
    (hcancelled : connection.session.cancelled = true) (policy : StreamPolicy) (now : Nat) :
    connection.Spent (connection.written policy now) 0 := by
  cases hservice : connection.service with
  | none =>
    have hsame : connection.written policy now = connection := by simp [written, hservice]
    exact hsame.symm ▸ ⟨hclaimed, hcancelled, rfl, rfl⟩
  | some service =>
    by_cases hphase : service.phase = .ended
    · have hrun : Writer.run policy service.phase (connection.desk service.client now) =
          (.suspended .ended, connection.desk service.client now) := by rw [hphase, Writer.run]
      simp only [written, hservice, hrun]
      exact ⟨hclaimed, hcancelled, by simp [hservice, desk], rfl⟩
    · obtain ⟨exit, later, hrun, hclient, hsession⟩ := Writer.run_of_cancelled policy hphase
        (show (connection.desk service.client now).session.cancelled = true from hcancelled)
      have hsame : later.session = connection.session := hsession
      simp only [written, hservice, hrun]
      refine ⟨hsame.symm ▸ hclaimed, hsame.symm ▸ hcancelled, ?_, congrArg _ hsame⟩
      simp [hservice, hclient, desk]

/-- No move brings a claimed session back to work. -/
theorem spent_move (hclaimed : connection.session.isClaimed = true)
    (hcancelled : connection.session.cancelled = true) (move : Move) :
    connection.Spent (connection.move move) move.notesWrite.toNat := by
  have hkept {later : Connection} (hservice : later.service = connection.service)
      (hsession : connection.session.SameCourse later.session)
      (hwritten : later.session.written = connection.session.written) :
      connection.Spent later 0 :=
    ⟨hsession.isClaimed.trans hclaimed, hsession.cancelled.trans hcancelled, by rw [hservice],
      hwritten⟩
  cases move with
  | offer event =>
    refine hkept rfl (connection.session.sameCourse_offer event) ?_
    simp [Connection.move, withSession, Session.offer_of_isClaimed hclaimed]
  | take => exact hkept rfl connection.session.sameCourse_pop rfl
  | close cause =>
    have hsame : connection.move (.close cause) = connection := by
      simp [Connection.move, withSession, Session.retired_of_isClaimed hclaimed]
    exact hsame.symm ▸ ⟨hclaimed, hcancelled, rfl, rfl⟩
  | claim reason =>
    have hsame : connection.move (.claim reason) = connection := by
      simp [Connection.move, withSession, hclaimed]
    exact hsame.symm ▸ ⟨hclaimed, hcancelled, rfl, rfl⟩
  | release => exact ⟨hclaimed, hcancelled, rfl, rfl⟩
  | refresh now => exact hkept rfl (connection.session.sameCourse_refresh now) rfl
  | noteWrite now => exact ⟨hclaimed, hcancelled, rfl, rfl⟩
  | receive limit =>
    exact spent_withClient hclaimed hcancelled fun client => accepted_receive client limit
  | leave => exact spent_withClient hclaimed hcancelled accepted_leave
  | letGo | watch => exact ⟨hclaimed, hcancelled, rfl, rfl⟩
  | write policy now => exact spent_written hclaimed hcancelled policy now

/-- After a claim a client accepts nothing more, and writes are only noted by hand. -/
theorem spent_after (hclaimed : connection.session.isClaimed = true)
    (hcancelled : connection.session.cancelled = true) (moves : List Move) :
    connection.Spent (connection.after moves) (moves.countP Move.notesWrite) := by
  induction moves generalizing connection with
  | nil => exact ⟨hclaimed, hcancelled, rfl, rfl⟩
  | cons move rest ih =>
    have hfirst := spent_move hclaimed hcancelled move
    rw [countP_cons_toNat]
    exact hfirst.trans (ih hfirst.claimed hfirst.cancelled)

/-- Offers and closings leave a claimed session exactly as it is. -/
theorem session_after_of_isClaimed (hclaimed : connection.session.isClaimed = true)
    {moves : List Move}
    (h : ∀ move ∈ moves, (∃ event, move = .offer event) ∨ ∃ cause, move = .close cause) :
    (connection.after moves).session = connection.session := by
  induction moves with
  | nil => rfl
  | cons move rest ih =>
    have hsame : connection.move move = connection := by
      rcases h move List.mem_cons_self with ⟨event, rfl⟩ | ⟨cause, rfl⟩
      · simp [Connection.move, withSession, Session.offer_of_isClaimed hclaimed]
      · simp [Connection.move, withSession, Session.retired_of_isClaimed hclaimed]
    rw [after_cons, hsame]
    exact ih fun other hother => h other (List.mem_cons_of_mem _ hother)

/-- A session that has ended holds no events, and takes none. -/
def Emptied (connection : Connection) : Prop :=
  connection.session.stage = .terminated →
    connection.session.outbox.items = [] ∧ connection.session.outbox.released = true

/-- A session that has ended stays empty. -/
theorem Emptied.move (h : connection.Emptied) (move : Move) : (connection.move move).Emptied := by
  cases hends : endsCourse move with
  | false =>
    have hsame := connection.sameCourse_move hends
    intro hended
    obtain ⟨hitems, hreleased⟩ := h (hsame.stage.symm.trans hended)
    exact ⟨hsame.emptied hitems hreleased, hsame.released.trans hreleased⟩
  | true =>
    cases move with
    | close cause =>
      intro hended
      simp only [Connection.move, withSession, Session.retired] at hended ⊢
      split at hended
      · next hclaimed =>
        rw [if_pos hclaimed]
        exact h hended
      · next hclaimed =>
        rw [if_neg hclaimed]
        exact ⟨rfl, rfl⟩
    | claim reason =>
      intro hended
      simp only [Connection.move, withSession] at hended ⊢
      split at hended
      · next hclaimed =>
        rw [if_pos hclaimed]
        exact h hended
      · cases hended
    | release => exact fun _ => ⟨rfl, rfl⟩
    | _ => cases hends

end Connection

namespace Hub

/-- Whether an operation notes a write of session `n` that no writer has made. -/
def Operation.notesWrite (n : Nat) : Operation → Bool
  | .noteWrite target => target = n
  | _ => false

/-- An operation notes a write of a session by one of its moves, or not at all. -/
theorem countP_moves (hub : Hub) (n : Nat) (operation : Operation) :
    (hub.moves n operation).countP Move.notesWrite = (operation.notesWrite n).toNat := by
  cases operation with
  | noteWrite target =>
    by_cases htarget : n = target
    · simp [moves, only, htarget, Move.notesWrite, Operation.notesWrite]
    · simp [moves, only, htarget, Ne.symm htarget, Operation.notesWrite]
  | _ =>
    refine List.countP_eq_zero.mpr fun move hmove => ?_
    cases does_of_mem hmove <;> simp [Move.notesWrite]

/-- Once a session is claimed no run adds to what its client has accepted, and only writes that
somebody outside notes are added to those of the session. -/
theorem spent_run {hub : Hub} {n : Nat} {connection : Connection}
    (hconnection : hub.connections[n]? = some connection)
    (hclaimed : connection.session.isClaimed = true)
    (hcancelled : connection.session.cancelled = true) (operations : List Operation) :
    ∃ later, (hub.run operations).connections[n]? = some later ∧
      connection.Spent later (operations.countP (·.notesWrite n)) := by
  induction operations generalizing hub connection with
  | nil => exact ⟨connection, hconnection, hclaimed, hcancelled, rfl, rfl⟩
  | cons operation rest ih =>
    have hfirst := Connection.spent_after hclaimed hcancelled (hub.moves n operation)
    obtain ⟨later, hlater, hrest⟩ :=
      ih (connections_step hconnection operation) hfirst.claimed hfirst.cancelled
    refine ⟨later, hlater, ?_⟩
    have hall := hfirst.trans hrest
    rw [countP_moves] at hall
    rwa [countP_cons_toNat]

/-- A session that has just been added has not ended. -/
theorem emptied_of_arrives {hub : Hub} {operation : Operation} {connection : Connection}
    (h : hub.Arrives operation connection) : connection.Emptied := by
  intro hended
  have hclaimed : connection.session.isClaimed = true := by simp [Session.isClaimed, hended]
  rw [h.isFresh.unclaimed] at hclaimed
  cases hclaimed

/-- In every run from the start no session that has ended holds an event. -/
theorem emptied_run (policy : StreamPolicy) (operations : List Operation) :
    ∀ connection ∈ ((Hub.new policy).run operations).connections, connection.Emptied := by
  have hlasting : Lasting (Hub.new policy).policy fun _ connection => connection.Emptied :=
    lasting_of_move fun _ _ move h => h.move move
  exact hlasting.run (fun _ _ _ _ h => h) (fun _ _ _ _ h => emptied_of_arrives h)
    (by simp [Hub.new]) operations

/-! ## Publications -/

/-- The recipients that take an event that is offered to them in turn. -/
def takers (event : CounterEvent) : List Nat → Hub → List Nat
  | [], _ => []
  | n :: rest, hub =>
    (if (hub.offer n event).1 = .queued then [n] else []) ++
      takers event rest (hub.offer n event).2

/-- The subscribers that take an event when it is published. -/
def subscribersTaking (hub : Hub) (event : CounterEvent) : List Nat :=
  takers event (hub.countPublished.takeRecipients event.topic).1.sessions hub

/-- Who takes an event is up to the sessions alone. -/
theorem takers_congr (event : CounterEvent) (ns : List Nat) {hub later : Hub}
    (h : later.connections = hub.connections) : takers event ns later = takers event ns hub := by
  induction ns generalizing hub later with
  | nil => rfl
  | cons n rest ih =>
    have hsession : later.session? n = hub.session? n := by rw [session?, session?, h]
    have hanswer : (later.offer n event).1 = (hub.offer n event).1 := by
      simp only [offer, hsession]
      cases hub.session? n <;> rfl
    have hafter : (later.offer n event).2.connections = (hub.offer n event).2.connections := by
      rw [offer_snd, offer_snd, modifySession, modifySession, modify, modify, h]
    rw [takers, takers, hanswer, ih hafter]

/-- A subscriber is counted as delivered to when its outbox takes the event. -/
theorem delivered_deliver (event : CounterEvent) (report : Delivery) (hub : Hub) (n : Nat) :
    (deliver event report hub n).1.delivered =
      report.delivered + (if (hub.offer n event).1 = .queued then [n] else []).length := by
  unfold deliver
  cases hs : hub.session? n with
  | none => simp [offer, hs]
  | some session =>
    simp only
    generalize hub.offer n event = result
    obtain ⟨answer, later⟩ := result
    cases answer with
    | queued => rfl
    | dropped consecutive => simp only; split <;> rfl
    | inactive => simp only; split <;> rfl

/-- What is counted as delivered is the number of those that take the event. -/
theorem delivered_deliverAll (event : CounterEvent) (ns : List Nat) (report : Delivery) (hub : Hub) :
    (deliverAll event ns report hub).1.delivered =
      report.delivered + (takers event ns hub).length := by
  induction ns generalizing report hub with
  | nil => rfl
  | cons n rest ih =>
    rw [deliverAll, ih, delivered_deliver, takers_congr event rest (connections_deliver event report
      hub n), takers, List.length_append, Nat.add_assoc]

/-- The report counts the subscribers that have taken the event. -/
theorem delivered_publish (hub : Hub) (event : CounterEvent) :
    (hub.publish event).1.delivered = (hub.subscribersTaking event).length := by
  have hall := delivered_deliverAll event
    (hub.countPublished.takeRecipients event.topic).1.sessions
    { recipients := (hub.countPublished.takeRecipients event.topic).1.sessions.length
      stale := (hub.countPublished.takeRecipients event.topic).1.stale }
    ((hub.countPublished.takeRecipients event.topic).1.stale.foldl (noteStale event.topic)
      (hub.countPublished.takeRecipients event.topic).2)
  have hsame : ((hub.countPublished.takeRecipients event.topic).1.stale.foldl
      (noteStale event.topic) (hub.countPublished.takeRecipients event.topic).2).connections =
        hub.connections := by
    rw [connections_noteStale]
    rfl
  rw [Nat.zero_add, takers_congr event _ hsame] at hall
  exact hall

/-- A claimed session is not among those that take an event. -/
theorem notMem_takers (event : CounterEvent) {n : Nat} (ns : List Nat) {hub : Hub}
    (h : ∀ session, hub.session? n = some session → session.isClaimed = true) :
    n ∉ takers event ns hub := by
  induction ns generalizing hub with
  | nil => exact List.not_mem_nil
  | cons m rest ih =>
    rw [takers, List.mem_append, not_or]
    constructor
    · split
      · next hqueued =>
        rw [List.mem_singleton]
        rintro rfl
        cases hs : hub.session? n with
        | none => simp [offer, hs] at hqueued
        | some session =>
          simp [offer, hs, Session.offer_of_isClaimed (h session hs)] at hqueued
      · exact List.not_mem_nil
    · refine ih fun session hs => ?_
      obtain ⟨later, hlater, rfl⟩ := connection_of_session? hs
      rw [acts_offer hub m event n] at hlater
      obtain ⟨before, hbefore, rfl⟩ := Option.map_eq_some_iff.mp hlater
      exact Connection.isClaimed_after (h before.session (by simp [session?, hbefore])) _

/-- Nothing reaches the client of a session after its closing has been claimed, by whomever: no run
adds a frame to what the client has accepted, even one that was in flight and is due at that very
instant, and the writer notes no write, so all that is added are writes that callers note. A later
publication counts as delivered the events of those that take it, of which the session is none, and
leaves the session with its outbox as it is. Once the session has ended its outbox is empty for
good. -/
theorem nothing_reaches_client_after_claim (policy : StreamPolicy)
    (operations more : List Operation) (n : Nat) (connection : Connection)
    (hconnection : ((Hub.new policy).run operations).connections[n]? = some connection)
    (hclaimed : connection.session.isClaimed = true) :
    let hub := ((Hub.new policy).run operations).run more
    ∃ later, hub.connections[n]? = some later ∧
      later.service.map (·.client.accepted) = connection.service.map (·.client.accepted) ∧
      later.session.written =
        connection.session.written + more.countP (·.notesWrite n) ∧
      (later.session.stage = .terminated → later.session.outbox.items = []) ∧
      ∀ event, (hub.publish event).1.delivered = (hub.subscribersTaking event).length ∧
        n ∉ hub.subscribersTaking event ∧
        (hub.publish event).2.session? n = some later.session := by
  intro hub
  have hcancelled : connection.session.cancelled = true := by
    rw [(tended_run policy operations connection (List.mem_of_getElem? hconnection)).cancelled]
    exact hclaimed
  obtain ⟨later, hlater, hspent⟩ := spent_run hconnection hclaimed hcancelled more
  have hsession : hub.session? n = some later.session := by rw [session?, hlater, Option.map_some]
  refine ⟨later, hlater, hspent.accepted, hspent.written, fun hended => ?_, fun event => ⟨?_, ?_, ?_⟩⟩
  · have hmem := List.mem_of_getElem? hlater
    rw [← run_append] at hmem
    exact (emptied_run policy (operations ++ more) later hmem hended).1
  · exact hub.delivered_publish event
  · exact notMem_takers event _ fun session hs =>
      Option.some.inj (hsession.symm.trans hs) ▸ hspent.claimed
  · rw [session?, acts_publish hub event n, hlater, Option.map_some, Option.map_some]
    refine congrArg some (Connection.session_after_of_isClaimed hspent.claimed fun move hmem => ?_)
    simp only [publishMoves, List.mem_append, List.mem_map] at hmem
    rcases hmem with (⟨_, -, rfl⟩ | ⟨_, -, rfl⟩) | ⟨_, -, rfl⟩
    · exact Or.inl ⟨event, rfl⟩
    · exact Or.inr ⟨_, rfl⟩
    · exact Or.inr ⟨_, rfl⟩

/-- A write is due at the instant at which the session is closed, with another event in the outbox.
The tasks run only then, and a third event is published. -/
theorem nothing_reaches_client_after_claim_at_due_time :
    let hub := (Hub.new .default).run
      [.connect (.random 0) ⟨0⟩ (.scripted fun _ => ⟨5, .accept⟩) (some 1), .pollWriter 0,
        .publish ⟨.random 0, 2⟩, .pass 5, .closeLive 0 .explicit]
    ∃ connection, hub.connections[0]? = some connection ∧
      connection.timers.any (·.isDue hub.now) = true ∧ connection.session.isClaimed = true ∧
      ∃ later, (hub.run [.pollWriter 0, .publish ⟨.random 0, 3⟩, .pollWriter 0]).connections[0]? =
          some later ∧
        later.service.map (·.client.accepted) = some [] ∧ later.session.written = 0 ∧
        later.session.outbox.items = [] := by
  intro hub
  have hsome : (hub.connections[0]?).isSome = true := by decide +kernel
  obtain ⟨connection, hconnection⟩ := Option.isSome_iff_exists.mp hsome
  have hfacts : (hub.connections[0]?).any (fun connection =>
      connection.timers.any (·.isDue hub.now) && connection.session.isClaimed &&
        connection.service.map (·.client.accepted) == some [] && connection.session.written == 0 &&
        connection.session.stage == .terminated) = true := by decide +kernel
  rw [hconnection, Option.any_some] at hfacts
  simp only [Bool.and_eq_true, beq_iff_eq] at hfacts
  obtain ⟨⟨⟨⟨hdue, hclaimed⟩, haccepted⟩, hwritten⟩, hended⟩ := hfacts
  obtain ⟨later, hlater, hsame, hnoted, hempty, -⟩ := nothing_reaches_client_after_claim .default
    _ [.pollWriter 0, .publish ⟨.random 0, 3⟩, .pollWriter 0] 0 connection hconnection hclaimed
  refine ⟨connection, hconnection, hdue, hclaimed, later, hlater, hsame.trans haccepted, ?_, ?_⟩
  · rw [hnoted, hwritten]
    rfl
  · obtain ⟨moves, hmoves⟩ := connections_run hconnection
      [.pollWriter 0, .publish ⟨.random 0, 3⟩, .pollWriter 0]
    refine hempty ?_
    obtain rfl := Option.some.inj (hlater.symm.trans hmoves)
    have hrank := connection.rank_after moves
    rw [hended] at hrank
    revert hrank
    cases (connection.after moves).session.stage <;> simp [SessionStage.rank]

end Hub

end LiveCounter
