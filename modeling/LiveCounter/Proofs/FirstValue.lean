import LiveCounter.Proofs.Independence
import LiveCounter.Proofs.ReadingDry

/-!
# The first value of a stream

A stream is opened in three steps: the session is admitted, the present value of the counter is
offered to it, and its writer starts. From the first step on the session has a subscription. So what
others publish between the first step and the second one is queued before the first value.
-/

namespace LiveCounter

namespace Session

/-- An open session queues what it is offered as long as there is room. -/
theorem items_offer {session : Session} {capacity : Nat} {offered : List CounterEvent}
    (hopen : session.stage = .open) (hreleased : session.outbox.released = false)
    (hcapacity : session.outbox.capacity = capacity)
    (hitems : session.outbox.items = offered.take capacity) (event : CounterEvent) :
    (session.offer event).1.outbox.items = (offered ++ [event]).take capacity := by
  have hlength : session.outbox.length = min capacity offered.length := by
    rw [Outbox.length, hitems, List.length_take]
  rw [offer_eq, if_pos ⟨hopen, hreleased⟩]
  by_cases hfull : capacity ≤ offered.length
  · rw [if_pos (by omega), List.take_append_of_le_length hfull]
    exact hitems
  · rw [if_neg (by omega)]
    simp only [hitems]
    rw [List.take_of_length_le (by omega), List.take_of_length_le (by simp; omega)]

end Session

namespace Connection

/-- A session that is still open after a closing was not concerned by it. -/
theorem items_after_closeMoves {connection : Connection} {reason : CloseReason} {concerned : Prop}
    [Decidable concerned]
    (hstill : (connection.after (connection.closeMoves reason concerned)).session.stage = .open) :
    (connection.after (connection.closeMoves reason concerned)).session.outbox.items =
      connection.session.outbox.items := by
  unfold closeMoves at hstill ⊢
  split at hstill
  · exact absurd hstill (connection.not_open_after_close _ _)
  · next hnot => rw [if_neg hnot, after_nil]

/-- A session that is still open after a publication has been offered the event, if it is about the
topic of the session. -/
theorem items_after_eventMoves {connection : Connection} {capacity : Nat}
    {offered : List CounterEvent} (hopen : connection.session.stage = .open)
    (hreleased : connection.session.outbox.released = false)
    (hcapacity : connection.session.outbox.capacity = capacity)
    (hitems : connection.session.outbox.items = offered.take capacity) {threshold : UInt32}
    {event : CounterEvent}
    (hstill : (connection.after (connection.eventMoves threshold event)).session.stage = .open) :
    (connection.after (connection.eventMoves threshold event)).session.outbox.items =
      (offered ++ if event.topic = connection.session.topic then [event] else []).take capacity := by
  simp only [eventMoves, hopen, true_and, eq_comm (a := connection.session.topic)] at hstill ⊢
  by_cases hsame : event.topic = connection.session.topic
  · simp only [hsame, if_true] at hstill ⊢
    split at hstill
    · exact absurd hstill (not_open_after_close _ _ _)
    · next hlags =>
      rw [if_neg hlags]
      exact Session.items_offer hopen hreleased hcapacity hitems event
  · simpa only [hsame, if_false, List.append_nil, after_nil] using hitems

end Connection

namespace Hub

/-- The event of an operation that publishes one about the topic. -/
def Operation.published (topic : Topic) : Operation → List CounterEvent
  | .publish event => if event.topic = topic then [event] else []
  | _ => []

/-- Session `n` is about the topic and has been offered these events, and nothing has been taken off
its outbox. -/
structure Holds (n : Nat) (topic : Topic) (capacity : Nat) (offered : List CounterEvent)
    (hub : Hub) : Prop where
  consistent : hub.Consistent
  connection : ∃ connection, hub.connections[n]? = some connection ∧
    connection.session.topic = topic ∧ connection.session.outbox.capacity = capacity ∧
    (connection.session.stage = .open →
      connection.session.outbox.items = offered.take capacity)

variable {n : Nat} {topic : Topic} {capacity : Nat} {offered : List CounterEvent} {hub : Hub}

/-- What the moves of session `n` make of its outbox, as long as it is open, decides what it holds. -/
theorem Holds.of_connections (h : hub.Holds n topic capacity offered) {later : Hub}
    (hconsistent : later.Consistent) (moves : List Move) {offered' : List CounterEvent}
    (hlater : ∀ connection, hub.connections[n]? = some connection →
      later.connections[n]? = some (connection.after moves))
    (hitems : ∀ connection, hub.connections[n]? = some connection →
      connection.session.topic = topic → connection.session.outbox.capacity = capacity →
      connection.session.stage = .open → connection.session.outbox.released = false →
      connection.session.outbox.items = offered.take capacity →
      (connection.after moves).session.stage = .open →
      (connection.after moves).session.outbox.items = offered'.take capacity) :
    later.Holds n topic capacity offered' := by
  obtain ⟨connection, hconnection, htopic, hcapacity, hheld⟩ := h.connection
  refine ⟨hconsistent, _, hlater connection hconnection, (connection.topic_after moves).trans htopic,
    (connection.capacity_after moves).trans hcapacity, fun hopen => ?_⟩
  have hbefore := Connection.open_of_after hopen
  have hreleased : connection.session.outbox.released = false := by
    cases h.consistent.settled n connection.session (by simp [session?, hconnection]) with
    | live _ _ _ _ released => exact released
    | ended stage => simp [stage] at hbefore
  exact hitems connection hconnection htopic hcapacity hbefore hreleased (hheld hbefore) hopen

/-- An operation of others puts the event that it publishes behind what waits already. -/
theorem Holds.step (h : hub.Holds n topic capacity offered) {operation : Operation}
    (hregular : operation.isRegular = true) (hothers : operation.addressee? ≠ some n) :
    (hub.step operation).Holds n topic capacity (offered ++ operation.published topic) := by
  refine h.of_connections (h.consistent.follows_step hregular).consistent (hub.moves n operation)
    (fun connection hconnection => connections_step hconnection operation) ?_
  intro connection hconnection htopic hcapacity hopen hreleased hitems hstill
  rw [h.consistent.moves_eq hconnection] at hstill ⊢
  -- A sweep or a cleared topic closes the session, and what is addressed to others passes it by.
  cases operation with
  | publish event =>
    simp only [Connection.reaction, Operation.published, ← htopic] at hstill ⊢
    exact Connection.items_after_eventMoves hopen hreleased hcapacity hitems hstill
  | clearTopic | sweep =>
    simp only [Operation.published, List.append_nil]
    exact (Connection.items_after_closeMoves hstill).trans hitems
  | join | connect | pass | report | countHit | create | subscribe | unsubscribe =>
    simpa [Connection.reaction, Operation.published] using hitems
  | _ =>
    have htarget := fun heq => hothers (congrArg some heq)
    simpa [Connection.reaction, Operation.published, only, Ne.symm htarget] using hitems

/-- What is offered to a session adds up in a run that leaves it alone. -/
theorem Holds.run (h : hub.Holds n topic capacity offered) {operations : List Operation}
    (hregular : ∀ operation ∈ operations, operation.isRegular = true)
    (hothers : ∀ operation ∈ operations, operation.addressee? ≠ some n) :
    (hub.run operations).Holds n topic capacity
      (offered ++ operations.flatMap (Operation.published topic)) := by
  induction operations generalizing hub offered with
  | nil => simpa using h
  | cons operation rest ih =>
    have hfirst := h.step (hregular operation List.mem_cons_self)
      (hothers operation List.mem_cons_self)
    have hrest := ih hfirst (fun other hother => hregular other (List.mem_cons_of_mem _ hother))
      fun other hother => hothers other (List.mem_cons_of_mem _ hother)
    simpa using hrest

/-! ## The three steps of opening a stream -/

/-- A session that has just been admitted holds nothing yet. -/
theorem holds_join (hconsistent : hub.Consistent) {id : SessionId}
    (hjoin : (hub.join topic id).1 = .ok n) :
    (hub.join topic id).2.Holds n topic (max hub.policy.queueCapacity 1) [] := by
  have hfollows := hconsistent.follows_step (show (Operation.join topic id).isRegular = true from rfl)
  refine ⟨hfollows.consistent, hub.newcomer topic id, ?_, rfl, rfl, fun _ => List.take_nil.symm⟩
  cases hub.joinCase topic id with
  | stopping _ hanswer => simp [hanswer] at hjoin
  | full _ _ hanswer => simp [hanswer] at hjoin
  | panicked _ _ hanswer => simp [hanswer] at hjoin
  | admitted _ _ hanswer hhub =>
    obtain rfl : hub.connections.length = n := by simpa [hanswer] using hjoin
    rw [hhub.connections, entered, List.getElem?_concat_length]

/-- The first value goes behind what waits already. -/
theorem Holds.offerInitial (h : hub.Holds n topic capacity offered) (id : SessionId) (value : Int64) :
    (hub.offerInitial n topic id value).Holds n topic capacity (offered ++ [⟨topic, value⟩]) := by
  have hoffered := h.consistent.follows_step
    (show (Operation.offer n ⟨topic, value⟩).isRegular = true from rfl)
  have hreports := hub.reports_offerInitial n topic id value
  refine h.of_connections (hoffered.consistent.reports hreports)
    (hub.moves n (.offer n ⟨topic, value⟩)) (fun connection hconnection => ?_) ?_
  · rw [hreports.connections]
    exact connections_step hconnection (.offer n ⟨topic, value⟩)
  · intro connection hconnection _ hcapacity hopen hreleased hitems _
    rw [h.consistent.moves_eq hconnection, Connection.reaction, only, if_pos rfl]
    exact Session.items_offer hopen hreleased hcapacity hitems _

/-- A writer that has not run yet leaves the outbox alone. -/
theorem Holds.startWriter (h : hub.Holds n topic capacity offered) (client : Client) :
    (hub.startWriter n client).Holds n topic capacity offered := by
  obtain ⟨connection, hconnection, hsession⟩ := h.connection
  refine ⟨h.consistent.modify fun _ _ => .refl _, { connection with service := some { client } }, ?_,
    hsession⟩
  rw [Hub.startWriter, modify, List.getElem?_modify_eq, hconnection]
  rfl

/-- The events that wait in the outbox of session `n`. -/
def waiting (n : Nat) (hub : Hub) : List CounterEvent :=
  (hub.session? n).elim [] (·.outbox.items)

/-- An open session holds the first events that were offered to it, as many as have room. -/
theorem Holds.waiting_eq (h : hub.Holds n topic capacity offered) (hopen : hub.IsOpen n) :
    hub.waiting n = offered.take capacity := by
  obtain ⟨connection, hconnection, -, -, hitems⟩ := h.connection
  obtain ⟨_, hfound, hstage⟩ := hopen
  obtain rfl := Option.some.inj (hconnection.symm.trans hfound)
  rw [waiting, session?, hconnection]
  exact hitems hstage

/-- What is published about the topic between the admission of a session and the offer of its first
value waits ahead of the first value, which is queued only if that has left room for it. What is
published later waits behind it. So the first value comes first if nothing was published about the
topic in between. -/
theorem first_value_waits_behind_earlier_events (policy : StreamPolicy) {history : List Operation}
    (hhistory : ∀ operation ∈ history, operation.isRegular = true) {topic : Topic} {id : SessionId}
    {n : Nat} (hjoin : (((Hub.new policy).run history).join topic id).1 = .ok n) (value : Int64)
    (client : Client) {between meanwhile afterwards : List Operation}
    (hregular : ∀ operation ∈ between ++ meanwhile ++ afterwards, operation.isRegular = true)
    (hothers : ∀ operation ∈ between ++ meanwhile ++ afterwards, operation.addressee? ≠ some n) :
    let joined := (((Hub.new policy).run history).join topic id).2
    let offered := (joined.run between).offerInitial n topic id value
    let last := ((offered.run meanwhile).startWriter n client).run afterwards
    let earlier := between.flatMap (Operation.published topic)
    let later := (meanwhile ++ afterwards).flatMap (Operation.published topic)
    last.IsOpen n →
      last.waiting n = (earlier ++ ⟨topic, value⟩ :: later).take (max policy.queueCapacity 1) ∧
        (earlier = [] → (last.waiting n).head? = some ⟨topic, value⟩) := by
  intro joined offered last earlier later hopen
  simp only [List.mem_append, or_imp, forall_and] at hregular hothers
  have hfollows := follows_run policy hhistory
  have hcapacity : max ((Hub.new policy).run history).policy.queueCapacity 1 =
      max policy.queueCapacity 1 := by
    rw [hfollows.policy_eq]
    show max (max policy.queueCapacity 1) 1 = _
    omega
  have hjoined := holds_join hfollows.consistent hjoin
  rw [hcapacity] at hjoined
  have hoffered := (hjoined.run hregular.1.1 hothers.1.1).offerInitial id value
  have hstarted := (hoffered.run hregular.1.2 hothers.1.2).startWriter client
  have hwaiting := (hstarted.run hregular.2 hothers.2).waiting_eq hopen
  have hwaiting : last.waiting n =
      (earlier ++ ⟨topic, value⟩ :: later).take (max policy.queueCapacity 1) := by
    simpa [earlier, later] using hwaiting
  refine ⟨hwaiting, fun hnone => ?_⟩
  rw [hwaiting, hnone, List.nil_append, List.head?_take, if_neg (by omega)]
  rfl

/-- The counter is hit before and after the first value is offered. -/
theorem first_value_waits_behind_earlier_events_of_hits :
    let joined := ((Hub.new .default).join (.random 0) ⟨0⟩).2
    let offered := (joined.run [.publish ⟨.random 0, 6⟩]).offerInitial 0 (.random 0) ⟨0⟩ 5
    let last := (offered.startWriter 0 (Transport.channel 1).client).run [.publish ⟨.random 0, 7⟩]
    last.IsOpen 0 ∧ last.waiting 0 = [⟨.random 0, 6⟩, ⟨.random 0, 5⟩, ⟨.random 0, 7⟩] := by
  intro joined offered last
  have hopen : last.IsOpen 0 := by decide +kernel
  obtain ⟨hwaiting, -⟩ := first_value_waits_behind_earlier_events .default
    (show ∀ operation ∈ [], Operation.isRegular operation = true by simp)
    (show ((Hub.new .default).join (.random 0) ⟨0⟩).1 = .ok 0 by decide +kernel) 5
    (Transport.channel 1).client
    (show ∀ operation ∈ [Operation.publish ⟨.random 0, 6⟩] ++ [] ++ [.publish ⟨.random 0, 7⟩],
      operation.isRegular = true by decide)
    (show ∀ operation ∈ [Operation.publish ⟨.random 0, 6⟩] ++ [] ++ [.publish ⟨.random 0, 7⟩],
      operation.addressee? ≠ some 0 by decide) hopen
  exact ⟨hopen, hwaiting.trans (by decide +kernel)⟩

/-- The first value does not always come first: somebody may hit the counter before it is offered. -/
theorem first_value_not_first_after_hit :
    ¬ ∀ hits : List CounterEvent,
      let joined := ((Hub.new .default).join (.random 0) ⟨0⟩).2
      let offered := (joined.run (hits.map .publish)).offerInitial 0 (.random 0) ⟨0⟩ 5
      let last := offered.startWriter 0 (Transport.channel 1).client
      last.IsOpen 0 → (last.waiting 0).head? = some ⟨.random 0, 5⟩ := by
  intro hfirst
  exact absurd (hfirst [⟨.random 0, 6⟩] (by decide +kernel)) (by decide +kernel)

end Hub

end LiveCounter
