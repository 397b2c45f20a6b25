import LiveCounter.Proofs.Bookkeeping
import LiveCounter.Proofs.Publications

/-!
# What an operation means for one session

As long as the records agree, the moves by which an operation reaches a session are determined by
the session itself, the policy and the time. Other sessions have no part in them: a publication
offers the event to each subscriber once, and closes it only for the events that it has dropped
itself.
-/

namespace LiveCounter

namespace Connection

/-- Whether an event that is offered now makes the run of dropped events too long. -/
def lags (connection : Connection) (threshold : UInt32) (event : CounterEvent) : Bool :=
  match (connection.session.offer event).2 with
  | .dropped consecutive => threshold ≤ consecutive
  | .queued | .inactive => false

/-- The moves of a connection when an event is published. -/
def eventMoves (connection : Connection) (threshold : UInt32) (event : CounterEvent) : List Move :=
  if connection.session.stage = .open ∧ connection.session.topic = event.topic then
    .offer event ::
      if connection.lags threshold event then [.close (.error .backpressureDrop)] else []
  else []

/-- The moves of a connection when all open sessions of some kind are closed. -/
def closeMoves (connection : Connection) (reason : CloseReason) (concerned : Prop)
    [Decidable concerned] : List Move :=
  if connection.session.stage = .open ∧ concerned then [.close (.plain reason)] else []

/-- The moves by which an operation reaches the connection of number `n`, as the connection itself
determines them. -/
def reaction (connection : Connection) (policy : StreamPolicy) (now n : Nat) :
    Hub.Operation → List Move
  | .publish event => connection.eventMoves (max policy.maxConsecutiveDrops 1) event
  | .offer target event => Hub.only target [.offer event] n
  | .take target => Hub.only target [.take] n
  | .close target reason => Hub.only target [.close (.plain reason)] n
  | .closeFor target fault => Hub.only target [.close (.error fault)] n
  | .closeLive target reason => Hub.only target (connection.closeMoves reason True) n
  | .clearTopic topic => connection.closeMoves .topicClosed (connection.session.topic = topic)
  | .sweep => connection.closeMoves .shutdown True
  | .refresh target => Hub.only target [.refresh now] n
  | .noteWrite target => Hub.only target [.noteWrite now] n
  | .receive target limit => Hub.only target [.receive limit] n
  | .loseClient target => Hub.only target [.leave] n
  | .letGo target => Hub.only target [.letGo] n
  | .pollWatch target => Hub.only target (connection.watchMoves policy now) n
  | .pollWriter target => Hub.only target (connection.writerMoves policy now) n
  | .claim target reason => Hub.only target [.claim reason] n
  | .release target => Hub.only target [.release] n
  | .join .. | .connect .. | .pass _ | .report .. | .countHit | .create .. | .subscribe ..
  | .unsubscribe .. => []

end Connection

namespace Hub

/-! ## Publishing -/

/-- Session `n` has ended. -/
def hasEnded (hub : Hub) (n : Nat) : Bool :=
  (hub.session? n).any fun session => session.stage = .terminated

/-- A session that has ended is told by itself. -/
theorem hasEnded_eq_passes (hub : Hub) : hub.hasEnded = hub.passes Session.isOver := rfl

/-- A subscriber lags when one drop more is more than its session may have in a row. -/
theorem lags_eq_overflows (connection : Connection) (threshold : UInt32) (event : CounterEvent) :
    connection.lags threshold event = connection.session.overflows threshold := by
  rw [Connection.lags]
  cases connection.session.standing with
  | room hroom hfull => simp [Session.offer_of_hasRoom hroom, Session.overflows, hfull]
  | full hfull => simp [Session.offer_of_isFull hfull, Session.overflows, hfull]
  | deaf hdeaf _ hfull => simp [Session.offer_of_not_listens hdeaf, Session.overflows, hfull]

/-- A delivery leaves policy and clock alone, and does not stop the hub. -/
theorem frame_deliver (event : CounterEvent) (report : Delivery) (hub : Hub) (n : Nat) :
    let later := (deliver event report hub n).2
    later.policy = hub.policy ∧ later.now = hub.now ∧ later.stopping = hub.stopping := by
  intro later
  have hframe : hub.Keeps later := (visits_deliver event report hub n).frame
  rw [hframe]
  exact ⟨rfl, rfl, rfl⟩

/-- The subscribers of a topic are its open sessions. -/
theorem Consistent.mem_handles_iff {hub : Hub} (h : hub.Consistent) {n : Nat}
    {connection : Connection} (hconnection : hub.connections[n]? = some connection) (topic : Topic) :
    n ∈ hub.subscriptions.handles topic ↔
      connection.session.stage = .open ∧ connection.session.topic = topic := by
  rw [← Subscriptions.contains_iff_mem, h.subscribed]
  simp [session?, hconnection]

/-- The table holds the open sessions, each under its number. -/
theorem Consistent.mem_table_iff {hub : Hub} (h : hub.Consistent) {n : Nat}
    {connection : Connection} (hconnection : hub.connections[n]? = some connection) :
    n ∈ hub.table ↔ connection.session.stage = .open := by
  rw [h.listed]
  simp [session?, hconnection]

/-- A publication offers the event to each subscriber once, and closes those that lag behind. -/
theorem publishMoves_eq {hub : Hub} (h : hub.Consistent) {n : Nat} {connection : Connection}
    (hconnection : hub.connections[n]? = some connection) (event : CounterEvent) :
    hub.publishMoves n event = connection.eventMoves hub.dropThreshold event := by
  have hmem : n ∈ hub.liveHandles event.topic ↔
      connection.session.stage = .open ∧ connection.session.topic = event.topic := by
    rw [liveHandles, List.mem_filter, h.mem_handles_iff hconnection, and_iff_left_iff_imp]
    exact fun hopen => (h.attended event.topic n ((h.mem_handles_iff hconnection _).mpr hopen)).1
  rw [publishMoves_of_wellFormed h.wellFormed hconnection, Connection.eventMoves, lags_eq_overflows]
  by_cases hn : n ∈ hub.liveHandles event.topic
  · have hunclaimed := Session.isClaimed_of_open (hmem.mp hn).1
    rw [if_pos hn, if_pos (hmem.mp hn), Session.complaints_of_unclaimed hunclaimed]
    split <;> rfl
  · rw [if_neg hn, if_neg fun hopen => hn (hmem.mpr hopen)]

/-! ## All operations -/

/-- A session that stands once among those to be closed is closed once. -/
theorem closeMoves_eq_of_nodup {ns : List Nat} (hns : ns.Nodup) {n : Nat} {connection : Connection}
    (reason : CloseReason) {concerned : Prop} [Decidable concerned]
    (h : n ∈ ns ↔ connection.session.stage = .open ∧ concerned) :
    (ns.filter (· = n)).map (fun _ => Move.close (.plain reason)) =
      connection.closeMoves reason concerned := by
  rw [filter_eq_of_nodup hns, Connection.closeMoves]
  by_cases hn : n ∈ ns
  · rw [if_pos hn, if_pos (h.mp hn)]
    rfl
  · rw [if_neg hn, if_neg fun hopen => hn (h.mpr hopen)]
    rfl

/-- In a hub whose records agree, what an operation does to a session is up to that session. -/
theorem Consistent.moves_eq {hub : Hub} (h : hub.Consistent) {n : Nat} {connection : Connection}
    (hconnection : hub.connections[n]? = some connection) (operation : Operation) :
    hub.moves n operation = connection.reaction hub.policy hub.now n operation := by
  cases operation with
  | publish event => exact publishMoves_eq h hconnection event
  | closeLive target reason =>
    simp only [moves, Connection.reaction, only]
    split
    · next heq =>
      subst heq
      simp [Connection.closeMoves, h.mem_table_iff hconnection]
    · rfl
  | clearTopic topic =>
    have hmem := h.mem_handles_iff hconnection topic
    simp only [moves, Connection.reaction, Connection.closeMoves]
    rw [filter_eq_of_nodup (h.wellFormed.handles_nodup topic)]
    by_cases hn : n ∈ hub.subscriptions.handles topic
    · have htable := (h.mem_table_iff hconnection).mpr (hmem.mp hn).1
      rw [if_pos hn, if_pos (hmem.mp hn), List.flatMap_singleton, if_pos htable]
    · rw [if_neg hn, if_neg fun hopen => hn (hmem.mpr hopen), List.flatMap_nil]
  | sweep =>
    exact closeMoves_eq_of_nodup h.table_nodup .shutdown (by simp [h.mem_table_iff hconnection])
  | pollWatch target =>
    simp only [moves, Connection.reaction, only]
    split
    · next heq =>
      subst heq
      simp only [watchMoves, hconnection]
    · rfl
  | pollWriter target =>
    simp only [moves, Connection.reaction, only]
    split
    · next heq =>
      subst heq
      simp only [writerMoves, hconnection]
    · rfl
  | _ => rfl

/-- Clearing a topic ends its open sessions, and leaves all others alone. -/
theorem Consistent.connections_clearTopic {hub : Hub} (h : hub.Consistent) (topic : Topic) {n : Nat}
    {connection : Connection} (hconnection : hub.connections[n]? = some connection) :
    (hub.clearTopic topic).2.connections[n]? = some (connection.after
      (connection.closeMoves .topicClosed (connection.session.topic = topic))) := by
  have hlater := connections_step hconnection (.clearTopic topic)
  rwa [h.moves_eq hconnection] at hlater

end Hub

end LiveCounter
