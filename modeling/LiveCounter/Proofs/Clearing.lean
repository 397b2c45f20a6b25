import LiveCounter.Proofs.Departures

/-!
# Clearing a topic

To clear a topic is to close its subscribers one after the other, while each closing takes one of
them off the topic. The records of the hub agree, so the subscribers are the open sessions of the
topic, each of them is still open when its turn comes, and nothing else is touched.
-/

namespace LiveCounter

namespace Hub

/-- The records after sessions of a topic that were open have left them. -/
def cleared (hub : Hub) (topic : Topic) (ns : List Nat) : Hub :=
  { hub with
    subscriptions := hub.subscriptions.unsubscribeAll topic ns
    table := hub.table.filter fun n => n ∉ ns
    active := hub.active - ns.length
    closed := hub.closed + ns.length }

/-- As many sessions subscribe to a topic as are open for it. -/
theorem Consistent.length_handles {hub : Hub} (h : hub.Consistent) (topic : Topic) :
    (hub.subscriptions.handles topic).length =
      (hub.openConnections.filter (·.session.topic = topic)).length := by
  rw [openConnections, List.filter_filter, length_filter_eq_places]
  apply length_eq_of_nodup (h.wellFormed.handles_nodup topic) (List.nodup_range.filter _)
  intro n
  rw [← Subscriptions.contains_iff_mem, h.subscribed, List.mem_filter, List.mem_range]
  constructor
  · rintro ⟨session, hs, hopen, htopic⟩
    obtain ⟨connection, hconnection, rfl⟩ := connection_of_session? hs
    obtain ⟨hlt, -⟩ := List.getElem?_eq_some_iff.mp hconnection
    exact ⟨hlt, by simp [hconnection, Session.isOpen, hopen, htopic]⟩
  · rintro ⟨hlt, hany⟩
    refine ⟨hub.connections[n].session, by simp [session?, hlt], ?_⟩
    simpa [hlt, Session.isOpen, and_comm] using hany

/-! ## The subscribers, one after the other -/

/-- A subscriber is closed, and leaves the records. -/
theorem Consistent.closeLive_subscriber {hub : Hub} (h : hub.Consistent) {topic : Topic} {n : Nat}
    (hn : n ∈ hub.subscriptions.handles topic) :
    (hub.closeLive n .topicClosed).1 = .closed ∧
      (hub.closeLive n .topicClosed).2.books = hub.books.cleared topic [n] := by
  have hcontains : hub.subscriptions.contains topic n = true :=
    (Subscriptions.contains_iff_mem ..).mpr hn
  obtain ⟨session, hs, hopen, rfl⟩ := (h.subscribed topic n).mp hcontains
  have hmem : n ∈ hub.table := (h.listed n).mpr ⟨session, hs, hopen⟩
  obtain ⟨hclosed, hended⟩ :=
    retire_of_unclaimed hs (Session.isClaimed_of_open hopen) .topicClosed none
  have herase : hub.table.erase n = hub.table.filter fun m => m ∉ [n] := by
    rw [h.table_nodup.erase_eq_filter]
    exact List.filter_congr fun m _ => by simp [bne, beq_eq_decide]
  have hleft : hub.books.without ⟨n, session.topic, session.stage, .topicClosed⟩ =
      hub.books.cleared session.topic [n] := by
    simp only [without, books, cleared, offTopic, offTable, tallyClosed, tallyForced, herase]
    simp [CloseReason.isForced, Subscriptions.unsubscribeAll, hopen, hcontains, hmem]
  rw [Hub.closeLive, if_pos (by simpa using hmem)]
  exact ⟨hclosed, hended.books.trans hleft⟩

/-- What is left of the subscribers is still subscribed when one of them has been closed. -/
theorem Consistent.mem_handles_closeLive {hub : Hub} (h : hub.Consistent) {topic : Topic}
    {n m : Nat} (hn : n ∈ hub.subscriptions.handles topic)
    (hm : m ∈ hub.subscriptions.handles topic) (hne : m ≠ n) :
    m ∈ (hub.closeLive n .topicClosed).2.subscriptions.handles topic := by
  have hsubs : (hub.closeLive n .topicClosed).2.subscriptions =
      (hub.subscriptions.unsubscribe topic n).2 :=
    congrArg Hub.subscriptions (h.closeLive_subscriber hn).2
  rw [hsubs, h.wellFormed.handles_unsubscribe, if_pos rfl, List.mem_erase_of_ne hne]
  exact hm

/-- Closing a session leaves the records consistent. -/
theorem Consistent.closeLive {hub : Hub} (h : hub.Consistent) (n : Nat) (reason : CloseReason) :
    (hub.closeLive n reason).2.Consistent := by
  unfold Hub.closeLive
  split
  · exact h.retire n reason none
  · exact h

/-- Subscribers that are closed in turn all count, and all leave the records. -/
theorem Consistent.closeEach_subscribers {hub : Hub} (h : hub.Consistent) (topic : Topic)
    {ns : List Nat} (hns : ns.Nodup) (hsub : ∀ n ∈ ns, n ∈ hub.subscriptions.handles topic) :
    (closeEach (fun hub n => hub.closeLive n .topicClosed) ns hub).1 = ns.length ∧
      (closeEach (fun hub n => hub.closeLive n .topicClosed) ns hub).2.books =
        hub.books.cleared topic ns := by
  induction ns generalizing hub with
  | nil => exact ⟨rfl, by simp [closeEach, cleared, Subscriptions.unsubscribeAll]⟩
  | cons n rest ih =>
    obtain ⟨hn, hrest⟩ := List.nodup_cons.mp hns
    have hmem := hsub n List.mem_cons_self
    obtain ⟨hclosed, hbooks⟩ := h.closeLive_subscriber hmem
    obtain ⟨hcount, hlater⟩ := ih (h.closeLive n .topicClosed) hrest fun m hm =>
      h.mem_handles_closeLive hmem (hsub m (List.mem_cons_of_mem _ hm)) fun heq => hn (heq ▸ hm)
    have htogether : (hub.books.cleared topic [n]).cleared topic rest =
        hub.books.cleared topic (n :: rest) := by
      simp only [cleared, Subscriptions.unsubscribeAll, List.foldl_cons, List.foldl_nil,
        List.filter_filter, List.mem_cons, List.not_mem_nil, or_false, not_or,
        List.length_cons, List.length_nil, Hub.mk.injEq, true_and, and_true]
      refine ⟨List.filter_congr fun m _ => by simp [Bool.and_comm], by omega, by omega⟩
    refine ⟨by simp only [closeEach, hclosed, if_true, hcount, List.length_cons], ?_⟩
    rw [← htogether, ← hbooks]
    exact hlater

/-- Clearing closes each subscriber of the topic once, and takes them all off the records. -/
theorem Consistent.clearTopic_eq {hub : Hub} (h : hub.Consistent) (topic : Topic) :
    (hub.clearTopic topic).1 = (hub.subscriptions.handles topic).length ∧
      (hub.clearTopic topic).2.books =
        hub.books.cleared topic (hub.subscriptions.handles topic) := by
  obtain ⟨hcount, hbooks⟩ :=
    h.closeEach_subscribers topic (h.wellFormed.handles_nodup topic) fun _ => id
  simp only [clearTopic]
  split
  · exact ⟨hcount, hbooks⟩
  · exact ⟨hcount, hbooks⟩

/-- A topic without subscribers has nothing to clear. -/
theorem clearTopic_of_handles_eq_nil {hub : Hub} {topic : Topic}
    (h : hub.subscriptions.handles topic = []) : hub.clearTopic topic = (0, hub) := by
  simp [clearTopic, h, closeEach]

/-- Clearing a topic closes its open sessions because of it, each without an error, and returns
their number. Every other connection, with its session, its outbox and its tasks, is exactly what it
was. The entry of the topic goes, the closed sessions leave the table and give their slots back, and
all else that the hub keeps stays as it was. To clear the topic once more does nothing at all. -/
theorem clearTopic_closes_exactly_its_topic (policy : StreamPolicy) {operations : List Operation}
    (hregular : ∀ operation ∈ operations, operation.isRegular = true) (topic : Topic) :
    let hub := (Hub.new policy).run operations
    let closed := (hub.clearTopic topic).1
    let later := (hub.clearTopic topic).2
    closed = (hub.openConnections.filter (·.session.topic = topic)).length ∧
      later.connections.length = hub.connections.length ∧
      (∀ (n : Nat) (connection : Connection), hub.connections[n]? = some connection →
        ∃ after, later.connections[n]? = some after ∧
          (connection.session.stage = .open → connection.session.topic = topic →
            after.session.stage = .terminated ∧ after.session.reason = some .topicClosed ∧
              after.session.failure = none) ∧
          (connection.session.stage ≠ .open ∨ connection.session.topic ≠ topic →
            after = connection)) ∧
      topic ∉ later.subscriptions.topics.map (·.1) ∧
      later.books =
        { hub.books with
          subscriptions := ⟨hub.subscriptions.topics.filter fun entry => entry.1 ≠ topic⟩
          table := hub.table.filter fun n => n ∉ hub.subscriptions.handles topic
          active := hub.active - closed
          closed := hub.closed + closed } ∧
      later.clearTopic topic = (0, later) := by
  intro hub closed later
  have hconsistent : hub.Consistent := (follows_run policy hregular).consistent
  obtain ⟨hcount, hbooks⟩ := hconsistent.clearTopic_eq topic
  have hsubs : hub.subscriptions.unsubscribeAll topic (hub.subscriptions.handles topic) =
      ⟨hub.subscriptions.topics.filter fun entry => entry.1 ≠ topic⟩ :=
    congrArg Subscriptions.mk (hconsistent.wellFormed.topics_unsubscribeAll topic)
  have hlater : later.subscriptions = _ := (congrArg Hub.subscriptions hbooks).trans hsubs
  have hgone : topic ∉ later.subscriptions.topics.map (·.1) := by
    rw [hlater]
    simp
  refine ⟨hcount.trans (hconsistent.length_handles topic), (acts_clearTopic hub topic).length_eq,
    fun n connection hconnection => ?_, hgone, ?_,
    clearTopic_of_handles_eq_nil (Subscriptions.handles_of_notMem hgone)⟩
  · refine ⟨_, hconsistent.connections_clearTopic topic hconnection, fun hopen htopic => ?_,
      fun hother => ?_⟩
    · have hs : hub.session? n = some connection.session := by rw [session?, hconnection]; rfl
      rw [Connection.closeMoves, if_pos ⟨hopen, htopic⟩]
      cases hconsistent.settled n _ hs with
      | live stage reason failure =>
        simp [Connection.after_cons, Connection.move, Connection.withSession, Session.retired,
          Cause.reason, Cause.failure, Session.isClaimed_of_open stage, reason, failure]
      | ended stage =>
        rw [stage] at hopen
        cases hopen
    · rw [Connection.closeMoves, if_neg fun hboth => hother.elim (· hboth.1) (· hboth.2)]
      rfl
  · rw [show later.books = _ from hbooks, cleared, ← hcount]
    simp only [show hub.books.subscriptions = hub.subscriptions from rfl, hsubs]
    rfl

/-- Three sessions of one topic, of which one was closed before, and one of another topic with an
event in its outbox. -/
theorem clearTopic_closes_exactly_its_topic_of_four :
    let hub := (Hub.new .default).run [.join (.random 0) ⟨0⟩, .join (.random 1) ⟨1⟩,
      .connect (.random 0) ⟨2⟩ (.channel 1) (some 5), .join (.random 0) ⟨3⟩, .close 0 .explicit,
      .publish ⟨.random 1, 7⟩]
    let later := (hub.clearTopic (.random 0)).2
    (hub.clearTopic (.random 0)).1 = 2 ∧
      (∃ session, later.session? 2 = some session ∧ session.stage = .terminated ∧
        session.reason = some .topicClosed ∧ session.failure = none) ∧
      (∃ connection, hub.connections[1]? = some connection ∧
        connection.session.outbox.items.length = 1 ∧ later.connections[1]? = some connection) ∧
      later.clearTopic (.random 0) = (0, later) := by
  intro hub later
  obtain ⟨hclosed, -, hsessions, -, -, hagain⟩ := clearTopic_closes_exactly_its_topic .default
    (show ∀ operation ∈ [Operation.join (.random 0) ⟨0⟩, .join (.random 1) ⟨1⟩,
      .connect (.random 0) ⟨2⟩ (.channel 1) (some 5), .join (.random 0) ⟨3⟩, .close 0 .explicit,
      .publish ⟨.random 1, 7⟩], operation.isRegular = true by decide) (.random 0)
  have hopen : (hub.connections[2]?).map (fun connection =>
      (connection.session.stage, connection.session.topic)) = some (.open, .random 0) := by
    decide +kernel
  have hother : (hub.connections[1]?).map (fun connection =>
      (connection.session.topic, connection.session.outbox.items.length)) =
        some (.random 1, 1) := by decide +kernel
  obtain ⟨second, hsecond, hopen⟩ := Option.map_eq_some_iff.mp hopen
  obtain ⟨first, hfirst, hother⟩ := Option.map_eq_some_iff.mp hother
  obtain ⟨hstage, htopic⟩ := Prod.mk.inj hopen
  obtain ⟨hapart, hlength⟩ := Prod.mk.inj hother
  obtain ⟨after, hafter, hends, -⟩ := hsessions 2 second hsecond
  obtain ⟨same, hsame, -, hkept⟩ := hsessions 1 first hfirst
  refine ⟨hclosed.trans (by decide +kernel), ⟨after.session, ?_, hends hstage htopic⟩,
    ⟨first, hfirst, hlength, ?_⟩, hagain⟩
  · rw [session?, show later.connections[2]? = some after from hafter]
    rfl
  · rwa [hkept (Or.inr (by rw [hapart]; decide))] at hsame

end Hub

end LiveCounter
