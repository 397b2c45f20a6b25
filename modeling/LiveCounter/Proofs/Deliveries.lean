import LiveCounter.Proofs.Moves

/-!
# What comes of one delivery

An event comes to one recipient after the other, and each of them is served according to its own
state: it queues the event, drops it, or does not listen. What is listed, counted and reported on the
way can be read off the recipients as they were before, because no recipient is visited twice and a
visit to one leaves the others alone.
-/

namespace LiveCounter

/-- How much is added to a series when so many events are published, dropped, and found to concern
what is not there any more. -/
def Metric.tally (published dropped missing : Nat) : Metric → Nat
  | .eventsPublished => published
  | .broadcastDrops => dropped
  | .disagreements => missing
  | _ => 0

/-- What is added twice is the sum. -/
theorem Metric.tally_add (published dropped missing published' dropped' missing' : Nat)
    (metric : Metric) :
    metric.tally published dropped missing + metric.tally published' dropped' missing' =
      metric.tally (published + published') (dropped + dropped') (missing + missing') := by
  cases metric <;> rfl

/-- A publication is counted as published. -/
theorem Metrics.count_published (metrics : Metrics) (metric : Metric) :
    (metrics.increment .eventsPublished).count metric =
      metrics.count metric + metric.tally 1 0 0 := by
  rw [Metrics.count_increment]
  cases metric <;> rfl

/-- A dropped event is counted as dropped. -/
theorem Metrics.count_dropped (metrics : Metrics) (metric : Metric) :
    (metrics.increment .broadcastDrops).count metric =
      metrics.count metric + metric.tally 0 1 0 := by
  rw [Metrics.count_increment]
  cases metric <;> rfl

/-- A disagreement is counted as such. -/
theorem Metrics.count_missing (metrics : Metrics) (metric : Metric) :
    (metrics.increment .disagreements).count metric =
      metrics.count metric + metric.tally 0 0 1 := by
  rw [Metrics.count_increment]
  cases metric <;> rfl

namespace Session

/-- Whether a session answers to an offer: it is open, and nobody has released its outbox. -/
def listens (session : Session) : Bool := session.isOpen && !session.outbox.released

/-- Whether a session would queue an event. -/
def hasRoom (session : Session) : Bool :=
  session.listens && decide (session.outbox.length < session.outbox.capacity)

/-- Whether a session would drop an event. -/
def isFull (session : Session) : Bool :=
  session.listens && decide (session.outbox.capacity ≤ session.outbox.length)

/-- Whether a session has ended. -/
def isOver (session : Session) : Bool := session.stage == .terminated

/-- The session with an event at the back of its outbox. -/
def queue (session : Session) (event : CounterEvent) : Session :=
  { session with
    outbox := { session.outbox with items := session.outbox.items ++ [event] }
    consecutiveDrops := 0 }

/-- The session with one more event dropped. -/
def drop (session : Session) : Session :=
  { session with
    dropped := session.dropped + 1
    consecutiveDrops := session.consecutiveDrops + 1 }

/-- Whether a session would drop an event, and that one would be too many. -/
def overflows (threshold : UInt32) (session : Session) : Bool :=
  session.isFull && decide (threshold ≤ session.drop.consecutiveDrops)

/-- When a session listens. -/
theorem listens_iff (session : Session) :
    session.listens = true ↔ session.stage = .open ∧ session.outbox.released = false := by
  simp [listens, isOpen]

/-- A session that has room queues an event. -/
theorem offer_of_hasRoom {session : Session} (h : session.hasRoom = true) (event : CounterEvent) :
    session.offer event = (session.queue event, .queued) := by
  rw [hasRoom, Bool.and_eq_true, listens_iff, decide_eq_true_eq] at h
  rw [offer_eq, if_pos h.1, if_neg (Nat.not_le_of_lt h.2)]
  rfl

/-- A full session drops an event. -/
theorem offer_of_isFull {session : Session} (h : session.isFull = true) (event : CounterEvent) :
    session.offer event = (session.drop, .dropped session.drop.consecutiveDrops) := by
  rw [isFull, Bool.and_eq_true, listens_iff, decide_eq_true_eq] at h
  rw [offer_eq, if_pos h.1, if_pos h.2]
  rfl

/-- A session that does not listen is not touched by an event. -/
theorem offer_of_not_listens {session : Session} (h : session.listens = false)
    (event : CounterEvent) : session.offer event = (session, .inactive) := by
  rw [offer_eq, if_neg]
  rw [← listens_iff, h]
  exact Bool.false_ne_true

/-- A session has room, or it is full, or it does not listen. -/
inductive Standing (session : Session) : Prop
  | room (hroom : session.hasRoom = true) (hfull : session.isFull = false)
      (hover : session.isOver = false)
  | full (hfull : session.isFull = true) (hroom : session.hasRoom = false)
      (hover : session.isOver = false)
  | deaf (hdeaf : session.listens = false) (hroom : session.hasRoom = false)
      (hfull : session.isFull = false)

/-- Every session stands in one of these ways. -/
theorem standing (session : Session) : session.Standing := by
  cases hlistens : session.listens with
  | false => exact .deaf hlistens (by simp [hasRoom, hlistens]) (by simp [isFull, hlistens])
  | true =>
    have hover : session.isOver = false := by
      rw [listens_iff] at hlistens
      simp [isOver, hlistens.1]
    by_cases hfull : session.outbox.capacity ≤ session.outbox.length
    · exact .full (by simp [isFull, hlistens, hfull])
        (by simp [hasRoom, Nat.not_lt_of_le hfull]) hover
    · exact .room (by simp [hasRoom, hlistens, Nat.lt_of_not_le hfull]) (by simp [isFull, hfull])
        hover

/-- A session that has room is not full. -/
theorem isFull_of_hasRoom {session : Session} (h : session.hasRoom = true) :
    session.isFull = false := by
  cases session.standing with
  | room _ hfull => exact hfull
  | full _ hroom => simp [hroom] at h
  | deaf _ _ hfull => exact hfull

/-- What is reported when an event comes to a session. -/
def remarks (threshold : UInt32) (topic : Topic) (session : Session) : List LogRecord :=
  let fields := Hub.topicFields session.id topic
  let dropFields := fields ++ [("consecutive", .nat session.drop.consecutiveDrops.toNat)]
  if session.overflows threshold then [⟨.warn, "disconnecting slow subscriber", dropFields⟩]
  else if session.isFull then [⟨.debug, "subscriber queue full, event dropped", dropFields⟩]
  else if session.isOver then [⟨.error, "terminated session still registered", fields⟩]
  else []

end Session

namespace Connection

/-- The connection of a session that has room has the event behind the others. -/
theorem move_offer_of_hasRoom {connection : Connection} (h : connection.session.hasRoom = true)
    (event : CounterEvent) :
    connection.move (.offer event) = connection.withSession (·.queue event) := by
  simp [move, withSession, Session.offer_of_hasRoom h]

/-- That of a full session counts a drop. -/
theorem move_offer_of_isFull {connection : Connection} (h : connection.session.isFull = true)
    (event : CounterEvent) :
    connection.move (.offer event) = connection.withSession Session.drop := by
  simp [move, withSession, Session.offer_of_isFull h]

/-- That of a session that does not listen stays as it is. -/
theorem move_offer_of_not_listens {connection : Connection}
    (h : connection.session.listens = false) (event : CounterEvent) :
    connection.move (.offer event) = connection := by
  simp [move, withSession, Session.offer_of_not_listens h]

end Connection

namespace Hub

/-- Whether there is a session of the number that passes a test. -/
def passes (hub : Hub) (test : Session → Bool) (n : Nat) : Bool := (hub.session? n).any test

/-- What is reported when an event of a topic comes to a session. -/
def remarksOn (hub : Hub) (topic : Topic) (n : Nat) : List LogRecord :=
  (hub.session? n).elim [] (Session.remarks hub.dropThreshold topic)

/-- The later hub differs in its sessions, its subscriptions, the disagreements and the reports at
most. -/
def Keeps (hub later : Hub) : Prop :=
  later = { hub with
    connections := later.connections
    subscriptions := later.subscriptions
    disagreements := later.disagreements
    metrics := later.metrics
    journal := later.journal }

/-- What is kept twice is kept. -/
theorem Keeps.trans {first second third : Hub} (h : first.Keeps second) (h' : second.Keeps third) :
    first.Keeps third :=
  Eq.trans h' (congrArg (fun base : Hub => { base with
    connections := third.connections
    subscriptions := third.subscriptions
    disagreements := third.disagreements
    metrics := third.metrics
    journal := third.journal }) h)

/-- What comes of the delivery of an event to the sessions `ns`, given what was reported before. -/
structure Visits (event : CounterEvent) (ns : List Nat) (report : Delivery) (hub : Hub)
    (outcome : Delivery × Hub) : Prop where
  report : outcome.1 = { report with
    delivered := report.delivered + ns.countP (hub.passes Session.hasRoom)
    dropped := report.dropped + ns.countP (hub.passes Session.isFull)
    forced := report.forced ++ ns.filter (hub.passes (Session.overflows hub.dropThreshold))
    inconsistent := report.inconsistent ++ ns.filter (hub.passes Session.isOver) }
  acts : hub.Acts outcome.2 fun n => if n ∈ ns then [.offer event] else []
  subscriptions : outcome.2.subscriptions =
    hub.subscriptions.unsubscribeAll event.topic (ns.filter (hub.passes Session.isOver))
  disagreements : outcome.2.disagreements =
    hub.disagreements + ns.countP (hub.passes Session.isOver)
  frame : hub.Keeps outcome.2
  counts : ∀ metric, outcome.2.metrics.count metric =
    hub.metrics.count metric +
      metric.tally 0 (ns.countP (hub.passes Session.isFull)) (ns.countP (hub.passes Session.isOver))
  gauge : outcome.2.metrics.active = hub.metrics.active
  journal : outcome.2.journal = (ns.flatMap (hub.remarksOn event.topic)).reverse ++ hub.journal

/-- A delivery makes one move, of its session. -/
theorem acts_deliver (event : CounterEvent) (report : Delivery) (hub : Hub) (n : Nat) :
    hub.Acts (deliver event report hub n).2 fun m => if m ∈ [n] then [.offer event] else [] := by
  intro m
  rw [connections_deliver, acts_offer hub n event m]
  simp only [only, List.mem_singleton]

/-- A session with room queues the event. -/
theorem deliver_of_hasRoom {hub : Hub} {n : Nat} {session : Session}
    (hs : hub.session? n = some session) (hroom : session.hasRoom = true) (event : CounterEvent)
    (report : Delivery) :
    deliver event report hub n = ({ report with delivered := report.delivered + 1 },
      hub.modifySession n fun _ => session.queue event) := by
  simp [deliver, offer, hs, Session.offer_of_hasRoom hroom event]

/-- A full session drops the event, and is listed if that was one too many. -/
theorem deliver_of_isFull {hub : Hub} {n : Nat} {session : Session}
    (hs : hub.session? n = some session) (hfull : session.isFull = true) (event : CounterEvent)
    (report : Delivery) :
    deliver event report hub n =
      ({ report with
          dropped := report.dropped + 1
          forced := report.forced ++ if session.overflows hub.dropThreshold then [n] else [] },
        { (hub.modifySession n fun _ => session.drop).count .broadcastDrops with
          journal := session.remarks hub.dropThreshold event.topic ++ hub.journal }) := by
  simp only [deliver, offer, hs, Session.offer_of_isFull hfull event, Session.remarks,
    Session.overflows, hfull, Bool.true_and, decide_eq_true_eq, if_true]
  by_cases hlong : hub.dropThreshold ≤ session.drop.consecutiveDrops
  · rw [if_pos hlong, if_pos hlong]
    exact if_pos hlong
  · rw [if_neg hlong, if_neg hlong, List.append_nil]
    exact if_neg hlong

/-- A session that has ended is listed, counted and taken off the topic. -/
theorem deliver_of_isOver {hub : Hub} {n : Nat} {session : Session}
    (hs : hub.session? n = some session) (hover : session.isOver = true) (event : CounterEvent)
    (report : Delivery) :
    deliver event report hub n =
      ({ report with inconsistent := report.inconsistent ++ [n] },
        { (hub.modifySession n fun _ => session).noteDisagreement with
          subscriptions := (hub.subscriptions.unsubscribe event.topic n).2
          journal := ⟨.error, "terminated session still registered",
            topicFields session.id event.topic⟩ :: hub.journal }) := by
  have hstage : session.stage = .terminated := by simpa [Session.isOver] using hover
  have hdeaf : session.listens = false := by simp [Session.listens, Session.isOpen, hstage]
  simp only [deliver, offer, hs, Session.offer_of_not_listens hdeaf event]
  exact if_pos hstage

/-- Nothing comes of an event for another session that does not listen. -/
theorem deliver_of_deaf {hub : Hub} {n : Nat} {session : Session}
    (hs : hub.session? n = some session) (hdeaf : session.listens = false)
    (hover : session.isOver = false) (event : CounterEvent) (report : Delivery) :
    deliver event report hub n = (report, hub.modifySession n fun _ => session) := by
  have hstage : session.stage ≠ .terminated := by simpa [Session.isOver] using hover
  simp only [deliver, offer, hs, Session.offer_of_not_listens hdeaf event]
  exact if_neg hstage

/-- A test is passed by the session of the number. -/
theorem passes_eq {hub : Hub} {n : Nat} {session : Session} (hs : hub.session? n = some session)
    (test : Session → Bool) : hub.passes test n = test session := by
  rw [passes, hs, Option.any_some]

/-- What is reported is what the session gives rise to. -/
theorem remarksOn_eq {hub : Hub} {n : Nat} {session : Session} (hs : hub.session? n = some session)
    (topic : Topic) : hub.remarksOn topic n = session.remarks hub.dropThreshold topic := by
  rw [remarksOn, hs]
  rfl

section Visiting

variable {hub : Hub} {n : Nat} {session : Session} (hs : hub.session? n = some session)
  (event : CounterEvent) (report : Delivery)

include hs

/-- What comes of a delivery to a session that has room. -/
theorem visits_of_hasRoom (hroom : session.hasRoom = true) (hover : session.isOver = false) :
    Visits event [n] report hub (deliver event report hub n) := by
  have hacts := acts_deliver event report hub n
  have hfull := Session.isFull_of_hasRoom hroom
  have hpasses := passes_eq hs
  rw [deliver_of_hasRoom hs hroom] at hacts ⊢
  refine ⟨?_, hacts, ?_, ?_, rfl, fun metric => ?_, rfl, ?_⟩
  · simp [hpasses, hroom, hfull, hover, Session.overflows]
  · simp [hpasses, hover, Subscriptions.unsubscribeAll, modifySession, modify]
  · simp [hpasses, hover, modifySession, modify]
  · cases metric <;> simp [hpasses, Metric.tally, hfull, hover, modifySession, modify]
  · simp [remarksOn_eq hs, Session.remarks, Session.overflows, hfull, hover, modifySession, modify]

/-- What comes of one to a full session. -/
theorem visits_of_isFull (hfull : session.isFull = true) (hroom : session.hasRoom = false)
    (hover : session.isOver = false) :
    Visits event [n] report hub (deliver event report hub n) := by
  have hacts := acts_deliver event report hub n
  have hpasses := passes_eq hs
  rw [deliver_of_isFull hs hfull] at hacts ⊢
  refine ⟨?_, hacts, ?_, ?_, rfl, fun metric => ?_, rfl, ?_⟩
  · simp [hpasses, hroom, hfull, hover, List.filter_singleton]
  · simp [hpasses, hover, Subscriptions.unsubscribeAll, modifySession, modify, count]
  · simp [hpasses, hover, modifySession, modify, count]
  · refine (hub.metrics.count_dropped metric).trans ?_
    simp [hpasses, hfull, hover]
  · -- One remark at most is made about a session, so that it can be read from either end.
    rw [List.flatMap_singleton, remarksOn_eq hs, Session.remarks]
    simp only [hfull, if_true]
    split <;> rfl

/-- What comes of one to a session that has ended. -/
theorem visits_of_isOver (hover : session.isOver = true) (hroom : session.hasRoom = false)
    (hfull : session.isFull = false) :
    Visits event [n] report hub (deliver event report hub n) := by
  have hacts := acts_deliver event report hub n
  have hpasses := passes_eq hs
  rw [deliver_of_isOver hs hover] at hacts ⊢
  refine ⟨?_, hacts, ?_, ?_, rfl, fun metric => ?_, rfl, ?_⟩
  · simp [hpasses, hroom, hfull, hover, Session.overflows]
  · simp [hpasses, hover, Subscriptions.unsubscribeAll]
  · simp [hpasses, hover, modifySession, modify, count, noteDisagreement]
  · refine (hub.metrics.count_missing metric).trans ?_
    simp [hpasses, hfull, hover]
  · simp [remarksOn_eq hs, Session.remarks, Session.overflows, hfull, hover]

/-- What comes of one to a session that does not listen although it has not ended. -/
theorem visits_of_deaf (hdeaf : session.listens = false) (hroom : session.hasRoom = false)
    (hfull : session.isFull = false) (hover : session.isOver = false) :
    Visits event [n] report hub (deliver event report hub n) := by
  have hacts := acts_deliver event report hub n
  have hpasses := passes_eq hs
  rw [deliver_of_deaf hs hdeaf hover] at hacts ⊢
  refine ⟨?_, hacts, ?_, ?_, rfl, fun metric => ?_, rfl, ?_⟩
  · simp [hpasses, hroom, hfull, hover, Session.overflows]
  · simp [hpasses, hover, Subscriptions.unsubscribeAll, modifySession, modify]
  · simp [hpasses, hover, modifySession, modify]
  · cases metric <;> simp [hpasses, Metric.tally, hfull, hover, modifySession, modify]
  · simp [remarksOn_eq hs, Session.remarks, Session.overflows, hfull, hover, modifySession, modify]

end Visiting

/-- What comes of the delivery to nobody. -/
theorem visits_nobody (event : CounterEvent) (report : Delivery) (hub : Hub) :
    Visits event [] report hub (report, hub) :=
  ⟨by simp, acts_nothing rfl, rfl, rfl, rfl, fun metric => by cases metric <;> rfl, rfl, rfl⟩

/-- What comes of the delivery to one session. -/
theorem visits_deliver (event : CounterEvent) (report : Delivery) (hub : Hub) (n : Nat) :
    Visits event [n] report hub (deliver event report hub n) := by
  cases hs : hub.session? n with
  | none =>
    have hacts := acts_deliver event report hub n
    have hdeliver : deliver event report hub n = (report, hub) := by simp [deliver, hs]
    rw [hdeliver] at hacts ⊢
    exact ⟨by simp [passes, hs], hacts, by simp [passes, hs, Subscriptions.unsubscribeAll],
      by simp [passes, hs], rfl, fun metric => by cases metric <;> simp [passes, hs, Metric.tally],
      rfl, by simp [remarksOn, hs]⟩
  | some session =>
    cases session.standing with
    | room hroom _ hover => exact visits_of_hasRoom hs event report hroom hover
    | full hfull hroom hover => exact visits_of_isFull hs event report hfull hroom hover
    | deaf hdeaf hroom hfull =>
      cases hover : session.isOver with
      | true => exact visits_of_isOver hs event report hover hroom hfull
      | false => exact visits_of_deaf hs event report hdeaf hroom hfull hover

/-- A delivery to some sessions leaves the others as they are. -/
theorem Visits.session?_eq {event : CounterEvent} {ns : List Nat} {report : Delivery} {hub : Hub}
    {outcome : Delivery × Hub} (h : Visits event ns report hub outcome) {n : Nat} (hn : n ∉ ns) :
    outcome.2.session? n = hub.session? n := by
  simp [session?, h.acts n, hn]

/-- Visits leave the policy alone. -/
theorem Visits.policy_eq {event : CounterEvent} {ns : List Nat} {report : Delivery} {hub : Hub}
    {outcome : Delivery × Hub} (h : Visits event ns report hub outcome) :
    outcome.2.policy = hub.policy := by
  rw [h.frame]

/-- What comes of two deliveries, one after the other, to different sessions. -/
theorem Visits.trans {event : CounterEvent} {ns ms : List Nat} {report : Delivery} {hub : Hub}
    {first second : Delivery × Hub} (h : Visits event ns report hub first)
    (h' : Visits event ms first.1 first.2 second) (hdisjoint : ∀ m ∈ ms, m ∉ ns) :
    Visits event (ns ++ ms) report hub second := by
  have hthreshold : first.2.dropThreshold = hub.dropThreshold := by
    rw [dropThreshold, dropThreshold, h.policy_eq]
  -- The second delivery finds its sessions as they were before the first one.
  have hpasses (test : Session → Bool) (m : Nat) (hm : m ∈ ms) :
      first.2.passes test m = hub.passes test m := by
    rw [passes, passes, h.session?_eq (hdisjoint m hm)]
  have hremarks (m : Nat) (hm : m ∈ ms) :
      first.2.remarksOn event.topic m = hub.remarksOn event.topic m := by
    rw [remarksOn, remarksOn, h.session?_eq (hdisjoint m hm), hthreshold]
  have hcount (test : Session → Bool) : ms.countP (first.2.passes test) = ms.countP (hub.passes test) :=
    List.countP_congr fun m hm => by rw [hpasses test m hm]
  have hfilter (test : Session → Bool) : ms.filter (first.2.passes test) = ms.filter (hub.passes test) :=
    List.filter_congr (hpasses test)
  constructor
  case report =>
    rw [h'.report, h.report]
    simp only [hcount, hfilter, hthreshold, List.countP_append, List.filter_append,
      List.append_assoc, Nat.add_assoc]
  case acts =>
    refine (h.acts.trans h'.acts).of_eq fun n => ?_
    by_cases hn : n ∈ ns
    · have hnot : n ∉ ms := fun hm => hdisjoint n hm hn
      simp [hn, hnot]
    · simp [hn]
  case subscriptions =>
    rw [h'.subscriptions, h.subscriptions, hfilter, List.filter_append, Subscriptions.unsubscribeAll,
      Subscriptions.unsubscribeAll, Subscriptions.unsubscribeAll, List.foldl_append]
  case disagreements =>
    rw [h'.disagreements, h.disagreements, hcount, List.countP_append, Nat.add_assoc]
  case frame => exact h.frame.trans h'.frame
  case counts =>
    intro metric
    rw [h'.counts, h.counts, hcount, hcount, Nat.add_assoc, Metric.tally_add, List.countP_append,
      List.countP_append]
  case gauge => exact h'.gauge.trans h.gauge
  case journal =>
    rw [h'.journal, h.journal, List.flatMap_append, List.flatMap_congr hremarks, List.reverse_append,
      List.append_assoc]

/-- What comes of the delivery to several sessions in turn. -/
theorem visits_deliverAll (event : CounterEvent) {ns : List Nat} (hns : ns.Nodup)
    (report : Delivery) (hub : Hub) :
    Visits event ns report hub (deliverAll event ns report hub) := by
  induction ns generalizing report hub with
  | nil => exact visits_nobody event report hub
  | cons n rest ih =>
    obtain ⟨hn, hrest⟩ := List.nodup_cons.mp hns
    refine (visits_deliver event report hub n).trans (ih hrest _ _) fun m hm => ?_
    rw [List.mem_singleton]
    exact fun heq => hn (heq ▸ hm)

/-! ## Stale handles -/

/-- What is reported when a handle is stale. -/
def staleRemarks (hub : Hub) (topic : Topic) (n : Nat) : List LogRecord :=
  (hub.session? n).elim [] fun session =>
    [⟨.error, "registry held a handle to a dropped session", topicFields session.id topic⟩]

/-- A stale handle is counted and reported. -/
theorem noteStale_eq (topic : Topic) (hub : Hub) (n : Nat) :
    noteStale topic hub n =
      { hub.noteDisagreement with
        journal := (hub.staleRemarks topic n).reverse ++ hub.journal } := by
  have hsession : hub.noteDisagreement.session? n = hub.session? n := rfl
  simp only [noteStale, staleRemarks, hsession]
  cases hub.session? n <;> rfl

/-- Each stale handle is counted and reported. -/
theorem foldl_noteStale (topic : Topic) (ns : List Nat) (hub : Hub) :
    ∃ metrics, ns.foldl (noteStale topic) hub =
        { hub with
          metrics
          disagreements := hub.disagreements + ns.length
          journal := (ns.flatMap (hub.staleRemarks topic)).reverse ++ hub.journal } ∧
      metrics.active = hub.metrics.active ∧
      ∀ metric, metrics.count metric =
        hub.metrics.count metric + metric.tally 0 0 ns.length := by
  induction ns generalizing hub with
  | nil => exact ⟨hub.metrics, rfl, rfl, fun metric => by cases metric <;> rfl⟩
  | cons n rest ih =>
    obtain ⟨metrics, hrest, hgauge, hcount⟩ := ih (noteStale topic hub n)
    have hremarks : (noteStale topic hub n).staleRemarks topic = hub.staleRemarks topic := by
      rw [noteStale_eq]
      rfl
    rw [hremarks] at hrest
    refine ⟨metrics, ?_, ?_, fun metric => ?_⟩
    · rw [List.foldl_cons, hrest, noteStale_eq]
      simp [noteDisagreement, count, Nat.add_comm, Nat.add_left_comm]
    · rw [hgauge, noteStale_eq]
      rfl
    · rw [hcount, noteStale_eq]
      show (hub.metrics.increment .disagreements).count metric + _ = _
      rw [Metrics.count_missing, Nat.add_assoc, Metric.tally_add, List.length_cons, Nat.add_comm 1]

end Hub

end LiveCounter
