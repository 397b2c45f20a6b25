import LiveCounter.Proofs.Handles
import LiveCounter.Proofs.Deliveries

/-!
# What one publication does

A publication goes through the subscribers of its topic, whose sessions may be in any state or gone,
and changes sessions, subscriptions and totals on its way. What it does can be said at once, for it is
determined by the subscribers as they were before. So the order in which they are visited shows in
the order of the lists and of the reports only.
-/

namespace LiveCounter

namespace Session

/-- A session that drops an event has not ended. -/
theorem isOver_of_overflows {threshold : UInt32} {session : Session}
    (h : session.overflows threshold = true) : session.isOver = false := by
  cases session.standing with
  | room _ _ hover => exact hover
  | full _ _ hover => exact hover
  | deaf _ _ hfull => simp [overflows, hfull] at h

/-- What a publication has against a session that it has come to: that it has dropped too many events,
or that it had ended. -/
def complaints (threshold : UInt32) (ended : StreamFault) (session : Session) : List Cause :=
  if session.overflows threshold then [.error .backpressureDrop]
  else if session.isOver then [.error ended]
  else []

/-- The only thing there is against an unclaimed session is that it drops too much. -/
theorem complaints_of_unclaimed {session : Session} (h : session.isClaimed = false)
    (threshold : UInt32) (ended : StreamFault) : session.complaints threshold ended =
      if session.overflows threshold then [.error .backpressureDrop] else [] := by
  have hover : session.isOver = false := by
    cases hstage : session.stage <;> simp_all [isClaimed, isOver]
  simp [complaints, hover]

end Session

namespace Hub

/-- The subscribers of a topic whose sessions are there. -/
def liveHandles (hub : Hub) (topic : Topic) : List Nat :=
  (hub.subscriptions.handles topic).filter hub.isAlive

/-- The subscribers of a topic whose sessions are gone. -/
def staleHandles (hub : Hub) (topic : Topic) : List Nat :=
  (hub.subscriptions.handles topic).filter fun n => !hub.isAlive n

/-- The hub when its live subscribers are about to be visited. -/
def prepared (hub : Hub) (event : CounterEvent) : Hub :=
  (hub.staleHandles event.topic).foldl (noteStale event.topic)
    { hub.countPublished with
      subscriptions := hub.subscriptions.unsubscribeAll event.topic (hub.staleHandles event.topic) }

/-- What is reported when all subscribers have been visited. -/
def summary (event : CounterEvent) (report : Delivery) : LogRecord :=
  ⟨.debug, "broadcast event", [
    ("topic", .str event.topic.name),
    ("value", .int event.value.toInt),
    ("recipients", .nat report.recipients),
    ("delivered", .nat report.delivered),
    ("dropped", .nat report.dropped)]⟩

/-- The report of a publication, read off the hub before it. -/
def publicationReport (hub : Hub) (topic : Topic) : Delivery where
  recipients := (hub.liveHandles topic).length
  delivered := (hub.liveHandles topic).countP (hub.passes Session.hasRoom)
  dropped := (hub.liveHandles topic).countP (hub.passes Session.isFull)
  forced := (hub.liveHandles topic).filter (hub.passes (Session.overflows hub.dropThreshold))
  inconsistent := (hub.liveHandles topic).filter (hub.passes Session.isOver)
  stale := hub.staleHandles topic

/-- A distribution prepares the hub, visits the live subscribers and sums up. -/
theorem distribute_eq (hub : Hub) (event : CounterEvent) :
    let outcome := deliverAll event (hub.liveHandles event.topic)
      { recipients := (hub.liveHandles event.topic).length, stale := hub.staleHandles event.topic }
      (hub.prepared event)
    hub.distribute event = (outcome.1, { outcome.2 with
      delivered := outcome.2.delivered + outcome.1.delivered
      dropped := outcome.2.dropped + outcome.1.dropped
      journal := summary event outcome.1 :: outcome.2.journal }) := rfl

/-- What a publication does: to the sessions, in its report, to the subscriptions, and to the totals
and the reports for operators. -/
structure Published (hub : Hub) (event : CounterEvent) (report : Delivery) (later : Hub) : Prop where
  queued : ∀ n ∈ hub.liveHandles event.topic, ∀ connection : Connection,
    hub.connections[n]? = some connection → connection.session.hasRoom = true →
      later.connections[n]? = some (connection.withSession (·.queue event)) ∧ n ∉ report.forced
  dropped : ∀ n ∈ hub.liveHandles event.topic, ∀ connection : Connection,
    hub.connections[n]? = some connection → connection.session.isFull = true →
      later.connections[n]? = some (connection.withSession Session.drop) ∧
        (n ∈ report.forced ↔ hub.dropThreshold ≤ connection.session.drop.consecutiveDrops)
  others : ∀ n, ∀ connection : Connection, hub.connections[n]? = some connection →
    (n ∈ hub.liveHandles event.topic → connection.session.listens = false) →
      later.connections[n]? = some connection ∧ n ∉ report.forced
  length_eq : later.connections.length = hub.connections.length
  report_eq : report = hub.publicationReport event.topic
  handles_eq : ∀ topic, later.subscriptions.handles topic =
    if event.topic = topic then
      (hub.subscriptions.handles topic).filter fun n => n ∉ report.stale ∧ n ∉ report.inconsistent
    else hub.subscriptions.handles topic
  wellFormed : later.subscriptions.WellFormed
  totals : later = { hub with
    published := hub.published + 1
    delivered := hub.delivered + report.delivered
    dropped := hub.dropped + report.dropped
    disagreements := hub.disagreements + (report.stale.length + report.inconsistent.length)
    connections := later.connections
    subscriptions := later.subscriptions
    metrics := later.metrics
    journal := later.journal }
  counts : ∀ metric, later.metrics.count metric = hub.metrics.count metric +
    metric.tally 1 report.dropped (report.stale.length + report.inconsistent.length)
  gauge : later.metrics.active = hub.metrics.active
  journal : later.journal =
    summary event report ::
      (report.stale.flatMap (hub.staleRemarks event.topic) ++
        (hub.liveHandles event.topic).flatMap (hub.remarksOn event.topic)).reverse ++ hub.journal

/-- The hub when its live subscribers are about to be visited: the publication and the stale handles
are counted, the stale handles are gone, and nothing else has changed. -/
structure Prepares (hub : Hub) (event : CounterEvent) (ready : Hub) : Prop where
  totals : ready = { hub with
    published := hub.published + 1
    subscriptions := hub.subscriptions.unsubscribeAll event.topic (hub.staleHandles event.topic)
    disagreements := hub.disagreements + (hub.staleHandles event.topic).length
    metrics := ready.metrics
    journal := ready.journal }
  counts : ∀ metric, ready.metrics.count metric =
    hub.metrics.count metric + metric.tally 1 0 (hub.staleHandles event.topic).length
  gauge : ready.metrics.active = hub.metrics.active
  journal : ready.journal =
    ((hub.staleHandles event.topic).flatMap (hub.staleRemarks event.topic)).reverse ++ hub.journal

/-- What is done before the visits prepares the hub. -/
theorem prepares_prepared (hub : Hub) (event : CounterEvent) :
    hub.Prepares event (hub.prepared event) := by
  obtain ⟨metrics, hprepared, hgauge, hcount⟩ := foldl_noteStale event.topic
    (hub.staleHandles event.topic)
    { hub.countPublished with
      subscriptions := hub.subscriptions.unsubscribeAll event.topic (hub.staleHandles event.topic) }
  rw [prepared, hprepared]
  refine ⟨rfl, fun metric => ?_, hgauge, rfl⟩
  have hpublished : hub.countPublished.metrics.count metric =
      hub.metrics.count metric + metric.tally 1 0 0 := hub.metrics.count_published metric
  rw [hcount metric, hpublished, Nat.add_assoc, Metric.tally_add]
  simp only [Nat.zero_add, Nat.add_zero]

section Visiting

variable {hub ready : Hub} {event : CounterEvent} {outcome : Delivery × Hub}

/-- The preparation changes no connection. -/
theorem Prepares.connections_eq (h : hub.Prepares event ready) :
    ready.connections = hub.connections := by
  rw [h.totals]

/-- Nor does it change a session. -/
theorem Prepares.session?_eq (h : hub.Prepares event ready) (n : Nat) :
    ready.session? n = hub.session? n := by
  rw [session?, session?, h.connections_eq]

/-- So sessions pass the same tests after it. -/
theorem Prepares.passes_eq (h : hub.Prepares event ready) (test : Session → Bool) :
    ready.passes test = hub.passes test := by
  funext n
  rw [passes, passes, h.session?_eq]

/-- The preparation leaves the limit of drops alone. -/
theorem Prepares.dropThreshold_eq (h : hub.Prepares event ready) :
    ready.dropThreshold = hub.dropThreshold := by
  rw [h.totals]
  rfl

/-- So the same is reported of sessions after it. -/
theorem Prepares.remarksOn_eq (h : hub.Prepares event ready) (topic : Topic) :
    ready.remarksOn topic = hub.remarksOn topic := by
  funext n
  rw [remarksOn, remarksOn, h.session?_eq, h.dropThreshold_eq]

/-- The live subscribers have been visited, the hub having been prepared for it. -/
abbrev VisitsAll (hub ready : Hub) (event : CounterEvent) (outcome : Delivery × Hub) : Prop :=
  Visits event (hub.liveHandles event.topic)
    { recipients := (hub.liveHandles event.topic).length, stale := hub.staleHandles event.topic }
    ready outcome

variable (hready : hub.Prepares event ready) (hall : hub.VisitsAll ready event outcome)

include hready hall

/-- The report can be read off the hub before the publication. -/
theorem VisitsAll.report_eq : outcome.1 = hub.publicationReport event.topic := by
  rw [hall.report, hready.passes_eq, hready.passes_eq, hready.passes_eq, hready.passes_eq,
    hready.dropThreshold_eq]
  simp only [publicationReport, Nat.zero_add, List.nil_append]

/-- The live subscribers have been offered the event, and nobody else. -/
theorem VisitsAll.connection_eq {n : Nat} {connection : Connection}
    (h : hub.connections[n]? = some connection) :
    outcome.2.connections[n]? = some (if n ∈ hub.liveHandles event.topic
      then connection.move (.offer event) else connection) := by
  rw [hall.acts n, hready.connections_eq, h, Option.map_some]
  by_cases hn : n ∈ hub.liveHandles event.topic
  · simp only [if_pos hn, Connection.after_cons, Connection.after_nil]
  · simp only [if_neg hn, Connection.after_nil]

/-- The live subscribers that overflow are to be closed. -/
theorem VisitsAll.mem_forced {n : Nat} {connection : Connection}
    (h : hub.connections[n]? = some connection) :
    n ∈ outcome.1.forced ↔ n ∈ hub.liveHandles event.topic ∧
      connection.session.overflows hub.dropThreshold = true := by
  have hs : hub.session? n = some connection.session := by rw [session?, h, Option.map_some]
  rw [VisitsAll.report_eq hready hall, publicationReport, List.mem_filter, Hub.passes_eq hs]

/-- The topic has lost the handles that were out of order. -/
theorem VisitsAll.handles_eq (hwf : hub.subscriptions.WellFormed) (topic : Topic) :
    outcome.2.subscriptions.handles topic =
      if event.topic = topic then
        (hub.subscriptions.handles topic).filter fun n =>
          n ∉ outcome.1.stale ∧ n ∉ outcome.1.inconsistent
      else hub.subscriptions.handles topic := by
  have hstale := hwf.unsubscribeAll event.topic (hub.staleHandles event.topic)
  rw [hall.subscriptions, hready.totals, hstale.handles_unsubscribeAll, hwf.handles_unsubscribeAll,
    VisitsAll.report_eq hready hall]
  by_cases htopic : event.topic = topic
  · rw [if_pos htopic, if_pos htopic, if_pos htopic, List.filter_filter]
    refine List.filter_congr fun n _ => ?_
    rw [← hready.totals, hready.passes_eq]
    rw [Bool.and_comm, ← Bool.decide_and]
    rfl
  · rw [if_neg htopic, if_neg htopic, if_neg htopic]

/-- What is not there any more is counted once. -/
theorem VisitsAll.disagreements_eq : outcome.2.disagreements =
    hub.disagreements + (outcome.1.stale.length + outcome.1.inconsistent.length) := by
  rw [hall.disagreements, hready.passes_eq, VisitsAll.report_eq hready hall, hready.totals,
    List.countP_eq_length_filter, Nat.add_assoc]
  rfl

/-- Everything else is as it was. -/
theorem VisitsAll.frame_eq : outcome.2 = { hub with
    published := hub.published + 1
    connections := outcome.2.connections
    subscriptions := outcome.2.subscriptions
    disagreements := outcome.2.disagreements
    metrics := outcome.2.metrics
    journal := outcome.2.journal } :=
  Eq.trans hall.frame (congrArg (fun base : Hub => { base with
    connections := outcome.2.connections
    subscriptions := outcome.2.subscriptions
    disagreements := outcome.2.disagreements
    metrics := outcome.2.metrics
    journal := outcome.2.journal }) hready.totals)

/-- How the publication has been counted. -/
theorem VisitsAll.count_eq (metric : Metric) : outcome.2.metrics.count metric =
    hub.metrics.count metric + metric.tally 1 outcome.1.dropped
      (outcome.1.stale.length + outcome.1.inconsistent.length) := by
  rw [hall.counts, hready.counts, hready.passes_eq, hready.passes_eq, Nat.add_assoc,
    Metric.tally_add, VisitsAll.report_eq hready hall]
  simp only [publicationReport, List.countP_eq_length_filter, Nat.add_zero, Nat.zero_add]

end Visiting

/-- Whatever the subscribers are, one publication does this and no more. -/
theorem published_distribute {hub : Hub} (hwf : hub.subscriptions.WellFormed) (event : CounterEvent) :
    hub.Published event (hub.distribute event).1 (hub.distribute event).2 := by
  have hnodup : (hub.liveHandles event.topic).Nodup := (hwf.handles_nodup event.topic).filter _
  have hready := hub.prepares_prepared event
  have hall : hub.VisitsAll (hub.prepared event) event _ := visits_deliverAll event hnodup _ _
  rw [distribute_eq]
  generalize hub.prepared event = ready at *
  generalize deliverAll event _ _ ready = outcome at hall
  have hforced {n : Nat} {connection : Connection} (h : hub.connections[n]? = some connection) :=
    VisitsAll.mem_forced hready hall h
  have hconnection {n : Nat} {connection : Connection} (h : hub.connections[n]? = some connection) :=
    VisitsAll.connection_eq hready hall h
  have hreport := VisitsAll.report_eq hready hall
  have hhandles := VisitsAll.handles_eq hready hall hwf
  have hcounts := VisitsAll.count_eq hready hall
  constructor
  case queued =>
    intro n hn connection h hroom
    refine ⟨?_, fun hmem => ?_⟩
    · rw [hconnection h, if_pos hn, Connection.move_offer_of_hasRoom hroom]
    · have hlost := ((hforced h).mp hmem).2
      simp [Session.overflows, Session.isFull_of_hasRoom hroom] at hlost
  case dropped =>
    intro n hn connection h hfull
    refine ⟨?_, ?_⟩
    · rw [hconnection h, if_pos hn, Connection.move_offer_of_isFull hfull]
    · simp only [hforced h, hn, Session.overflows, hfull, Bool.true_and, decide_eq_true_eq, true_and]
  case others =>
    intro n connection h hdeaf
    refine ⟨?_, fun hmem => ?_⟩
    · rw [hconnection h]
      split
      · next hn => rw [Connection.move_offer_of_not_listens (hdeaf hn)]
      · rfl
    · obtain ⟨hn, hlost⟩ := (hforced h).mp hmem
      simp [Session.overflows, Session.isFull, hdeaf hn] at hlost
  case length_eq => exact hall.acts.length_eq.trans (congrArg List.length hready.connections_eq)
  case report_eq => exact hreport
  case handles_eq => exact hhandles
  case wellFormed =>
    show outcome.2.subscriptions.WellFormed
    rw [hall.subscriptions, hready.totals]
    exact (hwf.unsubscribeAll event.topic _).unsubscribeAll event.topic _
  case totals =>
    rw [← VisitsAll.disagreements_eq hready hall]
    exact congrArg (fun base : Hub => { base with
      delivered := base.delivered + outcome.1.delivered
      dropped := base.dropped + outcome.1.dropped
      journal := summary event outcome.1 :: outcome.2.journal }) (VisitsAll.frame_eq hready hall)
  case counts => exact hcounts
  case gauge => exact hall.gauge.trans hready.gauge
  case journal =>
    show summary event outcome.1 :: outcome.2.journal = _
    rw [hall.journal, hready.journal, hready.remarksOn_eq, hreport]
    simp only [publicationReport, List.reverse_append, List.append_assoc, List.cons_append]

/-! ## What it does to one session -/

/-- A list without repetitions has an item once or not at all. -/
theorem filter_eq_of_nodup {ns : List Nat} (h : ns.Nodup) (n : Nat) :
    ns.filter (· = n) = if n ∈ ns then [n] else [] := by
  rw [List.filter_eq]
  by_cases hn : n ∈ ns
  · rw [if_pos hn, List.count_eq_one_of_mem h hn, List.replicate_one]
  · rw [if_neg hn, List.count_eq_zero_of_not_mem hn, List.replicate_zero]

/-- A publication offers its event to a live subscriber once, and closes it for what it has against
it. -/
theorem publishMoves_of_wellFormed {hub : Hub} (hwf : hub.subscriptions.WellFormed) {n : Nat}
    {connection : Connection} (h : hub.connections[n]? = some connection) (event : CounterEvent) :
    hub.publishMoves n event =
      if n ∈ hub.liveHandles event.topic then
        .offer event ::
          (connection.session.complaints hub.dropThreshold (hub.stillSubscribed n)).map .close
      else [] := by
  have hnodup : (hub.liveHandles event.topic).Nodup := (hwf.handles_nodup event.topic).filter _
  have hs : hub.session? n = some connection.session := by rw [session?, h, Option.map_some]
  have hlisted (test : Session → Bool) :
      ((hub.liveHandles event.topic).filter (hub.passes test)).filter (· = n) =
        if n ∈ hub.liveHandles event.topic ∧ test connection.session = true then [n] else [] := by
    rw [filter_eq_of_nodup (hnodup.filter _)]
    simp only [List.mem_filter, passes_eq hs]
  have hoffered : (hub.countPublished.takeRecipients event.topic).1.sessions =
      hub.liveHandles event.topic := rfl
  simp only [publishMoves, hoffered, (published_distribute hwf event).report_eq, publicationReport,
    hlisted, filter_eq_of_nodup hnodup, Session.complaints]
  by_cases hn : n ∈ hub.liveHandles event.topic
  · cases hlost : connection.session.overflows hub.dropThreshold with
    | true =>
      have hover := Session.isOver_of_overflows hlost
      simp [hn, hover]
    | false => cases hover : connection.session.isOver <;> simp [hn]
  · simp [hn]

/-! ## The order of the subscribers -/

/-- Two publications differ in the order of their lists and reports at most. -/
structure SameUpToOrder (first second : Delivery × Hub) : Prop where
  recipients : second.1.recipients = first.1.recipients
  delivered : second.1.delivered = first.1.delivered
  dropped : second.1.dropped = first.1.dropped
  forced : second.1.forced.Perm first.1.forced
  inconsistent : second.1.inconsistent.Perm first.1.inconsistent
  stale : second.1.stale.Perm first.1.stale
  handles : ∀ topic, (second.2.subscriptions.handles topic).Perm (first.2.subscriptions.handles topic)
  rest : second.2 = { first.2 with
    subscriptions := second.2.subscriptions
    metrics := second.2.metrics
    journal := second.2.journal }
  counts : ∀ metric, second.2.metrics.count metric = first.2.metrics.count metric
  gauge : second.2.metrics.active = first.2.metrics.active
  journal : second.2.journal.Perm first.2.journal

/-- A publication offers its event to the live subscribers, and touches no other connection. -/
theorem Published.acts {hub later : Hub} {event : CounterEvent} {report : Delivery}
    (h : hub.Published event report later) :
    hub.Acts later fun n => if n ∈ hub.liveHandles event.topic then [.offer event] else [] := by
  intro n
  cases hconnection : hub.connections[n]? with
  | none =>
    rw [Option.map_none, List.getElem?_eq_none_iff, h.length_eq]
    exact List.getElem?_eq_none_iff.mp hconnection
  | some connection =>
    rw [Option.map_some]
    by_cases hn : n ∈ hub.liveHandles event.topic
    · simp only [if_pos hn, Connection.after_cons, Connection.after_nil]
      cases connection.session.standing with
      | room hroom =>
        rw [(h.queued n hn connection hconnection hroom).1, Connection.move_offer_of_hasRoom hroom]
      | full hfull =>
        rw [(h.dropped n hn connection hconnection hfull).1, Connection.move_offer_of_isFull hfull]
      | deaf hdeaf =>
        rw [(h.others n connection hconnection fun _ => hdeaf).1,
          Connection.move_offer_of_not_listens hdeaf]
    · rw [(h.others n connection hconnection fun hmem => absurd hmem hn).1]
      simp only [if_neg hn, Connection.after_nil]

/-- With the same subscribers in another order, a publication differs in the order of what it lists
and reports only. -/
theorem sameUpToOrder_distribute {hub : Hub} (hwf : hub.subscriptions.WellFormed)
    {subscriptions : Subscriptions} (hwf' : subscriptions.WellFormed)
    (horder : ∀ topic, (subscriptions.handles topic).Perm (hub.subscriptions.handles topic))
    (event : CounterEvent) :
    SameUpToOrder (hub.distribute event) ({ hub with subscriptions }.distribute event) := by
  have h := published_distribute hwf event
  have h' : ({ hub with subscriptions } : Hub).Published event
      ({ hub with subscriptions }.distribute event).1 ({ hub with subscriptions }.distribute event).2 :=
    published_distribute hwf' event
  generalize hub.distribute event = first at *
  generalize ({ hub with subscriptions } : Hub).distribute event = second at *
  have hlive : (({ hub with subscriptions } : Hub).liveHandles event.topic).Perm
      (hub.liveHandles event.topic) := (horder event.topic).filter _
  have hstale : (({ hub with subscriptions } : Hub).staleHandles event.topic).Perm
      (hub.staleHandles event.topic) := (horder event.topic).filter _
  have hdelivered : second.1.delivered = first.1.delivered := by
    rw [h'.report_eq, h.report_eq]
    exact hlive.countP_eq _
  have hdropped : second.1.dropped = first.1.dropped := by
    rw [h'.report_eq, h.report_eq]
    exact hlive.countP_eq _
  have hrecipients : second.1.recipients = first.1.recipients := by
    rw [h'.report_eq, h.report_eq]
    exact hlive.length_eq
  have hgone : second.1.stale.Perm first.1.stale := by
    rw [h'.report_eq, h.report_eq]
    exact hstale
  have hinconsistent : second.1.inconsistent.Perm first.1.inconsistent := by
    rw [h'.report_eq, h.report_eq]
    exact hlive.filter _
  have hmissing : second.1.stale.length + second.1.inconsistent.length =
      first.1.stale.length + first.1.inconsistent.length := by
    rw [hgone.length_eq, hinconsistent.length_eq]
  constructor
  case recipients => exact hrecipients
  case delivered => exact hdelivered
  case dropped => exact hdropped
  case forced =>
    rw [h'.report_eq, h.report_eq]
    exact hlive.filter _
  case inconsistent => exact hinconsistent
  case stale => exact hgone
  case handles =>
    intro topic
    rw [h'.handles_eq, h.handles_eq]
    by_cases htopic : event.topic = topic
    · rw [if_pos htopic, if_pos htopic]
      have hkept : ((hub.subscriptions.handles topic).filter fun n =>
          n ∉ second.1.stale ∧ n ∉ second.1.inconsistent) =
          (hub.subscriptions.handles topic).filter fun n =>
            n ∉ first.1.stale ∧ n ∉ first.1.inconsistent :=
        List.filter_congr fun n _ => by simp only [hgone.mem_iff, hinconsistent.mem_iff]
      rw [← hkept]
      exact (horder topic).filter _
    · rw [if_neg htopic, if_neg htopic]
      exact horder topic
  case rest =>
    have hconnections : second.2.connections = first.2.connections := by
      apply List.ext_getElem?
      intro n
      rw [h'.acts n, h.acts n]
      simp only [hlive.mem_iff]
    have htotals := h'.totals
    rw [hconnections, hdelivered, hdropped, hmissing] at htotals
    exact htotals.trans (congrArg (fun base : Hub => { base with
      subscriptions := second.2.subscriptions
      metrics := second.2.metrics
      journal := second.2.journal }) h.totals).symm
  case counts =>
    intro metric
    rw [h'.counts, h.counts, hdropped, hmissing]
  case gauge => exact h'.gauge.trans h.gauge.symm
  case journal =>
    have hsummary : summary event second.1 = summary event first.1 := by
      simp only [summary, hrecipients, hdelivered, hdropped]
    rw [h'.journal, h.journal, hsummary]
    refine ((List.Perm.append_right hub.journal ?_).cons _)
    refine (List.reverse_perm _).trans (List.Perm.trans ?_ (List.reverse_perm _).symm)
    exact (hgone.flatMap_right _).append (hlive.flatMap_right _)

/-- One publication serves every live subscriber according to its own state, leaves all other sessions
as they are, takes those off the topic that are gone or have ended, and counts and reports exactly
this, whatever sessions are subscribed. In which order the subscribers are visited shows in the order
of what is listed and reported only. -/
theorem publication_reads_off_subscribers {hub : Hub} (hwf : hub.subscriptions.WellFormed)
    (event : CounterEvent) :
    hub.Published event (hub.distribute event).1 (hub.distribute event).2 ∧
      ∀ subscriptions : Subscriptions, subscriptions.WellFormed →
        (∀ topic, (subscriptions.handles topic).Perm (hub.subscriptions.handles topic)) →
          SameUpToOrder (hub.distribute event) ({ hub with subscriptions }.distribute event) :=
  ⟨published_distribute hwf event,
    fun _ hwf' horder => sameUpToOrder_distribute hwf hwf' horder event⟩

/-- One subscriber has room, one is full, one drains, one has ended, and two are gone; they are visited
in both directions. -/
theorem publication_reads_off_subscribers_in_both_directions :
    let hub := (Hub.new { StreamPolicy.default with queueCapacity := 1, maxConsecutiveDrops := 1 }).run
      [.join (.random 0) ⟨0⟩, .join (.random 0) ⟨1⟩, .offer 1 ⟨.random 0, 5⟩,
        .join (.random 0) ⟨2⟩, .claim 2 .explicit,
        .join (.random 0) ⟨3⟩, .close 3 .explicit, .subscribe 3 (.random 0),
        .create (.random 0) 1 ⟨4⟩, .subscribe 4 (.random 0), .letGo 4,
        .create (.random 0) 1 ⟨5⟩, .subscribe 5 (.random 0), .letGo 5]
    let reversed : Subscriptions := ⟨[(.random 0, [5, 4, 3, 2, 1, 0])]⟩
    let first := hub.distribute ⟨.random 0, 6⟩
    let second := { hub with subscriptions := reversed }.distribute ⟨.random 0, 6⟩
    hub.subscriptions.WellFormed ∧ reversed.WellFormed ∧
      (∀ topic, (reversed.handles topic).Perm (hub.subscriptions.handles topic)) ∧
      first.1 = { recipients := 4, delivered := 1, dropped := 1, forced := [1], inconsistent := [3],
                  stale := [4, 5] } ∧
      first.2.subscriptions.handles (.random 0) = [0, 1, 2] ∧
      first.2.disagreements = 3 ∧ second.1.stale.Perm [4, 5] := by
  intro hub reversed first second
  have hwf : hub.subscriptions.WellFormed := (enrolled_run _ _).wellFormed
  have hwf' : reversed.WellFormed := ⟨by decide, by decide, by decide⟩
  have hsubs : hub.subscriptions = ⟨[(.random 0, [0, 1, 2, 3, 4, 5])]⟩ := by decide +kernel
  have horder (topic : Topic) : (reversed.handles topic).Perm (hub.subscriptions.handles topic) := by
    rw [hsubs]
    by_cases htopic : Topic.random 0 = topic
    · simp only [Subscriptions.handles, reversed, List.find?, htopic, decide_true]
      decide
    · simp only [Subscriptions.handles, reversed, List.find?, htopic, decide_false]
      decide
  have hreport : first.1 = { recipients := 4, delivered := 1, dropped := 1, forced := [1],
                             inconsistent := [3], stale := [4, 5] } := by
    decide +kernel
  have hnone : hub.disagreements = 0 := by decide +kernel
  -- From here on only what has been found out about the hub is needed, and not how it came about.
  clear_value hub
  obtain ⟨hpublished, hsame⟩ := publication_reads_off_subscribers hwf ⟨.random 0, 6⟩
  have hhandles : first.2.subscriptions.handles (.random 0) =
      (hub.subscriptions.handles (.random 0)).filter fun n =>
        n ∉ first.1.stale ∧ n ∉ first.1.inconsistent :=
    (hpublished.handles_eq (.random 0)).trans (if_pos rfl)
  have hmissing : first.2.disagreements =
      hub.disagreements + (first.1.stale.length + first.1.inconsistent.length) :=
    congrArg Hub.disagreements hpublished.totals
  have hstale : second.1.stale.Perm first.1.stale := (hsame reversed hwf' horder).stale
  rw [hreport, hsubs] at hhandles
  rw [hreport, hnone] at hmissing
  rw [hreport] at hstale
  exact ⟨hwf, hwf', horder, hreport, hhandles.trans (by decide +kernel), hmissing, hstale⟩

end Hub

end LiveCounter
