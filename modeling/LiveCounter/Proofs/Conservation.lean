import LiveCounter.Proofs.Ledger
import LiveCounter.Proofs.Replies
import LiveCounter.Proofs.Slots
import Mathlib.Algebra.BigOperators.Group.Finset.Piecewise

/-!
# Nothing is counted twice or lost

Each session counts the events that it drops, each publication reports what became of its event, and
the hub adds the reports up. Where events come from publications and as first values only, and all
sessions are admitted and closed by the hub, these are counts of the same answers: summed by session
or by publication they come to the same.
-/

namespace LiveCounter

/-- The sum of a figure over some reports. -/
def Delivery.total (figure : Delivery → Nat) (reports : List Delivery) : Nat :=
  (reports.map figure).foldr (· + ·) 0

/-- A figure of reports in turn is the sum. -/
theorem Delivery.total_append (figure : Delivery → Nat) (first second : List Delivery) :
    Delivery.total figure (first ++ second) =
      Delivery.total figure first + Delivery.total figure second := by
  induction first with
  | nil => exact (Nat.zero_add _).symm
  | cons report rest ih =>
    simp only [Delivery.total, List.cons_append, List.map_cons, List.foldr_cons] at ih ⊢
    rw [ih, Nat.add_assoc]

namespace Session

/-- What a session answers, and whether it counts a drop, can be seen from its state. -/
theorem offer_counts (session : Session) (event : CounterEvent) :
    (decide ((session.offer event).2 = .queued) = session.hasRoom) ∧
      (session.offer event).2.isDropped = session.isFull ∧
      (session.offer event).1.dropped = session.dropped + if session.isFull then 1 else 0 := by
  cases session.standing with
  | room hroom hfull => simp [offer_of_hasRoom hroom, hroom, hfull, Offer.isDropped, queue]
  | full hfull hroom => simp [offer_of_isFull hfull, hroom, hfull, Offer.isDropped, drop]
  | deaf hdeaf hroom hfull => simp [offer_of_not_listens hdeaf, hroom, hfull, Offer.isDropped]

end Session

namespace Connection

/-- A session counts the events that it answers to have dropped. -/
theorem dropped_after (connection : Connection) (moves : List Move) :
    (connection.after moves).session.dropped =
      connection.session.dropped + (connection.trace answers moves).countP Offer.isDropped := by
  induction moves generalizing connection with
  | nil => rfl
  | cons move rest ih =>
    have hfirst : (connection.move move).session.dropped =
        connection.session.dropped + (connection.answers move).countP Offer.isDropped := by
      by_cases hoffer : ∃ event, move = .offer event
      · obtain ⟨event, rfl⟩ := hoffer
        obtain ⟨-, hdropped, hcount⟩ := connection.session.offer_counts event
        rw [answers, List.countP_singleton, hdropped]
        exact hcount
      · have hnone : connection.answers move = [] := by
          cases move with
          | offer event => exact absurd ⟨event, rfl⟩ hoffer
          | _ => rfl
        rw [hnone]
        exact (connection.drops_move fun event heq => hoffer ⟨event, heq⟩).1
    rw [after_cons, ih, hfirst, trace, List.countP_append, Nat.add_assoc]

end Connection

namespace Hub

/-! ## By session -/

/-- A session that is added has dropped nothing. -/
theorem dropped_of_arrives {hub : Hub} {operation : Operation} {connection : Connection}
    (h : hub.Arrives operation connection) : connection.session.dropped = 0 := by
  cases h with
  | joined | created => rfl
  | accepted topic id transport initial =>
    cases initial with
    | none => rfl
    | some value =>
      have hroom := hub.hasRoom_newcomer topic id
      have hcount := ((hub.newcomer topic id).session.offer_counts ⟨topic, value⟩).2.2
      rw [Session.isFull_of_hasRoom hroom] at hcount
      exact hcount

/-- What a session has counted as dropped are the events that it has dropped. -/
theorem dropped_run {policy : StreamPolicy} {operations : List Operation} {n : Nat}
    {connection : Connection} (h : ((Hub.new policy).run operations).connections[n]? = some connection) :
    connection.session.dropped =
      (history (repliesOf n) (Hub.new policy) operations).countP Offer.isDropped := by
  refine history_run
    (P := fun replies connection => connection.session.dropped = replies.countP Offer.isDropped)
    (fun _ _ => repliesOf_eq_nil) (fun earlier operation later _ hn harrives => ?_)
    (fun earlier operation before _ hfound hbefore => ?_) h
  · rw [dropped_of_arrives harrives,
      repliesOf_of_none (List.getElem?_eq_none_iff.mpr (Nat.le_of_eq hn.symm))]
    rcases greetingOf_cases n ((Hub.new policy).run earlier) operation with hnone | ⟨hqueued, -⟩
    · rw [hnone]
      rfl
    · rw [hqueued]
      rfl
  · rw [repliesOf_of_connection hfound, List.countP_append, ← hbefore]
    exact before.dropped_after _

/-! ## By publication -/

/-- The report of a publication. -/
def reportsOf (hub : Hub) : Operation → List Delivery
  | .publish event => [(hub.publish event).1]
  | _ => []

/-- The first value that an operation gives to a session that it admits. -/
def firstValues (hub : Hub) : Operation → List Int64
  | .connect topic id transport (some value) =>
    (hub.admitted (.connect topic id transport (some value))).map fun _ => value
  | _ => []

/-- Entries other than publications leave the totals of publications alone. -/
theorem Posts.totals_eq {hub later : Hub} (h : hub.Posts later) :
    later.published = hub.published ∧ later.delivered = hub.delivered ∧
      later.dropped = hub.dropped :=
  h.induction (P := fun ledger => ledger.published = hub.published ∧
      ledger.delivered = hub.delivered ∧ ledger.dropped = hub.dropped)
    (fun _ entry hledger => by cases entry <;> exact hledger) ⟨rfl, rfl, rfl⟩

/-- The totals of publications are the sums over the reports. -/
structure Totals (reports : List Delivery) (hub : Hub) : Prop where
  published : hub.published = reports.length
  delivered : hub.delivered = Delivery.total (·.delivered) reports
  dropped : hub.dropped = Delivery.total (·.dropped) reports

/-- Every operation adds its report to the totals. -/
theorem Totals.step {reports : List Delivery} {hub : Hub} (h : hub.Totals reports)
    (hwf : hub.subscriptions.WellFormed) (operation : Operation) :
    (hub.step operation).Totals (reports ++ hub.reportsOf operation) := by
  by_cases hpublish : ∃ event, operation = .publish event
  · obtain ⟨event, rfl⟩ := hpublish
    obtain ⟨published, hledger, hposts⟩ := posts_publish hwf event
    obtain ⟨hpublished, hdelivered, hdropped⟩ := hposts.totals_eq
    refine ⟨?_, ?_, ?_⟩
    · rw [Hub.step, hpublished, List.length_append, ← h.published]
      exact congrArg Ledger.published hledger
    · rw [Hub.step, hdelivered, Delivery.total_append, ← h.delivered]
      exact congrArg Ledger.delivered hledger
    · rw [Hub.step, hdropped, Delivery.total_append, ← h.dropped]
      exact congrArg Ledger.dropped hledger
  · have hposts := hub.posts_step fun event heq => hpublish ⟨event, heq⟩
    obtain ⟨hpublished, hdelivered, hdropped⟩ := hposts.totals_eq
    have hnone : hub.reportsOf operation = [] := by
      cases operation with
      | publish event => exact absurd ⟨event, rfl⟩ hpublish
      | _ => rfl
    rw [hnone, List.append_nil]
    exact ⟨hpublished.trans h.published, hdelivered.trans h.delivered, hdropped.trans h.dropped⟩

/-- The totals of a run are the sums over its reports. -/
theorem totals_run (policy : StreamPolicy) (operations : List Operation) :
    ((Hub.new policy).run operations).Totals (history reportsOf (Hub.new policy) operations) := by
  induction operations using List.reverseRecOn with
  | nil => exact ⟨rfl, rfl, rfl⟩
  | append_singleton operations operation ih =>
    rw [run_append, history_append]
    simp only [history, List.append_nil]
    exact ih.step (enrolled_run policy operations).wellFormed operation

/-! ## By session and by publication -/

/-- Live handles are those of sessions that are there. -/
theorem lt_length_of_mem_liveHandles {hub : Hub} {topic : Topic} {n : Nat}
    (h : n ∈ hub.liveHandles topic) : n < hub.connections.length := by
  have halive := (List.mem_filter.mp h).2
  by_contra hlength
  rw [isAlive, List.getElem?_eq_none_iff.mpr (Nat.le_of_not_lt hlength)] at halive
  cases halive

/-- The answers to a publication that have some mark, session by session, are as many as the live
subscribers of the kind that answers so. -/
theorem sum_replies_publish {hub : Hub} (hwf : hub.subscriptions.WellFormed) (event : CounterEvent)
    {size : Nat} (hsize : hub.connections.length ≤ size) {mark : Offer → Bool} {kind : Session → Bool}
    (hkind : ∀ session : Session, mark (session.offer event).2 = kind session) :
    ∑ n ∈ Finset.range size, (repliesOf n hub (.publish event)).countP mark =
      (hub.liveHandles event.topic).countP (hub.passes kind) := by
  have hnodup : ((hub.liveHandles event.topic).filter (hub.passes kind)).Nodup :=
    ((hwf.handles_nodup event.topic).filter _).filter _
  have hone (n : Nat) : (repliesOf n hub (.publish event)).countP mark =
      if n ∈ ((hub.liveHandles event.topic).filter (hub.passes kind)).toFinset then 1 else 0 := by
    simp only [List.mem_toFinset, List.mem_filter]
    cases hconnection : hub.connections[n]? with
    | none =>
      have hnot : n ∉ hub.liveHandles event.topic := fun hn =>
        Nat.not_lt_of_le (List.getElem?_eq_none_iff.mp hconnection) (lt_length_of_mem_liveHandles hn)
      rw [repliesOf_of_none hconnection, if_neg fun hboth => hnot hboth.1]
      rfl
    | some connection =>
      have hs : hub.session? n = some connection.session := by rw [session?, hconnection]; rfl
      rw [repliesOf_of_connection hconnection]
      show (connection.trace Connection.answers (hub.publishMoves n event)).countP mark = _
      rw [trace_publishMoves hwf hconnection, Hub.passes_eq hs]
      by_cases hn : n ∈ hub.liveHandles event.topic
      · simp [hn, hkind]
      · simp [hn]
  have hrange : ((hub.liveHandles event.topic).filter (hub.passes kind)).toFinset ⊆
      Finset.range size := fun n hn => by
    rw [List.mem_toFinset, List.mem_filter] at hn
    exact Finset.mem_range.mpr (Nat.lt_of_lt_of_le (lt_length_of_mem_liveHandles hn.1) hsize)
  simp only [hone]
  rw [Finset.sum_ite_mem, Finset.inter_eq_right.mpr hrange, ← Finset.card_eq_sum_ones,
    List.toFinset_card_of_nodup hnodup, List.countP_eq_length_filter]

/-- Apart from publications, events reach sessions as their first values, and are queued. -/
theorem sum_replies_greeting (hub : Hub) {operation : Operation} {size : Nat}
    (hsize : (hub.step operation).connections.length ≤ size)
    (hpublish : ∀ event, operation ≠ .publish event) (hoffer : ∀ n event, operation ≠ .offer n event)
    (mark : Offer → Bool) :
    ∑ n ∈ Finset.range size, (repliesOf n hub operation).countP mark =
      if mark .queued then (hub.firstValues operation).length else 0 := by
  have hgreeting (n : Nat) : repliesOf n hub operation = greetingOf n hub operation := by
    have hoffers : operation.offers n = false := offers_eq_false hpublish (hoffer n)
    cases hconnection : hub.connections[n]? with
    | none => exact repliesOf_of_none hconnection operation
    | some connection =>
      have hnone := connection.trace_answers_of_not_offers
        fun move (hmem : move ∈ hub.moves n operation) => not_offer_of_mem hoffers hmem
      rw [repliesOf, answersOf, hconnection]
      exact (congrArg _ hnone).trans (List.append_nil _)
  simp only [hgreeting]
  by_cases hgives : ∃ topic id transport value, operation = .connect topic id transport (some value)
  · obtain ⟨topic, id, transport, value, rfl⟩ := hgives
    simp only [greetingOf_eq, firstValues, admitted, List.length_map]
    cases hanswer : (hub.join topic id).1 with
    | error fault =>
      rw [connect_of_error hanswer]
      simp [Except.toOption]
    | ok m =>
      have hconnect := (connect_of_ok hanswer transport.client (some value)).1
      have hm : m ∈ Finset.range size := Finset.mem_range.mpr <| Nat.lt_of_lt_of_le
        (List.getElem?_eq_some_iff.mp (connections_connect hconnect)).1 hsize
      have hone (n : Nat) : (if (Except.ok m : Except Denial Nat) = .ok n then [Offer.queued]
          else []).countP mark = if n = m then if mark .queued then 1 else 0 else 0 := by
        simp only [Except.ok.injEq, eq_comm (a := m)]
        split
        · exact List.countP_singleton
        · rfl
      simp only [hone, Finset.sum_ite_eq', if_pos hm, hconnect]
      rfl
  · have hnone (n : Nat) : greetingOf n hub operation = [] := by
      cases operation with
      | connect topic id transport initial =>
        cases initial with
        | none => rfl
        | some value => exact absurd ⟨topic, id, transport, value, rfl⟩ hgives
      | _ => rfl
    have hgiven : hub.firstValues operation = [] := by
      cases operation with
      | connect topic id transport initial =>
        cases initial with
        | none => rfl
        | some value => exact absurd ⟨topic, id, transport, value, rfl⟩ hgives
      | _ => rfl
    simp [hnone, hgiven]

/-- In one step, what the sessions answer is what is reported and what is given to newcomers. -/
theorem sum_replies_step {hub : Hub} (hwf : hub.subscriptions.WellFormed) {operation : Operation}
    (hoffer : ∀ n event, operation ≠ .offer n event) {size : Nat}
    (hsize : (hub.step operation).connections.length ≤ size) :
    ∑ n ∈ Finset.range size, (repliesOf n hub operation).countP (· = .queued) =
        Delivery.total (·.delivered) (hub.reportsOf operation) +
          (hub.firstValues operation).length ∧
      ∑ n ∈ Finset.range size, (repliesOf n hub operation).countP Offer.isDropped =
        Delivery.total (·.dropped) (hub.reportsOf operation) := by
  by_cases hpublish : ∃ event, operation = .publish event
  · obtain ⟨event, rfl⟩ := hpublish
    have hbefore := Nat.le_trans (hub.length_le_step (.publish event)) hsize
    have hreport := (published_distribute hwf event).report_eq
    rw [sum_replies_publish hwf event hbefore (fun session => (session.offer_counts event).1),
      sum_replies_publish hwf event hbefore (fun session => (session.offer_counts event).2.1)]
    exact ⟨(congrArg Delivery.delivered hreport).symm, (congrArg Delivery.dropped hreport).symm⟩
  · have hquiet := fun event heq => hpublish ⟨event, heq⟩
    have hnone : hub.reportsOf operation = [] := by
      cases operation with
      | publish event => exact absurd rfl (hquiet event)
      | _ => rfl
    rw [sum_replies_greeting hub hsize hquiet hoffer, sum_replies_greeting hub hsize hquiet hoffer,
      hnone]
    exact ⟨(Nat.zero_add _).symm, rfl⟩

/-- Who is admitted later has not answered anything before. -/
theorem sum_history_concat (policy : StreamPolicy) (operations : List Operation)
    (operation : Operation) (mark : Offer → Bool) :
    let hub := (Hub.new policy).run operations
    let size := (hub.step operation).connections.length
    ∑ n ∈ Finset.range size,
        (history (repliesOf n) (Hub.new policy) (operations ++ [operation])).countP mark =
      ∑ n ∈ Finset.range hub.connections.length,
          (history (repliesOf n) (Hub.new policy) operations).countP mark +
        ∑ n ∈ Finset.range size, (repliesOf n hub operation).countP mark := by
  intro hub size
  have hearlier : ∑ n ∈ Finset.range hub.connections.length,
      (history (repliesOf n) (Hub.new policy) operations).countP mark =
        ∑ n ∈ Finset.range size, (history (repliesOf n) (Hub.new policy) operations).countP mark := by
    refine Finset.sum_subset (Finset.range_mono (hub.length_le_step operation)) fun n _ hn => ?_
    have hlate : hub.connections[n]? = none :=
      List.getElem?_eq_none_iff.mpr (Nat.le_of_not_lt (mt Finset.mem_range.mpr hn))
    rw [history_eq_nil (fun _ _ => repliesOf_eq_nil) hlate]
    rfl
  rw [hearlier, ← Finset.sum_add_distrib]
  refine Finset.sum_congr rfl fun n _ => ?_
  rw [history_append, List.countP_append]
  simp only [history, List.append_nil]
  rfl

/-- Along a run in which events come from publications and as first values only, what the sessions
answer is what is reported and what is given to newcomers. -/
theorem sum_replies_run (policy : StreamPolicy) {operations : List Operation}
    (hoffers : ∀ n event, .offer n event ∉ operations) :
    let size := ((Hub.new policy).run operations).connections.length
    let replies n := history (repliesOf n) (Hub.new policy) operations
    ∑ n ∈ Finset.range size, (replies n).countP (· = .queued) =
        Delivery.total (·.delivered) (history reportsOf (Hub.new policy) operations) +
          (history firstValues (Hub.new policy) operations).length ∧
      ∑ n ∈ Finset.range size, (replies n).countP Offer.isDropped =
        Delivery.total (·.dropped) (history reportsOf (Hub.new policy) operations) := by
  induction operations using List.reverseRecOn with
  | nil => exact ⟨rfl, rfl⟩
  | append_singleton operations operation ih =>
    obtain ⟨hqueued, hdropped⟩ := ih fun n event hmem =>
      hoffers n event (List.mem_append_left _ hmem)
    have hlast : ∀ n event, operation ≠ .offer n event := fun n event heq =>
      hoffers n event (by simp [heq])
    obtain ⟨hqueues, hdrops⟩ :=
      sum_replies_step (enrolled_run policy operations).wellFormed hlast (Nat.le_refl _)
    rw [run_append, history_append reportsOf, history_append firstValues]
    simp only [history, List.append_nil, Delivery.total_append, List.length_append]
    refine ⟨(sum_history_concat policy operations operation _).trans ?_,
      (sum_history_concat policy operations operation _).trans ?_⟩
    · rw [hqueued, hqueues]
      omega
    · rw [hdropped, hdrops]

/-! ## What the records add -/

/-- In a publication every recipient queues the event or drops it. -/
theorem Consistent.recipients_publish {hub : Hub} (h : hub.Consistent) (event : CounterEvent) :
    (hub.publish event).1.recipients =
      (hub.publish event).1.delivered + (hub.publish event).1.dropped := by
  have hreport : (hub.publish event).1 = hub.publicationReport event.topic :=
    (published_distribute h.wellFormed event).report_eq
  rw [hreport]
  show (hub.liveHandles event.topic).length = _
  rw [List.length_eq_countP_add_countP (hub.passes Session.hasRoom)]
  refine congrArg (_ + ·) (List.countP_congr fun n hn => ?_)
  obtain ⟨session, hs, hopen, -⟩ := (h.subscribed event.topic n).mp
    ((Subscriptions.contains_iff_mem ..).mpr (List.mem_filter.mp hn).1)
  have hlistens : session.listens = true := by
    cases h.settled n session hs with
    | live _ _ _ _ released => exact (Session.listens_iff session).mpr ⟨hopen, released⟩
    | ended stage => cases hopen.symm.trans stage
  rw [Hub.passes_eq hs, Hub.passes_eq hs]
  cases session.standing with
  | room hroom hfull => simp [hroom, hfull]
  | full hfull hroom => simp [hroom, hfull]
  | deaf hdeaf => cases hdeaf.symm.trans hlistens

/-- Only open sessions are torn down, so who is forced to close is among those that have closed. -/
theorem Consistent.forced_le_change {hub later : Hub} (h : hub.Consistent)
    (hle : hub.forced ≤ hub.closed) (hchange : hub.Change later) : later.forced ≤ later.closed := by
  cases hchange with
  | report hreports =>
    obtain ⟨_, _, -, rfl⟩ := hreports
    exact hle
  | tally | modify | enter => exact hle
  | retire n cause =>
    by_cases hclaimed : ∀ session, hub.session? n = some session → session.isClaimed = true
    · rwa [retire_of_isClaimed hclaimed]
    · simp only [not_forall, Bool.not_eq_true] at hclaimed
      obtain ⟨session, hs, hunclaimed⟩ := hclaimed
      obtain ⟨_, _, -, heq⟩ := (retire_of_unclaimed hs hunclaimed cause.reason cause.failure).2
      have hopen : session.stage = .open := (h.settled n session hs).open_of_unclaimed hunclaimed
      rw [heq]
      show (if cause.reason.isForced then hub.forced + 1 else hub.forced) ≤
        if session.stage = .open then hub.closed + 1 else hub.closed
      rw [if_pos hopen]
      split <;> omega

/-- No more sessions are closed by force than are closed, whatever changes. -/
theorem Consistent.forced_le_path {hub later : Hub} (h : hub.Consistent)
    (hle : hub.forced ≤ hub.closed) (hpath : hub.Path later) : later.forced ≤ later.closed := by
  induction hpath with
  | refl => exact hle
  | tail hearlier hchange ih => exact (h.path hearlier).forced_le_change ih hchange

/-- So it is in every run through the hub. -/
theorem forced_le_run (policy : StreamPolicy) {operations : List Operation}
    (hregular : ∀ operation ∈ operations, operation.isRegular = true) :
    ((Hub.new policy).run operations).forced ≤ ((Hub.new policy).run operations).closed := by
  induction operations using List.reverseRecOn with
  | nil => exact Nat.le_refl _
  | append_singleton operations operation ih =>
    have hearlier := fun other hother => hregular other (List.mem_append_left _ hother)
    have hbefore := (follows_run policy hearlier).consistent
    rw [run_append, run_cons, run_nil]
    cases hpanics : ((Hub.new policy).run operations).panics operation with
    | true =>
      rw [(step_of_panics hpanics).1]
      exact ih hearlier
    | false =>
      refine (hbefore.outset operation).forced_le_path ?_
        (hbefore.path_step (hregular operation (by simp)) hpanics)
      cases operation <;> exact ih hearlier

/-- In such a run each recipient has been delivered an event or has dropped it. -/
theorem recipients_run (policy : StreamPolicy) {operations : List Operation}
    (hregular : ∀ operation ∈ operations, operation.isRegular = true) :
    Delivery.total (·.recipients) (history reportsOf (Hub.new policy) operations) =
      Delivery.total (·.delivered) (history reportsOf (Hub.new policy) operations) +
        Delivery.total (·.dropped) (history reportsOf (Hub.new policy) operations) := by
  induction operations using List.reverseRecOn with
  | nil => rfl
  | append_singleton operations operation ih =>
    have hearlier := fun other hother => hregular other (List.mem_append_left _ hother)
    have hbefore := (follows_run policy hearlier).consistent
    have hlast : Delivery.total (·.recipients) (reportsOf ((Hub.new policy).run operations) operation) =
        Delivery.total (·.delivered) (reportsOf ((Hub.new policy).run operations) operation) +
          Delivery.total (·.dropped) (reportsOf ((Hub.new policy).run operations) operation) := by
      cases operation with
      | publish event => exact hbefore.recipients_publish event
      | _ => rfl
    rw [history_append]
    simp only [history, List.append_nil, Delivery.total_append, ih hearlier, hlast]
    omega

/-- Whether an operation is a publication. -/
def Operation.isPublication : Operation → Bool
  | .publish _ => true
  | _ => false

/-- There is one report for each publication. -/
theorem length_reports (hub : Hub) (operations : List Operation) :
    (history reportsOf hub operations).length = operations.countP Operation.isPublication := by
  induction operations generalizing hub with
  | nil => rfl
  | cons operation rest ih =>
    rw [history, List.length_append, ih, List.countP_cons, Nat.add_comm]
    cases operation <;> rfl

/-- Where sessions are admitted and closed by the hub alone, and events come to them from
publications and as first values only, nothing is counted twice or lost. There are as many messages
as publications. What was dropped is what the sessions have counted as dropped, and what was delivered
or given as a first value is what they have queued. Each publication delivers or drops its event once
for each recipient. Forced closures are among the closures. And the metrics say of all this what the
statistics say; only the gauge of active sessions leaves out the slots of calls that panicked. -/
theorem statistics_are_conserved (policy : StreamPolicy) {operations : List Operation}
    (hregular : ∀ operation ∈ operations, operation.isRegular = true)
    (hoffers : ∀ n event, .offer n event ∉ operations) :
    let hub := (Hub.new policy).run operations
    let sessions := Finset.range hub.connections.length
    let lost := lostSlots policy operations
    (history admitted (Hub.new policy) operations = List.range hub.connections.length ∧
      hub.stats.totalMessages = operations.countP Operation.isPublication ∧
      hub.stats.droppedMessages = ∑ n ∈ sessions, (hub.session? n).elim 0 (·.dropped) ∧
      hub.stats.deliveredMessages + (history firstValues (Hub.new policy) operations).length =
        ∑ n ∈ sessions, (history (repliesOf n) (Hub.new policy) operations).countP (· = .queued) ∧
      hub.stats.deliveredMessages + hub.stats.droppedMessages =
        Delivery.total (·.recipients) (history reportsOf (Hub.new policy) operations) ∧
      hub.stats.forcedClosures ≤ hub.stats.sessionsClosed) ∧
    hub.metrics.count .sessionsOpened = hub.stats.sessionsOpened ∧
    (CloseReason.all.map fun reason => hub.metrics.count (.sessionsClosed reason)).foldr (· + ·) 0 =
      hub.stats.sessionsClosed ∧
    (CloseReason.all.map fun reason => hub.metrics.count (.forcedClosures reason)).foldr (· + ·) 0 =
      hub.stats.forcedClosures ∧
    hub.metrics.count .eventsPublished = hub.stats.totalMessages ∧
    hub.metrics.count .broadcastDrops = hub.stats.droppedMessages ∧
    hub.metrics.count .disagreements = hub.stats.disagreements ∧
    hub.metrics.active.getD 0 + lost = hub.stats.activeConnections ∧
    (policy.queueCapacity ≤ Outbox.maxCapacity → lost = 0) := by
  intro hub sessions lost
  have hconsistent : hub.Consistent := (follows_run policy hregular).consistent
  have hbalanced : hub.ledger.Balanced := balanced_run policy operations
  obtain ⟨hpublished, hdelivered, hdropped⟩ := totals_run policy operations
  obtain ⟨hqueues, hdrops⟩ := sum_replies_run policy hoffers
  have hsessions : ∑ n ∈ sessions, (hub.session? n).elim 0 (·.dropped) = hub.dropped := by
    rw [show hub.dropped = _ from hdropped, ← hdrops]
    refine Finset.sum_congr rfl fun n hn => ?_
    obtain ⟨connection, hfound⟩ : ∃ connection, hub.connections[n]? = some connection :=
      ⟨_, List.getElem?_eq_getElem (Finset.mem_range.mp hn)⟩
    rw [session?, hfound]
    exact dropped_run hfound
  have hgauge : hub.metrics.active.getD 0 + hub.closed = hub.opened := hbalanced.gauge
  have hopened := hconsistent.opened_eq
  have hactive : hub.active = hub.table.length + lost := (booked_run policy operations).active_eq
  refine ⟨⟨admitted_run policy hregular, hpublished.trans (length_reports _ _), hsessions.symm, ?_,
    ?_, forced_le_run policy hregular⟩, hbalanced.opened, hbalanced.closed, hbalanced.forced,
    hbalanced.published, hbalanced.dropped, hbalanced.disagreements, ?_,
    fun hfits => lostSlots_of_fits hfits operations⟩
  · exact (congrArg (· + _) hdelivered).trans hqueues.symm
  · rw [recipients_run policy hregular, ← hdelivered, ← hdropped]
    rfl
  · show hub.metrics.active.getD 0 + (lost : Int) = (hub.active : Int)
    omega

/-- Two sessions with little room, one of them closed for its drops and one because of its topic, and a
third one that is not admitted. -/
theorem statistics_are_conserved_after_drops :
    let operations := [.connect (.random 0) ⟨0⟩ (.channel 1) (some 1), .join (.random 0) ⟨1⟩,
      .join (.random 0) ⟨2⟩, .publish ⟨.random 0, 2⟩, .publish ⟨.random 0, 3⟩, .take 1,
      .publish ⟨.random 0, 4⟩, .clearTopic (.random 0)]
    let hub := (Hub.new { StreamPolicy.default with
      maxConnections := 2, queueCapacity := 1, maxConsecutiveDrops := 2 }).run operations
    (hub.stats.totalMessages = 3 ∧ hub.stats.droppedMessages = 3 ∧ hub.stats.deliveredMessages = 2 ∧
      hub.stats.forcedClosures = 1 ∧ hub.stats.sessionsClosed = 2) ∧
    hub.metrics.count .broadcastDrops = 3 ∧ hub.metrics.active.getD 0 = 0 ∧
    ∑ n ∈ Finset.range hub.connections.length, (hub.session? n).elim 0 (·.dropped) = 3 ∧
    ∑ n ∈ Finset.range hub.connections.length,
      (history (repliesOf n) (Hub.new { StreamPolicy.default with
        maxConnections := 2, queueCapacity := 1, maxConsecutiveDrops := 2 }) operations).countP
          (· = .queued) = 3 := by
  intro operations hub
  obtain ⟨⟨-, hmessages, hdropped, hqueued, -, -⟩, -, -, -, -, hdrops, -, hgauge, hfits⟩ :=
    statistics_are_conserved { StreamPolicy.default with
        maxConnections := 2, queueCapacity := 1, maxConsecutiveDrops := 2 }
      (show ∀ operation ∈ operations, operation.isRegular = true by decide) (by simp [operations])
  have htotals : hub.stats.droppedMessages = 3 ∧ hub.stats.deliveredMessages = 2 ∧
      hub.stats.forcedClosures = 1 ∧ hub.stats.sessionsClosed = 2 ∧
      hub.stats.activeConnections = 0 := by decide +kernel
  have hfirst : (history firstValues (Hub.new { StreamPolicy.default with
      maxConnections := 2, queueCapacity := 1, maxConsecutiveDrops := 2 }) operations).length = 1 := by
    decide +kernel
  obtain ⟨hlost, hgiven, hforced, hclosed, hactive⟩ := htotals
  refine ⟨⟨hmessages, hlost, hgiven, hforced, hclosed⟩, hdrops.trans hlost, ?_,
    hdropped.symm.trans hlost, ?_⟩
  · rw [hactive, hfits (by decide)] at hgauge
    simpa using hgauge
  · rw [← hqueued, hgiven, hfirst]

/-- A slot that is taken for a stream whose outbox cannot be made is not on the gauge. -/
theorem statistics_are_conserved_not_after_panic :
    ¬ ∀ (policy : StreamPolicy) (operations : List Operation),
      (∀ operation ∈ operations, operation.isRegular = true) →
      (∀ n event, .offer n event ∉ operations) →
      let hub := (Hub.new policy).run operations
      hub.metrics.active.getD 0 = hub.stats.activeConnections := by
  intro hsame
  have hlost := hsame { StreamPolicy.default with queueCapacity := 18446744073709551615 }
    [.join (.random 0) ⟨0⟩] (by decide) (by simp)
  exact absurd hlost (by decide +kernel)

end Hub

end LiveCounter
