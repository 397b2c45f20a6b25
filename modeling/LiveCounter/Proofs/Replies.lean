import LiveCounter.Proofs.Grounds
import LiveCounter.Proofs.ReadingDry
import Mathlib.Data.List.DropRight

/-!
# What a session answers to events

A session counts the events that it drops in a row: one that it queues ends the row, and one that is
taken off its outbox does not. Events come to it from publications, and as the first value of its
stream. The publication that makes the row as long as is tolerated closes the session before it is
over, so between operations nobody that can still be closed has dropped as many, and the count stays
far from where it would wrap.
-/

namespace LiveCounter

/-- Whether an event was dropped. -/
def Offer.isDropped : Offer → Bool
  | .dropped _ => true
  | .queued | .inactive => false

/-- How many events have been dropped since the last one that was queued. -/
def dropsInARow (answers : List Offer) : Nat :=
  (answers.rtakeWhile (· ≠ .queued)).countP Offer.isDropped

/-- Nothing has been dropped at first. -/
@[simp] theorem dropsInARow_nil : dropsInARow [] = 0 := rfl

/-- An event that is queued ends the drops in a row. -/
@[simp] theorem dropsInARow_concat_queued (answers : List Offer) :
    dropsInARow (answers ++ [.queued]) = 0 := by
  rw [dropsInARow, List.rtakeWhile_concat_neg _ _ _ (by simp)]
  rfl

/-- An offer to a session that takes nothing any more does not count. -/
@[simp] theorem dropsInARow_concat_inactive (answers : List Offer) :
    dropsInARow (answers ++ [.inactive]) = dropsInARow answers := by
  rw [dropsInARow, List.rtakeWhile_concat_pos _ _ _ (by simp), List.countP_append]
  rfl

/-- An event that is dropped adds to the drops in a row. -/
@[simp] theorem dropsInARow_concat_dropped (answers : List Offer) (consecutive : UInt32) :
    dropsInARow (answers ++ [.dropped consecutive]) = dropsInARow answers + 1 := by
  rw [dropsInARow, List.rtakeWhile_concat_pos _ _ _ (by simp), List.countP_append]
  rfl

namespace Session

/-- A session has counted the events that it has dropped in a row, and until its closing is claimed
these are fewer than are tolerated. -/
structure Throttled (threshold : UInt32) (answers : List Offer) (session : Session) : Prop where
  count : session.consecutiveDrops.toNat = dropsInARow answers
  bound : dropsInARow answers ≤ threshold.toNat
  patient : session.isClaimed = false → dropsInARow answers < threshold.toNat

/-- What becomes of the count when an event is offered: it goes up to the threshold exactly if the
session drops the event and that was one too many. -/
theorem Throttled.offer {threshold : UInt32} {answers : List Offer} {session : Session}
    (h : session.Throttled threshold answers) (hthreshold : 0 < threshold.toNat)
    (event : CounterEvent) :
    (session.offer event).1.consecutiveDrops.toNat =
        dropsInARow (answers ++ [(session.offer event).2]) ∧
      dropsInARow (answers ++ [(session.offer event).2]) ≤ threshold.toNat ∧
      (session.isClaimed = false → (session.overflows threshold = true ↔
        dropsInARow (answers ++ [(session.offer event).2]) = threshold.toNat)) := by
  cases session.standing with
  | room hroom hfull =>
    rw [offer_of_hasRoom hroom, dropsInARow_concat_queued]
    refine ⟨rfl, Nat.zero_le _, fun _ => ?_⟩
    simp only [overflows, hfull, Bool.false_and, Bool.false_eq_true, false_iff]
    exact Nat.ne_of_lt hthreshold
  | full hfull =>
    have hopen : session.stage = .open := by
      rw [isFull, Bool.and_eq_true, listens_iff] at hfull
      exact hfull.1.1
    have hpatient := h.patient (isClaimed_of_open hopen)
    -- The count is below the threshold, so it does not wrap.
    have hcount : session.drop.consecutiveDrops.toNat = dropsInARow answers + 1 := by
      rw [drop, UInt32.toNat_add, h.count]
      exact Nat.mod_eq_of_lt (Nat.lt_of_le_of_lt hpatient threshold.toNat_lt)
    rw [offer_of_isFull hfull, dropsInARow_concat_dropped]
    refine ⟨hcount, hpatient, fun _ => ?_⟩
    rw [overflows, hfull, Bool.true_and, decide_eq_true_eq, UInt32.le_iff_toNat_le, hcount]
    exact ⟨fun hle => Nat.le_antisymm hpatient hle, fun heq => Nat.le_of_eq heq.symm⟩
  | deaf hdeaf _ hfull =>
    rw [offer_of_not_listens hdeaf, dropsInARow_concat_inactive]
    refine ⟨h.count, h.bound, fun hunclaimed => ?_⟩
    simp only [overflows, hfull, Bool.false_and, Bool.false_eq_true, false_iff]
    exact Nat.ne_of_lt (h.patient hunclaimed)

end Session

namespace Connection

variable {connection : Connection} {moves : List Move}

/-- Only offers count as drops. -/
theorem drops_move (connection : Connection) {move : Move} (h : ∀ event, move ≠ .offer event) :
    (connection.move move).session.dropped = connection.session.dropped ∧
      (connection.move move).session.consecutiveDrops = connection.session.consecutiveDrops := by
  cases move with
  | offer event => exact absurd rfl (h event)
  | close cause =>
    simp only [Connection.move, withSession, Session.retired]
    split <;> exact ⟨rfl, rfl⟩
  | claim reason =>
    simp only [Connection.move, withSession]
    split <;> exact ⟨rfl, rfl⟩
  | take | release | refresh | noteWrite | receive | leave | letGo | watch => exact ⟨rfl, rfl⟩
  | write policy now => exact connection.drops_written policy now

/-- The count only changes when an event is offered. -/
theorem consecutiveDrops_after (connection : Connection)
    (h : ∀ move ∈ moves, ∀ event, move ≠ .offer event) :
    (connection.after moves).session.consecutiveDrops = connection.session.consecutiveDrops :=
  after_induction (P := fun later =>
      later.session.consecutiveDrops = connection.session.consecutiveDrops) rfl
    fun move hmem before hbefore => (before.drops_move (h move hmem)).2.trans hbefore

/-- Nothing but an offer makes a session less patient. -/
theorem throttled_after {threshold : UInt32} {answers : List Offer}
    (h : connection.session.Throttled threshold answers)
    (hmoves : ∀ move ∈ moves, ∀ event, move ≠ .offer event) :
    (connection.after moves).session.Throttled threshold answers where
  count := (congrArg UInt32.toNat (connection.consecutiveDrops_after hmoves)).trans h.count
  bound := h.bound
  patient hunclaimed := h.patient (unclaimed_of_after hunclaimed)

end Connection

namespace Hub

/-! ## Answers -/

/-- The answer of session `n` to the first value of its stream, if an operation opens the stream and
gives it one. -/
def greetingOf (n : Nat) (hub : Hub) : Operation → List Offer
  | .connect topic id _ (some value) =>
    match hub.join topic id with
    | (.ok m, joined) => if m = n then [(joined.offer n ⟨topic, value⟩).1] else []
    | (.error _, _) => []
  | _ => []

/-- The answers of session `n` to the events that an operation offers to it, the first value of its
stream included. -/
def repliesOf (n : Nat) (hub : Hub) (operation : Operation) : List Offer :=
  greetingOf n hub operation ++ answersOf n hub operation

/-- A session that has just been made has room. -/
theorem hasRoom_newcomer (hub : Hub) (topic : Topic) (id : SessionId) :
    (hub.newcomer topic id).session.hasRoom = true := by
  have hroom : 0 < max hub.policy.queueCapacity 1 :=
    Nat.lt_of_lt_of_le Nat.zero_lt_one (Nat.le_max_right _ _)
  simp only [Session.hasRoom, Bool.and_eq_true, decide_eq_true_eq]
  exact ⟨rfl, hroom⟩

/-- A session that is admitted queues the first value of its stream. -/
theorem greetingOf_eq (n : Nat) (hub : Hub) (topic : Topic) (id : SessionId) (transport : Transport)
    (value : Int64) : greetingOf n hub (.connect topic id transport (some value)) =
      if (hub.join topic id).1 = .ok n then [.queued] else [] := by
  rw [greetingOf]
  cases hub.joinCase topic id with
  | stopping _ hanswer | full _ _ hanswer | panicked _ _ hanswer =>
    generalize hub.join topic id = result at hanswer
    obtain ⟨_, joined⟩ := result
    subst hanswer
    rfl
  | admitted _ _ hanswer hhub =>
    generalize hub.join topic id = result at hanswer hhub
    obtain ⟨_, joined⟩ := result
    subst hanswer
    simp only [Except.ok.injEq]
    by_cases hn : hub.connections.length = n
    · subst hn
      have hs : joined.session? hub.connections.length = some (hub.newcomer topic id).session := by
        rw [session?, hhub.connections]
        exact (session?_entered hub topic id _).trans (if_pos rfl)
      rw [if_pos rfl, if_pos rfl, offer, hs]
      simp only [Session.offer_of_hasRoom (hasRoom_newcomer hub topic id)]
    · rw [if_neg hn, if_neg hn]

/-- A first value is queued by a session that comes with the operation, if there is one. -/
theorem greetingOf_cases (n : Nat) (hub : Hub) (operation : Operation) :
    greetingOf n hub operation = [] ∨ greetingOf n hub operation = [.queued] ∧
      hub.connections[n]? = none ∧ (hub.step operation).connections[n]? ≠ none := by
  cases operation with
  | connect topic id transport initial =>
    cases initial with
    | none => exact Or.inl rfl
    | some value =>
      rw [greetingOf_eq]
      split
      · next hok =>
        have hadded := connections_connect (connect_of_ok hok transport.client (some value)).1
        refine Or.inr ⟨rfl, ?_, ?_⟩
        · rw [eq_length_of_join hok, List.getElem?_eq_none_iff]
        · rw [show (hub.step (.connect topic id transport (some value))).connections[n]? = _ from hadded]
          simp
      · exact Or.inl rfl
  | _ => exact Or.inl rfl

/-- The first value of a stream is not dropped. -/
theorem dropsInARow_greetingOf (n : Nat) (hub : Hub) (operation : Operation) :
    dropsInARow (greetingOf n hub operation) = 0 := by
  rcases greetingOf_cases n hub operation with hnone | ⟨hqueued, -⟩
  · rw [hnone]
    rfl
  · rw [hqueued]
    rfl

/-- A session that is not there is not greeted. -/
theorem greetingOf_of_none {hub : Hub} {n : Nat} {operation : Operation}
    (h : (hub.step operation).connections[n]? = none) : greetingOf n hub operation = [] := by
  rcases greetingOf_cases n hub operation with hnone | ⟨-, -, hadded⟩
  · exact hnone
  · exact absurd h hadded

/-- A session answers to the offers among its moves. -/
theorem repliesOf_of_connection {hub : Hub} {n : Nat} {connection : Connection}
    (h : hub.connections[n]? = some connection) (operation : Operation) :
    repliesOf n hub operation = connection.trace Connection.answers (hub.moves n operation) := by
  rcases greetingOf_cases n hub operation with hnone | ⟨-, hfresh, -⟩
  · rw [repliesOf, hnone, List.nil_append, answersOf, h]
  · rw [h] at hfresh
    cases hfresh

/-- A session that is not there yet answers to its first value only. -/
theorem repliesOf_of_none {hub : Hub} {n : Nat} (h : hub.connections[n]? = none)
    (operation : Operation) : repliesOf n hub operation = greetingOf n hub operation := by
  rw [repliesOf, answersOf_of_none h, List.append_nil]

/-- A session that is not there afterwards answers to nothing. -/
theorem repliesOf_eq_nil {hub : Hub} {n : Nat} {operation : Operation}
    (h : (hub.step operation).connections[n]? = none) : repliesOf n hub operation = [] := by
  rw [repliesOf_of_none (none_of_step h), greetingOf_of_none h]

/-- A session that has just been added has dropped nothing. -/
theorem consecutiveDrops_of_arrives {hub : Hub} {operation : Operation} {connection : Connection}
    (h : hub.Arrives operation connection) : connection.session.consecutiveDrops = 0 := by
  cases h with
  | joined | created => rfl
  | accepted topic id transport initial => exact hub.consecutiveDrops_greeted topic id initial

/-! ## Publications -/

section Publishing

variable {hub : Hub} {n : Nat} {connection : Connection}

/-- It takes at least one drop to close a session. -/
theorem dropThreshold_pos (hub : Hub) : 0 < hub.dropThreshold.toNat :=
  UInt32.le_iff_toNat_le.mp (one_le_max_one hub.policy.maxConsecutiveDrops)

/-- Where a publication leaves as many drops in a row as are tolerated, it closes the session. -/
theorem throttled_publish (hwf : hub.subscriptions.WellFormed)
    (h : hub.connections[n]? = some connection) {answers : List Offer}
    (hthrottled : connection.session.Throttled hub.dropThreshold answers) (event : CounterEvent) :
    (connection.after (hub.publishMoves n event)).session.Throttled hub.dropThreshold
      (answers ++ connection.trace Connection.answers (hub.publishMoves n event)) := by
  obtain ⟨hcount, hbound, hoverflows⟩ := hthrottled.offer hub.dropThreshold_pos event
  rw [trace_publishMoves hwf h, publishMoves_of_wellFormed hwf h]
  by_cases hn : n ∈ hub.liveHandles event.topic
  · rw [if_pos hn, if_pos hn, Connection.after_cons]
    refine ⟨?_, hbound, fun hunclaimed => Nat.lt_of_le_of_ne hbound fun hmany => ?_⟩
    · rw [(connection.move (.offer event)).consecutiveDrops_after (by simp)]
      exact hcount
    · have hstill := Connection.unclaimed_of_after hunclaimed
      have hlost := (hoverflows ((connection.session.sameCourse_offer event).isClaimed ▸ hstill)).mpr
        hmany
      have hcauses :
          connection.session.complaints hub.dropThreshold (hub.stillSubscribed n) ≠ [] := by
        simp [Session.complaints, hlost]
      have hclaimed := (connection.move (.offer event)).isClaimed_after_closes hcauses
      cases hclaimed.symm.trans hunclaimed
  · rw [if_neg hn, if_neg hn, List.append_nil]
    exact hthrottled

/-- An operation that is neither a publication nor an offer to a session does not offer it anything. -/
theorem offers_eq_false {operation : Operation} (hpublish : ∀ event, operation ≠ .publish event)
    (hoffer : ∀ event, operation ≠ .offer n event) : operation.offers n = false := by
  cases operation with
  | publish event => exact absurd rfl (hpublish event)
  | offer target event =>
    have hne : target ≠ n := fun heq => hoffer event (by rw [heq])
    simpa [Operation.offers] using hne
  | _ => rfl

/-- A session goes on to count its drops in an operation that is no offer from outside. -/
theorem throttled_step (hwf : hub.subscriptions.WellFormed)
    (h : hub.connections[n]? = some connection) {answers : List Offer}
    (hthrottled : connection.session.Throttled hub.dropThreshold answers) {operation : Operation}
    (hoffer : ∀ event, operation ≠ .offer n event) :
    (connection.after (hub.moves n operation)).session.Throttled hub.dropThreshold
      (answers ++ connection.trace Connection.answers (hub.moves n operation)) := by
  by_cases hpublish : ∃ event, operation = .publish event
  · obtain ⟨event, rfl⟩ := hpublish
    exact throttled_publish hwf h hthrottled event
  · have hoffers := offers_eq_false (fun event heq => hpublish ⟨event, heq⟩) hoffer
    have hquiet : ∀ move ∈ hub.moves n operation, ∀ event, move ≠ .offer event :=
      fun move hmem => not_offer_of_mem hoffers hmem
    rw [connection.trace_answers_of_not_offers hquiet, List.append_nil]
    exact Connection.throttled_after hthrottled hquiet

end Publishing

/-- No operation offers a session more than one event. -/
theorem length_repliesOf_le_one {hub : Hub} (hwf : hub.subscriptions.WellFormed) (n : Nat)
    (operation : Operation) : (repliesOf n hub operation).length ≤ 1 := by
  cases hconnection : hub.connections[n]? with
  | none =>
    rw [repliesOf_of_none hconnection]
    rcases greetingOf_cases n hub operation with hnone | ⟨hqueued, -⟩
    · rw [hnone]
      exact Nat.zero_le _
    · rw [hqueued]
      exact Nat.le_refl _
  | some connection =>
    rw [repliesOf_of_connection hconnection]
    cases hoffers : operation.offers n with
    | false =>
      rw [connection.trace_answers_of_not_offers fun move hmem => not_offer_of_mem hoffers hmem]
      exact Nat.zero_le _
    | true =>
      cases operation with
      | publish event =>
        show (connection.trace Connection.answers (hub.publishMoves n event)).length ≤ 1
        rw [trace_publishMoves hwf hconnection]
        split <;> simp
      | offer target event =>
        obtain rfl : target = n := by simpa [Operation.offers] using hoffers
        simp [moves, only, Connection.trace, Connection.answers]
      | _ => cases hoffers

/-! ## Runs -/

/-- Along a run in which events come to a session from publications and as the first value of its
stream only, it counts its drops in a row as they happen, and is closed before they are too many. -/
theorem throttled_run {policy : StreamPolicy} {operations : List Operation} {n : Nat}
    (hoffers : ∀ event, .offer n event ∉ operations) {connection : Connection}
    (h : ((Hub.new policy).run operations).connections[n]? = some connection) :
    connection.session.Throttled policy.clamped.maxConsecutiveDrops
      (history (repliesOf n) (Hub.new policy) operations) := by
  refine history_run
    (P := fun replies connection =>
      connection.session.Throttled policy.clamped.maxConsecutiveDrops replies)
    (fun _ _ => repliesOf_eq_nil) (fun earlier operation later _ hn harrives => ?_)
    (fun earlier operation before hbegins hfound hbefore => ?_) h
  · have hnone := consecutiveDrops_of_arrives harrives
    have hpos := ((Hub.new policy).run earlier).dropThreshold_pos
    rw [dropThreshold_run] at hpos
    rw [repliesOf_of_none (List.getElem?_eq_none_iff.mpr (Nat.le_of_eq hn.symm))]
    refine ⟨?_, ?_, fun _ => ?_⟩ <;> rw [dropsInARow_greetingOf]
    · rw [hnone]
      rfl
    · exact Nat.zero_le _
    · exact hpos
  · rw [repliesOf_of_connection hfound]
    rw [← dropThreshold_run policy earlier] at hbefore ⊢
    refine throttled_step (enrolled_run policy earlier).wellFormed hfound hbefore ?_
    rintro event rfl
    exact hoffers event (hbegins.subset (by simp))

end Hub

end LiveCounter
