import LiveCounter.Proofs.Backlog
import LiveCounter.Proofs.Replies

/-!
# Backpressure

A session is closed for backpressure exactly by the publication that makes its drops in a row as many as
are tolerated, unless a caller says that this is why it closes it. So a session that loses nothing fills
its outbox first, then drops events, and is closed when as many events have come as there is room for
and as are tolerated.
-/

namespace LiveCounter

/-! ## Closings -/

namespace Session

/-- The session has been closed because it had dropped too many events. -/
structure CutOff (session : Session) : Prop where
  stage : session.stage = .terminated
  reason : session.reason = some .backpressure
  failure : session.failure = some .backpressureDrop

/-- A session that was cut off is claimed. -/
theorem CutOff.isClaimed {session : Session} (h : session.CutOff) : session.isClaimed = true := by
  rw [Session.isClaimed, h.stage]

/-- A session that nobody has claimed is cut off when it is retired for backpressure. -/
theorem IsFresh.cutOff {session : Session} (h : session.IsFresh) :
    (session.retired .backpressure (some .backpressureDrop)).CutOff := by
  have hclosed := h.retired (.error .backpressureDrop)
  exact ⟨stage_retired h.unclaimed _ _, hclosed.reason, hclosed.failure⟩

end Session

namespace Connection

/-- A session that was cut off stays so. -/
theorem cutOff_move {connection : Connection} (h : connection.session.CutOff) (move : Move) :
    (connection.move move).session.CutOff := by
  cases hends : endsCourse move with
  | false =>
    have hsame := connection.sameCourse_move hends
    exact ⟨hsame.stage.trans h.stage, hsame.reason.trans h.reason, hsame.failure.trans h.failure⟩
  | true =>
    cases move with
    | close cause =>
      simp only [Connection.move, withSession, Session.retired_of_isClaimed h.isClaimed]
      exact h
    | claim reason =>
      simp only [Connection.move, withSession, h.isClaimed, if_true]
      exact h
    | release => exact ⟨h.stage, h.reason, h.failure⟩
    | _ => cases hends

/-- Who has been closed for dropping too many events stays closed for that. -/
theorem cutOff_after {connection : Connection} (h : connection.session.CutOff) (moves : List Move) :
    (connection.after moves).session.CutOff :=
  after_induction (P := fun later => later.session.CutOff) h fun move _ _ hbefore =>
    cutOff_move hbefore move

/-- No writer makes up that its session has dropped too many events. -/
theorem failure_of_writerExit {connection : Connection} {policy : StreamPolicy} {now : Nat}
    {cause : Cause} (h : cause ∈ (connection.writerExit? policy now).elim [] (·.causes)) :
    cause.failure ≠ some .backpressureDrop := by
  cases hexit : connection.writerExit? policy now with
  | none => simp [hexit] at h
  | some exit =>
    rw [hexit, Option.elim_some] at h
    cases exit with
    | orderly | panicked =>
      obtain rfl := List.mem_singleton.mp h
      simp [Cause.failure]
    | failed fault => rcases List.mem_pair.mp h with rfl | rfl <;> simp [Cause.failure]

end Connection

namespace Hub

section Publishing

variable {hub : Hub} {n : Nat} {connection : Connection}

/-- A publication closes a session that is not being closed exactly if it makes its drops in a row as
many as the threshold says. -/
theorem publish_cuts_off (hwf : hub.subscriptions.WellFormed)
    (h : hub.connections[n]? = some connection) (hfresh : connection.session.IsFresh)
    {answers : List Offer} (hthrottled : connection.session.Throttled hub.dropThreshold answers)
    (event : CounterEvent) :
    if dropsInARow (answers ++ connection.trace Connection.answers (hub.publishMoves n event)) =
        hub.dropThreshold.toNat
      then (connection.after (hub.publishMoves n event)).session.CutOff
      else (connection.after (hub.publishMoves n event)).session.stage =
        connection.session.stage := by
  have hunclaimed := hfresh.unclaimed
  have hoverflows := (hthrottled.offer hub.dropThreshold_pos event).2.2 hunclaimed
  have hsame := connection.session.sameCourse_offer event
  rw [trace_publishMoves hwf h, publishMoves_of_wellFormed hwf h,
    Session.complaints_of_unclaimed hunclaimed]
  by_cases hn : n ∈ hub.liveHandles event.topic
  · rw [if_pos hn, if_pos hn]
    by_cases hlost : connection.session.overflows hub.dropThreshold = true
    · rw [if_pos hlost, if_pos (hoverflows.mp hlost)]
      exact (hfresh.sameCourse hsame).cutOff
    · rw [if_neg hlost, if_neg fun hmany => hlost (hoverflows.mpr hmany)]
      exact hsame.stage
  · rw [if_neg hn, if_neg hn, List.append_nil, if_neg (Nat.ne_of_lt (hthrottled.patient hunclaimed))]
    rfl

end Publishing

/-- Outside publications a session is closed for dropping too many events only by a caller who says
so. -/
theorem eq_closeFor_of_cause {hub : Hub} {n : Nat} {operation : Operation}
    (hpublish : ∀ event, operation ≠ .publish event) {move : Move}
    (hmove : move ∈ hub.moves n operation) {cause : Cause} (hcause : move.cause? = some cause)
    (hfailure : cause.failure = some .backpressureDrop) :
    operation = .closeFor n .backpressureDrop := by
  cases operation with
  | publish event => exact absurd rfl (hpublish event)
  | closeFor target fault =>
    obtain ⟨rfl, hmem⟩ := mem_only hmove
    rw [List.mem_singleton.mp hmem] at hcause
    obtain rfl := Option.some.inj hcause
    rw [Option.some.inj hfailure]
  | clearTopic topic =>
    obtain ⟨_, -, hmem⟩ := List.mem_flatMap.mp hmove
    split at hmem
    · rw [List.mem_singleton.mp hmem] at hcause
      obtain rfl := Option.some.inj hcause
      cases hfailure
    · cases hmem
  | sweep =>
    obtain ⟨_, -, rfl⟩ := List.mem_map.mp hmove
    obtain rfl := Option.some.inj hcause
    cases hfailure
  | closeLive target reason =>
    obtain ⟨-, hmem⟩ := mem_only hmove
    split at hmem
    · rw [List.mem_singleton.mp hmem] at hcause
      obtain rfl := Option.some.inj hcause
      cases hfailure
    · cases hmem
  | pollWatch target =>
    obtain ⟨-, hmem⟩ := mem_only hmove
    unfold watchMoves Connection.watchMoves at hmem
    split at hmem
    · cases hmem
    · rcases List.mem_cons.mp hmem with rfl | hmem
      · cases hcause
      · split at hmem
        · cases hmem
        · cases hmem
        · rw [List.mem_singleton.mp hmem] at hcause
          obtain rfl := Option.some.inj hcause
          cases hfailure
  | pollWriter target =>
    obtain ⟨-, hmem⟩ := mem_only hmove
    unfold writerMoves Connection.writerMoves at hmem
    split at hmem
    · cases hmem
    · rcases List.mem_cons.mp hmem with rfl | hmem
      · cases hcause
      · obtain ⟨asked, hasked, rfl⟩ := List.mem_map.mp hmem
        obtain rfl := Option.some.inj hcause
        exact absurd hfailure (Connection.failure_of_writerExit hasked)
  | close | claim =>
    rw [List.mem_singleton.mp (mem_only hmove).2] at hcause
    obtain rfl := Option.some.inj hcause
    cases hfailure
  | offer | take | release | refresh | noteWrite | receive | loseClient | letGo =>
    rw [List.mem_singleton.mp (mem_only hmove).2] at hcause
    cases hcause
  | join | connect | pass | report | countHit | create | subscribe | unsubscribe => cases hmove

/-- Besides a publication, only a caller who says so closes a session for having dropped events. -/
theorem eq_closeFor_of_failure {hub : Hub} {n : Nat} {connection : Connection}
    (hfresh : connection.session.IsFresh) {operation : Operation}
    (hpublish : ∀ event, operation ≠ .publish event)
    (hfailure : (connection.after (hub.moves n operation)).session.failure = some .backpressureDrop) :
    operation = .closeFor n .backpressureDrop := by
  have hclosed := Connection.closedBy_after hfresh.closedBy (hub.moves n operation)
  rw [hclosed.failure, List.nil_append] at hfailure
  obtain ⟨cause, hcause, hfault⟩ := Option.bind_eq_some_iff.mp hfailure
  obtain ⟨move, hmove, hasks⟩ := List.mem_filterMap.mp (List.mem_of_head? hcause)
  exact eq_closeFor_of_cause hpublish hmove hasks hfault

end Hub

/-! ## Outboxes -/

namespace Session

/-- The session holds no more than the capacity of the hub, and as long as it is open it has room for as
much. -/
structure Contained (capacity : Nat) (session : Session) : Prop where
  items : session.outbox.items.length ≤ capacity
  room : session.stage = .open → session.outbox.capacity = capacity

end Session

namespace Connection

/-- A session keeps to its capacity with every move. -/
theorem contained_move {connection : Connection} {capacity : Nat}
    (h : connection.session.Contained capacity) (move : Move) :
    (connection.move move).session.Contained capacity where
  items := by
    by_cases hoffer : ∃ event, move = .offer event
    · obtain ⟨event, rfl⟩ := hoffer
      by_cases hopen : connection.session.stage = .open
      · have hbound := connection.length_items_move (.offer event)
        have hitems := h.items
        rw [h.room hopen] at hbound
        omega
      · -- A session that is not open takes nothing.
        have hsame : connection.move (.offer event) = connection :=
          move_offer_of_not_listens (by simp [Session.listens, Session.isOpen, hopen]) event
        rw [hsame]
        exact h.items
    · have hnot (event : CounterEvent) : move ≠ .offer event := fun heq => hoffer ⟨event, heq⟩
      exact Nat.le_trans (connection.length_items_move_of_not_offer hnot) h.items
  room hopen := by
    rw [capacity_move]
    have hafter : (connection.after [move]).session.stage = .open := hopen
    exact h.room (open_of_after hafter)

end Connection

namespace Hub

/-- A session that has just been added keeps to its capacity. -/
theorem contained_of_arrives {hub : Hub} {operation : Operation} {connection : Connection}
    (h : hub.Arrives operation connection) :
    connection.session.Contained (max hub.policy.queueCapacity 1) := by
  cases h with
  | joined => exact ⟨Nat.zero_le _, fun _ => rfl⟩
  | created => exact ⟨Nat.zero_le _, fun hopen => by cases hopen⟩
  | accepted topic id transport initial =>
    have hempty : (hub.welcomed topic id transport.client none).session.Contained
        (max hub.policy.queueCapacity 1) := ⟨Nat.zero_le _, fun _ => rfl⟩
    cases initial with
    | none => exact hempty
    | some value => exact Connection.contained_move hempty (.offer ⟨topic, value⟩)

/-- In every run no outbox holds more than the capacity of the hub. -/
theorem contained_run (policy : StreamPolicy) (operations : List Operation) :
    ∀ connection ∈ ((Hub.new policy).run operations).connections,
      connection.session.Contained policy.clamped.queueCapacity := by
  have hlasting : Lasting (Hub.new policy).policy fun _ connection =>
      connection.session.Contained policy.clamped.queueCapacity :=
    lasting_of_move fun _ _ move h => Connection.contained_move h move
  refine hlasting.run (fun _ _ _ _ h => h) (fun hub operation connection hpolicy harrives => ?_)
    (by simp [Hub.new]) operations
  have hcontained := contained_of_arrives harrives
  rwa [hpolicy, show (Hub.new policy).policy = policy.clamped from rfl,
    policy.max_queueCapacity_clamped] at hcontained

end Hub

namespace Session

/-- How a session stands to which so many events have been offered, if nothing has been taken off its
outbox and it has been closed by publications at most: it has not opened, or it holds as many of them
as there is room for and has dropped the others, or it has been closed for that. -/
inductive Crowded (capacity limit offered : Nat) (session : Session) : Prop
  | opening (stage : session.stage = .opening)
  | filling (stage : session.stage = .open) (released : session.outbox.released = false)
      (room : session.outbox.capacity = capacity)
      (items : session.outbox.items.length = min offered capacity)
      (drops : session.consecutiveDrops.toNat = offered - capacity)
      (few : offered < capacity + limit)
  | cutOff (h : session.CutOff) (many : capacity + limit ≤ offered)

end Session

namespace Hub

/-- The operation, if it is not a publication, and takes something off the outbox of session `n`,
releases it, or claims the session. -/
def disturbances (n : Nat) (hub : Hub) : Operation → List Operation
  | .publish _ => []
  | operation =>
    match hub.session? n, (hub.step operation).session? n with
    | some before, some after =>
      if after.outbox = before.outbox ∧ after.isClaimed = before.isClaimed then [] else [operation]
    | _, _ => []

section Crowding

variable {hub : Hub} {n : Nat} {connection : Connection} {capacity offered : Nat}

/-- What an undisturbed operation finds and leaves. -/
theorem eq_of_disturbances_eq_nil {operation : Operation}
    (hpublish : ∀ event, operation ≠ .publish event) (h : hub.connections[n]? = some connection)
    (hnone : disturbances n hub operation = []) :
    (connection.after (hub.moves n operation)).session.outbox = connection.session.outbox ∧
      (connection.after (hub.moves n operation)).session.isClaimed =
        connection.session.isClaimed := by
  have hbefore : hub.session? n = some connection.session := by rw [session?, h, Option.map_some]
  have hafter : (hub.step operation).session? n =
      some (connection.after (hub.moves n operation)).session := by
    rw [session?, connections_step h, Option.map_some]
  unfold disturbances at hnone
  split at hnone
  · next event => exact absurd rfl (hpublish event)
  · simp only [hbefore, hafter] at hnone
    split at hnone
    · assumption
    · cases hnone

/-- An event that comes to a session that loses none is queued or dropped, and that is one drop too many
when as many events have come as there is room for and as are tolerated. -/
theorem crowded_offer {threshold : UInt32} (hthreshold : 0 < threshold.toNat)
    (stage : connection.session.stage = .open) (released : connection.session.outbox.released = false)
    (room : connection.session.outbox.capacity = capacity)
    (items : connection.session.outbox.items.length = min offered capacity)
    (drops : connection.session.consecutiveDrops.toNat = offered - capacity)
    (few : offered < capacity + threshold.toNat) (event : CounterEvent) :
    if connection.session.overflows threshold then offered + 1 = capacity + threshold.toNat
    else (connection.move (.offer event)).session.Crowded capacity threshold.toNat (offered + 1) := by
  have hlistens : connection.session.listens = true := (Session.listens_iff _).mpr ⟨stage, released⟩
  cases connection.session.standing with
  | deaf hdeaf =>
    rw [hlistens] at hdeaf
    cases hdeaf
  | room hroom hfull =>
    have hlost : connection.session.overflows threshold = false := by
      rw [Session.overflows, hfull, Bool.false_and]
    have hlt : offered < capacity := by
      have hfree := hroom
      rw [Session.hasRoom, hlistens, Bool.true_and, decide_eq_true_eq, Outbox.length, items,
        room] at hfree
      omega
    simp only [hlost, Bool.false_eq_true, if_false, Connection.move_offer_of_hasRoom hroom]
    refine .filling stage released room ?_ ?_ (by omega)
    · simp only [Connection.withSession, Session.queue, List.length_append, List.length_singleton]
      omega
    · exact (Nat.sub_eq_zero_of_le hlt).symm
  | full hfull =>
    have hle : capacity ≤ offered := by
      have htaken := hfull
      rw [Session.isFull, hlistens, Bool.true_and, decide_eq_true_eq, Outbox.length, items,
        room] at htaken
      omega
    -- The count is below the threshold, so it does not wrap.
    have hcount : connection.session.drop.consecutiveDrops.toNat = offered + 1 - capacity := by
      rw [Session.drop, UInt32.toNat_add, drops, UInt32.toNat_one, Nat.mod_eq_of_lt]
      · omega
      · have := threshold.toNat_lt
        omega
    have hlost : connection.session.overflows threshold = true ↔
        threshold.toNat ≤ offered + 1 - capacity := by
      rw [Session.overflows, hfull, Bool.true_and, decide_eq_true_eq, UInt32.le_iff_toNat_le, hcount]
    split
    · next hover =>
      have hmany := hlost.mp hover
      omega
    · next hover =>
      have hfew : ¬ threshold.toNat ≤ offered + 1 - capacity := fun hmany => hover (hlost.mpr hmany)
      rw [Connection.move_offer_of_isFull hfull]
      have hsame : connection.session.drop.outbox.items.length = min (offered + 1) capacity :=
        items.trans (by omega)
      exact .filling stage released room hsame hcount (by omega)

/-- An event that is offered to a session that loses none is queued or dropped, and if that was one too
many, it is closed. -/
theorem crowded_publish (hwf : hub.subscriptions.WellFormed)
    (h : hub.connections[n]? = some connection) (hfresh : connection.session.isClaimed = false →
      connection.session.IsFresh)
    (hcrowded : connection.session.Crowded capacity hub.dropThreshold.toNat offered)
    (event : CounterEvent) :
    (connection.after (hub.publishMoves n event)).session.Crowded capacity hub.dropThreshold.toNat
      (offered + (connection.trace Connection.answers (hub.publishMoves n event)).length) := by
  have hsame := connection.session.sameCourse_offer event
  cases hcrowded with
  | cutOff hcut many =>
    exact .cutOff (Connection.cutOff_after hcut _) (Nat.le_trans many (Nat.le_add_right _ _))
  | opening stage =>
    have hunclaimed : connection.session.isClaimed = false := by simp [Session.isClaimed, stage]
    have hdeaf : connection.session.listens = false := by
      simp [Session.listens, Session.isOpen, stage]
    have hlost : connection.session.overflows hub.dropThreshold = false := by
      simp [Session.overflows, Session.isFull, hdeaf]
    rw [publishMoves_of_wellFormed hwf h, Session.complaints_of_unclaimed hunclaimed, hlost]
    refine .opening ?_
    split
    · exact hsame.stage.trans stage
    · exact stage
  | filling stage released room items drops few =>
    have hunclaimed := Session.isClaimed_of_open stage
    have hlistens : connection.session.listens = true := (Session.listens_iff _).mpr ⟨stage, released⟩
    rw [trace_publishMoves hwf h, publishMoves_of_wellFormed hwf h,
      Session.complaints_of_unclaimed hunclaimed]
    by_cases hn : n ∈ hub.liveHandles event.topic
    · rw [if_pos hn, if_pos hn]
      have hnext := crowded_offer hub.dropThreshold_pos stage released room items drops few event
      split at hnext
      · next hlost =>
        rw [if_pos hlost]
        exact .cutOff ((hfresh hunclaimed).sameCourse hsame).cutOff (Nat.le_of_eq hnext.symm)
      · next hlost =>
        rw [if_neg hlost]
        exact hnext
    · rw [if_neg hn, if_neg hn]
      exact .filling stage released room items drops few

/-- What does not disturb a session leaves it as crowded as it is. -/
theorem crowded_undisturbed {operation : Operation}
    (hpublish : ∀ event, operation ≠ .publish event) (hoffer : ∀ event, operation ≠ .offer n event)
    (h : hub.connections[n]? = some connection) (hnone : disturbances n hub operation = [])
    {limit : Nat} (hcrowded : connection.session.Crowded capacity limit offered) :
    (connection.after (hub.moves n operation)).session.Crowded capacity limit
      (offered + (connection.trace Connection.answers (hub.moves n operation)).length) := by
  have hquiet : ∀ move ∈ hub.moves n operation, ∀ event, move ≠ .offer event := fun move hmem =>
    not_offer_of_mem (offers_eq_false hpublish hoffer) hmem
  obtain ⟨houtbox, hclaimed⟩ := eq_of_disturbances_eq_nil hpublish h hnone
  rw [connection.trace_answers_of_not_offers hquiet, List.length_nil, Nat.add_zero]
  have hstage (hunclaimed : connection.session.isClaimed = false) :
      (connection.after (hub.moves n operation)).session.stage = connection.session.stage := by
    rcases connection.stage_after (hub.moves n operation) with hsame | hnow
    · exact hsame
    · cases (hclaimed.symm.trans hnow).symm.trans hunclaimed
  cases hcrowded with
  | opening stage => exact .opening ((hstage (by simp [Session.isClaimed, stage])).trans stage)
  | filling stage released room items drops few =>
    have hdrops := connection.consecutiveDrops_after hquiet
    refine .filling ((hstage (Session.isClaimed_of_open stage)).trans stage) ?_ ?_ ?_ ?_ few
    · rw [houtbox, released]
    · rw [houtbox, room]
    · rw [houtbox, items]
    · rw [hdrops, drops]
  | cutOff hcut many => exact .cutOff (Connection.cutOff_after hcut _) many

/-- A session that has just been added has been offered its first value, or nothing. -/
theorem crowded_of_arrives {operation : Operation} (h : hub.Arrives operation connection)
    {limit : Nat} (hlimit : 0 < limit) :
    connection.session.Crowded (max hub.policy.queueCapacity 1) limit
      (greetingOf hub.connections.length hub operation).length := by
  have hroom : 1 ≤ max hub.policy.queueCapacity 1 := Nat.le_max_right _ _
  have hempty (topic : Topic) (id : SessionId) :
      (hub.newcomer topic id).session.Crowded (max hub.policy.queueCapacity 1) limit 0 :=
    .filling rfl rfl rfl (Nat.zero_min _).symm (Nat.zero_sub _).symm (by omega)
  cases h with
  | created => exact .opening rfl
  | joined topic id => exact hempty topic id
  | accepted topic id transport initial hanswer =>
    cases initial with
    | none => exact hempty topic id
    | some value =>
      have hqueued := Session.offer_of_hasRoom (hasRoom_newcomer hub topic id) ⟨topic, value⟩
      rw [greetingOf_eq, if_pos (ok_join_of_connect hanswer)]
      simp only [welcomed, Session.greeted, hqueued]
      exact .filling rfl rfl rfl (Nat.min_eq_left hroom).symm (Nat.sub_eq_zero_of_le hroom).symm
        (by simp only [List.length_singleton]; omega)

end Crowding

/-- As long as nothing is taken off the outbox of a session and nobody else closes it, it fills up, and
is closed when it has dropped too many events. -/
theorem crowded_run {policy : StreamPolicy} {operations : List Operation} {n : Nat}
    (hoffers : ∀ event, .offer n event ∉ operations)
    (hnone : history (disturbances n) (Hub.new policy) operations = []) {connection : Connection}
    (h : ((Hub.new policy).run operations).connections[n]? = some connection) :
    connection.session.Crowded policy.clamped.queueCapacity policy.clamped.maxConsecutiveDrops.toNat
      (history (repliesOf n) (Hub.new policy) operations).length := by
  refine history_run
    (P := fun replies connection => connection.session.Crowded policy.clamped.queueCapacity
      policy.clamped.maxConsecutiveDrops.toNat replies.length)
    (fun _ _ => repliesOf_eq_nil) (fun earlier operation later _ hn harrives => ?_)
    (fun earlier operation before hbegins hfound hbefore => ?_) h
  · have hpos := ((Hub.new policy).run earlier).dropThreshold_pos
    rw [dropThreshold_run] at hpos
    have hcrowded := crowded_of_arrives harrives hpos
    rw [policy_run, show (Hub.new policy).policy = policy.clamped from rfl,
      policy.max_queueCapacity_clamped, ← hn] at hcrowded
    rwa [repliesOf_of_none (List.getElem?_eq_none_iff.mpr (Nat.le_of_eq hn.symm))]
  · have hmember : operation ∈ operations := hbegins.subset (by simp)
    rw [repliesOf_of_connection hfound, List.length_append]
    by_cases hpublish : ∃ event, operation = .publish event
    · obtain ⟨event, rfl⟩ := hpublish
      have hs : ((Hub.new policy).run earlier).session? n = some before.session := by
        rw [session?, hfound, Option.map_some]
      rw [← dropThreshold_run policy earlier] at hbefore ⊢
      exact crowded_publish (enrolled_run policy earlier).wellFormed hfound (isFresh_run hs) hbefore
        event
    · refine crowded_undisturbed (fun event heq => hpublish ⟨event, heq⟩) ?_ hfound ?_ hbefore
      · rintro event rfl
        exact hoffers event hmember
      · obtain ⟨rest, rfl⟩ := hbegins
        rw [history_append, List.append_eq_nil_iff, history_append, List.append_eq_nil_iff] at hnone
        simpa [history] using hnone.1.2

/-- Backpressure is exact. In a run in which events come to session `n` from publications and as the
first value of its stream only, whatever else happens to it, the session has counted the events that it
has dropped since it last queued one, so many have been dropped as are tolerated at most, and fewer
until its closing is claimed; and it holds no more than the capacity of the hub. No operation offers it
more than one event, the next publication closes it exactly if it makes its drops in a row as many as
are tolerated, and otherwise it is closed for that only by a caller who says so. If nothing has been
taken off its outbox and nobody else has closed it, it is open until as many events have been offered to
it as there is room for and as are tolerated, and then it is closed. -/
theorem backpressure_closes_exactly_at_limit (policy : StreamPolicy) (operations : List Operation)
    (n : Nat) (hoffers : ∀ event, .offer n event ∉ operations) (session : Session)
    (hs : ((Hub.new policy).run operations).session? n = some session) :
    let hub := (Hub.new policy).run operations
    let capacity := max policy.queueCapacity 1
    let limit := (max policy.maxConsecutiveDrops 1).toNat
    let replies := history (repliesOf n) (Hub.new policy) operations
    (session.consecutiveDrops.toNat = dropsInARow replies ∧ dropsInARow replies ≤ limit ∧
      (session.isClaimed = false → dropsInARow replies < limit)) ∧
    session.outbox.items.length ≤ capacity ∧
    (∀ operation, (repliesOf n hub operation).length ≤ 1) ∧
    (session.isClaimed = false →
      (∀ event, ∃ later, (hub.step (.publish event)).session? n = some later ∧
        (dropsInARow (replies ++ repliesOf n hub (.publish event)) = limit → later.CutOff) ∧
        (dropsInARow (replies ++ repliesOf n hub (.publish event)) ≠ limit →
          later.stage = session.stage)) ∧
      ∀ operation later, (∀ event, operation ≠ .publish event) →
        (hub.step operation).session? n = some later →
        later.failure = some .backpressureDrop → operation = .closeFor n .backpressureDrop) ∧
    (session.stage ≠ .opening → history (disturbances n) (Hub.new policy) operations = [] →
      (replies.length < capacity + limit →
        session.stage = .open ∧ session.outbox.items.length = min replies.length capacity) ∧
      (capacity + limit ≤ replies.length → session.CutOff)) := by
  intro hub capacity limit replies
  obtain ⟨connection, hconnection, rfl⟩ := connection_of_session? hs
  have hwf : hub.subscriptions.WellFormed := (enrolled_run policy operations).wellFormed
  have hthreshold : hub.dropThreshold = policy.clamped.maxConsecutiveDrops :=
    dropThreshold_run policy operations
  have hthrottled := throttled_run hoffers hconnection
  refine ⟨⟨hthrottled.count, hthrottled.bound, hthrottled.patient⟩,
    (contained_run policy operations connection (List.mem_of_getElem? hconnection)).items,
    length_repliesOf_le_one hwf n, fun hunclaimed => ?closings, fun hopened hnone => ?crowded⟩
  case closings =>
    have hfresh := isFresh_run hs hunclaimed
    refine ⟨fun event => ?_, fun operation later hpublish hlater hfailure => ?_⟩
    · have hcuts := publish_cuts_off hwf hconnection hfresh (hthreshold ▸ hthrottled) event
      rw [hthreshold] at hcuts
      refine ⟨_, by rw [session?, connections_step hconnection, Option.map_some], ?_⟩
      rw [repliesOf_of_connection hconnection]
      exact ⟨fun hmany => (if_pos hmany).mp hcuts, fun hfew => (if_neg hfew).mp hcuts⟩
    · rw [session?, connections_step hconnection, Option.map_some] at hlater
      obtain rfl := Option.some.inj hlater
      exact eq_closeFor_of_failure hfresh hpublish hfailure
  case crowded =>
    cases crowded_run hoffers hnone hconnection with
    | opening stage => exact absurd stage hopened
    | filling stage _ _ items _ few =>
      exact ⟨fun _ => ⟨stage, items⟩, fun many => absurd few (Nat.not_lt_of_le many)⟩
    | cutOff hcut many => exact ⟨fun few => absurd few (Nat.not_lt_of_le many), fun _ => hcut⟩

/-- With room for two events and three tolerated drops, a session whose writer never runs is open after
four events, of which the first is the first value of its stream, and the fifth closes it. -/
theorem backpressure_closes_exactly_at_limit_of_five_events :
    let policy := { StreamPolicy.default with queueCapacity := 2, maxConsecutiveDrops := 3 }
    let earlier := [.connect (.random 0) ⟨0⟩ (.channel 1) (some 1), .publish ⟨.random 0, 2⟩,
      .publish ⟨.random 0, 3⟩, .publish ⟨.random 0, 4⟩]
    let hub := (Hub.new policy).run earlier
    (∃ session, hub.session? 0 = some session ∧ session.stage = .open ∧
      session.consecutiveDrops = 2) ∧
    ∃ later, (hub.step (.publish ⟨.random 0, 5⟩)).session? 0 = some later ∧ later.CutOff := by
  intro policy earlier hub
  have hoffers : ∀ event, .offer 0 event ∉ earlier := by simp [earlier]
  have hsome : (hub.session? 0).isSome = true := by decide +kernel
  obtain ⟨session, hs⟩ := Option.isSome_iff_exists.mp hsome
  have hnone : history (disturbances 0) (Hub.new policy) earlier = [] := by
    refine List.isEmpty_iff.mp ?_
    decide +kernel
  have hlength : (history (repliesOf 0) (Hub.new policy) earlier).length = 4 := by decide +kernel
  have hdrops : dropsInARow (history (repliesOf 0) (Hub.new policy) earlier) = 2 := by decide +kernel
  have hmore : dropsInARow (history (repliesOf 0) (Hub.new policy) earlier ++
      repliesOf 0 hub (.publish ⟨.random 0, 5⟩)) = 3 := by decide +kernel
  have hopened : (hub.session? 0).any (fun session => session.stage ≠ .opening) = true := by
    decide +kernel
  rw [hs, Option.any_some, decide_eq_true_eq] at hopened
  have hlimit : (max policy.maxConsecutiveDrops 1).toNat = 3 := by decide +kernel
  have hcapacity : max policy.queueCapacity 1 = 2 := by decide +kernel
  obtain ⟨⟨hcount, -⟩, -, -, hclosings, hcrowded⟩ :=
    backpressure_closes_exactly_at_limit policy earlier 0 hoffers session hs
  simp only [hlimit, hcapacity, hlength, hdrops] at hcount hcrowded
  obtain ⟨hopen, -⟩ := (hcrowded hopened hnone).1 (by decide)
  obtain ⟨later, hlater, hcut, -⟩ := (hclosings (Session.isClaimed_of_open hopen)).1 ⟨.random 0, 5⟩
  exact ⟨⟨session, hs, hopen, UInt32.toNat_inj.mp hcount⟩, later, hlater,
    hcut (hmore.trans hlimit.symm)⟩

end Hub

end LiveCounter
