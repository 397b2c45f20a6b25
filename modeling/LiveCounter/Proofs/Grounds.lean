import LiveCounter.Proofs.Clamping
import LiveCounter.Proofs.LiveTasks
import LiveCounter.Proofs.Outcomes
import LiveCounter.Proofs.Silence

/-!
# Reasons tell the truth

The reason of a session passes from whoever closes it through the writer and back, and several causes
may be there at once. Still it names what has happened: for every reason that the hub gives of its own
accord there is one operation that claimed the session, and what that operation found bears the reason
out.
-/

namespace LiveCounter

/-- An instant has come when the first whole millisecond after it has. -/
theorem Duration.le_ofMillis {duration : Duration} {millis : Nat}
    (h : duration.ceilMillis ≤ millis) : duration ≤ .ofMillis millis := by
  have hnanos : (duration.nanos + (perMilli - 1)) / perMilli ≤ millis := h
  have hle : duration.nanos ≤ millis * perMilli := by
    simp only [perMilli] at hnanos ⊢
    omega
  exact hle

/-- The last answers to offers, so many of them or more, are that the event was dropped. -/
def EndsInDrops (count : Nat) (answers : List Offer) : Prop :=
  ∃ earlier drops, answers = earlier ++ drops ∧ count ≤ drops.length ∧
    ∀ answer ∈ drops, ∃ consecutive, answer = .dropped consecutive

/-- Nothing need have been dropped for a count of zero. -/
theorem endsInDrops_zero (answers : List Offer) : EndsInDrops 0 answers :=
  ⟨answers, [], (List.append_nil answers).symm, Nat.le_refl _, fun _ h => (by cases h)⟩

/-- Answers that end in so many drops end in fewer as well. -/
theorem EndsInDrops.mono {count count' : Nat} {answers : List Offer} (h : EndsInDrops count answers)
    (hle : count' ≤ count) : EndsInDrops count' answers := by
  obtain ⟨earlier, drops, hanswers, hlength, hdrops⟩ := h
  exact ⟨earlier, drops, hanswers, Nat.le_trans hle hlength, hdrops⟩

/-- One drop more at the end is one more in a row. -/
theorem EndsInDrops.concat {count : Nat} {answers : List Offer} (h : EndsInDrops count answers)
    (consecutive : UInt32) : EndsInDrops (count + 1) (answers ++ [.dropped consecutive]) := by
  obtain ⟨earlier, drops, rfl, hlength, hdrops⟩ := h
  refine ⟨earlier, drops ++ [.dropped consecutive], by rw [List.append_assoc], ?_, ?_⟩
  · rw [List.length_append]
    exact Nat.succ_le_succ hlength
  · intro answer hmem
    rcases List.mem_append.mp hmem with hbefore | hlast
    · exact hdrops answer hbefore
    · exact ⟨consecutive, List.mem_singleton.mp hlast⟩

namespace Writer

/-- A writer leaves alone what its session has counted of events dropped. -/
theorem stepwise_drops (policy : StreamPolicy) :
    Stepwise policy fun before after =>
      after.session.dropped = before.session.dropped ∧
        after.session.consecutiveDrops = before.session.consecutiveDrops where
  refl _ := ⟨rfl, rfl⟩
  trans h h' := ⟨h'.1.trans h.1, h'.2.trans h.2⟩
  chosen keepalive desk := by
    unfold choose
    split
    · exact ⟨rfl, rfl⟩
    · split
      · exact ⟨rfl, rfl⟩
      · split
        · exact ⟨rfl, rfl⟩
        · exact ⟨rfl, rfl⟩
        · split
          · split <;> exact ⟨rfl, rfl⟩
          · exact ⟨rfl, rfl⟩
  armed desk := by
    rw [session_armKeepalive]
    exact ⟨rfl, rfl⟩
  begun frame desk := by
    unfold beginWrite
    simp only
    split <;> exact ⟨rfl, rfl⟩
  resumed write desk := by
    rw [session_resumeWrite]
    split <;> exact ⟨rfl, rfl⟩

end Writer

namespace Connection

/-- The answer to an offer. -/
def answers (connection : Connection) : Move → List Offer
  | .offer event => [(connection.session.offer event).2]
  | _ => []

/-- There are answers to offers only. -/
theorem trace_answers_of_not_offers (connection : Connection) {moves : List Move}
    (h : ∀ move ∈ moves, ∀ event, move ≠ .offer event) :
    connection.trace Connection.answers moves = [] := by
  refine trace_eq_nil (fun _ move hmem => ?_) connection
  cases move with
  | offer event => exact absurd rfl (h _ hmem event)
  | _ => rfl

/-- A session that can still be closed takes events or drops them, and it has not counted more drops
in a row than there were. -/
structure Unbroken (answers : List Offer) (connection : Connection) : Prop where
  unshut : connection.session.isClaimed = false → connection.session.outbox.released = false
  untried : connection.session.stage = .opening → connection.session.consecutiveDrops = 0
  drops : connection.session.isClaimed = false →
    EndsInDrops connection.session.consecutiveDrops.toNat answers

/-- What leaves the course of a session and its drops alone leaves its count truthful. -/
theorem Unbroken.sameCourse {answers : List Offer} {before after : Connection}
    (h : before.Unbroken answers) (hsame : before.session.SameCourse after.session)
    (hdrops : after.session.consecutiveDrops = before.session.consecutiveDrops) :
    after.Unbroken answers where
  unshut hunclaimed := hsame.released.trans (h.unshut (hsame.isClaimed.symm.trans hunclaimed))
  untried hopening := hdrops.trans (h.untried (hsame.stage.symm.trans hopening))
  drops hunclaimed := hdrops ▸ h.drops (hsame.isClaimed.symm.trans hunclaimed)

/-- Nothing is said of a session that is claimed. -/
theorem unbroken_of_isClaimed {connection : Connection} (h : connection.session.isClaimed = true)
    (answers : List Offer) : connection.Unbroken answers where
  unshut hunclaimed := by rw [h] at hunclaimed; cases hunclaimed
  untried hopening := by simp [Session.isClaimed, hopening] at h
  drops hunclaimed := by rw [h] at hunclaimed; cases hunclaimed

/-- A run of the writer leaves the count of drops alone. -/
theorem drops_written (connection : Connection) (policy : StreamPolicy) (now : Nat) :
    (connection.written policy now).session.dropped = connection.session.dropped ∧
      (connection.written policy now).session.consecutiveDrops =
        connection.session.consecutiveDrops := by
  unfold written
  split
  · exact ⟨rfl, rfl⟩
  · next service _ =>
    exact (Writer.stepwise_drops policy).run service.phase (connection.desk service.client now)

/-- An offer that is dropped adds to the drops in a row, and one that is taken ends them. -/
theorem Unbroken.offer {answers : List Offer} {connection : Connection}
    (h : connection.Unbroken answers) (event : CounterEvent) :
    (connection.move (.offer event)).Unbroken (answers ++ connection.answers (.offer event)) := by
  have hsame := connection.session.sameCourse_offer event
  have hunclaimed := hsame.isClaimed
  simp only [Connection.move, withSession, Connection.answers]
  refine ⟨fun hlive => hsame.released.trans (h.unshut (hunclaimed.symm.trans hlive)), ?_, ?_⟩
  · intro hopening
    have hbefore : connection.session.stage = .opening := hsame.stage.symm.trans hopening
    simp only [Session.offer_eq, hbefore, reduceCtorEq, false_and, if_false]
    exact h.untried hbefore
  · intro hlive
    rw [hunclaimed] at hlive
    have hdrops := h.drops hlive
    simp only [Session.offer_eq]
    split
    · split
      · refine (hdrops.concat _).mono ?_
        rw [UInt32.toNat_add]
        exact Nat.mod_le _ _
      · exact endsInDrops_zero _
    · next hinactive =>
      -- An outbox that nobody has released belongs to a session that has never been open.
      have hnot : connection.session.stage ≠ .open := fun hopen => hinactive ⟨hopen, h.unshut hlive⟩
      have hopening : connection.session.stage = .opening := by
        cases hstage : connection.session.stage <;> simp_all [Session.isClaimed]
      simp only [h.untried hopening]
      exact endsInDrops_zero _

/-- The count of drops in a row stays truthful with every move that does not release the outbox. -/
theorem Unbroken.move {answers : List Offer} {connection : Connection}
    (h : connection.Unbroken answers) {move : Move} (hmove : move ≠ .release) :
    (connection.move move).Unbroken (answers ++ connection.answers move) := by
  have hquiet {later : Connection} (hsame : connection.session.SameCourse later.session)
      (hdrops : later.session.consecutiveDrops = connection.session.consecutiveDrops) :
      later.Unbroken (answers ++ []) := by
    rw [List.append_nil]
    exact h.sameCourse hsame hdrops
  cases move with
  | release => exact absurd rfl hmove
  | offer event => exact h.offer event
  | take => exact hquiet connection.session.sameCourse_pop rfl
  | close cause => exact unbroken_of_isClaimed (Session.isClaimed_retired _ _ _) _
  | claim reason =>
    refine unbroken_of_isClaimed ?_ _
    simp only [Connection.move, withSession]
    split
    · next hclaimed => exact hclaimed
    · rfl
  | refresh now => exact hquiet (connection.session.sameCourse_refresh now) rfl
  | noteWrite now => exact hquiet (connection.session.sameCourse_noteWrite now) rfl
  | receive | leave | letGo | watch => exact hquiet (.refl _) rfl
  | write policy now =>
    exact hquiet (connection.sameCourse_written policy now)
      (connection.drops_written policy now).2

/-- The count of drops in a row stays truthful as long as nobody releases the outbox. -/
theorem Unbroken.after {answers : List Offer} {connection : Connection}
    (h : connection.Unbroken answers) {moves : List Move} (hmoves : ∀ move ∈ moves, move ≠ .release) :
    (connection.after moves).Unbroken (answers ++ connection.trace Connection.answers moves) := by
  induction moves generalizing connection answers with
  | nil => simpa [trace] using h
  | cons move rest ih =>
    have hfirst := h.move (hmoves move List.mem_cons_self)
    have hrest := ih hfirst fun other hother => hmoves other (List.mem_cons_of_mem _ hother)
    rwa [List.append_assoc] at hrest

/-- The write at hand has begun as it should. -/
def WritesDuly (policy : StreamPolicy) (connection : Connection) : Prop :=
  ∀ service write, connection.service = some service → service.phase = .writing write →
    Writer.Underway policy write service.client

/-- A write stays due when the client changes without forgetting its attempts. -/
theorem WritesDuly.withClient {policy : StreamPolicy} {connection : Connection}
    (h : connection.WritesDuly policy) {f : Client → Client}
    (hf : ∀ client : Client, client.Attempted → (f client).Attempted) :
    (connection.withClient f).WritesDuly policy := by
  intro service write hservice hphase
  obtain ⟨before, hbefore, rfl⟩ := Option.map_eq_some_iff.mp hservice
  have hduly := h before write hbefore hphase
  exact ⟨hf _ hduly.attempted, hduly.deadline⟩

/-- A client that reads does not forget its attempts. -/
theorem attempted_receive {client : Client} (h : client.Attempted) (limit : Nat) :
    (client.receive limit).2.Attempted := by
  unfold Client.receive
  split
  · exact h
  · intro script attempts hpeer
    cases hpeer

/-- A client that leaves does not forget its attempts. -/
theorem attempted_leave {client : Client} (h : client.Attempted) : client.leave.Attempted := by
  unfold Client.leave
  split
  · exact h
  · intro script attempts hpeer
    cases hpeer

/-- A write at hand stays due with every move under the policy. -/
theorem WritesDuly.move {policy : StreamPolicy} {connection : Connection}
    (h : connection.WritesDuly policy) (move : Move) (hpolicy : ∀ policy' now,
      move = .write policy' now → policy' = policy) : (connection.move move).WritesDuly policy := by
  cases move with
  | receive limit => exact h.withClient fun _ hclient => attempted_receive hclient limit
  | leave => exact h.withClient fun _ hclient => attempted_leave hclient
  | write policy' now =>
    obtain rfl := hpolicy policy' now rfl
    intro service write hservice hphase
    cases hbefore : connection.service with
    | none => simp [Connection.move, written, hbefore] at hservice
    | some before =>
      rw [Connection.move, service_written hbefore] at hservice
      obtain rfl := Option.some.inj hservice
      refine Writer.underway_run (fun write hwrite => h before write hbefore hwrite) write ?_
      revert hphase
      cases (Writer.run policy' before.phase (connection.desk before.client now)).1 with
      | suspended phase => exact fun hphase => congrArg Run.suspended hphase
      | exited exit => exact fun hphase => by cases hphase
  | _ => exact h

/-- A write at hand stays due with any moves under the policy. -/
theorem WritesDuly.after {policy : StreamPolicy} {connection : Connection}
    (h : connection.WritesDuly policy) {moves : List Move}
    (hmoves : ∀ move ∈ moves, ∀ policy' now, move = .write policy' now → policy' = policy) :
    (connection.after moves).WritesDuly policy :=
  after_induction h fun move hmem _ hduly => hduly.move move (hmoves move hmem)

end Connection

namespace Hub

/-- Whether an operation leaves it to the hub to close session `n`: no caller closes it, claims it or
releases its outbox. -/
def Operation.spares (n : Nat) : Operation → Bool
  | .close target _ | .closeFor target _ | .closeLive target _ | .claim target _ | .release target =>
    target != n
  | _ => true

/-- The client of session `n` and its writer. -/
def service? (hub : Hub) (n : Nat) : Option Service :=
  hub.connections[n]?.bind (·.service)

/-- The answers of session `n` to the offers of an operation. -/
def answersOf (n : Nat) (hub : Hub) (operation : Operation) : List Offer :=
  match hub.connections[n]? with
  | some connection => connection.trace Connection.answers (hub.moves n operation)
  | none => []

/-- What the hub finds, after the earlier operations, when the next one closes session `n` for a
reason and perhaps because of an error. -/
inductive Grounds (policy : StreamPolicy) (earlier : List Operation) (n : Nat) :
    Operation → CloseReason → Option StreamFault → Prop
  /-- The sessions of its topic are closed, or of another one under which it was put by hand. -/
  | topicCleared (topic : Topic)
      (h : ((Hub.new policy).run earlier).topic? n = some topic ∨ .subscribe n topic ∈ earlier) :
      Grounds policy earlier n (.clearTopic topic) .topicClosed none
  | stopped : Grounds policy earlier n .sweep .shutdown none
  | clientGone (service : Service)
      (hservice : ((Hub.new policy).run earlier).service? n = some service)
      (h : service.client.gone = true) :
      Grounds policy earlier n (.pollWriter n) .clientClosed none
  | writeRefused (fault : TransportFault) (service : Service)
      (hservice : ((Hub.new policy).run (earlier ++ [.pollWriter n])).service? n = some service)
      (h : service.client.HasRefused fault) :
      Grounds policy earlier n (.pollWriter n) .transportError (some (.transport fault))
  | writeExpired (service : Service) (write : Write)
      (hservice : ((Hub.new policy).run earlier).service? n = some service)
      (hphase : service.phase = .writing write)
      (h : Duration.ofMillis write.began + policy.clamped.writeLimit ≤
        .ofMillis ((Hub.new policy).run earlier).now) :
      Grounds policy earlier n (.pollWriter n) .transportError
        (some (.transport (.timeout policy.clamped.writeTimeout)))
  | dropped (event : CounterEvent)
      (h : EndsInDrops policy.clamped.maxConsecutiveDrops.toNat
        (history (answersOf n) (Hub.new policy) (earlier ++ [.publish event]))) :
      Grounds policy earlier n (.publish event) .backpressure (some .backpressureDrop)
  | silent (session : Session)
      (hs : ((Hub.new policy).run earlier).session? n = some session)
      (h : policy.idleTimeout ≤ session.silence ((Hub.new policy).run earlier).now) :
      Grounds policy earlier n (.pollWatch n) .idleTimeout
        (some (.idleTimeout (session.silence ((Hub.new policy).run earlier).now)))
  | writePanicked (service : Service)
      (hservice : ((Hub.new policy).run (earlier ++ [.pollWriter n])).service? n = some service)
      (h : service.client.HasPanicked) : Grounds policy earlier n (.pollWriter n) .aborted none
  /-- The writer could not set its first timer, because the keepalive period is beyond every clock. -/
  | writerUnstartable (service : Service)
      (hservice : ((Hub.new policy).run earlier).service? n = some service)
      (hphase : service.phase = .spawned)
      (h : policy.clamped.keepaliveInterval.any Clock.overflows = true) :
      Grounds policy earlier n (.pollWriter n) .aborted none

/-! ## What holds along a run -/

/-- Writes stay due in every run. -/
theorem lasting_writesDuly (policy : StreamPolicy) :
    Lasting policy fun _ connection => connection.WritesDuly policy where
  watched now connection h := by
    refine h.after fun move hmem policy' now' heq => ?_
    subst heq
    rcases List.mem_cons.mp hmem with hwatch | hmem
    · cases hwatch
    · split at hmem <;> simp at hmem
  served now connection h := by
    refine h.after fun move hmem policy' now' heq => ?_
    subst heq
    rcases List.mem_cons.mp hmem with hwrite | hmem
    · cases hwrite
      rfl
    · simp at hmem
  refreshed _ _ h := h
  noted _ _ h := h
  quiet _ connection move hquiet h :=
    h.move move fun policy' now heq => by
      subst heq
      cases hquiet

/-- A session that has just been added has no write at hand. -/
theorem writesDuly_of_arrives {hub : Hub} {operation : Operation} {connection : Connection}
    (h : hub.Arrives operation connection) (policy : StreamPolicy) :
    connection.WritesDuly policy := by
  intro service write hservice hphase
  cases h with
  | joined | created => cases hservice
  | accepted =>
    obtain rfl := Option.some.inj hservice
    cases hphase

/-- In every run from the start each write at hand has begun as it should. -/
theorem writesDuly_run (policy : StreamPolicy) (operations : List Operation) :
    ∀ connection ∈ ((Hub.new policy).run operations).connections,
      connection.WritesDuly policy.clamped := by
  have hlasting : Lasting (Hub.new policy).policy fun _ connection =>
    connection.WritesDuly policy.clamped := lasting_writesDuly policy.clamped
  exact hlasting.run (fun _ _ _ _ h => h) (fun _ _ _ _ h => writesDuly_of_arrives h _)
    (by simp [Hub.new]) operations

/-- An operation that spares a session does not release its outbox. -/
theorem ne_release_of_spares {hub : Hub} {n : Nat} {operation : Operation}
    (h : operation.spares n = true) : ∀ move ∈ hub.moves n operation, move ≠ .release := by
  rintro move hmem rfl
  cases does_of_mem hmem
  simp [Operation.spares] at h

/-- The first value takes the first place of an outbox, and nothing is dropped yet. -/
theorem consecutiveDrops_greeted (hub : Hub) (topic : Topic) (id : SessionId)
    (initial : Option Int64) :
    ((hub.newcomer topic id).session.greeted topic initial).consecutiveDrops = 0 := by
  cases initial with
  | none => rfl
  | some value =>
    rw [Session.greeted, Session.offer_eq, if_pos ⟨rfl, rfl⟩, if_neg]
    simp [newcomer, Session.create, Outbox.ofCapacity, Outbox.length]

/-- A session that has just been added has dropped nothing. -/
theorem unbroken_of_arrives {hub : Hub} {operation : Operation} {connection : Connection}
    (h : hub.Arrives operation connection) : connection.Unbroken [] := by
  cases h with
  | joined topic id =>
    exact ⟨fun _ => rfl, fun _ => rfl, fun _ => endsInDrops_zero _⟩
  | created topic capacity id =>
    exact ⟨fun _ => rfl, fun _ => rfl, fun _ => endsInDrops_zero _⟩
  | accepted topic id transport initial =>
    have hfresh : (hub.newcomer topic id).session.consecutiveDrops = 0 := rfl
    have hsame := (hub.newcomer topic id).session.sameCourse_greeted topic initial
    have hnone := hub.consecutiveDrops_greeted topic id initial
    refine ⟨fun _ => hsame.released, fun _ => hnone, fun _ => ?_⟩
    simp only [welcomed, hnone]
    exact endsInDrops_zero _

/-- Nothing is offered to a session that is not there. -/
theorem answersOf_of_none {hub : Hub} {n : Nat} (h : hub.connections[n]? = none)
    (operation : Operation) : answersOf n hub operation = [] := by
  rw [answersOf, h]

/-- Along a run that leaves the closing to the hub, drops in a row are counted as they happen. -/
theorem unbroken_run {policy : StreamPolicy} {operations : List Operation} {n : Nat}
    (hspares : ∀ operation ∈ operations, operation.spares n = true) {connection : Connection}
    (h : ((Hub.new policy).run operations).connections[n]? = some connection) :
    connection.Unbroken (history (answersOf n) (Hub.new policy) operations) := by
  refine history_run (P := fun answers connection => connection.Unbroken answers)
    (fun hub operation hnone => answersOf_of_none (none_of_step hnone) operation)
    (fun earlier operation later _ hn harrives => ?_)
    (fun earlier operation before hbegins hfound hbefore => ?_) h
  · rw [answersOf_of_none (List.getElem?_eq_none_iff.mpr (Nat.le_of_eq hn.symm))]
    exact unbroken_of_arrives harrives
  · simp only [answersOf, hfound]
    exact hbefore.after (ne_release_of_spares (hspares operation (hbegins.subset (by simp))))

/-! ## The operation that closes -/

/-- A poll of the writer leaves the phase and the client that its run came to. -/
theorem service?_pollWriter {hub : Hub} {n : Nat} {connection : Connection} {service : Service}
    (hconnection : hub.connections[n]? = some connection)
    (hservice : connection.service = some service) :
    (hub.step (.pollWriter n)).service? n = some
      { phase := Connection.phaseAfter (Writer.run hub.policy service.phase
          (connection.desk service.client hub.now)).1
        client := (Writer.run hub.policy service.phase
          (connection.desk service.client hub.now)).2.client } := by
  rw [service?, connections_step hconnection, Option.bind_some]
  simp only [moves, only, if_true, writerMoves, hconnection, Connection.writerMoves,
    Connection.after_cons, Connection.service_after_closes]
  exact Connection.service_written hservice hub.policy hub.now

/-- The threshold of a run is that of its policy after clamping. -/
theorem dropThreshold_run (policy : StreamPolicy) (operations : List Operation) :
    ((Hub.new policy).run operations).dropThreshold = policy.clamped.maxConsecutiveDrops := by
  rw [dropThreshold, policy_run]
  exact (max_one_eq_self_iff _).mpr policy.inRange_clamped.maxConsecutiveDrops

/-- A session answers to a publication once, if it subscribes to its topic and is there. -/
theorem trace_publishMoves {hub : Hub} (hwf : hub.subscriptions.WellFormed) {n : Nat}
    {connection : Connection} (h : hub.connections[n]? = some connection) (event : CounterEvent) :
    connection.trace Connection.answers (hub.publishMoves n event) =
      if n ∈ hub.liveHandles event.topic then [(connection.session.offer event).2] else [] := by
  rw [publishMoves_of_wellFormed hwf h]
  split
  · rw [Connection.trace, Connection.trace_answers_of_not_offers _ (by simp), List.append_nil]
    rfl
  · rfl

section Claiming

variable {policy : StreamPolicy} {earlier : List Operation} {n : Nat} {before : Connection}

/-- A publication closes a session only after so many drops in a row. -/
theorem endsInDrops_publish (hspares : ∀ operation ∈ earlier, operation.spares n = true)
    (hbefore : ((Hub.new policy).run earlier).connections[n]? = some before)
    (hunclaimed : before.session.isClaimed = false) {event : CounterEvent}
    (hsubscribed : n ∈ ((Hub.new policy).run earlier).liveHandles event.topic)
    (hlost : before.session.overflows ((Hub.new policy).run earlier).dropThreshold = true) :
    EndsInDrops policy.clamped.maxConsecutiveDrops.toNat
      (history (answersOf n) (Hub.new policy) (earlier ++ [.publish event])) := by
  have hunbroken := unbroken_run hspares hbefore
  have hanswers : answersOf n ((Hub.new policy).run earlier) (.publish event) =
      before.answers (.offer event) := by
    simp only [answersOf, hbefore, moves]
    rw [trace_publishMoves (enrolled_run policy earlier).wellFormed hbefore, if_pos hsubscribed]
    rfl
  rw [history_append]
  simp only [history, List.append_nil, hanswers]
  have hafter := hunbroken.offer event
  have hstill := (before.session.sameCourse_offer event).isClaimed.trans hunclaimed
  refine (hafter.drops hstill).mono ?_
  -- It is dropped, so the count is what the threshold has been compared with.
  rw [Session.overflows, Bool.and_eq_true, decide_eq_true_eq, dropThreshold_run] at hlost
  rw [Connection.move_offer_of_isFull hlost.1]
  exact UInt32.le_iff_toNat_le.mp hlost.2

/-- A writer that closes its session has one of these grounds. -/
theorem grounds_of_writerExit (hspares : ∀ operation ∈ earlier, operation.spares n = true)
    (hbefore : ((Hub.new policy).run earlier).connections[n]? = some before)
    (hunclaimed : before.session.isClaimed = false) {exit : WriterExit}
    (hexit : before.writerExit? policy.clamped ((Hub.new policy).run earlier).now = some exit)
    {cause : Cause} (hcause : exit.causes.head? = some cause) :
    Grounds policy earlier n (.pollWriter n) cause.reason cause.failure := by
  have hunbroken := unbroken_run hspares hbefore
  have hmem := List.mem_of_getElem? hbefore
  have htended := tended_run policy earlier before hmem
  have hduly := writesDuly_run policy earlier before hmem
  have hpolicy : ((Hub.new policy).run earlier).policy = policy.clamped := policy_run _ earlier
  unfold Connection.writerExit? at hexit
  split at hexit
  · cases hexit
  · next service hservice =>
    have hbeforeService : ((Hub.new policy).run earlier).service? n = some service := by
      rw [service?, hbefore, Option.bind_some, hservice]
    have hafter := service?_pollWriter hbefore hservice
    rw [hpolicy] at hafter
    generalize hrun : Writer.run policy.clamped service.phase
      (before.desk service.client ((Hub.new policy).run earlier).now) = result at hexit hafter
    obtain ⟨run, last⟩ := result
    cases run with
    | suspended phase => cases hexit
    | exited exit' =>
      obtain rfl : exit' = exit := Option.some.inj hexit
      have hlater : ((Hub.new policy).run (earlier ++ [.pollWriter n])).service? n =
          some { phase := .ended, client := last.client } := by
        rw [run_append, run_cons, run_nil, hafter]
        rfl
      have hattempted (write : Write) (hphase : service.phase = .writing write) :
          service.client.Attempted := (hduly service write hservice hphase).attempted
      cases Writer.behind_run hattempted hrun with
      | cancelled reason hcancelled =>
        have hcancelled : before.session.cancelled = true := hcancelled
        rw [htended.cancelled, hunclaimed] at hcancelled
        cases hcancelled
      | released reason hreleased =>
        have hreleased : before.session.outbox.released = true := hreleased
        rw [hunbroken.unshut hunclaimed] at hreleased
        cases hreleased
      | gone hgone =>
        obtain rfl := Option.some.inj hcause
        exact .clientGone service hbeforeService hgone
      | refused fault hrefused =>
        obtain rfl := Option.some.inj hcause
        exact .writeRefused fault _ hlater hrefused
      | expired write hphase hdue =>
        obtain rfl := Option.some.inj hcause
        refine .writeExpired service write hbeforeService hphase ?_
        rw [← (hduly service write hservice hphase).deadline]
        exact Duration.le_ofMillis (of_decide_eq_true hdue)
      | panicked hpanicked =>
        obtain rfl := Option.some.inj hcause
        exact .writePanicked _ hlater hpanicked
      | unstartable hphase hoverflows =>
        obtain rfl := Option.some.inj hcause
        exact .writerUnstartable service hbeforeService hphase hoverflows

/-- The first request of an operation to close a session that is not claimed has one of these
grounds. -/
theorem grounds_of_cause (hspares : ∀ operation ∈ earlier, operation.spares n = true)
    (hbefore : ((Hub.new policy).run earlier).connections[n]? = some before)
    (hunclaimed : before.session.isClaimed = false) {operation : Operation}
    (hoperation : operation.spares n = true) {cause : Cause}
    (hcause : ((((Hub.new policy).run earlier).moves n operation).filterMap Move.cause?).head? =
      some cause) :
    Grounds policy earlier n operation cause.reason cause.failure := by
  obtain ⟨move, hmove, hasks⟩ := List.mem_filterMap.mp (List.mem_of_head? hcause)
  have hpolicy : ((Hub.new policy).run earlier).policy = policy.clamped := policy_run _ earlier
  cases operation with
  | publish event =>
    simp only [moves] at hmove
    rw [publishMoves_of_wellFormed (enrolled_run policy earlier).wellFormed hbefore,
      Session.complaints_of_unclaimed hunclaimed] at hmove
    split at hmove
    · next hsubscribed =>
      split at hmove
      · next hlost =>
        rcases List.mem_cons.mp hmove with rfl | hmem
        · cases hasks
        · rw [List.mem_singleton.mp hmem] at hasks
          obtain rfl := Option.some.inj hasks
          exact .dropped event (endsInDrops_publish hspares hbefore hunclaimed hsubscribed hlost)
      · rw [List.mem_singleton.mp hmove] at hasks
        cases hasks
    · cases hmove
  | clearTopic topic =>
    obtain ⟨target, htarget, hmem⟩ := List.mem_flatMap.mp hmove
    obtain ⟨hhandle, heq⟩ := List.mem_filter.mp htarget
    obtain rfl : target = n := of_decide_eq_true heq
    split at hmem
    · rw [List.mem_singleton.mp hmem] at hasks
      obtain rfl := Option.some.inj hasks
      exact .topicCleared topic ((enrolled_run policy earlier).named topic target
        ((Subscriptions.contains_iff_mem _ _ _).mpr hhandle))
    · cases hmem
  | sweep =>
    obtain ⟨_, -, rfl⟩ := List.mem_map.mp hmove
    obtain rfl := Option.some.inj hasks
    exact .stopped
  | pollWatch target =>
    obtain ⟨rfl, hmem⟩ := mem_only hmove
    simp only [watchMoves, hbefore, Connection.watchMoves] at hmem
    rcases List.mem_cons.mp hmem with rfl | hmem
    · cases hasks
    · split at hmem
      · cases hmem
      · cases hmem
      · next hsilent =>
        rw [List.mem_singleton.mp hmem] at hasks
        obtain rfl := Option.some.inj hasks
        have hlong := (Watch.silent_run hsilent).2.1
        rw [hpolicy] at hlong
        exact .silent before.session (by rw [session?, hbefore, Option.map_some]) hlong
  | pollWriter target =>
    obtain ⟨rfl, -⟩ := mem_only hmove
    simp only [moves, only, if_true, writerMoves, hbefore, Connection.writerMoves, hpolicy] at hcause
    cases hexit : before.writerExit? policy.clamped ((Hub.new policy).run earlier).now with
    | none => simp [hexit, Move.cause?] at hcause
    | some exit =>
      refine grounds_of_writerExit hspares hbefore hunclaimed hexit ?_
      have hcauses : (exit.causes.map Move.close).filterMap Move.cause? = exit.causes := by
        rw [List.filterMap_map]
        exact List.filterMap_some
      rwa [hexit, Option.elim_some, List.filterMap_cons_none rfl, hcauses] at hcause
  | close target | closeFor target | closeLive target | claim target =>
    obtain ⟨rfl, -⟩ := mem_only hmove
    simp [Operation.spares] at hoperation
  | offer | take | release | refresh | noteWrite | receive | loseClient | letGo =>
    rw [List.mem_singleton.mp (mem_only hmove).2] at hasks
    cases hasks
  | join | connect | pass | report | countHit | create | subscribe | unsubscribe => cases hmove

end Claiming

/-- The hub never closes a session explicitly or for an inconsistency of its own accord. -/
theorem Grounds.ne_explicit {policy : StreamPolicy} {earlier : List Operation} {n : Nat}
    {operation : Operation} {reason : CloseReason} {fault : Option StreamFault}
    (h : Grounds policy earlier n operation reason fault) :
    reason ≠ .explicit ∧ reason ≠ .inconsistency := by
  cases h <;> simp

/-- If no caller closes a session, claims it or releases its outbox, its reason tells the truth. One
operation of the run has claimed it, and the reason and the error are those that this operation had
grounds for: the topic was cleared, the hub was stopped, the client had gone, an attempt to write was
refused with this error or took too long, so many events in a row were dropped, the session was silent
for long enough, or its writer broke down, in a write or because it could not start. It is never closed
explicitly or for an inconsistency. -/
theorem reasons_tell_the_truth (policy : StreamPolicy) (operations : List Operation) (n : Nat)
    (hspares : ∀ operation ∈ operations, operation.spares n = true) (session : Session)
    (hs : ((Hub.new policy).run operations).session? n = some session)
    (hclaimed : session.isClaimed = true) :
    ∃ earlier operation later reason, operations = earlier ++ operation :: later ∧
      session.reason = some reason ∧ Grounds policy earlier n operation reason session.failure ∧
      reason ≠ .explicit ∧ reason ≠ .inconsistency := by
  induction operations using List.reverseRecOn generalizing session with
  | nil => simp [session?, Hub.new] at hs
  | append_singleton operations operation ih =>
    have hearlier (other : Operation) (hother : other ∈ operations) : other.spares n = true :=
      hspares other (List.mem_append_left _ hother)
    obtain ⟨connection, hconnection, rfl⟩ := connection_of_session? hs
    rw [run_append, run_cons, run_nil] at hconnection
    cases hfound : ((Hub.new policy).run operations).connections[n]? with
    | none =>
      rw [(arrives_step hfound hconnection).2.isFresh.unclaimed] at hclaimed
      cases hclaimed
    | some before =>
      have hbefore : ((Hub.new policy).run operations).session? n = some before.session := by
        rw [session?, hfound, Option.map_some]
      have hstands := closings_run policy operations n
      rw [hbefore] at hstands
      rw [connections_step hfound] at hconnection
      obtain rfl := Option.some.inj hconnection
      have hafter := Connection.closedBy_after hstands
        (((Hub.new policy).run operations).moves n operation)
      cases hlive : before.session.isClaimed with
      | true =>
        -- The first claim stays.
        have hkept := hstands.append hlive ((((Hub.new policy).run operations).moves n
          operation).filterMap Move.cause?)
        obtain ⟨earlier, closing, later, reason, rfl, hreason, hgrounds, hothers⟩ :=
          ih hearlier before.session hbefore hlive
        refine ⟨earlier, closing, later ++ [operation], reason, by simp, ?_, ?_, hothers⟩
        · rw [hafter.reason, ← hkept.reason, hreason]
        · rwa [hafter.failure, ← hkept.failure]
      | false =>
        have hfresh := (hstands.isFresh (by simp [hlive])).1
        rw [hfresh, List.nil_append] at hafter
        obtain ⟨cause, rest, hcauses⟩ := List.exists_cons_of_ne_nil (hafter.claimed.mp hclaimed)
        have hreason := hafter.reason
        have hfailure := hafter.failure
        rw [hcauses, List.head?_cons] at hreason hfailure
        have hgrounds := grounds_of_cause hearlier hfound hlive (hspares operation (by simp))
          (by rw [hcauses, List.head?_cons])
        refine ⟨operations, operation, [], cause.reason, rfl, hreason, ?_, hgrounds.ne_explicit⟩
        rwa [hfailure]

/-- A session whose first write is refused, in a hub that is stopped later, has been closed by its
writer and for that error. -/
theorem reasons_tell_the_truth_of_refused_write :
    let operations := [Operation.connect (.random 0) ⟨0⟩
      (.scripted fun _ => ⟨0, .refuse (.io "reset")⟩) (some 5), .pollWriter 0, .sweep]
    ∃ session, ((Hub.new .default).run operations).session? 0 = some session ∧
      session.failure = some (.transport (.io "reset")) ∧
      ∃ earlier later service, operations = earlier ++ .pollWriter 0 :: later ∧
        ((Hub.new .default).run (earlier ++ [.pollWriter 0])).service? 0 = some service ∧
        service.client.HasRefused (.io "reset") := by
  intro operations
  have hspares : ∀ operation ∈ operations, operation.spares 0 = true := by
    simp [operations, Operation.spares]
  have hsome : (((Hub.new .default).run operations).session? 0).isSome = true := by decide +kernel
  obtain ⟨session, hs⟩ := Option.isSome_iff_exists.mp hsome
  have hfacts : (((Hub.new .default).run operations).session? 0).any (fun session =>
      session.isClaimed && session.reason == some .transportError &&
        session.failure == some (.transport (.io "reset"))) = true := by decide +kernel
  rw [hs, Option.any_some] at hfacts
  simp only [Bool.and_eq_true, beq_iff_eq] at hfacts
  obtain ⟨⟨hclaimed, htold⟩, hfailure⟩ := hfacts
  obtain ⟨earlier, operation, later, reason, hoperations, hreason, hgrounds, -⟩ :=
    reasons_tell_the_truth .default operations 0 hspares session hs hclaimed
  obtain rfl : reason = .transportError := Option.some.inj (hreason.symm.trans htold)
  rw [hfailure] at hgrounds
  refine ⟨session, hs, hfailure, ?_⟩
  generalize hfault : some (StreamFault.transport (.io "reset")) = fault at hgrounds
  cases hgrounds with
  | writeRefused refused service hservice hrefused =>
    cases hfault
    exact ⟨earlier, later, service, hoperations, hservice, hrefused⟩
  | writeExpired => cases hfault

/-- A writer can break down without any write, and a limit for writes that is beyond every clock is
taken for thirty years. -/
theorem reasons_not_told_by_writes_and_limits_alone :
    (¬ ∀ policy operations n session, (∀ operation ∈ operations, operation.spares n = true) →
      ((Hub.new policy).run operations).session? n = some session →
      session.reason = some .aborted → ∃ service,
        ((Hub.new policy).run operations).service? n = some service ∧ service.client.HasPanicked) ∧
    ¬ ∀ policy operations n session, (∀ operation ∈ operations, operation.spares n = true) →
      ((Hub.new policy).run operations).session? n = some session →
      session.failure = some (.transport (.timeout policy.clamped.writeTimeout)) →
      policy.clamped.writeTimeout ≤ .ofMillis ((Hub.new policy).run operations).now ∨ ∃ service,
        ((Hub.new policy).run operations).service? n = some service ∧
          service.client.HasRefused (.timeout policy.clamped.writeTimeout) := by
  refine ⟨fun h => ?aborted, fun h => ?expired⟩
  case aborted =>
    -- The client would accept everything, but the keepalive period does not fit into any clock.
    let policy : StreamPolicy := { StreamPolicy.default with
      idleTimeout := .ofSecs 18446744073709551615
      keepaliveInterval := some (.ofSecs 9223372036854775808) }
    let hub := (Hub.new policy).run
      [.connect (.random 0) ⟨0⟩ (.scripted fun _ => ⟨0, .accept⟩) none, .pollWriter 0]
    have hreason : (hub.session? 0).any (·.reason == some .aborted) = true := by decide +kernel
    have hsound : (hub.service? 0).any (fun service => ¬ service.client.HasPanicked) = true := by
      decide +kernel
    obtain ⟨session, hs, htold⟩ := (Option.any_eq_true _ _).mp hreason
    obtain ⟨service, hservice, hpanicked⟩ := h policy _ 0 session (by simp [Operation.spares]) hs
      (beq_iff_eq.mp htold)
    rw [show hub.service? 0 = some service from hservice, Option.any_some] at hsound
    exact of_decide_eq_true hsound hpanicked
  case expired =>
    -- Thirty years pass, and the limit is far longer.
    let policy : StreamPolicy := { StreamPolicy.default with
      writeTimeout := .ofSecs 9223372036854775808 }
    let hub := (Hub.new policy).run
      [.connect (.random 0) ⟨0⟩ (.scripted fun _ => ⟨0, .stall⟩) (some 5), .pollWriter 0,
        .pass 946080000000, .pollWriter 0]
    have hfailure : (hub.session? 0).any (fun session =>
        session.failure == some (.transport (.timeout policy.clamped.writeTimeout))) = true := by
      decide +kernel
    have hstuck : (hub.service? 0).any (fun service =>
        ¬ service.client.HasRefused (.timeout policy.clamped.writeTimeout)) = true := by
      decide +kernel
    obtain ⟨session, hs, htold⟩ := (Option.any_eq_true _ _).mp hfailure
    rcases h policy _ 0 session (by simp [Operation.spares]) hs (beq_iff_eq.mp htold) with
      hlong | ⟨service, hservice, hrefused⟩
    · exact absurd hlong (by decide +kernel)
    · rw [show hub.service? 0 = some service from hservice, Option.any_some] at hstuck
      exact of_decide_eq_true hstuck hrefused

end Hub

end LiveCounter
