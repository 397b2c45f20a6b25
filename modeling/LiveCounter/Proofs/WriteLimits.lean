import LiveCounter.Proofs.Aftermath
import LiveCounter.Proofs.Confluence
import LiveCounter.Proofs.Grounds

/-!
# Bounded writes

A write races the client, the deadline that was set when it began, and whoever closes its session, and
all of them may come at the same instant. Its writer finds out who was first when it is polled: a
cancelled session goes before the client, and the client before the deadline. So a write is over when
the write timeout has passed since it began, and only one that the client has accepted is counted.
-/

namespace LiveCounter

/-! ## What is counted -/

namespace Writer

/-- Between the two moments as many writes have been counted as frames have been accepted. -/
def Counted (before after : Desk) : Prop :=
  after.session.written + before.client.accepted.length =
    before.session.written + after.client.accepted.length

/-- To choose the next task writes nothing. -/
theorem counted_choose (keepalive : Option Timer) (desk : Desk) :
    Counted desk (choose keepalive desk).2 := by
  unfold choose
  split
  · rfl
  · split
    · rfl
    · split
      · rfl
      · rfl
      · split
        · split <;> rfl
        · rfl

/-- A write that begins counts if the client accepts it at once. -/
theorem counted_beginWrite (policy : StreamPolicy) (frame : Frame) (desk : Desk) :
    Counted desk (beginWrite policy frame desk).2 := by
  have hrecords := desk.client.records_beginWrite desk.clock.now frame
  unfold Client.Records at hrecords
  unfold Counted beginWrite
  simp only
  split
  · next heq =>
    simp only [hrecords, heq, if_true, List.length_cons, Session.noteWrite]
    omega
  all_goals next heq => simp [hrecords, heq]

/-- A write that goes on counts if the client accepts it now. -/
theorem counted_resumeWrite (policy : StreamPolicy) (write : Write) (desk : Desk) :
    Counted desk (resumeWrite policy write desk).2 := by
  have hrecords := records_answer write desk
  unfold Client.Records at hrecords
  rw [Counted, session_resumeWrite, client_resumeWrite, hrecords]
  split
  · simp only [List.length_cons, Session.noteWrite]
    omega
  · rfl

/-- Whatever a writer does, it counts the frames that its client accepts. -/
theorem stepwise_counted (policy : StreamPolicy) : Stepwise policy Counted where
  refl _ := rfl
  trans {first second third} h h' := by
    unfold Counted at h h' ⊢
    omega
  chosen := counted_choose
  armed desk := by rw [Counted, session_armKeepalive, client_armKeepalive]
  begun := counted_beginWrite policy
  resumed := counted_resumeWrite policy

end Writer

namespace Session

/-- Retiring a session writes nothing to its client. -/
theorem written_retired (session : Session) (reason : CloseReason) (fault : Option StreamFault) :
    (session.retired reason fault).written = session.written := by
  unfold retired
  split <;> rfl

/-- An event that is offered is not written yet. -/
theorem written_offer (session : Session) (event : CounterEvent) :
    (session.offer event).1.written = session.written := by
  rw [offer_eq]
  split
  · split <;> rfl
  · rfl

/-- The first value is queued and not written yet. -/
theorem written_greeted (session : Session) (topic : Topic) (initial : Option Int64) :
    (session.greeted topic initial).written = session.written := by
  cases initial with
  | none => rfl
  | some value => exact session.written_offer _

end Session

namespace Connection

/-- The frames that the client of the connection has accepted with their times, latest first. -/
def accepted (connection : Connection) : List (Nat × Frame) :=
  connection.service.elim [] fun service => service.client.accepted

/-- What has been accepted is known to the client of the writer. -/
theorem accepted_of_service {connection : Connection} {service : Service}
    (h : connection.service = some service) : connection.accepted = service.client.accepted := by
  rw [accepted, h, Option.elim_some]

/-- A client that is not disturbed accepts nothing. -/
theorem Undisturbed.accepted {before after : Connection} (h : before.Undisturbed after) :
    after.accepted = before.accepted := by
  have hrel := h.service
  unfold Connection.accepted
  revert hrel
  generalize before.service = earlier
  generalize after.service = later
  rintro (hsame | _)
  · simp only [Option.elim_some, hsame.accepted]
  · rfl

/-- Writes are counted as frames are accepted, or as somebody outside notes them. -/
theorem counted_move (connection : Connection) (move : Move) :
    (connection.move move).session.written + connection.accepted.length =
      connection.session.written + (connection.move move).accepted.length +
        move.notesWrite.toNat := by
  cases hquiet : move.isQuiet with
  | true =>
    have hwritten : (connection.move move).session.written = connection.session.written := by
      cases move with
      | offer event => exact connection.session.written_offer event
      | close cause => exact connection.session.written_retired _ _
      | claim reason =>
        simp only [Connection.move, withSession]
        split <;> rfl
      | refresh | noteWrite | watch | write => cases hquiet
      | _ => rfl
    have hnone : move.notesWrite = false := by cases move <;> first | rfl | cases hquiet
    rw [hwritten, (connection.undisturbed_move hquiet).accepted, hnone]
    rfl
  | false =>
    cases move with
    | noteWrite now => exact Nat.add_right_comm connection.session.written 1 _
    | write policy now =>
      simp only [Connection.move, Move.notesWrite, Bool.toNat_false, Nat.add_zero]
      cases hservice : connection.service with
      | none => simp only [written, hservice]
      | some service =>
        have hcounted := (Writer.stepwise_counted policy).run service.phase
          (connection.desk service.client now)
        rw [accepted_of_service hservice, accepted_of_service (service_written hservice policy now),
          session_written hservice]
        exact hcounted
    | refresh | watch => rfl
    | _ => cases hquiet

/-- Writes are counted as the client accepts them, or noted by hand. -/
theorem counted_after (connection : Connection) (moves : List Move) :
    (connection.after moves).session.written + connection.accepted.length =
      connection.session.written + (connection.after moves).accepted.length +
        moves.countP Move.notesWrite := by
  induction moves generalizing connection with
  | nil => rfl
  | cons move rest ih =>
    have hfirst := connection.counted_move move
    have hrest := ih (connection.move move)
    rw [after_cons, countP_cons_toNat]
    omega

/-- The second connection comes after the first one. In between the client has accepted the given
frames, latest first and all at the given time; as many writes have been counted, and the session was
active if there were any. -/
structure Records (before after : Connection) (now : Nat) (frames : List Frame) : Prop where
  accepted : after.accepted = frames.map (now, ·) ++ before.accepted
  written : after.session.written = before.session.written + frames.length
  lastActivity : after.session.lastActivity =
    if frames = [] then before.session.lastActivity else now

/-- Nobody outside having noted a write, as many are counted as frames are accepted. -/
theorem records_after (connection : Connection) {moves : List Move} {now : Nat} {frames : List Frame}
    (hnone : moves.countP Move.notesWrite = 0)
    (haccepted : (connection.after moves).accepted = frames.map (now, ·) ++ connection.accepted)
    (hactivity : (connection.after moves).session.lastActivity =
      if frames = [] then connection.session.lastActivity else now) :
    connection.Records (connection.after moves) now frames := by
  have hcounted := connection.counted_after moves
  rw [hnone, haccepted, List.length_append, List.length_map] at hcounted
  exact ⟨haccepted, by omega, hactivity⟩

/-- A poll of the writer counts the frames that the client accepts in it. -/
theorem records_polledWriter (connection : Connection) (policy : StreamPolicy) (now : Nat) :
    ∃ frames, connection.Records (connection.polledWriter policy now) now frames := by
  have hnone : (connection.writerMoves policy now).countP Move.notesWrite = 0 := by
    refine List.countP_eq_zero.mpr fun move hmem => ?_
    rcases List.mem_cons.mp hmem with rfl | hmem
    · exact Bool.false_ne_true
    · obtain ⟨cause, -, rfl⟩ := List.mem_map.mp hmem
      exact Bool.false_ne_true
  have hsame := connection.undisturbed_polledWriter policy now
  cases hservice : connection.service with
  | none =>
    have hidle : connection.written policy now = connection := by simp [written, hservice]
    rw [hidle] at hsame
    exact ⟨[], connection.records_after hnone hsame.accepted hsame.lastActivity⟩
  | some service =>
    obtain ⟨frames, haccepted, hactivity⟩ :=
      (Writer.stamped_run policy service.phase (connection.desk service.client now)).accepted
    refine ⟨frames, connection.records_after hnone ?_ ?_⟩
    · rw [← polledWriter, hsame.accepted, accepted_of_service (service_written hservice policy now),
        accepted_of_service hservice]
      exact haccepted
    · rw [← polledWriter, hsame.lastActivity, session_written hservice]
      exact hactivity

end Connection

namespace Hub

/-- The writes of session `n` that an operation notes though no writer has made them. -/
def notes (n : Nat) (hub : Hub) (operation : Operation) : List Nat :=
  if operation.notesWrite n ∧ n < hub.connections.length then [hub.now] else []

/-- In every run a session counts the frames that its client has accepted, and what is noted by
others. -/
theorem written_run (policy : StreamPolicy) (operations : List Operation) {n : Nat}
    {connection : Connection}
    (h : ((Hub.new policy).run operations).connections[n]? = some connection) :
    connection.session.written = connection.accepted.length +
      (history (notes n) (Hub.new policy) operations).length := by
  refine history_run (P := fun noted connection =>
    connection.session.written = connection.accepted.length + noted.length)
    (fun hub operation hnone => ?_) (fun earlier operation later _ hn harrives => ?_)
    (fun earlier operation before _ hfound hbefore => ?_) h
  · refine if_neg fun hnotes => ?_
    exact absurd hnotes.2 (Nat.not_lt.mpr (List.getElem?_eq_none_iff.mp (none_of_step hnone)))
  · have hnone : notes n ((Hub.new policy).run earlier) operation = [] :=
      if_neg fun hnotes => Nat.lt_irrefl _ (hn ▸ hnotes.2)
    rw [hnone]
    cases harrives with
    | joined | created => rfl
    | accepted topic id transport initial =>
      rw [welcomed, Session.written_greeted]
      cases transport <;> rfl
  · have hcounted := before.counted_after (((Hub.new policy).run earlier).moves n operation)
    have hnotes : (notes n ((Hub.new policy).run earlier) operation).length =
        (operation.notesWrite n).toNat := by
      have hlength := (List.getElem?_eq_some_iff.mp hfound).1
      rw [notes]
      cases operation.notesWrite n <;> simp [hlength]
    rw [countP_moves] at hcounted
    rw [List.length_append, hnotes]
    omega

/-- Each step counts what the client accepts in it, which is nothing unless the writer is polled. -/
theorem records_step {hub : Hub} {n : Nat} {connection later : Connection} {operation : Operation}
    (hconnection : hub.connections[n]? = some connection)
    (hlater : (hub.step operation).connections[n]? = some later)
    (hnone : touches n hub operation = []) :
    ∃ frames, (frames ≠ [] → operation = .pollWriter n) ∧ connection.Records later hub.now frames := by
  have hlength := (List.getElem?_eq_some_iff.mp hconnection).1
  have hunnoted : (hub.moves n operation).countP Move.notesWrite = 0 := by
    rw [countP_moves]
    cases operation with
    | noteWrite target =>
      have hother : target ≠ n := fun heq => by simp [touches, heq, hlength] at hnone
      simp [Operation.notesWrite, hother]
    | _ => rfl
  have hsigns : ∃ frames : List Frame, (frames ≠ [] → operation = .pollWriter n) ∧
      later.accepted = frames.map (hub.now, ·) ++ connection.accepted ∧
      later.session.lastActivity =
        if frames = [] then connection.session.lastActivity else hub.now := by
    have hfound_eq {before : Connection} (hfound : hub.connections[n]? = some before) :
        before = connection := Option.some.inj (hfound.symm.trans hconnection)
    cases stepCase hlater with
    | arrives hn => exact absurd hn (Nat.ne_of_lt hlength)
    | watched before hfound =>
      have hsame := before.undisturbed_polledWatch hub.policy hub.now
      obtain rfl := hfound_eq hfound
      exact ⟨[], fun hsome => absurd rfl hsome, hsame.accepted, hsame.lastActivity⟩
    | served before hfound =>
      obtain rfl := hfound_eq hfound
      obtain ⟨frames, hrecords⟩ := before.records_polledWriter hub.policy hub.now
      exact ⟨frames, fun _ => rfl, hrecords.accepted, hrecords.lastActivity⟩
    | refreshed | noted => simp [touches, hlength] at hnone
    | quiet before hfound hquiet =>
      have hsame := before.undisturbed_after hquiet
      obtain rfl := hfound_eq hfound
      exact ⟨[], fun hsome => absurd rfl hsome, hsame.accepted, hsame.lastActivity⟩
  obtain ⟨frames, hpolled, haccepted, hactivity⟩ := hsigns
  obtain rfl : connection.after (hub.moves n operation) = later :=
    Option.some.inj ((connections_step hconnection operation).symm.trans hlater)
  exact ⟨frames, hpolled, connection.records_after hunnoted haccepted hactivity⟩

end Hub

/-! ## The limit -/

namespace StreamPolicy

/-- What stands in for a limit beyond every clock is shorter than the limit. -/
theorem writeLimit_le (policy : StreamPolicy) :
    policy.writeLimit.nanos ≤ policy.writeTimeout.nanos := by
  have hset := (Clock.mk 0 0).after_le policy.writeTimeout
  rw [show (Clock.mk 0 0).after _ policy.writeTimeout = .ofMillis 0 + policy.writeLimit from
    Writer.instant_set ⟨0, 0⟩ policy] at hset
  exact Nat.le_of_add_le_add_left hset

/-- The limit of a write is whole if its timeout is. -/
theorem isWhole_writeLimit {policy : StreamPolicy} (h : policy.writeTimeout.IsWhole) :
    policy.writeLimit.IsWhole := by
  unfold writeLimit
  split
  · decide
  · exact h

end StreamPolicy

/-- The first whole millisecond of an instant that is a whole one. -/
theorem Duration.ceilMillis_add {duration : Duration} (h : duration.IsWhole) (millis : Nat) :
    (ofMillis millis + duration).ceilMillis = millis + duration.millis := by
  show (millis * perMilli + duration.nanos + (perMilli - 1)) / perMilli = _
  rw [h.nanos_eq, ← Nat.add_mul, Nat.add_comm, Nat.add_mul_div_right _ _ (by decide)]
  exact Nat.zero_add _

namespace Writer

/-- A write is given up at its limit. -/
theorem Underway.due_eq {policy : StreamPolicy} (hwhole : policy.writeTimeout.IsWhole)
    {write : Write} {client : Client} (h : Underway policy write client) :
    write.deadline.due = write.began + policy.writeLimit.millis := by
  rw [Timer.due, h.deadline]
  exact Duration.ceilMillis_add (StreamPolicy.isWhole_writeLimit hwhole) _

/-- A write whose deadline is not due has not taken as long as a write may. -/
theorem Underway.age_lt {policy : StreamPolicy} (hpolicy : policy.Usable) {write : Write}
    {client : Client} (h : Underway policy write client) {now : Nat}
    (hdue : write.deadline.isDue now = false) :
    Duration.ofMillis (now - write.began) < policy.writeTimeout := by
  have hlater : now < write.deadline.instant.ceilMillis := Timer.isDue_eq_false_iff.mp hdue
  have hlimit := policy.writeLimit_le
  have hpositive := hpolicy.writeTimeout_pos
  rw [h.deadline] at hlater
  show (now - write.began) * Duration.perMilli < policy.writeTimeout.nanos
  have hinstant : now < (write.began * Duration.perMilli + policy.writeLimit.nanos +
    (Duration.perMilli - 1)) / Duration.perMilli := hlater
  simp only [Duration.perMilli] at hinstant ⊢
  omega

/-! ## How a write ends -/

/-- What comes of a write that goes on: the client has accepted its frame, or it has not and the run
stops. -/
inductive Resumed (policy : StreamPolicy) (write : Write) (desk : Desk) : Progress × Desk → Prop
  | accepted (later : Desk)
      (h : later.client.accepted = (desk.clock.now, write.frame) :: desk.client.accepted)
      (hclock : later.clock = desk.clock) : Resumed policy write desk (.written, later)
  | refused (fault : TransportFault) (client : Client) (h : client.HasRefused fault)
      (hnone : client.accepted = desk.client.accepted) :
      Resumed policy write desk (.halted (.exited (.failed fault)), { desk with client })
  | panicked (client : Client) (h : client.HasPanicked)
      (hnone : client.accepted = desk.client.accepted) :
      Resumed policy write desk (.halted (.exited .panicked), { desk with client })
  | expired (client : Client) (h : write.deadline.isDue desk.clock.now = true)
      (hnone : client.accepted = desk.client.accepted) :
      Resumed policy write desk
        (.halted (.exited (.failed (.timeout policy.writeTimeout))), { desk with client })
  | waiting (client : Client) (wait : WriteWait) :
      Resumed policy write desk
        (.halted (.suspended (.writing { write with wait })), { desk with client })

/-- A write that goes on is accepted, or the run stops. -/
theorem resumed_resumeWrite (policy : StreamPolicy) (write : Write) (desk : Desk)
    (h : desk.client.Attempted) : Resumed policy write desk (resumeWrite policy write desk) := by
  have hcame : (answer write desk).2.CameTo (answer write desk).1 := cameTo_answer h
  have hrecords := records_answer write desk
  unfold Client.Records at hrecords
  rw [resumeWrite_eq]
  generalize answer write desk = result at hcame hrecords ⊢
  obtain ⟨step, client⟩ := result
  cases step with
  | accepted => exact .accepted _ hrecords rfl
  | refused fault => exact .refused fault client hcame hrecords
  | panicked => exact .panicked client hcame hrecords
  | delayed | stuck =>
    simp only
    split
    · next hdue => exact .expired client hdue hrecords
    · exact .waiting client _

/-- After a write that has succeeded the same run may write more frames. -/
theorem accepted_run {policy : StreamPolicy} {write : Write} {desk later : Desk}
    (hcancelled : desk.session.cancelled = false)
    (hresumed : resumeWrite policy write desk = (.written, later))
    (h : later.client.accepted = (desk.clock.now, write.frame) :: desk.client.accepted)
    (hclock : later.clock = desk.clock) :
    ∃ frames : List Frame, (run policy (.writing write) desk).2.client.accepted =
      (frames ++ [write.frame]).map (desk.clock.now, ·) ++ desk.client.accepted := by
  obtain ⟨frames, haccepted, -⟩ := ((stepwise_stamped policy).serve
    (enough (armKeepalive policy later).2) (armKeepalive policy later).1
    (armKeepalive policy later).2).accepted
  refine ⟨frames, ?_⟩
  rw [run_resumed hcancelled hresumed, haccepted, now_armKeepalive, client_armKeepalive, h, hclock]
  simp

end Writer

/-- The write that a writer in this phase has at hand. -/
def Phase.write? : Phase → Option Write
  | .writing write => some write
  | _ => none

/-- A writer has a write at hand while it writes. -/
theorem Phase.write?_eq_some {phase : Phase} {write : Write} :
    phase.write? = some write ↔ phase = .writing write := by
  cases phase <;> simp [write?]

/-- The session has ended for the given reason, with the given error. -/
structure Session.EndedFor (session : Session) (reason : CloseReason) (failure : Option StreamFault) :
    Prop where
  stage : session.stage = .terminated
  reason : session.reason = some reason
  failure : session.failure = failure

/-- A session that nobody has claimed ends for the cause that retires it. -/
theorem Session.IsFresh.endedFor {session : Session} (h : session.IsFresh) (cause : Cause) :
    (session.retired cause.reason cause.failure).EndedFor cause.reason cause.failure := by
  have hclosed := h.retired cause
  exact ⟨stage_retired h.unclaimed _ _, hclosed.reason, hclosed.failure⟩

namespace Connection

/-- The write that the writer of the connection has at hand. -/
def write? (connection : Connection) : Option Write :=
  connection.service.bind fun service => service.phase.write?

/-- A writer that is left at its work has the same write at hand. -/
theorem write?_of_sameWork {before after : Connection}
    (h : Option.Rel Service.SameWork before.service after.service) :
    after.write? = before.write? := by
  unfold Connection.write?
  revert h
  generalize before.service = earlier
  generalize after.service = later
  rintro (hsame | _)
  · simp only [Option.bind_some, hsame.phase]
  · rfl

/-- How a poll of the writer at the given time ends a write that was at hand: what it finds before
and leaves behind, and the frames that the client accepts in it, latest first. -/
inductive WriteEnd (policy : StreamPolicy) (write : Write) (now : Nat) (before after : Connection) :
    List Frame → Prop
  /-- Somebody has claimed the session already. -/
  | cancelled (hclaimed : before.session.isClaimed = true) (h : after.session = before.session) :
      WriteEnd policy write now before after []
  /-- The frame is accepted, and perhaps more frames after it. -/
  | accepted (later : List Frame) (hfree : before.session.isClaimed = false) :
      WriteEnd policy write now before after (later ++ [write.frame])
  | refused (fault : TransportFault) (hfree : before.session.isClaimed = false)
      (hclient : ∃ service, after.service = some service ∧ service.client.HasRefused fault)
      (h : after.session.EndedFor .transportError (some (.transport fault))) :
      WriteEnd policy write now before after []
  | panicked (hfree : before.session.isClaimed = false)
      (hclient : ∃ service, after.service = some service ∧ service.client.HasPanicked)
      (h : after.session.EndedFor .aborted none) : WriteEnd policy write now before after []
  /-- The time for the write is over, to the millisecond. -/
  | expired (hfree : before.session.isClaimed = false)
      (hdue : now = write.began + policy.writeLimit.millis)
      (h : after.session.EndedFor .transportError
        (some (.transport (.timeout policy.writeTimeout)))) :
      WriteEnd policy write now before after []

variable {policy : StreamPolicy} {connection : Connection} {service : Service} {now : Nat}

/-- Closings leave a session that is claimed alone, so the first one decides. -/
theorem foldl_retired_of_isClaimed {session : Session} (h : session.isClaimed = true)
    (causes : List Cause) :
    causes.foldl (fun session cause => session.retired cause.reason cause.failure) session =
      session := by
  induction causes with
  | nil => rfl
  | cons cause rest ih => rw [List.foldl_cons, Session.retired_of_isClaimed h, ih]

/-- A poll of the writer in which the client accepts nothing counts nothing. -/
theorem records_polledWriter_nil
    (h : (connection.polledWriter policy now).accepted = connection.accepted) :
    connection.Records (connection.polledWriter policy now) now [] := by
  obtain ⟨frames, hrecords⟩ := connection.records_polledWriter policy now
  obtain rfl : frames = [] := by simpa [h] using hrecords.accepted
  exact hrecords

/-- A session whose writer stops where it stands is closed as the end of the writer asks first. -/
theorem polledWriter_of_exited (hservice : connection.service = some service) {exit : WriterExit}
    {cause : Cause} {rest : List Cause} (hcauses : exit.causes = cause :: rest) {client : Client}
    (hrun : Writer.run policy service.phase (connection.desk service.client now) =
      (.exited exit, { connection.desk service.client now with client })) :
    (connection.polledWriter policy now).session =
        connection.session.retired cause.reason cause.failure ∧
      (connection.polledWriter policy now).service = some { phase := .ended, client } := by
  rw [polledWriter_eq hservice, hrun]
  refine ⟨?_, rfl⟩
  simp only [causesOf, hcauses, List.foldl_cons]
  exact foldl_retired_of_isClaimed (Session.isClaimed_retired _ _ _) rest

/-- If nobody has claimed the session, it ends for that. -/
theorem endedFor_polledWriter (hservice : connection.service = some service)
    (hfresh : connection.session.IsFresh) {exit : WriterExit} {cause : Cause} {rest : List Cause}
    (hcauses : exit.causes = cause :: rest) {client : Client}
    (hrun : Writer.run policy service.phase (connection.desk service.client now) =
      (.exited exit, { connection.desk service.client now with client }))
    (hnone : client.accepted = service.client.accepted) :
    connection.Records (connection.polledWriter policy now) now [] ∧
      (connection.polledWriter policy now).session.EndedFor cause.reason cause.failure ∧
      ∃ last, (connection.polledWriter policy now).service = some last ∧ last.client = client := by
  obtain ⟨hsession, hlast⟩ := polledWriter_of_exited hservice hcauses hrun
  refine ⟨records_polledWriter_nil ?_, hsession ▸ hfresh.endedFor cause, _, hlast, rfl⟩
  rw [accepted_of_service hlast, accepted_of_service hservice, hnone]

/-- A poll of the writer ends the write at hand, or leaves it at hand. -/
theorem writeEnd_or_waits (htended : connection.Tended) (hduly : connection.WritesDuly policy)
    (hfresh : connection.session.isClaimed = false → connection.session.IsFresh) {write : Write}
    (hdue : write.deadline.isDue now = true → now = write.began + policy.writeLimit.millis)
    {wait : WriteWait} (hwrite : connection.write? = some { write with wait }) :
    (∃ wait, (connection.polledWriter policy now).write? = some { write with wait }) ∨
      ∃ frames, connection.Records (connection.polledWriter policy now) now frames ∧
        connection.WriteEnd policy write now (connection.polledWriter policy now) frames := by
  obtain ⟨service, hservice, hphase⟩ := Option.bind_eq_some_iff.mp hwrite
  have hphase := Phase.write?_eq_some.mp hphase
  cases hclaimed : connection.session.isClaimed with
  | true =>
    have hcancelled : (connection.desk service.client now).session.cancelled = true :=
      htended.cancelled.trans hclaimed
    have hrun := hphase ▸ Writer.run_writing_of_cancelled policy { write with wait } hcancelled
    obtain ⟨hsession, hlast⟩ := polledWriter_of_exited hservice rfl hrun
    rw [Session.retired_of_isClaimed hclaimed] at hsession
    refine Or.inr ⟨[], records_polledWriter_nil ?_, .cancelled hclaimed hsession⟩
    rw [accepted_of_service hlast, accepted_of_service hservice]
  | false =>
    have hcancelled : (connection.desk service.client now).session.cancelled = false :=
      htended.cancelled.trans hclaimed
    have hfresh := hfresh hclaimed
    have hresumed := Writer.resumed_resumeWrite policy { write with wait }
      (connection.desk service.client now) (hduly service _ hservice hphase).attempted
    generalize hresult : Writer.resumeWrite policy { write with wait }
      (connection.desk service.client now) = result at hresumed
    cases hresumed with
    | accepted later hframe hclock =>
      obtain ⟨frames, hrecords⟩ := connection.records_polledWriter policy now
      obtain ⟨after, hafter⟩ := Writer.accepted_run hcancelled hresult hframe hclock
      have hsame : frames.map (now, ·) = (after ++ [write.frame]).map (now, ·) := by
        have haccepted := hrecords.accepted
        rw [accepted_of_service hservice] at haccepted
        apply List.append_cancel_right
        rw [← haccepted, polledWriter_eq hservice, hphase]
        exact hafter
      obtain rfl : frames = after ++ [write.frame] :=
        List.map_injective_iff.mpr (fun _ _ hpair => (Prod.mk.inj hpair).2) hsame
      exact Or.inr ⟨_, hrecords, .accepted after hclaimed⟩
    | refused fault client hrefused hnone =>
      have hrun := hphase ▸ Writer.run_halted hcancelled hresult
      obtain ⟨hrecords, hended, last, hlast, rfl⟩ :=
        endedFor_polledWriter hservice hfresh rfl hrun hnone
      exact Or.inr ⟨[], hrecords, .refused fault hclaimed ⟨last, hlast, hrefused⟩ hended⟩
    | panicked client hpanicked hnone =>
      have hrun := hphase ▸ Writer.run_halted hcancelled hresult
      obtain ⟨hrecords, hended, last, hlast, rfl⟩ :=
        endedFor_polledWriter hservice hfresh rfl hrun hnone
      exact Or.inr ⟨[], hrecords, .panicked hclaimed ⟨last, hlast, hpanicked⟩ hended⟩
    | expired client hover hnone =>
      have hrun := hphase ▸ Writer.run_halted hcancelled hresult
      obtain ⟨hrecords, hended, -⟩ := endedFor_polledWriter hservice hfresh rfl hrun hnone
      exact Or.inr ⟨[], hrecords, .expired hclaimed (hdue hover) hended⟩
    | waiting client wait =>
      have hrun := hphase ▸ Writer.run_halted hcancelled hresult
      refine Or.inl ⟨wait, ?_⟩
      rw [write?, polledWriter_eq hservice, hrun]
      rfl

/-- The deadline of the write at hand is among the timers. -/
theorem deadline_mem_timers (hservice : connection.service = some service) {write : Write}
    (hphase : service.phase = .writing write) : write.deadline ∈ connection.timers := by
  refine List.mem_append_right _ ?_
  simp only [writerTimers, hservice, hphase, Writer.timers]
  split <;> simp

end Connection

namespace Hub

/-- A poll of the writer ends the write that session `n` has at hand, in time. -/
def EndsWrite (hub : Hub) (n : Nat) (write : Write) : Prop :=
  hub.now ≤ write.began + hub.policy.writeLimit.millis ∧
    ∃ before after frames, hub.connections[n]? = some before ∧
      (hub.pollWriter n).connections[n]? = some after ∧ before.Records after hub.now frames ∧
      before.WriteEnd hub.policy write hub.now after frames

section AtHand

variable {policy : StreamPolicy} {operations : List Operation} {n : Nat} {connection : Connection}
  {write : Write}

/-- In every run a write at hand has begun as it should. -/
theorem underway_of_write?
    (hconnection : ((Hub.new policy).run operations).connections[n]? = some connection)
    (hwrite : connection.write? = some write) :
    ∃ service, connection.service = some service ∧ service.phase = .writing write ∧
      Writer.Underway policy.clamped write service.client := by
  obtain ⟨service, hservice, hphase⟩ := Option.bind_eq_some_iff.mp hwrite
  have hphase := Phase.write?_eq_some.mp hphase
  exact ⟨service, hservice, hphase, writesDuly_run policy operations connection
    (List.mem_of_getElem? hconnection) service write hservice hphase⟩

/-- When all tasks have settled no write at hand is due. -/
theorem Settled.isDue_write (hsettled : ((Hub.new policy).run operations).Settled)
    (hconnection : ((Hub.new policy).run operations).connections[n]? = some connection)
    (hwrite : connection.write? = some write) :
    write.deadline.isDue ((Hub.new policy).run operations).now = false := by
  obtain ⟨service, hservice, hphase, -⟩ := underway_of_write? hconnection hwrite
  have hrest := (settled_iff (usable_run policy operations)).mp hsettled connection
    (List.mem_of_getElem? hconnection)
  have hrests := hrest.writer service hservice
  rw [hphase] at hrests
  exact hrests.2.1

/-- In a punctual run no write at hand is overdue. -/
theorem le_due_of_write? (hwhole : policy.clamped.writeTimeout.IsWhole)
    (hpunctual : (Hub.new policy).Punctual operations)
    (hconnection : ((Hub.new policy).run operations).connections[n]? = some connection)
    (hwrite : connection.write? = some write) :
    ((Hub.new policy).run operations).now ≤ write.deadline.due ∧
      write.deadline.due = write.began + policy.clamped.writeLimit.millis := by
  obtain ⟨service, hservice, hphase, hunderway⟩ := underway_of_write? hconnection hwrite
  have honTime := onTime_run policy hpunctual connection (List.mem_of_getElem? hconnection)
  exact ⟨honTime.timers _ (Connection.deadline_mem_timers hservice hphase), hunderway.due_eq hwhole⟩

/-- After a punctual run a poll of the writer ends the write at hand, or leaves it at hand. -/
theorem endsWrite_or_waits (hwhole : policy.clamped.writeTimeout.IsWhole)
    (hpunctual : (Hub.new policy).Punctual operations)
    (hconnection : ((Hub.new policy).run operations).connections[n]? = some connection)
    {wait : WriteWait} (hwrite : connection.write? = some { write with wait }) :
    let hub := (Hub.new policy).run operations
    (∃ later wait, (hub.pollWriter n).connections[n]? = some later ∧
        later.write? = some { write with wait }) ∨ hub.EndsWrite n write := by
  intro hub
  have hmem : connection ∈ hub.connections := List.mem_of_getElem? hconnection
  have hsession : hub.session? n = some connection.session :=
    congrArg (·.map (·.session)) hconnection
  have hpolicy : hub.policy = policy.clamped := policy_run _ operations
  have hpolled : (hub.pollWriter n).connections[n]? =
      some (connection.polledWriter policy.clamped hub.now) := by
    simp [connections_pollWriter, show hub.connections[n]? = some connection from hconnection,
      hpolicy]
  obtain ⟨hintime, hdeadline⟩ := le_due_of_write? hwhole hpunctual hconnection hwrite
  have hdue (hover : write.deadline.isDue hub.now = true) :
      hub.now = write.began + policy.clamped.writeLimit.millis :=
    hdeadline ▸ Nat.le_antisymm hintime (of_decide_eq_true hover)
  rcases Connection.writeEnd_or_waits (tended_run policy operations connection hmem)
    (writesDuly_run policy operations connection hmem) (isFresh_run hsession) hdue hwrite with
    ⟨wait, hwaits⟩ | ⟨frames, hrecords, hend⟩
  · exact Or.inl ⟨_, wait, hpolled, hwaits⟩
  · rw [hdeadline, ← hpolicy] at hintime
    exact Or.inr ⟨hintime, connection, _, frames, hconnection, hpolled, hrecords, hpolicy ▸ hend⟩

/-- A write at hand stays so in a punctual run until a poll of its writer ends it. -/
theorem endsWrite_run (hwhole : policy.clamped.writeTimeout.IsWhole) {more : List Operation}
    (hpunctual : (Hub.new policy).Punctual (operations ++ more))
    (hconnection : ((Hub.new policy).run operations).connections[n]? = some connection)
    (hwrite : connection.write? = some write) :
    let hub := (Hub.new policy).run operations
    (∃ later wait, (hub.run more).connections[n]? = some later ∧
        later.write? = some { write with wait }) ∨
      ∃ first rest, more = first ++ .pollWriter n :: rest ∧ (hub.run first).EndsWrite n write := by
  intro hub
  induction more using List.reverseRecOn with
  | nil => exact Or.inl ⟨connection, write.wait, hconnection, hwrite⟩
  | append_singleton more operation ih =>
    rw [← List.append_assoc] at hpunctual
    have hearlier := (punctual_append.mp hpunctual).1
    rcases ih hearlier with ⟨before, wait, hbefore, hathand⟩ | ⟨first, rest, rfl, hends⟩
    · rw [run_append hub, run_cons, run_nil]
      by_cases hpoll : operation = .pollWriter n
      · subst hpoll
        have hpolled := endsWrite_or_waits hwhole hearlier (by rwa [run_append]) hathand
        rw [run_append] at hpolled
        exact hpolled.imp_right fun hends => ⟨more, [], rfl, hends⟩
      · have hlater := connections_step hbefore operation
        have hsame := Connection.write?_of_sameWork (sameWork_step hbefore hlater hpoll)
        exact Or.inl ⟨_, wait, hlater, hsame.trans hathand⟩
    · exact Or.inr ⟨first, rest ++ [operation], by simp, hends⟩

/-- The limit of a write at hand has not passed in a punctual run, and has not come if all tasks have
settled. -/
theorem now_lt_of_write? (hwhole : policy.clamped.writeTimeout.IsWhole)
    (hpunctual : (Hub.new policy).Punctual operations)
    (hconnection : ((Hub.new policy).run operations).connections[n]? = some connection)
    (hwrite : connection.write? = some write) :
    let hub := (Hub.new policy).run operations
    let due := write.began + policy.clamped.writeLimit.millis
    (hub.now = due → hub.Settled) → hub.now < due := by
  intro hub due hrest
  obtain ⟨hintime, hdeadline⟩ := le_due_of_write? hwhole hpunctual hconnection hwrite
  have hdeadline : write.deadline.due = due := hdeadline
  refine Nat.lt_of_le_of_ne (hdeadline ▸ hintime) fun hnow => ?_
  have hlater := Timer.isDue_eq_false_iff.mp ((hrest hnow).isDue_write hconnection hwrite)
  rw [hdeadline] at hlater
  exact absurd hnow (Nat.ne_of_lt hlater)

end AtHand

/-- Writes are bounded, whatever the clients do. In every run a session counts the writes whose frames
its client has accepted, and those that callers note. A step in which no caller gives a sign of life
counts the frames that the client accepts in it, and makes its time the last sign of life if there are
any; only a poll of the writer can. When all tasks have settled no write at hand has taken as long as
the write timeout. And if a run goes on punctually until a write has taken that long, or thirty years
if no clock reaches so far, and the tasks have settled then, a poll of the writer has ended it: it was
cancelled by whoever had claimed the session, or accepted, or refused, or it broke down, or the session
was closed for the timeout just when it had passed. -/
theorem writes_are_bounded {policy : StreamPolicy} (hwhole : policy.writeTimeout.IsWhole)
    (operations : List Operation) (n : Nat) (connection : Connection)
    (h : ((Hub.new policy).run operations).connections[n]? = some connection) :
    let hub := (Hub.new policy).run operations
    connection.session.written =
        connection.accepted.length + (history (notes n) (Hub.new policy) operations).length ∧
      (∀ operation later, (hub.step operation).connections[n]? = some later →
        touches n hub operation = [] →
        ∃ frames, (frames ≠ [] → operation = .pollWriter n) ∧
          connection.Records later hub.now frames) ∧
      ∀ write, connection.write? = some write →
        (hub.Settled → .ofMillis (hub.now - write.began) < hub.policy.writeTimeout) ∧
        ∀ more, (Hub.new policy).Punctual (operations ++ more) →
          let due := write.began + hub.policy.writeLimit.millis
          let last := hub.run more
          due ≤ last.now → (last.now = due → last.Settled) →
          ∃ first rest, more = first ++ .pollWriter n :: rest ∧
            (hub.run first).EndsWrite n write := by
  intro hub
  have hpolicy : hub.policy = policy.clamped := policy_run _ operations
  have hlimit : policy.clamped.writeTimeout.IsWhole :=
    Duration.isWhole_max hwhole (Duration.isWhole_ofMillis 1)
  refine ⟨written_run policy operations h, fun operation later => records_step h,
    fun write hwrite => ⟨fun hsettled => ?_, fun more hpunctual hlong hrest => ?_⟩⟩
  · obtain ⟨service, -, -, hunderway⟩ := underway_of_write? h hwrite
    rw [hpolicy]
    exact hunderway.age_lt policy.usable_clamped (hsettled.isDue_write h hwrite)
  · rcases endsWrite_run hlimit hpunctual h hwrite with ⟨later, wait, hlater, hathand⟩ | hends
    · rw [hpolicy, ← run_append] at hlong
      rw [hpolicy, ← run_append] at hrest
      rw [← run_append] at hlater
      have hearly := now_lt_of_write? hlimit hpunctual hlater hathand hrest
      exact absurd hlong (Nat.not_le.mpr hearly)
    · exact hends

/-- A client that accepts the first frame after two milliseconds and never answers again. Writes may take
five, and the second one begins when the first one ends. -/
theorem writes_are_bounded_of_stalled_write :
    let policy : StreamPolicy := { StreamPolicy.default with writeTimeout := .ofMillis 5 }
    let script : Nat → Treatment := fun attempt =>
      if attempt = 1 then ⟨2, .accept⟩ else ⟨0, .stall⟩
    let operations : List Operation := [.connect (.random 0) ⟨0⟩ (.scripted script) (some 1),
      .publish ⟨.random 0, 2⟩, .pollWatch 0, .pollWriter 0, .pass 2, .pollWriter 0]
    let more : List Operation := [.pass 5, .pollWriter 0, .pollWatch 0]
    let hub := (Hub.new policy).run operations
    ∃ connection write, hub.connections[0]? = some connection ∧ connection.write? = some write ∧
      connection.session.written = connection.accepted.length ∧ connection.accepted.length = 1 ∧
      write.began = 2 ∧ Duration.ofMillis (2 - write.began) < .ofMillis 5 ∧
      (∃ first rest, more = first ++ .pollWriter 0 :: rest ∧ (hub.run first).EndsWrite 0 write) ∧
      ∃ session, (hub.run more).session? 0 = some session ∧
        session.EndedFor .transportError (some (.transport (.timeout (.ofMillis 5)))) ∧
        session.written = 1 := by
  intro policy script operations more hub
  have hpunctual : (Hub.new policy).Punctual (operations ++ more) := by decide +kernel
  have hsettled : hub.Settled := by decide +kernel
  have hrest : ((Hub.new policy).run (operations ++ more)).Settled := by decide +kernel
  have hclock : hub.now = 2 ∧ (hub.run more).now = 7 := by decide +kernel
  have hpolicy : ((Hub.new policy).run operations).policy = policy.clamped := policy_run _ operations
  have hlimits : policy.clamped.writeTimeout = .ofMillis 5 ∧
      policy.clamped.writeLimit.millis = 5 := by decide +kernel
  have hnotes : history (notes 0) (Hub.new policy) operations = [] := by decide +kernel
  obtain ⟨connection, hconnection⟩ := Option.isSome_iff_exists.mp
    (show (hub.connections[0]?).isSome = true by decide +kernel)
  have hathand : (hub.connections[0]?).map (fun connection =>
      (connection.accepted.length, connection.write?.map (·.began))) = some (1, some 2) := by
    decide +kernel
  obtain ⟨session, hs⟩ := Option.isSome_iff_exists.mp
    (show ((hub.run more).session? 0).isSome = true by decide +kernel)
  have hended : ((hub.run more).session? 0).map (fun session =>
      (session.stage, session.reason, session.failure, session.written)) =
        some (.terminated, some .transportError, some (.transport (.timeout (.ofMillis 5))), 1) := by
    decide +kernel
  rw [hconnection, Option.map_some, Option.some.injEq, Prod.mk.injEq] at hathand
  obtain ⟨haccepted, hfound⟩ := hathand
  obtain ⟨write, hwrite, hbegan⟩ := Option.map_eq_some_iff.mp hfound
  rw [hs, Option.map_some, Option.some.injEq, Prod.mk.injEq, Prod.mk.injEq, Prod.mk.injEq] at hended
  obtain ⟨hstage, hreason, hfailure, hcount⟩ := hended
  have hwhole : policy.writeTimeout.IsWhole := Duration.isWhole_ofMillis 5
  obtain ⟨hwritten, -, hwrites⟩ := writes_are_bounded hwhole operations 0 connection hconnection
  obtain ⟨hage, hends⟩ := hwrites write hwrite
  have hage := hage hsettled
  rw [hnotes] at hwritten
  rw [show ((Hub.new policy).run operations).now = 2 from hclock.1, hpolicy, hlimits.1] at hage
  rw [hpolicy, hlimits.2, hbegan] at hends
  have hlong : 2 + 5 ≤ (hub.run more).now := Nat.le_of_eq hclock.2.symm
  have hrest : (hub.run more).Settled := run_append (Hub.new policy) operations more ▸ hrest
  exact ⟨connection, write, hconnection, hwrite, hwritten, haccepted, hbegan, hage,
    hends more hpunctual hlong fun _ => hrest, session, hs, ⟨hstage, hreason, hfailure⟩, hcount⟩

end Hub

end LiveCounter
