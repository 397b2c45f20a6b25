import LiveCounter.Proofs.Settling

/-!
# Following one connection

An operation comes to one connection in one of a few ways: the connection is new, one of its tasks is
polled, somebody outside says that its session is alive, or something happens that leaves its tasks
and its signs of life alone. So what is to be kept along a run is looked at in these cases only, in
any run, also in one that reaches around the hub. The clock moves only when time passes, and the
policy never changes.
-/

namespace LiveCounter

namespace Writer

/-! ## Signs of life -/

/-- Between the two moments the client has accepted some frames, all at the present time, and the
session was active if there were any. -/
structure Stamped (desk later : Desk) : Prop where
  now : later.clock.now = desk.clock.now
  openedAt : later.session.openedAt = desk.session.openedAt
  accepted : ∃ frames : List Frame,
    later.client.accepted = frames.map (desk.clock.now, ·) ++ desk.client.accepted ∧
      later.session.lastActivity =
        if frames = [] then desk.session.lastActivity else desk.clock.now

/-- Nothing is stamped with the present time where nothing happens. -/
theorem Stamped.refl (desk : Desk) : Stamped desk desk :=
  ⟨rfl, rfl, [], rfl, rfl⟩

/-- What is stamped in turn is stamped with the same time. -/
theorem Stamped.trans {first second third : Desk} (h : Stamped first second)
    (h' : Stamped second third) : Stamped first third := by
  obtain ⟨frames, haccepted, hactivity⟩ := h.accepted
  obtain ⟨frames', haccepted', hactivity'⟩ := h'.accepted
  refine ⟨h'.now.trans h.now, h'.openedAt.trans h.openedAt, frames' ++ frames, ?_, ?_⟩
  · rw [haccepted', haccepted, h.now, List.map_append, List.append_assoc]
  · rw [hactivity', hactivity, h.now]
    by_cases hlast : frames' = []
    · simp [hlast]
    · simp [hlast]

/-- The session is no less active afterwards, if the clock has not gone back. -/
theorem Stamped.le_lastActivity {desk later : Desk} (h : Stamped desk later)
    (hpast : desk.session.lastActivity ≤ desk.clock.now) :
    desk.session.lastActivity ≤ later.session.lastActivity := by
  obtain ⟨frames, -, hactivity⟩ := h.accepted
  rw [hactivity]
  split
  · exact Nat.le_refl _
  · exact hpast

/-- A stamp of the present does not lie in the future. -/
theorem Stamped.past {desk later : Desk} (h : Stamped desk later)
    (hpast : desk.session.lastActivity ≤ desk.clock.now) :
    later.session.lastActivity ≤ desk.clock.now := by
  obtain ⟨frames, -, hactivity⟩ := h.accepted
  rw [hactivity]
  split
  · exact hpast
  · exact Nat.le_refl _

/-- Setting the keepalive timer stamps nothing. -/
theorem stamped_armKeepalive (policy : StreamPolicy) (desk : Desk) :
    Stamped desk (armKeepalive policy desk).2 := by
  unfold armKeepalive
  split
  · exact .refl desk
  · exact ⟨rfl, rfl, [], rfl, rfl⟩

/-- Choosing stamps nothing. -/
theorem stamped_choose (keepalive : Option Timer) (desk : Desk) :
    Stamped desk (choose keepalive desk).2 := by
  unfold choose
  split
  · exact .refl desk
  · split
    · exact .refl desk
    · split
      · exact .refl desk
      · exact ⟨rfl, rfl, [], rfl, rfl⟩
      · split
        · split <;> exact .refl desk
        · exact .refl desk

/-- The beginning of a write stamps the session with the present time, if at all. -/
theorem stamped_beginWrite (policy : StreamPolicy) (frame : Frame) (desk : Desk) :
    Stamped desk (beginWrite policy frame desk).2 := by
  have hrecords := desk.client.records_beginWrite desk.clock.now frame
  unfold Client.Records at hrecords
  unfold beginWrite
  simp only
  split
  · next heq => exact ⟨rfl, rfl, [frame], by simpa [heq] using hrecords, rfl⟩
  all_goals
    next heq => exact ⟨rfl, rfl, [], by simpa [heq] using hrecords, rfl⟩

/-- Going on with a write leaves the clock alone. -/
theorem clock_resumeWrite (policy : StreamPolicy) (write : Write) (desk : Desk) :
    (resumeWrite policy write desk).2.clock = desk.clock := by
  rw [resumeWrite_eq]
  simp only
  split
  · rfl
  · rfl
  · rfl
  · split <;> rfl
  · split <;> rfl

/-- Going on with a write notes the write in the session if the client accepts. -/
theorem session_resumeWrite (policy : StreamPolicy) (write : Write) (desk : Desk) :
    (resumeWrite policy write desk).2.session =
      if (answer write desk).1 = .accepted then desk.session.noteWrite desk.clock.now
      else desk.session := by
  rw [resumeWrite_eq]
  simp only
  split
  · next heq => exact (if_pos heq).symm
  · next heq => exact (if_neg (by simp [heq])).symm
  · next heq => exact (if_neg (by simp [heq])).symm
  · next heq => split <;> exact (if_neg (by simp [heq])).symm
  · next heq => split <;> exact (if_neg (by simp [heq])).symm

/-- Going on with a write stamps the session with the present time, if at all. -/
theorem stamped_resumeWrite (policy : StreamPolicy) (write : Write) (desk : Desk) :
    Stamped desk (resumeWrite policy write desk).2 := by
  have hclock := clock_resumeWrite policy write desk
  have hsession := session_resumeWrite policy write desk
  have hclient := client_resumeWrite policy write desk
  have hrecords := records_answer write desk
  unfold Client.Records at hrecords
  by_cases haccepted : (answer write desk).1 = .accepted
  · rw [if_pos haccepted] at hsession hrecords
    exact ⟨by rw [hclock], by rw [hsession]; rfl, [write.frame], by rw [hclient, hrecords]; rfl,
      by rw [hsession]; rfl⟩
  · rw [if_neg haccepted] at hsession hrecords
    exact ⟨by rw [hclock], by rw [hsession], [], by rw [hclient, hrecords]; rfl,
      by rw [hsession, if_pos rfl]⟩

/-- Every step of a writer stamps with the present time, if at all. -/
theorem stepwise_stamped (policy : StreamPolicy) : Stepwise policy Stamped where
  refl := .refl
  trans := .trans
  chosen := stamped_choose
  armed := stamped_armKeepalive policy
  begun := stamped_beginWrite policy
  resumed := stamped_resumeWrite policy

/-- Whatever a run of a writer does, the session is as active as the frames that it got rid of. -/
theorem stamped_run (policy : StreamPolicy) (phase : Phase) (desk : Desk) :
    Stamped desk (run policy phase desk).2 :=
  (stepwise_stamped policy).run phase desk

end Writer

/-! ## Moves that leave the tasks alone -/

/-- Whether a move neither runs a task nor is a sign of life. -/
def Move.isQuiet : Move → Bool
  | .refresh _ | .noteWrite _ | .watch .. | .write .. => false
  | _ => true

/-- The second service has its writer in the same phase, and a client that has accepted the same
frames and follows the same script. -/
structure Service.SameWork (before after : Service) : Prop where
  phase : after.phase = before.phase
  accepted : after.client.accepted = before.client.accepted
  scripted : ∀ script attempts, before.client.peer = .scripted script attempts →
    after.client.peer = .scripted script attempts

/-- A service has the work that it has. -/
theorem Service.SameWork.refl (service : Service) : service.SameWork service :=
  ⟨rfl, rfl, fun _ _ h => h⟩

/-- A service that keeps its work twice keeps its work. -/
theorem Service.SameWork.trans {first second third : Service} (h : first.SameWork second)
    (h' : second.SameWork third) : first.SameWork third :=
  ⟨h'.phase.trans h.phase, h'.accepted.trans h.accepted,
    fun script attempts hpeer => h'.scripted script attempts (h.scripted script attempts hpeer)⟩

namespace Connection

/-- The tasks of the second connection are as far as those of the first one, and its session is as
active. -/
structure Undisturbed (before after : Connection) : Prop where
  watch : after.watch = before.watch
  service : Option.Rel Service.SameWork before.service after.service
  openedAt : after.session.openedAt = before.session.openedAt
  lastActivity : after.session.lastActivity = before.session.lastActivity

/-- So has no service at all. -/
theorem sameWork_refl : (service : Option Service) → Option.Rel Service.SameWork service service
  | none => .none
  | some service => .some (.refl service)

/-- What does not change is undisturbed. -/
theorem Undisturbed.refl (connection : Connection) : connection.Undisturbed connection :=
  ⟨rfl, sameWork_refl _, rfl, rfl⟩

/-- What is undisturbed twice is undisturbed. -/
theorem Undisturbed.trans {first second third : Connection} (h : first.Undisturbed second)
    (h' : second.Undisturbed third) : first.Undisturbed third := by
  refine ⟨h'.watch.trans h.watch, ?_, h'.openedAt.trans h.openedAt,
    h'.lastActivity.trans h.lastActivity⟩
  have hfirst := h.service
  have hsecond := h'.service
  revert hfirst hsecond
  generalize first.service = before
  generalize second.service = between
  generalize third.service = after
  rintro (hbefore | _) hafter
  · cases hafter with
    | some hlater => exact .some (hbefore.trans hlater)
  · exact hafter

/-- A service whose work is that of an earlier one was there before. -/
theorem exists_sameWork {before : Option Service} {service : Service}
    (h : Option.Rel Service.SameWork before (some service)) :
    ∃ earlier, before = some earlier ∧ earlier.SameWork service := by
  cases h with
  | some hsame => exact ⟨_, rfl, hsame⟩

/-- A service of the later connection was there before. -/
theorem Undisturbed.service_eq_some {before after : Connection} (h : before.Undisturbed after)
    {service : Service} (hservice : after.service = some service) :
    ∃ earlier, before.service = some earlier ∧ earlier.SameWork service :=
  exists_sameWork (hservice ▸ h.service)

/-- An undisturbed connection is served exactly if it was before. -/
theorem Undisturbed.isSome_service {before after : Connection} (h : before.Undisturbed after) :
    after.service.isSome = before.service.isSome := by
  have hrel := h.service
  revert hrel
  generalize before.service = earlier
  generalize after.service = later
  rintro (_ | _) <;> rfl

/-- An undisturbed connection has the timers that it had before. -/
theorem Undisturbed.timers {before after : Connection} (h : before.Undisturbed after) :
    after.timers = before.timers := by
  have hwriter : after.writerTimers = before.writerTimers := by
    have hrel := h.service
    unfold writerTimers
    revert hrel
    generalize before.service = earlier
    generalize after.service = later
    rintro (hsame | _)
    · simp only [hsame.phase]
    · rfl
  rw [Connection.timers, Connection.timers, h.watch, hwriter]

/-- What is done to the session leaves the tasks alone, if it is no sign of life. -/
theorem undisturbed_withSession (connection : Connection) (f : Session → Session)
    (hopened : (f connection.session).openedAt = connection.session.openedAt)
    (hactivity : (f connection.session).lastActivity = connection.session.lastActivity) :
    connection.Undisturbed (connection.withSession f) :=
  ⟨rfl, sameWork_refl _, hopened, hactivity⟩

/-- What is done to the client leaves the tasks alone, if it adds nothing to what was accepted. -/
theorem undisturbed_withClient (connection : Connection) (f : Client → Client)
    (haccepted : ∀ client, (f client).accepted = client.accepted)
    (hscripted : ∀ client script attempts, client.peer = .scripted script attempts →
      (f client).peer = .scripted script attempts) :
    connection.Undisturbed (connection.withClient f) := by
  refine ⟨rfl, ?_, rfl, rfl⟩
  cases hservice : connection.service with
  | none =>
    simp only [withClient, hservice]
    exact .none
  | some service =>
    simp only [withClient, hservice]
    exact .some ⟨rfl, haccepted service.client, hscripted service.client⟩

/-- Quiet moves disturb no task. -/
theorem undisturbed_move (connection : Connection) {move : Move} (h : move.isQuiet = true) :
    connection.Undisturbed (connection.move move) := by
  cases move with
  | refresh | noteWrite | watch | write => cases h
  | offer event =>
    have hoffer : (connection.session.offer event).1.openedAt = connection.session.openedAt ∧
        (connection.session.offer event).1.lastActivity = connection.session.lastActivity := by
      rw [Session.offer_eq]
      split
      · split <;> exact ⟨rfl, rfl⟩
      · exact ⟨rfl, rfl⟩
    exact connection.undisturbed_withSession (fun session => (session.offer event).1) hoffer.1
      hoffer.2
  | take =>
    exact connection.undisturbed_withSession
      (fun session => { session with outbox := session.outbox.pop.2 }) rfl rfl
  | release =>
    exact connection.undisturbed_withSession
      (fun session => { session with outbox := session.outbox.release.2 }) rfl rfl
  | close cause =>
    refine connection.undisturbed_withSession (·.retired cause.reason cause.failure) ?_ ?_ <;>
      unfold Session.retired <;> split <;> rfl
  | claim reason =>
    refine connection.undisturbed_withSession
      (fun session => if session.isClaimed then session else session.claimedFor reason) ?_ ?_ <;>
      split <;> rfl
  | receive limit =>
    refine connection.undisturbed_withClient (fun client => (client.receive limit).2)
      (fun client => accepted_receive client limit) ?_
    intro client script attempts hpeer
    simp only [Client.receive, hpeer]
  | leave =>
    refine connection.undisturbed_withClient Client.leave accepted_leave ?_
    intro client script attempts hpeer
    simp only [Client.leave, hpeer]
  | letGo => exact ⟨rfl, sameWork_refl _, rfl, rfl⟩

/-- Moves that run no task leave the tasks alone. -/
theorem undisturbed_after (connection : Connection) {moves : List Move}
    (h : ∀ move ∈ moves, move.isQuiet = true) : connection.Undisturbed (connection.after moves) := by
  induction moves generalizing connection with
  | nil => exact .refl connection
  | cons move rest ih =>
    have hfirst := connection.undisturbed_move (h move List.mem_cons_self)
    exact hfirst.trans (ih _ fun other hother => h other (List.mem_cons_of_mem _ hother))

/-- After its watch has run, a poll of the watch only asks for a closing. -/
theorem undisturbed_polledWatch (connection : Connection) (policy : StreamPolicy) (now : Nat) :
    (connection.watched policy now).Undisturbed (connection.polledWatch policy now) := by
  refine (connection.watched policy now).undisturbed_after fun move hmem => ?_
  split at hmem
  · simp at hmem
  · simp at hmem
  · rw [List.mem_singleton.mp hmem]
    rfl

/-- After its writer has run, a poll of the writer only asks for closings. -/
theorem undisturbed_polledWriter (connection : Connection) (policy : StreamPolicy) (now : Nat) :
    (connection.written policy now).Undisturbed (connection.polledWriter policy now) := by
  refine (connection.written policy now).undisturbed_after fun move hmem => ?_
  obtain ⟨cause, -, rfl⟩ := List.mem_map.mp hmem
  rfl

/-- While its writer runs the session is no less active, and not active in the future. -/
theorem lastActivity_written {connection : Connection} {now : Nat}
    (h : connection.session.lastActivity ≤ now) (policy : StreamPolicy) :
    connection.session.lastActivity ≤ (connection.written policy now).session.lastActivity ∧
      (connection.written policy now).session.lastActivity ≤ now := by
  cases hservice : connection.service with
  | none =>
    have hsame : connection.written policy now = connection := by simp [written, hservice]
    rw [hsame]
    exact ⟨Nat.le_refl _, h⟩
  | some service =>
    have hstamped := Writer.stamped_run policy service.phase (connection.desk service.client now)
    rw [session_written hservice]
    exact ⟨hstamped.le_lastActivity h, hstamped.past h⟩

/-! ## Stages -/

/-- A move leaves the stage of a session alone, or its closing is claimed afterwards. -/
theorem stage_move (connection : Connection) (move : Move) :
    (connection.move move).session.stage = connection.session.stage ∨
      (connection.move move).session.isClaimed = true := by
  cases hends : endsCourse move with
  | false => exact Or.inl (connection.sameCourse_move hends).stage
  | true =>
    cases move with
    | close cause => exact Or.inr (Session.isClaimed_retired _ _ _)
    | claim reason =>
      right
      simp only [Connection.move, withSession]
      split
      · next hclaimed => exact hclaimed
      · rfl
    | release => exact Or.inl rfl
    | _ => cases hends

/-- Moves leave a session in its stage, or it is claimed afterwards. -/
theorem stage_after (connection : Connection) (moves : List Move) :
    (connection.after moves).session.stage = connection.session.stage ∨
      (connection.after moves).session.isClaimed = true := by
  induction moves generalizing connection with
  | nil => exact Or.inl rfl
  | cons move rest ih =>
    rcases connection.stage_move move with hsame | hclaimed
    · rw [← hsame]
      exact ih _
    · exact Or.inr (isClaimed_after hclaimed rest)

/-- A session that is open was open before. -/
theorem open_of_after {connection : Connection} {moves : List Move}
    (h : (connection.after moves).session.stage = .open) : connection.session.stage = .open := by
  rcases connection.stage_after moves with hsame | hclaimed
  · exact hsame.symm.trans h
  · rw [Session.isClaimed_of_open h] at hclaimed
    cases hclaimed

end Connection

namespace Hub

/-! ## The frame of an operation -/

/-- The later hub has the same policy, the same time, and stops if the first one does. -/
structure Steady (hub later : Hub) : Prop where
  policy : later.policy = hub.policy
  now : later.now = hub.now
  stopping : later.stopping = hub.stopping

/-- A hub is steady where nothing happens. -/
theorem Steady.refl (hub : Hub) : hub.Steady hub := ⟨rfl, rfl, rfl⟩

/-- What is steady twice is steady. -/
theorem Steady.trans {first second third : Hub} (h : first.Steady second) (h' : second.Steady third) :
    first.Steady third :=
  ⟨h'.policy.trans h.policy, h'.now.trans h.now, h'.stopping.trans h.stopping⟩

/-- Changes are steady. -/
theorem steady_of_path {hub later : Hub} (h : hub.Path later) : hub.Steady later :=
  ⟨(frame_path h).1, (frame_path h).2.1, (frame_path h).2.2.1⟩

/-- What is steady for one item is so for many. -/
theorem steady_foldl {A : Type} {f : Hub → A → Hub} (h : ∀ (hub : Hub) item, hub.Steady (f hub item))
    (items : List A) (hub : Hub) : hub.Steady (items.foldl f hub) := by
  induction items generalizing hub with
  | nil => exact .refl hub
  | cons item rest ih => exact (h hub item).trans (ih _)

/-- Reporting a stale handle is steady. -/
theorem steady_noteStale (topic : Topic) (hub : Hub) (n : Nat) :
    hub.Steady (noteStale topic hub n) := by
  unfold noteStale
  simp only
  split <;> exact ⟨rfl, rfl, rfl⟩

/-- A delivery is steady. -/
theorem steady_deliver (event : CounterEvent) (report : Delivery) (hub : Hub) (n : Nat) :
    hub.Steady (deliver event report hub n).2 := by
  obtain ⟨hpolicy, hnow, hstopping⟩ := frame_deliver event report hub n
  exact ⟨hpolicy, hnow, hstopping⟩

/-- So are several. -/
theorem steady_deliverAll (event : CounterEvent) (ns : List Nat) (report : Delivery) (hub : Hub) :
    hub.Steady (deliverAll event ns report hub).2 := by
  induction ns generalizing report hub with
  | nil => exact .refl hub
  | cons n rest ih => exact (steady_deliver event report hub n).trans (ih _ _)

/-- A distribution to given recipients is steady. -/
theorem steady_distributeTo (recipients : Recipients) (event : CounterEvent) (hub : Hub) :
    hub.Steady (distributeTo recipients event hub).2 := by
  have hstale := steady_foldl (steady_noteStale event.topic) recipients.stale hub
  have hall := steady_deliverAll event recipients.sessions
    { recipients := recipients.sessions.length, stale := recipients.stale }
    (recipients.stale.foldl (noteStale event.topic) hub)
  exact ⟨(hstale.trans hall).policy, (hstale.trans hall).now, (hstale.trans hall).stopping⟩

/-- A distribution is steady. -/
theorem steady_distribute (hub : Hub) (event : CounterEvent) :
    hub.Steady (hub.distribute event).2 := by
  have htaken : hub.Steady (hub.countPublished.takeRecipients event.topic).2 := ⟨rfl, rfl, rfl⟩
  exact htaken.trans (steady_distributeTo _ event _)

/-- A publication leaves clock and policy alone, whatever it finds out of order. -/
theorem steady_publish (hub : Hub) (event : CounterEvent) : hub.Steady (hub.publish event).2 := by
  have hclose (hub : Hub) (n : Nat) (fault : StreamFault) : hub.Steady (hub.closeFor n fault).2 :=
    steady_of_path (path_closeFor hub n fault)
  exact ((steady_distribute hub event).trans (steady_foldl (fun hub n => hclose hub n _) _ _)).trans
    (steady_foldl (fun hub n => hclose hub n _) _ _)

/-- After its outset no operation changes the clock, the policy or the signal to stop. -/
theorem steady_step (hub : Hub) (operation : Operation) :
    (hub.outset operation).Steady (hub.step operation) := by
  cases hpanics : hub.panics operation with
  | true =>
    rw [(step_of_panics hpanics).1, outset_of_panics hpanics]
    exact ⟨rfl, rfl, rfl⟩
  | false =>
    cases operation with
    | publish event => exact steady_publish hub event
    | join topic id => exact steady_of_path (path_join hpanics)
    | connect topic id transport initial => exact steady_of_path (path_connect hpanics)
    | offer n event =>
      rw [step, offer_snd]
      exact ⟨rfl, rfl, rfl⟩
    | close n reason => exact steady_of_path (path_close hub n reason)
    | closeFor n fault => exact steady_of_path (path_closeFor hub n fault)
    | closeLive n reason => exact steady_of_path (path_closeLive hub n reason)
    | clearTopic topic => exact steady_of_path (path_clearTopic hub topic)
    | sweep => exact steady_of_path (path_sweep hub.beginStop)
    | receive n limit => exact steady_of_path (path_receive hub n limit)
    | pollWatch n => exact steady_of_path (path_pollWatch hub n)
    | pollWriter n => exact steady_of_path (path_pollWriter hub n)
    | claim n reason =>
      rw [step, claimed_eq]
      exact ⟨rfl, rfl, rfl⟩
    | subscribe n topic =>
      simp only [step, enroll]
      split <;> exact ⟨rfl, rfl, rfl⟩
    | create topic capacity id =>
      rw [step_create]
      split <;> exact ⟨rfl, rfl, rfl⟩
    | take | refresh | noteWrite | loseClient | letGo | pass | report | countHit | release
    | unsubscribe => exact ⟨rfl, rfl, rfl⟩

/-- No operation changes the policy. -/
theorem policy_step (hub : Hub) (operation : Operation) :
    (hub.step operation).policy = hub.policy := by
  rw [(hub.steady_step operation).policy]
  cases operation <;> rfl

/-- No run changes the policy. -/
theorem policy_run (hub : Hub) (operations : List Operation) :
    (hub.run operations).policy = hub.policy := by
  induction operations generalizing hub with
  | nil => rfl
  | cons operation rest ih => rw [run_cons, ih, policy_step]

/-- Only the passing of time takes time. -/
theorem now_step {hub : Hub} {operation : Operation} (h : ∀ millis, operation ≠ .pass millis) :
    (hub.step operation).now = hub.now := by
  rw [(hub.steady_step operation).now]
  cases operation with
  | pass millis => exact absurd rfl (h millis)
  | _ => rfl

/-- The clock never goes back. -/
theorem now_le_step (hub : Hub) (operation : Operation) : hub.now ≤ (hub.step operation).now := by
  rw [(hub.steady_step operation).now]
  cases operation with
  | pass millis => exact Nat.le_add_right _ _
  | _ => exact Nat.le_refl _

/-- A hub that stops goes on stopping. -/
theorem stopping_step {hub : Hub} (h : hub.stopping = true) (operation : Operation) :
    (hub.step operation).stopping = true := by
  rw [(hub.steady_step operation).stopping]
  cases operation with
  | sweep => rfl
  | _ => exact h

/-- A hub that stops keeps stopping. -/
theorem stopping_run {hub : Hub} (h : hub.stopping = true) (operations : List Operation) :
    (hub.run operations).stopping = true := by
  induction operations generalizing hub with
  | nil => exact h
  | cons operation rest ih => exact ih (stopping_step h operation)

/-! ## The cases of a step -/

/-- How an operation can come to the connection of number `n`, and what it makes of it. -/
inductive StepCase (hub : Hub) (n : Nat) : Operation → Connection → Prop
  | arrives {operation : Operation} {connection : Connection} (hn : n = hub.connections.length)
      (h : hub.Arrives operation connection) : StepCase hub n operation connection
  | watched (before : Connection) (h : hub.connections[n]? = some before) :
      StepCase hub n (.pollWatch n) (before.polledWatch hub.policy hub.now)
  | served (before : Connection) (h : hub.connections[n]? = some before) :
      StepCase hub n (.pollWriter n) (before.polledWriter hub.policy hub.now)
  | refreshed (before : Connection) (h : hub.connections[n]? = some before) :
      StepCase hub n (.refresh n) (before.move (.refresh hub.now))
  | noted (before : Connection) (h : hub.connections[n]? = some before) :
      StepCase hub n (.noteWrite n) (before.move (.noteWrite hub.now))
  | quiet {operation : Operation} (before : Connection) (h : hub.connections[n]? = some before)
      (hquiet : ∀ move ∈ hub.moves n operation, move.isQuiet = true) :
      StepCase hub n operation (before.after (hub.moves n operation))

/-- An operation that adds no connection does one of these things to one that is there. -/
theorem stepCase_of_moves {hub : Hub} {n : Nat} {before : Connection}
    (h : hub.connections[n]? = some before) (operation : Operation) :
    hub.StepCase n operation (before.after (hub.moves n operation)) := by
  by_cases hquiet : ∀ move ∈ hub.moves n operation, move.isQuiet = true
  · exact .quiet before h hquiet
  · simp only [not_forall] at hquiet
    obtain ⟨move, hmem, hloud⟩ := hquiet
    cases does_of_mem hmem with
    | watch =>
      simp only [moves, only, if_true, watchMoves, h]
      exact .watched before h
    | write =>
      simp only [moves, only, if_true, writerMoves, h]
      exact .served before h
    | refresh =>
      simp only [moves, only, if_true]
      exact .refreshed before h
    | noteWrite =>
      simp only [moves, only, if_true]
      exact .noted before h
    | _ => exact absurd rfl hloud

/-- No operation takes a connection away. -/
theorem length_le_step (hub : Hub) (operation : Operation) :
    hub.connections.length ≤ (hub.step operation).connections.length := by
  cases hcreates : operation.creates with
  | false => exact Nat.le_of_eq (hub.acts_step hcreates).length_eq.symm
  | true =>
    rcases hub.arrives_of_creates hcreates with hsame | ⟨_, -, hadded⟩
    · exact Nat.le_of_eq (congrArg List.length hsame.symm)
    · rw [hadded, List.length_append]
      exact Nat.le_add_right _ _

/-- A step comes to a connection in one of these ways. -/
theorem stepCase {hub : Hub} {n : Nat} {operation : Operation} {connection : Connection}
    (h : (hub.step operation).connections[n]? = some connection) :
    hub.StepCase n operation connection := by
  cases hbefore : hub.connections[n]? with
  | some before =>
    rw [connections_step hbefore] at h
    obtain rfl := Option.some.inj h
    exact stepCase_of_moves hbefore operation
  | none =>
    obtain ⟨hn, harrives⟩ := arrives_step hbefore h
    exact .arrives hn harrives

/-- Only a poll of the writer itself goes on with its work. -/
theorem sameWork_step {hub : Hub} {n : Nat} {before later : Connection} {operation : Operation}
    (hbefore : hub.connections[n]? = some before)
    (hlater : (hub.step operation).connections[n]? = some later) (hother : operation ≠ .pollWriter n) :
    Option.Rel Service.SameWork before.service later.service := by
  have hfound_eq {found : Connection} (hfound : hub.connections[n]? = some found) :
      found = before := Option.some.inj (hfound.symm.trans hbefore)
  cases stepCase hlater with
  | arrives hn => exact absurd hn (Nat.ne_of_lt (List.getElem?_eq_some_iff.mp hbefore).1)
  | served => exact absurd rfl hother
  | watched found hfound =>
    obtain rfl := hfound_eq hfound
    exact (found.undisturbed_polledWatch hub.policy hub.now).service
  | refreshed found hfound | noted found hfound =>
    obtain rfl := hfound_eq hfound
    exact Connection.sameWork_refl _
  | quiet found hfound hquiet =>
    obtain rfl := hfound_eq hfound
    exact (found.undisturbed_after hquiet).service

/-! ## What lasts -/

/-- A property of one connection at one time that polls, signs of life and quiet moves keep. -/
structure Lasting (policy : StreamPolicy) (P : Nat → Connection → Prop) : Prop where
  watched (now : Nat) (connection : Connection) :
    P now connection → P now (connection.polledWatch policy now)
  served (now : Nat) (connection : Connection) :
    P now connection → P now (connection.polledWriter policy now)
  refreshed (now : Nat) (connection : Connection) :
    P now connection → P now (connection.move (.refresh now))
  noted (now : Nat) (connection : Connection) :
    P now connection → P now (connection.move (.noteWrite now))
  quiet (now : Nat) (connection : Connection) (move : Move) :
    move.isQuiet = true → P now connection → P now (connection.move move)

variable {policy : StreamPolicy} {P : Nat → Connection → Prop}

/-- What lasts is kept by any quiet moves. -/
theorem Lasting.after (h : Lasting policy P) {now : Nat} {connection : Connection}
    (hconnection : P now connection) {moves : List Move}
    (hmoves : ∀ move ∈ moves, move.isQuiet = true) : P now (connection.after moves) :=
  Connection.after_induction hconnection fun move hmem before hbefore =>
    h.quiet now before move (hmoves move hmem) hbefore

/-- What every single move keeps lasts. -/
theorem lasting_of_move
    (h : ∀ now (connection : Connection) move, P now connection → P now (connection.move move)) :
    Lasting policy P := by
  have hafter (now : Nat) (connection : Connection) (moves : List Move) (hP : P now connection) :
      P now (connection.after moves) :=
    Connection.after_induction hP fun move _ before => h now before move
  exact ⟨fun now connection => hafter now connection _, fun now connection => hafter now connection _,
    fun now connection => h now connection _, fun now connection => h now connection _,
    fun now connection move _ => h now connection move⟩

/-- What only depends on the tasks and the signs of life lasts if it lasts when they are changed. -/
theorem lasting_of_undisturbed
    (hundisturbed : ∀ now (before after : Connection), before.Undisturbed after →
      P now before → P now after)
    (hwatched : ∀ now connection, P now connection → P now (connection.watched policy now))
    (hwritten : ∀ now connection, P now connection → P now (connection.written policy now))
    (hrefreshed : ∀ now connection, P now connection → P now (connection.move (.refresh now)))
    (hnoted : ∀ now connection, P now connection → P now (connection.move (.noteWrite now))) :
    Lasting policy P where
  watched now connection h :=
    hundisturbed now _ _ (connection.undisturbed_polledWatch policy now) (hwatched now connection h)
  served now connection h :=
    hundisturbed now _ _ (connection.undisturbed_polledWriter policy now)
      (hwritten now connection h)
  refreshed := hrefreshed
  noted := hnoted
  quiet now connection _ hquiet h :=
    hundisturbed now _ _ (connection.undisturbed_move hquiet) h

/-- What lasts in a connection that a step finds, and holds of one that a step adds, holds after
the step, as far as it takes no time. -/
theorem Lasting.step {hub : Hub} (h : Lasting hub.policy P) {n : Nat} {operation : Operation}
    {later : Connection} (hlater : (hub.step operation).connections[n]? = some later)
    (harrives : n = hub.connections.length → hub.Arrives operation later → P hub.now later)
    (hbefore : ∀ before, hub.connections[n]? = some before → P hub.now before) :
    P hub.now later := by
  cases stepCase hlater with
  | arrives hn hadded => exact harrives hn hadded
  | watched before hfound => exact h.watched _ before (hbefore before hfound)
  | served before hfound => exact h.served _ before (hbefore before hfound)
  | refreshed before hfound => exact h.refreshed _ before (hbefore before hfound)
  | noted before hfound => exact h.noted _ before (hbefore before hfound)
  | quiet before hfound hquiet => exact h.after (hbefore before hfound) hquiet

/-- What lasts, and does not end with time, holds of all connections of a run if it holds of each
one that is added. -/
theorem Lasting.run {hub : Hub} (h : Lasting hub.policy P)
    (hpass : ∀ now later connection, now ≤ later → P now connection → P later connection)
    (harrives : ∀ (hub' : Hub) operation connection, hub'.policy = hub.policy →
      hub'.Arrives operation connection → P hub'.now connection)
    (hall : ∀ connection ∈ hub.connections, P hub.now connection) (operations : List Operation) :
    ∀ connection ∈ (hub.run operations).connections, P (hub.run operations).now connection := by
  induction operations generalizing hub with
  | nil => exact hall
  | cons operation rest ih =>
    have hpolicy := policy_step hub operation
    refine ih (hpolicy ▸ h) (hpolicy ▸ harrives) fun connection hmem => ?_
    obtain ⟨n, hn⟩ := List.mem_iff_getElem?.mp hmem
    refine hpass _ _ connection (now_le_step hub operation) (h.step hn (fun _ => ?_) ?_)
    · exact harrives hub operation connection rfl
    · exact fun before hbefore => hall before (List.mem_of_getElem? hbefore)

/-- What lasts in one connection holds of it after a run. -/
theorem Lasting.run_one {hub : Hub} (h : Lasting hub.policy P)
    (hpass : ∀ now later connection, now ≤ later → P now connection → P later connection) {n : Nat}
    {connection : Connection} (hconnection : hub.connections[n]? = some connection)
    (hP : P hub.now connection) (operations : List Operation) :
    ∃ later, (hub.run operations).connections[n]? = some later ∧
      P (hub.run operations).now later := by
  induction operations generalizing hub connection with
  | nil => exact ⟨connection, hconnection, hP⟩
  | cons operation rest ih =>
    have hlater := connections_step hconnection operation
    have hpolicy := policy_step hub operation
    refine ih (hpolicy ▸ h) hlater ?_
    refine hpass _ _ _ (now_le_step hub operation) (h.step hlater (fun hn => ?_) ?_)
    · have hlength := (List.getElem?_eq_some_iff.mp hconnection).1
      exact absurd hn (Nat.ne_of_lt hlength)
    · rintro before hbefore
      rwa [← Option.some.inj (hconnection.symm.trans hbefore)]

/-! ## What is observed of a session -/

section Observing

variable {A : Type} {observe : Hub → Operation → List A} {n : Nat}

/-- A connection that is not there after an operation was not there before. -/
theorem none_of_step {hub : Hub} {operation : Operation}
    (h : (hub.step operation).connections[n]? = none) : hub.connections[n]? = none := by
  rw [List.getElem?_eq_none_iff] at h ⊢
  exact Nat.le_trans (length_le_step hub operation) h

/-- What is never observed before a session exists has not been observed of one that does not exist
yet. -/
theorem history_eq_nil
    (hnone : ∀ hub operation, (step hub operation).connections[n]? = none → observe hub operation = [])
    {hub : Hub} {operations : List Operation} (h : (hub.run operations).connections[n]? = none) :
    history observe hub operations = [] := by
  induction operations generalizing hub with
  | nil => rfl
  | cons operation rest ih =>
    have hfirst : (hub.step operation).connections[n]? = none := by
      refine Option.eq_none_iff_forall_not_mem.mpr fun connection hfound => ?_
      obtain ⟨moves, hlater⟩ := connections_run hfound rest
      cases h.symm.trans hlater
    rw [history, hnone hub operation hfirst, ih h]
    rfl

/-- What holds of a session with all that has been observed of it, in a run in which it holds of a
session that comes, and each step keeps it. -/
theorem history_run {P : List A → Connection → Prop} {operations : List Operation}
    (hnone : ∀ hub operation, (step hub operation).connections[n]? = none → observe hub operation = [])
    (harrives : ∀ earlier operation later, earlier ++ [operation] <+: operations →
      n = ((Hub.new policy).run earlier).connections.length →
      ((Hub.new policy).run earlier).Arrives operation later →
      P (observe ((Hub.new policy).run earlier) operation) later)
    (hstep : ∀ earlier operation before, earlier ++ [operation] <+: operations →
      ((Hub.new policy).run earlier).connections[n]? = some before →
      P (history observe (Hub.new policy) earlier) before →
      P (history observe (Hub.new policy) earlier ++ observe ((Hub.new policy).run earlier) operation)
        (before.after (((Hub.new policy).run earlier).moves n operation)))
    {connection : Connection}
    (h : ((Hub.new policy).run operations).connections[n]? = some connection) :
    P (history observe (Hub.new policy) operations) connection := by
  induction operations using List.reverseRecOn generalizing connection with
  | nil => simp [Hub.new] at h
  | append_singleton operations operation ih =>
    rw [run_append, run_cons, run_nil] at h
    rw [history_append]
    simp only [history, List.append_nil]
    cases hfound : ((Hub.new policy).run operations).connections[n]? with
    | none =>
      obtain ⟨hn, hcomes⟩ := arrives_step hfound h
      rw [history_eq_nil hnone hfound, List.nil_append]
      exact harrives operations operation connection List.prefix_rfl hn hcomes
    | some before =>
      rw [connections_step hfound] at h
      obtain rfl := Option.some.inj h
      refine hstep operations operation before List.prefix_rfl hfound (ih ?_ ?_ hfound)
      · exact fun earlier other later hbegins =>
          harrives earlier other later (hbegins.trans (List.prefix_append _ _))
      · exact fun earlier other before' hbegins =>
          hstep earlier other before' (hbegins.trans (List.prefix_append _ _))

end Observing

end Hub

end LiveCounter
