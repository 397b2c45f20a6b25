import LiveCounter.Proofs.Handles
import LiveCounter.Proofs.Stopping

/-!
# Sessions that leave

When the tasks of a session end, the session leaves the records that all sessions share. What it
takes away depends on the session alone, so of several sessions that leave it does not matter which
one leaves first.
-/

namespace LiveCounter

/-- A session that leaves the records of live sessions. -/
structure Departure where
  n : Nat
  topic : Topic
  /-- The stage that the session was in before. -/
  previous : SessionStage
  reason : CloseReason
  deriving DecidableEq

namespace Hub

/-! ## The records -/

/-- The records that all sessions share: the hub without its connections and its reports. -/
def books (hub : Hub) : Hub := { hub with connections := [], metrics := {}, journal := [] }

/-- The hub after a session has left the records. -/
def without (hub : Hub) (departure : Departure) : Hub :=
  (((hub.offTopic departure.n departure.topic departure.previous).offTable departure.n).tallyClosed
    departure.previous).tallyForced departure.reason

/-- Reports are not among the records that all sessions share. -/
theorem Reports.books {hub later : Hub} (h : hub.Reports later) : later.books = hub.books := by
  obtain ⟨_, _, -, rfl⟩ := h
  rfl

/-- Of two sessions that leave it does not matter which one leaves first. -/
theorem without_comm {hub : Hub} (h : hub.subscriptions.WellFormed) {first second : Departure}
    (hne : first.n ≠ second.n) :
    (hub.without first).without second = (hub.without second).without first := by
  have hsubs := h.unsubscribe_comm first.topic second.topic first.n second.n
  have hfirst := h.contains_unsubscribe first.topic second.topic first.n second.n
  have hsecond := h.contains_unsubscribe second.topic first.topic second.n first.n
  simp only [hne, hne.symm, decide_false, Bool.and_false, Bool.not_false, Bool.and_true]
    at hfirst hsecond
  simp only [without, offTopic, offTable, tallyClosed, tallyForced, hsubs, hfirst, hsecond,
    List.erase_comm second.n first.n, List.mem_erase_of_ne hne, List.mem_erase_of_ne hne.symm,
    Hub.mk.injEq, true_and, and_true]
  have hcomm (f : Nat → Nat) (p q : Prop) [Decidable p] [Decidable q] (total : Nat) :
      (if q then f (if p then f total else total) else if p then f total else total) =
        if p then f (if q then f total else total) else if q then f total else total := by
    by_cases hp : p <;> by_cases hq : q <;> simp only [hp, hq, if_true, if_false]
  exact ⟨hcomm (· - 1) _ _ _, hcomm (· + 1) _ _ _, hcomm (· + 1) _ _ _, hcomm (· + 1) _ _ _⟩

/-- Sessions may leave in any order. -/
theorem foldl_without_of_perm {first second : List Departure} (hperm : first.Perm second)
    (hapart : ∀ departure ∈ first, ∀ other ∈ first, departure ≠ other → departure.n ≠ other.n)
    {hub : Hub} (h : hub.subscriptions.WellFormed) :
    first.foldl without hub = second.foldl without hub := by
  induction hperm generalizing hub with
  | nil => rfl
  | cons departure _ ih =>
    exact ih (fun one hone other hother => hapart one (List.mem_cons_of_mem _ hone) other
      (List.mem_cons_of_mem _ hother)) (h.unsubscribe departure.topic departure.n)
  | swap departure other rest =>
    by_cases hsame : departure = other
    · rw [hsame]
    · have hne := hapart departure (by simp) other (by simp) hsame
      simp only [List.foldl_cons, without_comm h hne]
  | trans hperm _ ih ih' =>
    rw [ih hapart h]
    exact ih' (fun one hone other hother =>
      hapart one (hperm.mem_iff.mpr hone) other (hperm.mem_iff.mpr hother)) h

end Hub

/-! ## Who leaves -/

namespace Connection

/-- No reason is written down for a session that nobody has claimed. -/
def Unreasoned (connection : Connection) : Prop :=
  connection.session.isClaimed = false → connection.session.reason = none

/-- The session leaves if its closing is claimed by the given moves. -/
def departures (connection : Connection) (n : Nat) (moves : List Move) : List Departure :=
  if connection.session.isClaimed = false ∧ (connection.after moves).session.isClaimed = true then
    [⟨n, connection.session.topic, connection.session.stage,
      (connection.after moves).session.statedReason⟩]
  else []

/-- A session leaves under its own number. -/
theorem n_of_mem_departures {connection : Connection} {n : Nat} {moves : List Move}
    {departure : Departure} (h : departure ∈ connection.departures n moves) : departure.n = n := by
  unfold departures at h
  split at h
  · rw [List.mem_singleton.mp h]
  · cases h

/-- A session leaves the records once. -/
theorem length_departures_le_one (connection : Connection) (n : Nat) (moves : List Move) :
    (connection.departures n moves).length ≤ 1 := by
  unfold departures
  split <;> simp

/-- A session that is claimed already does not leave again. -/
theorem departures_of_isClaimed {connection : Connection}
    (h : connection.session.isClaimed = true) (n : Nat) (moves : List Move) :
    connection.departures n moves = [] := by
  simp [departures, h]

/-- A session that nobody has claimed afterwards has not left. -/
theorem departures_of_unclaimed {connection : Connection} {moves : List Move}
    (h : (connection.after moves).session.isClaimed = false) (n : Nat) :
    connection.departures n moves = [] := by
  simp [departures, h]

/-- A session leaves only by a move that can end its course. -/
theorem departures_of_sameCourse {connection : Connection} {move : Move}
    (h : endsCourse move = false) (n : Nat) : connection.departures n [move] = [] := by
  have hsame : ((connection.after [move]).session).isClaimed = connection.session.isClaimed :=
    (connection.sameCourse_move h).isClaimed
  cases hclaimed : connection.session.isClaimed with
  | true => exact departures_of_isClaimed hclaimed n _
  | false => exact departures_of_unclaimed (hsame.trans hclaimed) n

/-- A session leaves once, or not at all. -/
theorem departures_append (connection : Connection) (n : Nat) (first second : List Move) :
    connection.departures n (first ++ second) =
      connection.departures n first ++ (connection.after first).departures n second := by
  cases hfirst : (connection.after first).session.isClaimed with
  | true =>
    have hsecond : ((connection.after first).after second).session.isClaimed = true :=
      isClaimed_after hfirst second
    have hreason : ((connection.after first).after second).session.statedReason =
        (connection.after first).session.statedReason := by
      rw [Session.statedReason, Session.statedReason, (sameEnd_after hfirst second).reason]
    rw [departures_of_isClaimed hfirst, List.append_nil]
    simp only [departures, after_append, hfirst, hsecond, hreason]
  | false =>
    have hstage : (connection.after first).session.stage = connection.session.stage := by
      refine (connection.stage_after first).resolve_right ?_
      simp [hfirst]
    have hunclaimed : connection.session.isClaimed = false := by
      rw [Session.isClaimed, ← hstage]
      exact hfirst
    rw [departures_of_unclaimed hfirst, List.nil_append]
    simp only [departures, after_append, hfirst, hunclaimed, hstage, topic_after]

/-- A session stays in the records during moves of which none can end its course. -/
theorem departures_of_sameCourses {connection : Connection} {moves : List Move}
    (h : ∀ move ∈ moves, endsCourse move = false) (n : Nat) : connection.departures n moves = [] := by
  induction moves generalizing connection with
  | nil => cases hclaimed : connection.session.isClaimed <;> simp [departures, hclaimed]
  | cons move rest ih =>
    rw [← List.singleton_append, departures_append,
      departures_of_sameCourse (h move List.mem_cons_self), List.nil_append]
    exact ih fun other hother => h other (List.mem_cons_of_mem _ hother)

/-- A move writes down a reason only as it claims the session. -/
theorem Unreasoned.move {connection : Connection} (h : connection.Unreasoned) (move : Move) :
    (connection.move move).Unreasoned := by
  intro hunclaimed
  cases hends : endsCourse move with
  | false =>
    have hsame := connection.sameCourse_move hends
    exact hsame.reason.trans (h (hsame.isClaimed.symm.trans hunclaimed))
  | true =>
    cases move with
    | close cause =>
      have hclaimed := Session.isClaimed_retired connection.session cause.reason cause.failure
      cases hclaimed.symm.trans hunclaimed
    | claim reason =>
      simp only [Connection.move, withSession] at hunclaimed
      split at hunclaimed
      · next hclaimed => cases hclaimed.symm.trans hunclaimed
      · cases hunclaimed
    | release => exact h hunclaimed
    | _ => cases hends

/-- A reason is written down only together with a claim, whatever the moves. -/
theorem Unreasoned.after {connection : Connection} (h : connection.Unreasoned) (moves : List Move) :
    (connection.after moves).Unreasoned :=
  after_induction h fun move _ _ hbefore => hbefore.move move

/-- A closing takes an unclaimed session away for the reason that it gives. -/
theorem departures_close {connection : Connection} (h : connection.Unreasoned)
    (hunclaimed : connection.session.isClaimed = false) (n : Nat) (cause : Cause) :
    connection.departures n [.close cause] =
      [⟨n, connection.session.topic, connection.session.stage, cause.reason⟩] := by
  have hclaimed : (connection.after [.close cause]).session.isClaimed = true :=
    Session.isClaimed_retired _ _ _
  have hreason : (connection.after [.close cause]).session.statedReason = cause.reason := by
    simp [move, withSession, Session.retired, hunclaimed, Session.statedReason, h hunclaimed]
  rw [departures, if_pos ⟨hunclaimed, hclaimed⟩, hreason]

end Connection

namespace Hub

/-- The later hub has the records of the first one without session `n`, if the moves of the session
claim it. -/
def Strikes (hub later : Hub) (n : Nat) (moves : List Move) : Prop :=
  ∀ connection, hub.connections[n]? = some connection → connection.Unreasoned →
    later.books = (connection.departures n moves).foldl without hub.books

/-- What one stretch of moves strikes off the records and what the next one does add up. -/
theorem Strikes.trans {first second third : Hub} {n : Nat} {moves moves' : List Move}
    (hacts : first.Acts second (only n moves)) (h : first.Strikes second n moves)
    (h' : second.Strikes third n moves') : first.Strikes third n (moves ++ moves') := by
  intro connection hconnection hfresh
  have hsecond : second.connections[n]? = some (connection.after moves) := by
    rw [hacts n, hconnection, Option.map_some, only, if_pos rfl]
  rw [connection.departures_append, List.foldl_append, ← h connection hconnection hfresh]
  exact h' _ hsecond (hfresh.after moves)

/-- Records that are left alone agree with moves that cannot end a session. -/
theorem strikes_of_books {hub later : Hub} (h : later.books = hub.books) (n : Nat)
    {moves : List Move} (hmoves : ∀ move ∈ moves, Connection.endsCourse move = false) :
    hub.Strikes later n moves := by
  intro connection _ _
  rw [Connection.departures_of_sameCourses hmoves, h]
  rfl

/-- Retiring a session strikes it off if it was the first to claim it. -/
theorem strikes_retire (hub : Hub) (n : Nat) (cause : Cause) :
    hub.Strikes (hub.retire n cause.reason cause.failure).2 n [.close cause] := by
  intro connection hconnection hfresh
  have hs : hub.session? n = some connection.session := by rw [session?, hconnection, Option.map_some]
  cases hclaimed : connection.session.isClaimed with
  | true =>
    rw [Connection.departures_of_isClaimed hclaimed, retire_of_isClaimed fun session h =>
      Option.some.inj (hs.symm.trans h) ▸ hclaimed]
    rfl
  | false =>
    rw [Connection.departures_close hfresh hclaimed]
    exact (retire_of_unclaimed hs hclaimed cause.reason cause.failure).2.books

/-- A report before the closing makes no difference. -/
theorem strikes_logged (hub : Hub) (level : LogLevel) (message : String)
    (fields : List (String × Json)) (n : Nat) (cause : Cause) :
    hub.Strikes ((hub.log level message fields).retire n cause.reason cause.failure).2 n
      [.close cause] :=
  (strikes_of_books rfl n (by simp)).trans (acts_log hub level message fields n)
    (strikes_retire _ n cause)

/-- The hub with the connection of a number put in place of the one that is there. -/
theorem modify_const {hub : Hub} {n : Nat} {connection later : Connection}
    {f : Connection → Connection} (h : hub.connections[n]? = some connection)
    (hf : f connection = later) : hub.modify n f = hub.modify n fun _ => later :=
  congrArg (fun connections => { hub with connections }) (modify_congr_at h hf)

/-- A poll of the watch stores the watch, and closes a session that it finds silent. -/
theorem pollWatch_eq {hub : Hub} {n : Nat} {connection : Connection}
    (h : hub.connections[n]? = some connection) :
    hub.pollWatch n =
      let stored := hub.modify n fun _ => connection.watched hub.policy hub.now
      match connection.watchFinding hub.policy hub.now with
      | .alive | .cancelled => stored
      | .silent =>
        let silence := connection.session.silence hub.now
        ((stored.log .warn "session idle, closing" (topicFields connection.session.id
          connection.session.topic ++ [("idle_ms", .nat silence.millis)])).closeFor n
            (.idleTimeout silence)).2 := by
  have hstored : (hub.modify n fun connection' =>
      { connection' with
        watch := (connection.watched hub.policy hub.now).watch
        timersSet := (connection.watched hub.policy hub.now).timersSet }) =
      hub.modify n fun _ => connection.watched hub.policy hub.now := modify_const h rfl
  simp only [pollWatch, h, Connection.watchFinding, ← hstored]
  rfl

/-- A poll of the writer stores the writer, and closes the session if the writer has ended. -/
theorem pollWriter_eq {hub : Hub} {n : Nat} {connection : Connection}
    (h : hub.connections[n]? = some connection) :
    hub.pollWriter n =
      let stored := hub.modify n fun _ => connection.written hub.policy hub.now
      match connection.writerExit? hub.policy hub.now with
      | none => stored
      | some exit => stored.endWriter n exit := by
  cases hservice : connection.service with
  | none =>
    have hsame : connection.written hub.policy hub.now = connection := by
      simp [Connection.written, hservice]
    simp only [pollWriter, h, hservice, Connection.writerExit?, hsame]
    exact (modify_eq_self fun other hother => Option.some.inj (h.symm.trans hother)).symm
  | some service =>
    simp only [pollWriter, h, hservice, Connection.writerExit?, Connection.written,
      Connection.desk]
    generalize Writer.run hub.policy service.phase { session := connection.session
                                                     client := service.client
                                                     clock := connection.clock hub.now } = result
    obtain ⟨run, desk⟩ := result
    cases run with
    | suspended phase => exact modify_const h rfl
    | exited exit => exact congrArg (·.endWriter n exit) (modify_const h rfl)

/-- A poll of the watch strikes the session off if it claims it. -/
theorem strikes_pollWatch (hub : Hub) (n : Nat) :
    hub.Strikes (hub.pollWatch n) n (hub.watchMoves n) := by
  intro connection hconnection
  have hacts : hub.Acts (hub.modify n fun _ => connection.watched hub.policy hub.now)
      (only n [.watch hub.policy hub.now]) :=
    acts_modify fun other hother => Option.some.inj (hconnection.symm.trans hother) ▸ rfl
  have hstored : hub.Strikes (hub.modify n fun _ => connection.watched hub.policy hub.now) n
      [.watch hub.policy hub.now] := strikes_of_books rfl n (by simp [Connection.endsCourse])
  suffices h : hub.Strikes _ n _ from h connection hconnection
  rw [pollWatch_eq hconnection]
  simp only [watchMoves, hconnection, Connection.watchMoves]
  cases connection.watchFinding hub.policy hub.now with
  | alive | cancelled => exact hstored
  | silent => exact hstored.trans hacts (strikes_logged _ _ _ _ n (.error (.idleTimeout _)))

/-- A writer that ends strikes its session off if its exit claims it. -/
theorem strikes_endWriter (hub : Hub) (n : Nat) (exit : WriterExit) :
    hub.Strikes (hub.endWriter n exit) n (exit.causes.map .close) := by
  cases exit with
  | orderly reason => exact strikes_logged hub _ _ _ n (.plain reason)
  | failed fault =>
    have hacts := (acts_log hub .warn "write failed, closing session"
      [("error", .str fault.message)] n).then (acts_closeFor _ n (.transport fault))
    exact (strikes_logged hub _ _ _ n (.error (.transport fault))).trans hacts
      (strikes_logged _ _ _ _ n (.plain .transportError))
  | panicked => exact strikes_retire hub n (.plain .aborted)

/-- A poll of the writer strikes the session off if it claims it. -/
theorem strikes_pollWriter (hub : Hub) (n : Nat) :
    hub.Strikes (hub.pollWriter n) n (hub.writerMoves n) := by
  intro connection hconnection
  have hacts : hub.Acts (hub.modify n fun _ => connection.written hub.policy hub.now)
      (only n [.write hub.policy hub.now]) :=
    acts_modify fun other hother => Option.some.inj (hconnection.symm.trans hother) ▸ rfl
  have hstored : hub.Strikes (hub.modify n fun _ => connection.written hub.policy hub.now) n
      [.write hub.policy hub.now] := strikes_of_books rfl n (by simp [Connection.endsCourse])
  suffices h : hub.Strikes _ n _ from h connection hconnection
  rw [pollWriter_eq hconnection]
  simp only [writerMoves, hconnection, Connection.writerMoves]
  cases connection.writerExit? hub.policy hub.now with
  | none => exact hstored
  | some exit => exact hstored.trans hacts (strikes_endWriter _ n exit)

/-! ## Polls -/

/-- The session whose task an operation polls. -/
def Operation.polled? : Operation → Option Nat
  | .pollWatch n | .pollWriter n => some n
  | _ => none

variable {hub : Hub} {n : Nat} {connection : Connection}

/-- A poll strikes off at most the session whose task it polls. -/
theorem strikes_poll {operation : Operation} (h : operation.polled? = some n) :
    hub.Strikes (hub.step operation) n (hub.moves n operation) := by
  cases operation with
  | pollWatch target =>
    obtain rfl := Option.some.inj h
    simpa only [step, moves, only, if_true] using strikes_pollWatch hub target
  | pollWriter target =>
    obtain rfl := Option.some.inj h
    simpa only [step, moves, only, if_true] using strikes_pollWriter hub target
  | _ => cases h

/-- The sessions that leave by a poll: the one whose task is polled, or none. -/
def departures (hub : Hub) (operation : Operation) : List Departure :=
  match operation.polled? with
  | none => []
  | some n =>
    match hub.connections[n]? with
    | none => []
    | some connection => connection.departures n (hub.moves n operation)

/-- A poll moves no other session than the one it polls. -/
theorem moves_of_polled_ne {operation : Operation} {target : Nat}
    (h : operation.polled? = some target) (hne : n ≠ target) : hub.moves n operation = [] := by
  cases operation with
  | pollWatch | pollWriter =>
    obtain rfl := Option.some.inj h
    simp [moves, only, hne]
  | _ => cases h

/-- There is nothing to poll under a number that was never given out. -/
theorem step_of_polled_none {operation : Operation} {target : Nat}
    (h : operation.polled? = some target) (hnone : hub.connections[target]? = none) :
    hub.step operation = hub := by
  cases operation with
  | pollWatch | pollWriter =>
    obtain rfl := Option.some.inj h
    simp [step, pollWatch, pollWriter, hnone]
  | _ => cases h

/-- After a poll the records are without the sessions that left by it, and otherwise the same. -/
theorem books_poll {operation : Operation} (h : operation.polled?.isSome = true)
    (hfresh : ∀ connection ∈ hub.connections, connection.Unreasoned) :
    (hub.step operation).books = (hub.departures operation).foldl without hub.books := by
  obtain ⟨target, htarget⟩ := Option.isSome_iff_exists.mp h
  cases hconnection : hub.connections[target]? with
  | none =>
    simp only [step_of_polled_none htarget hconnection, departures, htarget, hconnection]
    rfl
  | some connection =>
    simp only [departures, htarget, hconnection]
    exact strikes_poll htarget connection hconnection (hfresh connection
      (List.mem_of_getElem? hconnection))

/-- Unless a session is created, reasons are there for claimed sessions only, as before. -/
theorem unreasoned_step (hfresh : ∀ connection ∈ hub.connections, connection.Unreasoned)
    {operation : Operation} (h : operation.creates = false) :
    ∀ connection ∈ (hub.step operation).connections, connection.Unreasoned := by
  intro later hlater
  obtain ⟨m, hm⟩ := List.mem_iff_getElem?.mp hlater
  rw [hub.acts_step h m, Option.map_eq_some_iff] at hm
  obtain ⟨before, hbefore, rfl⟩ := hm
  exact (hfresh before (List.mem_of_getElem? hbefore)).after _

/-- In every run from the start no reason is written down for a session that nobody has claimed. -/
theorem unreasoned_run (policy : StreamPolicy) (operations : List Operation) :
    ∀ connection ∈ ((Hub.new policy).run operations).connections, connection.Unreasoned := by
  intro connection hmem hunclaimed
  obtain ⟨n, hn⟩ := List.mem_iff_getElem?.mp hmem
  have hclosings := closings_run policy operations n
  rw [session?, hn, Option.map_some] at hclosings
  exact (Session.ClosedBy.isFresh hclosings (by simp [hunclaimed])).2.reason

/-- A poll creates no session. -/
theorem creates_of_polled {operation : Operation} (h : operation.polled?.isSome = true) :
    operation.creates = false := by
  cases operation <;> first | rfl | cases h

/-- The records after some polls are the earlier ones without the sessions that have left. -/
theorem books_run {polls : List Operation} (h : ∀ operation ∈ polls, operation.polled?.isSome = true)
    (hfresh : ∀ connection ∈ hub.connections, connection.Unreasoned) :
    (hub.run polls).books = (history departures hub polls).foldl without hub.books := by
  induction polls generalizing hub with
  | nil => rfl
  | cons poll rest ih =>
    obtain ⟨hpoll, hrest⟩ := List.forall_mem_cons.mp h
    rw [run_cons, ih hrest (unreasoned_step hfresh (creates_of_polled hpoll)), history,
      List.foldl_append, books_poll hpoll hfresh]

/-- Each session leaves as its own moves say. -/
theorem departures_of_connection {polls : List Operation}
    (h : ∀ operation ∈ polls, operation.polled?.isSome = true)
    (hconnection : hub.connections[n]? = some connection) :
    ∃ moves, (hub.run polls).connections[n]? = some (connection.after moves) ∧
      (history departures hub polls).filter (·.n = n) = connection.departures n moves := by
  induction polls generalizing hub connection with
  | nil => exact ⟨[], hconnection, (Connection.departures_of_sameCourses (by simp) n).symm⟩
  | cons poll rest ih =>
    obtain ⟨hpoll, hrest⟩ := List.forall_mem_cons.mp h
    obtain ⟨target, htarget⟩ := Option.isSome_iff_exists.mp hpoll
    have hlater := connections_step hconnection poll
    obtain ⟨moves, hlast, hfilter⟩ := ih hrest hlater
    refine ⟨hub.moves n poll ++ moves, by rw [run_cons, hlast, Connection.after_append], ?_⟩
    rw [history, List.filter_append, hfilter, connection.departures_append]
    apply congrArg (· ++ _)
    by_cases hn : n = target
    · subst hn
      simp only [departures, htarget, hconnection]
      exact List.filter_eq_self.mpr fun departure hmem =>
        decide_eq_true (Connection.n_of_mem_departures hmem)
    · rw [moves_of_polled_ne htarget hn, Connection.departures_of_sameCourses (by simp)]
      refine List.filter_eq_nil_iff.mpr fun departure hmem => ?_
      simp only [departures, htarget] at hmem
      split at hmem
      · cases hmem
      · simpa [Connection.n_of_mem_departures hmem] using Ne.symm hn

/-- No session leaves by polls under a number that was never given out. -/
theorem departures_of_none {polls : List Operation}
    (h : ∀ operation ∈ polls, operation.polled?.isSome = true)
    (hnone : hub.connections[n]? = none) :
    (history departures hub polls).filter (·.n = n) = [] := by
  induction polls generalizing hub with
  | nil => rfl
  | cons poll rest ih =>
    obtain ⟨hpoll, hrest⟩ := List.forall_mem_cons.mp h
    obtain ⟨target, htarget⟩ := Option.isSome_iff_exists.mp hpoll
    have hlater : (hub.step poll).connections[n]? = none := by
      rw [hub.acts_step (creates_of_polled hpoll) n, hnone, Option.map_none]
    rw [history, List.filter_append, ih hrest hlater, List.append_nil]
    refine List.filter_eq_nil_iff.mpr fun departure hmem => ?_
    simp only [departures, htarget] at hmem
    split at hmem
    · cases hmem
    · next connection hconnection =>
      have hne : target ≠ n := by
        rintro rfl
        cases hnone.symm.trans hconnection
      simpa [Connection.n_of_mem_departures hmem] using hne

/-- No session leaves twice. -/
theorem eq_of_mem_departures {polls : List Operation}
    (h : ∀ operation ∈ polls, operation.polled?.isSome = true) {first second : Departure}
    (hfirst : first ∈ history departures hub polls) (hsecond : second ∈ history departures hub polls)
    (hn : first.n = second.n) : first = second := by
  have hlength : ((history departures hub polls).filter (·.n = first.n)).length ≤ 1 := by
    cases hconnection : hub.connections[first.n]? with
    | none => simp [departures_of_none h hconnection]
    | some connection =>
      obtain ⟨moves, -, hfilter⟩ := departures_of_connection h hconnection
      rw [hfilter]
      exact connection.length_departures_le_one _ _
  have hmem : first ∈ (history departures hub polls).filter (·.n = first.n) :=
    List.mem_filter.mpr ⟨hfirst, by simp⟩
  have hmem' : second ∈ (history departures hub polls).filter (·.n = first.n) :=
    List.mem_filter.mpr ⟨hsecond, by simp [hn]⟩
  rcases Nat.le_one_iff_eq_zero_or_eq_one.mp hlength with hnone | hone
  · rw [List.length_eq_zero_iff.mp hnone] at hmem
    cases hmem
  · obtain ⟨only, honly⟩ := List.length_eq_one_iff.mp hone
    rw [honly, List.mem_singleton] at hmem hmem'
    rw [hmem, hmem']

/-- Polls that leave every session in the same state leave the same records, whatever their
order. -/
theorem books_eq_of_sessions {polls polls' : List Operation}
    (hpolls : ∀ operation ∈ polls, operation.polled?.isSome = true)
    (hpolls' : ∀ operation ∈ polls', operation.polled?.isSome = true)
    (hfresh : ∀ connection ∈ hub.connections, connection.Unreasoned)
    (hwf : hub.subscriptions.WellFormed)
    (hsame : ∀ n, (hub.run polls).session? n = (hub.run polls').session? n) :
    (hub.run polls).books = (hub.run polls').books := by
  have hfilter (n : Nat) : (history departures hub polls).filter (·.n = n) =
      (history departures hub polls').filter (·.n = n) := by
    cases hconnection : hub.connections[n]? with
    | none => rw [departures_of_none hpolls hconnection, departures_of_none hpolls' hconnection]
    | some connection =>
      obtain ⟨moves, hlater, hleft⟩ := departures_of_connection hpolls hconnection
      obtain ⟨moves', hlater', hright⟩ := departures_of_connection hpolls' hconnection
      have hsession := hsame n
      simp only [session?, hlater, hlater', Option.map_some, Option.some.injEq] at hsession
      rw [hleft, hright, Connection.departures, Connection.departures, hsession]
  have hperm : (history departures hub polls).Perm (history departures hub polls') := by
    rw [List.perm_iff_count]
    intro departure
    have hcount := congrArg (List.count departure) (hfilter departure.n)
    rwa [List.count_filter (by simp), List.count_filter (by simp)] at hcount
  rw [books_run hpolls hfresh, books_run hpolls' hfresh]
  exact foldl_without_of_perm hperm
    (fun _ hfirst _ hsecond hne hn => hne (eq_of_mem_departures hpolls hfirst hsecond hn)) hwf

end Hub

end LiveCounter
