import LiveCounter.Proofs.Reactions
import LiveCounter.Proofs.Resting

/-!
# Settling

Settling reaches each connection by itself: it polls the tasks of the connection until they have
nothing to do, and looks at no other connection. The first task is polled a second time, since the
other one may have closed the session on it; after that both are at rest.
-/

namespace LiveCounter

namespace Connection

/-- The connection after its watch has been polled. -/
def polledWatch (connection : Connection) (policy : StreamPolicy) (now : Nat) : Connection :=
  connection.after (connection.watchMoves policy now)

/-- The connection after its writer has been polled. -/
def polledWriter (connection : Connection) (policy : StreamPolicy) (now : Nat) : Connection :=
  connection.after (connection.writerMoves policy now)

/-- The connection after its tasks have settled. -/
def settled (connection : Connection) (policy : StreamPolicy) (now : Nat) : Connection :=
  if connection.writerFirst now then
    ((connection.polledWriter policy now).polledWatch policy now).polledWriter policy now
  else ((connection.polledWatch policy now).polledWriter policy now).polledWatch policy now

/-- The writer of the connection, if there is one, has nothing to do. -/
def WriterRests (connection : Connection) (now : Nat) : Prop :=
  ∀ service ∈ connection.service,
    Writer.Rests (connection.desk service.client now) service.phase

/-- The tasks of the connection have nothing to do. -/
structure AtRest (connection : Connection) (now : Nat) : Prop where
  watch : connection.watch.Rests connection.session now
  writer : connection.WriterRests now

instance (connection : Connection) (now : Nat) : Decidable (connection.WriterRests now) :=
  inferInstanceAs (Decidable (∀ service ∈ connection.service,
    Writer.Rests (connection.desk service.client now) service.phase))

/-- A connection is at rest when its watch and its writer are. -/
theorem atRest_iff (connection : Connection) (now : Nat) :
    connection.AtRest now ↔
      connection.watch.Rests connection.session now ∧ connection.WriterRests now :=
  ⟨fun h => ⟨h.watch, h.writer⟩, fun h => ⟨h.1, h.2⟩⟩

instance (connection : Connection) (now : Nat) : Decidable (connection.AtRest now) :=
  decidable_of_iff' _ (connection.atRest_iff now)

/-! ## Polls -/

/-- A poll of a watch at rest changes nothing. -/
theorem polledWatch_of_rests (policy : StreamPolicy) {connection : Connection} {now : Nat}
    (h : connection.watch.Rests connection.session now) :
    connection.polledWatch policy now = connection := by
  have hrun : connection.watch.run policy connection.session (connection.clock now) =
      (.alive, connection.watch, connection.clock now) := Watch.run_of_rests policy h
  simp only [polledWatch, watchMoves, watchFinding, hrun, after_cons, after_nil, move, watched]
  rfl

/-- A poll of a writer at rest changes nothing. -/
theorem polledWriter_of_rests (policy : StreamPolicy) {connection : Connection} {now : Nat}
    (h : connection.WriterRests now) : connection.polledWriter policy now = connection := by
  cases hservice : connection.service with
  | none => simp [polledWriter, writerMoves, writerExit?, hservice, move, written]
  | some service =>
    have hrun := Writer.run_of_rests policy (h service hservice)
    obtain ⟨session, watch, _, held, timersSet⟩ := connection
    obtain rfl : _ = some service := hservice
    simp only [polledWriter, writerMoves, writerExit?, hrun, Option.elim_none, List.map_nil,
      after_cons, after_nil, move, written, phaseAfter]
    rfl

/-- Closings change the session of a connection only. -/
theorem after_closings (connection : Connection) (causes : List Cause) :
    ∃ session, connection.after (causes.map .close) = { connection with session } := by
  induction causes generalizing connection with
  | nil => exact ⟨connection.session, rfl⟩
  | cons cause rest ih =>
    obtain ⟨session, h⟩ := ih (connection.move (.close cause))
    exact ⟨session, h⟩

/-- A poll of the writer leaves the watch alone. -/
theorem watch_polledWriter (connection : Connection) (policy : StreamPolicy) (now : Nat) :
    (connection.polledWriter policy now).watch = connection.watch := by
  obtain ⟨session, h⟩ := (connection.written policy now).after_closings
    ((connection.writerExit? policy now).elim [] (·.causes))
  have hwatch : (connection.polledWriter policy now).watch =
      (connection.written policy now).watch := by
    simp only [polledWriter, writerMoves, after_cons, move, h]
  rw [hwatch, written]
  split <;> rfl

/-- Unless a watch finds its session silent, it leaves all but itself alone. -/
theorem polledWatch_eq {connection : Connection} {policy : StreamPolicy} {now : Nat}
    (h : connection.watchFinding policy now ≠ .silent) :
    connection.polledWatch policy now = connection.watched policy now := by
  unfold polledWatch watchMoves
  cases hfinding : connection.watchFinding policy now with
  | silent => exact absurd hfinding h
  | alive => rfl
  | cancelled => rfl

/-- A watch that finds silence ends. -/
theorem watch_polledWatch_of_silent {connection : Connection} {policy : StreamPolicy} {now : Nat}
    (h : connection.watchFinding policy now = .silent) :
    (connection.polledWatch policy now).watch = .ended := by
  simp only [polledWatch, watchMoves, h, after_cons, after_nil, move, withSession, watched]
  exact Watch.ended_of_silent h

/-- A watch that has been polled has nothing to do. -/
theorem rests_polledWatch {policy : StreamPolicy} (hpolicy : policy.Usable)
    (connection : Connection) (now : Nat) :
    (connection.polledWatch policy now).watch.Rests (connection.polledWatch policy now).session
      now := by
  by_cases hsilent : connection.watchFinding policy now = .silent
  · rw [watch_polledWatch_of_silent hsilent]
    trivial
  · rw [polledWatch_eq hsilent]
    exact Watch.rests_run hpolicy connection.watch connection.session (connection.clock now)

/-- A writer that has been polled has nothing to do. -/
theorem writerRests_polledWriter {policy : StreamPolicy} (hpolicy : policy.Usable)
    (connection : Connection) (now : Nat) : (connection.polledWriter policy now).WriterRests now := by
  unfold polledWriter writerMoves writerExit?
  cases hservice : connection.service with
  | none =>
    intro service hmem
    simp [move, written, hservice] at hmem
  | some service =>
    have hsettles := Writer.settles_run hpolicy service.phase (connection.desk service.client now)
    simp only [after_cons, move, written, hservice]
    generalize Writer.run policy service.phase (connection.desk service.client now) = result
      at hsettles
    obtain ⟨run, session, client, clock⟩ := result
    obtain ⟨rfl, hrests⟩ := hsettles
    cases run with
    | suspended phase =>
      intro later hmem
      obtain rfl := Option.some.inj hmem
      exact hrests
    | exited exit =>
      obtain ⟨last, heq⟩ := Connection.after_closings
        { connection with
          session, service := some { phase := .ended, client }, timersSet := clock.next } exit.causes
      intro later hmem
      simp only [Option.elim_some, phaseAfter, heq] at hmem
      obtain rfl := Option.some.inj hmem
      trivial

/-- A writer at rest does not notice that the watch runs, unless that closes the session. -/
theorem WriterRests.watched {connection : Connection} {now : Nat} (h : connection.WriterRests now)
    (policy : StreamPolicy) : (connection.watched policy now).WriterRests now := by
  intro service hservice
  have hrests := h service hservice
  exact hrests.withClock hrests.notDue

/-! ## Rest -/

/-- The writer, the watch and the writer again: the watch may close the session on the writer. -/
theorem atRest_writer_watch_writer {policy : StreamPolicy} (hpolicy : policy.Usable)
    {connection : Connection} {now : Nat} (h : connection.WriterRests now) :
    ((connection.polledWatch policy now).polledWriter policy now).AtRest now := by
  have hwatch := connection.rests_polledWatch hpolicy now
  refine ⟨?_, writerRests_polledWriter hpolicy _ now⟩
  cases hkind : (connection.polledWatch policy now).watch with
  | spawned =>
    rw [hkind] at hwatch
    cases hwatch
  | absent =>
    rw [watch_polledWriter, hkind]
    trivial
  | ended =>
    rw [watch_polledWriter, hkind]
    trivial
  | ticking timer =>
    have hfinding : connection.watchFinding policy now ≠ .silent := by
      intro hsilent
      rw [watch_polledWatch_of_silent hsilent] at hkind
      cases hkind
    have hwriter : (connection.polledWatch policy now).WriterRests now := by
      rw [polledWatch_eq hfinding]
      exact h.watched policy
    rw [polledWriter_of_rests policy hwriter]
    exact hwatch

/-- The watch, the writer and the watch again: the writer may close the session on the watch. -/
theorem atRest_watch_writer_watch {policy : StreamPolicy} (hpolicy : policy.Usable)
    {connection : Connection} {now : Nat} (h : connection.watch.Rests connection.session now) :
    ((connection.polledWriter policy now).polledWatch policy now).AtRest now := by
  have hfinding : (connection.polledWriter policy now).watchFinding policy now ≠ .silent := by
    unfold watchFinding
    rw [watch_polledWriter]
    exact Watch.run_ne_silent policy h
  refine ⟨rests_polledWatch hpolicy _ now, ?_⟩
  rw [polledWatch_eq hfinding]
  exact (connection.writerRests_polledWriter hpolicy now).watched policy

/-- Tasks that have settled are at rest. -/
theorem atRest_settled {policy : StreamPolicy} (hpolicy : policy.Usable) (connection : Connection)
    (now : Nat) : (connection.settled policy now).AtRest now := by
  unfold settled
  split
  · exact atRest_writer_watch_writer hpolicy (connection.writerRests_polledWriter hpolicy now)
  · exact atRest_watch_writer_watch hpolicy (connection.rests_polledWatch hpolicy now)

/-- A connection at rest has settled. -/
theorem settled_of_atRest (policy : StreamPolicy) {connection : Connection} {now : Nat}
    (h : connection.AtRest now) : connection.settled policy now = connection := by
  unfold settled
  simp only [polledWatch_of_rests policy h.watch, polledWriter_of_rests policy h.writer, ite_self]

/-- At rest no timer is due. -/
theorem AtRest.notDue {connection : Connection} {now : Nat} (h : connection.AtRest now) :
    ∀ timer ∈ connection.timers, timer.isDue now = false := by
  intro timer htimer
  rcases List.mem_append.mp htimer with hwatch | hwriter
  · exact h.watch.notDue timer hwatch
  · unfold writerTimers at hwriter
    split at hwriter
    · next service hservice => exact (h.writer service hservice).notDue timer hwriter
    · cases hwriter

/-- Tasks at rest stay at rest until one of their timers is due. -/
theorem AtRest.later {connection : Connection} {now later : Nat} (h : connection.AtRest now)
    (hdue : ∀ timer ∈ connection.timers, timer.isDue later = false) : connection.AtRest later where
  watch := h.watch.later fun timer htimer => hdue timer (List.mem_append_left _ htimer)
  writer service hservice := by
    refine (h.writer service hservice).withClock fun timer htimer => hdue timer ?_
    apply List.mem_append_right _
    rw [writerTimers, hservice]
    exact htimer

/-! ## Ends -/

/-- A session that is cancelled stays so. -/
theorem cancelled_move {connection : Connection} (h : connection.session.cancelled = true)
    (move : Move) : (connection.move move).session.cancelled = true := by
  cases hends : endsCourse move with
  | false => exact (connection.sameCourse_move hends).cancelled.trans h
  | true =>
    cases move with
    | close cause =>
      simp only [Connection.move, withSession, Session.retired]
      split
      · exact h
      · rfl
    | claim reason =>
      simp only [Connection.move, withSession]
      split
      · exact h
      · rfl
    | release => exact h
    | _ => simp [endsCourse] at hends

/-- A session that is cancelled stays so, whatever the moves. -/
theorem cancelled_after {connection : Connection} (h : connection.session.cancelled = true)
    (moves : List Move) : (connection.after moves).session.cancelled = true :=
  after_induction (P := fun later => later.session.cancelled = true) h
    fun move _ _ hbefore => cancelled_move hbefore move

/-- A session that is cancelled stays so when its tasks settle. -/
theorem cancelled_settled {connection : Connection} (h : connection.session.cancelled = true)
    (policy : StreamPolicy) (now : Nat) :
    (connection.settled policy now).session.cancelled = true := by
  unfold settled
  split
  · exact cancelled_after (cancelled_after (cancelled_after h _) _) _
  · exact cancelled_after (cancelled_after (cancelled_after h _) _) _

/-- The tasks of a cancelled session that have nothing to do have ended. -/
theorem AtRest.liveTasks_of_cancelled {connection : Connection} {now : Nat}
    (h : connection.AtRest now) (hcancelled : connection.session.cancelled = true) :
    connection.liveTasks = 0 := by
  have hwatch : connection.watch.isPending = false := h.watch.isPending_eq_false hcancelled
  have hwriter : connection.writerRuns = false := by
    unfold writerRuns
    cases hservice : connection.service with
    | none => rfl
    | some service =>
      have hended : service.phase = .ended := (h.writer service hservice).ended hcancelled
      simp [hended]
  rw [liveTasks, hwatch, hwriter]
  rfl

/-- Tasks that have ended are at rest. -/
theorem atRest_of_liveTasks {connection : Connection} (h : connection.liveTasks = 0) (now : Nat) :
    connection.AtRest now := by
  rw [liveTasks, Nat.add_eq_zero_iff, Bool.toNat_eq_zero, Bool.toNat_eq_zero] at h
  obtain ⟨hwatch, hwriter⟩ := h
  refine ⟨?_, fun service hservice => ?_⟩
  · cases hkind : connection.watch with
    | absent => trivial
    | ended => trivial
    | spawned => simp [hkind, Watch.isPending] at hwatch
    | ticking timer => simp [hkind, Watch.isPending] at hwatch
  · have hended : service.phase = .ended := by
      simpa [writerRuns, Option.mem_def.mp hservice] using hwriter
    rw [hended]
    trivial

/-- The tasks of the connection have ended, or end when they are polled next. -/
def Ceases (connection : Connection) : Prop :=
  connection.liveTasks = 0 ∨ connection.session.cancelled = true

/-- Tasks that cease have ended when they have settled. -/
theorem Ceases.liveTasks_settled {policy : StreamPolicy} (hpolicy : policy.Usable)
    {connection : Connection} (h : connection.Ceases) (now : Nat) :
    (connection.settled policy now).liveTasks = 0 := by
  rcases h with hended | hcancelled
  · rwa [settled_of_atRest policy (atRest_of_liveTasks hended now)]
  · exact (connection.atRest_settled hpolicy now).liveTasks_of_cancelled
      (cancelled_settled hcancelled policy now)

end Connection

namespace Hub

/-! ## Settling -/

/-- Moves of one session change its connection only. -/
theorem connections_of_acts {hub later : Hub} {n : Nat} {moves : List Move}
    (h : hub.Acts later (only n moves)) :
    later.connections = hub.connections.modify n (·.after moves) := by
  apply List.ext_getElem?
  intro m
  rw [h m, List.getElem?_modify]
  by_cases hm : n = m
  · subst hm
    simp [only]
  · simp [only, hm, Ne.symm hm]

/-- A poll of a watch changes its connection only. -/
theorem connections_pollWatch (hub : Hub) (n : Nat) :
    (hub.pollWatch n).connections = hub.connections.modify n (·.polledWatch hub.policy hub.now) := by
  rw [connections_of_acts (acts_pollWatch hub n)]
  apply modify_congr
  intro connection hconnection
  simp only [watchMoves, hconnection]
  rfl

/-- A poll of a writer changes its connection only. -/
theorem connections_pollWriter (hub : Hub) (n : Nat) :
    (hub.pollWriter n).connections =
      hub.connections.modify n (·.polledWriter hub.policy hub.now) := by
  rw [connections_of_acts (acts_pollWriter hub n)]
  apply modify_congr
  intro connection hconnection
  simp only [writerMoves, hconnection]
  rfl

/-- A poll of a watch leaves the policy alone. -/
theorem policy_pollWatch (hub : Hub) (n : Nat) : (hub.pollWatch n).policy = hub.policy :=
  (frame_path (path_pollWatch hub n)).1

/-- A poll of a writer leaves the policy alone. -/
theorem policy_pollWriter (hub : Hub) (n : Nat) : (hub.pollWriter n).policy = hub.policy :=
  (frame_path (path_pollWriter hub n)).1

/-- The tasks of a session settle by a path of changes. -/
theorem path_settleOne (hub : Hub) (n : Nat) : hub.Path (hub.settleOne n) := by
  have hwriterFirst : hub.Path (((hub.pollWriter n).pollWatch n).pollWriter n) :=
    ((path_pollWriter hub n).trans (path_pollWatch _ n)).trans (path_pollWriter _ n)
  have hwatchFirst : hub.Path (((hub.pollWatch n).pollWriter n).pollWatch n) :=
    ((path_pollWatch hub n).trans (path_pollWriter _ n)).trans (path_pollWatch _ n)
  simp only [settleOne]
  split <;> split
  all_goals first | exact hwriterFirst | exact hwatchFirst

/-- Tasks settle by a path of changes. -/
theorem path_settle (hub : Hub) : hub.Path hub.settle :=
  path_foldl path_settleOne _ hub

/-- The tasks of a session settle in its own connection. -/
theorem connections_settleOne (hub : Hub) (n : Nat) :
    (hub.settleOne n).connections = hub.connections.modify n (·.settled hub.policy hub.now) := by
  have hwriterFirst : (((hub.pollWriter n).pollWatch n).pollWriter n).connections =
      hub.connections.modify n fun connection =>
        ((connection.polledWriter hub.policy hub.now).polledWatch hub.policy hub.now).polledWriter
          hub.policy hub.now := by
    simp only [connections_pollWriter, connections_pollWatch, policy_pollWriter, policy_pollWatch,
      now_pollWriter, now_pollWatch, List.modify_modify_eq]
    rfl
  have hwatchFirst : (((hub.pollWatch n).pollWriter n).pollWatch n).connections =
      hub.connections.modify n fun connection =>
        ((connection.polledWatch hub.policy hub.now).polledWriter hub.policy hub.now).polledWatch
          hub.policy hub.now := by
    simp only [connections_pollWriter, connections_pollWatch, policy_pollWriter, policy_pollWatch,
      now_pollWriter, now_pollWatch, List.modify_modify_eq]
    rfl
  simp only [settleOne]
  cases hconnection : hub.connections[n]? with
  | none =>
    simp only [Bool.false_eq_true, if_false]
    rw [hwatchFirst]
    exact modify_congr fun connection h => by simp [hconnection] at h
  | some connection =>
    simp only
    split
    · next hfirst =>
      rw [hwriterFirst]
      apply modify_congr_at hconnection
      rw [Connection.settled, if_pos hfirst]
    · next hfirst =>
      rw [hwatchFirst]
      apply modify_congr_at hconnection
      rw [Connection.settled, if_neg hfirst]

/-- Settling some connections in turn settles each of them by itself. -/
theorem connections_foldl_settleOne {ns : List Nat} (hns : ns.Nodup) (hub : Hub) (m : Nat) :
    (ns.foldl settleOne hub).connections[m]? =
      hub.connections[m]?.map fun connection =>
        if m ∈ ns then connection.settled hub.policy hub.now else connection := by
  induction ns generalizing hub with
  | nil => simp
  | cons n rest ih =>
    obtain ⟨hn, hrest⟩ := List.nodup_cons.mp hns
    have hpolicy : (hub.settleOne n).policy = hub.policy := (frame_path (path_settleOne hub n)).1
    rw [List.foldl_cons, ih hrest, connections_settleOne, List.getElem?_modify, hpolicy,
      now_settleOne, Option.map_eq_map, Option.map_map]
    congr 1
    funext connection
    by_cases hm : n = m
    · subst hm
      simp [hn]
    · simp [hm, Ne.symm hm]

/-- Settling reaches each connection by itself. -/
theorem connections_settle (hub : Hub) :
    hub.settle.connections = hub.connections.map (·.settled hub.policy hub.now) := by
  apply List.ext_getElem?
  intro m
  rw [settle, connections_foldl_settleOne List.nodup_range, List.getElem?_map]
  cases hconnection : hub.connections[m]? with
  | none => rfl
  | some connection =>
    have hlength : m < hub.connections.length := (List.getElem?_eq_some_iff.mp hconnection).1
    rw [Option.map_some, Option.map_some, if_pos (List.mem_range.mpr hlength)]

/-- Tasks that settle leave the policy alone. -/
theorem policy_settle (hub : Hub) : hub.settle.policy = hub.policy :=
  (frame_path (path_settle hub)).1

/-- A hub that has settled is at rest. -/
theorem atRest_settle (hub : Hub) (hpolicy : hub.policy.Usable) :
    ∀ connection ∈ hub.settle.connections, connection.AtRest hub.settle.now := by
  intro connection hmem
  rw [now_settle]
  rw [connections_settle] at hmem
  obtain ⟨before, -, rfl⟩ := List.mem_map.mp hmem
  exact before.atRest_settled hpolicy hub.now

end Hub

end LiveCounter
