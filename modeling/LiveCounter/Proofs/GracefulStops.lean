import LiveCounter.Proofs.ClosingOnce
import LiveCounter.Proofs.Effects
import LiveCounter.Proofs.LiveTasks
import LiveCounter.Proofs.Stopping

/-!
# How long a graceful stop takes

A graceful stop waits twice, for the tasks of the streams and for the tasks that it was given, and
each time for the whole timeout if need be. But the tasks of the streams end at once: whatever has
been done before, a session that has tasks is either in the table, and the sweep closes it, or its
closing has been claimed and its tasks have been told. So only the second wait takes time. The clock
moves in whole milliseconds, and a timeout that ends between two of them ends at the later one.
-/

namespace LiveCounter

namespace Connection

/-- Closing the session ends its tasks, however often it is closed. -/
theorem Tended.ceases_after_close {connection : Connection} (h : connection.Tended) (cause : Cause)
    (moves : List Move) : (connection.after (.close cause :: moves)).Ceases := by
  have hclaimed : (connection.move (.close cause)).session.isClaimed = true :=
    Session.isClaimed_retired _ _ _
  rw [after_cons]
  exact Or.inr (cancelled_after ((cancelled_eq_move h.cancelled _).trans hclaimed) moves)

/-- A session that is not open has no tasks yet, or has told them to end. -/
theorem Tended.ceases {connection : Connection} (h : connection.Tended)
    (hstage : connection.session.stage ≠ .open) : connection.Ceases := by
  by_cases hopening : connection.session.stage = .opening
  · have hservice : connection.service = none := by
      simpa using h.unserved hopening
    have hwriter : connection.writerRuns = false := by
      rw [writerRuns, hservice]
      rfl
    left
    rw [liveTasks, h.unwatched hopening, hwriter]
    rfl
  · right
    by_contra hcancelled
    exact hstage (h.open_iff.mpr ⟨by simpa using hcancelled, hopening⟩)

end Connection

namespace Hub

/-! ## Hubs in order -/

/-- The accounts of slots are in order, the tasks are as the sessions need them, and each session
stands as somebody's requests for it to close have left it. -/
structure Orderly (hub : Hub) : Prop where
  usable : hub.policy.Usable
  wellFormed : hub.subscriptions.WellFormed
  booked : ∃ lost, hub.Booked lost
  tended : ∀ connection ∈ hub.connections, connection.Tended
  requested : ∀ connection ∈ hub.connections, ∃ causes, connection.session.ClosedBy causes

/-- A new hub is orderly. -/
theorem orderly_new (policy : StreamPolicy) : (Hub.new policy).Orderly where
  usable := policy.usable_clamped
  wellFormed := Subscriptions.wellFormed_empty
  booked := ⟨0, booked_new policy⟩
  tended := by simp [Hub.new]
  requested := by simp [Hub.new]

/-- Each session stands as some requests for it to close have left it, in every run. -/
theorem lasting_closedBy (policy : StreamPolicy) :
    Lasting policy fun _ connection => ∃ causes, connection.session.ClosedBy causes :=
  lasting_of_move fun _ _ move ⟨_, h⟩ => ⟨_, Connection.closedBy_move h move⟩

/-- An orderly hub stays so with every operation. -/
theorem Orderly.step {hub : Hub} (h : hub.Orderly) (operation : Operation) :
    (hub.step operation).Orderly where
  usable := policy_step hub operation ▸ h.usable
  wellFormed := wellFormed_step h.wellFormed operation
  booked := by
    obtain ⟨lost, hbooked⟩ := h.booked
    exact ⟨_, hbooked.step h.wellFormed operation⟩
  tended connection hmem := by
    obtain ⟨n, hn⟩ := List.mem_iff_getElem?.mp hmem
    exact (lasting_tended hub.policy).step hn (fun _ => tended_of_arrives)
      fun before hbefore => h.tended before (List.mem_of_getElem? hbefore)
  requested connection hmem := by
    obtain ⟨n, hn⟩ := List.mem_iff_getElem?.mp hmem
    exact (lasting_closedBy hub.policy).step hn (fun _ harrives => ⟨[], harrives.isFresh.closedBy⟩)
      fun before hbefore => h.requested before (List.mem_of_getElem? hbefore)

/-- Reports leave an orderly hub so. -/
theorem Orderly.reports {hub later : Hub} (h : hub.Orderly) (hreports : hub.Reports later) :
    later.Orderly := by
  obtain ⟨lost, hbooked⟩ := h.booked
  have hlater := hbooked.reports hreports
  obtain ⟨_, _, -, rfl⟩ := hreports
  exact ⟨h.usable, h.wellFormed, ⟨lost, hlater⟩, h.tended, h.requested⟩

/-- An orderly hub stays so in all that it undergoes. -/
theorem Orderly.undergoes {hub later : Hub} (h : hub.Orderly) (hundergoes : hub.Undergoes later) :
    later.Orderly := by
  induction hundergoes with
  | refl => exact h
  | step _ operation _ ih => exact ih.step operation
  | reports _ hreports ih => exact ih.reports hreports

/-! ## What a stop does to such a hub -/

/-- What the sweep of a stop does to a connection. -/
theorem connections_sweep_beginStop (hub : Hub) (n : Nat) :
    hub.beginStop.sweep.2.connections[n]? = hub.connections[n]?.map (·.after
      ((hub.table.filter (· = n)).map fun _ => .close (.plain .shutdown))) :=
  acts_sweep hub.beginStop n

/-- The sweep of a stop leaves no task that would go on. -/
theorem Orderly.ceases_sweep {hub : Hub} (h : hub.Orderly) :
    ∀ connection ∈ hub.beginStop.sweep.2.connections, connection.Ceases := by
  intro later hmem
  obtain ⟨lost, hbooked⟩ := h.booked
  obtain ⟨n, hn⟩ := List.mem_iff_getElem?.mp hmem
  rw [connections_sweep_beginStop, Option.map_eq_some_iff] at hn
  obtain ⟨connection, hconnection, rfl⟩ := hn
  have htended := h.tended connection (List.mem_of_getElem? hconnection)
  cases hlisted : hub.table.filter (· = n) with
  | cons m rest => exact htended.ceases_after_close _ _
  | nil =>
    refine htended.ceases fun hopen => ?_
    have hmem : n ∈ hub.table.filter (· = n) :=
      List.mem_filter.mpr
        ⟨hbooked.enlisted n (by simp [stage?, session?, hconnection, hopen]), by simp⟩
    simp [hlisted] at hmem

/-- A stop takes no time. -/
theorem Orderly.now_stop {hub : Hub} (h : hub.Orderly) (timeout : Duration) :
    (hub.stop timeout).2.now = hub.now :=
  (frame_path (path_stop h.usable h.ceases_sweep timeout)).2.1

/-- The sweep of a stop ends each open session, because of the stop and for no error. -/
theorem Orderly.session?_sweep {hub : Hub} (h : hub.Orderly) {n : Nat} {session : Session}
    (hs : hub.session? n = some session) (hopen : session.stage = .open) :
    ∃ swept, hub.beginStop.sweep.2.session? n = some swept ∧ swept.stage = .terminated ∧
      swept.reason = some .shutdown ∧ swept.failure = none := by
  obtain ⟨lost, hbooked⟩ := h.booked
  have hmem : n ∈ hub.table := hbooked.enlisted n (by rw [stage?, hs, Option.map_some, hopen])
  have hcloses : (hub.table.filter (· = n)).map
      (fun _ => Move.close (.plain .shutdown)) = [.close (.plain .shutdown)] := by
    rw [filter_eq_of_nodup hbooked.table_nodup, if_pos hmem]
    rfl
  obtain ⟨connection, hconnection, rfl⟩ := connection_of_session? hs
  obtain ⟨causes, hclosed⟩ := h.requested connection (List.mem_of_getElem? hconnection)
  have hunclaimed := Session.isClaimed_of_open hopen
  have hfresh := (hclosed.isFresh (by simp [hunclaimed])).2
  have hretired := hfresh.retired (.plain .shutdown)
  refine ⟨connection.session.retired .shutdown none, ?_,
    Session.stage_retired hunclaimed .shutdown none, hretired.reason, hretired.failure⟩
  rw [session?, connections_sweep_beginStop, hconnection, hcloses]
  rfl

/-- What is claimed ends as it is claimed, whatever the hub undergoes. -/
theorem Undergoes.sameEnd {hub later : Hub} (h : hub.Undergoes later) {n : Nat} {session : Session}
    (hs : hub.session? n = some session) (hclaimed : session.isClaimed = true) :
    ∃ ended, later.session? n = some ended ∧ session.SameEnd ended := by
  induction h with
  | refl => exact ⟨session, hs, .refl session⟩
  | step _ operation _ ih =>
    obtain ⟨ended, hended, hsame⟩ := ih
    obtain ⟨connection, hconnection, rfl⟩ := connection_of_session? hended
    refine ⟨_, by rw [session?, connections_step hconnection operation, Option.map_some],
      hsame.trans (Connection.sameEnd_after (hsame.isClaimed.trans hclaimed) _)⟩
  | reports _ hreports ih =>
    obtain ⟨_, _, -, rfl⟩ := hreports
    exact ih

/-- A hub that stops keeps stopping. -/
theorem Undergoes.stopping {hub later : Hub} (h : hub.Undergoes later)
    (hstopping : hub.stopping = true) : later.stopping = true := by
  induction h with
  | refl => exact hstopping
  | step _ operation _ ih => exact stopping_step ih operation
  | reports _ hreports ih =>
    obtain ⟨_, _, -, rfl⟩ := hreports
    exact ih

/-- Reports take no time. -/
theorem Reports.now_eq {hub later : Hub} (h : hub.Reports later) : later.now = hub.now := by
  obtain ⟨_, _, -, rfl⟩ := h
  rfl

/-- Reports end no tasks. -/
theorem Reports.liveTasks_eq {hub later : Hub} (h : hub.Reports later) :
    later.liveTasks = hub.liveTasks := by
  rw [liveTasks, liveTasks, h.connections]

/-- Without tasks nothing happens while time passes. -/
theorem liveTasks_advance {hub : Hub} (hpolicy : hub.policy.Usable) (h : hub.liveTasks = 0)
    (millis : Nat) : (hub.advance millis).liveTasks = 0 := by
  rw [liveTasks_eq_zero_iff, (connections_advance hpolicy millis).1, List.forall_mem_map]
  intro connection hmem
  have hnone := (liveTasks_eq_zero_iff hub).mp h connection hmem
  rw [Connection.settled_of_atRest hub.policy (Connection.atRest_of_liveTasks hnone hub.now),
    Connection.elapsed_of_liveTasks hub.policy hnone]
  exact hnone

end Hub

namespace Server

/-- In every run of a server, also in one that reaches around the hub, the hub stays in order. -/
theorem orderly_run (policy : StreamPolicy) (servesMetrics : Bool) (operations : List Operation) :
    ((initial policy servesMetrics).run operations).hub.Orderly := by
  induction operations using List.reverseRecOn with
  | nil => exact Hub.orderly_new policy
  | append_singleton operations operation ih =>
    rw [run_append]
    by_cases hregular : operation.isRegular = true
    · exact ih.undergoes (undergoes_step ih.usable hregular)
    · cases operation with
      | hub operation => exact ih.step operation
      | _ => exact absurd rfl hregular

/-! ## The two waits -/

variable {server : Server}

/-- A stop leaves timers with positive periods. -/
theorem usable_drained (husable : server.hub.policy.Usable) (tasks : List Nat)
    (timeout : Duration) :
    (server.drained (server.hub.stop timeout).2 tasks timeout).hub.policy.Usable := by
  have hpolicy := (Hub.reaches_stop husable timeout).policy_eq
  exact hpolicy ▸ husable

/-- Only waiting for the given tasks takes time. -/
theorem now_stopGracefully (horderly : server.hub.Orderly) (tasks : List Nat)
    (timeout : Duration) :
    (server.stopGracefully tasks timeout).2.hub.now =
      server.hub.now + min (tasks.foldl max 0) timeout.patience := by
  have hnow : (server.drained (server.hub.stop timeout).2 tasks timeout).hub.now =
      server.hub.now := horderly.now_stop timeout
  obtain ⟨-, -, -, ⟨hzero, hreports⟩ | hreports⟩ := server.stopGracefully_cases tasks timeout
  · rw [hreports.now_eq, hnow, hzero, Nat.add_zero]
  · have hadvanced := Hub.connections_advance (usable_drained horderly.usable tasks timeout)
    rw [hreports.now_eq, (hadvanced _).2, hnow]

/-- Waiting leaves none of the tasks of the streams, unless no time at all is given to them. -/
theorem liveTasks_stopGracefully (horderly : server.hub.Orderly) (tasks : List Nat)
    {timeout : Duration} (htimeout : 0 < timeout.nanos) :
    (server.stopGracefully tasks timeout).2.hub.liveTasks = 0 := by
  have hended : (server.drained (server.hub.stop timeout).2 tasks timeout).hub.liveTasks = 0 :=
    (Hub.drained_stop horderly.usable horderly.ceases_sweep htimeout).2.2
  obtain ⟨-, -, -, ⟨-, hreports⟩ | hreports⟩ := server.stopGracefully_cases tasks timeout
  · rwa [hreports.liveTasks_eq]
  · rw [hreports.liveTasks_eq]
    exact Hub.liveTasks_advance (usable_drained horderly.usable tasks timeout) hended _

/-- Whatever has been done with a server, its graceful stop takes exactly as long as the longest of
the tasks that it is given, but no longer than the timeout, although it waits for that time twice:
waiting for the tasks of the streams takes no time. The clock moves in whole milliseconds, so the
timeout counts as the least number of them that is no shorter; one beyond every clock counts as
thirty years. The stop reports what a stop of the hub would report: the number of the open sessions,
each of which has ended because of the stop, and unless the timeout is zero that no task of a stream
is left. The signal to stop has been given, to the server and to its hub. -/
theorem graceful_stop_waits_once (policy : StreamPolicy) (servesMetrics : Bool)
    (operations : List Operation) (tasks : List Nat) (timeout : Duration) :
    let server := (initial policy servesMetrics).run operations
    let report := (server.stopGracefully tasks timeout).1
    let stopped := (server.stopGracefully tasks timeout).2
    (stopped.hub.now = server.hub.now + min (tasks.foldl max 0) timeout.patience ∧
      (server.hub.stop timeout).2.now = server.hub.now ∧
      ∀ millis, timeout.patience ≤ millis ↔
        (if Clock.overflows timeout then Clock.farFuture else timeout) ≤ .ofMillis millis) ∧
      (report = (server.hub.stop timeout).1 ∧
        report.closed = server.hub.openConnections.length ∧
        (0 < timeout.nanos → report.drained = true ∧ report.remainingTasks = 0 ∧
          stopped.hub.stats.liveTasks = 0)) ∧
      (∀ n session, server.hub.session? n = some session → session.stage = .open →
        ∃ ended, stopped.hub.session? n = some ended ∧ ended.stage = .terminated ∧
          ended.reason = some .shutdown ∧ ended.failure = none) ∧
      stopped.stopping = true ∧ stopped.hub.stopping = true := by
  intro server report stopped
  have horderly : server.hub.Orderly := orderly_run policy servesMetrics operations
  have husable : server.hub.policy.Usable := horderly.usable
  have hrest : (server.hub.stop timeout).2.Undergoes stopped.hub :=
    undergoes_rest_of_stopGracefully husable tasks timeout
  obtain ⟨hreport, hstopping, -⟩ := server.stopGracefully_cases tasks timeout
  refine ⟨⟨now_stopGracefully horderly tasks timeout, horderly.now_stop timeout,
    timeout.patience_le_iff⟩, ⟨hreport, ?_, fun htimeout => ?_⟩, fun n session hs hopen => ?_,
    hstopping, ?_⟩
  · obtain ⟨lost, hbooked⟩ := horderly.booked
    exact (congrArg (·.closed) hreport).trans (hbooked.closed_stop timeout)
  · obtain ⟨hall, hnone, -⟩ := Hub.drained_stop husable horderly.ceases_sweep htimeout
    exact ⟨(congrArg (·.drained) hreport).trans hall,
      (congrArg (·.remainingTasks) hreport).trans hnone,
      liveTasks_stopGracefully horderly tasks htimeout⟩
  · obtain ⟨swept, hswept, hstage, hreason, hfailure⟩ := horderly.session?_sweep hs hopen
    have hundergoes : server.hub.beginStop.sweep.2.Undergoes stopped.hub :=
      (Hub.Undergoes.refl.reaches (Hub.reaches_stop_of_sweep husable timeout)).trans hrest
    obtain ⟨ended, hended, hsame⟩ :=
      hundergoes.sameEnd hswept (by simp [Session.isClaimed, hstage])
    exact ⟨ended, hended, hsame.stage.trans hstage, hsame.reason.trans hreason,
      hsame.failure.trans hfailure⟩
  · have hbegun : (server.hub.stop timeout).2.stopping = true :=
      (Hub.frame_path (Hub.path_stop husable horderly.ceases_sweep timeout)).2.2.1
    exact hrest.stopping hbegun

/-- A timeout that ends between two milliseconds is not kept to: the stop takes until the later
one. -/
theorem graceful_stop_waits_once_not_between_millis :
    ¬ ∀ (policy : StreamPolicy) (servesMetrics : Bool) (operations : List Operation)
      (tasks : List Nat) (timeout : Duration),
      let server := (initial policy servesMetrics).run operations
      (Duration.ofMillis (server.stopGracefully tasks timeout).2.hub.now).nanos =
        (Duration.ofMillis server.hub.now).nanos +
          min (Duration.ofMillis (tasks.foldl max 0)).nanos timeout.nanos := by
  intro hkept
  have hrounded := hkept .default false [] [10] ⟨1500000⟩
  simp only [now_stopGracefully (orderly_run .default false [])] at hrounded
  exact absurd hrounded (by decide +kernel)

end Server

end LiveCounter
