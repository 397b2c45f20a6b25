import LiveCounter.Proofs.Settling

/-!
# The passing of time, and stopping

A task at rest does nothing until one of its timers is due, so it does not matter at which instants
the clock has stopped on the way. Time that passes reaches each connection by itself, as if the
clock had stopped at every millisecond. A stop takes no time: the tasks of a session that has been
closed end as soon as they are polled.
-/

namespace LiveCounter

namespace Duration

/-- The milliseconds that pass at most in a wait that may take the given time. A time beyond every
clock stands for the far future. -/
def patience (timeout : Duration) : Nat :=
  (if Clock.overflows timeout then Clock.farFuture else timeout).ceilMillis

/-- Whole milliseconds are not rounded. -/
theorem ceilMillis_ofMillis_add (millis : Nat) (duration : Duration) :
    (ofMillis millis + duration).ceilMillis = millis + duration.ceilMillis := by
  show (millis * perMilli + duration.nanos + (perMilli - 1)) / perMilli = _
  rw [Nat.add_assoc, Nat.add_comm, Nat.add_mul_div_right _ _ (by decide), Nat.add_comm]
  rfl

/-- There is something to wait for unless no time at all is given. -/
theorem patience_eq_zero_iff (timeout : Duration) : timeout.patience = 0 ↔ timeout.nanos = 0 := by
  unfold patience
  split
  · next hfar =>
    refine iff_of_false (by decide) fun hzero => ?_
    obtain rfl : timeout = ⟨0⟩ := congrArg Duration.mk hzero
    exact absurd hfar (by decide)
  · rw [ceilMillis, perMilli]
    omega

/-- A wait may go on up to the first whole millisecond at which its time has passed. -/
theorem patience_le_iff (timeout : Duration) (millis : Nat) :
    timeout.patience ≤ millis ↔
      (if Clock.overflows timeout then Clock.farFuture else timeout) ≤ ofMillis millis := by
  rw [patience]
  generalize (if Clock.overflows timeout then Clock.farFuture else timeout) = duration
  show (duration.nanos + (perMilli - 1)) / perMilli ≤ millis ↔ duration.nanos ≤ millis * perMilli
  rw [perMilli]
  omega

end Duration

namespace Connection

/-- The connection after so many milliseconds, in each of which its tasks have settled. -/
def elapsed (policy : StreamPolicy) : (millis now : Nat) → Connection → Connection
  | 0, _, connection => connection
  | millis + 1, now, connection =>
    elapsed policy millis (now + 1) (connection.settled policy (now + 1))

/-- Time may pass in two parts. -/
theorem elapsed_add (policy : StreamPolicy) (first second now : Nat) (connection : Connection) :
    elapsed policy (first + second) now connection =
      elapsed policy second (now + first) (elapsed policy first now connection) := by
  induction first generalizing now connection with
  | zero => rw [Nat.zero_add, elapsed, Nat.add_zero]
  | succ first ih => rw [Nat.succ_add, elapsed, ih, elapsed, Nat.add_right_comm, Nat.add_assoc]

/-- A connection without tasks stays as it is. -/
theorem elapsed_of_liveTasks (policy : StreamPolicy) {connection : Connection}
    (h : connection.liveTasks = 0) (millis now : Nat) :
    elapsed policy millis now connection = connection := by
  induction millis generalizing now with
  | zero => rfl
  | succ millis ih => rw [elapsed, settled_of_atRest policy (atRest_of_liveTasks h _), ih]

/-- As long as no timer is due it makes no difference whether the clock stops. -/
theorem elapsed_of_notDue (policy : StreamPolicy) {connection : Connection} {now millis : Nat}
    (h : connection.AtRest now)
    (hdue : ∀ timer ∈ connection.timers, now + (millis + 1) ≤ timer.due) :
    elapsed policy (millis + 1) now connection = connection.settled policy (now + (millis + 1)) := by
  induction millis generalizing now with
  | zero => rfl
  | succ millis ih =>
    have hnext : connection.AtRest (now + 1) := by
      refine h.later fun timer htimer => Timer.isDue_eq_false_iff.mpr ?_
      have := hdue timer htimer
      omega
    rw [elapsed, settled_of_atRest policy hnext, ih hnext]
    · congr 1
      omega
    · intro timer htimer
      have := hdue timer htimer
      omega

end Connection

namespace Hub

/-! ## Time -/

/-- To keep the least number of a list is to find its minimum. -/
theorem foldl_elim_min {A : Type} (f : A → Nat) (items : List A) (least : Option Nat) :
    items.foldl (fun least item => some (least.elim (f item) (min (f item)))) least =
      (least.toList ++ items.map f).min? := by
  induction items generalizing least with
  | nil => cases least <;> rfl
  | cons item rest ih =>
    rw [List.foldl_cons, ih]
    cases least with
    | none => rfl
    | some least =>
      simp only [Option.elim_some, Option.toList_some, List.cons_append, List.nil_append,
        List.map_cons, List.min?_cons', List.foldl_cons, Nat.min_comm least]

/-- The next instant is the least one of all timers. -/
theorem nextDue?_eq (hub : Hub) :
    hub.nextDue? = ((hub.connections.flatMap (·.timers)).map Timer.due).min? :=
  foldl_elim_min Timer.due _ none

/-- No timer is due before the instant at which the clock stops next. -/
theorem nextDue_le {hub : Hub} {connection : Connection} (h : connection ∈ hub.connections)
    {timer : Timer} (htimer : timer ∈ connection.timers) :
    ∃ first, hub.nextDue? = some first ∧ first ≤ timer.due := by
  have hmem : timer.due ∈ (hub.connections.flatMap (·.timers)).map Timer.due :=
    List.mem_map_of_mem (List.mem_flatMap.mpr ⟨connection, h, htimer⟩)
  obtain ⟨first, hfirst⟩ := Option.isSome_iff_exists.mp (List.isSome_min?_of_mem hmem)
  exact ⟨first, (nextDue?_eq hub).trans hfirst, (List.min?_eq_some_iff.mp hfirst).2 _ hmem⟩

/-- The clock stops at the next instant only, and not after a timer of a task at rest. -/
theorem next_le {hub : Hub} {connection : Connection} (h : connection ∈ hub.connections)
    (hrest : connection.AtRest hub.now) {timer : Timer} (htimer : timer ∈ connection.timers)
    (target : Nat) :
    max (hub.now + 1) (hub.nextDue?.elim target (min target)) ≤ timer.due := by
  obtain ⟨first, hfirst, hle⟩ := nextDue_le h htimer
  have hlater := Timer.isDue_eq_false_iff.mp (hrest.notDue timer htimer)
  rw [hfirst, Option.elim_some]
  have hmin := Nat.min_le_right target first
  omega

/-- The clock is not set beyond the end of a wait. -/
theorem le_target {now target : Nat} (h : now < target) (due : Option Nat) :
    max (now + 1) (due.elim target (min target)) ≤ target := by
  cases due with
  | none => simp only [Option.elim_none]; omega
  | some due => simp only [Option.elim_some]; omega

/-- Time reaches each connection by itself, as if the clock had stopped at every millisecond. -/
theorem connections_runUntil {hub : Hub} (hpolicy : hub.policy.Usable)
    (hrest : ∀ connection ∈ hub.connections, connection.AtRest hub.now) (millis : Nat) :
    (runUntil (hub.now + millis) (fun _ => false) hub).connections =
        hub.connections.map (Connection.elapsed hub.policy millis hub.now) ∧
      (runUntil (hub.now + millis) (fun _ => false) hub).now = hub.now + millis := by
  -- The clock jumps from timer to timer, so the induction is on the time that is left.
  induction millis using Nat.strongRecOn generalizing hub with
  | ind millis ih =>
    rw [runUntil]
    by_cases hmillis : millis = 0
    · subst hmillis
      simp [Connection.elapsed]
    · have hlt : hub.now < hub.now + millis := by omega
      rw [if_neg (not_or_intro Bool.false_ne_true (Nat.not_le_of_lt hlt))]
      have hstop := fun (connection : Connection) (hmem : connection ∈ hub.connections)
          (timer : Timer) (htimer : timer ∈ connection.timers) =>
        next_le hmem (hrest connection hmem) htimer (hub.now + millis)
      have hle := le_target hlt hub.nextDue?
      have hge := Nat.le_max_left (hub.now + 1)
        (hub.nextDue?.elim (hub.now + millis) (min (hub.now + millis)))
      simp only
      generalize max (hub.now + 1) (hub.nextDue?.elim (hub.now + millis)
        (min (hub.now + millis))) = next at hstop hle hge ⊢
      obtain ⟨passed, rfl⟩ : ∃ passed, next = hub.now + (passed + 1) :=
        ⟨next - hub.now - 1, by omega⟩
      obtain ⟨rest, rfl⟩ : ∃ rest, millis = passed + 1 + rest :=
        ⟨millis - (passed + 1), by omega⟩
      have hmiddle := atRest_settle { hub with now := hub.now + (passed + 1) } hpolicy
      obtain ⟨hconnections, hnow⟩ := ih rest (by omega) (by rwa [policy_settle]) hmiddle
      rw [now_settle, policy_settle, connections_settle, List.map_map] at hconnections
      rw [now_settle] at hnow
      rw [← Nat.add_assoc]
      refine ⟨hconnections.trans (List.map_congr_left fun connection hmem => ?_), hnow⟩
      rw [Function.comp_apply, Connection.elapsed_add,
        Connection.elapsed_of_notDue hub.policy (hrest connection hmem) (hstop connection hmem)]

/-- The connection after its tasks have settled and so much time has passed. -/
theorem connections_advance {hub : Hub} (hpolicy : hub.policy.Usable) (millis : Nat) :
    (hub.advance millis).connections = hub.connections.map (fun connection =>
        Connection.elapsed hub.policy millis hub.now (connection.settled hub.policy hub.now)) ∧
      (hub.advance millis).now = hub.now + millis := by
  have huntil := connections_runUntil (by rwa [policy_settle]) (atRest_settle hub hpolicy) millis
  rw [policy_settle, connections_settle, now_settle, List.map_map] at huntil
  exact huntil

/-! ## Invariants -/

/-- Whatever setting the clock and settling keep, the passing of time keeps. -/
theorem runUntil_induction {P : Hub → Prop}
    (hstep : ∀ (hub : Hub) (now : Nat), P hub → P { hub with now }.settle)
    (target : Nat) (done : Hub → Bool) {hub : Hub} (h : P hub) : P (runUntil target done hub) := by
  induction hub using runUntil.induct target done with
  | case1 hub hdone =>
    rw [runUntil, if_pos hdone]
    exact h
  | case2 hub hdone next ih =>
    rw [runUntil, if_neg hdone]
    exact ih (hstep hub next h)

/-- The time of day is no matter of consistency. -/
theorem Consistent.withNow {hub : Hub} (h : hub.Consistent) (now : Nat) :
    ({ hub with now } : Hub).Consistent :=
  ⟨h.settled, h.table_nodup, h.listed, h.wellFormed, h.subscribed, h.active_le, h.opened_eq,
    h.disagreements_eq⟩

/-- From a consistent hub what comes by a path of changes follows. -/
theorem Consistent.follows_path {hub later : Hub} (h : hub.Consistent) (hpath : hub.Path later) :
    hub.Follows later :=
  ⟨h.path hpath, (frame_path hpath).1, (frame_path hpath).2.2.2⟩

/-- The passing of time leaves the records in agreement. -/
theorem Consistent.follows_advance {hub : Hub} (h : hub.Consistent) (millis : Nat) :
    hub.Follows (hub.advance millis) ∧ (hub.advance millis).stopping = hub.stopping := by
  have hsettle (later : Hub) (hlater : hub.Follows later ∧ later.stopping = hub.stopping) :
      hub.Follows later.settle ∧ later.settle.stopping = hub.stopping :=
    ⟨hlater.1.trans (hlater.1.consistent.follows_path later.path_settle),
      (frame_path later.path_settle).2.2.1.trans hlater.2⟩
  refine runUntil_induction (P := fun later => hub.Follows later ∧ later.stopping = hub.stopping)
    (fun later now hlater => ?_) _ _ (hsettle hub ⟨h.follows, rfl⟩)
  exact hsettle { later with now } ⟨⟨hlater.1.consistent.withNow now, hlater.1.policy_eq,
    hlater.1.metrics_le⟩, hlater.2⟩

/-! ## Stopping -/

/-- A sweep closes each open session. -/
theorem connections_sweep {hub : Hub} (h : hub.Consistent) :
    hub.sweep.2.connections = hub.connections.map fun connection =>
      connection.after (connection.closeMoves .shutdown True) := by
  apply List.ext_getElem?
  intro n
  rw [acts_sweep hub n, List.getElem?_map]
  cases hconnection : hub.connections[n]? with
  | none => rfl
  | some connection =>
    have hmoves := h.moves_eq hconnection .sweep
    exact congrArg (fun moves => some (connection.after moves)) hmoves

/-- After a sweep all sessions are cancelled, so their tasks end. -/
theorem ceases_sweep {hub : Hub} (h : hub.Consistent) :
    ∀ connection ∈ hub.sweep.2.connections, connection.Ceases := by
  intro connection hmem
  rw [connections_sweep h] at hmem
  obtain ⟨before, hbefore, rfl⟩ := List.mem_map.mp hmem
  obtain ⟨n, hn⟩ := List.mem_iff_getElem?.mp hbefore
  cases h.settled n before.session (by simp [session?, hn]) with
  | live stage =>
    right
    simp [Connection.closeMoves, stage, Connection.move, Connection.withSession, Session.retired,
      Session.isClaimed]
  | ended stage _ cancelled => exact Or.inr (by simpa [Connection.closeMoves, stage] using cancelled)

/-- No task lives in the hub when none does in any connection. -/
theorem liveTasks_eq_zero_iff (hub : Hub) :
    hub.liveTasks = 0 ↔ ∀ connection ∈ hub.connections, connection.liveTasks = 0 := by
  have hsum : hub.liveTasks = (hub.connections.map (·.liveTasks)).sum := rfl
  rw [hsum, List.sum_eq_zero_iff_forall_eq_nat, List.forall_mem_map]

/-- Tasks that end when they are polled end without any time passing. -/
theorem liveTasks_settle {hub : Hub} (hpolicy : hub.policy.Usable)
    (h : ∀ connection ∈ hub.connections, connection.Ceases) : hub.settle.liveTasks = 0 := by
  rw [liveTasks_eq_zero_iff, connections_settle]
  intro connection hmem
  obtain ⟨before, hbefore, rfl⟩ := List.mem_map.mp hmem
  exact (h before hbefore).liveTasks_settled hpolicy hub.now

/-- A wait ends when its time has passed. -/
theorem deadline_eq (hub : Hub) (timeout : Duration) :
    hub.deadline timeout = hub.now + timeout.patience := by
  simp only [deadline, Clock.set, Clock.setAt, Clock.after, Timer.due, Clock.instant,
    Duration.patience]
  split <;> exact Duration.ceilMillis_ofMillis_add hub.now _

/-- A wait without any time ends at once, and any other one ends later. -/
theorem deadline_le_iff (hub : Hub) (timeout : Duration) :
    hub.deadline timeout ≤ hub.now ↔ timeout.nanos = 0 := by
  rw [deadline_eq, ← Duration.patience_eq_zero_iff]
  omega

/-- A wait for tasks that all cease is over when they have settled, if it begins at all. -/
theorem awaitTasks_of_ceases {hub : Hub} (hpolicy : hub.policy.Usable)
    (h : ∀ connection ∈ hub.connections, connection.Ceases) (timeout : Duration) :
    hub.awaitTasks timeout = if timeout.nanos = 0 then hub else hub.settle := by
  simp only [awaitTasks, deadline_le_iff]
  split
  · rfl
  · rw [runUntil, if_pos]
    exact Or.inl (by simp [liveTasks_settle hpolicy h])

/-- Without tasks there is nothing to settle. -/
theorem connections_settle_of_liveTasks {hub : Hub} (h : hub.liveTasks = 0) :
    hub.settle.connections = hub.connections := by
  rw [connections_settle]
  refine (List.map_congr_left fun connection hmem => ?_).trans (List.map_id hub.connections)
  exact Connection.settled_of_atRest hub.policy
    (Connection.atRest_of_liveTasks ((liveTasks_eq_zero_iff hub).mp h connection hmem) hub.now)

/-- The hub of a stop after its sweep, once it has waited. -/
def awaited (hub : Hub) (timeout : Duration) : Hub :=
  if hub.liveTasks = 0 then hub else hub.awaitTasks timeout

/-- Tasks that all cease have settled after the wait, if there was any. -/
theorem connections_awaited {hub : Hub} (hpolicy : hub.policy.Usable)
    (h : ∀ connection ∈ hub.connections, connection.Ceases) (timeout : Duration) :
    (hub.awaited timeout).connections =
      if timeout.nanos = 0 then hub.connections else hub.settle.connections := by
  unfold awaited
  split
  · next hlive => rw [connections_settle_of_liveTasks hlive, ite_self]
  · rw [awaitTasks_of_ceases hpolicy h]
    split <;> rfl

/-- A wait for tasks that all cease is a path of changes. -/
theorem path_awaited {hub : Hub} (hpolicy : hub.policy.Usable)
    (h : ∀ connection ∈ hub.connections, connection.Ceases) (timeout : Duration) :
    hub.Path (hub.awaited timeout) := by
  unfold awaited
  split
  · exact .refl
  · rw [awaitTasks_of_ceases hpolicy h]
    split
    · exact .refl
    · exact path_settle hub

/-- After the wait of a stop there is nothing left but to report. -/
theorem reports_stop (hub : Hub) (timeout : Duration) :
    (hub.beginStop.sweep.2.awaited timeout).Reports (hub.stop timeout).2 := by
  change Reports _ (if (hub.beginStop.sweep.2.awaited timeout).liveTasks = 0 then _ else _)
  split
  · exact reports_log _ _ _ _
  · exact reports_log _ _ _ _

/-- A stop closes each open session, and lets the tasks end unless it is given no time at all. -/
theorem connections_stop {hub : Hub} (h : hub.Consistent) (hpolicy : hub.policy.Usable)
    (timeout : Duration) :
    (hub.stop timeout).2.connections = hub.connections.map fun connection =>
      let swept := connection.after (connection.closeMoves .shutdown True)
      if timeout.nanos = 0 then swept else swept.settled hub.policy hub.now := by
  have hbegun : hub.beginStop.Consistent := h.outset .sweep
  obtain ⟨hsame, hnow, -⟩ := frame_path (path_sweep hub.beginStop)
  have husable : hub.beginStop.sweep.2.policy.Usable := hsame.symm ▸ hpolicy
  rw [(reports_stop hub timeout).connections,
    connections_awaited husable (ceases_sweep hbegun), connections_settle, connections_sweep hbegun,
    hsame, hnow, List.map_map]
  split
  · rfl
  · rfl

/-- Where the sweep leaves no task that would go on, the rest of a stop is settling and reporting. -/
theorem path_stop {hub : Hub} (hpolicy : hub.policy.Usable)
    (h : ∀ connection ∈ hub.beginStop.sweep.2.connections, connection.Ceases) (timeout : Duration) :
    hub.beginStop.Path (hub.stop timeout).2 := by
  have hswept := path_sweep hub.beginStop
  have husable : hub.beginStop.sweep.2.policy.Usable := (frame_path hswept).1.symm ▸ hpolicy
  exact (hswept.trans (path_awaited husable h timeout)).trans (reports_stop hub timeout).path

/-- A stop lets no time pass, and leaves the records in agreement. -/
theorem Consistent.follows_stop {hub : Hub} (h : hub.Consistent) (hpolicy : hub.policy.Usable)
    (timeout : Duration) :
    hub.Follows (hub.stop timeout).2 ∧ (hub.stop timeout).2.now = hub.now ∧
      (hub.stop timeout).2.stopping = true := by
  have hbegun : hub.beginStop.Consistent := h.outset .sweep
  have hpath := path_stop hpolicy (ceases_sweep hbegun) timeout
  obtain ⟨hsame, hnow, hstopping, hmetrics⟩ := frame_path hpath
  exact ⟨⟨hbegun.path hpath, hsame, hmetrics⟩, hnow, hstopping⟩

end Hub

end LiveCounter
