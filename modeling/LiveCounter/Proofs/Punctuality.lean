import LiveCounter.Proofs.Elapsing
import LiveCounter.Proofs.Following

/-!
# Punctual runs

In a run time may pass while a task could go on, and past the instants of timers. A run is punctual
if it does neither: all tasks have settled before time passes, and the clock stops at every instant
at which a timer is due. Results that name the instant of something are about such runs, whose timers
are served when they are due; where a timer is served late, so is what it brings about. The hub
itself runs punctually, so what takes its time in punctual runs takes its time whenever the hub lets
time pass.
-/

namespace LiveCounter

namespace Hub

/-! ## Settled hubs -/

/-- No task can go on before time passes: a poll changes nothing. -/
def Settled (hub : Hub) : Prop := ∀ n, hub.pollWatch n = hub ∧ hub.pollWriter n = hub

/-- A change that leaves the only connection that it concerns as it is leaves the hub as it is. -/
theorem modify_eq_self {hub : Hub} {n : Nat} {f : Connection → Connection}
    (h : ∀ connection, hub.connections[n]? = some connection → f connection = connection) :
    hub.modify n f = hub := by
  have hsame : hub.connections.modify n f = hub.connections :=
    (modify_congr h).trans (List.modify_id n hub.connections)
  rw [modify, hsame]

/-- A poll of a watch at rest changes nothing. -/
theorem pollWatch_of_rests {hub : Hub} {n : Nat}
    (h : ∀ connection, hub.connections[n]? = some connection →
      connection.watch.Rests connection.session hub.now) : hub.pollWatch n = hub := by
  unfold pollWatch
  cases hconnection : hub.connections[n]? with
  | none => rfl
  | some connection =>
    have hrun : connection.watch.run hub.policy connection.session (connection.clock hub.now) =
        (.alive, connection.watch, connection.clock hub.now) :=
      Watch.run_of_rests hub.policy (h connection hconnection)
    simp only [hrun]
    refine modify_eq_self fun other hother => ?_
    obtain rfl := Option.some.inj (hconnection.symm.trans hother)
    rfl

/-- A poll of a writer at rest changes nothing. -/
theorem pollWriter_of_rests {hub : Hub} {n : Nat}
    (h : ∀ connection, hub.connections[n]? = some connection → connection.WriterRests hub.now) :
    hub.pollWriter n = hub := by
  unfold pollWriter
  cases hconnection : hub.connections[n]? with
  | none => rfl
  | some connection =>
    obtain ⟨session, watch, service, held, timersSet⟩ := connection
    cases service with
    | none => rfl
    | some service =>
      have hrun := Writer.run_of_rests hub.policy (h _ hconnection service rfl)
      simp only [Connection.desk] at hrun
      simp only [hrun]
      refine modify_eq_self fun other hother => ?_
      obtain rfl := Option.some.inj (hconnection.symm.trans hother)
      rfl

/-- A hub has settled exactly if all its tasks have nothing to do. -/
theorem settled_iff {hub : Hub} (hpolicy : hub.policy.Usable) :
    hub.Settled ↔ ∀ connection ∈ hub.connections, connection.AtRest hub.now := by
  constructor
  · intro h connection hmem
    obtain ⟨n, hn⟩ := List.mem_iff_getElem?.mp hmem
    obtain ⟨hwatch, hwriter⟩ := h n
    have hpolledWatch : connection.polledWatch hub.policy hub.now = connection := by
      have hsame := congrArg (·.connections[n]?) hwatch
      simpa [connections_pollWatch, hn] using hsame
    have hpolledWriter : connection.polledWriter hub.policy hub.now = connection := by
      have hsame := congrArg (·.connections[n]?) hwriter
      simpa [connections_pollWriter, hn] using hsame
    exact ⟨hpolledWatch ▸ connection.rests_polledWatch hpolicy hub.now,
      hpolledWriter ▸ connection.writerRests_polledWriter hpolicy hub.now⟩
  · intro h n
    exact ⟨pollWatch_of_rests fun connection hn => (h connection (List.mem_of_getElem? hn)).watch,
      pollWriter_of_rests fun connection hn => (h connection (List.mem_of_getElem? hn)).writer⟩

/-- Once tasks have settled, no poll changes anything. -/
theorem settled_settle {hub : Hub} (hpolicy : hub.policy.Usable) : hub.settle.Settled :=
  (settled_iff (policy_settle hub ▸ hpolicy)).mpr (atRest_settle hub hpolicy)

/-- Timers have positive periods in every run from the start. -/
theorem usable_run (policy : StreamPolicy) (operations : List Operation) :
    ((Hub.new policy).run operations).policy.Usable := by
  rw [policy_run]
  exact policy.usable_clamped

instance (policy : StreamPolicy) (operations : List Operation) :
    Decidable ((Hub.new policy).run operations).Settled :=
  decidable_of_iff' _ (settled_iff (usable_run policy operations))

/-! ## Punctual runs -/

/-- If the operation lets time pass then all tasks have settled, and no timer is passed over. -/
def Operation.Punctual (hub : Hub) : Operation → Prop
  | .pass millis => hub.Settled ∧
      ∀ connection ∈ hub.connections, ∀ timer ∈ connection.timers, hub.now + millis ≤ timer.due
  | _ => True

/-- In each step of the run time passes only when and as far as it may. -/
def Punctual : Hub → List Operation → Prop
  | _, [] => True
  | hub, operation :: rest => operation.Punctual hub ∧ Punctual (hub.step operation) rest

/-- A run is punctual when its parts are, one after the other. -/
theorem punctual_append {hub : Hub} {first second : List Operation} :
    hub.Punctual (first ++ second) ↔ hub.Punctual first ∧ (hub.run first).Punctual second := by
  induction first generalizing hub with
  | nil => simp [Punctual]
  | cons operation rest ih => simp [Punctual, ih, and_assoc]

/-- What lasts, and does not end with time as long as tasks are at rest and no timer is due, holds
of all connections of a punctual run if it holds of each one that is added. -/
theorem Lasting.run_of_punctual {P : Nat → Connection → Prop} {hub : Hub}
    (h : Lasting hub.policy P) (hpolicy : hub.policy.Usable)
    (hpass : ∀ now millis connection, connection.AtRest now →
      (∀ timer ∈ connection.timers, now + millis ≤ timer.due) → P now connection →
      P (now + millis) connection)
    (harrives : ∀ (hub' : Hub) operation connection, hub'.policy = hub.policy →
      hub'.Arrives operation connection → P hub'.now connection)
    (hall : ∀ connection ∈ hub.connections, P hub.now connection) {operations : List Operation}
    (hpunctual : hub.Punctual operations) :
    ∀ connection ∈ (hub.run operations).connections, P (hub.run operations).now connection := by
  induction operations generalizing hub with
  | nil => exact hall
  | cons operation rest ih =>
    have hsame := policy_step hub operation
    obtain ⟨hfirst, hrest⟩ := hpunctual
    refine ih (hsame ▸ h) (hsame ▸ hpolicy) (hsame ▸ harrives) (fun connection hmem => ?_) hrest
    by_cases hpassing : ∃ millis, operation = .pass millis
    · obtain ⟨millis, rfl⟩ := hpassing
      exact hpass hub.now millis connection ((settled_iff hpolicy).mp hfirst.1 connection hmem)
        (hfirst.2 connection hmem) (hall connection hmem)
    · obtain ⟨n, hn⟩ := List.mem_iff_getElem?.mp hmem
      rw [now_step fun millis heq => hpassing ⟨millis, heq⟩]
      exact h.step hn (fun _ => harrives hub operation connection rfl)
        fun before hbefore => hall before (List.mem_of_getElem? hbefore)

/-- Whether an operation is punctual, found out by looking at the tasks. -/
def Operation.keepsTime (hub : Hub) : Operation → Bool
  | .pass millis => hub.connections.all fun connection =>
      connection.AtRest hub.now ∧ ∀ timer ∈ connection.timers, hub.now + millis ≤ timer.due
  | _ => true

/-- Whether a run is punctual. -/
def keepsTime : Hub → List Operation → Bool
  | _, [] => true
  | hub, operation :: rest => operation.keepsTime hub && keepsTime (hub.step operation) rest

/-- Whether a run is punctual can be found out by looking at the tasks. -/
theorem punctual_iff_keepsTime {hub : Hub} (hpolicy : hub.policy.Usable)
    (operations : List Operation) : hub.Punctual operations ↔ hub.keepsTime operations = true := by
  induction operations generalizing hub with
  | nil => simp [Punctual, keepsTime]
  | cons operation rest ih =>
    rw [Punctual, keepsTime, Bool.and_eq_true, ih (by rwa [policy_step])]
    apply and_congr_left'
    cases operation with
    | pass millis =>
      simp only [Operation.Punctual, settled_iff hpolicy, Operation.keepsTime, List.all_eq_true,
        decide_eq_true_eq]
      exact forall₂_and.symm
    | _ => exact iff_of_true trivial rfl

instance (policy : StreamPolicy) (operations : List Operation) :
    Decidable ((Hub.new policy).Punctual operations) :=
  decidable_of_iff' _ (punctual_iff_keepsTime policy.usable_clamped operations)

/-! ## Tasks on time -/

end Hub

namespace Connection

/-- No task of the connection is late: no timer is overdue, and a task that has not run yet has been
started just now. -/
structure OnTime (connection : Connection) (now : Nat) : Prop where
  past : connection.session.lastActivity ≤ now
  timers : ∀ timer ∈ connection.timers, now ≤ timer.due
  watch : connection.watch = .spawned → now ≤ connection.session.lastActivity
  writer : ∀ service, connection.service = some service → service.phase = .spawned →
    now ≤ connection.session.lastActivity

/-- A connection that is on time stays so if it is not disturbed. -/
theorem OnTime.undisturbed {before after : Connection} {now : Nat} (h : before.OnTime now)
    (hsame : before.Undisturbed after) : after.OnTime now where
  past := hsame.lastActivity ▸ h.past
  timers := hsame.timers ▸ h.timers
  watch hspawned := hsame.lastActivity ▸ h.watch (hsame.watch ▸ hspawned)
  writer service hservice hspawned := by
    obtain ⟨earlier, hearlier, hwork⟩ := hsame.service_eq_some hservice
    rw [hsame.lastActivity]
    exact h.writer earlier hearlier (hwork.phase ▸ hspawned)

/-- A connection is on time after its watch has run. -/
theorem OnTime.watched {connection : Connection} {now : Nat} (h : connection.OnTime now)
    {policy : StreamPolicy} (hpolicy : policy.Usable) : (connection.watched policy now).OnTime now := by
  have hrests : (connection.watched policy now).watch.Rests connection.session now :=
    Watch.rests_run hpolicy connection.watch connection.session (connection.clock now)
  refine ⟨h.past, fun timer htimer => ?_, fun hspawned => ?_, h.writer⟩
  · rcases List.mem_append.mp htimer with hwatch | hwriter
    · exact Nat.le_of_lt (Timer.isDue_eq_false_iff.mp (hrests.notDue timer hwatch))
    · exact h.timers timer (List.mem_append_right _ hwriter)
  · rw [hspawned] at hrests
    cases hrests

/-- A connection is on time after its writer has run. -/
theorem OnTime.written {connection : Connection} {now : Nat} (h : connection.OnTime now)
    {policy : StreamPolicy} (hpolicy : policy.Usable) :
    (connection.written policy now).OnTime now := by
  cases hservice : connection.service with
  | none =>
    have hsame : connection.written policy now = connection := by
      simp [Connection.written, hservice]
    rwa [hsame]
  | some service =>
    obtain ⟨hactivity, hpast⟩ := lastActivity_written h.past policy
    have hsettles := Writer.settles_run hpolicy service.phase (connection.desk service.client now)
    have hafter := service_written hservice policy now
    have hwatch : (connection.written policy now).watch = connection.watch := by
      simp [Connection.written, hservice]
    -- After its run the writer rests or has ended; in both cases it is not at its first run, and
    -- none of its timers is due.
    have hphase : ∀ last, (connection.written policy now).service = some last →
        last.phase ≠ .spawned ∧ ∀ timer ∈ Writer.timers last.phase, now ≤ timer.due := by
      intro last hlast
      obtain rfl := Option.some.inj (hafter.symm.trans hlast)
      generalize Writer.run policy service.phase (connection.desk service.client now) = result
        at hsettles
      obtain ⟨run, desk⟩ := result
      obtain ⟨hnow, hrests⟩ := hsettles
      have hnow : desk.clock.now = now := hnow
      cases run with
      | exited exit => exact ⟨by simp [phaseAfter], fun _ htimer => by (cases htimer)⟩
      | suspended phase =>
        have hrests : Writer.Rests desk phase := hrests
        refine ⟨?_, fun timer htimer => ?_⟩
        · rintro rfl
          cases hrests
        · have hlater := Timer.isDue_eq_false_iff.mp (hrests.notDue timer htimer)
          omega
    refine ⟨hpast, fun timer htimer => ?_, fun hspawned => ?_, fun last hlast hspawned => ?_⟩
    · rcases List.mem_append.mp htimer with hbefore | hwriter
      · exact h.timers timer (List.mem_append_left _ (hwatch ▸ hbefore))
      · rw [writerTimers, hafter] at hwriter
        exact (hphase _ hafter).2 timer hwriter
    · exact Nat.le_trans (h.watch (hwatch ▸ hspawned)) hactivity
    · exact absurd hspawned (hphase last hlast).1

/-- A task at rest has run at least once. -/
theorem AtRest.not_spawned {connection : Connection} {now : Nat} (h : connection.AtRest now) :
    connection.watch ≠ .spawned ∧
      ∀ service, connection.service = some service → service.phase ≠ .spawned := by
  refine ⟨fun hspawned => ?_, fun service hservice hspawned => ?_⟩
  · have hwatch := h.watch
    rw [hspawned] at hwatch
    cases hwatch
  · have hwriter := h.writer service hservice
    rw [hspawned] at hwriter
    cases hwriter

/-- Punctual time makes no task late. -/
theorem OnTime.passed {connection : Connection} {now millis : Nat} (h : connection.OnTime now)
    (hrest : connection.AtRest now) (hdue : ∀ timer ∈ connection.timers, now + millis ≤ timer.due) :
    connection.OnTime (now + millis) where
  past := Nat.le_trans h.past (Nat.le_add_right _ _)
  timers := hdue
  watch hspawned := absurd hspawned hrest.not_spawned.1
  writer service hservice hspawned := absurd hspawned (hrest.not_spawned.2 service hservice)

end Connection

namespace Hub

/-- Connections stay on time in every punctual run. -/
theorem lasting_onTime {policy : StreamPolicy} (hpolicy : policy.Usable) :
    Lasting policy fun now connection => connection.OnTime now :=
  lasting_of_undisturbed (fun _ _ _ hsame h => h.undisturbed hsame) (fun _ _ h => h.watched hpolicy)
    (fun _ _ h => h.written hpolicy)
    (fun _ _ h => ⟨Nat.le_refl _, h.timers, fun _ => Nat.le_refl _, fun _ _ _ => Nat.le_refl _⟩)
    (fun _ _ h => ⟨Nat.le_refl _, h.timers, fun _ => Nat.le_refl _, fun _ _ _ => Nat.le_refl _⟩)

/-- Offering the first value to a new session is no sign of life. -/
theorem lastActivity_greeted (session : Session) (topic : Topic) (initial : Option Int64) :
    (session.greeted topic initial).lastActivity = session.lastActivity := by
  cases initial with
  | none => rfl
  | some value =>
    rw [Session.greeted, Session.offer_eq]
    split
    · split <;> rfl
    · rfl

/-- A connection that is added is active now, and its tasks wait for nothing. -/
theorem lastActivity_of_arrives {hub : Hub} {operation : Operation} {connection : Connection}
    (h : hub.Arrives operation connection) :
    connection.session.lastActivity = hub.now ∧ connection.timers = [] := by
  cases h with
  | joined topic id => exact ⟨rfl, rfl⟩
  | accepted topic id transport initial _ => exact ⟨lastActivity_greeted _ topic initial, rfl⟩
  | created topic capacity id => exact ⟨rfl, rfl⟩

/-- A connection that has just been added is on time. -/
theorem onTime_of_arrives {hub : Hub} {operation : Operation} {connection : Connection}
    (h : hub.Arrives operation connection) : connection.OnTime hub.now := by
  obtain ⟨hactivity, htimers⟩ := lastActivity_of_arrives h
  exact ⟨Nat.le_of_eq hactivity, by simp [htimers], fun _ => Nat.le_of_eq hactivity.symm,
    fun _ _ _ => Nat.le_of_eq hactivity.symm⟩

/-- In a punctual run no task is ever late. -/
theorem onTime_run (policy : StreamPolicy) {operations : List Operation}
    (hpunctual : (Hub.new policy).Punctual operations) :
    ∀ connection ∈ ((Hub.new policy).run operations).connections,
      connection.OnTime ((Hub.new policy).run operations).now :=
  (lasting_onTime policy.usable_clamped).run_of_punctual policy.usable_clamped
    (fun _ _ _ hrest hdue h => h.passed hrest hdue) (fun _ _ _ _ h => onTime_of_arrives h)
    (by simp [Hub.new]) hpunctual

/-! ## The hub is punctual -/

/-- The later hub comes out of the first one by a punctual run that goes through the hub. -/
def Reaches (hub later : Hub) : Prop :=
  ∃ operations, (∀ operation ∈ operations, operation.isRegular = true) ∧ hub.Punctual operations ∧
    hub.run operations = later

/-- A hub comes out of itself when nothing happens. -/
theorem Reaches.refl (hub : Hub) : hub.Reaches hub := ⟨[], by simp, trivial, rfl⟩

/-- What comes of a hub by punctual runs adds up. -/
theorem Reaches.trans {first second third : Hub} (h : first.Reaches second)
    (h' : second.Reaches third) : first.Reaches third := by
  obtain ⟨operations, hregular, hpunctual, rfl⟩ := h
  obtain ⟨operations', hregular', hpunctual', rfl⟩ := h'
  exact ⟨operations ++ operations', List.forall_mem_append.mpr ⟨hregular, hregular'⟩,
    punctual_append.mpr ⟨hpunctual, hpunctual'⟩, run_append ..⟩

/-- A hub reaches what a regular and punctual operation makes of it. -/
theorem reaches_step {hub : Hub} (operation : Operation) (hregular : operation.isRegular = true)
    (h : operation.Punctual hub) : hub.Reaches (hub.step operation) :=
  ⟨[operation], by simpa using hregular, ⟨h, trivial⟩, rfl⟩

/-- No run changes the policy. -/
theorem Reaches.policy_eq {hub later : Hub} (h : hub.Reaches later) : later.policy = hub.policy := by
  obtain ⟨operations, -, -, rfl⟩ := h
  exact policy_run hub operations

/-- To poll the tasks of a session until they rest is a punctual run. -/
theorem reaches_settleOne (hub : Hub) (n : Nat) : hub.Reaches (hub.settleOne n) := by
  have hwatch (hub : Hub) : hub.Reaches (hub.pollWatch n) :=
    reaches_step (.pollWatch n) rfl trivial
  have hwriter (hub : Hub) : hub.Reaches (hub.pollWriter n) :=
    reaches_step (.pollWriter n) rfl trivial
  have hwriterFirst := ((hwriter hub).trans (hwatch _)).trans (hwriter _)
  have hwatchFirst := ((hwatch hub).trans (hwriter _)).trans (hwatch _)
  simp only [settleOne]
  split <;> split
  all_goals first | exact hwriterFirst | exact hwatchFirst

/-- To poll all tasks until they rest is a punctual run. -/
theorem reaches_settle (hub : Hub) : hub.Reaches hub.settle := by
  suffices ∀ (ns : List Nat) (hub : Hub), hub.Reaches (ns.foldl settleOne hub) from this _ hub
  intro ns
  induction ns with
  | nil => exact Reaches.refl
  | cons n rest ih => exact fun hub => (reaches_settleOne hub n).trans (ih _)

/-- The clock stops at the next timer of tasks that have settled. -/
theorem reaches_runUntil {hub : Hub} (hpolicy : hub.policy.Usable) (hsettled : hub.Settled)
    (target : Nat) (done : Hub → Bool) : hub.Reaches (runUntil target done hub) := by
  induction hub using runUntil.induct target done with
  | case1 hub hdone =>
    rw [runUntil, if_pos hdone]
    exact .refl hub
  | case2 hub hdone next ih =>
    rw [runUntil, if_neg hdone]
    have hrest := (settled_iff hpolicy).mp hsettled
    obtain ⟨millis, hmillis⟩ : ∃ millis, next = hub.now + millis :=
      Nat.exists_eq_add_of_le (Nat.le_trans (Nat.le_succ _) (Nat.le_max_left _ _))
    have hpass : (Operation.pass millis).Punctual hub :=
      ⟨hsettled, fun connection hmem timer htimer =>
        hmillis ▸ next_le hmem (hrest connection hmem) htimer target⟩
    have hmoved : hub.step (.pass millis) = { hub with now := next } := by rw [hmillis]; rfl
    have hthere : hub.Reaches { hub with now := next }.settle := by
      rw [← hmoved]
      exact (reaches_step _ rfl hpass).trans (reaches_settle _)
    exact hthere.trans (ih (by rwa [policy_settle]) (settled_settle hpolicy))

/-- Time that the hub lets pass reaches every timer in time. -/
theorem reaches_advance {hub : Hub} (hpolicy : hub.policy.Usable) (millis : Nat) :
    hub.Reaches (hub.advance millis) :=
  (reaches_settle hub).trans
    (reaches_runUntil (by rwa [policy_settle]) (settled_settle hpolicy) _ _)

/-- So does the time for which a stop waits when everybody has been closed. -/
theorem reaches_awaited {hub : Hub} (hpolicy : hub.policy.Usable) (timeout : Duration) :
    hub.Reaches (hub.awaited timeout) := by
  unfold awaited
  split
  · exact .refl _
  · simp only [awaitTasks]
    split
    · exact .refl _
    · exact (reaches_settle _).trans
        (reaches_runUntil (by rwa [policy_settle]) (settled_settle hpolicy) _ _)

/-- A stop that has closed everybody waits, and reports. -/
theorem reaches_stop_of_sweep {hub : Hub} (hpolicy : hub.policy.Usable) (timeout : Duration) :
    hub.beginStop.sweep.2.Reaches (hub.stop timeout).2 := by
  have husable : hub.beginStop.sweep.2.policy.Usable := by
    rwa [(frame_path (path_sweep hub.beginStop)).1]
  have hlog (later : Hub) (level : LogLevel) (message : String) (fields : List (String × Json)) :
      later.Reaches (later.log level message fields) :=
    reaches_step (.report level message fields) rfl trivial
  refine (reaches_awaited husable timeout).trans ?_
  change Reaches _ (if (hub.beginStop.sweep.2.awaited timeout).liveTasks = 0 then _ else _)
  split
  · exact hlog _ _ _ _
  · exact hlog _ _ _ _

/-- A stop is a punctual run. -/
theorem reaches_stop {hub : Hub} (hpolicy : hub.policy.Usable) (timeout : Duration) :
    hub.Reaches (hub.stop timeout).2 :=
  (reaches_step .sweep rfl trivial).trans (reaches_stop_of_sweep hpolicy timeout)

end Hub

end LiveCounter
