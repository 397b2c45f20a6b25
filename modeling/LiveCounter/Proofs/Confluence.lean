import LiveCounter.Proofs.Departures
import LiveCounter.Proofs.Numbering
import LiveCounter.Proofs.Silence

/-!
# The order of polls

While the clock stands still and no open session has been silent for too long, it does not matter in
which order tasks are polled. A watch then leaves its session alone, so a writer that has been polled
has nothing more to do, and a watch only finds out whether its session has been cancelled. Whatever
the order, each connection ends as if its writer had been polled first and its watch after it.
-/

namespace LiveCounter

namespace Watch

/-- A watch whose session is cancelled ends as soon as it runs. -/
theorem run_of_cancelled (policy : StreamPolicy) (watch : Watch) {session : Session}
    (h : session.cancelled = true) (clock : Clock) :
    (watch.run policy session clock).2.1 = if watch = .absent then .absent else .ended := by
  cases watch <;> simp [run, h]

/-- A run neither starts a watch nor removes one. -/
theorem run_eq_absent_iff {policy : StreamPolicy} {watch : Watch} {session : Session}
    {clock : Clock} : (watch.run policy session clock).2.1 = .absent ↔ watch = .absent := by
  have hlook (last : Duration) : (look policy session clock last).2.1 ≠ .absent := by
    unfold look
    split <;> simp
  cases watch with
  | absent => exact ⟨fun _ => rfl, fun _ => rfl⟩
  | ended => simp [run]
  | spawned =>
    simp only [run, reduceCtorEq, iff_false]
    split
    · simp
    · exact hlook _
  | ticking timer =>
    simp only [run, reduceCtorEq, iff_false]
    split
    · simp
    · split
      · exact hlook _
      · simp

/-- A watch that finds two sessions alive at one time waits for the same instant. -/
theorem unnumbered_run_of_alive {policy : StreamPolicy} {watch : Watch} {before session : Session}
    {clock clock' : Clock} (hnow : clock'.now = clock.now) (hbefore : before.cancelled = false)
    (hsession : session.cancelled = false) (halive : (watch.run policy before clock).1 ≠ .silent)
    (halive' : (watch.run policy session clock').1 ≠ .silent) :
    (watch.run policy before clock).2.1.unnumbered =
      (watch.run policy session clock').2.1.unnumbered := by
  obtain ⟨now, next⟩ := clock
  obtain ⟨now', next'⟩ := clock'
  obtain rfl : now' = now := hnow
  have hlook {last : Duration} (h : (look policy before ⟨now', next⟩ last).1 ≠ .silent)
      (h' : (look policy session ⟨now', next'⟩ last).1 ≠ .silent) :
      (look policy before ⟨now', next⟩ last).2.1.unnumbered =
        (look policy session ⟨now', next'⟩ last).2.1.unnumbered := by
    unfold look at h h' ⊢
    split at h
    · exact absurd rfl h
    · next hshort =>
      split at h'
      · exact absurd rfl h'
      · next hshort' =>
        rw [if_neg hshort, if_neg hshort']
        rfl
  cases watch with
  | absent | ended => rfl
  | spawned =>
    simp only [run, hbefore, hsession, Bool.false_eq_true, if_false] at halive halive' ⊢
    exact hlook halive halive'
  | ticking timer =>
    simp only [run, hbefore, hsession, Bool.false_eq_true, if_false] at halive halive' ⊢
    by_cases hdue : timer.isDue now' = true
    · simp only [hdue, if_true] at halive halive' ⊢
      exact hlook halive halive'
    · rw [if_neg hdue, if_neg hdue]

/-- A watch that is polled twice at one time, and finds its session not silent, becomes what it
becomes by the second poll alone. -/
theorem unnumbered_run_run {policy : StreamPolicy} (hpolicy : policy.Usable) {watch : Watch}
    {before session : Session} {clock clock' clock'' : Clock} (hnow : clock'.now = clock.now)
    (hnow' : clock''.now = clock.now)
    (hcancelled : before.cancelled = true → session.cancelled = true)
    (halive : (watch.run policy before clock).1 ≠ .silent)
    (halive' : (watch.run policy session clock'').1 ≠ .silent) :
    ((watch.run policy before clock).2.1.run policy session clock').2.1.unnumbered =
      (watch.run policy session clock'').2.1.unnumbered := by
  cases hsession : session.cancelled with
  | true =>
    rw [run_of_cancelled _ _ hsession, run_of_cancelled _ _ hsession]
    simp only [run_eq_absent_iff]
  | false =>
    have hbefore : before.cancelled = false := by
      cases h : before.cancelled with
      | false => rfl
      | true => exact (hcancelled h).symm.trans hsession
    have hrests : (watch.run policy before clock).2.1.Rests session clock'.now := by
      have hrests := rests_run hpolicy watch before clock
      rw [hnow]
      generalize (watch.run policy before clock).2.1 = later at hrests
      cases later with
      | ticking timer => exact ⟨hsession, hrests.2⟩
      | spawned => cases hrests
      | _ => trivial
    rw [run_of_rests policy hrests]
    exact unnumbered_run_of_alive hnow' hbefore hsession halive halive'

end Watch

namespace Connection

/-- What the end of a run asks for. -/
def causesOf : Run → List Cause
  | .suspended _ => []
  | .exited exit => exit.causes

/-- What closings make of a session. -/
theorem after_closes (connection : Connection) (causes : List Cause) :
    connection.after (causes.map .close) =
      { connection with
        session := causes.foldl (fun session cause => session.retired cause.reason cause.failure)
          connection.session } := by
  induction causes generalizing connection with
  | nil => rfl
  | cons cause rest ih => exact ih _

/-- A poll of the writer is its run, after which its end asks for the causes it has. -/
theorem polledWriter_eq {connection : Connection} {service : Service}
    (h : connection.service = some service) (policy : StreamPolicy) (now : Nat) :
    connection.polledWriter policy now =
      let result := Writer.run policy service.phase (connection.desk service.client now)
      { connection with
        session := (causesOf result.1).foldl
          (fun session cause => session.retired cause.reason cause.failure) result.2.session
        service := some { phase := phaseAfter result.1, client := result.2.client }
        timersSet := result.2.clock.next } := by
  have hcauses : ((connection.writerExit? policy now).elim [] (·.causes)) =
      causesOf (Writer.run policy service.phase (connection.desk service.client now)).1 := by
    simp only [writerExit?, h]
    cases (Writer.run policy service.phase (connection.desk service.client now)).1 <;> rfl
  simp only [polledWriter, writerMoves, after_cons, hcauses, after_closes, move, written, h]

/-- What a poll of the writer does to a connection does not depend on the watch. -/
theorem unnumbered_polledWriter (connection : Connection) (watch : Watch) (timersSet : Nat)
    (policy : StreamPolicy) (now : Nat) :
    (polledWriter { connection with watch, timersSet } policy now).unnumbered =
      unnumbered { connection.polledWriter policy now with watch } := by
  obtain ⟨session, watch', service, held, timersSet'⟩ := connection
  cases service with
  | none => simp [polledWriter, writerMoves, writerExit?, move, written, unnumbered]
  | some service =>
    obtain ⟨hrun, hdesk⟩ : Writer.Matches
        (Writer.run policy service.phase ⟨session, service.client, now, timersSet⟩)
        (Writer.run policy service.phase ⟨session, service.client, now, timersSet'⟩) :=
      Writer.unnumbered_run policy rfl rfl
    rw [polledWriter_eq rfl, polledWriter_eq rfl]
    simp only [desk, clock]
    generalize Writer.run policy service.phase ⟨session, service.client, now, timersSet⟩ = result
      at hrun hdesk
    generalize Writer.run policy service.phase ⟨session, service.client, now, timersSet'⟩ = result'
      at hrun hdesk
    obtain ⟨run, later⟩ := result
    obtain ⟨run', later'⟩ := result'
    obtain ⟨next, rfl⟩ := Writer.exists_of_unnumbered hdesk
    have hcauses : causesOf run = causesOf run' := by
      cases run <;> cases run' <;> first | rfl | cases hrun
      rfl
    have hphase : (phaseAfter run).unnumbered = (phaseAfter run').unnumbered := by
      cases run <;> cases run'
      case suspended.suspended => exact Run.suspended.inj hrun
      case exited.exited => rfl
      all_goals cases hrun
    simp only [unnumbered, hcauses, hphase, Option.map_some]

/-! ## One connection -/

/-- No watch will find the session silent at the given time. -/
structure Calm (policy : StreamPolicy) (now : Nat) (connection : Connection) : Prop where
  tended : connection.Tended
  past : connection.session.lastActivity ≤ now
  lively : connection.session.stage = .open → connection.session.silence now < policy.idleTimeout

variable {policy : StreamPolicy} {now : Nat} {connection : Connection}

/-- In calm a watch does not find silence. -/
theorem Calm.watchFinding_ne_silent (h : connection.Calm policy now) :
    connection.watchFinding policy now ≠ .silent := by
  intro hsilent
  obtain ⟨hcancelled, hlong, hwatch⟩ := Watch.silent_run hsilent
  have hopen : connection.session.stage = .open := by
    refine h.tended.open_iff.mpr ⟨hcancelled, fun hopening => ?_⟩
    have hidle := h.tended.unwatched hopening
    rcases hwatch with hspawned | ⟨timer, hticking, -⟩
    · simp [hspawned, Watch.isPending] at hidle
    · simp [hticking, Watch.isPending] at hidle
  exact absurd (h.lively hopen) (Nat.not_lt.mpr hlong)

/-- In calm a poll of the watch only runs it. -/
theorem Calm.polledWatch_eq (h : connection.Calm policy now) :
    connection.polledWatch policy now = connection.watched policy now :=
  Connection.polledWatch_eq h.watchFinding_ne_silent

/-- A poll of the watch does not disturb the calm. -/
theorem Calm.polledWatch (h : connection.Calm policy now) :
    (connection.polledWatch policy now).Calm policy now where
  tended := h.tended.polledWatch policy now
  past := h.polledWatch_eq ▸ h.past
  lively := h.polledWatch_eq ▸ h.lively

/-- A poll of the writer does not disturb the calm. -/
theorem Calm.polledWriter (h : connection.Calm policy now) :
    (connection.polledWriter policy now).Calm policy now := by
  have hactivity := lastActivity_written h.past policy
  rw [← (connection.undisturbed_polledWriter policy now).lastActivity] at hactivity
  refine ⟨h.tended.polledWriter policy now, hactivity.2, fun hopen => ?_⟩
  refine Nat.lt_of_le_of_lt ?_ (h.lively (open_of_after hopen))
  exact Nat.mul_le_mul_right _ (Nat.sub_le_sub_left hactivity.1 now)

/-- The connection after its writer has been polled, and then its watch. -/
def quieted (connection : Connection) (policy : StreamPolicy) (now : Nat) : Connection :=
  (connection.polledWriter policy now).polledWatch policy now

/-- It makes no difference to poll the watch first. -/
theorem Calm.quieted_polledWatch (h : connection.Calm policy now) (hpolicy : policy.Usable) :
    ((connection.polledWatch policy now).quieted policy now).unnumbered =
      (connection.quieted policy now).unnumbered := by
  have hwriter := connection.unnumbered_polledWriter (connection.watched policy now).watch
    (connection.watched policy now).timersSet policy now
  unfold quieted
  have halive := h.polledWriter.watchFinding_ne_silent
  rw [h.polledWatch.polledWriter.polledWatch_eq, h.polledWriter.polledWatch_eq, h.polledWatch_eq]
  have hsession : ((connection.watched policy now).polledWriter policy now).session =
      (connection.polledWriter policy now).session := congrArg (·.session) hwriter
  have hwatch : ((connection.watched policy now).polledWriter policy now).watch =
      (connection.watched policy now).watch := watch_polledWriter _ policy now
  have hwatch' : (connection.polledWriter policy now).watch = connection.watch :=
    watch_polledWriter _ policy now
  have hwatched (connection : Connection) : (connection.watched policy now).unnumbered =
      { connection.unnumbered with
        watch := (connection.watch.run policy connection.session
          (connection.clock now)).2.1.unnumbered } := rfl
  rw [hwatched, hwatched (connection.polledWriter policy now), hsession, hwatch, hwatch',
    show ((connection.watched policy now).polledWriter policy now).unnumbered = _ from hwriter]
  have hpolls : ((connection.watched policy now).watch.run policy
        (connection.polledWriter policy now).session
        (((connection.watched policy now).polledWriter policy now).clock now)).2.1.unnumbered =
      (connection.watch.run policy (connection.polledWriter policy now).session
        ((connection.polledWriter policy now).clock now)).2.1.unnumbered := by
    refine Watch.unnumbered_run_run hpolicy rfl rfl (fun hcancelled => ?_)
      h.watchFinding_ne_silent ?_
    · exact cancelled_after hcancelled _
    · simpa only [watchFinding, hwatch'] using halive
  rw [hpolls]
  rfl

/-- It makes no difference to poll the writer first. -/
theorem quieted_polledWriter (connection : Connection) (hpolicy : policy.Usable) :
    (connection.polledWriter policy now).quieted policy now = connection.quieted policy now := by
  rw [quieted, polledWriter_of_rests policy (connection.writerRests_polledWriter hpolicy now)]
  rfl

/-- How much a poll may still change: the writer may end and so wake the watch. -/
def unrest (connection : Connection) (now : Nat) : Nat :=
  (if connection.WriterRests now then 0 else 2) +
    if connection.watch.Rests connection.session now then 0 else 1

/-- A connection is never more than three polls away from rest. -/
theorem unrest_le (connection : Connection) (now : Nat) : connection.unrest now ≤ 3 := by
  unfold unrest
  split <;> split <;> omega

/-- A watch that is polled and finds its session not silent leaves less to do. -/
theorem unrest_polledWatch_lt (hpolicy : policy.Usable)
    (halive : connection.watchFinding policy now ≠ .silent)
    (hbusy : ¬ connection.watch.Rests connection.session now) :
    (connection.polledWatch policy now).unrest now < connection.unrest now := by
  have hrests := connection.rests_polledWatch hpolicy now
  have hwriter : connection.WriterRests now → (connection.polledWatch policy now).WriterRests now :=
    fun hwriter => Connection.polledWatch_eq halive ▸ hwriter.watched policy
  unfold unrest
  rw [if_pos hrests, if_neg hbusy]
  by_cases hrest : connection.WriterRests now
  · rw [if_pos hrest, if_pos (hwriter hrest)]
    omega
  · rw [if_neg hrest]
    split <;> omega

/-- A poll of a writer that can go on brings its connection closer to rest. -/
theorem unrest_polledWriter_lt (hpolicy : policy.Usable) (hbusy : ¬ connection.WriterRests now) :
    (connection.polledWriter policy now).unrest now < connection.unrest now := by
  unfold unrest
  rw [if_pos (connection.writerRests_polledWriter hpolicy now), if_neg hbusy]
  split <;> split <;> omega

end Connection

namespace Hub

/-! ## All connections -/

/-- An operation that polls a task which can go on. -/
def Runnable (hub : Hub) (operation : Operation) : Prop :=
  operation.polled?.isSome = true ∧ hub.step operation ≠ hub

/-- Each of the polls finds a task that can go on. -/
def Proceeds : Hub → List Operation → Prop
  | _, [] => True
  | hub, poll :: rest => hub.Runnable poll ∧ Proceeds (hub.step poll) rest

/-- The hubs are in the same state, the numbers of timers and the reports apart. -/
structure SameState (first second : Hub) : Prop where
  sessions : ∀ n, first.session? n = second.session? n
  clients : first.connections.map (fun connection => connection.service.map (·.client)) =
    second.connections.map fun connection => connection.service.map (·.client)
  table : first.table = second.table
  subscriptions : first.subscriptions = second.subscriptions
  stats : first.stats = second.stats
  connections : first.connections.map (·.unnumbered) = second.connections.map (·.unnumbered)
  books : first.books = second.books

variable {hub : Hub} {polls : List Operation} {n : Nat} {connection : Connection}

/-- The numbers of timers do not matter to how many tasks live. -/
theorem liveTasks_unnumbered (connection : Connection) :
    connection.unnumbered.liveTasks = connection.liveTasks := by
  have hwatch : connection.unnumbered.watch.isPending = connection.watch.isPending := by
    cases hkind : connection.watch <;> simp [Connection.unnumbered, hkind, Watch.unnumbered,
      Watch.isPending]
  have hwriter : connection.unnumbered.writerRuns = connection.writerRuns := by
    cases hservice : connection.service with
    | none => simp [Connection.unnumbered, Connection.writerRuns, hservice]
    | some service =>
      simp only [Connection.unnumbered, Connection.writerRuns, hservice, Option.map_some,
        Option.elim_some]
      cases service.phase <;> rfl
  rw [Connection.liveTasks, Connection.liveTasks, hwatch, hwriter]

/-- Hubs with the same records and connections are in the same state. -/
theorem sameState_of_eq {first second : Hub}
    (hconnections : first.connections.map (·.unnumbered) = second.connections.map (·.unnumbered))
    (hbooks : first.books = second.books) : first.SameState second := by
  have hmap {A : Type} (f : Connection → A)
      (hf : ∀ connection : Connection, f connection.unnumbered = f connection) :
      first.connections.map f = second.connections.map f := by
    have hboth := congrArg (List.map f) hconnections
    simpa only [List.map_map, Function.comp_def, hf] using hboth
  have hlive : first.liveTasks = second.liveTasks := by
    rw [liveTasks, liveTasks, hmap _ liveTasks_unnumbered]
  refine ⟨fun n => ?_, ?_, congrArg (·.table) hbooks, congrArg (·.subscriptions) hbooks, ?_,
    hconnections, hbooks⟩
  · rw [session?, session?, ← List.getElem?_map, ← List.getElem?_map, hmap (·.session) fun _ => rfl]
  · refine hmap _ fun connection => ?_
    simp [Connection.unnumbered, Option.map_map, Function.comp_def]
  · have hstats := congrArg stats hbooks
    simp only [stats, books, HubStats.mk.injEq] at hstats ⊢
    simp [hstats, hlive]

/-- A poll changes neither the policy nor the clock. -/
theorem step_poll {operation : Operation} (h : operation.polled?.isSome = true) :
    (hub.step operation).policy = hub.policy ∧ (hub.step operation).now = hub.now := by
  refine ⟨policy_step hub operation, now_step fun millis heq => ?_⟩
  rw [heq] at h
  cases h

/-- A poll polls the watch or the writer of a connection, or leaves it as it is. -/
theorem connections_poll {operation : Operation} (h : operation.polled?.isSome = true)
    (hconnection : hub.connections[n]? = some connection) :
    ∃ later, (hub.step operation).connections[n]? = some later ∧
      (later = connection ∨ later = connection.polledWatch hub.policy hub.now ∨
        later = connection.polledWriter hub.policy hub.now) := by
  cases operation with
  | pollWatch target =>
    rw [step, connections_pollWatch, List.getElem?_modify, hconnection]
    by_cases htarget : target = n
    · exact ⟨_, by simp [htarget], Or.inr (Or.inl rfl)⟩
    · exact ⟨_, by simp [htarget], Or.inl rfl⟩
  | pollWriter target =>
    rw [step, connections_pollWriter, List.getElem?_modify, hconnection]
    by_cases htarget : target = n
    · exact ⟨_, by simp [htarget], Or.inr (Or.inr rfl)⟩
    · exact ⟨_, by simp [htarget], Or.inl rfl⟩
  | _ => cases h

/-- Whatever the order of the polls, a connection at rest is what it becomes by a poll of its writer
and then of its watch. -/
theorem unnumbered_run (hpolicy : hub.policy.Usable)
    (hpolls : ∀ operation ∈ polls, operation.polled?.isSome = true)
    (hconnection : hub.connections[n]? = some connection)
    (hcalm : connection.Calm hub.policy hub.now)
    (hrest : ∀ later, (hub.run polls).connections[n]? = some later → later.AtRest hub.now) :
    ((hub.run polls).connections[n]?).map (·.unnumbered) =
      some (connection.quieted hub.policy hub.now).unnumbered := by
  induction polls generalizing hub connection with
  | nil =>
    have hrest := hrest connection hconnection
    rw [run_nil, hconnection, Option.map_some, Connection.quieted,
      Connection.polledWriter_of_rests _ hrest.writer, Connection.polledWatch_of_rests _ hrest.watch]
  | cons poll rest ih =>
    obtain ⟨hpoll, hpolls⟩ := List.forall_mem_cons.mp hpolls
    obtain ⟨hsame, hnow⟩ : (hub.step poll).policy = hub.policy ∧ (hub.step poll).now = hub.now :=
      step_poll hpoll
    obtain ⟨later, hlater, hcases⟩ := connections_poll hpoll hconnection
    have hlast (hcalm : later.Calm hub.policy hub.now) :
        ((hub.run (poll :: rest)).connections[n]?).map (·.unnumbered) =
          some (later.quieted hub.policy hub.now).unnumbered := by
      have hrun := ih (hsame ▸ hpolicy) hpolls hlater (by rwa [hsame, hnow]) (by rwa [hnow])
      rwa [hsame, hnow] at hrun
    rcases hcases with rfl | rfl | rfl
    · exact hlast hcalm
    · rw [hlast hcalm.polledWatch, hcalm.quieted_polledWatch hpolicy]
    · rw [hlast hcalm.polledWriter, connection.quieted_polledWriter hpolicy]

/-- Polls add no connection and take no time. -/
theorem frame_polls (hpolls : ∀ operation ∈ polls, operation.polled?.isSome = true) :
    (hub.run polls).connections.length = hub.connections.length ∧ (hub.run polls).now = hub.now := by
  induction polls generalizing hub with
  | nil => exact ⟨rfl, rfl⟩
  | cons poll rest ih =>
    obtain ⟨hpoll, hpolls⟩ := List.forall_mem_cons.mp hpolls
    obtain ⟨hlength, hnow⟩ : ((hub.step poll).run rest).connections.length =
        (hub.step poll).connections.length ∧ ((hub.step poll).run rest).now = (hub.step poll).now :=
      ih hpolls
    exact ⟨hlength.trans (hub.acts_step (creates_of_polled hpoll)).length_eq,
      hnow.trans (step_poll hpoll).2⟩

/-- Whatever the order of the polls, the connections are in the end what they become if each writer is
polled first and its watch after it. -/
theorem connections_run_polls (hpolicy : hub.policy.Usable)
    (hcalm : ∀ connection ∈ hub.connections, connection.Calm hub.policy hub.now)
    (hpolls : ∀ operation ∈ polls, operation.polled?.isSome = true)
    (hsettled : (hub.run polls).Settled) :
    (hub.run polls).connections.map (·.unnumbered) =
      hub.connections.map fun connection =>
        (connection.quieted hub.policy hub.now).unnumbered := by
  obtain ⟨hlength, hnow⟩ :
      (hub.run polls).connections.length = hub.connections.length ∧
        (hub.run polls).now = hub.now := frame_polls hpolls
  have hrest := (settled_iff (policy_run hub polls ▸ hpolicy)).mp hsettled
  rw [hnow] at hrest
  apply List.ext_getElem?
  intro n
  rw [List.getElem?_map, List.getElem?_map]
  cases hconnection : hub.connections[n]? with
  | none =>
    have hnone : (hub.run polls).connections[n]? = none := by
      rwa [List.getElem?_eq_none_iff, hlength, ← List.getElem?_eq_none_iff]
    rw [hnone]
    rfl
  | some connection =>
    exact unnumbered_run hpolicy hpolls hconnection (hcalm connection (List.mem_of_getElem? hconnection))
      fun later hlater => hrest later (List.mem_of_getElem? hlater)

/-- A sum over a list falls when one of its terms does. -/
theorem sum_modify_lt {A : Type} (g : A → Nat) {f : A → A} {items : List A} {n : Nat} {item : A}
    (h : items[n]? = some item) (hlt : g (f item) < g item) :
    ((items.modify n f).map g).foldr (· + ·) 0 < (items.map g).foldr (· + ·) 0 := by
  induction items generalizing n with
  | nil => cases h
  | cons first rest ih =>
    cases n with
    | zero =>
      obtain rfl := Option.some.inj h
      simpa using hlt
    | succ n => simpa using ih h

/-- A sum of bounded terms is bounded by the length of the list. -/
theorem sum_map_le {A : Type} (g : A → Nat) {bound : Nat} (h : ∀ item, g item ≤ bound)
    (items : List A) : (items.map g).foldr (· + ·) 0 ≤ bound * items.length := by
  induction items with
  | nil => exact Nat.zero_le _
  | cons first rest ih =>
    have hfirst := h first
    rw [List.map_cons, List.foldr_cons, List.length_cons, Nat.mul_succ]
    omega

/-- How much polls may still change. -/
def unrest (hub : Hub) : Nat :=
  (hub.connections.map (·.unrest hub.now)).foldr (· + ·) 0

/-- The unrest of a hub is bounded by the number of its connections. -/
theorem unrest_le (hub : Hub) : hub.unrest ≤ 3 * hub.connections.length :=
  sum_map_le (·.unrest hub.now) (·.unrest_le hub.now) hub.connections

/-- What each poll that finds something to do takes from its connection, it takes from all of them
together. -/
theorem sum_step_lt (g : Connection → Nat)
    (hwatch : ∀ connection ∈ hub.connections, ¬ connection.watch.Rests connection.session hub.now →
      g (connection.polledWatch hub.policy hub.now) < g connection)
    (hwriter : ∀ connection ∈ hub.connections, ¬ connection.WriterRests hub.now →
      g (connection.polledWriter hub.policy hub.now) < g connection)
    {operation : Operation} (h : hub.Runnable operation) :
    ((hub.step operation).connections.map g).foldr (· + ·) 0 <
      (hub.connections.map g).foldr (· + ·) 0 := by
  obtain ⟨hpoll, hchanges⟩ := h
  cases operation with
  | pollWatch target =>
    have hbusy : ¬ ∀ connection, hub.connections[target]? = some connection →
        connection.watch.Rests connection.session hub.now :=
      fun hrests => hchanges (pollWatch_of_rests hrests)
    simp only [not_forall] at hbusy
    obtain ⟨connection, hconnection, hbusy⟩ := hbusy
    rw [step, connections_pollWatch]
    exact sum_modify_lt _ hconnection (hwatch connection (List.mem_of_getElem? hconnection) hbusy)
  | pollWriter target =>
    have hbusy : ¬ ∀ connection, hub.connections[target]? = some connection →
        connection.WriterRests hub.now := fun hrests => hchanges (pollWriter_of_rests hrests)
    simp only [not_forall] at hbusy
    obtain ⟨connection, hconnection, hbusy⟩ := hbusy
    rw [step, connections_pollWriter]
    exact sum_modify_lt _ hconnection (hwriter connection (List.mem_of_getElem? hconnection) hbusy)
  | _ => cases hpoll

/-- In calm every poll of a task that can go on brings the hub closer to rest. -/
theorem unrest_step_lt (hpolicy : hub.policy.Usable)
    (hcalm : ∀ connection ∈ hub.connections, connection.Calm hub.policy hub.now)
    {operation : Operation} (h : hub.Runnable operation) :
    (hub.step operation).unrest < hub.unrest := by
  rw [unrest, (step_poll h.1).2]
  refine sum_step_lt (·.unrest hub.now) (fun connection hmem hbusy => ?_)
    (fun connection _ hbusy => connection.unrest_polledWriter_lt hpolicy hbusy) h
  exact connection.unrest_polledWatch_lt hpolicy (hcalm connection hmem).watchFinding_ne_silent hbusy

/-- Polls do not disturb the calm of any connection. -/
theorem calm_step (hcalm : ∀ connection ∈ hub.connections, connection.Calm hub.policy hub.now)
    {operation : Operation} (h : operation.polled?.isSome = true) :
    ∀ connection ∈ (hub.step operation).connections,
      connection.Calm (hub.step operation).policy (hub.step operation).now := by
  intro later hmem
  obtain ⟨n, hn⟩ := List.mem_iff_getElem?.mp hmem
  obtain ⟨hpolicy, hnow⟩ :
      (hub.step operation).policy = hub.policy ∧ (hub.step operation).now = hub.now := step_poll h
  rw [hpolicy, hnow]
  have hlength : n < hub.connections.length := by
    rw [← (hub.acts_step (creates_of_polled h)).length_eq]
    exact (List.getElem?_eq_some_iff.mp hn).1
  have hconnection := List.getElem?_eq_getElem hlength
  obtain ⟨later', hlater, hcases⟩ := connections_poll h hconnection
  obtain rfl := Option.some.inj (hn.symm.trans hlater)
  have hbefore := hcalm _ (List.getElem_mem hlength)
  rcases hcases with rfl | rfl | rfl
  · exact hbefore
  · exact hbefore.polledWatch
  · exact hbefore.polledWriter

/-- Only so many polls in a row find a task that can go on. -/
theorem length_le_unrest (hpolicy : hub.policy.Usable)
    (hcalm : ∀ connection ∈ hub.connections, connection.Calm hub.policy hub.now)
    (h : hub.Proceeds polls) : polls.length ≤ hub.unrest := by
  induction polls generalizing hub with
  | nil => exact Nat.zero_le _
  | cons poll rest ih =>
    obtain ⟨hrunnable, hrest⟩ := h
    have hlt := unrest_step_lt hpolicy hcalm hrunnable
    have hle := ih (by rwa [(step_poll hrunnable.1).1]) (calm_step hcalm hrunnable.1) hrest
    rw [List.length_cons]
    omega

/-- Tasks that can go on are polled in any order, again and again, while the clock stands still and
no open session has been silent for too long. After a few polls, at most three for each connection,
no task can go on, and the state that is reached then is the same for every order: the sessions with
their reasons, errors, outboxes and counters, the clients with the frames that they have accepted, the
table, the subscriptions and the statistics. -/
theorem order_of_polls_is_immaterial (policy : StreamPolicy) (operations : List Operation)
    (hlively : ∀ connection ∈ ((Hub.new policy).run operations).connections,
      connection.session.stage = .open →
        connection.session.silence ((Hub.new policy).run operations).now <
          ((Hub.new policy).run operations).policy.idleTimeout) :
    let hub := (Hub.new policy).run operations
    (∀ polls, hub.Proceeds polls → polls.length ≤ 3 * hub.connections.length) ∧
      ∀ polls polls' : List Operation,
        (∀ operation ∈ polls, operation.polled?.isSome = true) →
        (∀ operation ∈ polls', operation.polled?.isSome = true) →
        (hub.run polls).Settled → (hub.run polls').Settled →
        (hub.run polls).SameState (hub.run polls') := by
  intro hub
  have hpolicy : hub.policy.Usable := usable_run policy operations
  have hcalm (connection : Connection) (hmem : connection ∈ hub.connections) :
      connection.Calm hub.policy hub.now :=
    ⟨tended_run policy operations connection hmem, past_run policy operations connection hmem,
      hlively connection hmem⟩
  have hfresh (connection : Connection) (hmem : connection ∈ hub.connections) :
      connection.Unreasoned := unreasoned_run policy operations connection hmem
  refine ⟨fun polls h => Nat.le_trans (length_le_unrest hpolicy hcalm h) hub.unrest_le,
    fun polls polls' hpolls hpolls' hsettled hsettled' => ?_⟩
  have hconnections := (connections_run_polls hpolicy hcalm hpolls hsettled).trans
    (connections_run_polls hpolicy hcalm hpolls' hsettled').symm
  refine sameState_of_eq hconnections (books_eq_of_sessions hpolls hpolls' hfresh
    (enrolled_run policy operations).wellFormed fun n => ?_)
  have hsessions := congrArg (List.map (·.session)) hconnections
  simp only [List.map_map] at hsessions
  rw [session?, session?, ← List.getElem?_map, ← List.getElem?_map]
  exact congrArg (·[n]?) hsessions

/-- Two sessions have an event to write; one client refuses it, which closes its session. The watch of
that session is polled before the writer and again afterwards, or only afterwards. -/
theorem order_of_polls_is_immaterial_for_refused_write :
    let opened : List Operation :=
      [.connect (.random 0) ⟨0⟩ (.scripted fun _ => ⟨0, .refuse .closed⟩) (some 1),
        .connect (.random 1) ⟨1⟩ (.channel 4) (some 2)]
    let polls : List Operation :=
      [.pollWatch 0, .pollWatch 1, .pollWriter 0, .pollWriter 1, .pollWatch 0]
    let polls' : List Operation := [.pollWriter 1, .pollWriter 0, .pollWatch 0, .pollWatch 1]
    let hub := (Hub.new .default).run opened
    (hub.run polls).Settled ∧ (hub.run polls').Settled ∧
      (hub.run polls).SameState (hub.run polls') ∧
      ((hub.run polls).session? 0).map (·.reason) = some (some .transportError) := by
  intro opened polls polls' hub
  have hlively : ∀ connection ∈ hub.connections, connection.session.stage = .open →
      connection.session.silence hub.now < hub.policy.idleTimeout := by
    have hall : hub.connections.all (fun connection =>
        decide ((connection.session.silence hub.now).nanos < hub.policy.idleTimeout.nanos)) =
          true := by
      decide +kernel
    exact fun connection hmem _ => of_decide_eq_true (List.all_eq_true.mp hall connection hmem)
  have hsettled : (hub.run polls).Settled := by
    have hall : ((Hub.new .default).run (opened ++ polls)).Settled := by decide +kernel
    rwa [run_append] at hall
  have hsettled' : (hub.run polls').Settled := by
    have hall : ((Hub.new .default).run (opened ++ polls')).Settled := by decide +kernel
    rwa [run_append] at hall
  exact ⟨hsettled, hsettled', (order_of_polls_is_immaterial .default opened hlively).2 polls polls'
    (by decide) (by decide) hsettled hsettled', by decide +kernel⟩

end Hub

end LiveCounter
