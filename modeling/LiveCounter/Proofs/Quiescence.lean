import LiveCounter.Proofs.Confluence
import Mathlib.Order.WellFounded

/-!
# Settling comes to an end

While the clock stands still the tasks come to rest, whatever they have been asked to do. A writer
takes only so many turns in one poll, since each turn takes an event off the outbox or writes the
keepalive that is due, and the timer that it sets anew is not due. A watch looks once. And only so
many polls find something to do: a writer that has been polled rests until its session is closed on
it, which its watch does once at most and then ends.
-/

namespace LiveCounter

namespace Writer

variable {policy : StreamPolicy} {keepalive : Option Timer} {desk : Desk}

/-- One turn of a writer that takes another one after it: it writes a frame, which the client accepts
at once, and sets its keepalive timer anew. -/
def Turn (policy : StreamPolicy) (before after : Option Timer × Desk) : Prop :=
  ∃ frame chosen written, choose before.1 before.2 = (.write frame, chosen) ∧
    beginWrite policy frame chosen = (.written, written) ∧ after = armKeepalive policy written

/-- No writer takes turns without end. -/
theorem exists_not_turn (hpolicy : policy.Usable) (turns : Nat → Option Timer × Desk) :
    ∃ k, ¬ Turn policy (turns k) (turns (k + 1)) := by
  obtain ⟨k, hk⟩ := WellFounded.not_rel_apply_succ (r := (· < ·)) fun k =>
    busy (turns k).1 (turns k).2
  refine ⟨k, fun hturn => hk ?_⟩
  obtain ⟨frame, chosen, written, hchoose, hwrite, hafter⟩ := hturn
  rw [hafter]
  exact busy_written_lt hpolicy hchoose hwrite

/-- More steps than a writer is busy for make no difference. -/
theorem serve_of_busy_le (hpolicy : policy.Usable) {steps : Nat}
    (hsteps : busy keepalive desk ≤ steps) (more : Nat) :
    serve policy (steps + more) keepalive desk = serve policy steps keepalive desk := by
  induction steps generalizing keepalive desk with
  | zero =>
    unfold busy at hsteps
    split at hsteps <;> omega
  | succ steps ih =>
    rw [Nat.succ_add]
    cases choice keepalive desk with
    | stop reason hchoose => rw [serve_stop _ _ hchoose, serve_stop _ _ hchoose]
    | wait hchoose _ => rw [serve_wait _ _ hchoose, serve_wait _ _ hchoose]
    | write frame chosen hchoose =>
      generalize hresult : beginWrite policy frame chosen = result
      obtain ⟨progress, later⟩ := result
      cases progress with
      | halted stopped => rw [serve_halted _ _ hchoose hresult, serve_halted _ _ hchoose hresult]
      | written =>
        rw [serve_written _ _ hchoose hresult, serve_written _ _ hchoose hresult]
        have hless := busy_written_lt hpolicy hchoose hresult
        exact ih (by omega)

end Writer

namespace Watch

/-- A watch does not set the clock. -/
theorem now_run (policy : StreamPolicy) (watch : Watch) (session : Session) (clock : Clock) :
    (watch.run policy session clock).2.2.now = clock.now := by
  have hlook (last : Duration) : (look policy session clock last).2.2.now = clock.now := by
    unfold look
    split <;> rfl
  cases watch with
  | absent | ended => rfl
  | spawned =>
    simp only [run]
    split
    · rfl
    · exact hlook _
  | ticking timer =>
    simp only [run]
    split
    · rfl
    · split
      · exact hlook _
      · rfl

/-- A watch that has been polled finds nothing to do in another turn. -/
theorem run_run {policy : StreamPolicy} (hpolicy : policy.Usable) (watch : Watch)
    (session : Session) (clock : Clock) :
    let (_, later, clock') := watch.run policy session clock
    later.run policy session clock' = (.alive, later, clock') := by
  have hrests := rests_run hpolicy watch session clock
  rw [← now_run policy watch session clock] at hrests
  exact run_of_rests policy hrests

end Watch

namespace Connection

variable {policy : StreamPolicy} {now : Nat} {connection : Connection}

/-- How many polls of the connection may still find something to do. A watch that runs may close the
session once more. -/
def pollsLeft (connection : Connection) (now : Nat) : Nat :=
  connection.unrest now + 2 * connection.watch.isPending.toNat

/-- A connection has at most five polls left. -/
theorem pollsLeft_le (connection : Connection) (now : Nat) : connection.pollsLeft now ≤ 5 := by
  have hunrest := connection.unrest_le now
  have hpending := Bool.toNat_le connection.watch.isPending
  unfold pollsLeft
  omega

/-- A watch that can go on has not ended. -/
theorem isPending_of_not_rests {watch : Watch} {session : Session}
    (h : ¬ watch.Rests session now) : watch.isPending = true := by
  cases watch with
  | absent | ended => exact absurd trivial h
  | spawned | ticking timer => rfl

/-- A poll of a watch that can go on uses up one of the polls left. -/
theorem pollsLeft_polledWatch_lt (hpolicy : policy.Usable)
    (hbusy : ¬ connection.watch.Rests connection.session now) :
    (connection.polledWatch policy now).pollsLeft now < connection.pollsLeft now := by
  have hpending := isPending_of_not_rests hbusy
  unfold pollsLeft
  rw [hpending, Bool.toNat_true]
  by_cases hsilent : connection.watchFinding policy now = .silent
  · -- The session is closed, so the writer may have something to do again, but the watch has ended.
    have hended : (connection.polledWatch policy now).watch.isPending = false := by
      rw [watch_polledWatch_of_silent hsilent]
      rfl
    have hwriter : (connection.polledWatch policy now).unrest now ≤ 2 := by
      unfold unrest
      rw [if_pos (connection.rests_polledWatch hpolicy now)]
      split <;> omega
    have hwatch : 1 ≤ connection.unrest now := by
      unfold unrest
      rw [if_neg hbusy]
      exact Nat.le_add_left 1 _
    rw [hended, Bool.toNat_false]
    omega
  · have hunrest := unrest_polledWatch_lt hpolicy hsilent hbusy
    have hlater := Bool.toNat_le (connection.polledWatch policy now).watch.isPending
    omega

/-- A poll of a writer that can go on uses up one of the polls left. -/
theorem pollsLeft_polledWriter_lt (hpolicy : policy.Usable) (hbusy : ¬ connection.WriterRests now) :
    (connection.polledWriter policy now).pollsLeft now < connection.pollsLeft now := by
  have hunrest := connection.unrest_polledWriter_lt hpolicy hbusy
  unfold pollsLeft
  rw [watch_polledWriter]
  omega

end Connection

namespace Hub

variable {hub : Hub}

/-- How many polls may still find something to do. -/
def pollsLeft (hub : Hub) : Nat := (hub.connections.map (·.pollsLeft hub.now)).foldr (· + ·) 0

/-- A hub has at most five polls left for each of its connections. -/
theorem pollsLeft_le (hub : Hub) : hub.pollsLeft ≤ 5 * hub.connections.length :=
  sum_map_le (·.pollsLeft hub.now) (·.pollsLeft_le hub.now) hub.connections

/-- A poll that can do something uses up one of the polls left in the hub. -/
theorem pollsLeft_step_lt (hpolicy : hub.policy.Usable) {poll : Operation} (h : hub.Runnable poll) :
    (hub.step poll).pollsLeft < hub.pollsLeft := by
  rw [pollsLeft, (step_poll h.1).2]
  exact sum_step_lt (·.pollsLeft hub.now)
    (fun _ _ hbusy => Connection.pollsLeft_polledWatch_lt hpolicy hbusy)
    (fun _ _ hbusy => Connection.pollsLeft_polledWriter_lt hpolicy hbusy) h

/-- No sequence of polls that all do something is longer than the polls left. -/
theorem length_le_pollsLeft (hpolicy : hub.policy.Usable) {polls : List Operation}
    (h : hub.Proceeds polls) :
    polls.length ≤ hub.pollsLeft := by
  induction polls generalizing hub with
  | nil => exact Nat.zero_le _
  | cons poll rest ih =>
    obtain ⟨hrunnable, hrest⟩ := h
    have hlt := pollsLeft_step_lt hpolicy hrunnable
    have hle := ih (by rwa [(step_poll hrunnable.1).1]) hrest
    rw [List.length_cons]
    omega

/-- A sequence proceeds when its parts do, one after the other. -/
theorem proceeds_append {first second : List Operation} :
    hub.Proceeds (first ++ second) ↔ hub.Proceeds first ∧ (hub.run first).Proceeds second := by
  induction first generalizing hub with
  | nil => simp [Proceeds]
  | cons poll rest ih => simp [Proceeds, ih, and_assoc]

/-- A sequence that proceeds consists of polls. -/
theorem Proceeds.isSome_polled? {polls : List Operation} (h : hub.Proceeds polls) :
    ∀ operation ∈ polls, operation.polled?.isSome = true := by
  induction polls generalizing hub with
  | nil => simp
  | cons poll rest ih => exact List.forall_mem_cons.mpr ⟨h.1.1, ih h.2⟩

/-- A hub that has not settled has a task that can go on. -/
theorem exists_runnable (h : ¬ hub.Settled) : ∃ poll, hub.Runnable poll := by
  simp only [Settled, not_forall, Classical.not_and_iff_not_or_not] at h
  obtain ⟨n, hwatch | hwriter⟩ := h
  · exact ⟨.pollWatch n, rfl, hwatch⟩
  · exact ⟨.pollWriter n, rfl, hwriter⟩

/-- The polls that find something to do lead to a hub in which nothing is left to do. -/
theorem exists_settled (hpolicy : hub.policy.Usable) :
    ∃ polls, hub.Proceeds polls ∧ (hub.run polls).Settled := by
  induction hleft : hub.pollsLeft using Nat.strongRecOn generalizing hub with
  | ind left ih =>
    by_cases hsettled : hub.Settled
    · exact ⟨[], trivial, hsettled⟩
    · obtain ⟨poll, hrunnable⟩ := exists_runnable hsettled
      have hlt := pollsLeft_step_lt hpolicy hrunnable
      obtain ⟨rest, hrest, hlast⟩ := ih _ (hleft ▸ hlt) (by rwa [(step_poll hrunnable.1).1]) rfl
      exact ⟨poll :: rest, ⟨hrunnable, hrest⟩, hlast⟩

/-- From whatever has happened before, the tasks come to rest while the clock stands still. No poll
goes on for ever: a writer takes only finitely many turns, as many as it is given steps for, and a
watch that has been polled finds nothing to do in another turn. Nor do polls go on for ever: there is
no infinite sequence of polls that find something to do, not more than five for each connection, and
wherever they have led they lead on to a hub that has settled. There each task has ended or waits
for an event, for the end of its session or for a timer that is due later. -/
theorem settling_terminates (policy : StreamPolicy) (operations : List Operation) :
    let hub := (Hub.new policy).run operations
    (¬ ∃ turns : Nat → Option Timer × Desk,
        ∀ k, Writer.Turn hub.policy (turns k) (turns (k + 1))) ∧
      (∀ keepalive desk more, Writer.serve hub.policy (Writer.enough desk + more) keepalive desk =
        Writer.serve hub.policy (Writer.enough desk) keepalive desk) ∧
      (∀ (watch : Watch) session clock,
        let (_, later, clock') := watch.run hub.policy session clock
        later.run hub.policy session clock' = (.alive, later, clock')) ∧
      (¬ ∃ hubs : Nat → Hub, hubs 0 = hub ∧
        ∀ k, ∃ poll, (hubs k).Runnable poll ∧ hubs (k + 1) = (hubs k).step poll) ∧
      ∀ polls, hub.Proceeds polls →
        polls.length ≤ 5 * hub.connections.length ∧
          (∃ more, hub.Proceeds (polls ++ more) ∧ (hub.run (polls ++ more)).Settled) ∧
          ((hub.run polls).Settled → ∀ connection ∈ (hub.run polls).connections,
            connection.AtRest hub.now ∧ ∀ timer ∈ connection.timers, hub.now < timer.due) := by
  intro hub
  have hpolicy : hub.policy.Usable := usable_run policy operations
  refine ⟨?_, fun keepalive desk more => ?_, Watch.run_run hpolicy, ?_, fun polls hpolls =>
    ⟨Nat.le_trans (length_le_pollsLeft hpolicy hpolls) hub.pollsLeft_le, ?_, fun hsettled => ?_⟩⟩
  · rintro ⟨turns, hturns⟩
    obtain ⟨k, hk⟩ := Writer.exists_not_turn hpolicy turns
    exact hk (hturns k)
  · exact Writer.serve_of_busy_le hpolicy (Writer.busy_le_enough keepalive desk) more
  · rintro ⟨hubs, hfirst, hpolls⟩
    have husable (k : Nat) : (hubs k).policy.Usable := by
      induction k with
      | zero => rwa [hfirst]
      | succ k ih =>
        obtain ⟨poll, hrunnable, hnext⟩ := hpolls k
        rwa [hnext, (step_poll hrunnable.1).1]
    obtain ⟨k, hk⟩ := WellFounded.not_rel_apply_succ (r := (· < ·)) fun k => (hubs k).pollsLeft
    obtain ⟨poll, hrunnable, hnext⟩ := hpolls k
    exact hk (hnext ▸ pollsLeft_step_lt (husable k) hrunnable)
  · have husable : (hub.run polls).policy.Usable := policy_run hub polls ▸ hpolicy
    obtain ⟨more, hmore, hsettled⟩ := exists_settled husable
    exact ⟨more, proceeds_append.mpr ⟨hpolls, hmore⟩, by rwa [run_append]⟩
  · intro connection hmem
    have hrest := (settled_iff (policy_run hub polls ▸ hpolicy)).mp hsettled connection hmem
    rw [(frame_polls hpolls.isSome_polled?).2] at hrest
    exact ⟨hrest, fun timer htimer => Timer.isDue_eq_false_iff.mp (hrest.notDue timer htimer)⟩

end Hub

end LiveCounter
