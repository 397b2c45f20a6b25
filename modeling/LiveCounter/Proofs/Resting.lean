import LiveCounter.Proofs.Conveying

/-!
# Tasks at rest

A task is at rest if it waits for a timer that is not due, or for somebody else. Polling a task at
rest changes nothing, and after a task has run it is at rest or has ended. For this the timers of a
policy need positive periods, which clamping provides.
-/

namespace LiveCounter

namespace StreamPolicy

/-- Every timer that is set under the policy runs for some time. -/
structure Usable (policy : StreamPolicy) : Prop where
  writeTimeout_pos : 0 < policy.writeTimeout.nanos
  detectionInterval_pos : 0 < policy.detectionInterval.nanos
  keepalive_pos : ∀ period ∈ policy.keepaliveInterval, 0 < period.nanos

/-- No period that is clamped from below is zero. -/
theorem lt_max_shortestPeriod (duration : Duration) : 0 < (max duration shortestPeriod).nanos :=
  Nat.lt_of_lt_of_le (by decide) (Nat.le_max_right duration.nanos shortestPeriod.nanos)

/-- Clamped policies have periods that timers can have. -/
theorem usable_clamped (policy : StreamPolicy) : policy.clamped.Usable where
  writeTimeout_pos := lt_max_shortestPeriod policy.writeTimeout
  detectionInterval_pos := lt_max_shortestPeriod policy.detectionInterval
  keepalive_pos period hperiod := by
    simp only [clamped, usableKeepalive] at hperiod
    split at hperiod
    · cases hperiod
    · next wanted _ =>
      split at hperiod
      · cases hperiod
      · next hzero =>
        split at hperiod
        · obtain rfl := Option.some.inj hperiod
          exact lt_max_shortestPeriod _
        · obtain rfl := Option.some.inj hperiod
          refine Nat.pos_of_ne_zero fun h => hzero ?_
          cases wanted
          simpa using h

end StreamPolicy

/-- Some milliseconds are some time. -/
theorem Duration.ofMillis_pos {millis : Nat} (h : 0 < millis) :
    0 < (Duration.ofMillis millis).nanos := by
  simp only [Duration.ofMillis, Duration.perMilli]
  omega

/-- A timer is not due exactly before its instant. -/
theorem Timer.isDue_eq_false_iff {timer : Timer} {now : Nat} :
    timer.isDue now = false ↔ now < timer.due := by
  rw [Timer.isDue, decide_eq_false_iff_not, Nat.not_le]

/-- A timer for an instant after the present one is not due. -/
theorem Timer.isDue_of_lt {timer : Timer} {now : Nat}
    (h : (Duration.ofMillis now).nanos < timer.instant.nanos) : timer.isDue now = false := by
  rw [Timer.isDue_eq_false_iff]
  simp only [Timer.due, Duration.ceilMillis, Duration.ofMillis, Duration.perMilli] at h ⊢
  omega

/-- An instant that lies a period later is later. -/
theorem Clock.lt_after (clock : Clock) {period : Duration} (h : 0 < period.nanos) :
    clock.instant.nanos < (clock.after clock.instant period).nanos := by
  unfold Clock.after
  split
  · show clock.instant.nanos < clock.instant.nanos + Clock.farFuture.nanos
    exact Nat.lt_add_of_pos_right (by decide)
  · show clock.instant.nanos < clock.instant.nanos + period.nanos
    exact Nat.lt_add_of_pos_right h

/-- A timer that has just been set to run out after a period is not due. -/
theorem Clock.isDue_set (clock : Clock) {period : Duration} (h : 0 < period.nanos) :
    (clock.set period).1.isDue clock.now = false :=
  Timer.isDue_of_lt (clock.lt_after h)

namespace Client

/-- The client does not go on with a write of its own accord. -/
def Blocks (client : Client) : Prop :=
  match client.peer with
  | .scripted .. => True
  | .buffered capacity unread => client.gone = false ∧ capacity ≤ unread.length

instance : (client : Client) → Decidable client.Blocks
  | ⟨.scripted _ _, _, _⟩ => inferInstanceAs (Decidable True)
  | ⟨.buffered capacity unread, gone, _⟩ =>
    inferInstanceAs (Decidable (gone = false ∧ capacity ≤ unread.length))

/-- A client that blocks blocks again. -/
theorem Blocks.retry {client : Client} (h : client.Blocks) (now : Nat) (frame : Frame) :
    client.retry now frame = (.stuck, client) := by
  unfold Blocks at h
  unfold Client.retry
  split
  · rfl
  · next hpeer =>
    simp only [hpeer] at h
    simp [Client.fill, h.1, Nat.not_lt.mpr h.2]

/-- A buffered client that has no room blocks. -/
theorem blocks_of_fill {client : Client} {now : Nat} {frame : Frame} {capacity : Nat}
    {unread : List Frame} (hpeer : client.peer = .buffered capacity unread)
    (h : (client.fill now frame capacity unread).1 = .stuck) :
    (client.fill now frame capacity unread).2.Blocks := by
  unfold Client.fill at h ⊢
  split at h
  · cases h
  · next hgone =>
    split at h
    · cases h
    · next hfull =>
      rw [if_neg hgone, if_neg hfull]
      simp only [Blocks, hpeer]
      exact ⟨by simpa using hgone, Nat.le_of_not_lt hfull⟩

/-- A scripted client that has been asked blocks, whatever it answered. -/
theorem blocks_conclude {client : Client} {script : Nat → Treatment} {attempts : Nat}
    (hpeer : client.peer = .scripted script attempts) (now : Nat) (frame : Frame)
    (reception : Reception) : (client.conclude now frame reception).2.Blocks := by
  cases reception <;> simp [Client.conclude, Client.accept, Blocks, hpeer]

/-- A client that is stuck at the beginning of a write blocks. -/
theorem blocks_of_beginWrite {client : Client} {now : Nat} {frame : Frame}
    (h : (client.beginWrite now frame).1 = .stuck) : (client.beginWrite now frame).2.Blocks := by
  unfold Client.beginWrite at h ⊢
  split
  · simp only
    split
    · exact blocks_conclude rfl now frame _
    · trivial
  · next hpeer =>
    simp only [hpeer] at h
    exact blocks_of_fill hpeer h

/-- A client that is stuck after its delay blocks. -/
theorem blocks_of_endDelay {client : Client} {now : Nat} {frame : Frame}
    (h : (client.endDelay now frame).1 = .stuck) : (client.endDelay now frame).2.Blocks := by
  unfold Client.endDelay at h ⊢
  split
  · next hpeer => exact blocks_conclude hpeer now frame _
  · next hpeer =>
    simp only [hpeer] at h
    exact blocks_of_fill hpeer h

/-- A client that is stuck when it is asked again blocks. -/
theorem blocks_of_retry {client : Client} {now : Nat} {frame : Frame}
    (h : (client.retry now frame).1 = .stuck) : (client.retry now frame).2.Blocks := by
  unfold Client.retry at h ⊢
  split
  · next hpeer => simp [Blocks, hpeer]
  · next hpeer =>
    simp only [hpeer] at h
    exact blocks_of_fill hpeer h

/-- A scripted client delays a frame at most once. -/
theorem conclude_ne_delayed (client : Client) (now : Nat) (frame : Frame) (reception : Reception)
    (millis : Nat) : (client.conclude now frame reception).1 ≠ .delayed millis := by
  cases reception <;> simp [Client.conclude]

/-- A buffered client does not delay frames. -/
theorem fill_ne_delayed (client : Client) (now : Nat) (frame : Frame) (capacity : Nat)
    (unread : List Frame) (millis : Nat) :
    (client.fill now frame capacity unread).1 ≠ .delayed millis := by
  unfold Client.fill
  split
  · simp
  · split <;> simp

/-- A client whose delay is over does not ask for another one. -/
theorem endDelay_ne_delayed (client : Client) (now : Nat) (frame : Frame) (millis : Nat) :
    (client.endDelay now frame).1 ≠ .delayed millis := by
  unfold Client.endDelay
  split
  · exact client.conclude_ne_delayed now frame _ millis
  · exact client.fill_ne_delayed now frame _ _ millis

/-- A client that is asked again does not delay the frame. -/
theorem retry_ne_delayed (client : Client) (now : Nat) (frame : Frame) (millis : Nat) :
    (client.retry now frame).1 ≠ .delayed millis := by
  unfold Client.retry
  split
  · simp
  · exact client.fill_ne_delayed now frame _ _ millis

/-- A client that asks for a delay asks for a real one. -/
theorem delay_pos {client : Client} {now : Nat} {frame : Frame} {millis : Nat}
    (h : (client.beginWrite now frame).1 = .delayed millis) : 0 < millis := by
  unfold Client.beginWrite at h
  split at h
  · simp only at h
    split at h
    · exact absurd h (Client.conclude_ne_delayed _ now frame _ millis)
    · next hdelay =>
      obtain rfl := WriteStep.delayed.inj h
      exact Nat.pos_of_ne_zero hdelay
  · exact absurd h (client.fill_ne_delayed now frame _ _ millis)

end Client

namespace Writer

/-- A phase in which a writer has nothing to do. -/
def Rests (desk : Desk) : Phase → Prop
  | .spawned => False
  | .ended => True
  | .waiting keepalive => Idle keepalive desk
  | .writing write => desk.session.cancelled = false ∧ write.deadline.isDue desk.clock.now = false ∧
      match write.wait with
      | .delay timer => timer.isDue desk.clock.now = false
      | .client => desk.client.Blocks

/-- When a writer is idle, condition by condition. -/
theorem idle_iff (keepalive : Option Timer) (desk : Desk) :
    Idle keepalive desk ↔ desk.session.cancelled = false ∧ desk.client.gone = false ∧
      desk.session.outbox.released = false ∧ desk.session.outbox.items = [] ∧
        ∀ timer ∈ keepalive, timer.isDue desk.clock.now = false :=
  ⟨fun h => ⟨h.cancelled, h.gone, h.released, h.items, h.notDue⟩,
    fun ⟨hcancelled, hgone, hreleased, hitems, hnotDue⟩ =>
      ⟨hcancelled, hgone, hreleased, hitems, hnotDue⟩⟩

instance (desk : Desk) : (phase : Phase) → Decidable (Rests desk phase)
  | .spawned => inferInstanceAs (Decidable False)
  | .ended => inferInstanceAs (Decidable True)
  | .waiting keepalive => decidable_of_iff' _ (idle_iff keepalive desk)
  | .writing ⟨_, .delay timer, deadline, _⟩ =>
    inferInstanceAs (Decidable (desk.session.cancelled = false ∧
      deadline.isDue desk.clock.now = false ∧ timer.isDue desk.clock.now = false))
  | .writing ⟨_, .client, deadline, _⟩ =>
    inferInstanceAs (Decidable (desk.session.cancelled = false ∧
      deadline.isDue desk.clock.now = false ∧ desk.client.Blocks))

/-- A writer with nothing to do does nothing. -/
theorem run_of_rests (policy : StreamPolicy) {phase : Phase} {desk : Desk} (h : Rests desk phase) :
    run policy phase desk = (.suspended phase, desk) := by
  cases phase with
  | spawned => cases h
  | ended => rfl
  | waiting keepalive =>
    exact serve_wait policy _ h.choose_eq
  | writing write =>
    obtain ⟨hcancelled, hdeadline, hwait⟩ := h
    apply run_halted hcancelled
    rw [resumeWrite_eq]
    cases hkind : write.wait with
    | delay timer =>
      simp only [hkind] at hwait
      simp only [answer, hkind, WriteWait.isOver, hwait, hdeadline, Bool.false_eq_true, if_false]
      rw [← hkind]
    | client =>
      simp only [hkind] at hwait
      simp only [answer, hkind, hwait.retry, hdeadline, Bool.false_eq_true, if_false]
      rw [← hkind]
      simp

/-- A run that is not the last one ends at rest, and takes no time. -/
def Settles (now : Nat) (result : Run × Desk) : Prop :=
  result.2.clock.now = now ∧
    match result.1 with
    | .suspended phase => Rests result.2 phase
    | .exited _ => True

/-- Setting the keepalive timer takes no time. -/
theorem now_armKeepalive (policy : StreamPolicy) (desk : Desk) :
    (armKeepalive policy desk).2.clock.now = desk.clock.now := by
  unfold armKeepalive
  split <;> rfl

/-- A keepalive timer that has just been set is not due. -/
theorem isDue_armKeepalive {policy : StreamPolicy} (hpolicy : policy.Usable) (desk : Desk) :
    ∀ timer ∈ (armKeepalive policy desk).1, timer.isDue desk.clock.now = false := by
  intro timer htimer
  unfold armKeepalive at htimer
  split at htimer
  · cases htimer
  · next period hperiod =>
    obtain rfl := Option.some.inj htimer
    exact desk.clock.isDue_set (hpolicy.keepalive_pos period hperiod)

/-- An attempt to write that does not succeed at once settles. -/
def SettlesUnlessWritten (now : Nat) (result : Progress × Desk) : Prop :=
  match result.1 with
  | .written => result.2.clock.now = now
  | .halted run => Settles now (run, result.2)

/-- The beginning of a write comes to rest, unless the frame is written at once. -/
theorem settles_beginWrite {policy : StreamPolicy} (hpolicy : policy.Usable) (frame : Frame)
    {desk : Desk} (hcancelled : desk.session.cancelled = false) :
    SettlesUnlessWritten desk.clock.now (beginWrite policy frame desk) := by
  unfold beginWrite
  simp only
  split
  · rfl
  · exact ⟨rfl, trivial⟩
  · exact ⟨rfl, trivial⟩
  · next millis heq =>
    refine ⟨rfl, hcancelled, ?_, ?_⟩
    · exact Clock.isDue_set ⟨desk.clock.now, desk.clock.next + 1⟩ hpolicy.writeTimeout_pos
    · exact desk.clock.isDue_set (Duration.ofMillis_pos (Client.delay_pos heq))
  · next heq =>
    exact ⟨rfl, hcancelled, desk.clock.isDue_set hpolicy.writeTimeout_pos,
      Client.blocks_of_beginWrite heq⟩

/-- A client that is stuck, though it may react by now, waits for somebody else. -/
theorem blocks_of_answer {write : Write} {desk : Desk}
    (hover : write.wait.isOver desk.clock.now = true) (h : (answer write desk).1 = .stuck) :
    (answer write desk).2.Blocks := by
  unfold answer at h ⊢
  split
  · next heq =>
    simp only [heq] at h hover
    rw [if_pos hover] at h
    rw [if_pos (heq ▸ hover)]
    exact Client.blocks_of_endDelay h
  · next heq =>
    simp only [heq] at h
    exact Client.blocks_of_retry h

/-- A write that is gone on with is not delayed any more. -/
theorem answer_ne_delayed (write : Write) (desk : Desk) (millis : Nat) :
    (answer write desk).1 ≠ .delayed millis := by
  unfold answer
  split
  · split
    · exact Client.endDelay_ne_delayed _ _ _ millis
    · simp
  · exact Client.retry_ne_delayed _ _ _ millis

/-- Going on with a write comes to rest, unless the frame is written then. -/
theorem settles_resumeWrite (policy : StreamPolicy) (write : Write) {desk : Desk}
    (hcancelled : desk.session.cancelled = false) :
    SettlesUnlessWritten desk.clock.now (resumeWrite policy write desk) := by
  rw [resumeWrite_eq]
  cases hstep : (answer write desk).1 with
  | accepted => exact rfl
  | refused => exact ⟨rfl, trivial⟩
  | panicked => exact ⟨rfl, trivial⟩
  | delayed millis => exact absurd hstep (answer_ne_delayed write desk millis)
  | stuck =>
    simp only
    split
    · exact ⟨rfl, trivial⟩
    · next hdeadline =>
      refine ⟨rfl, hcancelled, by simpa using hdeadline, ?_⟩
      cases hover : write.wait.isOver desk.clock.now with
      | true =>
        simp only [if_true]
        exact blocks_of_answer hover hstep
      | false =>
        cases hwait : write.wait with
        | client => simp [hwait, WriteWait.isOver] at hover
        | delay timer => simpa [hwait, WriteWait.isOver] using hover

/-- The number of steps for which a writer is busy at most. -/
def busy (keepalive : Option Timer) (desk : Desk) : Nat :=
  desk.session.outbox.length + if keepalive.any (·.isDue desk.clock.now) then 2 else 1

/-- The steps that a loop is given are enough for what there is to do. -/
theorem busy_le_enough (keepalive : Option Timer) (desk : Desk) : busy keepalive desk ≤ enough desk := by
  simp only [busy, enough]
  split <;> omega

/-- There is a frame to write for each event that waits. -/
theorem length_pending (desk : Desk) : (pending desk).length = desk.session.outbox.length := by
  simp [pending, Outbox.length]

/-- The keepalive timer that has just been set is not due. -/
theorem busy_armKeepalive {policy : StreamPolicy} (hpolicy : policy.Usable) (desk : Desk) :
    busy (armKeepalive policy desk).1 (armKeepalive policy desk).2 =
      desk.session.outbox.length + 1 := by
  have hdue : (armKeepalive policy desk).1.any
      (·.isDue (armKeepalive policy desk).2.clock.now) = false := by
    rw [now_armKeepalive, Option.any_eq_false]
    intro timer htimer
    simp [isDue_armKeepalive hpolicy desk timer htimer]
  simp [busy, hdue, session_armKeepalive]

/-- A frame that is written leaves less to do: an event leaves the outbox, and a keepalive was
due. -/
theorem lt_busy {keepalive : Option Timer} {desk later : Desk} {frame : Frame}
    (hpending : pending desk = frame.unlessKeepalive ++ pending later)
    (hkeepalive : frame = .keepalive → ∃ timer ∈ keepalive, timer.isDue desk.clock.now = true) :
    (pending later).length + 1 < busy keepalive desk := by
  have hlength := congrArg List.length hpending
  rw [List.length_append, length_pending] at hlength
  rw [busy]
  cases frame with
  | event value =>
    simp only [Frame.unlessKeepalive, List.length_singleton] at hlength
    split <;> omega
  | keepalive =>
    obtain ⟨timer, htimer, hover⟩ := hkeepalive rfl
    have hany : keepalive.any (·.isDue desk.clock.now) = true := by
      rw [Option.mem_def.mp htimer, Option.any_some, hover]
    simp only [Frame.unlessKeepalive, List.length_nil] at hlength
    rw [if_pos hany]
    omega

/-- A writer that has written a frame and set its keepalive timer anew has less to do. -/
theorem busy_written_lt {policy : StreamPolicy} (hpolicy : policy.Usable)
    {keepalive : Option Timer} {desk chosen written : Desk} {frame : Frame}
    (hchoose : choose keepalive desk = (.write frame, chosen))
    (hwrite : beginWrite policy frame chosen = (.written, written)) :
    busy (armKeepalive policy written).1 (armKeepalive policy written).2 < busy keepalive desk := by
  have hattempt := attempt_beginWrite policy frame chosen
  rw [hwrite] at hattempt
  rw [busy_armKeepalive hpolicy, ← length_pending, hattempt.pending_eq rfl]
  cases choice keepalive desk with
  | stop reason hchoice => cases hchoose.symm.trans hchoice
  | wait hchoice _ => cases hchoose.symm.trans hchoice
  | write _ _ hchoice _ _ _ hpending hkeepalive =>
    cases hchoose.symm.trans hchoice
    exact lt_busy hpending hkeepalive

/-- With enough steps a writer serves its outbox until it is at rest or ends. -/
theorem settles_serve {policy : StreamPolicy} (hpolicy : policy.Usable) {steps : Nat}
    {keepalive : Option Timer} {desk : Desk} (hsteps : busy keepalive desk ≤ steps) :
    Settles desk.clock.now (serve policy steps keepalive desk) := by
  -- Every frame that is written leaves less to do, so the steps last until the writer rests.
  induction steps generalizing keepalive desk with
  | zero =>
    unfold busy at hsteps
    split at hsteps <;> omega
  | succ steps ih =>
    cases choice keepalive desk with
    | stop reason hchoose =>
      rw [serve_stop policy steps hchoose]
      exact ⟨rfl, trivial⟩
    | wait hchoose hidle =>
      rw [serve_wait policy steps hchoose]
      exact ⟨rfl, hidle⟩
    | write frame later hchoose _ hclock hcancelled =>
      have hbegin := settles_beginWrite hpolicy frame hcancelled
      generalize hresult : beginWrite policy frame later = result at hbegin
      obtain ⟨progress, written⟩ := result
      cases progress with
      | halted stopped =>
        rw [serve_halted policy steps hchoose hresult, ← hclock]
        exact hbegin
      | written =>
        rw [serve_written policy steps hchoose hresult]
        have hnow : written.clock.now = desk.clock.now := by
          rw [← hclock]
          exact hbegin
        rw [← hnow, ← now_armKeepalive policy]
        exact ih (Nat.le_of_lt_succ
          (Nat.lt_of_lt_of_le (busy_written_lt hpolicy hchoose hresult) hsteps))

/-- A run of a writer ends at rest, or is its last one. -/
theorem settles_run {policy : StreamPolicy} (hpolicy : policy.Usable) (phase : Phase)
    (desk : Desk) : Settles desk.clock.now (run policy phase desk) := by
  have hserve (keepalive : Option Timer) (desk : Desk) :
      Settles desk.clock.now (serve policy (enough desk) keepalive desk) :=
    settles_serve hpolicy (busy_le_enough keepalive desk)
  cases phase with
  | ended => exact ⟨rfl, trivial⟩
  | spawned =>
    rcases run_spawned policy desk with ⟨-, hpanicked⟩ | ⟨-, hserved⟩
    · rw [hpanicked]
      exact ⟨rfl, trivial⟩
    · rw [hserved, ← now_armKeepalive policy desk]
      exact hserve _ _
  | waiting keepalive => exact hserve keepalive desk
  | writing write =>
    cases hcancelled : desk.session.cancelled with
    | true =>
      rw [run_writing_of_cancelled policy write hcancelled]
      exact ⟨rfl, trivial⟩
    | false =>
      have hresume := settles_resumeWrite policy write hcancelled
      generalize hresult : resumeWrite policy write desk = result at hresume
      obtain ⟨progress, later⟩ := result
      cases progress with
      | written =>
        have hnow : later.clock.now = desk.clock.now := hresume
        rw [run_resumed hcancelled hresult, ← hnow, ← now_armKeepalive policy later]
        exact hserve _ _
      | halted stopped =>
        rw [run_halted hcancelled hresult]
        exact hresume

/-- None of the timers of a writer at rest is due. -/
theorem Rests.notDue {desk : Desk} {phase : Phase} (h : Rests desk phase) :
    ∀ timer ∈ timers phase, timer.isDue desk.clock.now = false := by
  intro timer htimer
  cases phase with
  | spawned => cases h
  | ended => cases htimer
  | waiting keepalive => exact Idle.notDue h timer (Option.mem_toList.mp htimer)
  | writing write =>
    obtain ⟨-, hdeadline, hwait⟩ := h
    cases hkind : write.wait with
    | client =>
      simp only [timers, hkind, List.mem_singleton] at htimer
      rw [htimer, hdeadline]
    | delay delay =>
      simp only [timers, hkind, List.mem_cons, List.not_mem_nil, or_false] at htimer hwait
      rcases htimer with rfl | rfl
      · exact hwait
      · exact hdeadline

/-- A writer does not rest when its session is cancelled, unless it has ended. -/
theorem Rests.ended {desk : Desk} {phase : Phase} (h : Rests desk phase)
    (hcancelled : desk.session.cancelled = true) : phase = .ended := by
  cases phase with
  | spawned => cases h
  | ended => rfl
  | waiting keepalive =>
    rw [Idle.cancelled h] at hcancelled
    cases hcancelled
  | writing write =>
    rw [h.1] at hcancelled
    cases hcancelled

/-- A writer at rest stays at rest until one of its timers is due. -/
theorem Rests.withClock {desk : Desk} {phase : Phase} (h : Rests desk phase) {clock : Clock}
    (hdue : ∀ timer ∈ timers phase, timer.isDue clock.now = false) :
    Rests { desk with clock } phase := by
  cases phase with
  | spawned => cases h
  | ended => trivial
  | waiting keepalive =>
    exact ⟨h.cancelled, h.gone, h.released, h.items,
      fun timer htimer => hdue timer (Option.mem_toList.mpr htimer)⟩
  | writing write =>
    obtain ⟨hcancelled, -, hwait⟩ := h
    refine ⟨hcancelled, ?_, ?_⟩
    · apply hdue
      simp only [timers]
      split <;> simp
    · cases hkind : write.wait with
      | delay timer => exact hdue timer (by simp [timers, hkind])
      | client => simpa [hkind] using hwait

end Writer

namespace Watch

/-- A watch that has nothing to do. -/
def Rests (session : Session) (now : Nat) : Watch → Prop
  | .absent | .ended => True
  | .spawned => False
  | .ticking timer => session.cancelled = false ∧ timer.isDue now = false

instance (session : Session) (now : Nat) : (watch : Watch) → Decidable (watch.Rests session now)
  | .absent => inferInstanceAs (Decidable True)
  | .ended => inferInstanceAs (Decidable True)
  | .spawned => inferInstanceAs (Decidable False)
  | .ticking timer =>
    inferInstanceAs (Decidable (session.cancelled = false ∧ timer.isDue now = false))

/-- A watch with nothing to do does nothing. -/
theorem run_of_rests (policy : StreamPolicy) {watch : Watch} {session : Session} {clock : Clock}
    (h : watch.Rests session clock.now) : watch.run policy session clock = (.alive, watch, clock) := by
  cases watch with
  | absent => rfl
  | ended => rfl
  | spawned => cases h
  | ticking timer => simp [run, h.1, h.2]

/-- The next look lies in the future. -/
theorem lt_nextLook {interval : Duration} (h : 0 < interval.nanos) (clock : Clock)
    (last : Duration) : clock.instant.nanos < (nextLook interval clock last).nanos := by
  unfold nextLook
  split
  · exact clock.lt_after h
  · generalize clock.instant.nanos = present
    show present < last.nanos + ((present - last.nanos) / interval.nanos + 1) * interval.nanos
    have hrest := Nat.lt_div_mul_add (a := present - last.nanos) h
    rw [Nat.add_mul, Nat.one_mul]
    omega

/-- The next look of a watch is not due yet. -/
theorem isDue_look {policy : StreamPolicy} (hpolicy : policy.Usable) (clock : Clock)
    (last : Duration) :
    (clock.setAt (nextLook policy.detectionInterval clock last)).1.isDue clock.now = false :=
  Timer.isDue_of_lt (lt_nextLook hpolicy.detectionInterval_pos clock last)

/-- After a run a watch has nothing to do. -/
theorem rests_run {policy : StreamPolicy} (hpolicy : policy.Usable) (watch : Watch)
    (session : Session) (clock : Clock) :
    (watch.run policy session clock).2.1.Rests session clock.now := by
  have hlook (last : Duration) (hcancelled : session.cancelled = false) :
      (look policy session clock last).2.1.Rests session clock.now := by
    unfold look
    split
    · trivial
    · exact ⟨hcancelled, isDue_look hpolicy clock last⟩
  cases watch with
  | absent => trivial
  | ended => trivial
  | spawned =>
    simp only [run]
    split
    · trivial
    · next hcancelled => exact hlook _ (by simpa using hcancelled)
  | ticking timer =>
    simp only [run]
    split
    · trivial
    · next hcancelled =>
      split
      · exact hlook _ (by simpa using hcancelled)
      · next hdue => exact ⟨by simpa using hcancelled, by simpa using hdue⟩

/-- A watch that had nothing to do finds no session silent, whatever has happened to the session
since. -/
theorem run_ne_silent (policy : StreamPolicy) {watch : Watch} {before session : Session}
    {clock : Clock} (h : watch.Rests before clock.now) :
    (watch.run policy session clock).1 ≠ .silent := by
  cases watch with
  | absent => simp [run]
  | ended => simp [run]
  | spawned => cases h
  | ticking timer =>
    simp only [run, h.2]
    split <;> simp

/-- None of the timers of a watch at rest is due. -/
theorem Rests.notDue {watch : Watch} {session : Session} {now : Nat}
    (h : watch.Rests session now) : ∀ timer ∈ watch.timers, timer.isDue now = false := by
  intro timer htimer
  cases watch with
  | ticking due =>
    obtain rfl := List.mem_singleton.mp htimer
    exact h.2
  | _ => cases htimer

/-- A watch stays at rest as long as its timers are not due. -/
theorem Rests.later {watch : Watch} {session : Session} {now later : Nat}
    (h : watch.Rests session now) (hdue : ∀ timer ∈ watch.timers, timer.isDue later = false) :
    watch.Rests session later := by
  cases watch with
  | absent => trivial
  | ended => trivial
  | spawned => cases h
  | ticking timer => exact ⟨h.1, hdue timer List.mem_cons_self⟩

/-- A watch does not rest when its session is cancelled, unless it has ended. -/
theorem Rests.isPending_eq_false {watch : Watch} {session : Session} {now : Nat}
    (h : watch.Rests session now) (hcancelled : session.cancelled = true) :
    watch.isPending = false := by
  cases watch with
  | absent => rfl
  | ended => rfl
  | spawned => cases h
  | ticking timer =>
    rw [h.1] at hcancelled
    cases hcancelled

/-- A watch that finds a session silent has ended. -/
theorem ended_of_silent {policy : StreamPolicy} {watch : Watch} {session : Session}
    {clock : Clock} (h : (watch.run policy session clock).1 = .silent) :
    (watch.run policy session clock).2.1 = .ended := by
  have hlook (last : Duration) (hsilent : (look policy session clock last).1 = .silent) :
      (look policy session clock last).2.1 = .ended := by
    unfold look at hsilent ⊢
    split at hsilent
    · next hlong => rw [if_pos hlong]
    · cases hsilent
  cases watch with
  | absent => cases h
  | ended => cases h
  | spawned =>
    simp only [run] at h ⊢
    split
    · rfl
    · next hcancelled =>
      rw [if_neg hcancelled] at h
      exact hlook _ h
  | ticking timer =>
    simp only [run] at h ⊢
    split
    · rfl
    · next hcancelled =>
      rw [if_neg hcancelled] at h
      split at h
      · next hdue =>
        rw [if_pos hdue]
        exact hlook _ h
      · cases h

end Watch

end LiveCounter
