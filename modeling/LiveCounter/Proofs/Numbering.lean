import LiveCounter.Proofs.LiveTasks

/-!
# The numbers of timers

Timers are numbered in the order in which a connection sets them, and the numbers only say which of
two tasks is woken first. No task looks at a number: tasks that differ in the numbers of their timers
do the same, and what they become differs in the numbers of the timers again.
-/

namespace LiveCounter

/-! ## Without numbers -/

/-- The timer without its number. -/
def Timer.unnumbered (timer : Timer) : Timer := { timer with number := 0 }

/-- Whether a timer is due does not depend on its number. -/
theorem Timer.isDue_of_unnumbered {timer timer' : Timer} (h : timer.unnumbered = timer'.unnumbered)
    (now : Nat) : timer.isDue now = timer'.isDue now := by
  have hinstant : timer.instant = timer'.instant := congrArg (·.instant) h
  rw [Timer.isDue, Timer.isDue, Timer.due, Timer.due, hinstant]

/-- What a write waits for, without the number of its timer. -/
def WriteWait.unnumbered : WriteWait → WriteWait
  | .delay timer => .delay timer.unnumbered
  | .client => .client

/-- The write without the numbers of its timers. -/
def Write.unnumbered (write : Write) : Write :=
  { write with wait := write.wait.unnumbered, deadline := write.deadline.unnumbered }

/-- The phase without the numbers of its timers. -/
def Phase.unnumbered : Phase → Phase
  | .spawned => .spawned
  | .waiting keepalive => .waiting (keepalive.map (·.unnumbered))
  | .writing write => .writing write.unnumbered
  | .ended => .ended

/-- What a run of a writer comes to, without the numbers of its timers. -/
def Run.unnumbered : Run → Run
  | .suspended phase => .suspended phase.unnumbered
  | .exited exit => .exited exit

/-- The desk without the number of the next timer. -/
def Desk.unnumbered (desk : Desk) : Desk := { desk with clock := ⟨desk.clock.now, 0⟩ }

/-- The watch without the number of its timer. -/
def Watch.unnumbered : Watch → Watch
  | .absent => .absent
  | .spawned => .spawned
  | .ticking timer => .ticking timer.unnumbered
  | .ended => .ended

/-- The connection without the numbers of its timers. -/
def Connection.unnumbered (connection : Connection) : Connection :=
  { connection with
    watch := connection.watch.unnumbered
    service := connection.service.map fun service =>
      { service with phase := service.phase.unnumbered }
    timersSet := 0 }

namespace Writer

/-! ## Writers -/

/-- The progress of a write without the numbers of its timers. -/
def Progress.unnumbered : Progress → Progress
  | .written => .written
  | .halted run => .halted run.unnumbered

variable {desk desk' : Desk}

/-- Desks that are the same but for numbers differ in the number of the next timer. -/
theorem exists_of_unnumbered (h : desk.unnumbered = desk'.unnumbered) :
    ∃ next, desk' = { desk with clock := ⟨desk.clock.now, next⟩ } := by
  obtain ⟨session, client, now, next⟩ := desk
  obtain ⟨session', client', now', next'⟩ := desk'
  simp only [Desk.unnumbered, Desk.mk.injEq, Clock.mk.injEq, and_true] at h
  obtain ⟨rfl, rfl, rfl⟩ := h
  exact ⟨next', rfl⟩

/-- The keepalive timer is set alike at two desks that differ in numbers only. -/
theorem unnumbered_armKeepalive (policy : StreamPolicy) (h : desk.unnumbered = desk'.unnumbered) :
    (armKeepalive policy desk).1.map (·.unnumbered) =
        (armKeepalive policy desk').1.map (·.unnumbered) ∧
      (armKeepalive policy desk).2.unnumbered = (armKeepalive policy desk').2.unnumbered := by
  obtain ⟨next, rfl⟩ := exists_of_unnumbered h
  unfold armKeepalive
  cases policy.keepaliveInterval <;> exact ⟨rfl, rfl⟩

/-- A writer chooses alike at two desks that differ in numbers only. -/
theorem unnumbered_choose {keepalive keepalive' : Option Timer}
    (hkeepalive : keepalive.map (·.unnumbered) = keepalive'.map (·.unnumbered))
    (h : desk.unnumbered = desk'.unnumbered) :
    (choose keepalive desk).1 = (choose keepalive' desk').1 ∧
      (choose keepalive desk).2.unnumbered = (choose keepalive' desk').2.unnumbered := by
  obtain ⟨next, rfl⟩ := exists_of_unnumbered h
  simp only [choose]
  split
  · exact ⟨rfl, rfl⟩
  split
  · exact ⟨rfl, rfl⟩
  generalize desk.session.outbox.pop = popped
  obtain ⟨popped, outbox⟩ := popped
  cases popped with
  | event | released => exact ⟨rfl, rfl⟩
  | pending =>
    cases keepalive <;> cases keepalive'
    case none.none => exact ⟨rfl, rfl⟩
    case none.some => cases hkeepalive
    case some.none => cases hkeepalive
    case some.some timer timer' =>
      simp only [Timer.isDue_of_unnumbered (Option.some.inj hkeepalive)]
      split <;> exact ⟨rfl, rfl⟩

/-- A write begins alike at two desks that differ in numbers only. -/
theorem unnumbered_beginWrite (policy : StreamPolicy) (frame : Frame)
    (h : desk.unnumbered = desk'.unnumbered) :
    (beginWrite policy frame desk).1.unnumbered = (beginWrite policy frame desk').1.unnumbered ∧
      (beginWrite policy frame desk).2.unnumbered =
        (beginWrite policy frame desk').2.unnumbered := by
  obtain ⟨next, rfl⟩ := exists_of_unnumbered h
  simp only [beginWrite]
  generalize desk.client.beginWrite desk.clock.now frame = begun
  obtain ⟨step, client⟩ := begun
  cases step <;> exact ⟨rfl, rfl⟩

/-- Writes that are the same but for numbers get the same answer. -/
theorem answer_of_unnumbered {write write' : Write} (hwrite : write.unnumbered = write'.unnumbered)
    (desk : Desk) (next : Nat) :
    answer write' { desk with clock := ⟨desk.clock.now, next⟩ } = answer write desk ∧
      write'.wait.isOver desk.clock.now = write.wait.isOver desk.clock.now := by
  obtain ⟨frame, wait, deadline, began⟩ := write
  obtain ⟨frame', wait', deadline', began'⟩ := write'
  simp only [Write.unnumbered, Write.mk.injEq] at hwrite
  obtain ⟨rfl, hwait, -, rfl⟩ := hwrite
  cases wait <;> cases wait'
  case client.client => exact ⟨rfl, rfl⟩
  case client.delay => cases hwait
  case delay.client => cases hwait
  case delay.delay timer timer' =>
    have hover : (WriteWait.delay timer').isOver desk.clock.now =
        (WriteWait.delay timer).isOver desk.clock.now :=
      (Timer.isDue_of_unnumbered (WriteWait.delay.inj hwait) desk.clock.now).symm
    refine ⟨?_, hover⟩
    simp only [answer]
    rw [hover]

/-- A write goes on alike at two desks that differ in numbers only. -/
theorem unnumbered_resumeWrite (policy : StreamPolicy) {write write' : Write}
    (hwrite : write.unnumbered = write'.unnumbered) (h : desk.unnumbered = desk'.unnumbered) :
    (resumeWrite policy write desk).1.unnumbered = (resumeWrite policy write' desk').1.unnumbered ∧
      (resumeWrite policy write desk).2.unnumbered =
        (resumeWrite policy write' desk').2.unnumbered := by
  obtain ⟨next, rfl⟩ := exists_of_unnumbered h
  obtain ⟨hanswer, hover⟩ := answer_of_unnumbered hwrite desk next
  have hdue : write'.deadline.isDue desk.clock.now = write.deadline.isDue desk.clock.now :=
    Timer.isDue_of_unnumbered (congrArg (·.deadline) hwrite.symm) _
  have hpaused (wait wait' : WriteWait) (hwait : wait.unnumbered = wait'.unnumbered) :
      (Write.mk write.frame wait write.deadline write.began).unnumbered =
        (Write.mk write'.frame wait' write'.deadline write'.began).unnumbered := by
    simp only [Write.unnumbered, Write.mk.injEq] at hwrite ⊢
    exact ⟨hwrite.1, hwait, hwrite.2.2⟩
  simp only [resumeWrite_eq, hanswer, hover, hdue]
  generalize answer write desk = answered
  obtain ⟨step, client⟩ := answered
  cases step with
  | accepted | refused | panicked => exact ⟨rfl, rfl⟩
  | delayed | stuck =>
    simp only
    split
    · exact ⟨rfl, rfl⟩
    · refine ⟨?_, rfl⟩
      simp only [Progress.unnumbered, Run.unnumbered, Phase.unnumbered]
      split
      · rw [hpaused .client .client rfl]
      · rw [hpaused write.wait write'.wait (congrArg (·.wait) hwrite)]

/-- The results of two runs are the same but for numbers. -/
def Matches (result result' : Run × Desk) : Prop :=
  result.1.unnumbered = result'.1.unnumbered ∧ result.2.unnumbered = result'.2.unnumbered

/-- Serving the outbox does not depend on numbers. -/
theorem unnumbered_serve (policy : StreamPolicy) (steps : Nat) {keepalive keepalive' : Option Timer}
    (hkeepalive : keepalive.map (·.unnumbered) = keepalive'.map (·.unnumbered))
    (h : desk.unnumbered = desk'.unnumbered) :
    Matches (serve policy steps keepalive desk) (serve policy steps keepalive' desk') := by
  have hwaiting {keepalive keepalive' : Option Timer}
      (hkeepalive : keepalive.map (·.unnumbered) = keepalive'.map (·.unnumbered)) :
      (Run.suspended (.waiting keepalive)).unnumbered =
        (Run.suspended (.waiting keepalive')).unnumbered := by
    simp only [Run.unnumbered, Phase.unnumbered, hkeepalive]
  induction steps generalizing keepalive keepalive' desk desk' with
  | zero => exact ⟨hwaiting hkeepalive, h⟩
  | succ steps ih =>
    obtain ⟨htask, hchosen⟩ := unnumbered_choose hkeepalive h
    rw [serve, serve]
    generalize choose keepalive desk = chosen at htask hchosen ⊢
    generalize choose keepalive' desk' = chosen' at htask hchosen ⊢
    obtain ⟨task, later⟩ := chosen
    obtain ⟨task', later'⟩ := chosen'
    obtain rfl : task = task' := htask
    cases task with
    | stop reason => exact ⟨rfl, hchosen⟩
    | wait => exact ⟨hwaiting hkeepalive, hchosen⟩
    | write frame =>
      obtain ⟨hprogress, hbegun⟩ := unnumbered_beginWrite policy frame hchosen
      simp only at hprogress hbegun ⊢
      generalize beginWrite policy frame later = begun at hprogress hbegun ⊢
      generalize beginWrite policy frame later' = begun' at hprogress hbegun ⊢
      obtain ⟨progress, written⟩ := begun
      obtain ⟨progress', written'⟩ := begun'
      cases progress <;> cases progress'
      case written.written =>
        obtain ⟨htimer, harmed⟩ := unnumbered_armKeepalive policy hbegun
        exact ih htimer harmed
      case written.halted => cases hprogress
      case halted.written => cases hprogress
      case halted.halted => exact ⟨Progress.halted.inj hprogress, hbegun⟩

/-- A run of a writer does not depend on numbers. -/
theorem unnumbered_run (policy : StreamPolicy) {phase phase' : Phase}
    (hphase : phase.unnumbered = phase'.unnumbered) (h : desk.unnumbered = desk'.unnumbered) :
    Matches (run policy phase desk) (run policy phase' desk') := by
  have hserved {keepalive keepalive' : Option Timer} {desk desk' : Desk}
      (hkeepalive : keepalive.map (·.unnumbered) = keepalive'.map (·.unnumbered))
      (h : desk.unnumbered = desk'.unnumbered) :
      Matches (serve policy (enough desk) keepalive desk)
        (serve policy (enough desk') keepalive' desk') := by
    have henough : enough desk' = enough desk := by
      obtain ⟨next, rfl⟩ := exists_of_unnumbered h
      rfl
    rw [henough]
    exact unnumbered_serve policy _ hkeepalive h
  have hsession : desk'.session = desk.session := (congrArg (·.session) h).symm
  cases phase <;> cases phase' <;> try cases hphase
  case ended.refl => exact ⟨rfl, h⟩
  case spawned.refl =>
    obtain ⟨htimer, harmed⟩ := unnumbered_armKeepalive policy h
    simp only [run]
    cases policy.keepaliveInterval with
    | none => exact hserved rfl h
    | some period =>
      simp only
      split
      · exact ⟨rfl, h⟩
      · exact hserved htimer harmed
  case waiting.waiting => exact hserved (Phase.waiting.inj hphase) h
  case writing.writing write write' =>
    simp only [run, hsession]
    split
    · exact ⟨rfl, h⟩
    · obtain ⟨hprogress, hresumed⟩ := unnumbered_resumeWrite policy (Phase.writing.inj hphase) h
      generalize resumeWrite policy write desk = resumed at hprogress hresumed ⊢
      generalize resumeWrite policy write' desk' = resumed' at hprogress hresumed ⊢
      obtain ⟨progress, written⟩ := resumed
      obtain ⟨progress', written'⟩ := resumed'
      cases progress <;> cases progress'
      case written.written =>
        obtain ⟨htimer, harmed⟩ := unnumbered_armKeepalive policy hresumed
        exact hserved htimer harmed
      case written.halted => cases hprogress
      case halted.written => cases hprogress
      case halted.halted => exact ⟨Progress.halted.inj hprogress, hresumed⟩

end Writer

end LiveCounter
