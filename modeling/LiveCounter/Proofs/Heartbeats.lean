import LiveCounter.Proofs.Pacing
import LiveCounter.Proofs.WriteLimits

/-!
# Keepalives that fill silence

A writer sets the timer for its next keepalive when it starts, and anew after each write that has
succeeded. So what it waits for comes one period after the last of these. It writes a keepalive only
if that time has come and there is nothing else to do; and as no timer runs out in the run in which it
is set, a keepalive is the first frame of its run.
-/

namespace LiveCounter

/-- A timer that is set for a whole number of milliseconds within reach is due after so many. -/
theorem Clock.due_set_eq (clock : Clock) {period : Duration} (hwhole : period.IsWhole)
    (hreach : overflows period = false) : (clock.set period).1.due = clock.now + period.millis := by
  have hinstant : (clock.set period).1.instant = .ofMillis clock.now + period := by
    simp [set, setAt, after, hreach, instant]
  rw [Timer.due, hinstant]
  exact Duration.ceilMillis_add hwhole clock.now

/-- The frame that a writer has at hand. -/
def Phase.atHand (phase : Phase) : List Frame := (phase.write?.map (·.frame)).toList

/-- The last beat of a writer that has started at the given time and writes to the client: its
start, or the last time that the client accepted a frame, whichever is later. -/
def Client.lastBeat (start : Nat) (client : Client) : Nat :=
  client.accepted.head?.elim start fun entry => max start entry.1

/-- A frame that is accepted now is the last beat. -/
theorem Client.lastBeat_of_accepted {client : Client} {start now : Nat} {frame : Frame}
    {earlier : List (Nat × Frame)} (h : client.accepted = (now, frame) :: earlier)
    (hstart : start ≤ now) : client.lastBeat start = now := by
  simp [lastBeat, h, hstart]

namespace Writer

/-! ## What a run begins to write -/

/-- The frames that a writer begins to write while it serves, in their order. -/
def begunServing (policy : StreamPolicy) : (steps : Nat) → Option Timer → Desk → List Frame
  | 0, _, _ => []
  | steps + 1, keepalive, desk =>
    match choose keepalive desk with
    | (.write frame, desk) =>
      match beginWrite policy frame desk with
      | (.written, desk) =>
        frame :: begunServing policy steps (armKeepalive policy desk).1 (armKeepalive policy desk).2
      | (.halted _, _) => [frame]
    | _ => []

/-- The frames that a writer begins to write once it has set the timer for its next keepalive. -/
def begunArmed (policy : StreamPolicy) (desk : Desk) : List Frame :=
  begunServing policy (enough (armKeepalive policy desk).2) (armKeepalive policy desk).1
    (armKeepalive policy desk).2

/-- The frames that a run of a writer begins to write, in their order. -/
def begun (policy : StreamPolicy) (phase : Phase) (desk : Desk) : List Frame :=
  match phase with
  | .ended => []
  | .spawned => if policy.keepaliveInterval.any Clock.overflows then [] else begunArmed policy desk
  | .waiting keepalive => begunServing policy (enough desk) keepalive desk
  | .writing write =>
    if desk.session.cancelled then []
    else
      match resumeWrite policy write desk with
      | (.written, desk) => begunArmed policy desk
      | (.halted _, _) => []

/-- What one attempt makes of its frame: the client accepts it now, or it does not and the run
stops, with the frame at hand if it is not the last run. -/
inductive Tried (frame : Frame) (desk : Desk) : Progress × Desk → Prop
  | written (later : Desk)
      (haccepted : later.client.accepted = (desk.clock.now, frame) :: desk.client.accepted)
      (hclock : later.clock = desk.clock) : Tried frame desk (.written, later)
  | halted (stopped : Run) (last : Desk) (haccepted : last.client.accepted = desk.client.accepted)
      (hphase : ∀ phase, stopped = .suspended phase → phase.atHand = [frame]) :
      Tried frame desk (.halted stopped, last)

/-- A write that begins tries its frame. -/
theorem tried_beginWrite (policy : StreamPolicy) (frame : Frame) (desk : Desk) :
    Tried frame desk (beginWrite policy frame desk) := by
  have hrecords := desk.client.records_beginWrite desk.clock.now frame
  unfold Client.Records at hrecords
  unfold beginWrite
  simp only
  generalize desk.client.beginWrite desk.clock.now frame = result at hrecords ⊢
  obtain ⟨step, client⟩ := result
  cases step with
  | accepted => exact .written _ hrecords rfl
  | refused | panicked => exact .halted _ _ hrecords fun phase hphase => by (cases hphase)
  | delayed | stuck =>
    refine .halted _ _ hrecords fun phase hphase => ?_
    obtain rfl := Run.suspended.inj hphase
    rfl

/-- A write that goes on tries its frame again. -/
theorem tried_resumeWrite (policy : StreamPolicy) (write : Write) (desk : Desk) :
    Tried write.frame desk (resumeWrite policy write desk) := by
  have hrecords := records_answer write desk
  unfold Client.Records at hrecords
  rw [resumeWrite_eq]
  generalize answer write desk = result at hrecords ⊢
  obtain ⟨step, client⟩ := result
  cases step with
  | accepted => exact .written _ hrecords rfl
  | refused | panicked => exact .halted _ _ hrecords fun phase hphase => by (cases hphase)
  | delayed | stuck =>
    simp only
    split
    · exact .halted _ _ hrecords fun phase hphase => by (cases hphase)
    · refine .halted _ _ hrecords fun phase hphase => ?_
      obtain rfl := Run.suspended.inj hphase
      rfl

/-- Of the given frames the client has accepted some from the front, all at the given time and after
those that it had before. At most one more was to be written: the writer has it at hand, unless this
was its last run. -/
def HandsOver (now : Nat) (before : List (Nat × Frame)) (frames : List Frame)
    (result : Run × Desk) : Prop :=
  ∃ taken rest, frames = taken ++ rest ∧ rest.length ≤ 1 ∧
    result.2.client.accepted = (taken.map (now, ·)).reverse ++ before ∧
    ∀ phase, result.1 = .suspended phase → phase.atHand = rest

/-- A frame that is accepted first is handed over before the others. -/
theorem HandsOver.cons {now : Nat} {before : List (Nat × Frame)} {frame : Frame}
    {frames : List Frame} {result : Run × Desk}
    (h : HandsOver now ((now, frame) :: before) frames result) :
    HandsOver now before (frame :: frames) result := by
  obtain ⟨taken, rest, rfl, hrest, haccepted, hphase⟩ := h
  exact ⟨frame :: taken, rest, rfl, hrest, by simpa using haccepted, hphase⟩

/-- A run that hands nothing over has what it was to write at hand, or it was the last one. -/
theorem handsOver_of_accepted {desk last : Desk} {rest : List Frame} {stopped : Run}
    (haccepted : last.client.accepted = desk.client.accepted) (hrest : rest.length ≤ 1)
    (hphase : ∀ phase, stopped = .suspended phase → phase.atHand = rest) :
    HandsOver desk.clock.now desk.client.accepted rest (stopped, last) :=
  ⟨[], rest, rfl, hrest, haccepted, hphase⟩

/-- A writer that serves hands over what it begins to write. -/
theorem handsOver_serve (policy : StreamPolicy) (steps : Nat) (keepalive : Option Timer)
    (desk : Desk) :
    HandsOver desk.clock.now desk.client.accepted (begunServing policy steps keepalive desk)
      (serve policy steps keepalive desk) := by
  induction steps generalizing keepalive desk with
  | zero =>
    refine handsOver_of_accepted rfl (Nat.zero_le 1) fun phase hphase => ?_
    obtain rfl := Run.suspended.inj hphase
    rfl
  | succ steps ih =>
    cases choice keepalive desk with
    | stop reason hchoose =>
      rw [serve_stop policy steps hchoose, begunServing, hchoose]
      exact handsOver_of_accepted rfl (Nat.zero_le 1) fun phase hphase => by (cases hphase)
    | wait hchoose _ =>
      rw [serve_wait policy steps hchoose, begunServing, hchoose]
      refine handsOver_of_accepted rfl (Nat.zero_le 1) fun phase hphase => ?_
      obtain rfl := Run.suspended.inj hphase
      rfl
    | write frame chosen hchoose hclient hclock =>
      have htried := tried_beginWrite policy frame chosen
      generalize hresult : beginWrite policy frame chosen = result at htried
      simp only [begunServing, hchoose, hresult, ← hclient, ← hclock]
      cases htried with
      | written later haccepted hlater =>
        have hrest := ih (armKeepalive policy later).1 (armKeepalive policy later).2
        rw [now_armKeepalive, client_armKeepalive, haccepted, hlater] at hrest
        rw [serve_written policy steps hchoose hresult]
        exact hrest.cons
      | halted stopped last haccepted hphase =>
        rw [serve_halted policy steps hchoose hresult]
        exact handsOver_of_accepted haccepted (Nat.le_refl 1) hphase

/-- A writer that has set its next keepalive hands over what it begins to write. -/
theorem handsOver_armed (policy : StreamPolicy) (desk : Desk) :
    HandsOver desk.clock.now desk.client.accepted (begunArmed policy desk)
      (serve policy (enough (armKeepalive policy desk).2) (armKeepalive policy desk).1
        (armKeepalive policy desk).2) := by
  have hserved := handsOver_serve policy (enough (armKeepalive policy desk).2)
    (armKeepalive policy desk).1 (armKeepalive policy desk).2
  rwa [now_armKeepalive, client_armKeepalive] at hserved

/-- A run hands over the frame that was at hand, and then those that it begins to write. -/
theorem handsOver_run (policy : StreamPolicy) (phase : Phase) (desk : Desk) :
    HandsOver desk.clock.now desk.client.accepted (phase.atHand ++ begun policy phase desk)
      (run policy phase desk) := by
  cases phase with
  | ended =>
    refine handsOver_of_accepted rfl (Nat.zero_le 1) fun phase hphase => ?_
    obtain rfl := Run.suspended.inj hphase
    rfl
  | spawned =>
    rw [begun]
    rcases run_spawned policy desk with ⟨hoverflows, hpanicked⟩ | ⟨hreach, hserved⟩
    · rw [hpanicked, if_pos hoverflows]
      exact handsOver_of_accepted rfl (Nat.zero_le 1) fun phase hphase => by (cases hphase)
    · rw [hserved, if_neg (Bool.eq_false_iff.mp hreach)]
      exact handsOver_armed policy desk
  | waiting keepalive => exact handsOver_serve policy (enough desk) keepalive desk
  | writing write =>
    cases hcancelled : desk.session.cancelled with
    | true =>
      rw [run_writing_of_cancelled policy write hcancelled, begun, if_pos hcancelled]
      exact handsOver_of_accepted rfl (Nat.le_refl 1) fun phase hphase => by (cases hphase)
    | false =>
      have htried := tried_resumeWrite policy write desk
      generalize hresult : resumeWrite policy write desk = result at htried
      simp only [begun, hcancelled, Bool.false_eq_true, if_false, hresult]
      cases htried with
      | written later haccepted hlater =>
        have hrest := handsOver_armed policy later
        rw [haccepted, hlater] at hrest
        rw [run_resumed hcancelled hresult]
        exact hrest.cons
      | halted stopped last haccepted hphase =>
        rw [run_halted hcancelled hresult]
        exact handsOver_of_accepted haccepted (Nat.le_refl 1) hphase

/-! ## Keepalives are the first frames of their runs -/

/-- Where a pop has to wait nothing is queued. -/
theorem items_of_pending {outbox later : Outbox} (h : outbox.pop = (.pending, later)) :
    outbox.items = [] := by
  unfold Outbox.pop at h
  split at h
  · cases h
  · split at h
    · assumption
    · cases h

/-- A writer chooses to write a keepalive when nobody has cancelled it, its client is there, no
event waits, and its timer has run out. -/
theorem silent_of_choose {keepalive : Option Timer} {desk later : Desk}
    (h : choose keepalive desk = (.write .keepalive, later)) :
    desk.session.cancelled = false ∧ desk.client.gone = false ∧ desk.session.outbox.items = [] ∧
      ∃ timer ∈ keepalive, timer.due ≤ desk.clock.now := by
  unfold choose at h
  split at h
  · cases h
  · next hcancelled =>
    split at h
    · cases h
    · next hgone =>
      rw [Bool.not_eq_true] at hcancelled hgone
      cases hpop : desk.session.outbox.pop with
      | mk popped outbox =>
        rw [hpop] at h
        cases popped with
        | released | event => cases h
        | pending =>
          refine ⟨hcancelled, hgone, items_of_pending hpop, ?_⟩
          cases keepalive with
          | none => cases h
          | some timer =>
            simp only at h
            split at h
            · next hdue => exact ⟨timer, rfl, of_decide_eq_true hdue⟩
            · cases h

/-- A writer that serves before its timer has run out writes events only. -/
theorem keepalive_notMem_begunServing {policy : StreamPolicy} (hpolicy : policy.Usable)
    (steps : Nat) {keepalive : Option Timer} {desk : Desk}
    (h : ∀ timer ∈ keepalive, timer.isDue desk.clock.now = false) :
    .keepalive ∉ begunServing policy steps keepalive desk := by
  induction steps generalizing keepalive desk with
  | zero => exact List.not_mem_nil
  | succ steps ih =>
    cases choice keepalive desk with
    | stop reason hchoose =>
      rw [begunServing, hchoose]
      exact List.not_mem_nil
    | wait hchoose _ =>
      rw [begunServing, hchoose]
      exact List.not_mem_nil
    | write frame chosen hchoose _ hclock _ _ hkeepalive =>
      have hevent : .keepalive ≠ frame := by
        rintro rfl
        obtain ⟨timer, hmem, hdue⟩ := hkeepalive rfl
        rw [h timer hmem] at hdue
        cases hdue
      have htried := tried_beginWrite policy frame chosen
      generalize hresult : beginWrite policy frame chosen = result at htried
      simp only [begunServing, hchoose, hresult]
      cases htried with
      | halted => simpa using hevent
      | written later =>
        rw [List.mem_cons, not_or]
        exact ⟨hevent, ih (now_armKeepalive policy later ▸ isDue_armKeepalive hpolicy later)⟩

/-- No keepalive is written at the instant at which its timer is set. -/
theorem keepalive_notMem_begunArmed {policy : StreamPolicy} (hpolicy : policy.Usable)
    (desk : Desk) : .keepalive ∉ begunArmed policy desk :=
  keepalive_notMem_begunServing hpolicy _
    (now_armKeepalive policy desk ▸ isDue_armKeepalive hpolicy desk)

/-- Where a keepalive is begun it is chosen first, and only events follow. -/
theorem begunServing_of_keepalive_mem {policy : StreamPolicy} (hpolicy : policy.Usable)
    {steps : Nat} {keepalive : Option Timer} {desk : Desk}
    (h : .keepalive ∈ begunServing policy steps keepalive desk) :
    ∃ later events, choose keepalive desk = (.write .keepalive, later) ∧
      begunServing policy steps keepalive desk = .keepalive :: events ∧ .keepalive ∉ events := by
  cases steps with
  | zero => cases h
  | succ steps =>
    rw [begunServing] at h ⊢
    split at h
    · next frame chosen hchoose =>
      simp only [hchoose] at h ⊢
      split at h
      · next later _ =>
        have hevents := keepalive_notMem_begunServing hpolicy steps
          (now_armKeepalive policy later ▸ isDue_armKeepalive hpolicy later)
        obtain rfl := (List.mem_cons.mp h).resolve_right hevents
        exact ⟨chosen, _, rfl, rfl, hevents⟩
      · obtain rfl := List.mem_singleton.mp h
        exact ⟨chosen, [], rfl, rfl, List.not_mem_nil⟩
    · cases h

/-- A run in which a keepalive is begun finds the writer waiting. -/
theorem begun_of_keepalive_mem {policy : StreamPolicy} (hpolicy : policy.Usable) {phase : Phase}
    {desk : Desk} (h : .keepalive ∈ begun policy phase desk) :
    ∃ keepalive later events, phase = .waiting keepalive ∧
      choose keepalive desk = (.write .keepalive, later) ∧
      begun policy phase desk = .keepalive :: events ∧ .keepalive ∉ events := by
  cases phase with
  | ended => cases h
  | spawned =>
    rw [begun] at h
    split at h
    · cases h
    · exact absurd h (keepalive_notMem_begunArmed hpolicy desk)
  | waiting keepalive =>
    obtain ⟨later, events, hchosen⟩ := begunServing_of_keepalive_mem hpolicy h
    exact ⟨keepalive, later, events, rfl, hchosen⟩
  | writing write =>
    rw [begun] at h
    split at h
    · cases h
    · split at h
      · next later _ => exact absurd h (keepalive_notMem_begunArmed hpolicy later)
      · cases h

end Writer

/-! ## One period after the last beat -/

/-- The next keepalive is set for one period after the last beat. -/
def Client.NextBeat (period start : Nat) (client : Client) (keepalive : Option Timer) : Prop :=
  ∃ timer, keepalive = some timer ∧ timer.due = client.lastBeat start + period

/-- A writer in this phase has started at the given times: not yet before its first run, and once
after it. If it waits, its next keepalive is set, for a period that clocks can reach. -/
def Phase.Beats (period : Duration) (starts : List Nat) (client : Client) : Phase → Prop
  | .spawned => starts = [] ∧ client.accepted = []
  | .waiting keepalive => Clock.overflows period = false ∧
      ∃ start, starts = [start] ∧ client.NextBeat period.millis start keepalive
  | .writing _ => Clock.overflows period = false ∧ ∃ start, starts = [start]
  | .ended => True

/-- A beat is a matter of the frames that the client has accepted. -/
theorem Phase.Beats.congr {period : Duration} {starts : List Nat} {client later : Client}
    {phase : Phase} (h : phase.Beats period starts client)
    (haccepted : later.accepted = client.accepted) : phase.Beats period starts later := by
  cases phase with
  | spawned => exact ⟨h.1, haccepted.trans h.2⟩
  | writing | ended => exact h
  | waiting keepalive =>
    obtain ⟨hreach, start, hstart, timer, htimer, hdue⟩ := h
    refine ⟨hreach, start, hstart, timer, htimer, ?_⟩
    rw [hdue, Client.lastBeat, Client.lastBeat, haccepted]

namespace Writer

/-- A writer that has started at the given time serves, with its next keepalive set. -/
structure Beating (period start : Nat) (keepalive : Option Timer) (desk : Desk) : Prop where
  started : start ≤ desk.clock.now
  next : desk.client.NextBeat period start keepalive

/-- What a run leaves behind, of a writer that has started at the given time. -/
def LeavesBeating (period : Duration) (start : Nat) (result : Run × Desk) : Prop :=
  ∀ phase, result.1 = .suspended phase → phase.Beats period [start] result.2.client

section Beating

variable {policy : StreamPolicy} {period : Duration} {start : Nat}

/-- The timer that is set on a beat is the right one. -/
theorem beating_armKeepalive (hperiod : policy.keepaliveInterval = some period)
    (hwhole : period.IsWhole) (hreach : Clock.overflows period = false) {desk : Desk}
    (hstarted : start ≤ desk.clock.now) (hbeat : desk.client.lastBeat start = desk.clock.now) :
    Beating period.millis start (armKeepalive policy desk).1 (armKeepalive policy desk).2 where
  started := (now_armKeepalive policy desk).symm ▸ hstarted
  next := by
    rw [client_armKeepalive, Client.NextBeat, hbeat]
    simp only [armKeepalive, hperiod]
    exact ⟨_, rfl, desk.clock.due_set_eq hwhole hreach⟩

/-- A write that has just succeeded is a beat. -/
theorem Tried.beating (hperiod : policy.keepaliveInterval = some period) (hwhole : period.IsWhole)
    (hreach : Clock.overflows period = false) {frame : Frame} {desk written : Desk}
    (h : Tried frame desk (.written, written)) (hstarted : start ≤ desk.clock.now) :
    Beating period.millis start (armKeepalive policy written).1
      (armKeepalive policy written).2 := by
  cases h with
  | written later haccepted hclock =>
    refine beating_armKeepalive hperiod hwhole hreach (hclock ▸ hstarted) ?_
    rw [hclock]
    exact Client.lastBeat_of_accepted haccepted hstarted

/-- A run that stops at a write keeps the beat. -/
theorem Tried.leavesBeating (hreach : Clock.overflows period = false) {frame : Frame}
    {desk last : Desk} {stopped : Run} (h : Tried frame desk (.halted stopped, last)) :
    LeavesBeating period start (stopped, last) := by
  cases h with
  | halted stopped last haccepted hphase =>
    intro phase hstopped
    have hframe := hphase phase hstopped
    cases phase with
    | writing write => exact ⟨hreach, start, rfl⟩
    | _ => cases hframe

/-- A writer that serves keeps its beat. -/
theorem leavesBeating_serve (hperiod : policy.keepaliveInterval = some period)
    (hwhole : period.IsWhole) (hreach : Clock.overflows period = false) (steps : Nat)
    (keepalive : Option Timer) (desk : Desk) (h : Beating period.millis start keepalive desk) :
    LeavesBeating period start (serve policy steps keepalive desk) := by
  refine serve_induction ?waits ?stops ?halts ?writes steps h
  case waits =>
    rintro keepalive desk hbeating phase hphase
    obtain rfl := Run.suspended.inj hphase
    exact ⟨hreach, start, rfl, hbeating.next⟩
  case stops =>
    rintro keepalive desk reason - - phase hphase
    cases hphase
  case halts =>
    rintro keepalive desk frame chosen stopped last - - hhalted
    exact (hhalted ▸ tried_beginWrite policy frame chosen).leavesBeating hreach
  case writes =>
    rintro keepalive desk frame chosen written hbeating hchoose hwritten
    have hclock : chosen.clock = desk.clock := by
      have huntouched := (untouched_choose keepalive desk).1
      rwa [hchoose] at huntouched
    exact (hwritten ▸ tried_beginWrite policy frame chosen).beating hperiod hwhole hreach
      (hclock ▸ hbeating.started)

/-- A writer that starts does so on a beat, and one that has started keeps it. -/
theorem leavesBeating_run (hperiod : policy.keepaliveInterval = some period)
    (hwhole : period.IsWhole) (hreach : Clock.overflows period = false) {phase : Phase}
    {desk : Desk} (hstarted : start ≤ desk.clock.now)
    (hspawned : phase = .spawned → desk.client.lastBeat start = desk.clock.now)
    (hwaiting : ∀ keepalive, phase = .waiting keepalive →
      desk.client.NextBeat period.millis start keepalive) :
    LeavesBeating period start (run policy phase desk) := by
  refine run_induction (leavesBeating_serve hperiod hwhole hreach) ?ended ?panics ?spawned ?waiting
    ?cancelled ?halts ?writes
  case ended =>
    rintro - phase hphase
    obtain rfl := Run.suspended.inj hphase
    trivial
  case panics =>
    rintro - - phase hphase
    cases hphase
  case spawned => exact fun hfirst =>
    beating_armKeepalive hperiod hwhole hreach hstarted (hspawned hfirst)
  case waiting => exact fun keepalive hphase => ⟨hstarted, hwaiting keepalive hphase⟩
  case cancelled =>
    rintro write - - phase hphase
    cases hphase
  case halts =>
    rintro write stopped last - hhalted
    exact (hhalted ▸ tried_resumeWrite policy write desk).leavesBeating hreach
  case writes =>
    rintro write written - hwritten
    exact (hwritten ▸ tried_resumeWrite policy write desk).beating hperiod hwhole hreach hstarted

/-- The phase that a run leaves behind keeps the beat. -/
theorem LeavesBeating.beats {result : Run × Desk} (h : LeavesBeating period start result) :
    (Connection.phaseAfter result.1).Beats period [start] result.2.client := by
  obtain ⟨run, desk⟩ := result
  cases run with
  | suspended phase => exact h phase rfl
  | exited exit => trivial

/-- A run keeps the beat, and starts the writer if it is its first one. -/
theorem beats_run (hperiod : policy.keepaliveInterval = some period) (hwhole : period.IsWhole)
    {phase : Phase} {desk : Desk} {starts : List Nat} (h : phase.Beats period starts desk.client)
    (hpast : ∀ start ∈ starts, start ≤ desk.clock.now) :
    (Connection.phaseAfter (run policy phase desk).1).Beats period
      (starts ++ if phase = .spawned then [desk.clock.now] else [])
      (run policy phase desk).2.client := by
  cases phase with
  | ended => trivial
  | spawned =>
    obtain ⟨rfl, hnone⟩ := h
    rcases run_spawned policy desk with ⟨-, hpanicked⟩ | ⟨hreach, -⟩
    · rw [hpanicked]
      trivial
    · rw [hperiod, Option.any_some] at hreach
      refine (leavesBeating_run hperiod hwhole hreach (Nat.le_refl _) (fun _ => ?_)
        fun keepalive hphase => by (cases hphase)).beats
      rw [Client.lastBeat, hnone]
      rfl
  | waiting keepalive =>
    obtain ⟨hreach, start, rfl, hnext⟩ := h
    refine (leavesBeating_run hperiod hwhole hreach (hpast start (List.mem_singleton_self _))
      (fun hfirst => by (cases hfirst)) fun later hphase => ?_).beats
    obtain rfl := Phase.waiting.inj hphase
    exact hnext
  | writing write =>
    obtain ⟨hreach, start, rfl⟩ := h
    exact (leavesBeating_run hperiod hwhole hreach (hpast start (List.mem_singleton_self _))
      (fun hfirst => by (cases hfirst)) fun keepalive hphase => by (cases hphase)).beats

end Beating

end Writer

namespace Connection

/-- The writer of the connection keeps its beat, having started at the given times. -/
def Beats (period : Duration) (starts : List Nat) (connection : Connection) : Prop :=
  ∀ service, connection.service = some service → service.phase.Beats period starts service.client

/-- A writer that is left at its work keeps its beat. -/
theorem Beats.sameWork {period : Duration} {starts : List Nat} {before after : Connection}
    (h : before.Beats period starts)
    (hsame : Option.Rel Service.SameWork before.service after.service) :
    after.Beats period starts := by
  intro service hservice
  obtain ⟨earlier, hearlier, hwork⟩ := exists_sameWork (hservice ▸ hsame)
  rw [hwork.phase]
  exact (h earlier hearlier).congr hwork.accepted

/-- When a poll at the given time starts the writer. -/
def starts (connection : Connection) (now : Nat) : List Nat :=
  connection.service.elim [] fun service => if service.phase = .spawned then [now] else []

/-- A poll starts the writer at the present time, if it does. -/
theorem eq_of_mem_starts {connection : Connection} {start now : Nat}
    (h : start ∈ connection.starts now) : start = now := by
  unfold starts at h
  cases hservice : connection.service with
  | none => simp [hservice] at h
  | some service =>
    rw [hservice, Option.elim_some] at h
    split at h
    · exact List.mem_singleton.mp h
    · cases h

/-- A run of the writer keeps the beat. -/
theorem Beats.written {policy : StreamPolicy} {period : Duration}
    (hperiod : policy.keepaliveInterval = some period) (hwhole : period.IsWhole)
    {connection : Connection} {starts : List Nat} {now : Nat} (h : connection.Beats period starts)
    (hpast : ∀ start ∈ starts, start ≤ now) :
    (connection.written policy now).Beats period (starts ++ connection.starts now) := by
  intro last hlast
  cases hservice : connection.service with
  | none => simp [Connection.written, hservice] at hlast
  | some service =>
    rw [service_written hservice] at hlast
    rw [← Option.some.inj hlast, Connection.starts, hservice]
    have hbeats : service.phase.Beats period starts (connection.desk service.client now).client :=
      h service hservice
    exact Writer.beats_run hperiod hwhole hbeats hpast

end Connection

namespace Hub

/-- When an operation starts the writer of session `n`. -/
def starts (n : Nat) (hub : Hub) : Operation → List Nat
  | .pollWriter target =>
    if target = n then (hub.connections[n]?).elim [] (·.starts hub.now) else []
  | _ => []

/-- Only a poll of the writer starts it. -/
theorem starts_of_ne {hub : Hub} {n : Nat} {operation : Operation}
    (h : operation ≠ .pollWriter n) : starts n hub operation = [] := by
  cases operation with
  | pollWriter target => exact if_neg fun heq : target = n => h (by rw [heq])
  | _ => rfl

/-- A poll starts the writer of the connection that it finds. -/
theorem starts_of_connection {hub : Hub} {n : Nat} {connection : Connection}
    (h : hub.connections[n]? = some connection) :
    starts n hub (.pollWriter n) = connection.starts hub.now := by
  rw [starts, if_pos rfl, h, Option.elim_some]

/-- There is nothing to start under a number that was never given out. -/
theorem starts_of_none {hub : Hub} {n : Nat} (h : hub.connections[n]? = none)
    (operation : Operation) : starts n hub operation = [] := by
  by_cases hpoll : operation = .pollWriter n
  · rw [hpoll, starts, if_pos rfl, h, Option.elim_none]
  · exact starts_of_ne hpoll

/-- A writer starts at the present time. -/
theorem eq_now_of_mem_starts {hub : Hub} {n : Nat} {operation : Operation} {start : Nat}
    (h : start ∈ starts n hub operation) : start = hub.now := by
  cases hconnection : hub.connections[n]? with
  | none =>
    rw [starts_of_none hconnection] at h
    cases h
  | some connection =>
    by_cases hpoll : operation = .pollWriter n
    · rw [hpoll, starts_of_connection hconnection] at h
      exact Connection.eq_of_mem_starts h
    · rw [starts_of_ne hpoll] at h
      cases h

/-- No writer has started in the future. -/
theorem le_now_of_mem_starts {hub : Hub} {n : Nat} {operations : List Operation} {start : Nat}
    (h : start ∈ history (starts n) hub operations) : start ≤ (hub.run operations).now := by
  induction operations using List.reverseRecOn with
  | nil => cases h
  | append_singleton operations operation ih =>
    rw [history_append] at h
    rw [run_append]
    refine Nat.le_trans ?_ (now_le_step _ operation)
    rcases List.mem_append.mp h with hbefore | hlast
    · exact ih hbefore
    · simp only [history, List.append_nil] at hlast
      exact Nat.le_of_eq (eq_now_of_mem_starts hlast)

/-- Each step keeps the beat, and starts the writer if it is the first poll of it. -/
theorem beats_step {hub : Hub} {period : Duration}
    (hperiod : hub.policy.keepaliveInterval = some period) (hwhole : period.IsWhole) {n : Nat}
    {before later : Connection} {times : List Nat} {operation : Operation}
    (hbefore : hub.connections[n]? = some before)
    (hlater : (hub.step operation).connections[n]? = some later)
    (hpast : ∀ start ∈ times, start ≤ hub.now) (h : before.Beats period times) :
    later.Beats period (times ++ starts n hub operation) := by
  by_cases hpoll : operation = .pollWriter n
  · subst hpoll
    have hpolled : (hub.pollWriter n).connections[n]? =
        some (before.polledWriter hub.policy hub.now) := by
      simp [connections_pollWriter, hbefore]
    obtain rfl := Option.some.inj (hpolled.symm.trans hlater)
    rw [starts_of_connection hbefore]
    exact (h.written hperiod hwhole hpast).sameWork
      (before.undisturbed_polledWriter hub.policy hub.now).service
  · rw [starts_of_ne hpoll, List.append_nil]
    exact h.sameWork (sameWork_step hbefore hlater hpoll)

/-- In every run all writers keep their beat. -/
theorem beats_run {policy : StreamPolicy} {period : Duration}
    (hperiod : policy.clamped.keepaliveInterval = some period) (hwhole : period.IsWhole)
    {operations : List Operation} {n : Nat} {connection : Connection}
    (h : ((Hub.new policy).run operations).connections[n]? = some connection) :
    connection.Beats period (history (starts n) (Hub.new policy) operations) := by
  refine history_run (P := fun starts connection => connection.Beats period starts)
    (fun hub operation hnone => starts_of_none (none_of_step hnone) operation)
    (fun earlier operation later _ hn harrives => ?_)
    (fun earlier operation before _ hfound hbeats => ?_) h
  · rw [starts_of_none (List.getElem?_eq_none_iff.mpr (Nat.le_of_eq hn.symm))]
    intro service hservice
    cases harrives with
    | joined | created => cases hservice
    | accepted topic id transport initial _ =>
      obtain rfl := Option.some.inj hservice
      cases transport <;> exact ⟨rfl, rfl⟩
  · exact beats_step ((policy_run _ earlier).symm ▸ hperiod) hwhole hfound
      (connections_step hfound operation) (fun _ => le_now_of_mem_starts) hbeats

/-- A poll of the writer of session `n` hands the given frames over to its client, in their order
and at the present time, until one is not accepted. That is the last one; the writer has it at hand
then, unless it has ended. -/
def HandsOver (hub : Hub) (n : Nat) (client : Client) (frames : List Frame) : Prop :=
  ∃ taken rest last, frames = taken ++ rest ∧ rest.length ≤ 1 ∧
    (hub.pollWriter n).service? n = some last ∧
    last.client.accepted = (taken.map (hub.now, ·)).reverse ++ client.accepted ∧
    (last.phase ≠ .ended → last.phase.atHand = rest)

/-- A poll of the writer hands over the frame at hand and those that its run begins to write. -/
theorem handsOver_pollWriter {hub : Hub} {n : Nat} {connection : Connection} {service : Service}
    (hconnection : hub.connections[n]? = some connection)
    (hservice : connection.service = some service) :
    hub.HandsOver n service.client (service.phase.atHand ++
      Writer.begun hub.policy service.phase (connection.desk service.client hub.now)) := by
  obtain ⟨taken, rest, hframes, hrest, haccepted, hphase⟩ :=
    Writer.handsOver_run hub.policy service.phase (connection.desk service.client hub.now)
  refine ⟨taken, rest, _, hframes, hrest, service?_pollWriter hconnection hservice, haccepted,
    fun hlives => ?_⟩
  generalize Writer.run hub.policy service.phase (connection.desk service.client hub.now) = result
    at hphase hlives ⊢
  obtain ⟨run, desk⟩ := result
  cases run with
  | suspended phase => exact hphase phase rfl
  | exited exit => exact absurd rfl hlives

/-- A writer that waits has started once, and has set a timer for one period after its last beat. -/
theorem nextBeat_of_waiting {policy : StreamPolicy} {period : Duration}
    (hperiod : policy.clamped.keepaliveInterval = some period) (hwhole : period.IsWhole)
    {operations : List Operation} {n : Nat} {connection : Connection} {service : Service}
    (hconnection : ((Hub.new policy).run operations).connections[n]? = some connection)
    (hservice : connection.service = some service) {keepalive : Option Timer}
    (hphase : service.phase = .waiting keepalive) :
    ∃ start, history (starts n) (Hub.new policy) operations = [start] ∧
      service.client.NextBeat period.millis start keepalive := by
  have hbeats := beats_run hperiod hwhole hconnection service hservice
  rw [hphase] at hbeats
  exact hbeats.2

/-- Keepalives fill silence, and nothing else. A poll of a writer hands over the frame that was at
hand, and then those that it begins to write. In every run a keepalive is begun only as the first
frame of a poll, by a writer that has started once, whose session nobody has claimed, whose client is
there and whose outbox is empty, when one keepalive period has passed since its last beat, and just
then if the run is punctual. And when all tasks have settled, a writer with no write at hand has had a
beat less than one period ago. -/
theorem keepalives_fill_silence {policy : StreamPolicy} {period : Duration}
    (hperiod : policy.clamped.keepaliveInterval = some period) (hwhole : period.IsWhole)
    (operations : List Operation) (n : Nat) (connection : Connection) (service : Service)
    (hconnection : ((Hub.new policy).run operations).connections[n]? = some connection)
    (hservice : connection.service = some service) :
    let hub := (Hub.new policy).run operations
    let started := history (starts n) (Hub.new policy) operations
    let begun := Writer.begun hub.policy service.phase (connection.desk service.client hub.now)
    hub.HandsOver n service.client (service.phase.atHand ++ begun) ∧
      (.keepalive ∈ begun →
        (∃ events, begun = .keepalive :: events ∧ .keepalive ∉ events) ∧
          service.phase.atHand = [] ∧ connection.session.isClaimed = false ∧
          service.client.gone = false ∧ connection.session.outbox.items = [] ∧
          ∃ start, started = [start] ∧
            let due := service.client.lastBeat start + period.millis
            due ≤ hub.now ∧ ((Hub.new policy).Punctual operations → hub.now = due)) ∧
      (hub.Settled → service.phase ≠ .ended → service.phase.atHand = [] →
        ∃ start, started = [start] ∧
          hub.now < service.client.lastBeat start + period.millis) := by
  intro hub started begun
  have hmem : connection ∈ hub.connections := List.mem_of_getElem? hconnection
  refine ⟨handsOver_pollWriter hconnection hservice, fun hkeepalive => ?_,
    fun hsettled hlives hidle => ?_⟩
  · obtain ⟨keepalive, later, events, hphase, hchoose, hbegun, hevents⟩ :=
      Writer.begun_of_keepalive_mem (usable_run policy operations) hkeepalive
    obtain ⟨hcancelled, hpresent, hempty, timer, hset, hdue⟩ := Writer.silent_of_choose hchoose
    obtain ⟨start, hstarted, _, htimer, hnext⟩ :=
      nextBeat_of_waiting hperiod hwhole hconnection hservice hphase
    obtain rfl : timer = _ := Option.some.inj (hset.symm.trans htimer)
    have hfree := (tended_run policy operations connection hmem).cancelled.symm.trans hcancelled
    have hnone : service.phase.atHand = [] := by simp [hphase, Phase.atHand, Phase.write?]
    refine ⟨⟨events, hbegun, hevents⟩, hnone, hfree, hpresent, hempty, start, hstarted,
      hnext ▸ hdue, fun hpunctual => ?_⟩
    have hwaits : timer ∈ connection.timers := List.mem_append_right _
      (by simp [Connection.writerTimers, hservice, hphase, Writer.timers, htimer])
    rw [← hnext]
    exact Nat.le_antisymm ((onTime_run policy hpunctual connection hmem).timers timer hwaits) hdue
  · have hrest := (settled_iff (usable_run policy operations)).mp hsettled connection hmem
    have hrests := hrest.writer service hservice
    cases hphase : service.phase with
    | ended => exact absurd hphase hlives
    | spawned => exact absurd hphase (hrest.not_spawned.2 service hservice)
    | writing write => simp [hphase, Phase.atHand, Phase.write?] at hidle
    | waiting keepalive =>
      obtain ⟨start, hstarted, timer, htimer, hnext⟩ :=
        nextBeat_of_waiting hperiod hwhole hconnection hservice hphase
      rw [hphase] at hrests
      have hlater := Timer.isDue_eq_false_iff.mp
        (hrests.notDue timer (by simp [Writer.timers, htimer]))
      exact ⟨start, hstarted, hnext ▸ hlater⟩

/-- A client that takes two milliseconds for each frame, with keepalives every three. The first
value is accepted two milliseconds after the start, and the next keepalive is begun three later. -/
theorem keepalives_fill_silence_after_slow_write :
    let policy : StreamPolicy :=
      { StreamPolicy.default with
        idleTimeout := .ofMillis 10, detectionInterval := .ofMillis 10
        keepaliveInterval := some (.ofMillis 3) }
    let operations : List Operation :=
      [.connect (.random 0) ⟨0⟩ (.scripted fun _ => ⟨2, .accept⟩) (some 1), .pollWatch 0,
        .pollWriter 0, .pass 2, .pollWriter 0, .pass 3]
    let hub := (Hub.new policy).run operations
    hub.now = 5 ∧ ∃ connection service, hub.connections[0]? = some connection ∧
      connection.service = some service ∧ connection.session.isClaimed = false ∧
      connection.session.outbox.items = [] ∧ service.client.lastBeat 0 = 2 ∧
      ∃ start, history (starts 0) (Hub.new policy) operations = [start] ∧
        hub.now = service.client.lastBeat start + 3 := by
  intro policy operations hub
  have hperiod : policy.clamped.keepaliveInterval = some (.ofMillis 3) := by decide +kernel
  have hpunctual : (Hub.new policy).Punctual operations := by decide +kernel
  obtain ⟨connection, hconnection⟩ := Option.isSome_iff_exists.mp
    (show (hub.connections[0]?).isSome = true by decide +kernel)
  have hserved : (hub.connections[0]?).bind (fun connection => connection.service.map fun service =>
      (service.client.lastBeat 0,
        Writer.begun hub.policy service.phase (connection.desk service.client hub.now))) =
      some (2, [.keepalive]) := by decide +kernel
  rw [hconnection, Option.bind_some] at hserved
  obtain ⟨service, hservice, hfound⟩ := Option.map_eq_some_iff.mp hserved
  obtain ⟨hbeat, hbegun⟩ := Prod.mk.inj hfound
  obtain ⟨-, hkeepalive, -⟩ := keepalives_fill_silence hperiod (Duration.isWhole_ofMillis 3)
    operations 0 connection service hconnection hservice
  obtain ⟨-, -, hfree, -, hempty, start, hstarted, -, hdue⟩ :=
    hkeepalive (by rw [hbegun]; exact List.mem_singleton_self _)
  exact ⟨by decide +kernel, connection, service, hconnection, hservice, hfree, hempty, hbeat, start,
    hstarted, hdue hpunctual⟩

end Hub

end LiveCounter
