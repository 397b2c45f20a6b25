import LiveCounter.Proofs.Course

/-!
# What a writer hands to its client

An event leaves the outbox when a writer takes it, and reaches the client when a write succeeds. In
between it is in flight, and only one is at a time. So what the client has accepted, what is in
flight and what the outbox holds are together the same before and after a run of the writer,
keepalives apart, unless the run is the last one; then the frame in flight may be lost.
-/

namespace LiveCounter

/-- A frame, unless it is a keepalive. -/
def Frame.unlessKeepalive : Frame → List Frame
  | .event value => [.event value]
  | .keepalive => []

/-- The frame of an event is no keepalive. -/
@[simp] theorem Frame.unlessKeepalive_ofEvent (event : CounterEvent) :
    (Frame.ofEvent event).unlessKeepalive = [Frame.ofEvent event] := rfl

namespace Client

/-- The frames that a client has accepted, in order. -/
def frames (client : Client) : List Frame := client.accepted.reverse.map (·.2)

/-- The frames of events that a client has accepted, in order. -/
def eventFrames (client : Client) : List Frame := client.frames.flatMap Frame.unlessKeepalive

/-- A client that accepts a frame has it behind the others. -/
theorem frames_accept (client : Client) (now : Nat) (frame : Frame) :
    (client.accept now frame).frames = client.frames ++ [frame] := by
  simp [frames, accept]

/-- A step of a write adds the frame to what the client has accepted, with the present time, if it
has been accepted. -/
def Records (client : Client) (now : Nat) (frame : Frame) (result : WriteStep × Client) : Prop :=
  result.2.accepted = if result.1 = .accepted then (now, frame) :: client.accepted else client.accepted

/-- A scripted client records a frame exactly if it accepts it in the end. -/
theorem records_conclude (client : Client) (now : Nat) (frame : Frame) (reception : Reception) :
    client.Records now frame (client.conclude now frame reception) := by
  cases reception <;> rfl

/-- A buffered client records a frame exactly if it has room for it. -/
theorem records_fill (client : Client) (now : Nat) (frame : Frame) (capacity : Nat)
    (unread : List Frame) : client.Records now frame (client.fill now frame capacity unread) := by
  unfold fill
  split
  · rfl
  · split <;> rfl

/-- A client records a frame exactly if it accepts it at once. -/
theorem records_beginWrite (client : Client) (now : Nat) (frame : Frame) :
    client.Records now frame (client.beginWrite now frame) := by
  unfold beginWrite
  split
  · next script attempts _ =>
    simp only
    split
    · exact records_conclude { client with peer := .scripted script (attempts + 1) } now frame _
    · rfl
  · exact records_fill client now frame _ _

/-- A client records a frame exactly if it accepts it after its delay. -/
theorem records_endDelay (client : Client) (now : Nat) (frame : Frame) :
    client.Records now frame (client.endDelay now frame) := by
  unfold endDelay
  split
  · exact records_conclude client now frame _
  · exact records_fill client now frame _ _

/-- A client records a frame exactly if it accepts it when it is asked again. -/
theorem records_retry (client : Client) (now : Nat) (frame : Frame) :
    client.Records now frame (client.retry now frame) := by
  unfold retry
  split
  · rfl
  · exact records_fill client now frame _ _

/-- A step of a write adds the frame to what the client has accepted, if it has been accepted. -/
def Takes (client : Client) (frame : Frame) (result : WriteStep × Client) : Prop :=
  result.2.frames = client.frames ++ if result.1 = .accepted then [frame] else []

/-- What is recorded has been taken. -/
theorem Records.takes {client : Client} {now : Nat} {frame : Frame} {result : WriteStep × Client}
    (h : client.Records now frame result) : client.Takes frame result := by
  unfold Takes frames
  rw [h]
  split <;> simp

/-- Of the events a client has those before, and the frame if it has accepted an event. -/
theorem Takes.eventFrames {client : Client} {frame : Frame} {result : WriteStep × Client}
    (h : client.Takes frame result) :
    result.2.eventFrames =
      client.eventFrames ++ if result.1 = .accepted then frame.unlessKeepalive else [] := by
  rw [Client.eventFrames, h, List.flatMap_append]
  split <;> simp [Client.eventFrames]

end Client

/-- The frame of the event that a writer is writing. -/
def Phase.inFlight : Phase → List Frame
  | .writing write => write.frame.unlessKeepalive
  | _ => []

/-- At most one frame is in flight. -/
theorem Phase.length_inFlight_le_one (phase : Phase) : phase.inFlight.length ≤ 1 := by
  cases phase with
  | writing write =>
    simp only [inFlight]
    cases write.frame <;> simp [Frame.unlessKeepalive]
  | _ => exact Nat.zero_le _

namespace Writer

/-- The frames of the events that wait in the outbox. -/
def pending (desk : Desk) : List Frame := desk.session.outbox.items.map .ofEvent

/-- A run leaves all that was to be conveyed with the client, in flight or in the outbox, or it is
the last one and the client has got a part of it from the front. -/
def Conveys (conveyed : List Frame) (result : Run × Desk) : Prop :=
  match result.1 with
  | .suspended phase =>
    phase ≠ .ended ∧ conveyed = result.2.client.eventFrames ++ phase.inFlight ++ pending result.2
  | .exited _ => result.2.client.eventFrames <+: conveyed

/-- Setting the keepalive timer does not touch the client. -/
theorem client_armKeepalive (policy : StreamPolicy) (desk : Desk) :
    (armKeepalive policy desk).2.client = desk.client := by
  unfold armKeepalive
  split <;> rfl

/-- Setting the keepalive timer leaves what is to be written as it is. -/
theorem pending_armKeepalive (policy : StreamPolicy) (desk : Desk) :
    pending (armKeepalive policy desk).2 = pending desk := by
  rw [pending, session_armKeepalive, pending]

/-- A writer has nothing to do until time passes or somebody else does something. -/
structure Idle (keepalive : Option Timer) (desk : Desk) : Prop where
  cancelled : desk.session.cancelled = false
  gone : desk.client.gone = false
  released : desk.session.outbox.released = false
  items : desk.session.outbox.items = []
  notDue : ∀ timer ∈ keepalive, timer.isDue desk.clock.now = false

/-- An idle writer chooses to wait, and nothing changes. -/
theorem Idle.choose_eq {keepalive : Option Timer} {desk : Desk} (h : Idle keepalive desk) :
    choose keepalive desk = (.wait, desk) := by
  cases keepalive with
  | none => simp [choose, h.cancelled, h.gone, Outbox.pop, h.released, h.items]
  | some timer =>
    simp [choose, h.cancelled, h.gone, Outbox.pop, h.released, h.items, h.notDue timer rfl]

/-- The three choices of a writer. -/
inductive Choice (keepalive : Option Timer) (desk : Desk) : Prop
  | stop (reason : CloseReason) (h : choose keepalive desk = (.stop reason, desk))
  | wait (h : choose keepalive desk = (.wait, desk)) (hidle : Idle keepalive desk)
  | write (frame : Frame) (later : Desk) (h : choose keepalive desk = (.write frame, later))
      (hclient : later.client = desk.client) (hclock : later.clock = desk.clock)
      (hcancelled : later.session.cancelled = false)
      (hpending : pending desk = frame.unlessKeepalive ++ pending later)
      (hkeepalive : frame = .keepalive → ∃ timer ∈ keepalive, timer.isDue desk.clock.now = true)

/-- A writer chooses in one of these ways. -/
theorem choice (keepalive : Option Timer) (desk : Desk) : Choice keepalive desk := by
  cases hcancelled : desk.session.cancelled with
  | true => exact .stop desk.session.statedReason (by simp [choose, hcancelled])
  | false =>
    cases hgone : desk.client.gone with
    | true => exact .stop .clientClosed (by simp [choose, hcancelled, hgone])
    | false =>
      cases hreleased : desk.session.outbox.released with
      | true =>
        exact .stop desk.session.statedReason
          (by simp [choose, hcancelled, hgone, Outbox.pop, hreleased])
      | false =>
        cases hitems : desk.session.outbox.items with
        | cons event rest =>
          refine .write (.ofEvent event)
            { desk with session := { desk.session with
                outbox := { desk.session.outbox with items := rest } } }
            (by simp [choose, hcancelled, hgone, Outbox.pop, hreleased, hitems]) rfl rfl hcancelled
            ?_ ?_
          · simp [pending, hitems]
          · simp [Frame.ofEvent]
        | nil =>
          by_cases hdue : ∃ timer ∈ keepalive, timer.isDue desk.clock.now = true
          · obtain ⟨timer, hmem, htimer⟩ := hdue
            obtain rfl : keepalive = some timer := hmem
            exact .write .keepalive desk
              (by simp [choose, hcancelled, hgone, Outbox.pop, hreleased, hitems, htimer]) rfl rfl
              hcancelled rfl fun _ => ⟨timer, rfl, htimer⟩
          · have hidle : Idle keepalive desk := ⟨hcancelled, hgone, hreleased, hitems,
              fun timer hmem => by simpa using fun htimer => hdue ⟨timer, hmem, htimer⟩⟩
            exact .wait hidle.choose_eq hidle

/-- Choosing does not touch the client. -/
theorem client_choose (keepalive : Option Timer) (desk : Desk) :
    (choose keepalive desk).2.client = desk.client := by
  cases choice keepalive desk with
  | stop reason hchoose => rw [hchoose]
  | wait hchoose _ => rw [hchoose]
  | write frame later hchoose hclient => rw [hchoose, hclient]

/-- One attempt to write hands the frame over, or keeps it in flight, or loses it and ends the
run. -/
inductive Attempt (frame : Frame) (desk : Desk) (result : Progress × Desk) : Prop
  | written (h : result.1 = .written)
      (hframes : result.2.client.eventFrames = desk.client.eventFrames ++ frame.unlessKeepalive)
      (hpending : pending result.2 = pending desk)
  | waiting (write : Write) (h : result.1 = .halted (.suspended (.writing write)))
      (hwrite : write.frame = frame) (hframes : result.2.client.eventFrames = desk.client.eventFrames)
      (hpending : pending result.2 = pending desk)
  | failed (exit : WriterExit) (h : result.1 = .halted (.exited exit))
      (hframes : result.2.client.eventFrames = desk.client.eventFrames)

/-- The beginning of a write is an attempt to write its frame. -/
theorem attempt_beginWrite (policy : StreamPolicy) (frame : Frame) (desk : Desk) :
    Attempt frame desk (beginWrite policy frame desk) := by
  have htakes := (desk.client.records_beginWrite desk.clock.now frame).takes.eventFrames
  unfold beginWrite
  simp only
  split
  · next heq => exact .written rfl (by simpa [heq] using htakes) rfl
  · next fault heq => exact .failed _ rfl (by simpa [heq] using htakes)
  · next heq => exact .failed _ rfl (by simpa [heq] using htakes)
  · next millis heq => exact .waiting _ rfl rfl (by simpa [heq] using htakes) rfl
  · next heq => exact .waiting _ rfl rfl (by simpa [heq] using htakes) rfl

/-- What the client makes of a write that goes on. -/
def answer (write : Write) (desk : Desk) : WriteStep × Client :=
  match write.wait with
  | .delay _ =>
    if write.wait.isOver desk.clock.now then desk.client.endDelay desk.clock.now write.frame
    else (.stuck, desk.client)
  | .client => desk.client.retry desk.clock.now write.frame

/-- Whatever a write was waiting for, the client records its frame exactly if it accepts it. -/
theorem records_answer (write : Write) (desk : Desk) :
    desk.client.Records desk.clock.now write.frame (answer write desk) := by
  unfold answer
  split
  · split
    · exact desk.client.records_endDelay _ _
    · rfl
  · exact desk.client.records_retry _ _

/-- A write that goes on is what the client and the deadline make of it. -/
theorem resumeWrite_eq (policy : StreamPolicy) (write : Write) (desk : Desk) :
    resumeWrite policy write desk =
      let desk' := { desk with client := (answer write desk).2 }
      match (answer write desk).1 with
      | .accepted => (.written, { desk' with session := desk.session.noteWrite desk.clock.now })
      | .refused fault => (.halted (.exited (.failed fault)), desk')
      | .panicked => (.halted (.exited .panicked), desk')
      | .delayed _ | .stuck =>
        if write.deadline.isDue desk.clock.now then
          (.halted (.exited (.failed (.timeout policy.writeTimeout))), desk')
        else
          (.halted (.suspended (.writing { write with
            wait := if write.wait.isOver desk.clock.now then .client else write.wait })), desk') :=
  rfl

/-- Going on with a write is an attempt to write its frame. -/
theorem attempt_resumeWrite (policy : StreamPolicy) (write : Write) (desk : Desk) :
    Attempt write.frame desk (resumeWrite policy write desk) := by
  have htakes := (records_answer write desk).takes.eventFrames
  rw [resumeWrite_eq]
  generalize answer write desk = result at htakes ⊢
  obtain ⟨step, client⟩ := result
  have hunwritten (h : step ≠ .accepted) : client.eventFrames = desk.client.eventFrames := by
    simpa [h] using htakes
  cases step with
  | accepted => exact .written rfl (by simpa using htakes) rfl
  | refused fault => exact .failed _ rfl (hunwritten (by simp))
  | panicked => exact .failed _ rfl (hunwritten (by simp))
  | delayed | stuck =>
    simp only
    split
    · exact .failed _ rfl (hunwritten (by simp))
    · exact .waiting _ rfl rfl (hunwritten (by simp)) rfl

/-! ## The steps of serving -/

section Steps

variable (policy : StreamPolicy) (steps : Nat) {keepalive : Option Timer} {desk later : Desk}

/-- A writer that chooses to stop has ended. -/
theorem serve_stop {reason : CloseReason} (h : choose keepalive desk = (.stop reason, later)) :
    serve policy (steps + 1) keepalive desk = (.exited (.orderly reason), later) := by
  rw [serve, h]

/-- A writer that chooses to wait is suspended. -/
theorem serve_wait (h : choose keepalive desk = (.wait, later)) :
    serve policy (steps + 1) keepalive desk = (.suspended (.waiting keepalive), later) := by
  rw [serve, h]

/-- A writer whose write does not come to an end stops there. -/
theorem serve_halted {frame : Frame} {run : Run} {last : Desk}
    (h : choose keepalive desk = (.write frame, later))
    (h' : beginWrite policy frame later = (.halted run, last)) :
    serve policy (steps + 1) keepalive desk = (run, last) := by
  rw [serve, h]
  simp only [h']

/-- A writer goes on after each frame that it has written. -/
theorem serve_written {frame : Frame} {written : Desk}
    (h : choose keepalive desk = (.write frame, later))
    (h' : beginWrite policy frame later = (.written, written)) :
    serve policy (steps + 1) keepalive desk =
      serve policy steps (armKeepalive policy written).1 (armKeepalive policy written).2 := by
  rw [serve, h]
  simp only [h']

end Steps

/-- What holds when a writer begins to serve, and again after each frame that it has written, decides
how the serving ends. -/
theorem serve_induction {policy : StreamPolicy} {P : Option Timer → Desk → Prop}
    {Q : Run × Desk → Prop}
    (hwaits : ∀ keepalive desk, P keepalive desk → Q (.suspended (.waiting keepalive), desk))
    (hstops : ∀ keepalive desk reason, P keepalive desk →
      choose keepalive desk = (.stop reason, desk) → Q (.exited (.orderly reason), desk))
    (hhalts : ∀ keepalive desk frame chosen stopped last, P keepalive desk →
      choose keepalive desk = (.write frame, chosen) →
      beginWrite policy frame chosen = (.halted stopped, last) → Q (stopped, last))
    (hwrites : ∀ keepalive desk frame chosen written, P keepalive desk →
      choose keepalive desk = (.write frame, chosen) →
      beginWrite policy frame chosen = (.written, written) →
      P (armKeepalive policy written).1 (armKeepalive policy written).2)
    (steps : Nat) {keepalive : Option Timer} {desk : Desk} (h : P keepalive desk) :
    Q (serve policy steps keepalive desk) := by
  induction steps generalizing keepalive desk with
  | zero => exact hwaits keepalive desk h
  | succ steps ih =>
    cases choice keepalive desk with
    | stop reason hchoose =>
      rw [serve_stop policy steps hchoose]
      exact hstops keepalive desk reason h hchoose
    | wait hchoose _ =>
      rw [serve_wait policy steps hchoose]
      exact hwaits keepalive desk h
    | write frame chosen hchoose =>
      generalize hresult : beginWrite policy frame chosen = result
      obtain ⟨progress, later⟩ := result
      cases progress with
      | written =>
        rw [serve_written policy steps hchoose hresult]
        exact ih (hwrites keepalive desk frame chosen later h hchoose hresult)
      | halted stopped =>
        rw [serve_halted policy steps hchoose hresult]
        exact hhalts keepalive desk frame chosen stopped later h hchoose hresult

/-- A write that has ended well leaves the rest of what is to be written. -/
theorem Attempt.pending_eq {frame : Frame} {desk : Desk} {result : Progress × Desk}
    (h : Attempt frame desk result) (hwritten : result.1 = .written) :
    pending result.2 = pending desk := by
  cases h with
  | written _ _ hpending => exact hpending
  | waiting write _ _ _ hpending => exact hpending
  | failed exit hprogress =>
    rw [hprogress] at hwritten
    cases hwritten

/-- An attempt that succeeds leaves the outbox to be conveyed. -/
theorem Attempt.conveyed_eq {frame : Frame} {desk : Desk} {result : Progress × Desk}
    (h : Attempt frame desk result) (hwritten : result.1 = .written) {conveyed : List Frame}
    (hconveyed : conveyed = desk.client.eventFrames ++ frame.unlessKeepalive ++ pending desk) :
    conveyed = result.2.client.eventFrames ++ pending result.2 := by
  cases h with
  | written _ hframes hpending => rw [hconveyed, hframes, hpending]
  | waiting write hprogress =>
    rw [hprogress] at hwritten
    cases hwritten
  | failed exit hprogress =>
    rw [hprogress] at hwritten
    cases hwritten

/-- An attempt that ends a run loses nothing but what the client will never get. -/
theorem Attempt.conveys {frame : Frame} {desk : Desk} {result : Progress × Desk}
    (h : Attempt frame desk result) {stopped : Run} (hhalted : result.1 = .halted stopped)
    {conveyed : List Frame}
    (hconveyed : conveyed = desk.client.eventFrames ++ frame.unlessKeepalive ++ pending desk) :
    Conveys conveyed (stopped, result.2) := by
  cases h with
  | written hprogress =>
    rw [hprogress] at hhalted
    cases hhalted
  | waiting write hprogress hwrite hframes hpending =>
    obtain rfl := Progress.halted.inj (hprogress.symm.trans hhalted)
    refine ⟨by simp, ?_⟩
    rw [hframes, hpending, Phase.inFlight, hwrite, hconveyed]
  | failed exit hprogress hframes =>
    obtain rfl := Progress.halted.inj (hprogress.symm.trans hhalted)
    show result.2.client.eventFrames <+: conveyed
    rw [hframes, hconveyed, List.append_assoc]
    exact List.prefix_append _ _

/-- What a writer has chosen to write has left the outbox, unless it is a keepalive. -/
theorem conveyed_chosen {keepalive : Option Timer} {desk chosen : Desk} {frame : Frame}
    (h : choose keepalive desk = (.write frame, chosen)) {conveyed : List Frame}
    (hconveyed : conveyed = desk.client.eventFrames ++ pending desk) :
    conveyed = chosen.client.eventFrames ++ frame.unlessKeepalive ++ pending chosen := by
  cases choice keepalive desk with
  | stop reason hchoose => cases h.symm.trans hchoose
  | wait hchoose _ => cases h.symm.trans hchoose
  | write frame later hchoose hclient _ _ hpending _ =>
    cases h.symm.trans hchoose
    rw [hconveyed, hclient, hpending, List.append_assoc]

/-- Serving the outbox conveys what was in it. -/
theorem conveys_serve (policy : StreamPolicy) (steps : Nat) (keepalive : Option Timer)
    {desk : Desk} {conveyed : List Frame}
    (h : conveyed = desk.client.eventFrames ++ pending desk) :
    Conveys conveyed (serve policy steps keepalive desk) := by
  refine serve_induction (P := fun _ desk => conveyed = desk.client.eventFrames ++ pending desk)
    ?waits ?stops ?halts ?writes steps h
  case waits => exact fun _ _ h => ⟨by simp, by simpa [Phase.inFlight] using h⟩
  case stops => exact fun _ _ _ h _ => h ▸ List.prefix_append _ _
  case halts =>
    intro _ _ frame chosen _ _ h hchoose hhalted
    have hattempt := attempt_beginWrite policy frame chosen
    rw [hhalted] at hattempt
    exact hattempt.conveys rfl (conveyed_chosen hchoose h)
  case writes =>
    intro _ _ frame chosen _ h hchoose hwritten
    have hattempt := attempt_beginWrite policy frame chosen
    rw [hwritten] at hattempt
    rw [client_armKeepalive, pending_armKeepalive]
    exact hattempt.conveyed_eq rfl (conveyed_chosen hchoose h)

/-- A write that is done is followed by serving what is left. -/
theorem run_resumed {policy : StreamPolicy} {write : Write} {desk written : Desk}
    (hcancelled : desk.session.cancelled = false)
    (h : resumeWrite policy write desk = (.written, written)) :
    run policy (.writing write) desk =
      serve policy (enough (armKeepalive policy written).2) (armKeepalive policy written).1
        (armKeepalive policy written).2 := by
  simp only [run, hcancelled, h, Bool.false_eq_true, if_false]

/-- A run that goes on with a write stops where the write stops. -/
theorem run_halted {policy : StreamPolicy} {write : Write} {desk last : Desk} {stopped : Run}
    (hcancelled : desk.session.cancelled = false)
    (h : resumeWrite policy write desk = (.halted stopped, last)) :
    run policy (.writing write) desk = (stopped, last) := by
  simp only [run, hcancelled, h, Bool.false_eq_true, if_false]

/-- The writer of a cancelled session gives up its write. -/
theorem run_writing_of_cancelled (policy : StreamPolicy) (write : Write) {desk : Desk}
    (hcancelled : desk.session.cancelled = true) :
    run policy (.writing write) desk = (.exited (.orderly desk.session.statedReason), desk) := by
  simp only [run, hcancelled, if_true]

/-- A run of a writer ends at once, or with the write at hand, or serves. -/
theorem run_induction {policy : StreamPolicy} {P : Option Timer → Desk → Prop} {Q : Run × Desk → Prop}
    (hserve : ∀ steps keepalive desk, P keepalive desk → Q (serve policy steps keepalive desk))
    {phase : Phase} {desk : Desk}
    (hended : phase = .ended → Q (.suspended .ended, desk))
    (hpanics : phase = .spawned → policy.keepaliveInterval.any Clock.overflows = true →
      Q (.exited .panicked, desk))
    (hspawned : phase = .spawned → P (armKeepalive policy desk).1 (armKeepalive policy desk).2)
    (hwaiting : ∀ keepalive, phase = .waiting keepalive → P keepalive desk)
    (hcancelled : ∀ write, phase = .writing write → desk.session.cancelled = true →
      Q (.exited (.orderly desk.session.statedReason), desk))
    (hhalts : ∀ write stopped last, phase = .writing write →
      resumeWrite policy write desk = (.halted stopped, last) → Q (stopped, last))
    (hwrites : ∀ write written, phase = .writing write →
      resumeWrite policy write desk = (.written, written) →
      P (armKeepalive policy written).1 (armKeepalive policy written).2) :
    Q (run policy phase desk) := by
  cases phase with
  | ended => exact hended rfl
  | spawned =>
    rcases run_spawned policy desk with ⟨hoverflows, hpanicked⟩ | ⟨-, hserved⟩
    · rw [hpanicked]
      exact hpanics rfl hoverflows
    · rw [hserved]
      exact hserve _ _ _ (hspawned rfl)
  | waiting keepalive => exact hserve _ keepalive desk (hwaiting keepalive rfl)
  | writing write =>
    cases hcase : desk.session.cancelled with
    | true =>
      rw [run_writing_of_cancelled policy write hcase]
      exact hcancelled write rfl hcase
    | false =>
      generalize hresult : resumeWrite policy write desk = result
      obtain ⟨progress, later⟩ := result
      cases progress with
      | written =>
        rw [run_resumed hcase hresult]
        exact hserve _ _ _ (hwrites write later rfl hresult)
      | halted stopped =>
        rw [run_halted hcase hresult]
        exact hhalts write stopped later rfl hresult

/-- A run of a writer that has not ended conveys what was in flight and in the outbox. -/
theorem conveys_run (policy : StreamPolicy) {phase : Phase} (hphase : phase ≠ .ended) {desk : Desk}
    {conveyed : List Frame}
    (h : conveyed = desk.client.eventFrames ++ phase.inFlight ++ pending desk) :
    Conveys conveyed (run policy phase desk) := by
  have hfront : desk.client.eventFrames <+: conveyed := by
    rw [h, List.append_assoc]
    exact List.prefix_append _ _
  refine run_induction (P := fun _ desk => conveyed = desk.client.eventFrames ++ pending desk)
    (fun steps keepalive _ => conveys_serve policy steps keepalive) ?ended ?panics ?spawned ?waiting
    ?cancelled ?halts ?writes
  case ended => exact fun hended => absurd hended hphase
  case panics => exact fun _ _ => hfront
  case spawned =>
    rintro rfl
    rw [client_armKeepalive, pending_armKeepalive]
    simpa [Phase.inFlight] using h
  case waiting =>
    rintro keepalive rfl
    simpa [Phase.inFlight] using h
  case cancelled => exact fun _ _ _ => hfront
  case halts =>
    rintro write stopped last rfl hhalted
    have hattempt := attempt_resumeWrite policy write desk
    rw [hhalted] at hattempt
    exact hattempt.conveys rfl h
  case writes =>
    rintro write written rfl hwritten
    have hattempt := attempt_resumeWrite policy write desk
    rw [hwritten] at hattempt
    rw [client_armKeepalive, pending_armKeepalive]
    exact hattempt.conveyed_eq rfl h

/-- A writer whose session is cancelled ends; it hands nothing over any more, and leaves the session
alone. -/
theorem run_of_cancelled (policy : StreamPolicy) {phase : Phase} (hphase : phase ≠ .ended)
    {desk : Desk} (h : desk.session.cancelled = true) :
    ∃ exit later, run policy phase desk = (.exited exit, later) ∧ later.client = desk.client ∧
      later.session = desk.session := by
  have hserve (steps : Nat) (keepalive : Option Timer) {armed : Desk}
      (harmed : armed.session.cancelled = true) :
      serve policy (steps + 1) keepalive armed =
        (.exited (.orderly armed.session.statedReason), armed) :=
    serve_stop policy steps (by simp [choose, harmed])
  cases phase with
  | ended => exact absurd rfl hphase
  | spawned =>
    rcases run_spawned policy desk with ⟨-, hpanicked⟩ | ⟨-, hserved⟩
    · exact ⟨_, _, hpanicked, rfl, rfl⟩
    · rw [hserved, enough, hserve _ _ (by rw [session_armKeepalive, h])]
      exact ⟨_, _, rfl, client_armKeepalive policy desk, session_armKeepalive policy desk⟩
  | waiting keepalive => exact ⟨_, _, hserve _ keepalive h, rfl, rfl⟩
  | writing write => exact ⟨_, _, run_writing_of_cancelled policy write h, rfl, rfl⟩

/-! ## Invariants of clients -/

/-- What each step of a write keeps of a client. -/
structure Kept (P : Client → Prop) : Prop where
  begin (client : Client) (now : Nat) (frame : Frame) : P client → P (client.beginWrite now frame).2
  delay (client : Client) (now : Nat) (frame : Frame) : P client → P (client.endDelay now frame).2
  retry (client : Client) (now : Nat) (frame : Frame) : P client → P (client.retry now frame).2

/-- What the beginning of a write does to the client. -/
theorem client_beginWrite (policy : StreamPolicy) (frame : Frame) (desk : Desk) :
    (beginWrite policy frame desk).2.client = (desk.client.beginWrite desk.clock.now frame).2 := by
  unfold beginWrite
  simp only
  split <;> rfl

/-- What going on with a write does to the client. -/
theorem client_resumeWrite (policy : StreamPolicy) (write : Write) (desk : Desk) :
    (resumeWrite policy write desk).2.client = (answer write desk).2 := by
  rw [resumeWrite_eq]
  simp only
  split
  · rfl
  · rfl
  · rfl
  · split <;> rfl
  · split <;> rfl

/-- What clients keep, they keep when a write is gone on with. -/
theorem Kept.answer {P : Client → Prop} (hkept : Kept P) (write : Write) {desk : Desk}
    (h : P desk.client) : P (answer write desk).2 := by
  unfold Writer.answer
  split
  · split
    · exact hkept.delay _ _ _ h
    · exact h
  · exact hkept.retry _ _ _ h

/-- Whatever each step of a write keeps of a client, each step of the work of its writer keeps. -/
theorem Kept.stepwise {P : Client → Prop} (hkept : Kept P) (policy : StreamPolicy) :
    Stepwise policy fun before after => P before.client → P after.client where
  refl _ h := h
  trans hfirst hsecond h := hsecond (hfirst h)
  chosen keepalive desk h := (client_choose keepalive desk).symm ▸ h
  armed desk h := (client_armKeepalive policy desk).symm ▸ h
  begun frame desk h := (client_beginWrite policy frame desk).symm ▸ hkept.begin _ _ frame h
  resumed write desk h := (client_resumeWrite policy write desk).symm ▸ hkept.answer write h

/-- What clients keep, they keep through a run of their writer. -/
theorem Kept.run {P : Client → Prop} (hkept : Kept P) (policy : StreamPolicy) (phase : Phase)
    {desk : Desk} (h : P desk.client) : P (run policy phase desk).2.client :=
  (hkept.stepwise policy).run phase desk h

/-- What each write is when it begins, and stays while it goes on, the write at hand after a run is. -/
theorem Kept.write_run {P : Client → Prop} (hkept : Kept P) (policy : StreamPolicy)
    {W : Write → Prop}
    (hbegun : ∀ frame desk write last, P desk.client →
      beginWrite policy frame desk = (.halted (.suspended (.writing write)), last) → W write)
    (hresumed : ∀ write desk later last, P desk.client → W write →
      resumeWrite policy write desk = (.halted (.suspended (.writing later)), last) → W later)
    {phase : Phase} {desk : Desk} (h : P desk.client)
    (hphase : ∀ write, phase = .writing write → W write) :
    ∀ write, (Writer.run policy phase desk).1 = .suspended (.writing write) → W write := by
  have hchosen {keepalive : Option Timer} {desk chosen : Desk} {frame : Frame}
      (hP : P desk.client) (hchoose : choose keepalive desk = (.write frame, chosen)) :
      P chosen.client := by
    have hclient := client_choose keepalive desk
    rw [hchoose] at hclient
    exact hclient.symm ▸ hP
  have hserve (steps : Nat) (keepalive : Option Timer) (desk : Desk) (hP : P desk.client) :
      ∀ write, (serve policy steps keepalive desk).1 = .suspended (.writing write) → W write := by
    refine serve_induction (P := fun _ desk => P desk.client)
      (Q := fun result => ∀ write, result.1 = .suspended (.writing write) → W write)
      ?waits ?stops ?halts ?writes steps hP
    case waits => exact fun _ _ _ _ hwrite => by cases hwrite
    case stops => exact fun _ _ _ _ _ _ hwrite => by cases hwrite
    case halts =>
      rintro _ _ frame chosen _ last hP hchoose hhalted write rfl
      exact hbegun frame chosen write last (hchosen hP hchoose) hhalted
    case writes =>
      intro _ _ frame chosen written hP hchoose hwritten
      have hwrote := hkept.begin _ chosen.clock.now frame (hchosen hP hchoose)
      rw [client_armKeepalive, ← show (beginWrite policy frame chosen).2 = written from
        congrArg (·.2) hwritten, client_beginWrite]
      exact hwrote
  refine run_induction (P := fun _ desk => P desk.client)
    (Q := fun result => ∀ write, result.1 = .suspended (.writing write) → W write) hserve
    ?ended ?panics ?spawned ?waiting ?cancelled ?halts ?writes
  case ended => exact fun _ _ hwrite => by cases hwrite
  case panics => exact fun _ _ _ hwrite => by cases hwrite
  case spawned => exact fun _ => (client_armKeepalive policy desk).symm ▸ h
  case waiting => exact fun _ _ => h
  case cancelled => exact fun _ _ _ _ hwrite => by cases hwrite
  case halts =>
    rintro write _ last rfl hhalted later rfl
    exact hresumed write desk later last h (hphase write rfl) hhalted
  case writes =>
    intro write written _ hwritten
    rw [client_armKeepalive, ← show (resumeWrite policy write desk).2 = written from
      congrArg (·.2) hwritten, client_resumeWrite]
    exact hkept.answer write h

end Writer

end LiveCounter
