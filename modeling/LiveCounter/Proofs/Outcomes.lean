import LiveCounter.Proofs.Conveying

/-!
# What is behind the end of a writer

A writer ends because it is told to, because its client has gone, because an attempt to write came to
a bad end, or because a write took too long. Each way to end has exactly one such cause behind it,
which the state of the client or the clock shows.
-/

namespace LiveCounter

/-- The longest that a write can take before it is given up: a time that is beyond every clock stands
for the far future. -/
def StreamPolicy.writeLimit (policy : StreamPolicy) : Duration :=
  if Clock.overflows policy.writeTimeout then Clock.farFuture else policy.writeTimeout

namespace Client

/-- The last attempt to write to the client was refused with the given error. -/
def HasRefused (client : Client) (fault : TransportFault) : Prop :=
  match client.peer with
  | .scripted script attempts => 0 < attempts ∧ (script attempts).reception = .refuse fault
  | .buffered _ _ => client.gone = true ∧ fault = .closed

/-- The client broke down in the last attempt to write to it. -/
def HasPanicked (client : Client) : Prop :=
  match client.peer with
  | .scripted script attempts => 0 < attempts ∧ (script attempts).reception = .panic
  | .buffered _ _ => False

instance : (client : Client) → (fault : TransportFault) → Decidable (client.HasRefused fault)
  | ⟨.scripted script attempts, _, _⟩, fault =>
    inferInstanceAs (Decidable (0 < attempts ∧ (script attempts).reception = .refuse fault))
  | ⟨.buffered _ _, gone, _⟩, fault => inferInstanceAs (Decidable (gone = true ∧ fault = .closed))

instance : (client : Client) → Decidable client.HasPanicked
  | ⟨.scripted script attempts, _, _⟩ =>
    inferInstanceAs (Decidable (0 < attempts ∧ (script attempts).reception = .panic))
  | ⟨.buffered _ _, _, _⟩ => inferInstanceAs (Decidable False)

/-- The last attempt to write to the client came to this end. -/
def CameTo (client : Client) : WriteStep → Prop
  | .refused fault => client.HasRefused fault
  | .panicked => client.HasPanicked
  | .accepted | .delayed _ | .stuck => True

/-- Somebody has tried to write to the client, if it counts the attempts. -/
def Attempted (client : Client) : Prop :=
  ∀ script attempts, client.peer = .scripted script attempts → 0 < attempts

/-- A scripted client ends an attempt as its script says. -/
theorem cameTo_conclude {client : Client} {script : Nat → Treatment} {attempts : Nat}
    (hpeer : client.peer = .scripted script attempts) (hattempts : 0 < attempts) (now : Nat)
    (frame : Frame) :
    let result := client.conclude now frame (script attempts).reception
    result.2.CameTo result.1 := by
  cases hreception : (script attempts).reception with
  | accept | stall => trivial
  | refuse fault =>
    simp only [conclude, CameTo, HasRefused, hpeer]
    exact ⟨hattempts, hreception⟩
  | panic =>
    simp only [conclude, CameTo, HasPanicked, hpeer]
    exact ⟨hattempts, hreception⟩

/-- A client with a buffer takes a frame when there is room, and is waited for otherwise. -/
theorem cameTo_fill {client : Client} {capacity : Nat} {unread : List Frame}
    (hpeer : client.peer = .buffered capacity unread) (now : Nat) (frame : Frame) :
    (client.fill now frame capacity unread).2.CameTo
      (client.fill now frame capacity unread).1 := by
  unfold fill
  split
  · next hgone =>
    simpa only [CameTo, HasRefused, hpeer, and_true] using hgone
  · split <;> trivial

/-- The start of a write is an attempt that came to what it says. -/
theorem cameTo_beginWrite (client : Client) (now : Nat) (frame : Frame) :
    (client.beginWrite now frame).2.CameTo (client.beginWrite now frame).1 := by
  cases hpeer : client.peer with
  | scripted script attempts =>
    simp only [beginWrite, hpeer]
    split
    · exact cameTo_conclude rfl (Nat.succ_pos attempts) now frame
    · trivial
  | buffered capacity unread =>
    simp only [beginWrite, hpeer]
    exact cameTo_fill hpeer now frame

/-- The end of an attempt does not undo it. -/
theorem attempted_conclude {client : Client} (h : client.Attempted) (now : Nat) (frame : Frame)
    (reception : Reception) : (client.conclude now frame reception).2.Attempted := by
  cases reception <;> exact h

/-- A frame that is put into a buffer does not undo an attempt. -/
theorem attempted_fill {client : Client} (h : client.Attempted) (now : Nat) (frame : Frame)
    (capacity : Nat) (unread : List Frame) :
    (client.fill now frame capacity unread).2.Attempted := by
  unfold fill
  split
  · exact h
  · split
    · intro script attempts hpeer
      cases hpeer
    · exact h

/-- A client that is written to counts the attempt. -/
theorem attempted_beginWrite (client : Client) (now : Nat) (frame : Frame) :
    (client.beginWrite now frame).2.Attempted := by
  cases hpeer : client.peer with
  | scripted script attempts =>
    have hcounted : Attempted { client with peer := .scripted script (attempts + 1) } := by
      intro script' attempts' heq
      obtain ⟨rfl, rfl⟩ := Peer.scripted.inj heq
      exact Nat.succ_pos attempts
    simp only [beginWrite, hpeer]
    split
    · exact attempted_conclude hcounted now frame _
    · exact hcounted
  | buffered capacity unread =>
    have hbuffered : client.Attempted := fun script attempts heq => by
      rw [hpeer] at heq
      cases heq
    simp only [beginWrite, hpeer]
    exact attempted_fill hbuffered now frame capacity unread

/-- A client that has been written to stays so. -/
theorem kept_attempted : Writer.Kept Attempted where
  begin client now frame _ := client.attempted_beginWrite now frame
  delay client now frame h := by
    unfold endDelay
    split
    · exact attempted_conclude h now frame _
    · exact attempted_fill h now frame _ _
  retry client now frame h := by
    unfold retry
    split
    · exact h
    · exact attempted_fill h now frame _ _

/-- A client does not leave by taking a frame. -/
theorem gone_fill (client : Client) (now : Nat) (frame : Frame) (capacity : Nat)
    (unread : List Frame) : (client.fill now frame capacity unread).2.gone = client.gone := by
  unfold fill
  split
  · rfl
  · split <;> rfl

/-- To write to a client does not make it go away. -/
theorem kept_gone (gone : Bool) : Writer.Kept fun client => client.gone = gone where
  begin client now frame h := by
    unfold beginWrite
    split
    · simp only
      split
      · exact (Connection.gone_conclude _ _ _ _).trans h
      · exact h
    · exact (gone_fill _ _ _ _ _).trans h
  delay client now frame h := by
    unfold endDelay
    split
    · exact (Connection.gone_conclude _ _ _ _).trans h
    · exact (gone_fill _ _ _ _ _).trans h
  retry client now frame h := by
    unfold retry
    split
    · exact h
    · exact (gone_fill _ _ _ _ _).trans h

end Client

namespace Writer

/-- A client that is asked again answers for its last attempt. -/
theorem cameTo_answer {write : Write} {desk : Desk} (h : desk.client.Attempted) :
    (answer write desk).2.CameTo (answer write desk).1 := by
  unfold answer
  split
  · split
    · cases hpeer : desk.client.peer with
      | scripted script attempts =>
        simp only [Client.endDelay, hpeer]
        exact Client.cameTo_conclude hpeer (h script attempts hpeer) _ _
      | buffered capacity unread =>
        simp only [Client.endDelay, hpeer]
        exact Client.cameTo_fill hpeer _ _
    · trivial
  · cases hpeer : desk.client.peer with
    | scripted script attempts =>
      simp only [Client.retry, hpeer]
      trivial
    | buffered capacity unread =>
      simp only [Client.retry, hpeer]
      exact Client.cameTo_fill hpeer _ _

/-- What is behind the end of a run that began with the given phase and desk and left the client as
given. -/
inductive Behind (policy : StreamPolicy) (phase : Phase) (desk : Desk) (client : Client) :
    WriterExit → Prop
  | cancelled (reason : CloseReason) (h : desk.session.cancelled = true) :
      Behind policy phase desk client (.orderly reason)
  | released (reason : CloseReason) (h : desk.session.outbox.released = true) :
      Behind policy phase desk client (.orderly reason)
  | gone (h : desk.client.gone = true) : Behind policy phase desk client (.orderly .clientClosed)
  | refused (fault : TransportFault) (h : client.HasRefused fault) :
      Behind policy phase desk client (.failed fault)
  | expired (write : Write) (hphase : phase = .writing write)
      (h : write.deadline.isDue desk.clock.now = true) :
      Behind policy phase desk client (.failed (.timeout policy.writeTimeout))
  | panicked (h : client.HasPanicked) : Behind policy phase desk client .panicked
  | unstartable (hphase : phase = .spawned)
      (h : policy.keepaliveInterval.any Clock.overflows = true) :
      Behind policy phase desk client .panicked

/-- A writer that stops in order is told to, or its client has gone. -/
theorem stop_choose {keepalive : Option Timer} {desk later : Desk} {reason : CloseReason}
    (h : choose keepalive desk = (.stop reason, later)) :
    desk.session.cancelled = true ∨ desk.session.outbox.released = true ∨
      (reason = .clientClosed ∧ desk.client.gone = true) := by
  unfold choose at h
  split at h
  · next hcancelled => exact Or.inl hcancelled
  · split at h
    · next hgone =>
      cases h
      exact Or.inr (Or.inr ⟨rfl, hgone⟩)
    · split at h
      · next hpop =>
        refine Or.inr (Or.inl ?_)
        by_contra hreleased
        simp only [Outbox.pop, hreleased, if_false] at hpop
        split at hpop <;> cases hpop
      · cases h
      · split at h
        · split at h <;> cases h
        · cases h

variable {policy : StreamPolicy} {phase : Phase} {desk : Desk}

/-- A write that ends a run at once was refused, or its client broke down. -/
theorem behind_beginWrite {frame : Frame} {served last : Desk} {exit : WriterExit}
    (h : beginWrite policy frame served = (.halted (.exited exit), last)) :
    Behind policy phase desk last.client exit := by
  have hcame := served.client.cameTo_beginWrite served.clock.now frame
  rw [beginWrite] at h
  generalize served.client.beginWrite served.clock.now frame = result at h hcame
  obtain ⟨step, client⟩ := result
  cases step with
  | accepted | delayed | stuck => cases h
  | refused fault =>
    cases h
    exact .refused fault hcame
  | panicked =>
    cases h
    exact .panicked hcame

/-- A write that goes on and ends the run was refused, broken off or took too long. -/
theorem behind_resumeWrite {write : Write} {last : Desk} {exit : WriterExit}
    (hphase : phase = .writing write) (hattempted : desk.client.Attempted)
    (h : resumeWrite policy write desk = (.halted (.exited exit), last)) :
    Behind policy phase desk last.client exit := by
  have hcame : (answer write desk).2.CameTo (answer write desk).1 := cameTo_answer hattempted
  rw [resumeWrite_eq] at h
  generalize answer write desk = result at h hcame
  obtain ⟨step, client⟩ := result
  cases step with
  | accepted => cases h
  | refused fault =>
    cases h
    exact .refused fault hcame
  | panicked =>
    cases h
    exact .panicked hcame
  | delayed | stuck =>
    simp only at h
    split at h
    · next hdue =>
      cases h
      exact .expired write hphase hdue
    · cases h

/-- Behind every end of a run is one of these causes. -/
theorem behind_run (hattempted : ∀ write, phase = .writing write → desk.client.Attempted)
    {exit : WriterExit} {last : Desk} (h : run policy phase desk = (.exited exit, last)) :
    Behind policy phase desk last.client exit := by
  -- Nobody else works at the desk, so what the session and the client show at the end of the run they
  -- have shown all the time.
  let Same (served : Desk) : Prop :=
    desk.session.SameCourse served.session ∧ served.client.gone = desk.client.gone
  let Explained (result : Run × Desk) : Prop :=
    ∀ exit, result.1 = .exited exit → Behind policy phase desk result.2.client exit
  have hsame : Stepwise policy fun before after => Same before → Same after := by
    have hcourse := stepwise_sameCourse policy
    have hgone := (Client.kept_gone desk.client.gone).stepwise policy
    exact {
      refl := fun _ hdesk => hdesk
      trans := fun hfirst hsecond hdesk => hsecond (hfirst hdesk)
      chosen := fun keepalive desk hdesk =>
        ⟨hdesk.1.trans (hcourse.chosen keepalive desk), hgone.chosen keepalive desk hdesk.2⟩
      armed := fun desk hdesk => ⟨hdesk.1.trans (hcourse.armed desk), hgone.armed desk hdesk.2⟩
      begun := fun frame desk hdesk =>
        ⟨hdesk.1.trans (hcourse.begun frame desk), hgone.begun frame desk hdesk.2⟩
      resumed := fun write desk hdesk =>
        ⟨hdesk.1.trans (hcourse.resumed write desk), hgone.resumed write desk hdesk.2⟩ }
  have hstart : Same desk := ⟨.refl _, rfl⟩
  have hserve (steps : Nat) (keepalive : Option Timer) (served : Desk) (hserved : Same served) :
      Explained (serve policy steps keepalive served) := by
    refine serve_induction (P := fun _ served => Same served) ?waits ?stops ?halts ?writes steps hserved
    case waits => exact fun _ _ _ _ hexit => by cases hexit
    case stops =>
      rintro keepalive served reason ⟨hcourse, hgone⟩ hchoose exit hexit
      obtain rfl := Run.exited.inj hexit
      rcases stop_choose hchoose with hcancelled | hreleased | ⟨rfl, hleft⟩
      · exact .cancelled reason (hcourse.cancelled ▸ hcancelled)
      · exact .released reason (hcourse.released ▸ hreleased)
      · exact .gone (hgone ▸ hleft)
    case halts =>
      rintro _ _ frame chosen stopped last _ - hhalted exit rfl
      exact behind_beginWrite hhalted
    case writes =>
      intro keepalive served frame chosen written hserved hchoose hwritten
      have hchosen := hsame.chosen keepalive served hserved
      rw [hchoose] at hchosen
      have hbegun := hsame.begun frame chosen hchosen
      rw [hwritten] at hbegun
      exact hsame.armed written hbegun
  have hrun : Explained (run policy phase desk) := by
    refine run_induction (P := fun _ served => Same served) hserve ?ended ?panics ?spawned ?waiting
      ?cancelled ?halts ?writes
    case ended => exact fun _ _ hexit => by cases hexit
    case panics =>
      rintro hphase hoverflows exit hexit
      obtain rfl := Run.exited.inj hexit
      exact .unstartable hphase hoverflows
    case spawned => exact fun _ => hsame.armed desk hstart
    case waiting => exact fun _ _ => hstart
    case cancelled =>
      rintro write - hcancelled exit hexit
      obtain rfl := Run.exited.inj hexit
      exact .cancelled _ hcancelled
    case halts =>
      rintro write stopped last hphase hhalted exit rfl
      exact behind_resumeWrite hphase (hattempted write hphase) hhalted
    case writes =>
      intro write written _ hwritten
      have hresumed := hsame.resumed write desk hstart
      rw [hwritten] at hresumed
      exact hsame.armed written hresumed
  rw [h] at hrun
  exact hrun exit rfl

/-! ## Writes that have begun -/

/-- A write that has begun is an attempt, and will be given up when it has taken too long. -/
structure Underway (policy : StreamPolicy) (write : Write) (client : Client) : Prop where
  attempted : client.Attempted
  deadline : write.deadline.instant = .ofMillis write.began + policy.writeLimit

/-- A write is given up when the limit of the policy has passed. -/
theorem instant_set (clock : Clock) (policy : StreamPolicy) :
    (clock.set policy.writeTimeout).1.instant = .ofMillis clock.now + policy.writeLimit := by
  simp only [Clock.set, Clock.setAt, Clock.after, StreamPolicy.writeLimit]
  split <;> rfl

/-- A write that does not end at once is under way. -/
theorem underway_beginWrite {frame : Frame} {served last : Desk} {write : Write}
    (h : beginWrite policy frame served = (.halted (.suspended (.writing write)), last)) :
    Underway policy write last.client := by
  have hattempted := served.client.attempted_beginWrite served.clock.now frame
  rw [beginWrite] at h
  generalize served.client.beginWrite served.clock.now frame = result at h hattempted
  obtain ⟨step, client⟩ := result
  cases step with
  | accepted | refused | panicked => cases h
  | delayed millis =>
    cases h
    exact ⟨hattempted, instant_set (served.clock.set (.ofMillis millis)).2 policy⟩
  | stuck =>
    cases h
    exact ⟨hattempted, instant_set served.clock policy⟩

/-- A write that goes on without coming to an end stays under way. -/
theorem underway_resumeWrite {write later : Write} {last : Desk}
    (h : Underway policy write desk.client)
    (hresumed : resumeWrite policy write desk = (.halted (.suspended (.writing later)), last)) :
    Underway policy later last.client := by
  have hattempted := Client.kept_attempted.answer write h.attempted
  rw [resumeWrite_eq] at hresumed
  generalize answer write desk = result at hresumed hattempted
  obtain ⟨step, client⟩ := result
  cases step with
  | accepted | refused | panicked => cases hresumed
  | delayed | stuck =>
    simp only at hresumed
    split at hresumed
    · cases hresumed
    · cases hresumed
      exact ⟨hattempted, h.deadline⟩

/-- A write that is under way after a run has begun as it should. -/
theorem underway_run (h : ∀ write, phase = .writing write → Underway policy write desk.client) :
    ∀ write, (run policy phase desk).1 = .suspended (.writing write) →
      Underway policy write (run policy phase desk).2.client := by
  have hserve (steps : Nat) (keepalive : Option Timer) (served : Desk) :
      ∀ write, (serve policy steps keepalive served).1 = .suspended (.writing write) →
        Underway policy write (serve policy steps keepalive served).2.client := by
    refine serve_induction (P := fun _ _ => True)
      (Q := fun result => ∀ write, result.1 = .suspended (.writing write) →
        Underway policy write result.2.client) ?waits ?stops ?halts ?writes steps trivial
    case waits => exact fun _ _ _ _ hwrite => by cases hwrite
    case stops => exact fun _ _ _ _ _ _ hwrite => by cases hwrite
    case halts =>
      rintro _ _ frame chosen _ last - - hhalted write rfl
      exact underway_beginWrite hhalted
    case writes => exact fun _ _ _ _ _ _ _ _ => trivial
  refine run_induction (P := fun _ _ => True)
    (Q := fun result => ∀ write, result.1 = .suspended (.writing write) →
      Underway policy write result.2.client)
    (fun steps keepalive served _ => hserve steps keepalive served) ?ended ?panics ?spawned ?waiting
    ?cancelled ?halts ?writes
  case ended => exact fun _ _ hwrite => by cases hwrite
  case panics => exact fun _ _ _ hwrite => by cases hwrite
  case spawned => exact fun _ => trivial
  case waiting => exact fun _ _ => trivial
  case cancelled => exact fun _ _ _ _ hwrite => by cases hwrite
  case halts =>
    rintro write _ last hphase hhalted later rfl
    exact underway_resumeWrite (h write hphase) hhalted
  case writes => exact fun _ _ _ _ => trivial

end Writer

end LiveCounter
