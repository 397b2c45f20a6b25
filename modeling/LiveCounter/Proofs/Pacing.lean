import LiveCounter.Proofs.Silence

/-!
# Writers on their beat

A writer that has nothing to write waits for the time of the next keepalive, which is set anew after
each write. So what it waits for comes at most one keepalive period after the last sign of life, and
if it is a write that has begun by then, the client decides how long it takes.
-/

namespace LiveCounter

/-- Whole milliseconds are counted as they are. -/
theorem Duration.millis_ofMillis (millis : Nat) : (ofMillis millis).millis = millis :=
  Nat.mul_div_cancel _ (by decide)

/-- A timer that is set for a whole number of milliseconds is due after so many. -/
theorem Clock.due_set (clock : Clock) {period : Duration} (h : period.IsWhole) :
    (clock.set period).1.due ≤ clock.now + period.millis := by
  apply Duration.ceilMillis_le
  rw [Nat.add_mul, ← h.nanos_eq]
  exact clock.after_le period

/-- What the writer waits for next comes at most so many milliseconds after the last sign of life. -/
def Phase.Paced (period lastActivity : Nat) : Phase → Prop
  | .spawned | .ended => True
  | .waiting keepalive => ∃ timer ∈ keepalive, timer.due ≤ lastActivity + period
  | .writing write => write.began ≤ lastActivity + period

/-- A writer on pace stays so with a later sign of life. -/
theorem Phase.Paced.mono {period earlier later : Nat} {phase : Phase} (h : phase.Paced period earlier)
    (hle : earlier ≤ later) : phase.Paced period later := by
  cases phase with
  | spawned | ended => trivial
  | waiting keepalive =>
    obtain ⟨timer, hmem, hdue⟩ := h
    exact ⟨timer, hmem, Nat.le_trans hdue (Nat.add_le_add_right hle period)⟩
  | writing write => exact Nat.le_trans h (Nat.add_le_add_right hle period)

/-- A write that goes on reacts at most so many milliseconds after it began. -/
def Phase.Quick (limit : Nat) (phase : Phase) : Prop :=
  ∀ write, phase = .writing write → ∃ timer, write.wait = .delay timer ∧ timer.due ≤ write.began + limit

namespace Client

/-- The client accepts all frames, each within so many milliseconds. -/
def Accepts (limit : Nat) (client : Client) : Prop :=
  ∃ script attempts, client.peer = .scripted script attempts ∧
    ∀ attempt, (script attempt).reception = .accept ∧ (script attempt).delay ≤ limit

/-- A client that accepts takes a frame at once, or within its limit. -/
theorem Accepts.beginWrite {limit : Nat} {client : Client} (h : client.Accepts limit) (now : Nat)
    (frame : Frame) :
    (client.beginWrite now frame).2.Accepts limit ∧
      ((client.beginWrite now frame).1 = .accepted ∨
        ∃ millis ≤ limit, (client.beginWrite now frame).1 = .delayed millis) := by
  obtain ⟨script, attempts, hpeer, hscript⟩ := h
  obtain ⟨hreception, hdelay⟩ := hscript (attempts + 1)
  simp only [Client.beginWrite, hpeer, hreception]
  split
  · exact ⟨⟨script, attempts + 1, rfl, hscript⟩, Or.inl rfl⟩
  · exact ⟨⟨script, attempts + 1, rfl, hscript⟩, Or.inr ⟨_, hdelay, rfl⟩⟩

/-- A client that accepts takes the frame when its delay is over. -/
theorem Accepts.endDelay {limit : Nat} {client : Client} (h : client.Accepts limit) (now : Nat)
    (frame : Frame) :
    (client.endDelay now frame).2.Accepts limit ∧ (client.endDelay now frame).1 = .accepted := by
  obtain ⟨script, attempts, hpeer, hscript⟩ := h
  simp only [Client.endDelay, hpeer, (hscript attempts).1]
  exact ⟨⟨script, attempts, hpeer, hscript⟩, rfl⟩

/-- Whatever a writer does, the client goes on accepting. -/
theorem kept_accepts (limit : Nat) : Writer.Kept (Accepts limit) where
  begin _ now frame h := (h.beginWrite now frame).1
  delay _ now frame h := (h.endDelay now frame).1
  retry client now frame h := by
    obtain ⟨script, attempts, hpeer, hscript⟩ := h
    simp only [Client.retry, hpeer]
    exact ⟨script, attempts, hpeer, hscript⟩

end Client

namespace Writer

/-! ## What waits, and since when -/

/-- To choose takes no time and is no sign of life. -/
theorem untouched_choose (keepalive : Option Timer) (desk : Desk) :
    (choose keepalive desk).2.clock = desk.clock ∧
      (choose keepalive desk).2.session.lastActivity = desk.session.lastActivity := by
  unfold choose
  split
  · exact ⟨rfl, rfl⟩
  · split
    · exact ⟨rfl, rfl⟩
    · split
      · exact ⟨rfl, rfl⟩
      · exact ⟨rfl, rfl⟩
      · split
        · split <;> exact ⟨rfl, rfl⟩
        · exact ⟨rfl, rfl⟩

/-- A keepalive is due after one period. -/
theorem due_armKeepalive {policy : StreamPolicy} {period : Duration}
    (h : policy.keepaliveInterval = some period) (hwhole : period.IsWhole) (desk : Desk) :
    ∃ timer ∈ (armKeepalive policy desk).1, timer.due ≤ desk.clock.now + period.millis := by
  simp only [armKeepalive, h]
  exact ⟨_, rfl, desk.clock.due_set hwhole⟩

/-- A write that has just succeeded is the last sign of life. -/
theorem written_beginWrite {policy : StreamPolicy} {frame : Frame} {desk later : Desk}
    (h : beginWrite policy frame desk = (.written, later)) :
    later.session.lastActivity = desk.clock.now ∧ later.clock = desk.clock := by
  rw [beginWrite] at h
  generalize desk.client.beginWrite desk.clock.now frame = result at h
  obtain ⟨step, client⟩ := result
  cases step with
  | accepted =>
    obtain rfl := (Prod.mk.inj h).2
    exact ⟨rfl, rfl⟩
  | refused | panicked | delayed | stuck => cases h

/-- A write that goes on began just now, and waits for what the client has asked for. -/
theorem writing_beginWrite {policy : StreamPolicy} {frame : Frame} {desk later : Desk} {phase : Phase}
    (h : beginWrite policy frame desk = (.halted (.suspended phase), later)) :
    ∃ write, phase = .writing write ∧ write.began = desk.clock.now ∧ later.session = desk.session ∧
      ((desk.client.beginWrite desk.clock.now frame).1 = .stuck ∨
        ∃ millis, (desk.client.beginWrite desk.clock.now frame).1 = .delayed millis ∧
          write.wait = .delay (desk.clock.set (.ofMillis millis)).1) := by
  rw [beginWrite] at h
  generalize desk.client.beginWrite desk.clock.now frame = result at h ⊢
  obtain ⟨step, client⟩ := result
  cases step with
  | delayed millis =>
    cases h
    exact ⟨_, rfl, rfl, rfl, Or.inr ⟨millis, rfl, rfl⟩⟩
  | stuck =>
    cases h
    exact ⟨_, rfl, rfl, rfl, Or.inl rfl⟩
  | accepted | refused | panicked => cases h

/-- A frame that is written is a sign of life. -/
theorem written_resumeWrite {policy : StreamPolicy} {write : Write} {desk later : Desk}
    (h : resumeWrite policy write desk = (.written, later)) :
    later.session.lastActivity = desk.clock.now ∧ later.clock = desk.clock := by
  rw [resumeWrite_eq] at h
  generalize answer write desk = result at h
  obtain ⟨step, client⟩ := result
  cases step with
  | accepted =>
    obtain rfl := (Prod.mk.inj h).2
    exact ⟨rfl, rfl⟩
  | refused | panicked => cases h
  | delayed | stuck =>
    simp only at h
    split at h <;> cases h

/-- A write that still goes on is the same one, and a delay that is not over stays what it was. -/
theorem writing_resumeWrite {policy : StreamPolicy} {write : Write} {desk later : Desk} {phase : Phase}
    (h : resumeWrite policy write desk = (.halted (.suspended phase), later)) :
    ∃ write', phase = .writing write' ∧ write'.began = write.began ∧ later.session = desk.session ∧
      (write.wait.isOver desk.clock.now = false → write'.wait = write.wait) := by
  rw [resumeWrite_eq] at h
  generalize answer write desk = result at h
  obtain ⟨step, client⟩ := result
  cases step with
  | accepted | refused | panicked => cases h
  | delayed | stuck =>
    simp only at h
    split at h
    · cases h
    · cases h
      exact ⟨_, rfl, rfl, rfl, fun hwaits => by simp [hwaits]⟩

/-! ## Writers on their beat -/

/-- A writer that serves is on its beat: the next keepalive is set, and was not missed. -/
structure OnBeat (period : Nat) (keepalive : Option Timer) (desk : Desk) : Prop where
  now : desk.clock.now ≤ desk.session.lastActivity + period
  set : ∃ timer ∈ keepalive, timer.due ≤ desk.session.lastActivity + period

/-- Where the writer goes on in the given phase, the next thing comes in time. -/
def KeepsBeat (period : Nat) (result : Run × Desk) : Prop :=
  ∀ phase, result.1 = .suspended phase → phase.Paced period result.2.session.lastActivity

variable {policy : StreamPolicy} {period : Duration}

/-- After a write that has just succeeded the next keepalive is a whole period away. -/
theorem onBeat_armKeepalive (hperiod : policy.keepaliveInterval = some period)
    (hwhole : period.IsWhole) {desk : Desk} (h : desk.clock.now ≤ desk.session.lastActivity) :
    OnBeat period.millis (armKeepalive policy desk).1 (armKeepalive policy desk).2 := by
  have hactivity : (armKeepalive policy desk).2.session.lastActivity = desk.session.lastActivity := by
    rw [session_armKeepalive]
  obtain ⟨timer, hmem, hdue⟩ := due_armKeepalive hperiod hwhole desk
  constructor
  · rw [now_armKeepalive, hactivity]
    omega
  · refine ⟨timer, hmem, ?_⟩
    rw [hactivity]
    omega

/-- The next task comes within a period of the last sign of life. -/
theorem OnBeat.chosen {millis : Nat} {keepalive : Option Timer} {desk later : Desk} {task : Task}
    (h : OnBeat millis keepalive desk) (hchoose : choose keepalive desk = (task, later)) :
    later.clock.now ≤ later.session.lastActivity + millis := by
  obtain ⟨hclock, hactivity⟩ := untouched_choose keepalive desk
  rw [hchoose] at hclock hactivity
  rw [hclock, hactivity]
  exact h.now

/-- A writer on its beat goes on where the next thing comes in time. -/
theorem keepsBeat_serve (hperiod : policy.keepaliveInterval = some period) (hwhole : period.IsWhole)
    (steps : Nat) (keepalive : Option Timer) (desk : Desk)
    (h : OnBeat period.millis keepalive desk) :
    KeepsBeat period.millis (serve policy steps keepalive desk) := by
  refine serve_induction ?waits ?stops ?halts ?writes steps h
  case waits =>
    rintro keepalive desk hbeat phase hphase
    obtain rfl := Run.suspended.inj hphase
    exact hbeat.set
  case stops =>
    rintro keepalive desk reason - - phase hphase
    cases hphase
  case halts =>
    rintro keepalive desk frame chosen stopped last hbeat hchoose hhalted phase rfl
    obtain ⟨write, rfl, hbegan, hsession, -⟩ := writing_beginWrite hhalted
    show write.began ≤ last.session.lastActivity + period.millis
    rw [hbegan, hsession]
    exact hbeat.chosen hchoose
  case writes =>
    rintro keepalive desk frame chosen written - - hwritten
    obtain ⟨hactivity, hclock⟩ := written_beginWrite hwritten
    exact onBeat_armKeepalive hperiod hwhole (Nat.le_of_eq (by rw [hclock, hactivity]))

/-- A writer that is polled in time will be polled in time again. -/
theorem keepsBeat_run (hperiod : policy.keepaliveInterval = some period) (hwhole : period.IsWhole)
    {phase : Phase} {desk : Desk} (hpaced : phase.Paced period.millis desk.session.lastActivity)
    (hspawned : phase = .spawned → desk.clock.now ≤ desk.session.lastActivity)
    (htimers : ∀ timer ∈ timers phase, desk.clock.now ≤ timer.due) :
    KeepsBeat period.millis (run policy phase desk) := by
  refine run_induction (keepsBeat_serve hperiod hwhole) ?ended ?panics ?spawned ?waiting ?cancelled
    ?halts ?writes
  case ended =>
    rintro - phase hphase
    obtain rfl := Run.suspended.inj hphase
    trivial
  case panics =>
    rintro - - phase hphase
    cases hphase
  case spawned => exact fun hfirst => onBeat_armKeepalive hperiod hwhole (hspawned hfirst)
  case waiting =>
    rintro keepalive rfl
    obtain ⟨timer, hmem, hdue⟩ := hpaced
    have hnow := htimers timer (Option.mem_toList.mpr hmem)
    exact ⟨Nat.le_trans hnow hdue, timer, hmem, hdue⟩
  case cancelled =>
    rintro write - - phase hphase
    cases hphase
  case halts =>
    rintro write stopped last rfl hhalted phase rfl
    obtain ⟨later, rfl, hbegan, hsession, -⟩ := writing_resumeWrite hhalted
    show later.began ≤ last.session.lastActivity + period.millis
    rw [hbegan, hsession]
    exact hpaced
  case writes =>
    rintro write written - hwritten
    obtain ⟨hactivity, hclock⟩ := written_resumeWrite hwritten
    exact onBeat_armKeepalive hperiod hwhole (Nat.le_of_eq (by rw [hclock, hactivity]))

/-! ## Writes that are quick -/

/-- Where the writer goes on in the given phase, its write is quick. -/
def KeepsQuick (limit : Nat) (result : Run × Desk) : Prop :=
  ∀ phase, result.1 = .suspended phase → phase.Quick limit

/-- What a quick client is written to, takes no longer than it may. -/
theorem keepsQuick_run (policy : StreamPolicy) {limit : Nat} {phase : Phase} {desk : Desk}
    (haccepts : desk.client.Accepts limit) (hquick : phase.Quick limit) :
    KeepsQuick limit (run policy phase desk) := by
  rintro _ hrun write rfl
  refine (Client.kept_accepts limit).write_run policy ?begun ?resumed haccepts hquick write hrun
  case begun =>
    intro frame desk write last haccepts hhalted
    obtain ⟨_, hwrite, hbegan, -, hwait⟩ := writing_beginWrite hhalted
    obtain rfl := Phase.writing.inj hwrite
    obtain ⟨-, hstep⟩ := haccepts.beginWrite desk.clock.now frame
    rcases hwait with hstuck | ⟨millis, hdelayed, htimer⟩
    · simp [hstuck] at hstep
    · have hmillis : millis ≤ limit := by simpa [hdelayed] using hstep
      have hdue := desk.clock.due_set (Duration.isWhole_ofMillis millis)
      rw [Duration.millis_ofMillis] at hdue
      exact ⟨_, htimer, by omega⟩
  case resumed =>
    rintro write desk later last haccepts ⟨timer, htimer, hdue⟩ hhalted
    obtain ⟨_, hlater, hbegan, -, hwait⟩ := writing_resumeWrite hhalted
    obtain rfl := Phase.writing.inj hlater
    -- The client accepts as soon as the delay is over, so it is not over yet.
    have hover : write.wait.isOver desk.clock.now = false := by
      by_contra hover
      have haccepted : (answer write desk).1 = .accepted := by
        simp only [answer, htimer]
        rw [if_pos (by simpa [htimer] using hover)]
        exact (haccepts.endDelay desk.clock.now write.frame).2
      rw [resumeWrite_eq] at hhalted
      simp only [haccepted] at hhalted
      cases hhalted
    exact ⟨timer, (hwait hover).trans htimer, hbegan ▸ hdue⟩

end Writer

namespace Connection

/-! ## Sessions on their beat -/

/-- What the writer waits for next comes at most so many milliseconds after the last sign of life. -/
def Paced (period : Nat) (connection : Connection) : Prop :=
  ∀ service, connection.service = some service →
    service.phase.Paced period connection.session.lastActivity

/-- A connection on pace stays so if it is not disturbed. -/
theorem Paced.undisturbed {period : Nat} {before after : Connection} (h : before.Paced period)
    (hsame : before.Undisturbed after) : after.Paced period := by
  intro service hservice
  obtain ⟨earlier, hearlier, hwork⟩ := hsame.service_eq_some hservice
  rw [hwork.phase, hsame.lastActivity]
  exact h earlier hearlier

/-- A sign of life does not disturb the pace. -/
theorem Paced.active {period : Nat} {before after : Connection} (h : before.Paced period)
    (hservice : after.service = before.service)
    (hactivity : before.session.lastActivity ≤ after.session.lastActivity) : after.Paced period :=
  fun service hafter => (h service (hservice ▸ hafter)).mono hactivity

/-- A run of the writer on time keeps the pace. -/
theorem Paced.written {policy : StreamPolicy} {period : Duration}
    (hperiod : policy.keepaliveInterval = some period) (hwhole : period.IsWhole)
    {connection : Connection} {now : Nat} (h : connection.Paced period.millis)
    (honTime : connection.OnTime now) : (connection.written policy now).Paced period.millis := by
  intro last hlast
  cases hservice : connection.service with
  | none => simp [Connection.written, hservice] at hlast
  | some service =>
    have hbeat : Writer.KeepsBeat period.millis
        (Writer.run policy service.phase (connection.desk service.client now)) :=
      Writer.keepsBeat_run hperiod hwhole (h service hservice) (honTime.writer service hservice)
        fun timer htimer => honTime.timers timer
          (List.mem_append_right _ (by simpa [writerTimers, hservice] using htimer))
    rw [service_written hservice] at hlast
    rw [session_written hservice, ← Option.some.inj hlast]
    generalize Writer.run policy service.phase (connection.desk service.client now) = result at hbeat ⊢
    obtain ⟨run, desk⟩ := result
    cases run with
    | suspended phase => exact hbeat phase rfl
    | exited exit => trivial

/-- The client accepts all frames quickly, and the write at hand is a quick one. -/
def Accepting (limit : Nat) (connection : Connection) : Prop :=
  ∃ service, connection.service = some service ∧ service.client.Accepts limit ∧
    service.phase.Quick limit

/-- A client stays quick if its connection is not disturbed. -/
theorem Accepting.undisturbed {limit : Nat} {before after : Connection} (h : before.Accepting limit)
    (hsame : before.Undisturbed after) : after.Accepting limit := by
  obtain ⟨service, hservice, ⟨script, attempts, hpeer, hscript⟩, hquick⟩ := h
  have hsome : after.service.isSome = true := by rw [hsame.isSome_service, hservice]; rfl
  obtain ⟨later, hlater⟩ := Option.isSome_iff_exists.mp hsome
  obtain ⟨earlier, hearlier, hwork⟩ := hsame.service_eq_some hlater
  obtain rfl := Option.some.inj (hservice.symm.trans hearlier)
  exact ⟨later, hlater, ⟨script, attempts, hwork.scripted script attempts hpeer, hscript⟩,
    hwork.phase ▸ hquick⟩

/-- A client stays quick in a run of the writer. -/
theorem Accepting.written {limit : Nat} {connection : Connection} (h : connection.Accepting limit)
    (policy : StreamPolicy) (now : Nat) : (connection.written policy now).Accepting limit := by
  obtain ⟨service, hservice, haccepts, hquick⟩ := h
  have hquicker : Writer.KeepsQuick limit
      (Writer.run policy service.phase (connection.desk service.client now)) :=
    Writer.keepsQuick_run policy haccepts hquick
  refine ⟨_, service_written hservice policy now,
    (Client.kept_accepts limit).run policy service.phase haccepts, ?_⟩
  generalize Writer.run policy service.phase (connection.desk service.client now) = result at hquicker
  obtain ⟨run, desk⟩ := result
  cases run with
  | suspended phase => exact hquicker phase rfl
  | exited exit => exact fun write hwrite => by (cases hwrite)

/-- A quick write that is on time has not lasted long. -/
theorem Accepting.le_began {limit : Nat} {connection : Connection} (h : connection.Accepting limit)
    {now : Nat} (honTime : connection.OnTime now) {service : Service}
    (hservice : connection.service = some service) {write : Write}
    (hwrite : service.phase = .writing write) : now ≤ write.began + limit := by
  obtain ⟨found, hfound, -, hquick⟩ := h
  obtain rfl := Option.some.inj (hservice.symm.trans hfound)
  obtain ⟨timer, htimer, hdue⟩ := hquick write hwrite
  have hmem : timer ∈ connection.timers := by
    simp [timers, writerTimers, hservice, hwrite, Writer.timers, htimer]
  exact Nat.le_trans (honTime.timers timer hmem) hdue

/-- No watch finds a session silent whose writer is on its beat, as long as its writes are quick. -/
theorem watchFinding_ne_silent {policy : StreamPolicy} {period limit now : Nat}
    {connection : Connection} {service : Service} (hservice : connection.service = some service)
    (htended : connection.Tended) (honTime : connection.OnTime now)
    (hpaced : connection.Paced period)
    (hquick : ∀ write, service.phase = .writing write → now ≤ write.began + limit)
    (hshort : .ofMillis (period + limit) < policy.idleTimeout) :
    connection.watchFinding policy now ≠ .silent := by
  intro hsilent
  obtain ⟨hcancelled, hlong, -⟩ := Watch.silent_run hsilent
  have hbeat := hpaced service hservice
  suffices hrecent : now - connection.session.lastActivity ≤ period + limit by
    have hbound : Duration.ofMillis (now - connection.session.lastActivity) ≤
        .ofMillis (period + limit) := Nat.mul_le_mul_right _ hrecent
    exact absurd (Nat.lt_of_le_of_lt hbound hshort) (Nat.not_lt.mpr hlong)
  cases hphase : service.phase with
  | spawned =>
    have hfirst := honTime.writer service hservice hphase
    omega
  | ended =>
    have hclaimed := htended.manned service hservice hphase
    rw [htended.cancelled, hclaimed] at hcancelled
    cases hcancelled
  | waiting keepalive =>
    rw [hphase] at hbeat
    obtain ⟨timer, hmem, hdue⟩ := hbeat
    have hnow := honTime.timers timer (by simp_all [timers, writerTimers, Writer.timers])
    omega
  | writing write =>
    rw [hphase] at hbeat
    have hbegan : write.began ≤ connection.session.lastActivity + period := hbeat
    have hnow := hquick write hphase
    omega

end Connection

namespace Hub

/-! ## Runs -/

/-- Connections stay on time and on pace in every punctual run. -/
theorem lasting_paced {policy : StreamPolicy} (hpolicy : policy.Usable) {period : Duration}
    (hperiod : policy.keepaliveInterval = some period) (hwhole : period.IsWhole) :
    Lasting policy fun now connection =>
      connection.OnTime now ∧ connection.Paced period.millis where
  watched now connection h := by
    have hpaced : (connection.watched policy now).Paced period.millis :=
      h.2.active rfl (Nat.le_refl _)
    exact ⟨(lasting_onTime hpolicy).watched now connection h.1,
      hpaced.undisturbed (connection.undisturbed_polledWatch policy now)⟩
  served now connection h :=
    ⟨(lasting_onTime hpolicy).served now connection h.1,
      (h.2.written hperiod hwhole h.1).undisturbed (connection.undisturbed_polledWriter policy now)⟩
  refreshed now connection h :=
    ⟨(lasting_onTime hpolicy).refreshed now connection h.1, h.2.active rfl h.1.past⟩
  noted now connection h :=
    ⟨(lasting_onTime hpolicy).noted now connection h.1, h.2.active rfl h.1.past⟩
  quiet now connection move hquiet h :=
    ⟨(lasting_onTime hpolicy).quiet now connection move hquiet h.1,
      h.2.undisturbed (connection.undisturbed_move hquiet)⟩

/-- In a punctual run with keepalives all writers are on their beat. -/
theorem paced_run {policy : StreamPolicy} {period : Duration}
    (hperiod : policy.clamped.keepaliveInterval = some period) (hwhole : period.IsWhole)
    {operations : List Operation} (hpunctual : (Hub.new policy).Punctual operations) :
    ∀ connection ∈ ((Hub.new policy).run operations).connections,
      connection.Paced period.millis := by
  have hlasting : Lasting (Hub.new policy).policy fun now connection =>
      connection.OnTime now ∧ connection.Paced period.millis :=
    lasting_paced policy.usable_clamped hperiod hwhole
  have hall := hlasting.run_of_punctual policy.usable_clamped
    (fun _ _ _ hrest hdue h => ⟨h.1.passed hrest hdue, h.2⟩)
    (fun hub operation connection _ harrives => ⟨onTime_of_arrives harrives, ?_⟩)
    (by simp [Hub.new]) hpunctual
  · exact fun connection hmem => (hall connection hmem).2
  · intro service hservice
    cases harrives with
    | joined | created => cases hservice
    | accepted topic id transport initial _ =>
      obtain rfl := Option.some.inj hservice
      trivial

/-- Clients that accept quickly go on to do so in every run. -/
theorem lasting_accepting (policy : StreamPolicy) (limit : Nat) :
    Lasting policy fun _ connection => connection.Accepting limit :=
  lasting_of_undisturbed (fun _ _ _ hsame h => h.undisturbed hsame) (fun _ _ h => h)
    (fun now _ h => h.written policy now) (fun _ _ h => h) (fun _ _ h => h)

end Hub

end LiveCounter
