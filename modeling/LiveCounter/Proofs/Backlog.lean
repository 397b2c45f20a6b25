import LiveCounter.Proofs.Grounds
import LiveCounter.Proofs.Keepalives
import LiveCounter.Proofs.ReadingDry

/-!
# Clients that stop reading

What waits for a client with a buffer is bounded by the room in the buffer, the one frame that is
being written and the capacity of the outbox. And a client that reads nothing does not stay for
long: each keepalive takes a free place in its buffer, each event takes one even sooner, so one
period for every place and one more period later a write has found the buffer full, and it is given
up when its time is over. What carries the proof is the room that is left, counted in keepalive
periods.
-/

namespace LiveCounter

namespace Client

/-- The client has a buffer of the given size, in which no more waits than there is room for. -/
def KeepsTo (size : Nat) (client : Client) : Prop :=
  ∃ unread, client.peer = .buffered size unread ∧ unread.length ≤ size

/-- The free places in the buffer of a client; one that has gone takes nothing any more. -/
def room (client : Client) : Nat :=
  match client.peer with
  | .scripted _ _ => 0
  | .buffered capacity unread => if client.gone then 0 else capacity - unread.length

/-- What becomes of a frame that is offered to a buffer: it takes a free place, or there is none, or
the client has gone. -/
inductive Fills (client : Client) : WriteStep × Client → Prop
  | accepted (later : Client) (h : client.room = later.room + 1) : Fills client (.accepted, later)
  | refused (fault : TransportFault) : Fills client (.refused fault, client)
  | stuck (h : client.room = 0) : Fills client (.stuck, client)

/-- A frame that is put into a buffer takes a free place if there is one. -/
theorem fills_fill {client : Client} {capacity : Nat} {unread : List Frame}
    (hpeer : client.peer = .buffered capacity unread) (now : Nat) (frame : Frame) :
    client.Fills (client.fill now frame capacity unread) := by
  unfold Client.fill
  split
  · exact .refused .closed
  · next hgone =>
    split
    · next hroom =>
      refine .accepted _ ?_
      simp only [room, hpeer, accept, hgone, Bool.false_eq_true, if_false, List.length_append,
        List.length_singleton]
      omega
    · next hfull =>
      refine .stuck ?_
      simp only [room, hpeer, hgone, Bool.false_eq_true, if_false]
      omega

/-- A write to a buffer begins by looking for a free place. -/
theorem IsBuffered.fills_beginWrite {client : Client} (h : client.IsBuffered) (now : Nat)
    (frame : Frame) : client.Fills (client.beginWrite now frame) := by
  obtain ⟨capacity, unread, hpeer⟩ := h
  simp only [Client.beginWrite, hpeer]
  exact fills_fill hpeer now frame

/-- A write that tries again looks for a free place as well. -/
theorem IsBuffered.fills_retry {client : Client} (h : client.IsBuffered) (now : Nat)
    (frame : Frame) : client.Fills (client.retry now frame) := by
  obtain ⟨capacity, unread, hpeer⟩ := h
  simp only [Client.retry, hpeer]
  exact fills_fill hpeer now frame

/-- A write to a client that blocks has found no free place. -/
theorem Blocks.room_eq_zero {client : Client} (h : client.Blocks) : client.room = 0 := by
  unfold Blocks at h
  unfold room
  cases hpeer : client.peer with
  | scripted script attempts => rfl
  | buffered capacity unread =>
    simp only [hpeer] at h
    simp only [h.1, Bool.false_eq_true, if_false]
    omega

/-- A client that has left takes nothing. -/
theorem room_leave (client : Client) : client.leave.room = 0 := by
  unfold Client.leave
  split
  · next hpeer => simp [room, hpeer]
  · simp [room]

/-- A client that reads nothing stays as it is. -/
theorem receive_eq_self {client : Client} {limit : Nat} (h : (client.receive limit).1 = []) :
    (client.receive limit).2 = client := by
  unfold Client.receive at h ⊢
  split at h
  · rfl
  · next capacity unread hpeer =>
    have hnone : unread.take limit = [] := h
    have hall : unread.drop limit = unread := by
      have hboth := List.take_append_drop limit unread
      rwa [hnone, List.nil_append] at hboth
    rw [hall, ← hpeer]

/-- A client that keeps to a size has a buffer. -/
theorem KeepsTo.isBuffered {size : Nat} {client : Client} (h : client.KeepsTo size) :
    client.IsBuffered := by
  obtain ⟨unread, hpeer, -⟩ := h
  exact ⟨size, unread, hpeer⟩

/-- No more waits than the buffer has room for. -/
theorem KeepsTo.length_unread {size : Nat} {client : Client} (h : client.KeepsTo size) :
    client.unread.length ≤ size := by
  obtain ⟨unread, hpeer, hlength⟩ := h
  simpa only [Client.unread, hpeer] using hlength

/-- There are no more free places than the buffer has places. -/
theorem KeepsTo.room_le {size : Nat} {client : Client} (h : client.KeepsTo size) :
    client.room ≤ size := by
  obtain ⟨unread, hpeer, -⟩ := h
  simp only [room, hpeer]
  split
  · exact Nat.zero_le _
  · exact Nat.sub_le _ _

/-- A buffer keeps to its size when a frame is put into it. -/
theorem KeepsTo.fill {size : Nat} {client : Client} (h : client.KeepsTo size) {capacity : Nat}
    {unread : List Frame} (hpeer : client.peer = .buffered capacity unread) (now : Nat)
    (frame : Frame) : (client.fill now frame capacity unread).2.KeepsTo size := by
  have hsize : capacity = size := by
    obtain ⟨_, hsame, -⟩ := h
    exact (Peer.buffered.inj (hpeer.symm.trans hsame)).1
  unfold Client.fill
  split
  · exact h
  · split
    · next hroom =>
      refine ⟨unread ++ [frame], by rw [hsize], ?_⟩
      rw [List.length_append, List.length_singleton, ← hsize]
      exact hroom
    · exact h

/-- A buffer keeps to its size when its client reads. -/
theorem KeepsTo.receive {size : Nat} {client : Client} (h : client.KeepsTo size) (limit : Nat) :
    (client.receive limit).2.KeepsTo size := by
  obtain ⟨unread, hpeer, hlength⟩ := h
  simp only [Client.receive, hpeer]
  refine ⟨unread.drop limit, rfl, ?_⟩
  rw [List.length_drop]
  exact Nat.le_trans (Nat.sub_le _ _) hlength

/-- A buffer keeps to its size when its client leaves. -/
theorem KeepsTo.leave {size : Nat} {client : Client} (h : client.KeepsTo size) :
    client.leave.KeepsTo size := by
  obtain ⟨unread, hpeer, hlength⟩ := h
  simp only [Client.leave, hpeer]
  exact ⟨[], rfl, Nat.zero_le _⟩

/-- Whatever a writer does, the buffer keeps to its size. -/
theorem kept_keepsTo (size : Nat) : Writer.Kept (KeepsTo size) where
  begin client now frame h := by
    obtain ⟨capacity, unread, hpeer⟩ := h.isBuffered
    simp only [Client.beginWrite, hpeer]
    exact h.fill hpeer now frame
  delay client now frame h := by
    obtain ⟨capacity, unread, hpeer⟩ := h.isBuffered
    simp only [Client.endDelay, hpeer]
    exact h.fill hpeer now frame
  retry client now frame h := by
    obtain ⟨capacity, unread, hpeer⟩ := h.isBuffered
    simp only [Client.retry, hpeer]
    exact h.fill hpeer now frame

end Client

/-- A pop adds nothing to an outbox. -/
theorem Outbox.length_pop_le (outbox : Outbox) :
    outbox.pop.2.items.length ≤ outbox.items.length := by
  unfold Outbox.pop
  split
  · exact Nat.le_refl _
  · split
    · exact Nat.le_refl _
    · next hitems =>
      rw [hitems]
      exact Nat.le_succ _

/-- The frame that a writer holds in its hands. -/
def Phase.inHand : Phase → List Frame
  | .writing write => [write.frame]
  | _ => []

namespace Writer

/-- The work of a writer adds nothing to the outbox. -/
theorem stepwise_length (policy : StreamPolicy) :
    Stepwise policy fun before after =>
      after.session.outbox.items.length ≤ before.session.outbox.items.length where
  refl _ := Nat.le_refl _
  trans hfirst hsecond := Nat.le_trans hsecond hfirst
  chosen keepalive desk := by
    have hpop := desk.session.outbox.length_pop_le
    unfold choose
    split
    · exact Nat.le_refl _
    · split
      · exact Nat.le_refl _
      · split
        · exact Nat.le_refl _
        · next heq => rwa [heq] at hpop
        · split
          · split <;> exact Nat.le_refl _
          · exact Nat.le_refl _
  armed desk := Nat.le_of_eq (by rw [session_armKeepalive])
  begun frame desk := by
    unfold beginWrite
    simp only
    split <;> exact Nat.le_refl _
  resumed write desk := by
    rw [session_resumeWrite]
    split <;> exact Nat.le_refl _

end Writer

namespace Connection

/-- What waits for the client keeps to its limits. -/
structure Bounded (size capacity : Nat) (connection : Connection) : Prop where
  client : ∃ service, connection.service = some service ∧ service.client.KeepsTo size
  capacity_eq : connection.session.outbox.capacity = capacity
  items : connection.session.outbox.items.length ≤ capacity

/-- Nothing but an offer adds to an outbox. -/
theorem length_items_move_of_not_offer (connection : Connection) {move : Move}
    (h : ∀ event, move ≠ .offer event) :
    (connection.move move).session.outbox.items.length ≤
      connection.session.outbox.items.length := by
  cases move with
  | offer event => exact absurd rfl (h event)
  | take => exact connection.session.outbox.length_pop_le
  | close cause =>
    simp only [Connection.move, withSession, Session.retired]
    split
    · exact Nat.le_refl _
    · exact Nat.zero_le _
  | claim reason =>
    simp only [Connection.move, withSession]
    split <;> exact Nat.le_refl _
  | release => exact Nat.zero_le _
  | refresh | noteWrite | receive | leave | letGo | watch => exact Nat.le_refl _
  | write policy now =>
    cases hservice : connection.service with
    | none =>
      simp only [Connection.move, written, hservice]
      exact Nat.le_refl _
    | some service =>
      rw [Connection.move, session_written hservice]
      exact (Writer.stepwise_length policy).run service.phase
        (connection.desk service.client now)

/-- With one move an outbox grows beyond what it held at most up to its capacity. -/
theorem length_items_move (connection : Connection) (move : Move) :
    (connection.move move).session.outbox.items.length ≤
      max connection.session.outbox.items.length connection.session.outbox.capacity := by
  by_cases hoffer : ∃ event, move = .offer event
  · obtain ⟨event, rfl⟩ := hoffer
    simp only [Connection.move, withSession, Session.offer_eq]
    split
    · split
      · exact Nat.le_max_left _ _
      · next hroom =>
        rw [Outbox.length] at hroom
        simp only [List.length_append, List.length_singleton]
        omega
    · exact Nat.le_max_left _ _
  · have hnot (event : CounterEvent) : move ≠ .offer event := fun heq => hoffer ⟨event, heq⟩
    exact Nat.le_trans (connection.length_items_move_of_not_offer hnot) (Nat.le_max_left _ _)

/-- What waits for the client keeps to its limits with every move. -/
theorem Bounded.move {size capacity : Nat} {connection : Connection}
    (h : connection.Bounded size capacity) (move : Move) :
    (connection.move move).Bounded size capacity := by
  obtain ⟨service, hservice, hclient⟩ := h.client
  refine ⟨?_, (connection.capacity_move move).trans h.capacity_eq, ?_⟩
  · cases move with
    | write policy now =>
      exact ⟨_, service_written hservice policy now,
        (Client.kept_keepsTo size).run policy service.phase hclient⟩
    | receive limit =>
      exact ⟨_, by rw [Connection.move, withClient, hservice]; rfl, hclient.receive limit⟩
    | leave => exact ⟨_, by rw [Connection.move, withClient, hservice]; rfl, hclient.leave⟩
    | _ => exact ⟨service, hservice, hclient⟩
  · have hmove := connection.length_items_move move
    have hitems := h.items
    have hcapacity := h.capacity_eq
    omega

end Connection

namespace Hub

/-- What waits for the client keeps to its limits in every run. -/
theorem lasting_bounded (policy : StreamPolicy) (size capacity : Nat) :
    Lasting policy fun _ connection => connection.Bounded size capacity :=
  lasting_of_move fun _ _ move h => h.move move

/-- A connection with a buffer keeps it, and its topic. -/
theorem lasting_buffered (policy : StreamPolicy) (topic : Topic) :
    Lasting policy fun _ connection => connection.Buffered topic :=
  lasting_of_move fun _ _ move h => h.move move

end Hub

/-! ## The room that is left -/

/-- A client that reads nothing has a full buffer by the given time, and a write that finds it full
has begun by then: what the writer waits for comes so early that there is a keepalive period left
for each free place, and for a writer that has not run yet one more. -/
def Phase.FillsBy (period limit now room : Nat) : Phase → Prop
  | .spawned => now + (room + 1) * period ≤ limit
  | .waiting keepalive => ∃ timer ∈ keepalive, timer.due + room * period ≤ limit
  | .writing write => write.began ≤ limit ∧ (room ≠ 0 → now + room * period ≤ limit)
  | .ended => True

/-- A writer in time for some free places is in time for fewer. -/
theorem Phase.FillsBy.anti {period limit now room fewer : Nat} {phase : Phase}
    (h : phase.FillsBy period limit now room) (hle : fewer ≤ room) :
    phase.FillsBy period limit now fewer := by
  have hmul : fewer * period ≤ room * period := Nat.mul_le_mul_right period hle
  cases phase with
  | spawned =>
    have hlimit : now + (room + 1) * period ≤ limit := h
    show now + (fewer + 1) * period ≤ limit
    rw [Nat.add_mul, Nat.one_mul] at hlimit ⊢
    omega
  | waiting keepalive =>
    obtain ⟨timer, hmem, hdue⟩ := h
    exact ⟨timer, hmem, by omega⟩
  | writing write =>
    refine ⟨h.1, fun hfewer => ?_⟩
    have hlimit := h.2 (by omega)
    omega
  | ended => trivial

namespace Writer

/-- An attempt to write takes a free place, or there is none, or the run is the last one. -/
def TakesRoom (client : Client) (result : Progress × Desk) : Prop :=
  match result.1 with
  | .written => client.room = result.2.client.room + 1
  | .halted (.suspended _) => result.2.client.room = 0
  | .halted (.exited _) => True

/-- A write that begins takes a free place, or finds none. -/
theorem takesRoom_beginWrite (policy : StreamPolicy) (frame : Frame) {desk : Desk}
    (h : desk.client.IsBuffered) : TakesRoom desk.client (beginWrite policy frame desk) := by
  have hfills := h.fills_beginWrite desk.clock.now frame
  rw [beginWrite]
  generalize desk.client.beginWrite desk.clock.now frame = result at hfills ⊢
  cases hfills with
  | accepted later hroom => exact hroom
  | refused fault => trivial
  | stuck hroom => exact hroom

/-- A write that waits for its client takes a free place when it goes on, or finds none. -/
theorem takesRoom_resumeWrite (policy : StreamPolicy) {write : Write} {desk : Desk}
    (h : desk.client.IsBuffered) (hwait : write.wait = .client) :
    TakesRoom desk.client (resumeWrite policy write desk) := by
  have hfills := h.fills_retry desk.clock.now write.frame
  have hanswer : answer write desk = desk.client.retry desk.clock.now write.frame := by
    simp only [answer, hwait]
  rw [resumeWrite_eq, hanswer]
  generalize desk.client.retry desk.clock.now write.frame = result at hfills ⊢
  cases hfills with
  | accepted later hroom => exact hroom
  | refused fault => trivial
  | stuck hroom =>
    simp only
    split
    · trivial
    · exact hroom

/-- A writer that serves a buffer has time: there is a keepalive period left for each free place. -/
structure HasTime (period limit : Nat) (keepalive : Option Timer) (desk : Desk) : Prop where
  buffered : desk.client.IsBuffered
  now : desk.clock.now + desk.client.room * period ≤ limit
  set : ∃ timer ∈ keepalive, timer.due + desk.client.room * period ≤ limit

/-- Where the writer goes on in the given phase, the buffer will be full in time. -/
def KeepsTime (period limit : Nat) (result : Run × Desk) : Prop :=
  ∀ phase, result.1 = .suspended phase →
    phase.FillsBy period limit result.2.clock.now result.2.client.room

/-- To choose the next task takes no place and no time. -/
theorem HasTime.chosen {period limit : Nat} {keepalive : Option Timer} {desk later : Desk}
    {task : Task} (h : HasTime period limit keepalive desk)
    (hchoose : choose keepalive desk = (task, later)) : HasTime period limit keepalive later := by
  have hclient := client_choose keepalive desk
  obtain ⟨hclock, -⟩ := untouched_choose keepalive desk
  rw [hchoose] at hclient hclock
  have hclient : later.client = desk.client := hclient
  have hclock : later.clock = desk.clock := hclock
  refine ⟨?_, ?_, ?_⟩
  · rw [hclient]
    exact h.buffered
  · rw [hclient, hclock]
    exact h.now
  · rw [hclient]
    exact h.set

variable {policy : StreamPolicy} {period : Duration} {limit : Nat}

/-- The next keepalive is one period away. -/
theorem hasTime_armKeepalive (hperiod : policy.keepaliveInterval = some period)
    (hwhole : period.IsWhole) {desk : Desk} (hbuffered : desk.client.IsBuffered)
    (h : desk.clock.now + (desk.client.room + 1) * period.millis ≤ limit) :
    HasTime period.millis limit (armKeepalive policy desk).1 (armKeepalive policy desk).2 := by
  obtain ⟨timer, hmem, hdue⟩ := due_armKeepalive hperiod hwhole desk
  rw [Nat.add_mul, Nat.one_mul] at h
  refine ⟨(client_armKeepalive policy desk).symm ▸ hbuffered, ?_, timer, hmem, ?_⟩
  · rw [now_armKeepalive, client_armKeepalive]
    omega
  · rw [client_armKeepalive]
    omega

/-- A writer that has time goes on where it will fill the buffer in time. -/
theorem keepsTime_serve (hperiod : policy.keepaliveInterval = some period) (hwhole : period.IsWhole)
    (steps : Nat) (keepalive : Option Timer) (desk : Desk)
    (h : HasTime period.millis limit keepalive desk) :
    KeepsTime period.millis limit (serve policy steps keepalive desk) := by
  refine serve_induction ?waits ?stops ?halts ?writes steps h
  case waits =>
    rintro keepalive desk htime phase hphase
    obtain rfl := Run.suspended.inj hphase
    exact htime.set
  case stops =>
    rintro keepalive desk reason - - phase hphase
    cases hphase
  case halts =>
    rintro keepalive desk frame chosen stopped last htime hchoose hhalted phase rfl
    have hchosen := htime.chosen hchoose
    have hfull := takesRoom_beginWrite policy frame hchosen.buffered
    rw [hhalted] at hfull
    obtain ⟨write, rfl, hbegan, -, -⟩ := writing_beginWrite hhalted
    refine ⟨?_, fun hroom => absurd hfull hroom⟩
    rw [hbegan]
    exact Nat.le_trans (Nat.le_add_right _ _) hchosen.now
  case writes =>
    rintro keepalive desk frame chosen written htime hchoose hwritten
    have hchosen := htime.chosen hchoose
    have htaken := takesRoom_beginWrite policy frame hchosen.buffered
    have hbuffered := (Client.kept_isBuffered.stepwise policy).begun frame chosen hchosen.buffered
    rw [hwritten] at htaken hbuffered
    have htaken : chosen.client.room = written.client.room + 1 := htaken
    obtain ⟨-, hclock⟩ := written_beginWrite hwritten
    refine hasTime_armKeepalive hperiod hwhole hbuffered ?_
    rw [hclock, ← htaken]
    exact hchosen.now

/-- A writer that is polled in time leaves a buffer that is full in time. -/
theorem keepsTime_run (hperiod : policy.keepaliveInterval = some period) (hwhole : period.IsWhole)
    {phase : Phase} {desk : Desk} (hbuffered : desk.client.IsBuffered)
    (hwait : ∀ write, phase = .writing write → write.wait = .client)
    (hfills : phase.FillsBy period.millis limit desk.clock.now desk.client.room)
    (htimers : ∀ timer ∈ timers phase, desk.clock.now ≤ timer.due) :
    KeepsTime period.millis limit (run policy phase desk) := by
  refine run_induction (keepsTime_serve hperiod hwhole) ?ended ?panics ?spawned ?waiting ?cancelled
    ?halts ?writes
  case ended =>
    rintro - phase hphase
    obtain rfl := Run.suspended.inj hphase
    trivial
  case panics =>
    rintro - - phase hphase
    cases hphase
  case spawned =>
    rintro rfl
    exact hasTime_armKeepalive hperiod hwhole hbuffered hfills
  case waiting =>
    rintro keepalive rfl
    obtain ⟨timer, hmem, hdue⟩ := hfills
    have hnow := htimers timer (Option.mem_toList.mpr hmem)
    exact ⟨hbuffered, by omega, timer, hmem, hdue⟩
  case cancelled =>
    rintro write - - phase hphase
    cases hphase
  case halts =>
    rintro write stopped last rfl hhalted phase rfl
    have hfull := takesRoom_resumeWrite policy hbuffered (hwait write rfl)
    rw [hhalted] at hfull
    obtain ⟨later, rfl, hbegan, -, -⟩ := writing_resumeWrite hhalted
    exact ⟨hbegan ▸ hfills.1, fun hroom => absurd hfull hroom⟩
  case writes =>
    rintro write written rfl hwritten
    have htaken := takesRoom_resumeWrite policy hbuffered (hwait write rfl)
    have hstill := (Client.kept_isBuffered.stepwise policy).resumed write desk hbuffered
    rw [hwritten] at htaken hstill
    have htaken : desk.client.room = written.client.room + 1 := htaken
    obtain ⟨-, hclock⟩ := written_resumeWrite hwritten
    refine hasTime_armKeepalive hperiod hwhole hstill ?_
    rw [hclock, ← htaken]
    exact hfills.2 (by omega)

end Writer

namespace Connection

/-- A client that reads nothing has a full buffer by the given time. -/
def FillsBy (period limit now : Nat) (connection : Connection) : Prop :=
  ∀ service, connection.service = some service →
    service.phase.FillsBy period limit now service.client.room

variable {period limit now : Nat}

/-- A run of the writer on time leaves the buffer on its way to be full. -/
theorem FillsBy.written {policy : StreamPolicy} {interval : Duration}
    (hperiod : policy.keepaliveInterval = some interval) (hwhole : interval.IsWhole)
    {connection : Connection} {topic : Topic} (h : connection.FillsBy interval.millis limit now)
    (honTime : connection.OnTime now) (hbuffered : connection.Buffered topic) :
    (connection.written policy now).FillsBy interval.millis limit now := by
  intro last hlast
  cases hservice : connection.service with
  | none => simp [Connection.written, hservice] at hlast
  | some service =>
    have htime : Writer.KeepsTime interval.millis limit
        (Writer.run policy service.phase (connection.desk service.client now)) :=
      Writer.keepsTime_run hperiod hwhole (hbuffered.client service hservice)
        (hbuffered.wait service hservice) (h service hservice) fun timer htimer =>
          honTime.timers timer
            (List.mem_append_right _ (by simpa [writerTimers, hservice] using htimer))
    have hstamped := Writer.stamped_run policy service.phase (connection.desk service.client now)
    rw [service_written hservice] at hlast
    rw [← Option.some.inj hlast]
    generalize Writer.run policy service.phase (connection.desk service.client now) = result
      at htime hstamped ⊢
    obtain ⟨run, desk⟩ := result
    have hnow : desk.clock.now = now := hstamped.now
    clear hstamped
    cases run with
    | suspended phase => exact hnow ▸ htime phase rfl
    | exited exit => trivial

/-- Whatever else happens to the connection makes no room in the buffer, unless the client reads. -/
theorem FillsBy.move {connection : Connection} (h : connection.FillsBy period limit now)
    {move : Move} (hwrite : runsWriter move = false) (hread : readsClient move = false) :
    (connection.move move).FillsBy period limit now := by
  cases move with
  | write => simp [runsWriter] at hwrite
  | receive => simp [readsClient] at hread
  | leave =>
    intro later hlater
    simp only [Connection.move, withClient, Option.map_eq_some_iff] at hlater
    obtain ⟨service, hservice, rfl⟩ := hlater
    refine (h service hservice).anti ?_
    rw [service.client.room_leave]
    exact Nat.zero_le _
  | _ => exact h

/-- Moves that neither run the writer nor read leave the buffer on its way to be full. -/
theorem FillsBy.after {connection : Connection} (h : connection.FillsBy period limit now)
    {moves : List Move} (hwrites : ∀ move ∈ moves, runsWriter move = false)
    (hreads : ∀ move ∈ moves, readsClient move = false) :
    (connection.after moves).FillsBy period limit now :=
  after_induction h fun move hmem _ hbefore =>
    hbefore.move (hwrites move hmem) (hreads move hmem)

/-- A client that asks for frames and gets none leaves its buffer as it is. -/
theorem FillsBy.received {connection : Connection} (h : connection.FillsBy period limit now)
    {size : Nat} (hnone : ∀ service, connection.service = some service →
      (service.client.receive size).1 = []) :
    (connection.move (.receive size)).FillsBy period limit now := by
  intro later hlater
  simp only [Connection.move, withClient, Option.map_eq_some_iff] at hlater
  obtain ⟨service, hservice, rfl⟩ := hlater
  rw [Client.receive_eq_self (hnone service hservice)]
  exact h service hservice

/-- Time fills no buffer, but a writer at rest that writes has found it full before. -/
theorem FillsBy.passed {connection : Connection} {topic : Topic} {millis : Nat}
    (h : connection.FillsBy period limit now) (hbuffered : connection.Buffered topic)
    (hrest : connection.AtRest now) : connection.FillsBy period limit (now + millis) := by
  intro service hservice
  have hfills := h service hservice
  cases hphase : service.phase with
  | spawned => exact absurd hphase (hrest.not_spawned.2 service hservice)
  | waiting keepalive =>
    rw [hphase] at hfills
    exact hfills
  | writing write =>
    rw [hphase] at hfills
    have hrests := hrest.writer service hservice
    rw [hphase] at hrests
    obtain ⟨-, -, hblocks⟩ := hrests
    simp only [hbuffered.wait service hservice write hphase] at hblocks
    have hblocks : service.client.Blocks := hblocks
    exact ⟨hfills.1, fun hroom => absurd hblocks.room_eq_zero hroom⟩
  | ended => trivial

end Connection

/-! ## Clients that may read no more -/

/-- A write that is under way is given up at the write timeout at the latest. -/
theorem Writer.Underway.due_le {policy : StreamPolicy} (hwhole : policy.writeTimeout.IsWhole)
    {write : Write} {client : Client} (h : Writer.Underway policy write client) :
    write.deadline.due ≤ write.began + policy.writeTimeout.millis := by
  have hset := (Clock.mk write.began 0).due_set hwhole
  rwa [Timer.due, Writer.instant_set, ← h.deadline] at hset

namespace Connection

/-- A writer on its beat fills the buffer within one keepalive period for each free place and one
more. -/
theorem Paced.fillsBy {period size now : Nat} {connection : Connection}
    (h : connection.Paced period) (hpast : connection.session.lastActivity ≤ now)
    (hroom : ∀ service, connection.service = some service → service.client.room ≤ size) :
    connection.FillsBy period (now + (size + 1) * period) now := by
  intro service hservice
  have hpaced := h service hservice
  have hmul : service.client.room * period ≤ size * period :=
    Nat.mul_le_mul_right period (hroom service hservice)
  rw [Nat.add_mul, Nat.one_mul]
  cases hphase : service.phase with
  | spawned =>
    show now + (service.client.room + 1) * period ≤ _
    rw [Nat.add_mul, Nat.one_mul]
    omega
  | waiting keepalive =>
    rw [hphase] at hpaced
    obtain ⟨timer, hmem, hdue⟩ := hpaced
    exact ⟨timer, hmem, by omega⟩
  | writing write =>
    rw [hphase] at hpaced
    have hbegan : write.began ≤ connection.session.lastActivity + period := hpaced
    exact ⟨by omega, fun _ => by omega⟩
  | ended => trivial

/-- When the buffer has been full for as long as a write may take, the session is not open any
more. -/
theorem FillsBy.not_open {policy : StreamPolicy} (hwhole : policy.writeTimeout.IsWhole)
    {period limit now : Nat} {connection : Connection} (h : connection.FillsBy period limit now)
    (hrest : connection.AtRest now) (htended : connection.Tended)
    (hduly : connection.WritesDuly policy) {service : Service}
    (hservice : connection.service = some service)
    (hlate : limit + policy.writeTimeout.millis ≤ now) : connection.session.stage ≠ .open := by
  intro hopen
  have hfills := h service hservice
  have hrests := hrest.writer service hservice
  cases hphase : service.phase with
  | spawned => exact hrest.not_spawned.2 service hservice hphase
  | ended =>
    have hclaimed := htended.manned service hservice hphase
    rw [Session.isClaimed_of_open hopen] at hclaimed
    cases hclaimed
  | waiting keepalive =>
    rw [hphase] at hfills hrests
    obtain ⟨timer, hmem, hdue⟩ := hfills
    have hlater : now < timer.due :=
      Timer.isDue_eq_false_iff.mp (hrests.notDue timer (Option.mem_toList.mpr hmem))
    omega
  | writing write =>
    rw [hphase] at hfills hrests
    have hlater : now < write.deadline.due := Timer.isDue_eq_false_iff.mp hrests.2.1
    have hdue := (hduly service write hservice hphase).due_le hwhole
    have hbegan := hfills.1
    omega

/-- The tasks of the connection are on time, and its client has a buffer that will be full by the
given time if the client reads nothing. -/
structure Filling (topic : Topic) (period limit now : Nat) (connection : Connection) : Prop where
  onTime : connection.OnTime now
  buffered : connection.Buffered topic
  fills : connection.FillsBy period limit now

end Connection

namespace Hub

section Filling

variable {hub : Hub} {interval : Duration} {n limit : Nat} {connection : Connection} {topic : Topic}

/-- An operation that reads nothing leaves the buffer on its way to be full. -/
theorem fillsBy_step (hperiod : hub.policy.keepaliveInterval = some interval)
    (hwhole : interval.IsWhole) (hconnection : hub.connections[n]? = some connection)
    (h : connection.Filling topic interval.millis limit hub.now) {operation : Operation}
    (hnone : received n hub operation = []) :
    (connection.after (hub.moves n operation)).FillsBy interval.millis limit hub.now := by
  by_cases hpoll : operation = .pollWriter n
  · subst hpoll
    simp only [moves, only, if_true, writerMoves, hconnection, Connection.writerMoves,
      Connection.after_cons]
    intro service hservice
    rw [Connection.service_after_closes] at hservice
    exact h.fills.written hperiod hwhole h.onTime h.buffered service hservice
  by_cases hreceive : ∃ size, operation = .receive n size
  · obtain ⟨size, rfl⟩ := hreceive
    simp only [moves, only, if_true, Connection.after_cons, Connection.after_nil]
    refine h.fills.received fun service hservice => ?_
    obtain ⟨session, watch, _, held, timersSet⟩ := connection
    obtain rfl : _ = some service := hservice
    simpa [received, receive, hconnection] using hnone
  · refine h.fills.after (fun move hmem => ?_) fun move hmem => ?_
    · cases does_of_mem hmem with
      | write => exact absurd rfl hpoll
      | _ => rfl
    · cases does_of_mem hmem with
      | receive size => exact absurd ⟨size, rfl⟩ hreceive
      | _ => rfl

/-- A step in which the client reads nothing, and which is punctual, keeps what fills its buffer. -/
theorem filling_step (hpolicy : hub.policy.Usable)
    (hperiod : hub.policy.keepaliveInterval = some interval) (hwhole : interval.IsWhole)
    (hconnection : hub.connections[n]? = some connection)
    (h : connection.Filling topic interval.millis limit hub.now) {operation : Operation}
    (hpunctual : operation.Punctual hub) (hnone : received n hub operation = []) :
    (connection.after (hub.moves n operation)).Filling topic interval.millis limit
      (hub.step operation).now := by
  by_cases hpassing : ∃ millis, operation = .pass millis
  · obtain ⟨millis, rfl⟩ := hpassing
    have hmem := List.mem_of_getElem? hconnection
    have hrest := (settled_iff hpolicy).mp hpunctual.1 connection hmem
    exact ⟨h.onTime.passed hrest (hpunctual.2 connection hmem), h.buffered,
      h.fills.passed h.buffered hrest⟩
  · have honTime : (connection.after (hub.moves n operation)).OnTime hub.now := by
      refine (lasting_onTime hpolicy).step (connections_step hconnection operation) (fun hn => ?_)
        fun before hbefore => ?_
      · exact absurd hn (Nat.ne_of_lt (List.getElem?_eq_some_iff.mp hconnection).1)
      · rw [← Option.some.inj (hconnection.symm.trans hbefore)]
        exact h.onTime
    rw [now_step fun millis heq => hpassing ⟨millis, heq⟩]
    exact ⟨honTime, h.buffered.after _, fillsBy_step hperiod hwhole hconnection h hnone⟩

/-- In a punctual run the buffer of a client that reads nothing stays on its way to be full. -/
theorem filling_run (hpolicy : hub.policy.Usable)
    (hperiod : hub.policy.keepaliveInterval = some interval) (hwhole : interval.IsWhole)
    (hconnection : hub.connections[n]? = some connection)
    (h : connection.Filling topic interval.millis limit hub.now) {operations : List Operation}
    (hpunctual : hub.Punctual operations) (hnone : history (received n) hub operations = []) :
    ∃ later, (hub.run operations).connections[n]? = some later ∧
      later.Filling topic interval.millis limit (hub.run operations).now := by
  induction operations generalizing hub connection with
  | nil => exact ⟨connection, hconnection, h⟩
  | cons operation rest ih =>
    obtain ⟨hfirst, hlast⟩ := List.append_eq_nil_iff.mp hnone
    have hsame := policy_step hub operation
    exact ih (hsame ▸ hpolicy) (hsame ▸ hperiod) (connections_step hconnection operation)
      (filling_step hpolicy hperiod hwhole hconnection h hpunctual.1 hfirst) hpunctual.2 hlast

end Filling

/-- A session that has just been accepted for a client with a buffer has an empty buffer and at most
its first event in the outbox. -/
theorem bounded_connect {hub : Hub} {topic : Topic} {id : SessionId} {buffer n : Nat}
    {initial : Option Int64}
    (h : (hub.connect topic id (Transport.channel buffer).client initial).1 = .ok n) :
    ∃ connection,
      (hub.connect topic id (Transport.channel buffer).client initial).2.connections[n]? =
        some connection ∧ connection.Bounded (max buffer 1) (max hub.policy.queueCapacity 1) := by
  refine ⟨_, connections_connect h, ?_⟩
  have hunopened : (hub.welcomed topic id (Transport.channel buffer).client none).Bounded
      (max buffer 1) (max hub.policy.queueCapacity 1) :=
    ⟨⟨_, rfl, [], rfl, Nat.zero_le _⟩, rfl, Nat.zero_le _⟩
  cases initial with
  | none => exact hunopened
  | some value => exact hunopened.move (.offer ⟨topic, value⟩)

section Channel

variable {policy : StreamPolicy} {period : Duration} {before : List Operation} {topic : Topic}
  {id : SessionId} {buffer n : Nat} {initial : Option Int64}

/-- In every run what waits for a client with a buffer keeps to its limits. -/
theorem exists_bounded (haccepted : (((Hub.new policy).run before).connect topic id
      (Transport.channel buffer).client initial).1 = .ok n) (after : List Operation) :
    ∃ connection, ((((Hub.new policy).run before).connect topic id
        (Transport.channel buffer).client initial).2.run after).connections[n]? = some connection ∧
      connection.Bounded (max buffer 1) policy.clamped.queueCapacity := by
  obtain ⟨connection, hconnection, hbounded⟩ := bounded_connect haccepted
  rw [policy_run, show (Hub.new policy).policy = policy.clamped from rfl,
    policy.max_queueCapacity_clamped] at hbounded
  exact (lasting_bounded _ _ _).run_one (fun _ _ _ _ h => h) hconnection hbounded after

/-- From any moment on a client that reads nothing has a full buffer after one keepalive period for
each place in it and one more. -/
theorem exists_filling (hwhole : policy.clamped.WholeMillis)
    (hkeepalive : policy.clamped.keepaliveInterval = some period)
    (haccepted : (((Hub.new policy).run before).connect topic id
      (Transport.channel buffer).client initial).1 = .ok n) {after : List Operation}
    (hpunctual : (Hub.new policy).Punctual
      (before ++ .connect topic id (.channel buffer) initial :: after)) :
    let hub := (((Hub.new policy).run before).connect topic id
      (Transport.channel buffer).client initial).2.run after
    ∃ connection, hub.connections[n]? = some connection ∧ connection.Filling topic period.millis
      (hub.now + (max buffer 1 + 1) * period.millis) hub.now := by
  intro hub
  have hrun : (Hub.new policy).run
      (before ++ .connect topic id (.channel buffer) initial :: after) = hub := run_connect
  obtain ⟨connection, hconnection, hbounded⟩ := exists_bounded haccepted after
  have hbegun := (feeds_connect haccepted).buffered _ (connections_connect haccepted)
  obtain ⟨_, hsame, hbuffered⟩ := (lasting_buffered _ topic).run_one (fun _ _ _ _ h => h)
    (connections_connect haccepted) hbegun after
  obtain rfl := Option.some.inj (hconnection.symm.trans hsame)
  have hmem : connection ∈ hub.connections := List.mem_of_getElem? hconnection
  have honTime : connection.OnTime hub.now :=
    hrun ▸ onTime_run policy hpunctual connection (hrun.symm ▸ hmem)
  have hpaced : connection.Paced period.millis :=
    paced_run hkeepalive (hwhole.keepaliveInterval period hkeepalive) hpunctual connection
      (hrun.symm ▸ hmem)
  refine ⟨connection, hconnection, honTime, hbuffered, hpaced.fillsBy honTime.past ?_⟩
  intro service hservice
  obtain ⟨found, hfound, hkeeps⟩ := hbounded.client
  obtain rfl := Option.some.inj (hfound.symm.trans hservice)
  exact hkeeps.room_le

end Channel

/-- A client that stops reading costs little memory, and not for long. In every run no more frames
wait in its buffer than there is room for, at most one is being written, and the outbox keeps to its
capacity. And if from some moment on the client reads nothing, then in a punctual run its session is
not open any more once one keepalive period for each place in the buffer, one more, and the write
timeout are over and the tasks have settled. -/
theorem clients_that_stop_reading_are_cut_off {policy : StreamPolicy} {period : Duration}
    (hwhole : policy.clamped.WholeMillis)
    (hkeepalive : policy.clamped.keepaliveInterval = some period) (before : List Operation)
    (topic : Topic) (id : SessionId) (buffer : Nat) (initial : Option Int64) (n : Nat)
    (haccepted : (((Hub.new policy).run before).connect topic id
      (Transport.channel buffer).client initial).1 = .ok n) :
    let start := (((Hub.new policy).run before).connect topic id
      (Transport.channel buffer).client initial).2
    (∀ after, ∃ connection service, (start.run after).connections[n]? = some connection ∧
      connection.service = some service ∧ service.client.unread.length ≤ max buffer 1 ∧
      service.phase.inHand.length ≤ 1 ∧
      connection.session.outbox.items.length ≤ policy.clamped.queueCapacity) ∧
    ∀ first second, (Hub.new policy).Punctual
        (before ++ .connect topic id (.channel buffer) initial :: (first ++ second)) →
      history (received n) (start.run first) second = [] →
      ((start.run first).run second).Settled →
      (start.run first).now + (max buffer 1 + 1) * period.millis +
          policy.clamped.writeTimeout.millis ≤ ((start.run first).run second).now →
      ∃ session, ((start.run first).run second).session? n = some session ∧
        session.stage ≠ .open := by
  intro start
  refine ⟨fun after => ?_, fun first second hpunctual hnone hsettled hlate => ?_⟩
  · obtain ⟨connection, hconnection, hbounded⟩ := exists_bounded haccepted after
    obtain ⟨service, hservice, hkeeps⟩ := hbounded.client
    refine ⟨connection, service, hconnection, hservice, hkeeps.length_unread, ?_, hbounded.items⟩
    cases service.phase <;> simp [Phase.inHand]
  · have hwholeRun : (Hub.new policy).run
        (before ++ .connect topic id (.channel buffer) initial :: (first ++ second)) =
          (start.run first).run second := by
      rw [run_connect, run_append]
    have hrun : (Hub.new policy).run
        (before ++ .connect topic id (.channel buffer) initial :: first) = start.run first :=
      run_connect
    rw [← List.cons_append, ← List.append_assoc] at hpunctual
    obtain ⟨hfirst, hsecond⟩ := punctual_append.mp hpunctual
    have husable := usable_run policy
      (before ++ .connect topic id (.channel buffer) initial :: first)
    have hpolicy := policy_run (Hub.new policy)
      (before ++ .connect topic id (.channel buffer) initial :: first)
    rw [hrun] at hsecond husable hpolicy
    obtain ⟨connection, hconnection, hfilling⟩ :=
      exists_filling hwhole hkeepalive haccepted hfirst
    obtain ⟨later, hlater, hfilled⟩ := filling_run husable (hpolicy ▸ hkeepalive)
      (hwhole.keepaliveInterval period hkeepalive) hconnection hfilling hsecond hnone
    refine ⟨later.session, by rw [session?, hlater, Option.map_some], ?_⟩
    have hmem := List.mem_of_getElem? hlater
    obtain ⟨_, hsame, hbounded⟩ := exists_bounded haccepted (first ++ second)
    rw [run_append, hlater] at hsame
    obtain rfl := Option.some.inj hsame
    obtain ⟨service, hservice, -⟩ := hbounded.client
    exact hfilled.fills.not_open hwhole.writeTimeout
      ((settled_iff (by rwa [policy_run])).mp hsettled later hmem)
      (tended_run policy _ later (hwholeRun.symm ▸ hmem))
      (writesDuly_run policy _ later (hwholeRun.symm ▸ hmem)) hservice hlate

/-- A client with room for one frame that never reads: a keepalive fills its buffer after three
milliseconds, the next one finds it full after six, and is given up after eight. The session is open
until then. -/
theorem clients_that_stop_reading_are_cut_off_in_time :
    let policy : StreamPolicy :=
      { StreamPolicy.default with
        idleTimeout := .ofMillis 50, detectionInterval := .ofMillis 50
        keepaliveInterval := some (.ofMillis 3), writeTimeout := .ofMillis 2 }
    let start := (((Hub.new policy).run []).connect (.random 0) ⟨0⟩ (Transport.channel 1).client
      none).2
    let earlier := start.run [.pollWatch 0, .pollWriter 0, .pass 3, .pollWriter 0, .pass 3,
      .pollWriter 0, .pass 1]
    let hub := start.run [.pollWatch 0, .pollWriter 0, .pass 3, .pollWriter 0, .pass 3,
      .pollWriter 0, .pass 2, .pollWriter 0, .pollWatch 0]
    earlier.now = 7 ∧ earlier.IsOpen 0 ∧ hub.now = 8 ∧
      ∃ session, hub.session? 0 = some session ∧ session.stage ≠ .open := by
  intro policy start earlier hub
  have hwhole : policy.clamped.WholeMillis :=
    ⟨by decide +kernel, by decide +kernel, by decide +kernel, by decide +kernel⟩
  have hsettled : ((Hub.new policy).run ([] ++ .connect (.random 0) ⟨0⟩ (.channel 1) none ::
      [.pollWatch 0, .pollWriter 0, .pass 3, .pollWriter 0, .pass 3, .pollWriter 0, .pass 2,
        .pollWriter 0, .pollWatch 0])).Settled := by
    decide +kernel
  rw [run_connect] at hsettled
  obtain ⟨-, hclosed⟩ := clients_that_stop_reading_are_cut_off hwhole
    (show policy.clamped.keepaliveInterval = some (.ofMillis 3) by decide +kernel) []
    (.random 0) ⟨0⟩ 1 none 0 (by decide +kernel)
  refine ⟨by decide +kernel, by decide +kernel, by decide +kernel, ?_⟩
  exact hclosed [] [.pollWatch 0, .pollWriter 0, .pass 3, .pollWriter 0, .pass 3, .pollWriter 0,
    .pass 2, .pollWriter 0, .pollWatch 0] (by decide +kernel) (by decide +kernel) hsettled
    (by decide +kernel)

end Hub

end LiveCounter
