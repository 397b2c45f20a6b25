import LiveCounter.Hub.Basic

/-!
# Closing sessions

However a session comes to close, it closes through `retire`, and only the first call for a session
does anything: it claims the session, takes it off its topic, releases its outbox, takes it off the
table, gives its slot back, and ends it.
-/

namespace LiveCounter

/-- Whether a close did anything. -/
inductive CloseEffect where
  | closed
  | alreadyClosed
  deriving DecidableEq, Repr

namespace Hub

/-- Claims the closing of a session. -/
def claim? (hub : Hub) (n : Nat) (reason : CloseReason) : Option (SessionStage × Hub) := do
  let session ← hub.session? n
  let (previous, claimed) ← session.claim? reason
  some (previous, hub.modifySession n fun _ => claimed)

/-- Keeps the error that closes a session. -/
def keepFault (hub : Hub) (n : Nat) (session : Session) (fault : StreamFault) : Hub :=
  (hub.log .warn "session failed"
    (topicFields session.id session.topic ++ [("error", .str fault.message)])).modifySession n
      (·.keepFault fault)

/-- Notes that the records about a session disagree. -/
def noteDisagreement (hub : Hub) : Hub :=
  { hub with disagreements := hub.disagreements + 1 }.count .disagreements

/-- Takes a claimed session off its topic; an open one should have been there. -/
def leaveTopic (hub : Hub) (n : Nat) (session : Session) (previous : SessionStage) : Hub :=
  let (found, subscriptions) := hub.subscriptions.unsubscribe session.topic n
  let hub := { hub with subscriptions }
  if previous = .open ∧ ¬ found then
    let fault := StreamFault.disagreement
      ("open session " ++ session.id.text ++ " missing from registry at close")
    hub.noteDisagreement.log .error ""
      (topicFields session.id session.topic ++ [("error", .str fault.message)])
  else hub

/-- Releases the outbox of a session. -/
def releaseOutbox (hub : Hub) (n : Nat) : Hub :=
  hub.modifySession n fun session => { session with outbox := session.outbox.release.2 }

/-- Takes a session off the table and gives its slot back, if it was there. -/
def leaveTable (hub : Hub) (n : Nat) : Hub :=
  if hub.table.contains n then { hub with table := hub.table.erase n, active := hub.active - 1 }
  else hub

/-- Ends a session. -/
def terminate (hub : Hub) (n : Nat) : Hub :=
  hub.modifySession n (·.terminate)

/-- Counts a session that has closed. -/
def countClosed (hub : Hub) (n : Nat) (previous : SessionStage) (reason : CloseReason) : Hub :=
  let hub :=
    if previous = .open then
      let hub := { hub with closed := hub.closed + 1 }.count (.sessionsClosed reason)
      { hub with metrics := hub.metrics.moveActive (-1) }.count .sessionDurations
    else hub
  let hub :=
    if reason.isForced then
      { hub with forced := hub.forced + 1 }.count (.forcedClosures reason)
    else hub
  match hub.session? n with
  | none => hub
  | some session =>
    hub.log .info "session terminated" (topicFields session.id session.topic ++
      [("reason", .str reason.label), ("dropped", .nat session.dropped)])

/-- Tears a session down, for a reason and perhaps because of an error. -/
def retire (hub : Hub) (n : Nat) (reason : CloseReason) (fault : Option StreamFault) :
    CloseEffect × Hub :=
  match hub.session? n, hub.claim? n reason with
  | some session, some (previous, hub) =>
    let hub :=
      match fault with
      | some fault => hub.keepFault n session fault
      | none => hub
    let hub := hub.leaveTopic n session previous
    let hub := ((hub.releaseOutbox n).leaveTable n).terminate n
    (.closed, hub.countClosed n previous reason)
  | _, _ => (.alreadyClosed, hub)

/-- Closes a session for a reason. -/
def close (hub : Hub) (n : Nat) (reason : CloseReason) : CloseEffect × Hub :=
  hub.retire n reason none

/-- Closes a session because of an error. -/
def closeFor (hub : Hub) (n : Nat) (fault : StreamFault) : CloseEffect × Hub :=
  hub.retire n (.ofError fault) (some fault)

/-- Closes a session if it is in the table. -/
def closeLive (hub : Hub) (n : Nat) (reason : CloseReason) : CloseEffect × Hub :=
  if hub.table.contains n then hub.close n reason else (.alreadyClosed, hub)

/-- Closes sessions in turn by the given function, and counts those that it closed. -/
def closeEach (close : Hub → Nat → CloseEffect × Hub) : List Nat → Hub → Nat × Hub
  | [], hub => (0, hub)
  | n :: rest, hub =>
    let (effect, hub) := close hub n
    let (closed, hub) := closeEach close rest hub
    (if effect = .closed then closed + 1 else closed, hub)

/-- Closes the sessions of a topic, and counts them. -/
def clearTopic (hub : Hub) (topic : Topic) : Nat × Hub :=
  let handles := hub.subscriptions.handles topic
  let (closed, hub) := closeEach (fun hub n => hub.closeLive n .topicClosed) handles hub
  if 0 < closed then
    (closed, hub.log .info "topic streams closed"
      [("topic", .str topic.name), ("closed", .nat closed)])
  else (closed, hub)

/-! Closing leaves the clock alone. -/

/-- Keeping the error of a session takes no time. -/
@[simp] theorem now_keepFault (hub : Hub) (n : Nat) (session : Session)
    (fault : StreamFault) : (hub.keepFault n session fault).now = hub.now := rfl

/-- Taking a session off its topic takes no time. -/
@[simp] theorem now_leaveTopic (hub : Hub) (n : Nat) (session : Session)
    (previous : SessionStage) : (hub.leaveTopic n session previous).now = hub.now := by
  simp only [leaveTopic]
  split <;> rfl

/-- Taking a session out of the table takes no time. -/
@[simp] theorem now_leaveTable (hub : Hub) (n : Nat) : (hub.leaveTable n).now = hub.now := by
  unfold leaveTable
  split <;> rfl

/-- Counting a session that has ended takes no time. -/
@[simp] theorem now_countClosed (hub : Hub) (n : Nat) (previous : SessionStage)
    (reason : CloseReason) : (hub.countClosed n previous reason).now = hub.now := by
  simp only [countClosed]
  split <;> split <;> split <;> rfl

/-- Claiming a session takes no time. -/
theorem now_claim {hub hub' : Hub} {n : Nat} {reason : CloseReason} {previous : SessionStage}
    (h : hub.claim? n reason = some (previous, hub')) : hub'.now = hub.now := by
  simp only [claim?, bind, Option.bind_eq_some_iff] at h
  obtain ⟨_, _, _, _, h⟩ := h
  simp only [Option.some.injEq, Prod.mk.injEq] at h
  rw [← h.2]
  rfl

/-- Ending a session takes no time. -/
@[simp] theorem now_retire (hub : Hub) (n : Nat) (reason : CloseReason)
    (fault : Option StreamFault) : (hub.retire n reason fault).2.now = hub.now := by
  unfold retire
  split
  · next h =>
    simp only [now_countClosed]
    show (leaveTable _ n).now = _
    simp only [now_leaveTable]
    show (leaveTopic _ n _ _).now = _
    simp only [now_leaveTopic]
    cases fault <;> simp [now_claim h]
  · rfl

/-- A close takes no time. -/
@[simp] theorem now_close (hub : Hub) (n : Nat) (reason : CloseReason) :
    (hub.close n reason).2.now = hub.now :=
  now_retire hub n reason none

/-- A close for an error takes no time. -/
@[simp] theorem now_closeFor (hub : Hub) (n : Nat) (fault : StreamFault) :
    (hub.closeFor n fault).2.now = hub.now :=
  now_retire hub n (.ofError fault) (some fault)

end Hub

end LiveCounter
