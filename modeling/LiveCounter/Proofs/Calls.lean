import LiveCounter.Proofs.Moves

/-!
# Calls that take their time

Admitting, closing and sweeping are chains of small changes, each of which is made at once; between
two of them other calls may make theirs. A call is such a chain with the place that it has reached.
Run on its own, it does what the function does that it stands for: an admission is `join`, a close by
number is `closeLive`, and a sweep is `sweep`.
-/

namespace LiveCounter

/-! ## Teardowns -/

/-- What the teardown of a claimed session does next. -/
inductive Letdown where
  | keepFault
  | leaveTopic
  | releaseOutbox
  | leaveTable
  | giveSlot
  | terminate
  | countClosed
  deriving DecidableEq

/-- The closing of a session, claimed by somebody who saw it as the given session in the given
stage. -/
structure Claim where
  number : Nat
  cause : Cause
  session : Session
  previous : SessionStage

/-- How far a teardown has come. -/
inductive Teardown where
  | claim (n : Nat) (cause : Cause)
  | under (claim : Claim) (next : Letdown)
  | ended

/-- One change of the teardown of a claimed session. -/
def Claim.step (claim : Claim) (hub : Hub) : Letdown → Teardown × Hub
  | .keepFault =>
    (.under claim .leaveTopic,
      match claim.cause.failure with
      | some fault => hub.keepFault claim.number claim.session fault
      | none => hub)
  | .leaveTopic =>
    (.under claim .releaseOutbox, hub.leaveTopic claim.number claim.session claim.previous)
  | .releaseOutbox => (.under claim .leaveTable, hub.releaseOutbox claim.number)
  | .leaveTable =>
    if hub.table.contains claim.number then
      (.under claim .giveSlot, { hub with table := hub.table.erase claim.number })
    else (.under claim .terminate, hub)
  | .giveSlot => (.under claim .terminate, { hub with active := hub.active - 1 })
  | .terminate => (.under claim .countClosed, hub.terminate claim.number)
  | .countClosed => (.ended, hub.countClosed claim.number claim.previous claim.cause.reason)

/-- One change of a teardown. -/
def Teardown.step (hub : Hub) : Teardown → Teardown × Hub
  | .claim n cause =>
    match hub.session? n, hub.claim? n cause.reason with
    | some session, some (previous, hub) => (.under ⟨n, cause, session, previous⟩ .keepFault, hub)
    | _, _ => (.ended, hub)
  | .under claimed next => claimed.step hub next
  | .ended => (.ended, hub)

/-- Claiming succeeds for a session that nobody has claimed, and for no other one. -/
theorem Teardown.step_claim (hub : Hub) (n : Nat) (cause : Cause) :
    (∀ session, hub.session? n = some session → session.isClaimed = true) ∧
        (Teardown.claim n cause).step hub = (.ended, hub) ∨
      ∃ session, hub.session? n = some session ∧ session.isClaimed = false ∧
        (Teardown.claim n cause).step hub = (.under ⟨n, cause, session, session.stage⟩ .keepFault,
          hub.modifySession n fun _ => session.claimedFor cause.reason) := by
  cases hs : hub.session? n with
  | none => exact .inl ⟨by simp, by simp [step, hs]⟩
  | some session =>
    by_cases hclaimed : session.isClaimed = true
    · refine .inl ⟨by simpa using hclaimed, ?_⟩
      simp [step, hs, Hub.claim?, Session.claim?_of_isClaimed hclaimed]
    · rw [Bool.not_eq_true] at hclaimed
      refine .inr ⟨session, rfl, hclaimed, ?_⟩
      simp [step, hs, Hub.claim?, Session.claim?_of_unclaimed hclaimed]

/-! ## Calls -/

/-- What an admission does next, once its session is in the table. -/
inductive Opening where
  | subscribe
  | markOpen
  | withdraw
  | countOpened
  | lookAgain
  | startWatch
  deriving DecidableEq

/-- The parts of the table that a sweep goes through one after the other. -/
structure Shards where
  count : Nat
  shardOf : Nat → Fin count

/-- How far a call has come. -/
inductive Call where
  /-- An admission looks whether the hub is stopping. -/
  | ask (topic : Topic) (id : SessionId)
  | claimSlot (topic : Topic) (id : SessionId)
  | enter (topic : Topic) (id : SessionId)
  /-- The outbox of the session could not be made. -/
  | panicked
  | opening (n : Nat) (topic : Topic) (id : SessionId) (next : Opening)
  /-- A close looks for its session in the table. -/
  | find (n : Nat) (cause : Cause)
  /-- A sweep raises the flag. -/
  | raise (shards : Shards)
  /-- A sweep has noted the sessions of all shards before the given one. -/
  | note (shards : Shards) (shard : Nat) (noted : List Nat)
  /-- A session is torn down, and so are others after it. -/
  | closing (teardown : Teardown) (rest : List Nat)

namespace Call

/-- A call that has returned. -/
def returned : Call := .closing .ended []

/-- Whether a call has returned. -/
def isOver : Call → Bool
  | .closing .ended [] => true
  | _ => false

/-- Whether a call has done nothing yet. -/
def isFresh : Call → Bool
  | .ask _ _ | .find _ _ | .closing (.claim _ _) [] | .raise _ => true
  | _ => false

/-- Whether a call is a sweep that has done nothing yet. -/
def isSweep : Call → Bool
  | .raise _ => true
  | _ => false

/-- One change of an admission whose session is in the table. -/
def openingStep (hub : Hub) (n : Nat) (topic : Topic) (id : SessionId) : Opening → Call × Hub
  | .subscribe => (.opening n topic id .markOpen, hub.subscribe n topic)
  | .markOpen =>
    match hub.opened? n with
    | none => (.opening n topic id .withdraw, hub)
    | some hub => (.opening n topic id .countOpened, hub)
  | .withdraw =>
    (.returned, { hub with subscriptions := (hub.subscriptions.unsubscribe topic n).2 })
  | .countOpened => (.opening n topic id .lookAgain, hub.countOpened)
  | .lookAgain =>
    if hub.stopping then (.closing (.claim n (.plain .shutdown)) [], hub)
    else (.opening n topic id .startWatch, hub)
  | .startWatch =>
    (.returned, (hub.log .info "session opened" (Hub.topicFields id topic)).startWatch n)

/-- One change of a call. -/
def step (hub : Hub) : Call → Call × Hub
  | .ask topic id =>
    if hub.stopping then (.returned, hub.refuseStopping.2) else (.claimSlot topic id, hub)
  | .claimSlot topic id =>
    match hub.claimSlot? with
    | none => (.returned, (hub.refuseCapacity topic).2)
    | some hub => (.enter topic id, hub)
  | .enter topic id =>
    match hub.create topic hub.policy.queueCapacity id with
    | none => (.panicked, hub)
    | some (n, hub) => (.opening n topic id .subscribe, hub.enterTable n)
  | .panicked => (.panicked, hub)
  | .opening n topic id next => openingStep hub n topic id next
  | .find n cause =>
    if hub.table.contains n then (.closing (.claim n cause) [], hub) else (.returned, hub)
  | .raise shards => (.note shards 0 [], hub.beginStop)
  | .note shards shard noted =>
    if shard < shards.count then
      (.note shards (shard + 1) (noted ++ hub.table.filter fun n => (shards.shardOf n).val = shard),
        hub)
    else
      (.closing .ended noted,
        hub.log .info "closing all streams for shutdown" [("sessions", .nat noted.length)])
  | .closing .ended [] => (.returned, hub)
  | .closing .ended (n :: rest) => (.closing (.claim n (.plain .shutdown)) rest, hub)
  | .closing teardown rest => ((teardown.step hub).map (.closing · rest) id)

/-! ## What a step can do -/

/-- A call has neither a slot nor a session in hand. -/
def isIdle : Call → Bool
  | .enter _ _ | .panicked | .opening _ _ _ _ | .closing (.under _ _) _ => false
  | _ => true

/-- All that one step of a call can do, to the call and to the hub, which is given up to what is
reported. -/
inductive Step (hub : Hub) : Call → Call → Hub → Prop
  /-- Nothing happens, except that a sweep may raise the flag. -/
  | idle {call call' : Call} {later : Hub} (stopping : Bool) (hidle : call.isIdle = true)
      (hidle' : call'.isIdle = true) (hstopping : hub.stopping = true → stopping = true)
      (hlater : Hub.Reports { hub with stopping } later) : Step hub call call' later
  | claimSlot (topic : Topic) (id : SessionId) (hroom : hub.active < hub.policy.maxConnections) :
    Step hub (.claimSlot topic id) (.enter topic id) { hub with active := hub.active + 1 }
  | enter (topic : Topic) (id : SessionId) :
    Step hub (.enter topic id) (.opening hub.connections.length topic id .subscribe)
      ((hub.created topic hub.policy.queueCapacity id).enterTable hub.connections.length)
  | panic (topic : Topic) (id : SessionId) : Step hub (.enter topic id) .panicked hub
  | panicked : Step hub .panicked .panicked hub
  | subscribe (n : Nat) (topic : Topic) (id : SessionId) :
    Step hub (.opening n topic id .subscribe) (.opening n topic id .markOpen)
      (hub.subscribe n topic)
  | markOpen (n : Nat) (topic : Topic) (id : SessionId) {session : Session}
      (hs : hub.session? n = some session) (hstage : session.stage = .opening) :
    Step hub (.opening n topic id .markOpen) (.opening n topic id .countOpened)
      (hub.modifySession n fun _ => { session with stage := .open })
  | failToOpen (n : Nat) (topic : Topic) (id : SessionId)
      (hstage : ∀ session, hub.session? n = some session → session.stage ≠ .opening) :
    Step hub (.opening n topic id .markOpen) (.opening n topic id .withdraw) hub
  | withdraw (n : Nat) (topic : Topic) (id : SessionId) :
    Step hub (.opening n topic id .withdraw) .returned
      { hub with subscriptions := (hub.subscriptions.unsubscribe topic n).2 }
  | countOpened (n : Nat) (topic : Topic) (id : SessionId) {later : Hub}
      (hlater : Hub.Reports { hub with opened := hub.opened + 1 } later) :
    Step hub (.opening n topic id .countOpened) (.opening n topic id .lookAgain) later
  | leave (n : Nat) (topic : Topic) (id : SessionId) :
    Step hub (.opening n topic id .lookAgain) (.closing (.claim n (.plain .shutdown)) []) hub
  | stay (n : Nat) (topic : Topic) (id : SessionId) (hstopping : hub.stopping = false) :
    Step hub (.opening n topic id .lookAgain) (.opening n topic id .startWatch) hub
  | startWatch (n : Nat) (topic : Topic) (id : SessionId) {later : Hub}
      (hlater : (hub.startWatch n).Reports later) :
    Step hub (.opening n topic id .startWatch) .returned later
  | claim (n : Nat) (cause : Cause) (rest : List Nat) {session : Session}
      (hs : hub.session? n = some session) (hu : session.isClaimed = false) :
    Step hub (.closing (.claim n cause) rest)
      (.closing (.under ⟨n, cause, session, session.stage⟩ .keepFault) rest)
      (hub.modifySession n fun _ => session.claimedFor cause.reason)
  | keepFault (claim : Claim) (rest : List Nat) (fault : StreamFault) {later : Hub}
      (hlater : (hub.modifySession claim.number (·.keepFault fault)).Reports later) :
    Step hub (.closing (.under claim .keepFault) rest) (.closing (.under claim .leaveTopic) rest)
      later
  | noFault (claim : Claim) (rest : List Nat) :
    Step hub (.closing (.under claim .keepFault) rest) (.closing (.under claim .leaveTopic) rest)
      hub
  | leaveTopic (claim : Claim) (rest : List Nat) {later : Hub}
      (hlater : (hub.offTopic claim.number claim.session.topic claim.previous).Reports later) :
    Step hub (.closing (.under claim .leaveTopic) rest)
      (.closing (.under claim .releaseOutbox) rest) later
  | releaseOutbox (claim : Claim) (rest : List Nat) :
    Step hub (.closing (.under claim .releaseOutbox) rest)
      (.closing (.under claim .leaveTable) rest) (hub.releaseOutbox claim.number)
  | leaveTable (claim : Claim) (rest : List Nat)
      (hlisted : hub.table.contains claim.number = true) :
    Step hub (.closing (.under claim .leaveTable) rest) (.closing (.under claim .giveSlot) rest)
      { hub with table := hub.table.erase claim.number }
  | missing (claim : Claim) (rest : List Nat)
      (hmissing : hub.table.contains claim.number = false) :
    Step hub (.closing (.under claim .leaveTable) rest) (.closing (.under claim .terminate) rest)
      hub
  | giveSlot (claim : Claim) (rest : List Nat) :
    Step hub (.closing (.under claim .giveSlot) rest) (.closing (.under claim .terminate) rest)
      { hub with active := hub.active - 1 }
  | terminate (claim : Claim) (rest : List Nat) :
    Step hub (.closing (.under claim .terminate) rest) (.closing (.under claim .countClosed) rest)
      (hub.terminate claim.number)
  | countClosed (claim : Claim) (rest : List Nat) {later : Hub}
      (hlater : ((hub.tallyClosed claim.previous).tallyForced claim.cause.reason).Reports later) :
    Step hub (.closing (.under claim .countClosed) rest) (.closing .ended rest) later

/-- A step from one idle call to another that only reports is one of the steps. -/
theorem Step.quiet {hub later : Hub} {call call' : Call} (hidle : call.isIdle = true)
    (hidle' : call'.isIdle = true) (hlater : hub.Reports later) : Step hub call call' later :=
  .idle hub.stopping hidle hidle' id hlater

/-- So is whatever an admission does with its session. -/
theorem step_opening (hub : Hub) (n : Nat) (topic : Topic) (id : SessionId) (next : Opening) :
    Step hub (.opening n topic id next) (openingStep hub n topic id next).1
      (openingStep hub n topic id next).2 := by
  cases next with
  | subscribe => exact .subscribe n topic id
  | markOpen =>
    cases hs : hub.session? n with
    | none =>
      have hopened : hub.opened? n = none := by simp [Hub.opened?, hs]
      simp only [openingStep, hopened]
      exact .failToOpen n topic id (by simp [hs])
    | some session =>
      by_cases hstage : session.stage = .opening
      · have hopened : hub.opened? n =
            some (hub.modifySession n fun _ => { session with stage := .open }) := by
          simp [Hub.opened?, hs, Session.opened?, hstage]
        simp only [openingStep, hopened]
        exact .markOpen n topic id hs hstage
      · have hopened : hub.opened? n = none := by simp [Hub.opened?, hs, Session.opened?]
        simp only [openingStep, hopened]
        exact .failToOpen n topic id (by simpa [hs] using hstage)
  | withdraw => exact .withdraw n topic id
  | countOpened =>
    exact .countOpened n topic id ((Hub.reports_count _ _).trans (Hub.reports_moveActive _ _))
  | lookAgain =>
    by_cases hstopping : hub.stopping = true
    · simp only [openingStep, if_pos hstopping]
      exact .leave n topic id
    · simp only [openingStep, if_neg hstopping]
      exact .stay n topic id (by simpa using hstopping)
  | startWatch => exact .startWatch n topic id ((Hub.reports_log hub _ _ _).modify n _)

/-- So is whatever a teardown does. -/
theorem step_under (hub : Hub) (claim : Claim) (next : Letdown) (rest : List Nat) :
    Step hub (.closing (.under claim next) rest) (.closing (claim.step hub next).1 rest)
      (claim.step hub next).2 := by
  cases next with
  | keepFault =>
    simp only [Claim.step]
    split
    · exact .keepFault claim rest _ ((Hub.reports_log hub _ _ _).modify _ _)
    · exact .noFault claim rest
  | leaveTopic => exact .leaveTopic claim rest (Hub.reports_leaveTopic hub _ _ _)
  | releaseOutbox => exact .releaseOutbox claim rest
  | leaveTable =>
    by_cases hlisted : hub.table.contains claim.number = true
    · simp only [Claim.step, if_pos hlisted]
      exact .leaveTable claim rest hlisted
    · simp only [Claim.step, if_neg hlisted]
      exact .missing claim rest (by simpa using hlisted)
  | giveSlot => exact .giveSlot claim rest
  | terminate => exact .terminate claim rest
  | countClosed => exact .countClosed claim rest (Hub.reports_countClosed hub _ _ _)

/-- A call makes its session and enters it, or panics. -/
theorem step_enter (hub : Hub) (topic : Topic) (id : SessionId) :
    step hub (.enter topic id) =
      if hub.policy.queueCapacity ≤ Outbox.maxCapacity then
        (.opening hub.connections.length topic id .subscribe,
          (hub.created topic hub.policy.queueCapacity id).enterTable hub.connections.length)
      else (.panicked, hub) := by
  simp only [step, Hub.create_eq]
  by_cases hfits : hub.policy.queueCapacity ≤ Outbox.maxCapacity
  · simp only [if_pos hfits]
  · simp only [if_neg hfits]

/-- There are no other steps. -/
theorem step_spec (hub : Hub) (call : Call) :
    Step hub call (call.step hub).1 (call.step hub).2 := by
  cases call with
  | ask topic id =>
    by_cases hstopping : hub.stopping = true
    · simp only [step, if_pos hstopping]
      exact .quiet rfl rfl (Hub.reports_count hub _)
    · simp only [step, if_neg hstopping]
      exact .quiet rfl rfl (.refl hub)
  | claimSlot topic id =>
    by_cases hroom : hub.active < hub.policy.maxConnections
    · simp only [step, Hub.claimSlot?, if_pos hroom]
      exact .claimSlot topic id hroom
    · simp only [step, Hub.claimSlot?, if_neg hroom]
      exact .quiet rfl rfl ((Hub.reports_count hub _).trans (Hub.reports_log _ _ _ _))
  | enter topic id =>
    rw [step_enter]
    split
    · exact .enter topic id
    · exact .panic topic id
  | panicked => exact .panicked
  | opening n topic id next => exact step_opening hub n topic id next
  | find n cause =>
    by_cases hlisted : hub.table.contains n = true
    · simp only [step, if_pos hlisted]
      exact .quiet rfl rfl (.refl hub)
    · simp only [step, if_neg hlisted]
      exact .quiet rfl rfl (.refl hub)
  | raise shards => exact .idle true rfl rfl (fun _ => rfl) (.refl _)
  | note shards shard noted =>
    by_cases hshard : shard < shards.count
    · simp only [step, if_pos hshard]
      exact .quiet rfl rfl (.refl hub)
    · simp only [step, if_neg hshard]
      exact .quiet rfl rfl (Hub.reports_log hub _ _ _)
  | closing teardown rest =>
    cases teardown with
    | claim n cause =>
      show Step hub _ (.closing ((Teardown.claim n cause).step hub).1 rest)
        ((Teardown.claim n cause).step hub).2
      rcases Teardown.step_claim hub n cause with ⟨-, hstep⟩ | ⟨session, hs, hu, hstep⟩
      · rw [hstep]
        exact .quiet rfl rfl (.refl hub)
      · rw [hstep]
        exact .claim n cause rest hs hu
    | under claim next => exact step_under hub claim next rest
    | ended =>
      cases rest with
      | nil => exact .quiet rfl rfl (.refl hub)
      | cons n rest => exact .quiet rfl rfl (.refl hub)

/-! ## Calls on their own -/

/-- A call that runs on its own returns or panics, and leaves a hub behind. -/
inductive Leaves : Call → Hub → Hub → Prop
  | returned (hub : Hub) : returned.Leaves hub hub
  | panicked (hub : Hub) : Call.panicked.Leaves hub hub
  | step {call : Call} {hub later : Hub} (h : (call.step hub).1.Leaves (call.step hub).2 later) :
      call.Leaves hub later

namespace Leaves

variable {hub later : Hub} {rest : List Nat}

/-- A teardown that leaves the table and gives the slot back does what leaving the table does in the
hub. -/
theorem leaveTable {claim : Claim}
    (h : (closing (.under claim .terminate) rest).Leaves (hub.leaveTable claim.number) later) :
    (closing (.under claim .leaveTable) rest).Leaves hub later := by
  refine .step ?_
  by_cases hlisted : hub.table.contains claim.number = true
  · simp only [Hub.leaveTable, if_pos hlisted] at h
    simp only [Call.step, Teardown.step, Claim.step, if_pos hlisted]
    exact .step h
  · simp only [Hub.leaveTable, if_neg hlisted] at h
    simp only [Call.step, Teardown.step, Claim.step, if_neg hlisted]
    exact h

/-- A teardown on its own does what `retire` does. -/
theorem claim {n : Nat} {cause : Cause}
    (h : (closing .ended rest).Leaves (hub.retire n cause.reason cause.failure).2 later) :
    (closing (.claim n cause) rest).Leaves hub later := by
  refine .step ?_
  cases hs : hub.session? n with
  | none =>
    rw [Hub.retire_of_isClaimed (by simp [hs])] at h
    simp only [Call.step, Teardown.step, hs]
    exact h
  | some session =>
    cases hclaim : hub.claim? n cause.reason with
    | none =>
      simp only [Hub.retire, hs, hclaim] at h
      simp only [Call.step, Teardown.step, hs, hclaim]
      exact h
    | some pair =>
      obtain ⟨previous, claimed⟩ := pair
      simp only [Hub.retire, hs, hclaim] at h
      simp only [Call.step, Teardown.step, hs, hclaim]
      exact .step (.step (.step (leaveTable (.step (.step h)))))

/-- An admission that looks for the flag again closes its session or starts to watch it. -/
theorem lookAgain {n : Nat} {topic : Topic} {id : SessionId} :
    (opening n topic id .lookAgain).Leaves hub
      (if hub.stopping then (hub.close n .shutdown).2
        else (hub.log .info "session opened" (Hub.topicFields id topic)).startWatch n) := by
  refine .step ?_
  by_cases hstopping : hub.stopping = true
  · simp only [Call.step, openingStep, if_pos hstopping]
    exact claim (.returned _)
  · simp only [Call.step, openingStep, if_neg hstopping]
    exact .step (.returned _)

/-- The last part of an admission, run on its own, is `finishAdmission`. -/
theorem markOpen {n : Nat} {topic : Topic} {id : SessionId} :
    (opening n topic id .markOpen).Leaves hub (hub.finishAdmission n topic id).2 := by
  refine .step ?_
  cases hopened : hub.opened? n with
  | none =>
    simp only [Call.step, openingStep, Hub.finishAdmission, hopened]
    exact .step (.returned _)
  | some opened =>
    simp only [Call.step, openingStep, Hub.finishAdmission, hopened, apply_ite Prod.snd]
    exact .step lookAgain

/-- Closing the noted sessions, one after the other. -/
theorem closeEach (noted : List Nat) (hub : Hub) :
    (closing .ended noted).Leaves hub
      (Hub.closeEach (fun hub n => hub.close n .shutdown) noted hub).2 := by
  induction noted generalizing hub with
  | nil => exact .returned hub
  | cons n rest ih => exact .step (.claim (ih _))

end Leaves

/-- An admission, run on its own, is `join`. -/
theorem leaves_ask (hub : Hub) (topic : Topic) (id : SessionId) :
    (ask topic id).Leaves hub (hub.join topic id).2 := by
  refine .step ?_
  by_cases hstopping : hub.stopping = true
  · simp only [step, Hub.join, if_pos hstopping]
    exact .returned _
  · simp only [step, Hub.join, if_neg hstopping]
    refine .step ?_
    cases hslot : hub.claimSlot? with
    | none =>
      simp only [step, hslot]
      exact .returned _
    | some claimed =>
      simp only [step, hslot]
      refine .step ?_
      cases hcreate : claimed.create topic claimed.policy.queueCapacity id with
      | none =>
        simp only [step, hcreate]
        exact .panicked _
      | some created =>
        simp only [step, hcreate]
        exact .step .markOpen

/-- A close by number, run on its own, is `closeLive`. -/
theorem leaves_find (hub : Hub) (n : Nat) (reason : CloseReason) :
    (find n (.plain reason)).Leaves hub (hub.closeLive n reason).2 := by
  refine .step ?_
  by_cases hlisted : hub.table.contains n = true
  · simp only [step, Hub.closeLive, if_pos hlisted]
    exact .claim (.returned _)
  · simp only [step, Hub.closeLive, if_neg hlisted]
    exact .returned _

/-- A sweep that goes through the table at once, run on its own, is `sweep`. -/
theorem leaves_raise (hub : Hub) (shardOf : Nat → Fin 1) :
    (raise ⟨1, shardOf⟩).Leaves hub hub.beginStop.sweep.2 := by
  have hall : hub.beginStop.table.filter (fun n => (shardOf n).val = 0) = hub.beginStop.table := by
    simp
  refine .step (.step ?_)
  simp only [step, Nat.zero_lt_one, if_true, List.nil_append, hall]
  exact .step (.closeEach _ _)

end Call

end LiveCounter
