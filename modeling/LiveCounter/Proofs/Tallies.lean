import LiveCounter.Proofs.Accounts

/-!
# Totals in the midst of calls

Between two steps of a call the totals of the hub may be one off: a slot may be taken for a session
that is not in the table, and a session may be open, or torn down, without having been counted. The
totals agree as soon as the calls under way are counted in.
-/

namespace LiveCounter

namespace Call

/-- A call holds a slot for a session that is not in the table. One that panicked holds it for
good. -/
def holdsSlot : Call → Bool
  | .enter _ _ | .panicked | .closing (.under _ .giveSlot) _ => true
  | _ => false

/-- A call has opened a session that is still to be counted. -/
def owesOpened : Call → Bool
  | .opening _ _ _ .countOpened => true
  | _ => false

/-- A call tears down a session that was open and is still to be counted. -/
def owesClosed : Call → Bool
  | .closing (.under claim _) _ => claim.previous = .open
  | _ => false

/-- A call with nothing in hand owes nothing. -/
theorem owes_of_isIdle {call : Call} (h : call.isIdle = true) :
    call.holdsSlot = false ∧ call.owesOpened = false ∧ call.owesClosed = false := by
  cases call with
  | enter | panicked | opening => simp [isIdle] at h
  | closing teardown rest =>
    cases teardown with
    | under => simp [isIdle] at h
    | _ => exact ⟨rfl, rfl, rfl⟩
  | _ => exact ⟨rfl, rfl, rfl⟩

end Call

namespace Hub

/-- The totals of a hub under a policy agree, calls under way and slots lost before them counted
in. -/
structure Tallied (policy : StreamPolicy) (lost : Nat) (hub : Hub) (calls : List Call) : Prop where
  policy_eq : hub.policy = policy
  active_eq : hub.active = hub.table.length + calls.countP Call.holdsSlot + lost
  active_le : hub.active ≤ hub.policy.maxConnections
  opened_eq : hub.opened + calls.countP Call.owesOpened =
    hub.closed + hub.openConnections.length + calls.countP Call.owesClosed
  disagreements_eq : hub.disagreements = 0

/-- Whoever gives a slot back takes it from those that are taken. -/
theorem Tallied.active_pos {policy : StreamPolicy} {lost : Nat} {hub : Hub} {calls : List Call}
    (h : hub.Tallied policy lost calls) {call : Call}
    (hcall : call ∈ calls) (hholds : call.holdsSlot = true) : 0 < hub.active := by
  have hheld : 0 < calls.countP Call.holdsSlot := List.countP_pos_iff.mpr ⟨call, hcall, hholds⟩
  have hactive := h.active_eq
  omega

/-- The later hub has the same totals. -/
structure SameTotals (hub later : Hub) : Prop where
  active : later.active = hub.active
  table : later.table.length = hub.table.length
  policy : later.policy = hub.policy
  opened : later.opened = hub.opened
  closed : later.closed = hub.closed
  openConnections : later.openConnections.length = hub.openConnections.length
  disagreements : later.disagreements = hub.disagreements

/-- A hub has the totals that it has. -/
theorem SameTotals.refl (hub : Hub) : hub.SameTotals hub :=
  ⟨rfl, rfl, rfl, rfl, rfl, rfl, rfl⟩

/-- Totals that stay the same twice stay the same. -/
theorem SameTotals.trans {first second third : Hub} (h : first.SameTotals second)
    (h' : second.SameTotals third) : first.SameTotals third :=
  ⟨h'.active.trans h.active, h'.table.trans h.table, h'.policy.trans h.policy,
    h'.opened.trans h.opened, h'.closed.trans h.closed,
    h'.openConnections.trans h.openConnections, h'.disagreements.trans h.disagreements⟩

/-- Reports leave the totals alone. -/
theorem Reports.sameTotals {hub later : Hub} (h : hub.Reports later) : hub.SameTotals later := by
  obtain ⟨_, _, -, rfl⟩ := h
  exact ⟨rfl, rfl, rfl, rfl, rfl, rfl, rfl⟩

/-- Changing one connection changes the number of open ones by what happens to that one. -/
theorem length_openConnections_modify {hub : Hub} {n : Nat} {connection : Connection}
    (hconnection : hub.connections[n]? = some connection) (f : Connection → Connection) :
    (hub.modify n f).openConnections.length + connection.session.isOpen.toNat =
      hub.openConnections.length + (f connection).session.isOpen.toNat := by
  obtain ⟨hn, rfl⟩ := List.getElem?_eq_some_iff.mp hconnection
  have hbefore : hub.connections =
      hub.connections.take n ++ hub.connections[n] :: hub.connections.drop (n + 1) := by simp
  have hafter := List.modify_eq_take_cons_drop (f := f) hn
  have hcount (connection : Connection) (rest : List Connection) :
      ((connection :: rest).filter (·.session.isOpen)).length =
        connection.session.isOpen.toNat + (rest.filter (·.session.isOpen)).length := by
    cases h : connection.session.isOpen <;> simp [h, Nat.add_comm]
  have hold := congrArg (fun connections => (connections.filter (·.session.isOpen)).length) hbefore
  simp only [List.filter_append, List.length_append, hcount] at hold
  simp only [openConnections, modify, hafter, List.filter_append, List.length_append, hcount]
  omega

/-- A change of one session changes the number of open ones by what it does to that session. -/
theorem length_openConnections_modifySession {hub : Hub} {n : Nat} {session : Session}
    (hs : hub.session? n = some session) (f : Session → Session) :
    (hub.modifySession n f).openConnections.length + session.isOpen.toNat =
      hub.openConnections.length + (f session).isOpen.toNat := by
  obtain ⟨connection, hconnection, rfl⟩ := connection_of_session? hs
  exact length_openConnections_modify hconnection _

/-- A change that neither opens nor closes a session leaves the totals alone. -/
theorem sameTotals_modify {hub : Hub} {n : Nat} {session : Session} {f : Connection → Connection}
    (hs : hub.session? n = some session)
    (hf : ∀ connection, connection.session = session →
      (f connection).session.isOpen = session.isOpen) : hub.SameTotals (hub.modify n f) := by
  obtain ⟨connection, hconnection, rfl⟩ := connection_of_session? hs
  have hlength := length_openConnections_modify hconnection f
  rw [hf connection rfl] at hlength
  exact ⟨rfl, rfl, rfl, rfl, rfl, Nat.add_right_cancel hlength, rfl⟩

section Steps

variable {policy : StreamPolicy} {lost : Nat} {hub later : Hub} {before after : List Call}
  {call call' : Call}

/-- The totals agree after a step if they have changed by what the step says. -/
theorem Tallied.change (h : hub.Tallied policy lost (before ++ call :: after))
    (hactive : later.active + hub.table.length + call.holdsSlot.toNat =
      hub.active + later.table.length + call'.holdsSlot.toNat)
    (hpolicy : later.policy = hub.policy) (hle : later.active ≤ hub.policy.maxConnections)
    (hopened : later.opened + hub.closed + hub.openConnections.length + call'.owesOpened.toNat +
        call.owesClosed.toNat =
      hub.opened + later.closed + later.openConnections.length + call.owesOpened.toNat +
        call'.owesClosed.toNat)
    (hdisagreements : later.disagreements = hub.disagreements) :
    later.Tallied policy lost (before ++ call' :: after) := by
  have hcount (p : Call → Bool) (call : Call) :
      (before ++ call :: after).countP p = before.countP p + after.countP p + (p call).toNat := by
    rw [List.countP_append, List.countP_cons]
    cases p call <;> simp [Nat.add_assoc]
  have hbefore := h.active_eq
  have hledger := h.opened_eq
  simp only [hcount] at hbefore hledger
  refine ⟨hpolicy.trans h.policy_eq, ?_, by rwa [hpolicy], ?_,
    hdisagreements.trans h.disagreements_eq⟩
  · rw [hcount]
    omega
  · rw [hcount, hcount]
    omega

/-- A step that changes no total, neither of the hub nor of the calls. -/
theorem Tallied.keep (h : hub.Tallied policy lost (before ++ call :: after))
    (hsame : hub.SameTotals later) (hslot : call'.holdsSlot = call.holdsSlot)
    (hopened : call'.owesOpened = call.owesOpened)
    (hclosed : call'.owesClosed = call.owesClosed) :
    later.Tallied policy lost (before ++ call' :: after) := by
  refine h.change ?_ hsame.policy ?_ ?_ hsame.disagreements
  · rw [hsame.active, hsame.table, hslot]
  · rw [hsame.active]
    exact h.active_le
  · rw [hsame.opened, hsame.closed, hsame.openConnections, hopened, hclosed]

/-! ## The steps that change a total -/

/-- The slot of an admission is that of its session once the session is in the table. -/
theorem Tallied.enter {topic : Topic} {id : SessionId}
    (h : hub.Tallied policy lost (before ++ .enter topic id :: after)) :
    ((hub.created topic hub.policy.queueCapacity id).enterTable
      hub.connections.length).Tallied policy lost
        (before ++ .opening hub.connections.length topic id .subscribe :: after) := by
  refine h.change ?_ rfl h.active_le ?_ rfl
  · show hub.active + hub.table.length + 1 = hub.active + (hub.table ++ [_]).length + 0
    rw [List.length_append]
    rfl
  · simp [enterTable, created, openConnections, Session.create, Session.isOpen, Call.owesOpened,
      Call.owesClosed]

/-- A session that opens has still to be counted. -/
theorem Tallied.markOpen {n : Nat} {topic : Topic} {id : SessionId} {session : Session}
    (h : hub.Tallied policy lost (before ++ .opening n topic id .markOpen :: after))
    (hs : hub.session? n = some session) (hstage : session.stage = .opening) :
    (hub.modifySession n fun _ => { session with stage := .open }).Tallied policy lost
      (before ++ .opening n topic id .countOpened :: after) := by
  set opened : Session := { session with stage := .open }
  have hlength := length_openConnections_modifySession hs fun _ => opened
  rw [show session.isOpen = false by simp [Session.isOpen, hstage],
    show opened.isOpen = true from rfl] at hlength
  refine h.change rfl rfl h.active_le ?_ rfl
  show hub.opened + hub.closed + hub.openConnections.length + 1 + 0 =
    hub.opened + hub.closed + (hub.modifySession n fun _ => opened).openConnections.length + 0 + 0
  simp only [Bool.toNat_true, Bool.toNat_false] at hlength
  omega

/-- The end of an open session that is claimed has still to be counted. -/
theorem Tallied.claimed {n : Nat} {cause : Cause} {rest : List Nat}
    (h : hub.Tallied policy lost (before ++ .closing (.claim n cause) rest :: after)) {session : Session}
    (hs : hub.session? n = some session) :
    (hub.modifySession n fun _ => session.claimedFor cause.reason).Tallied policy lost
      (before ++
        .closing (.under ⟨n, cause, session, session.stage⟩ .keepFault) rest :: after) := by
  -- A claimed session is not open, so an open one moves from the one side to the other.
  have hlength : (hub.modifySession n fun _ => session.claimedFor cause.reason
      ).openConnections.length + session.isOpen.toNat = hub.openConnections.length + 0 :=
    length_openConnections_modifySession hs _
  have howes : (Call.closing (.under ⟨n, cause, session, session.stage⟩ .keepFault) rest
    ).owesClosed = session.isOpen := rfl
  refine h.change rfl rfl h.active_le ?_ rfl
  rw [howes]
  show hub.opened + hub.closed + hub.openConnections.length + 0 + 0 = hub.opened + hub.closed +
    (hub.modifySession n fun _ => session.claimedFor cause.reason).openConnections.length + 0 +
      session.isOpen.toNat
  omega

/-- Every step of a call keeps the totals in agreement, calls under way counted in. -/
theorem Tallied.step (h : hub.Tallied policy lost (before ++ call :: after))
    (haccounted : hub.Accounted (before ++ call :: after)) (hstep : call.Step hub call' later) :
    later.Tallied policy lost (before ++ call' :: after) := by
  cases hstep with
  | idle stopping hidle hidle' _ hlater =>
    have hsame : hub.SameTotals { hub with stopping } := ⟨rfl, rfl, rfl, rfl, rfl, rfl, rfl⟩
    obtain ⟨hslot, hopened, hclosed⟩ := Call.owes_of_isIdle hidle
    obtain ⟨hslot', hopened', hclosed'⟩ := Call.owes_of_isIdle hidle'
    exact h.keep (hsame.trans hlater.sameTotals) (hslot'.trans hslot.symm)
      (hopened'.trans hopened.symm) (hclosed'.trans hclosed.symm)
  | claimSlot topic id hroom =>
    refine h.change ?_ rfl hroom rfl rfl
    show hub.active + 1 + hub.table.length + 0 = hub.active + hub.table.length + 1
    omega
  | enter topic id => exact h.enter
  | panic topic id => exact h.keep (.refl hub) rfl rfl rfl
  | panicked => exact h
  | subscribe n topic id => exact h.keep ⟨rfl, rfl, rfl, rfl, rfl, rfl, rfl⟩ rfl rfl rfl
  | markOpen n topic id hs hstage => exact h.markOpen hs hstage
  | failToOpen n topic id => exact h.keep (.refl hub) rfl rfl rfl
  | withdraw n topic id => exact h.keep ⟨rfl, rfl, rfl, rfl, rfl, rfl, rfl⟩ rfl rfl rfl
  | countOpened n topic id hlater =>
    obtain ⟨_, _, -, rfl⟩ := hlater
    refine h.change rfl rfl h.active_le ?_ rfl
    show hub.opened + 1 + hub.closed + hub.openConnections.length + 0 + 0 =
      hub.opened + hub.closed + hub.openConnections.length + 1 + 0
    omega
  | leave n topic id => exact h.keep (.refl hub) rfl rfl rfl
  | stay n topic id => exact h.keep (.refl hub) rfl rfl rfl
  | startWatch n topic id hlater =>
    obtain ⟨_, _, hs, -, -⟩ := haccounted.standing_opening
    have hsame : hub.SameTotals (hub.startWatch n) := sameTotals_modify hs fun _ heq => heq ▸ rfl
    exact h.keep (hsame.trans hlater.sameTotals) rfl rfl rfl
  | claim n cause rest hs hu => exact h.claimed hs
  | keepFault claim rest fault hlater =>
    obtain ⟨_, _, hs, -, -⟩ := haccounted.standing_under
    have hsame : hub.SameTotals (hub.modifySession claim.number (·.keepFault fault)) :=
      sameTotals_modify hs fun _ heq => heq ▸ rfl
    exact h.keep (hsame.trans hlater.sameTotals) rfl rfl rfl
  | noFault claim rest => exact h.keep (.refl hub) rfl rfl rfl
  | leaveTopic claim rest hlater =>
    obtain ⟨_, _, _, _, hstands⟩ := haccounted.standing_under
    have hsame : hub.SameTotals (hub.offTopic claim.number claim.session.topic claim.previous) := by
      refine ⟨rfl, rfl, rfl, rfl, rfl, rfl, if_neg ?_⟩
      rintro ⟨hopen, hmissing⟩
      exact hmissing (hstands.leaveTopic.1 hopen)
    exact h.keep (hsame.trans hlater.sameTotals) rfl rfl rfl
  | releaseOutbox claim rest =>
    obtain ⟨_, _, hs, -, -⟩ := haccounted.standing_under
    exact h.keep (sameTotals_modify hs fun _ heq => heq ▸ rfl) rfl rfl rfl
  | leaveTable claim rest hlisted =>
    have hlength := List.length_erase_add_one (List.contains_iff_mem.mp hlisted)
    refine h.change ?_ rfl h.active_le rfl rfl
    show hub.active + hub.table.length + 0 = hub.active + (hub.table.erase claim.number).length + 1
    omega
  | missing claim rest => exact h.keep (.refl hub) rfl rfl rfl
  | giveSlot claim rest =>
    have hheld : 0 < hub.active := h.active_pos (List.mem_append_right _ List.mem_cons_self) rfl
    refine h.change ?_ rfl (Nat.le_trans (Nat.sub_le _ _) h.active_le) rfl rfl
    show hub.active - 1 + hub.table.length + 1 = hub.active + hub.table.length + 0
    omega
  | terminate claim rest =>
    obtain ⟨_, _, hs, -, hstands⟩ := haccounted.standing_under
    have hdraining := hstands.terminate.1
    refine h.keep (sameTotals_modify hs ?_) rfl rfl rfl
    rintro connection rfl
    simp [Session.isOpen, Session.terminate, hdraining]
  | countClosed claim rest hlater =>
    obtain ⟨_, _, -, rfl⟩ := hlater
    refine h.change rfl rfl h.active_le ?_ rfl
    by_cases hopen : claim.previous = .open
    · simp [tallyForced, tallyClosed, hopen, Call.owesOpened, Call.owesClosed, openConnections]
      omega
    · simp [tallyForced, tallyClosed, hopen, Call.owesOpened, Call.owesClosed, openConnections]

end Steps

end Hub

end LiveCounter
