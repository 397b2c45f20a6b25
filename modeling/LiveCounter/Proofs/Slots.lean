import LiveCounter.Proofs.Aftermath
import LiveCounter.Proofs.Publications

/-!
# The accounts of slots

How many slots are taken depends on little: on who is in the table, on whether a closing is the
first one to be claimed, and on how many calls have panicked, each of which leaves its slot taken.
So the accounts of slots stay in order also where other records do not, because somebody reaches
around the hub: makes sessions of its own, puts sessions under topics or takes them off, releases
outboxes, or claims closings and leaves it at that.
-/

namespace LiveCounter.Hub

/-- The calls that panic in an operation: its own, or none. -/
def forfeits (hub : Hub) (operation : Operation) : List Operation :=
  if hub.panics operation then [operation] else []

/-- How many slots a run leaves taken for nobody, one for each call that panicked. -/
def lostSlots (policy : StreamPolicy) (operations : List Operation) : Nat :=
  (history forfeits (Hub.new policy) operations).length

/-- Where the outboxes that the policy asks for can be made, no call panics. -/
theorem panics_of_fits {hub : Hub} (hfits : hub.policy.queueCapacity ≤ Outbox.maxCapacity)
    (operation : Operation) : hub.panics operation = false := by
  by_contra hpanics
  have hlarge := (step_of_panics (by simpa using hpanics)).2.1
  exact Nat.not_lt_of_le hfits hlarge

/-- Where the outboxes that the policy asks for cannot be made, no session is admitted. -/
theorem admitted_of_large {hub : Hub} (hlarge : Outbox.maxCapacity < hub.policy.queueCapacity)
    (operation : Operation) : hub.admitted operation = [] := by
  have hnot := Nat.not_le_of_lt hlarge
  cases operation with
  | join topic id =>
    cases hub.joinCase topic id with
    | stopping _ hanswer | full _ _ hanswer | panicked _ _ hanswer =>
      simp [admitted, hanswer, Except.toOption]
    | admitted _ _ _ _ hfits => exact absurd hfits hnot
  | connect topic id transport initial =>
    cases hub.connectCase topic id transport.client initial with
    | stopping _ hanswer | full _ hanswer | panicked _ hanswer =>
      simp [admitted, hanswer, Except.toOption]
    | admitted _ _ _ hfits => exact absurd hfits hnot
  | _ => rfl

/-- What no operation leaves behind under a policy, no run under it does. -/
theorem history_eq_nil_of_policy {A : Type} {observe : Hub → Operation → List A} {policy : StreamPolicy}
    (h : ∀ hub operation, hub.policy = policy → observe hub operation = []) {hub : Hub}
    (hpolicy : hub.policy = policy) (operations : List Operation) :
    history observe hub operations = [] := by
  induction operations generalizing hub with
  | nil => rfl
  | cons operation rest ih =>
    rw [history, h hub operation hpolicy, ih (by rwa [policy_step]), List.append_nil]

/-- Clamping a policy makes no difference to whether its outboxes can be made. -/
theorem clamped_fits_iff (policy : StreamPolicy) :
    policy.clamped.queueCapacity ≤ Outbox.maxCapacity ↔
      policy.queueCapacity ≤ Outbox.maxCapacity :=
  Nat.max_le.trans (and_iff_left (by decide))

/-- Clamping does not make a capacity small enough to be allocated, nor too large. -/
theorem clamped_large_iff (policy : StreamPolicy) :
    Outbox.maxCapacity < policy.clamped.queueCapacity ↔
      Outbox.maxCapacity < policy.queueCapacity := by
  rw [← Nat.not_le, ← Nat.not_le, clamped_fits_iff]

/-- No slot is lost where the outboxes that the policy asks for can be made. -/
theorem lostSlots_of_fits {policy : StreamPolicy} (hfits : policy.queueCapacity ≤ Outbox.maxCapacity)
    (operations : List Operation) : lostSlots policy operations = 0 := by
  have hclamped := (clamped_fits_iff policy).mpr hfits
  have hnone : history forfeits (Hub.new policy) operations = [] := by
    refine history_eq_nil_of_policy (fun hub operation hpolicy => ?_) rfl operations
    rw [forfeits, panics_of_fits (hpolicy ▸ hclamped)]
    rfl
  rw [lostSlots, hnone, List.length_nil]

/-- Otherwise there is never a session. -/
theorem admitted_run_of_large {policy : StreamPolicy}
    (hlarge : Outbox.maxCapacity < policy.queueCapacity) (operations : List Operation) :
    history admitted (Hub.new policy) operations = [] := by
  have hclamped := (clamped_large_iff policy).mpr hlarge
  refine history_eq_nil_of_policy (fun hub operation hpolicy => ?_) rfl operations
  exact admitted_of_large (hpolicy ▸ hclamped) operation

/-- How far the session of a number has come. -/
def stage? (hub : Hub) (n : Nat) : Option SessionStage := (hub.session? n).map (·.stage)

/-- The accounts of slots are in order: besides the lost ones, a slot is taken for each session in
the table, of which none is still opening or has ended, and the open sessions are among them. -/
structure Booked (lost : Nat) (hub : Hub) : Prop where
  table_nodup : hub.table.Nodup
  listed : ∀ n ∈ hub.table, hub.stage? n = some .open ∨ hub.stage? n = some .draining
  enlisted : ∀ n, hub.stage? n = some .open → n ∈ hub.table
  active_eq : hub.active = hub.table.length + lost
  opened_eq : hub.opened = hub.closed + hub.table.length
  active_le : hub.active ≤ hub.policy.maxConnections

/-- The accounts of a new hub are in order, and no slot is lost. -/
theorem booked_new (policy : StreamPolicy) : (Hub.new policy).Booked 0 where
  table_nodup := List.nodup_nil
  listed _ h := absurd h List.not_mem_nil
  enlisted n h := by simp [stage?, session?, Hub.new] at h
  active_eq := rfl
  opened_eq := rfl
  active_le := Nat.zero_le _

section Booked

variable {lost : Nat}

/-- What leaves the accounts and the stages alone leaves the accounts in order. -/
theorem Booked.of_eq {hub later : Hub} (h : hub.Booked lost)
    (hstage : ∀ n, later.stage? n = hub.stage? n)
    (hbooks : later.table = hub.table ∧ later.active = hub.active ∧ later.opened = hub.opened ∧
      later.closed = hub.closed ∧ later.policy = hub.policy) : later.Booked lost := by
  obtain ⟨htable, hactive, hopened, hclosed, hpolicy⟩ := hbooks
  constructor
  case table_nodup => rw [htable]; exact h.table_nodup
  case listed => intro n hn; rw [hstage]; exact h.listed n (htable ▸ hn)
  case enlisted => intro n hn; rw [htable]; exact h.enlisted n (hstage n ▸ hn)
  case active_eq => rw [hactive, htable]; exact h.active_eq
  case opened_eq => rw [hopened, hclosed, htable]; exact h.opened_eq
  case active_le => rw [hactive, hpolicy]; exact h.active_le

/-- Reports do not touch the accounts. -/
theorem Booked.reports {hub later : Hub} (h : hub.Booked lost) (hreports : hub.Reports later) :
    later.Booked lost := by
  obtain ⟨_, _, -, rfl⟩ := hreports
  exact h.of_eq (fun _ => rfl) ⟨rfl, rfl, rfl, rfl, rfl⟩

/-- A change to a connection that leaves its stage alone does not touch the accounts. -/
theorem Booked.modify {hub : Hub} (h : hub.Booked lost) {n : Nat} {f : Connection → Connection}
    (hf : ∀ connection, hub.connections[n]? = some connection →
      (f connection).session.stage = connection.session.stage) : (hub.modify n f).Booked lost :=
  h.of_eq (map_session?_modify hf) ⟨rfl, rfl, rfl, rfl, rfl⟩

/-- The next session to come is in no table. -/
theorem Booked.notMem_table_length {hub : Hub} (h : hub.Booked lost) :
    hub.connections.length ∉ hub.table := by
  intro hmem
  have hnone : hub.stage? hub.connections.length = none := by rw [stage?, session?_length]; rfl
  rcases h.listed _ hmem with hopen | hdraining
  · rw [hnone] at hopen
    cases hopen
  · rw [hnone] at hdraining
    cases hdraining

/-- A session that enters is open, and the others are as they were. -/
theorem stage?_entered (hub : Hub) (topic : Topic) (id : SessionId) (n : Nat) :
    (hub.entered topic id).stage? n =
      if n = hub.connections.length then some .open else hub.stage? n := by
  rw [stage?, session?_entered]
  split <;> rfl

/-- A session that enters takes its slot and stands in the table. -/
theorem Booked.entered {hub : Hub} (h : hub.Booked lost) (topic : Topic) (id : SessionId)
    (hroom : hub.active < hub.policy.maxConnections) : (hub.entered topic id).Booked lost where
  table_nodup := by
    refine List.nodup_append.mpr ⟨h.table_nodup, List.nodup_singleton _, ?_⟩
    rintro n hn m hm rfl
    exact h.notMem_table_length (List.mem_singleton.mp hm ▸ hn)
  listed n hn := by
    rw [stage?_entered]
    split
    · exact Or.inl rfl
    · next hne =>
      rcases List.mem_append.mp hn with hold | hnew
      · exact h.listed n hold
      · exact absurd (List.mem_singleton.mp hnew) hne
  enlisted n hn := by
    rw [stage?_entered] at hn
    split at hn
    · next heq => exact List.mem_append_right _ (List.mem_singleton.mpr heq)
    · exact List.mem_append_left _ (h.enlisted n hn)
  active_eq := by
    have hactive := h.active_eq
    simp only [Hub.entered, List.length_append, List.length_singleton]
    omega
  opened_eq := by
    have hopened := h.opened_eq
    simp only [Hub.entered, List.length_append, List.length_singleton]
    omega
  active_le := hroom

/-- A session that is ended has terminated, and the others are as they were. -/
theorem stage?_ended {hub : Hub} {n : Nat} {session : Session} (hs : hub.session? n = some session)
    (hu : session.isClaimed = false) (reason : CloseReason) (fault : Option StreamFault) (m : Nat) :
    (hub.ended n session reason fault).stage? m =
      if m = n then some .terminated else hub.stage? m := by
  rw [stage?, session?_ended hs]
  split
  · rw [Option.map_some, Session.stage_retired hu]
  · rfl

/-- A session that nobody has claimed is open and in the table, or opening and not in it. -/
theorem Booked.mem_table_iff {hub : Hub} (h : hub.Booked lost) {n : Nat} {session : Session}
    (hs : hub.session? n = some session) (hu : session.isClaimed = false) :
    n ∈ hub.table ↔ session.stage = .open := by
  have hstage : hub.stage? n = some session.stage := by rw [stage?, hs, Option.map_some]
  constructor
  · intro hn
    rcases h.listed n hn with hopen | hdraining
    · exact Option.some.inj (hstage.symm.trans hopen)
    · rw [hstage, Option.some.injEq] at hdraining
      simp [Session.isClaimed, hdraining] at hu
  · exact fun hopen => h.enlisted n (hopen ▸ hstage)

/-- The end of a session gives its slot back, and does so only if it had one. -/
theorem Booked.ended {hub : Hub} (h : hub.Booked lost) {n : Nat} {session : Session}
    (hs : hub.session? n = some session) (hu : session.isClaimed = false) (reason : CloseReason)
    (fault : Option StreamFault) : (hub.ended n session reason fault).Booked lost := by
  have hstage := stage?_ended hs hu reason fault
  have hmem := h.mem_table_iff hs hu
  have htable : (hub.ended n session reason fault).table = hub.table.erase n := rfl
  have hactive : (hub.ended n session reason fault).active =
      if n ∈ hub.table then hub.active - 1 else hub.active := rfl
  have hclosed : (hub.ended n session reason fault).closed =
      if session.stage = .open then hub.closed + 1 else hub.closed := rfl
  have hlength : hub.active = hub.table.length + lost := h.active_eq
  have hopened : hub.opened = hub.closed + hub.table.length := h.opened_eq
  constructor
  case table_nodup => exact h.table_nodup.erase n
  case listed =>
    intro m hm
    rw [htable, h.table_nodup.mem_erase_iff] at hm
    rw [hstage, if_neg hm.1]
    exact h.listed m hm.2
  case enlisted =>
    intro m hm
    rw [hstage] at hm
    split at hm
    · cases hm
    · next hne => exact (h.table_nodup.mem_erase_iff).mpr ⟨hne, h.enlisted m hm⟩
  case active_eq =>
    rw [hactive, htable]
    split
    · next hn =>
      have herased := List.length_erase_add_one hn
      omega
    · next hn => rw [List.erase_of_not_mem hn, hlength]
  case opened_eq =>
    show hub.opened = _
    rw [htable, hclosed]
    by_cases hopen : session.stage = .open
    · have herased := List.length_erase_add_one (hmem.mpr hopen)
      rw [if_pos hopen]
      omega
    · rw [if_neg hopen, List.erase_of_not_mem fun hn => hopen (hmem.mp hn)]
      exact hopened
  case active_le =>
    have hle := h.active_le
    show _ ≤ hub.policy.maxConnections
    rw [hactive]
    split <;> omega

/-- Retiring a session gives back its slot and strikes it from the table. -/
theorem Booked.retire {hub : Hub} (h : hub.Booked lost) (n : Nat) (reason : CloseReason)
    (fault : Option StreamFault) : (hub.retire n reason fault).2.Booked lost := by
  by_cases hclaimed : ∀ session, hub.session? n = some session → session.isClaimed = true
  · rw [retire_of_isClaimed hclaimed]
    exact h
  · simp only [not_forall, Bool.not_eq_true] at hclaimed
    obtain ⟨session, hs, hu⟩ := hclaimed
    exact (h.ended hs hu reason fault).reports (retire_of_unclaimed hs hu reason fault).2

/-- The accounts stay in order in each change that an operation is made of. -/
theorem Booked.change {hub later : Hub} (h : hub.Booked lost) (hchange : hub.Change later) :
    later.Booked lost := by
  cases hchange with
  | report hreports => exact h.reports hreports
  | tally => exact h.of_eq (fun _ => rfl) ⟨rfl, rfl, rfl, rfl, rfl⟩
  | modify n f hf => exact h.modify fun connection hconnection => (hf connection hconnection).stage
  | enter topic id hstopping hroom => exact h.entered topic id hroom
  | retire n cause => exact h.retire n cause.reason cause.failure

/-- The accounts stay in order along every path of changes. -/
theorem Booked.path {hub later : Hub} (h : hub.Booked lost) (hpath : hub.Path later) :
    later.Booked lost := by
  induction hpath with
  | refl => exact h
  | tail _ hchange ih => exact ih.change hchange

/-- The accounts stay in order in a loop if each turn leaves them so. -/
theorem Booked.foldl {A : Type} {f : Hub → A → Hub}
    (hf : ∀ hub item, hub.Booked lost → (f hub item).Booked lost) {hub : Hub} (h : hub.Booked lost)
    (items : List A) : (items.foldl f hub).Booked lost := by
  induction items generalizing hub with
  | nil => exact h
  | cons item rest ih => exact ih (hf hub item h)

/-- A publication takes no slot and gives none back, whatever it finds out of order. -/
theorem Booked.distribute {hub : Hub} (h : hub.Booked lost) (hwf : hub.subscriptions.WellFormed)
    (event : CounterEvent) : (hub.distribute event).2.Booked lost := by
  have hpublished := published_distribute hwf event
  generalize hub.distribute event = outcome at hpublished
  refine h.of_eq (fun n => ?_) ?_
  · simp only [stage?, session?, hpublished.acts n, Option.map_map]
    refine Option.map_congr fun connection _ => ?_
    simp only [Function.comp_apply]
    split
    · exact (connection.session.sameCourse_offer event).stage
    · rfl
  · rw [hpublished.totals]
    exact ⟨rfl, rfl, rfl, rfl, rfl⟩

/-- A publication gives back the slots of the sessions that it closes. -/
theorem Booked.publish {hub : Hub} (h : hub.Booked lost) (hwf : hub.subscriptions.WellFormed)
    (event : CounterEvent) : (hub.publish event).2.Booked lost := by
  have hdistributed := h.distribute hwf event
  have hforced := Booked.foldl
    (fun (hub : Hub) n (h : hub.Booked lost) =>
      h.retire n (.ofError .backpressureDrop) (some .backpressureDrop))
    hdistributed (hub.distribute event).1.forced
  exact Booked.foldl
    (fun (hub : Hub) n (h : hub.Booked lost) =>
      h.retire n (.ofError (hub.stillSubscribed n)) (some (hub.stillSubscribed n)))
    hforced (hub.distribute event).1.inconsistent

/-! ## Around the hub -/

/-- A session that is only created takes no slot, and does not stand in the table yet. -/
theorem Booked.created {hub : Hub} (h : hub.Booked lost) (topic : Topic) (capacity : Nat)
    (id : SessionId) : (hub.created topic capacity id).Booked lost := by
  have hstage (n : Nat) : (hub.created topic capacity id).stage? n =
      if n = hub.connections.length then some .opening else hub.stage? n := by
    rw [stage?, session?_created]
    split <;> rfl
  refine ⟨h.table_nodup, fun n hn => ?_, fun n hn => ?_, h.active_eq, h.opened_eq, h.active_le⟩
  · have hne : n ≠ hub.connections.length := fun heq => h.notMem_table_length (heq ▸ hn)
    rw [hstage, if_neg hne]
    exact h.listed n hn
  · rw [hstage] at hn
    split at hn
    · cases hn
    · exact h.enlisted n hn

/-- A session whose closing is only claimed keeps its slot. -/
theorem Booked.claimed {hub : Hub} (h : hub.Booked lost) (n : Nat) (reason : CloseReason) :
    (hub.claimed n reason).Booked lost := by
  have hacts := acts_claimed hub n reason
  rw [claimed_eq] at hacts ⊢
  refine ⟨h.table_nodup, fun m hm => ?_, fun m hm => ?_, h.active_eq, h.opened_eq, h.active_le⟩
  · rw [stage?, session?, hacts m]
    have hlisted := h.listed m hm
    rw [stage?, session?] at hlisted
    cases hconnection : hub.connections[m]? with
    | none => simp [hconnection] at hlisted
    | some connection =>
      simp only [hconnection, Option.map_some, Option.some.injEq] at hlisted ⊢
      by_cases hm : m = n
      · right
        rcases hlisted with hopen | hdraining
        · simp [only, hm, Connection.move, Connection.withSession, Session.isClaimed, hopen,
            Session.claimedFor]
        · simp [only, hm, Connection.move, Connection.withSession, Session.isClaimed, hdraining]
      · simpa only [only, if_neg hm, Connection.after_nil] using hlisted
  · obtain ⟨later, hlater, hopen⟩ := Option.map_eq_some_iff.mp hm
    obtain ⟨connection, hconnection, rfl⟩ := connection_of_session? hlater
    rw [hacts m, Option.map_eq_some_iff] at hconnection
    obtain ⟨before, hbefore, rfl⟩ := hconnection
    refine h.enlisted m ?_
    rw [stage?, session?, hbefore, Option.map_some, Option.map_some, Connection.open_of_after hopen]

/-- A call that panics loses the slot that it has taken. -/
theorem Booked.forfeited {hub : Hub} (h : hub.Booked lost)
    (hroom : hub.active < hub.policy.maxConnections) : hub.forfeited.Booked (lost + 1) :=
  ⟨h.table_nodup, h.listed, h.enlisted, congrArg (· + 1) h.active_eq, h.opened_eq, hroom⟩

/-- An operation that does not panic leaves the accounts in order, with no more slots lost. -/
theorem Booked.step_of_returns {hub : Hub} (h : hub.Booked lost)
    (hwf : hub.subscriptions.WellFormed) {operation : Operation}
    (hreturns : hub.panics operation = false) : (hub.step operation).Booked lost := by
  cases hregular : operation.isRegular with
  | true =>
    by_cases hpublish : ∃ event, operation = .publish event
    · obtain ⟨event, rfl⟩ := hpublish
      exact h.publish hwf event
    · have houtset : (hub.outset operation).Booked lost := by
        cases operation <;> exact h.of_eq (fun _ => rfl) ⟨rfl, rfl, rfl, rfl, rfl⟩
      exact houtset.path
        (path_step hregular hreturns fun event heq => absurd ⟨event, heq⟩ hpublish)
  | false =>
    cases operation with
    | create topic capacity id =>
      rw [step_create]
      split
      · exact h.created topic capacity id
      · exact h
    | claim n reason => exact h.claimed n reason
    | release n => exact h.modify fun _ _ => rfl
    | subscribe n topic =>
      simp only [Hub.step, enroll]
      split
      · exact h.of_eq (fun _ => rfl) ⟨rfl, rfl, rfl, rfl, rfl⟩
      · exact h
    | unsubscribe n topic => exact h.of_eq (fun _ => rfl) ⟨rfl, rfl, rfl, rfl, rfl⟩
    | _ => cases hregular

/-- An operation loses one slot for each call that panics in it, and otherwise keeps the accounts.
-/
theorem Booked.step {hub : Hub} (h : hub.Booked lost) (hwf : hub.subscriptions.WellFormed)
    (operation : Operation) :
    (hub.step operation).Booked (lost + (hub.forfeits operation).length) := by
  cases hpanics : hub.panics operation with
  | true =>
    obtain ⟨hlater, -, hroom⟩ := step_of_panics hpanics
    rw [hlater, forfeits, if_pos hpanics]
    exact h.forfeited hroom
  | false =>
    rw [forfeits, if_neg (by simp [hpanics])]
    exact h.step_of_returns hwf hpanics

/-- Whatever closes a session, its slot is given back once, and only if it had one. -/
theorem Booked.active_retire {hub : Hub} (h : hub.Booked lost) {n : Nat} {session : Session}
    (hs : hub.session? n = some session) (reason : CloseReason) (fault : Option StreamFault) :
    (hub.retire n reason fault).2.active + (if session.stage = .open then 1 else 0) =
      hub.active := by
  cases hu : session.isClaimed with
  | true =>
    have hnot : session.stage ≠ .open := fun hopen => by simp [Session.isClaimed, hopen] at hu
    rw [retire_of_isClaimed (by simp [hs, hu]), if_neg hnot, Nat.add_zero]
  | false =>
    obtain ⟨_, _, -, hlater⟩ := (retire_of_unclaimed hs hu reason fault).2
    have hactive : (hub.retire n reason fault).2.active =
        if n ∈ hub.table then hub.active - 1 else hub.active := by rw [hlater]; rfl
    have hmem := h.mem_table_iff hs hu
    rw [hactive]
    by_cases hopen : session.stage = .open
    · have hpositive : 0 < hub.table.length := List.length_pos_of_mem (hmem.mpr hopen)
      have hlength := h.active_eq
      rw [if_pos (hmem.mpr hopen), if_pos hopen]
      omega
    · rw [if_neg fun hn => hopen (hmem.mp hn), if_neg hopen, Nat.add_zero]

end Booked

/-- The accounts of slots are in order after every run. -/
theorem booked_run (policy : StreamPolicy) (operations : List Operation) :
    ((Hub.new policy).run operations).Booked (lostSlots policy operations) := by
  induction operations using List.reverseRecOn with
  | nil => exact booked_new policy
  | append_singleton operations operation ih =>
    rw [run_append, lostSlots, history_append, List.length_append, history, history, List.append_nil]
    exact ih.step (enrolled_run policy operations).wellFormed operation

/-- Whatever is done with a hub, also around it, the accounts of slots stay in order: the number of
taken slots is the size of the table, together with one slot for each call that panicked, and within
the limit; and no call panics if the policy asks for outboxes that can be made. The table is as large
as the number of sessions opened and not closed yet. The sessions in it are open, or somebody has
claimed their closing and gone no further; a session that has ended is not among them, and its outbox
is released and empty. A closing gives back the one slot that an open session has, and none for any
other session. -/
theorem slots_stay_in_order (policy : StreamPolicy) (operations : List Operation) :
    let hub := (Hub.new policy).run operations
    let lost := lostSlots policy operations
    hub.stats.activeConnections = hub.table.length + lost ∧ hub.table.Nodup ∧
      (policy.queueCapacity ≤ Outbox.maxCapacity → lost = 0) ∧
      hub.stats.sessionsOpened = hub.stats.sessionsClosed + hub.table.length ∧
      hub.stats.activeConnections ≤ policy.maxConnections ∧
      (∀ n ∈ hub.table, ∃ session, hub.session? n = some session ∧
        (session.stage = .open ∨ session.stage = .draining)) ∧
      ∀ n session, hub.session? n = some session →
        (session.stage = .open → n ∈ hub.table) ∧
        (session.stage = .terminated →
          n ∉ hub.table ∧ session.outbox.released = true ∧ session.outbox.items = []) ∧
        ∀ reason fault, (hub.retire n reason fault).2.active +
          (if session.stage = .open then 1 else 0) = hub.active := by
  intro hub lost
  have hbooked : hub.Booked lost := booked_run policy operations
  have hpolicy : hub.policy = policy.clamped := policy_run _ operations
  have hle : hub.active ≤ hub.policy.maxConnections := hbooked.active_le
  rw [hpolicy] at hle
  refine ⟨hbooked.active_eq, hbooked.table_nodup, fun hfits => lostSlots_of_fits hfits operations,
    hbooked.opened_eq, hle, fun n hn => ?_, fun n session hs => ⟨fun hopen => ?_,
      fun hended => ⟨fun hn => ?_, ?_⟩, hbooked.active_retire hs⟩⟩
  · rcases hbooked.listed n hn with hstage | hstage <;>
      obtain ⟨session, hs, hstage⟩ := Option.map_eq_some_iff.mp hstage
    · exact ⟨session, hs, Or.inl hstage⟩
    · exact ⟨session, hs, Or.inr hstage⟩
  · exact hbooked.enlisted n (by rw [stage?, hs, Option.map_some, hopen])
  · have hstage : hub.stage? n = some .terminated := by rw [stage?, hs, Option.map_some, hended]
    rcases hbooked.listed n hn with hlisted | hlisted <;>
    · rw [hstage] at hlisted
      cases hlisted
  · obtain ⟨connection, hconnection, rfl⟩ := connection_of_session? hs
    obtain ⟨hitems, hreleased⟩ := emptied_run policy operations connection
      (List.mem_of_getElem? hconnection) hended
    exact ⟨hreleased, hitems⟩

/-- Nobody has misused the hub, and yet a slot is taken though the table is empty and no session has
ever been opened: the policy asked for an outbox that cannot be made. -/
theorem slots_stay_in_order_not_after_panic :
    ¬ ∀ (policy : StreamPolicy) (operations : List Operation),
      let hub := (Hub.new policy).run operations
      hub.stats.activeConnections = hub.table.length ∧
        hub.stats.activeConnections + hub.stats.sessionsClosed = hub.stats.sessionsOpened := by
  intro hsame
  have hlost := hsame { StreamPolicy.default with queueCapacity := 18446744073709551615 }
    [.join (.random 0) ⟨0⟩]
  exact absurd hlost.1 (by decide +kernel)

/-! ## All records -/

/-- Whatever is done with a hub and its tasks, in any order, the records of its sessions agree:
every session that was handed out is open or has ended; it is open exactly while the table has it,
and exactly while it is subscribed to its topic; the size of the table is the number of subscribers,
of open sessions, and of sessions opened and not closed yet; and an ended session is cancelled, has
an empty outbox, released for good, and a reason for its end. The number of taken slots is the size
of the table too, unless calls have panicked, each of which has left one more taken. That happens
only where the policy asks for outboxes that cannot be made, and then no session is handed out at
all. -/
theorem records_of_sessions_agree (policy : StreamPolicy) {operations : List Operation}
    (hregular : ∀ operation ∈ operations, operation.isRegular = true) :
    let hub := (Hub.new policy).run operations
    let handedOut := history admitted (Hub.new policy) operations
    let lost := lostSlots policy operations
    (handedOut = List.range hub.connections.length ∧
      ∀ n ∈ handedOut, ∃ session, hub.session? n = some session ∧
        (session.stage = .open ∨ session.stage = .terminated) ∧
        (session.stage = .open ↔ n ∈ hub.table) ∧
        (session.stage = .open ↔ hub.subscriptions.contains session.topic n = true) ∧
        (session.stage = .terminated → session.outbox.released = true ∧
          session.outbox.items = [] ∧ session.cancelled = true ∧ session.reason.isSome = true)) ∧
      hub.table.Nodup ∧
      hub.stats.activeConnections = hub.table.length + lost ∧
      (policy.queueCapacity ≤ Outbox.maxCapacity → lost = 0) ∧
      (Outbox.maxCapacity < policy.queueCapacity → handedOut = []) ∧
      hub.stats.subscribers = hub.table.length ∧
      hub.openConnections.length = hub.table.length ∧
      hub.stats.sessionsOpened = hub.stats.sessionsClosed + hub.table.length ∧
      hub.stats.activeConnections ≤ policy.maxConnections ∧
      hub.stats.topics = (hub.openConnections.map (·.session.topic)).dedup.length ∧
      hub.stats.disagreements = 0 := by
  intro hub handedOut lost
  have hfollows : (Hub.new policy).Follows hub := follows_run policy hregular
  have hconsistent : hub.Consistent := hfollows.consistent
  have hbooked : hub.Booked lost := booked_run policy operations
  have hrange : handedOut = List.range hub.connections.length := admitted_run policy hregular
  have hpolicy : hub.policy = (Hub.new policy).policy := hfollows.policy_eq
  refine ⟨⟨hrange, fun n hn => ?_⟩, hconsistent.table_nodup, hbooked.active_eq,
    fun hfits => lostSlots_of_fits hfits operations,
    fun hlarge => admitted_run_of_large hlarge operations, hconsistent.total_eq,
    hconsistent.length_openConnections, hconsistent.opened_eq, ?_, hconsistent.numTopics_eq,
    hconsistent.disagreements_eq⟩
  · rw [hrange, List.mem_range] at hn
    have hs : hub.session? n = some hub.connections[n].session := by simp [session?, hn]
    refine ⟨hub.connections[n].session, hs, ?_, ?_, ?_, ?_⟩
    · cases hconsistent.settled n _ hs with
      | live stage => exact Or.inl stage
      | ended stage => exact Or.inr stage
    · rw [hconsistent.listed, hs]
      simp
    · rw [hconsistent.subscribed, hs]
      simp
    · intro hterminated
      cases hconsistent.settled n _ hs with
      | live stage => simp [stage] at hterminated
      | ended _ reason cancelled released items => exact ⟨released, items, cancelled, reason⟩
  · have hle := hconsistent.active_le
    rwa [hpolicy] at hle

/-- Two sessions of different topics, one of which is served and then closed. -/
theorem records_of_sessions_agree_after_close :
    let hub := (Hub.new .default).run [.connect (.random 0) ⟨0⟩ (.channel 1) (some 5),
      .join (.random 1) ⟨1⟩, .pollWriter 0, .pass 3, .close 0 .explicit]
    hub.table = [1] ∧ hub.stats.activeConnections = 1 ∧ hub.stats.subscribers = 1 ∧
      hub.openConnections.length = 1 ∧ hub.stats.sessionsOpened = hub.stats.sessionsClosed + 1 ∧
      ∃ session, hub.session? 0 = some session ∧ session.stage = .terminated ∧
        session.outbox.items = [] := by
  intro hub
  have htable : hub.table = [1] := by decide +kernel
  obtain ⟨⟨hrange, hsessions⟩, -, hactive, hfits, -, hsubscribers, hopen, hopened, -⟩ :=
    records_of_sessions_agree .default
      (show ∀ operation ∈ [Operation.connect (.random 0) ⟨0⟩ (.channel 1) (some 5),
        .join (.random 1) ⟨1⟩, .pollWriter 0, .pass 3, .close 0 .explicit],
          operation.isRegular = true by decide)
  have hone : hub.table.length = 1 := congrArg List.length htable
  have hactive : hub.stats.activeConnections = 1 := by rw [hactive, hfits (by decide), hone]
  have hlength : 0 < hub.connections.length := by decide +kernel
  obtain ⟨session, hs, hstage, hlisted, -, hended⟩ :=
    hsessions 0 (by rw [hrange]; exact List.mem_range.mpr hlength)
  have hterminated : session.stage = .terminated := by
    apply hstage.resolve_left
    intro hopen
    have hmem : 0 ∈ hub.table := hlisted.mp hopen
    simp [htable] at hmem
  exact ⟨htable, hactive, hsubscribers.trans hone, hopen.trans hone, hone ▸ hopened, session, hs,
    hterminated, (hended hterminated).2.1⟩

/-- A client that asks for a stream whose outbox cannot be made leaves a slot taken that belongs to
no subscriber and to no open session. -/
theorem records_of_sessions_agree_not_after_panic :
    ¬ ∀ (policy : StreamPolicy) (operations : List Operation),
      (∀ operation ∈ operations, operation.isRegular = true) →
      let hub := (Hub.new policy).run operations
      hub.stats.activeConnections = hub.table.length ∧
        hub.stats.activeConnections = hub.stats.subscribers := by
  intro hsame
  have hlost := hsame { StreamPolicy.default with queueCapacity := 18446744073709551615 }
    [.connect (.random 0) ⟨0⟩ (.channel 1) (some 5)] (by decide)
  exact absurd hlost.2 (by decide +kernel)

end LiveCounter.Hub
