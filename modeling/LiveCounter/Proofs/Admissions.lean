import LiveCounter.Proofs.Slots
import LiveCounter.Proofs.Stopping

/-!
# Who is admitted

A slot is taken before there is a session for it, and given back where sessions are torn down, which is
reached from many places. In a run through the hub the taken slots are still exactly the open sessions,
and those that were lost by calls that panicked. So whether a call for a new stream succeeds can be told
from the sessions: it depends on how many of them are open, on whether the hub has begun to stop, and on
whether outboxes can be made at all.
-/

namespace LiveCounter.Hub

/-! ## Calls -/

/-- The hub stops exactly if a sweep has been among the operations. -/
theorem stopping_run_iff (policy : StreamPolicy) (operations : List Operation) :
    ((Hub.new policy).run operations).stopping = true ↔ .sweep ∈ operations := by
  induction operations using List.reverseRecOn with
  | nil => simp [Hub.new]
  | append_singleton operations operation ih =>
    have hstep : ((Hub.new policy).run (operations ++ [operation])).stopping =
        (((Hub.new policy).run operations).outset operation).stopping := by
      rw [run_append]
      exact (steady_step _ operation).stopping
    rw [hstep, List.mem_append, List.mem_singleton, ← ih]
    cases operation with
    | sweep => simp [outset, beginStop]
    | pass => simp [outset, pass]
    | _ => simp [outset]

/-- A call that asks for a slot gets one if a session may still be admitted, not all slots are taken
or lost, and an outbox can be made. If not, it says why, and nothing has changed but what is counted
and reported of refusals. For want of an outbox alone it panics, and all that it leaves behind is one
more slot taken. -/
structure Decides (hub : Hub) (begun : Prop) (policy : StreamPolicy) (lost : Nat)
    (result : Except Denial Nat × Hub) : Prop where
  admits_iff : (∃ n, result.1 = .ok n) ↔ ¬ begun ∧
    hub.openConnections.length + lost < policy.maxConnections ∧
      policy.queueCapacity ≤ Outbox.maxCapacity
  stopping : begun → result.1 = .error (.refused .stopping)
  full : ¬ begun → policy.maxConnections ≤ hub.openConnections.length + lost →
    result.1 = .error (.refused (.capacityExceeded policy.maxConnections))
  refused : ∀ fault, result.1 = .error (.refused fault) →
    hub.Reports result.2 ∧ result.2.stats = hub.stats
  panics_iff : result.1 = .error .panicked ↔ ¬ begun ∧
    hub.openConnections.length + lost < policy.maxConnections ∧
      Outbox.maxCapacity < policy.queueCapacity
  panicked : result.1 = .error .panicked → result.2 = { hub with active := hub.active + 1 }

/-- A request to join is decided by the slots left and by the size of an outbox. -/
theorem Consistent.decides_join {hub : Hub} {lost : Nat} (h : hub.Consistent)
    (hbooked : hub.Booked lost) (topic : Topic) (id : SessionId) :
    hub.Decides (hub.stopping = true) hub.policy lost (hub.join topic id) := by
  have hlength : hub.openConnections.length + lost = hub.active := by
    rw [h.length_openConnections, hbooked.active_eq]
  cases hub.joinCase topic id with
  | stopping hstopping hanswer hhub =>
    exact ⟨by simp [hanswer, hstopping], fun _ => hanswer, fun hnot => absurd hstopping hnot,
      fun _ _ => ⟨hhub, hhub.stats_eq⟩, by simp [hanswer, hstopping], by simp [hanswer]⟩
  | full hstopping hfull hanswer hhub =>
    have hnot : ¬ hub.active < hub.policy.maxConnections := Nat.not_lt_of_le hfull
    exact ⟨by simp [hanswer, hlength, hnot], by simp [hstopping], fun _ _ => hanswer,
      fun _ _ => ⟨hhub, hhub.stats_eq⟩, by simp [hanswer, hlength, hnot], by simp [hanswer]⟩
  | panicked hstopping hroom hanswer hhub hlarge =>
    exact ⟨by simp [hanswer, hlarge], by simp [hstopping],
      fun _ hfull => absurd hroom (Nat.not_lt_of_le (hlength ▸ hfull)), by simp [hanswer],
      by simp [hanswer, hstopping, hlength, hroom, hlarge], fun _ => hhub⟩
  | admitted hstopping hroom hanswer _ hfits =>
    exact ⟨by simp [hanswer, hstopping, hlength, hroom, hfits], by simp [hstopping],
      fun _ hfull => absurd hroom (Nat.not_lt_of_le (hlength ▸ hfull)), by simp [hanswer],
      by simp [hanswer, hfits], by simp [hanswer]⟩

/-- The answer to a client is the answer to the request to join made for it. -/
theorem Decides.connect {hub : Hub} {begun : Prop} {policy : StreamPolicy} {lost : Nat}
    {topic : Topic} {id : SessionId} (h : hub.Decides begun policy lost (hub.join topic id))
    (client : Client) (initial : Option Int64) :
    hub.Decides begun policy lost (hub.connect topic id client initial) := by
  cases hanswer : (hub.join topic id).1 with
  | error denial =>
    have hsame : hub.connect topic id client initial = hub.join topic id := by
      rw [connect_of_error hanswer, ← hanswer]
    rwa [hsame]
  | ok n =>
    have hok := (connect_of_ok hanswer client initial).1
    obtain ⟨hadmits, hstopping, hfull, -, hpanics, -⟩ := h
    rw [hanswer] at hadmits hstopping hfull hpanics
    rw [← hok] at hadmits hstopping hfull hpanics
    exact ⟨hadmits, hstopping, hfull, by simp [hok], hpanics, by simp [hok]⟩

/-! ## What an operation does to the slots -/

/-- The sessions that are open before an operation and not after it. -/
def closedBy (hub : Hub) (operation : Operation) : List Nat :=
  (List.range hub.connections.length).filter fun n =>
    hub.stage? n = some .open ∧ (hub.step operation).stage? n ≠ some .open

/-- An operation has closed the sessions that were open before and are not so afterwards. -/
theorem mem_closedBy {hub : Hub} {operation : Operation} {n : Nat} :
    n ∈ hub.closedBy operation ↔
      hub.stage? n = some .open ∧ (hub.step operation).stage? n ≠ some .open := by
  rw [closedBy, List.mem_filter, List.mem_range, decide_eq_true_eq, and_iff_right_iff_imp]
  rintro ⟨hopen, -⟩
  obtain ⟨session, hs, -⟩ := Option.map_eq_some_iff.mp hopen
  obtain ⟨connection, hconnection, -⟩ := connection_of_session? hs
  exact (List.getElem?_eq_some_iff.mp hconnection).1

/-- The table holds the open sessions. -/
theorem Consistent.mem_table_iff_stage {hub : Hub} (h : hub.Consistent) (n : Nat) :
    n ∈ hub.table ↔ hub.stage? n = some .open := by
  rw [h.listed, stage?, Option.map_eq_some_iff]

/-- After an operation the table has those that it had before and that were not closed, and those that
were admitted. -/
theorem Consistent.mem_table_step {hub : Hub} (h : hub.Consistent) {operation : Operation}
    (hregular : operation.isRegular = true) (n : Nat) :
    n ∈ (hub.step operation).table ↔
      n ∈ hub.table ∧ n ∉ hub.closedBy operation ∨ n ∈ hub.admitted operation := by
  have hlater : (hub.step operation).Consistent := (h.follows_step hregular).consistent
  rw [hlater.mem_table_iff_stage, h.mem_table_iff_stage, mem_closedBy, not_and_not_right]
  have hadmitted := admitted_step hub hregular
  constructor
  · intro hopen
    obtain ⟨session, hs, hstage⟩ := Option.map_eq_some_iff.mp hopen
    obtain ⟨later, hconnection, rfl⟩ := connection_of_session? hs
    cases hbefore : hub.connections[n]? with
    | some before =>
      -- A session that was there before was open before.
      have hafter := connections_step hbefore operation
      rw [hconnection, Option.some.injEq] at hafter
      subst hafter
      have hstill : hub.stage? n = some .open := by
        rw [stage?, session?, hbefore, Option.map_some, Option.map_some,
          Connection.open_of_after hstage]
      exact Or.inl ⟨hstill, fun _ => hopen⟩
    | none =>
      obtain ⟨rfl, -⟩ := arrives_step hbefore hconnection
      rcases hadmitted with ⟨-, hlength⟩ | ⟨hone, -⟩
      · have hlt := (List.getElem?_eq_some_iff.mp hconnection).1
        rw [hlength] at hlt
        exact absurd hlt (Nat.lt_irrefl _)
      · exact Or.inr (by rw [hone, List.mem_singleton])
  · rintro (⟨hopen, hkept⟩ | hnew)
    · exact hkept hopen
    · rcases hadmitted with ⟨hnone, -⟩ | ⟨hone, hlength⟩
      · rw [hnone] at hnew
        exact absurd hnew List.not_mem_nil
      · -- What has arrived is claimed by nobody, and a settled session of that kind is open.
        obtain rfl := List.mem_singleton.mp (hone ▸ hnew)
        have hlt : hub.connections.length < (hub.step operation).connections.length := by omega
        have hconnection := List.getElem?_eq_getElem hlt
        obtain ⟨-, harrives⟩ := arrives_step (List.getElem?_eq_none (Nat.le_refl _)) hconnection
        have hs : (hub.step operation).session? hub.connections.length =
            some (hub.step operation).connections[hub.connections.length].session := by
          rw [session?, hconnection, Option.map_some]
        have hopen := (hlater.settled _ _ hs).open_of_unclaimed harrives.isFresh.unclaimed
        rw [stage?, hs, Option.map_some, hopen]

/-- Each session that an operation closes frees one slot, each that it admits takes one, and so does
a call that panics. -/
theorem Consistent.active_step {hub : Hub} {lost : Nat} (h : hub.Consistent)
    (hbooked : hub.Booked lost) {operation : Operation} (hregular : operation.isRegular = true) :
    (hub.step operation).active + (hub.closedBy operation).length =
      hub.active + (hub.admitted operation).length + (hub.forfeits operation).length := by
  have hlater : (hub.step operation).Consistent := (h.follows_step hregular).consistent
  have hlaterBooked := hbooked.step h.wellFormed operation
  let kept := hub.table.filter fun n => n ∉ hub.closedBy operation
  have hkept : (hub.step operation).table.length = (kept ++ hub.admitted operation).length := by
    apply length_eq_of_nodup hlater.table_nodup
    · refine List.nodup_append.mpr ⟨h.table_nodup.filter _, ?_, ?_⟩
      · rcases admitted_step hub hregular with ⟨hnone, -⟩ | ⟨hone, -⟩
        · rw [hnone]
          exact List.nodup_nil
        · rw [hone]
          exact List.nodup_singleton _
      · rintro n hn m hm rfl
        rcases admitted_step hub hregular with ⟨hnone, -⟩ | ⟨hone, -⟩
        · simp [hnone] at hm
        · rw [hone, List.mem_singleton] at hm
          exact h.notMem_table_length (hm ▸ (List.mem_filter.mp hn).1)
    · intro n
      rw [h.mem_table_step hregular, List.mem_append, List.mem_filter, decide_eq_true_eq]
  have hclosed : (hub.closedBy operation).length =
      (hub.table.filter fun n => n ∈ hub.closedBy operation).length := by
    refine length_eq_of_nodup (List.nodup_range.filter _) (h.table_nodup.filter _) fun n => ?_
    rw [List.mem_filter, decide_eq_true_eq, h.mem_table_iff_stage, mem_closedBy]
    exact ⟨fun hn => ⟨hn.1, hn⟩, And.right⟩
  have hboth := List.length_eq_length_filter_add (l := hub.table)
    fun n => decide (n ∈ hub.closedBy operation)
  simp only [← decide_not] at hboth
  rw [hlaterBooked.active_eq, hbooked.active_eq, hkept, List.length_append, hclosed, hboth]
  simp only [kept]
  omega

/-- In a run through the hub it is decided exactly who is admitted: a call for a new stream succeeds if
and only if the hub has not begun to stop, fewer sessions are open than the limit allows, and outboxes
of the capacity that the policy asks for can be made. A call that fails does so for the one reason or
the other, and leaves all sessions, tables and statistics as they are. Where outboxes cannot be made, a
call that nothing else is against panics, and one slot more is taken from then on although nobody has
it; so there the limit is reached though fewer sessions are open. A closing frees exactly one slot,
whatever it comes from, and so does every operation for each session that it closes. -/
theorem admissions_are_exact (policy : StreamPolicy) {operations : List Operation}
    (hregular : ∀ operation ∈ operations, operation.isRegular = true) :
    let hub := (Hub.new policy).run operations
    let begun := .sweep ∈ operations
    let lost := lostSlots policy operations
    (∀ topic id, hub.Decides begun policy lost (hub.join topic id)) ∧
      (∀ topic id (transport : Transport) initial,
        hub.Decides begun policy lost (hub.connect topic id transport.client initial)) ∧
      (policy.queueCapacity ≤ Outbox.maxCapacity → lost = 0) ∧
      (∀ n session (cause : Cause), hub.session? n = some session →
        (hub.retire n cause.reason cause.failure).2.active +
          (if session.stage = .open then 1 else 0) = hub.active) ∧
      ∀ operation : Operation, operation.isRegular = true →
        (hub.step operation).active + (hub.closedBy operation).length =
          hub.active + (hub.admitted operation).length + (hub.forfeits operation).length := by
  intro hub begun lost
  have hconsistent : hub.Consistent := (follows_run policy hregular).consistent
  have hbooked : hub.Booked lost := booked_run policy operations
  have hpolicy : hub.policy = policy.clamped := policy_run _ operations
  have hjoin (topic : Topic) (id : SessionId) :
      hub.Decides begun policy lost (hub.join topic id) := by
    obtain ⟨hadmits, hstopping, hfull, hrefused, hpanics, hpanicked⟩ :=
      hconsistent.decides_join hbooked topic id
    -- Clamping leaves the limit alone, and what it does to the capacity makes no difference.
    have hlimit : hub.policy.maxConnections = policy.maxConnections := by rw [hpolicy]; rfl
    rw [stopping_run_iff] at hadmits hstopping hfull hpanics
    rw [hlimit, hpolicy, clamped_fits_iff] at hadmits
    rw [hlimit, hpolicy, clamped_large_iff] at hpanics
    rw [hlimit] at hfull
    exact ⟨hadmits, hstopping, hfull, hrefused, hpanics, hpanicked⟩
  exact ⟨hjoin, fun topic id transport initial => (hjoin topic id).connect transport.client initial,
    fun hfits => lostSlots_of_fits hfits operations,
    fun n session cause hs => hbooked.active_retire hs _ _,
    fun operation hoperation => hconsistent.active_step hbooked hoperation⟩

/-- The only slot is taken, and free again after a close. -/
theorem admissions_are_exact_at_limit :
    let policy := { StreamPolicy.default with maxConnections := 1 }
    let hub := (Hub.new policy).run [.join (.random 0) ⟨0⟩]
    let later := (Hub.new policy).run [.join (.random 0) ⟨0⟩, .close 0 .explicit]
    (hub.join (.random 0) ⟨1⟩).1 = .error (.refused (.capacityExceeded 1)) ∧
      (hub.join (.random 0) ⟨1⟩).2.stats = hub.stats ∧ later.active + 1 = hub.active ∧
      ∃ n, (later.join (.random 0) ⟨1⟩).1 = .ok n := by
  intro policy hub later
  obtain ⟨hjoin, -, hfits, -, hfreed⟩ := admissions_are_exact policy
    (show ∀ operation ∈ [Operation.join (.random 0) ⟨0⟩], operation.isRegular = true by decide)
  obtain ⟨hagain, -, hfitsAgain, -⟩ := admissions_are_exact policy
    (show ∀ operation ∈ [Operation.join (.random 0) ⟨0⟩, .close 0 .explicit],
      operation.isRegular = true by decide)
  have hcapacity : policy.queueCapacity ≤ Outbox.maxCapacity := by decide
  have hfull : (hub.join (.random 0) ⟨1⟩).1 = .error (.refused (.capacityExceeded 1)) :=
    (hjoin (.random 0) ⟨1⟩).full (by simp) (by rw [hfits hcapacity]; decide +kernel)
  have hclosed : hub.closedBy (.close 0 .explicit) = [0] := by decide +kernel
  have hslots := hfreed (.close 0 .explicit) rfl
  rw [hclosed] at hslots
  exact ⟨hfull, ((hjoin (.random 0) ⟨1⟩).refused _ hfull).2, hslots,
    (hagain (.random 0) ⟨1⟩).admits_iff.mpr
      ⟨by simp, by rw [hfitsAgain hcapacity]; decide +kernel, hcapacity⟩⟩

/-- Nobody is connected and the hub does not stop, and yet a session is refused because of the limit:
the call before has panicked, for want of an outbox, and kept the only slot. -/
theorem admissions_are_exact_not_after_panic :
    ¬ ∀ (policy : StreamPolicy) (operations : List Operation) (topic : Topic) (id : SessionId),
      (∀ operation ∈ operations, operation.isRegular = true) →
      let hub := (Hub.new policy).run operations
      (∃ n, (hub.join topic id).1 = .ok n) ↔
        .sweep ∉ operations ∧ hub.openConnections.length < policy.maxConnections := by
  intro hexact
  let policy : StreamPolicy :=
    { StreamPolicy.default with maxConnections := 1, queueCapacity := 18446744073709551615 }
  let hub := (Hub.new policy).run [.join (.random 0) ⟨0⟩]
  have hrefused : (hub.join (.random 0) ⟨1⟩).1 = .error (.refused (.capacityExceeded 1)) := by
    decide +kernel
  have hnobody : hub.openConnections.length < policy.maxConnections := by decide +kernel
  obtain ⟨n, hadmitted⟩ :=
    (hexact policy [.join (.random 0) ⟨0⟩] (.random 0) ⟨1⟩ (by decide)).mpr ⟨by simp, hnobody⟩
  rw [hrefused] at hadmitted
  cases hadmitted

end LiveCounter.Hub
