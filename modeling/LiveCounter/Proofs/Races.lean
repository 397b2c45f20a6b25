import LiveCounter.Proofs.Slots
import LiveCounter.Proofs.Tallies

/-!
# Calls that race

Any number of admissions, closes and sweeps may be under way at the same time and take their steps
in any order. A session may be closed before it is subscribed, before it is open, or before its
admission has looked for the flag again. Whatever the order, every session that was admitted is
closed in the end, by the sweep or by its own admission, and nothing is left of it.
-/

namespace LiveCounter

/-- Calls that are under way, and the hub that they change. -/
structure Race where
  hub : Hub
  calls : List Call

namespace Race

/-- One of the calls takes its next step. -/
def step (race : Race) (i : Nat) : Race :=
  match race.calls[i]? with
  | none => race
  | some call => ⟨(call.step race.hub).2, race.calls.set i (call.step race.hub).1⟩

/-- The calls take steps in the given order. -/
def run (race : Race) (schedule : List Nat) : Race :=
  schedule.foldl step race

/-- What every step of a call preserves, whatever calls there are beside it, every run preserves. -/
theorem run_induction {P : Hub → List Call → Prop}
    (hstep : ∀ hub before call after, P hub (before ++ call :: after) →
      P (call.step hub).2 (before ++ (call.step hub).1 :: after))
    {race : Race} (h : P race.hub race.calls) (schedule : List Nat) :
    P (race.run schedule).hub (race.run schedule).calls := by
  induction schedule generalizing race with
  | nil => exact h
  | cons i rest ih =>
    refine ih ?_
    unfold step
    split
    · exact h
    · next call hcall =>
      obtain ⟨hi, rfl⟩ := List.getElem?_eq_some_iff.mp hcall
      obtain ⟨before, after, hcalls, -, hset⟩ : ∃ before after,
          race.calls = before ++ race.calls[i] :: after ∧ before.length = i ∧
            race.calls.set i (race.calls[i].step race.hub).1 =
              before ++ (race.calls[i].step race.hub).1 :: after := List.exists_of_set hi
      rw [hcalls] at h
      simp only [hset]
      exact hstep _ _ _ _ h

end Race

/-! ## Sessions do not become unclaimed again -/

namespace Hub

/-- The later hub has no unclaimed session that the first one does not have, and it is stopping if
the first one is. -/
structure Wanes (hub later : Hub) : Prop where
  unclaimed : ∀ n session, later.session? n = some session → session.isClaimed = false →
    ∃ session, hub.session? n = some session ∧ session.isClaimed = false
  stopping : hub.stopping = true → later.stopping = true

/-- Where sessions stay as they are, no unclaimed one comes in. -/
theorem wanes_of_sessions {hub later : Hub} (h : ∀ n, later.session? n = hub.session? n)
    (hstopping : hub.stopping = true → later.stopping = true) : hub.Wanes later :=
  ⟨fun n session hs hu => ⟨session, (h n).symm.trans hs, hu⟩, hstopping⟩

/-- Nobody comes in where nothing happens. -/
theorem Wanes.refl (hub : Hub) : hub.Wanes hub :=
  wanes_of_sessions (fun _ => rfl) id

/-- Where nobody comes in twice, nobody comes in. -/
theorem Wanes.trans {first second third : Hub} (h : first.Wanes second) (h' : second.Wanes third) :
    first.Wanes third where
  unclaimed n session hs hu := by
    obtain ⟨other, hother, hu'⟩ := h'.unclaimed n session hs hu
    exact h.unclaimed n other hother hu'
  stopping hstopping := h'.stopping (h.stopping hstopping)

/-- Reports bring nobody in. -/
theorem Reports.wanes {hub later : Hub} (h : hub.Reports later) : hub.Wanes later := by
  obtain ⟨_, _, -, rfl⟩ := h
  exact wanes_of_sessions (fun _ => rfl) id

/-- A change of one connection that takes no claim back brings nobody in. -/
theorem wanes_modify {hub : Hub} {n : Nat} {f : Connection → Connection}
    (hf : ∀ connection, hub.connections[n]? = some connection →
      (f connection).session.isClaimed = false → connection.session.isClaimed = false) :
    hub.Wanes (hub.modify n f) := by
  refine ⟨fun m session hs hu => ?_, id⟩
  cases hconnection : hub.connections[m]? with
  | none => simp only [session?, modify, List.getElem?_modify, hconnection] at hs; cases hs
  | some connection =>
    refine ⟨connection.session, by simp [session?, hconnection], ?_⟩
    simp only [session?, modify, List.getElem?_modify, hconnection] at hs
    obtain rfl := Option.some.inj hs
    by_cases hm : n = m
    · subst hm
      exact hf connection hconnection (by simpa using hu)
    · simpa [hm] using hu

/-- No step but the one that creates a session adds to the unclaimed ones. -/
theorem wanes_step {hub later : Hub} {call call' : Call} (hstep : call.Step hub call' later)
    (hcall : ∀ topic id, call ≠ .enter topic id) : hub.Wanes later := by
  cases hstep with
  | idle stopping _ _ hstopping hlater =>
    have hsame : hub.Wanes { hub with stopping } := wanes_of_sessions (fun _ => rfl) hstopping
    exact hsame.trans hlater.wanes
  | enter topic id => exact absurd rfl (hcall topic id)
  | claimSlot | subscribe | withdraw | leaveTable | giveSlot =>
    exact wanes_of_sessions (fun _ => rfl) fun h => h
  | panic | panicked | failToOpen | leave | stay | noFault | missing => exact .refl hub
  | markOpen n topic id hs hstage =>
    refine wanes_modify fun connection hconnection _ => ?_
    simp only [session?, hconnection, Option.map_some, Option.some.injEq] at hs
    simp [hs, Session.isClaimed, hstage]
  | countOpened n topic id hlater =>
    have hsame : hub.Wanes { hub with opened := hub.opened + 1 } :=
      wanes_of_sessions (fun _ => rfl) fun h => h
    exact hsame.trans hlater.wanes
  | startWatch n topic id hlater =>
    have hsame : hub.Wanes (hub.startWatch n) := wanes_modify fun _ _ hu => hu
    exact hsame.trans hlater.wanes
  | claim n cause rest =>
    exact wanes_modify fun _ _ hu => by simp [Session.isClaimed, Session.claimedFor] at hu
  | keepFault claim rest fault hlater =>
    have hsame : hub.Wanes (hub.modifySession claim.number (·.keepFault fault)) :=
      wanes_modify fun _ _ hu => hu
    exact hsame.trans hlater.wanes
  | leaveTopic claim rest hlater =>
    have hsame : hub.Wanes (hub.offTopic claim.number claim.session.topic claim.previous) :=
      wanes_of_sessions (fun _ => rfl) fun h => h
    exact hsame.trans hlater.wanes
  | releaseOutbox => exact wanes_modify fun _ _ hu => hu
  | terminate =>
    exact wanes_modify fun _ _ hu => by simp [Session.isClaimed, Session.terminate] at hu
  | countClosed claim rest hlater =>
    have hsame : hub.Wanes ((hub.tallyClosed claim.previous).tallyForced claim.cause.reason) :=
      wanes_of_sessions (fun _ => rfl) fun h => h
    exact hsame.trans hlater.wanes

end Hub

/-! ## Every unclaimed session is looked after -/

/-- A call will claim a session unless somebody else does: it has the session on its list, or it is
its admission and has not looked for the flag again. -/
def Call.Attends (n : Nat) : Call → Prop
  | .opening m _ _ next => m = n ∧ next ≠ .withdraw ∧ next ≠ .startWatch
  | .note _ _ noted => n ∈ noted
  | .closing (.claim m _) rest => m = n ∨ n ∈ rest
  | .closing _ rest => n ∈ rest
  | _ => False

/-- There is one way to have returned. -/
theorem Call.eq_returned_of_isOver {call : Call} (h : call.isOver = true) : call = .returned := by
  unfold isOver at h
  split at h
  · rfl
  · cases h

/-- A sweep attends to all those that it has noted and not reached. -/
theorem Call.attends_of_mem {n : Nat} {rest : List Nat} (h : n ∈ rest) {teardown : Teardown} :
    (Call.closing teardown rest).Attends n := by
  cases teardown with
  | claim => exact .inr h
  | under | ended => exact h

namespace Hub

/-- Some call attends to every unclaimed session, apart from those that are left. -/
def LookedAfter (hub : Hub) (calls : List Call) (left : Nat → Prop) : Prop :=
  ∀ n session, hub.session? n = some session → session.isClaimed = false →
    (∃ call ∈ calls, call.Attends n) ∨ left n

/-- How far the sweeps have come: none has begun, or some sweep has still to go through the rest of
the table, or every session is looked after. -/
inductive Swept (hub : Hub) (calls : List Call) : Prop
  | ahead {shards : Shards} (hmem : .raise shards ∈ calls)
  | noting {shards : Shards} {shard : Nat} {noted : List Nat}
      (hmem : .note shards shard noted ∈ calls) (hstopping : hub.stopping = true)
      (hafter : hub.LookedAfter calls fun n => shard ≤ shards.shardOf n)
  | noted (hstopping : hub.stopping = true) (hafter : hub.LookedAfter calls fun _ => False)

section Steps

variable {hub : Hub} {before after : List Call} {call : Call}

/-- In a hub that is stopping, a call attends to a session until that is claimed. -/
theorem attends_step (h : hub.Accounted (before ++ call :: after)) (hstopping : hub.stopping = true)
    {n : Nat} {session : Session} (hs : (call.step hub).2.session? n = some session)
    (hu : session.isClaimed = false) (hattends : call.Attends n) : (call.step hub).1.Attends n := by
  cases call with
  | ask | claimSlot | enter | panicked | find | raise => cases hattends
  | note shards shard noted =>
    by_cases hshard : shard < shards.count
    · simp only [Call.step, if_pos hshard]
      exact List.mem_append_left _ hattends
    · simp only [Call.step, if_neg hshard]
      exact hattends
  | opening m topic id next =>
    obtain ⟨rfl, hwithdraw, hstartWatch⟩ := hattends
    cases next with
    | subscribe => exact ⟨rfl, by simp, by simp⟩
    | markOpen =>
      cases hopened : hub.opened? m with
      | some opened =>
        simp only [Call.step, Call.openingStep, hopened]
        exact ⟨rfl, by simp, by simp⟩
      | none =>
        -- It cannot be opened, so somebody has claimed it.
        obtain ⟨other, _, hother, -, hstands⟩ := h.standing_opening
        have hstage : other.stage ≠ .opening := fun hstage => by
          simp [opened?, hother, Session.opened?, hstage] at hopened
        simp only [Call.step, Call.openingStep, hopened] at hs
        obtain rfl := Option.some.inj (hother.symm.trans hs)
        rw [(hstands.failToOpen hstage).1] at hu
        cases hu
    | withdraw => exact absurd rfl hwithdraw
    | countOpened => exact ⟨rfl, by simp, by simp⟩
    | lookAgain =>
      simp only [Call.step, Call.openingStep, if_pos hstopping]
      exact .inl rfl
    | startWatch => exact absurd rfl hstartWatch
  | closing teardown rest =>
    cases teardown with
    | claim m cause =>
      rcases hattends with rfl | hrest
      · change ((Teardown.claim m cause).step hub).2.session? m = some session at hs
        rcases Teardown.step_claim hub m cause with ⟨hall, hstep⟩ | ⟨other, hother, -, hstep⟩
        · rw [hstep] at hs
          rw [hall session hs] at hu
          cases hu
        · rw [hstep, session?_modifySession, hother] at hs
          obtain rfl := Option.some.inj hs
          cases hu
      · exact Call.attends_of_mem hrest
    | under claim next => exact Call.attends_of_mem hattends
    | ended =>
      cases rest with
      | nil => exact hattends
      | cons m rest =>
        rcases List.mem_cons.mp hattends with rfl | hrest
        · exact .inl rfl
        · exact .inr hrest

/-- The session that has just been created is attended to by its admission. -/
theorem unclaimed_or_attended {n : Nat} {session : Session}
    (hs : (call.step hub).2.session? n = some session) (hu : session.isClaimed = false) :
    (∃ session, hub.session? n = some session ∧ session.isClaimed = false) ∨
      (call.step hub).1.Attends n := by
  by_cases hcall : ∃ topic id, call = .enter topic id
  · obtain ⟨topic, id, rfl⟩ := hcall
    rw [Call.step_enter] at hs ⊢
    split at hs
    · next hfits =>
      have hsession := session?_created hub topic hub.policy.queueCapacity id n
      rw [if_pos hfits]
      change (hub.created topic hub.policy.queueCapacity id).session? n = some session at hs
      rw [hsession] at hs
      split at hs
      · next heq => exact .inr ⟨heq.symm, by simp, by simp⟩
      · exact .inl ⟨session, hs, hu⟩
    · exact .inl ⟨session, hs, hu⟩
  · simp only [not_exists] at hcall
    exact .inl ((wanes_step (call.step_spec hub) hcall).unclaimed n session hs hu)

/-- A step of one call leaves no session unattended. -/
theorem LookedAfter.step {left : Nat → Prop} (h : hub.LookedAfter (before ++ call :: after) left)
    (haccounted : hub.Accounted (before ++ call :: after)) (hstopping : hub.stopping = true) :
    (call.step hub).2.LookedAfter (before ++ (call.step hub).1 :: after) left := by
  intro n session hs hu
  rcases unclaimed_or_attended hs hu with ⟨earlier, hearlier, hu'⟩ | hattends
  · rcases h n earlier hearlier hu' with ⟨other, hother, hattends⟩ | hleft
    · rcases List.mem_append.mp hother with hbefore | hother
      · exact .inl ⟨other, List.mem_append_left _ hbefore, hattends⟩
      · rcases List.mem_cons.mp hother with rfl | hafter
        · exact .inl ⟨_, by simp, attends_step haccounted hstopping hs hu hattends⟩
        · exact .inl ⟨other, List.mem_append_right _ (List.mem_cons_of_mem _ hafter), hattends⟩
    · exact .inr hleft
  · exact .inl ⟨_, by simp, hattends⟩

/-- No step of a call lowers the flag. -/
theorem stopping_of_step (hstopping : hub.stopping = true) : (call.step hub).2.stopping = true := by
  by_cases hcall : ∃ topic id, call = .enter topic id
  · obtain ⟨topic, id, rfl⟩ := hcall
    rw [Call.step_enter]
    split <;> exact hstopping
  · simp only [not_exists] at hcall
    exact (wanes_step (call.step_spec hub) hcall).stopping hstopping

/-- Who is among the calls is among them after a step, or it is the one that took the step. -/
theorem mem_after_step {other : Call} (h : other ∈ before ++ call :: after) (call' : Call) :
    other = call ∨ other ∈ before ++ call' :: after := by
  rcases List.mem_append.mp h with hbefore | h
  · exact .inr (List.mem_append_left _ hbefore)
  · rcases List.mem_cons.mp h with rfl | hafter
    · exact .inl rfl
    · exact .inr (List.mem_append_right _ (List.mem_cons_of_mem _ hafter))

/-- A sweep that has gone through a shard has noted every session of it that needs closing. -/
theorem Swept.note {shards : Shards} {shard : Nat} {noted : List Nat}
    (haccounted : hub.Accounted (before ++ .note shards shard noted :: after))
    (hstopping : hub.stopping = true)
    (hafter : hub.LookedAfter (before ++ .note shards shard noted :: after) fun n =>
      shard ≤ shards.shardOf n) :
    (Call.step hub (.note shards shard noted)).2.Swept
      (before ++ (Call.step hub (.note shards shard noted)).1 :: after) := by
  have hlater := hafter.step haccounted hstopping
  by_cases hshard : shard < shards.count
  · simp only [Call.step, if_pos hshard] at hlater ⊢
    refine .noting (List.mem_append_right _ List.mem_cons_self) hstopping
      fun n session hs hu => ?_
    rcases hlater n session hs hu with hattended | hleft
    · exact .inl hattended
    · rcases Nat.eq_or_lt_of_le hleft with heq | hlt
      · obtain ⟨_, _, _, _, hstands⟩ := haccounted.standing n session hs
        have hlisted := List.contains_iff_mem.mp (hstands.listed_of_unclaimed hu)
        refine .inl ⟨_, List.mem_append_right _ List.mem_cons_self, ?_⟩
        exact List.mem_append_right _ (List.mem_filter.mpr ⟨hlisted, by simp [heq]⟩)
      · exact .inr hlt
  · simp only [Call.step, if_neg hshard] at hlater ⊢
    refine .noted hstopping fun n session hs hu => .inl ?_
    rcases hlater n session hs hu with hattended | hleft
    · exact hattended
    · exact absurd (Nat.lt_of_le_of_lt hleft (shards.shardOf n).isLt) hshard

/-- No step of a call lets a sweep overlook a session. -/
theorem Swept.step (h : hub.Swept (before ++ call :: after))
    (haccounted : hub.Accounted (before ++ call :: after)) :
    (call.step hub).2.Swept (before ++ (call.step hub).1 :: after) := by
  cases h with
  | ahead hmem =>
    rcases mem_after_step hmem (call.step hub).1 with rfl | hmem
    · exact .noting (List.mem_append_right _ List.mem_cons_self) rfl
        fun _ _ _ _ => .inr (Nat.zero_le _)
    · exact .ahead hmem
  | noting hmem hstopping hafter =>
    rcases mem_after_step hmem (call.step hub).1 with rfl | hmem
    · exact .note haccounted hstopping hafter
    · exact .noting hmem (stopping_of_step hstopping) (hafter.step haccounted hstopping)
  | noted hstopping hafter =>
    exact .noted (stopping_of_step hstopping) (hafter.step haccounted hstopping)

end Steps

/-- A sweep that has done nothing yet has overlooked nobody. -/
theorem swept_of_isSweep {hub : Hub} {calls : List Call}
    (h : ∃ call ∈ calls, call.isSweep = true) : hub.Swept calls := by
  obtain ⟨call, hcall, hsweep⟩ := h
  cases call with
  | raise shards => exact .ahead hcall
  | _ => cases hsweep

/-- When all calls have returned, a sweep among them, nobody has been overlooked. -/
theorem Swept.claimed {hub : Hub} {calls : List Call} (h : hub.Swept calls)
    (hover : ∀ call ∈ calls, call.isOver = true) (n : Nat) (session : Session)
    (hs : hub.session? n = some session) : session.isClaimed = true := by
  cases h with
  | ahead hmem => cases hover _ hmem
  | noting hmem => cases hover _ hmem
  | noted _ hafter =>
    by_contra hu
    rcases hafter n session hs (by simpa using hu) with ⟨call, hcall, hattends⟩ | hleft
    · rw [Call.eq_returned_of_isOver (hover call hcall)] at hattends
      cases hattends
    · exact hleft

/-! ## Before the race and after it -/

section Idle

variable {hub : Hub} {calls : List Call}

/-- Idle calls neither admit anybody nor tear anybody down. -/
theorem nobody_of_isIdle (hidle : ∀ call ∈ calls, call.isIdle = true) (n : Nat) :
    calls.filterMap (·.opening? n) = [] ∧ calls.filterMap (·.letdown? n) = [] :=
  ⟨List.filterMap_eq_nil_iff.mpr fun call hcall => Call.opening?_of_isIdle (hidle call hcall) n,
    List.filterMap_eq_nil_iff.mpr fun call hcall => Call.letdown?_of_isIdle (hidle call hcall) n⟩

/-- Where the records agree, all sessions stand well with respect to idle calls. -/
theorem Consistent.accounted (h : hub.Consistent) (hidle : ∀ call ∈ calls, call.isIdle = true) :
    hub.Accounted calls where
  standing n session hs := by
    obtain ⟨hopening, hletdown⟩ := nobody_of_isIdle hidle n
    refine ⟨none, none, hopening, hletdown, ?_⟩
    have hlisted := h.listed n
    have hsubscribed := h.subscribed session.topic n
    simp only [hs, Option.some.injEq, exists_eq_left', and_true] at hlisted hsubscribed
    cases h.settled n session hs with
    | live stage =>
      exact .live stage (List.contains_iff_mem.mpr (hlisted.mpr stage)) (hsubscribed.mpr stage)
        (by simp)
    | ended stage _ _ released items =>
      refine .gone stage ?_ released items fun honTopic => ?_
      · simp [hlisted, stage]
      · simp [hsubscribed.mp honTopic] at stage
  knows call hcall := Call.knows_of_isIdle (hidle call hcall) hub
  listed n hn := by
    obtain ⟨session, hs, -⟩ := (h.listed n).mp hn
    exact ⟨session, hs⟩
  named topic n hcontains := by
    obtain ⟨session, hs, -, rfl⟩ := (h.subscribed topic n).mp hcontains
    simp [topic?, hs]
  table_nodup := h.table_nodup
  wellFormed := h.wellFormed

/-- Idle calls hold no slot, and owe nothing. -/
theorem countP_of_isIdle (hidle : ∀ call ∈ calls, call.isIdle = true) :
    calls.countP Call.holdsSlot = 0 ∧ calls.countP Call.owesOpened = 0 ∧
      calls.countP Call.owesClosed = 0 := by
  have howes := fun call hcall => Call.owes_of_isIdle (hidle call hcall)
  refine ⟨?_, ?_, ?_⟩ <;> refine List.countP_eq_zero.mpr fun call hcall => ?_
  · simp [(howes call hcall).1]
  · simp [(howes call hcall).2.1]
  · simp [(howes call hcall).2.2]

/-- Where the records agree, so do the totals, whatever idle calls there are. -/
theorem Consistent.tallied (h : hub.Consistent) {lost : Nat} (hbooked : hub.Booked lost)
    (hidle : ∀ call ∈ calls, call.isIdle = true) : hub.Tallied hub.policy lost calls := by
  obtain ⟨hslot, hopened, hclosed⟩ := countP_of_isIdle hidle
  refine ⟨rfl, ?_, h.active_le, ?_, h.disagreements_eq⟩
  · rw [hslot, hbooked.active_eq, Nat.add_zero]
  · rw [hopened, hclosed, h.length_openConnections, h.opened_eq, Nat.add_zero]

/-- Nothing is left of any session: all have ended, and none is in any record of live ones. No slots
are taken but those that were lost. -/
structure Emptied (lost : Nat) (hub : Hub) : Prop where
  ended : ∀ n session, hub.session? n = some session →
    session.stage = .terminated ∧ session.outbox.released = true ∧ session.outbox.items = []
  table : hub.table = []
  topics : hub.subscriptions.topics = []
  active : hub.active = lost
  opened : hub.opened = hub.closed
  disagreements : hub.disagreements = 0

/-- When no call has anything in hand and every session is claimed, nothing is left. -/
theorem Accounted.emptied (h : hub.Accounted calls) {policy : StreamPolicy} {lost : Nat}
    (htallied : hub.Tallied policy lost calls) (hidle : ∀ call ∈ calls, call.isIdle = true)
    (hclaimed : ∀ n session, hub.session? n = some session → session.isClaimed = true) :
    hub.Emptied lost := by
  have hended {n : Nat} {session : Session} (hs : hub.session? n = some session) :
      session.stage = .terminated ∧ session.outbox.released = true ∧ session.outbox.items = [] ∧
        hub.table.contains n = false ∧ hub.subscriptions.contains session.topic n = false := by
    obtain ⟨opening, letdown, hopening, hletdown, hstands⟩ := h.standing n session hs
    obtain ⟨hnobody, hnobody'⟩ := nobody_of_isIdle hidle n
    obtain rfl : opening = none := by simpa [hnobody] using hopening
    obtain rfl : letdown = none := by simpa [hnobody'] using hletdown
    exact hstands.ended_of_claimed (hclaimed n session hs)
  have htable : hub.table = [] := by
    refine List.eq_nil_iff_forall_not_mem.mpr fun n hn => ?_
    obtain ⟨session, hs⟩ := h.listed n hn
    have hlisted := List.contains_iff_mem.mpr hn
    rw [(hended hs).2.2.2.1] at hlisted
    cases hlisted
  have htopics : hub.subscriptions.topics.map (·.1) = [] := by
    refine List.eq_nil_iff_forall_not_mem.mpr fun topic htopic => ?_
    obtain ⟨n, hcontains⟩ := (h.wellFormed.mem_keys topic).mp htopic
    have hnamed := h.named topic n hcontains
    simp only [topic?, Option.map_eq_some_iff] at hnamed
    obtain ⟨session, hs, rfl⟩ := hnamed
    simp [(hended hs).2.2.2.2] at hcontains
  have hopen : hub.openConnections = [] := by
    refine List.eq_nil_iff_forall_not_mem.mpr fun connection hmem => ?_
    obtain ⟨n, hconnection, hopen⟩ := mem_openConnections.mp hmem
    have hs : hub.session? n = some connection.session := by simp [session?, hconnection]
    have hstage := (hended hs).1
    rw [hopen] at hstage
    cases hstage
  obtain ⟨hslot, howes, howes'⟩ := countP_of_isIdle hidle
  have hledger := htallied.opened_eq
  rw [howes, howes', hopen] at hledger
  refine ⟨fun n session hs => ?_, htable, List.map_eq_nil_iff.mp htopics, ?_, hledger,
    htallied.disagreements_eq⟩
  · obtain ⟨hstage, hreleased, hitems, -⟩ := hended hs
    exact ⟨hstage, hreleased, hitems⟩
  · rw [htallied.active_eq, htable, hslot]
    exact Nat.zero_add lost

end Idle

end Hub

/-- A call that has done nothing yet is idle. -/
theorem Call.isIdle_of_isFresh {call : Call} (h : call.isFresh = true) : call.isIdle = true := by
  cases call with
  | enter | panicked | opening => cases h
  | closing teardown rest =>
    cases teardown with
    | under => cases h
    | _ => rfl
  | _ => rfl

/-- A call that has returned is idle. -/
theorem Call.isIdle_of_isOver {call : Call} (h : call.isOver = true) : call.isIdle = true := by
  rw [eq_returned_of_isOver h]
  rfl

/-- In a race the sessions are accounted for and the totals agree all the time. -/
theorem Race.accounted_run {policy : StreamPolicy} {lost : Nat} {hub : Hub} {calls : List Call}
    (haccounted : hub.Accounted calls) (htallied : hub.Tallied policy lost calls)
    (schedule : List Nat) :
    ((mk hub calls).run schedule).hub.Accounted ((mk hub calls).run schedule).calls ∧
      ((mk hub calls).run schedule).hub.Tallied policy lost ((mk hub calls).run schedule).calls :=
  run_induction (P := fun hub calls => hub.Accounted calls ∧ hub.Tallied policy lost calls)
    (fun hub _ call _ h => ⟨h.1.step (call.step_spec hub), h.2.step h.1 (call.step_spec hub)⟩)
    ⟨haccounted, htallied⟩ schedule

/-- In a race with a sweep no session is overlooked. -/
theorem Race.swept_run {hub : Hub} {calls : List Call} (haccounted : hub.Accounted calls)
    (hswept : hub.Swept calls) (schedule : List Nat) :
    ((mk hub calls).run schedule).hub.Swept ((mk hub calls).run schedule).calls :=
  (run_induction (P := fun hub calls => hub.Accounted calls ∧ hub.Swept calls)
    (fun hub _ call _ h => ⟨h.1.step (call.step_spec hub), h.2.step h.1⟩)
    ⟨haccounted, hswept⟩ schedule).2

/-- Whatever the order of their steps, admissions, closes and sweeps that run at the same time keep
the taken slots within their bounds; and once all of them have returned, a sweep among them, nothing
is left of any session, of those that raced and of those that were there before. The only slots that
are never given back are those of calls that panicked before the race: there are none if nothing was
done before it, or if outboxes can be made. -/
theorem Race.leaves_nothing_behind (policy : StreamPolicy) {operations : List Hub.Operation}
    (hregular : ∀ operation ∈ operations, operation.isRegular = true) {calls : List Call}
    (hfresh : ∀ call ∈ calls, call.isFresh = true) (schedule : List Nat) :
    let race := (Race.mk ((Hub.new policy).run operations) calls).run schedule
    let lost := Hub.lostSlots policy operations
    (race.hub.active = race.hub.table.length + race.calls.countP Call.holdsSlot + lost ∧
        race.hub.active ≤ policy.maxConnections ∧
        ∀ call ∈ race.calls, call.holdsSlot = true → 0 < race.hub.active) ∧
      (operations = [] ∨ policy.queueCapacity ≤ Outbox.maxCapacity → lost = 0) ∧
      ((∃ call ∈ calls, call.isSweep = true) → (∀ call ∈ race.calls, call.isOver = true) →
        race.hub.Emptied lost) := by
  intro race lost
  obtain ⟨hconsistent, hpolicy, -⟩ := Hub.follows_run policy hregular
  have hidle : ∀ call ∈ calls, call.isIdle = true := fun call hcall =>
    Call.isIdle_of_isFresh (hfresh call hcall)
  have hbefore : ((Hub.new policy).run operations).Tallied policy.clamped lost calls := by
    have htallied := hconsistent.tallied (Hub.booked_run policy operations) hidle
    rwa [hpolicy] at htallied
  have haccounted := hconsistent.accounted hidle
  obtain ⟨haccounted', htallied⟩ := Race.accounted_run haccounted hbefore schedule
  refine ⟨⟨htallied.active_eq, ?_, fun call => htallied.active_pos⟩,
    ?_, fun hsweep hover => ?_⟩
  · have hle := htallied.active_le
    rwa [htallied.policy_eq] at hle
  · rintro (rfl | hfits)
    · rfl
    · exact Hub.lostSlots_of_fits hfits operations
  · have hswept := Race.swept_run haccounted (Hub.swept_of_isSweep hsweep) schedule
    exact haccounted'.emptied htallied (fun call hcall => Call.isIdle_of_isOver (hover call hcall))
      (hswept.claimed hover)

/-- Three admissions race with two closes and a sweep. The first session is closed before it is
subscribed, the second one before it is counted, and the third one is entered when the sweep has
gone through the table; a fourth one was there from the start. -/
theorem Race.leaves_nothing_behind_for_three_admissions :
    let operations : List Hub.Operation := [.connect (.random 0) ⟨0⟩ (.channel 4) (some 1)]
    let calls : List Call :=
      [.ask (.random 1) ⟨1⟩, .ask (.random 1) ⟨2⟩, .ask (.random 2) ⟨3⟩,
        .find 1 (.plain .explicit), .closing (.claim 2 (.error .backpressureDrop)) [],
        .raise ⟨2, fun n => ⟨n % 2, Nat.mod_lt n (by decide)⟩⟩]
    let schedule : List Nat :=
      [0, 0, 0, 3, 3, 0, 0, 0, 1, 1, 1, 1, 1, 4, 2, 2, 5, 5, 5, 5, 2, 2, 2] ++
        (List.replicate 18 [0, 1, 2, 3, 4, 5]).flatten
    let race := (Race.mk ((Hub.new .default).run operations) calls).run schedule
    race.hub.Emptied 0 ∧ race.hub.opened = 3 ∧
      race.hub.connections.map (·.session.reason) =
        [some .shutdown, some .explicit, some .backpressure, some .shutdown] := by
  intro operations calls schedule race
  have hregular : ∀ operation ∈ operations, operation.isRegular = true := by decide
  have hfresh : ∀ call ∈ calls, call.isFresh = true := by simp [calls, Call.isFresh]
  have hsweep : ∃ call ∈ calls, call.isSweep = true := ⟨calls[5], by simp, rfl⟩
  have hover : ∀ call ∈ race.calls, call.isOver = true :=
    List.all_eq_true.mp (by decide +kernel)
  obtain ⟨-, hfits, hemptied⟩ := leaves_nothing_behind .default hregular hfresh schedule
  exact ⟨hfits (.inr (by decide)) ▸ hemptied hsweep hover, by decide +kernel, by decide +kernel⟩

end LiveCounter
