import LiveCounter.Proofs.Changes
import LiveCounter.Proofs.Operations
import LiveCounter.Proofs.Subscriptions
import Mathlib.Data.List.Induction

/-!
# The records of live sessions agree

The hub knows three times which sessions are live: by their stages, by its table and by the
subscriptions. Every change keeps the three in step, so they agree after every run of operations that
go through the hub. The number of taken slots, which is to say the same a fourth time, has accounts
of its own.
-/

namespace LiveCounter

namespace Session

/-- A session is open, with nothing about its closing written down, or it has ended for good. -/
inductive Settled (session : Session) : Prop
  | live (stage : session.stage = .open) (reason : session.reason = none)
      (failure : session.failure = none) (cancelled : session.cancelled = false)
      (released : session.outbox.released = false)
  | ended (stage : session.stage = .terminated) (reason : session.reason.isSome = true)
      (cancelled : session.cancelled = true) (released : session.outbox.released = true)
      (items : session.outbox.items = [])

/-- A session that gets no further stays settled. -/
theorem Settled.sameCourse {before after : Session} (h : before.Settled)
    (hsame : before.SameCourse after) : after.Settled := by
  cases h with
  | live stage reason failure cancelled released =>
    exact .live (hsame.stage.trans stage) (hsame.reason.trans reason)
      (hsame.failure.trans failure) (hsame.cancelled.trans cancelled) (hsame.released.trans released)
  | ended stage reason cancelled released items =>
    exact .ended (hsame.stage.trans stage) (hsame.reason ▸ reason)
      (hsame.cancelled.trans cancelled) (hsame.released.trans released)
      (hsame.emptied items released)

/-- A settled session that nobody has claimed is open. -/
theorem Settled.open_of_unclaimed {session : Session} (h : session.Settled)
    (hu : session.isClaimed = false) : session.stage = .open := by
  cases h with
  | live stage => exact stage
  | ended stage => simp [isClaimed, stage] at hu

/-- An unclaimed session that is ended has ended. -/
theorem stage_retired {session : Session} (hu : session.isClaimed = false) (reason : CloseReason)
    (fault : Option StreamFault) : (session.retired reason fault).stage = .terminated := by
  simp [retired, hu]

/-- A settled session that is ended is settled. -/
theorem settled_retired {session : Session} (h : session.Settled) (reason : CloseReason)
    (fault : Option StreamFault) : (session.retired reason fault).Settled := by
  by_cases hclaimed : session.isClaimed = true
  · rwa [retired_of_isClaimed hclaimed]
  · rw [retired, if_neg hclaimed]
    refine .ended rfl ?_ rfl rfl rfl
    cases session.reason <;> rfl

end Session

namespace Hub

/-- The records of live sessions agree, and nothing else was ever noticed. -/
structure Consistent (hub : Hub) : Prop where
  settled : ∀ n session, hub.session? n = some session → session.Settled
  table_nodup : hub.table.Nodup
  listed : ∀ n, n ∈ hub.table ↔ ∃ session, hub.session? n = some session ∧ session.stage = .open
  wellFormed : hub.subscriptions.WellFormed
  subscribed : ∀ topic n, hub.subscriptions.contains topic n = true ↔
    ∃ session, hub.session? n = some session ∧ session.stage = .open ∧ session.topic = topic
  active_le : hub.active ≤ hub.policy.maxConnections
  opened_eq : hub.opened = hub.closed + hub.table.length
  disagreements_eq : hub.disagreements = 0

/-- The records of a new hub agree. -/
theorem consistent_new (policy : StreamPolicy) : (Hub.new policy).Consistent where
  settled n session h := by simp [session?, Hub.new] at h
  table_nodup := List.nodup_nil
  listed n := by simp [session?, Hub.new]
  wellFormed := Subscriptions.wellFormed_empty
  subscribed topic n := by
    simp [session?, Hub.new, Subscriptions.contains, Subscriptions.handles]
  active_le := Nat.zero_le _
  opened_eq := rfl
  disagreements_eq := rfl

/-- Reports leave the records in agreement. -/
theorem Consistent.reports {hub later : Hub} (h : hub.Consistent) (hreports : hub.Reports later) :
    later.Consistent := by
  obtain ⟨metrics, journal, -, rfl⟩ := hreports
  exact ⟨h.settled, h.table_nodup, h.listed, h.wellFormed, h.subscribed, h.active_le, h.opened_eq,
    h.disagreements_eq⟩

/-- Where each session of the one hub has the course of the same session of the other, there are the
same open sessions. -/
theorem exists_open_iff {hub later : Hub} {n : Nat} {P : Topic → Prop}
    (h : Option.Rel Session.SameCourse (hub.session? n) (later.session? n)) :
    (∃ session, later.session? n = some session ∧ session.stage = .open ∧ P session.topic) ↔
      ∃ session, hub.session? n = some session ∧ session.stage = .open ∧ P session.topic := by
  revert h
  generalize later.session? n = after
  generalize hub.session? n = before
  rintro (hsame | _)
  · simp [hsame.stage, hsame.topic]
  · simp

/-- A change of a connection that takes its session no further takes nobody further. -/
theorem session?_modify {hub : Hub} {n : Nat} {f : Connection → Connection}
    (h : ∀ connection, hub.connections[n]? = some connection →
      connection.session.SameCourse (f connection).session) (m : Nat) :
    Option.Rel Session.SameCourse (hub.session? m) ((hub.modify n f).session? m) := by
  simp only [session?, modify, List.getElem?_modify]
  cases hconnection : hub.connections[m]? with
  | none => exact .none
  | some connection =>
    by_cases hm : n = m
    · subst hm
      simpa using Option.Rel.some (h connection hconnection)
    · simpa [hm] using Option.Rel.some (Session.SameCourse.refl _)

/-- Such a change leaves the records in agreement. -/
theorem Consistent.modify {hub : Hub} (h : hub.Consistent) {n : Nat}
    {f : Connection → Connection}
    (hf : ∀ connection, hub.connections[n]? = some connection →
      connection.session.SameCourse (f connection).session) : (hub.modify n f).Consistent where
  settled m session hs := by
    have hrel := session?_modify hf m
    rw [hs] at hrel
    cases hbefore : hub.session? m with
    | none =>
      rw [hbefore] at hrel
      cases hrel
    | some before =>
      rw [hbefore] at hrel
      cases hrel with
      | some hsame => exact (h.settled m before hbefore).sameCourse hsame
  table_nodup := h.table_nodup
  listed m := by
    have hiff := exists_open_iff (P := fun _ => True) (session?_modify hf m)
    simp only [and_true] at hiff
    rw [hiff]
    exact h.listed m
  wellFormed := h.wellFormed
  subscribed topic m := by
    rw [exists_open_iff (P := (· = topic)) (session?_modify hf m)]
    exact h.subscribed topic m
  active_le := h.active_le
  opened_eq := h.opened_eq
  disagreements_eq := h.disagreements_eq

/-- The sessions after one connection has been added. -/
theorem session?_append (hub : Hub) (connection : Connection) (n : Nat) :
    ((hub.connections ++ [connection])[n]?).map (·.session) =
      if n = hub.connections.length then some connection.session else hub.session? n := by
  split
  · next heq => simp [heq]
  · next hne =>
    rcases Nat.lt_or_gt_of_ne hne with hlt | hgt
    · rw [List.getElem?_append_left hlt]
      rfl
    · rw [session?, List.getElem?_eq_none (by simpa using Nat.succ_le_of_lt hgt),
        List.getElem?_eq_none (Nat.le_of_lt hgt)]

/-- A session that is created comes last. -/
theorem session?_created (hub : Hub) (topic : Topic) (capacity : Nat) (id : SessionId) (n : Nat) :
    (hub.created topic capacity id).session? n =
      if n = hub.connections.length then
        some (Session.create id topic (.ofCapacity capacity) hub.now)
      else hub.session? n :=
  session?_append hub _ n

/-- So does a session that is entered. -/
theorem session?_entered (hub : Hub) (topic : Topic) (id : SessionId) (n : Nat) :
    (hub.entered topic id).session? n =
      if n = hub.connections.length then some (hub.newcomer topic id).session
      else hub.session? n :=
  session?_append hub (hub.newcomer topic id) n

/-- No session has the next number yet. -/
theorem session?_length (hub : Hub) : hub.session? hub.connections.length = none := by
  simp [session?]

/-- The table does not know the next number. -/
theorem Consistent.notMem_table_length {hub : Hub} (h : hub.Consistent) :
    hub.connections.length ∉ hub.table := by
  rw [h.listed, session?_length]
  simp

/-- A session entered in all records leaves them in agreement. -/
theorem Consistent.entered {hub : Hub} (h : hub.Consistent) (topic : Topic) (id : SessionId)
    (hroom : hub.active < hub.policy.maxConnections) : (hub.entered topic id).Consistent where
  settled n session hs := by
    rw [session?_entered] at hs
    split at hs
    · obtain rfl := Option.some.inj hs
      exact .live rfl rfl rfl rfl rfl
    · exact h.settled n session hs
  table_nodup := by
    refine List.nodup_append.mpr ⟨h.table_nodup, List.nodup_singleton _, ?_⟩
    rintro n hn m hm rfl
    rw [List.mem_singleton.mp hm] at hn
    exact h.notMem_table_length hn
  listed n := by
    rw [session?_entered, Hub.entered, List.mem_append, h.listed, List.mem_singleton]
    split
    · next heq => simp [heq, newcomer]
    · next hne => simp [hne]
  wellFormed := h.wellFormed.subscribe topic hub.connections.length
  subscribed other n := by
    rw [session?_entered, Hub.entered, Subscriptions.contains_subscribe, Bool.or_eq_true,
      h.subscribed]
    split
    · next heq =>
      subst heq
      simp [session?_length, newcomer, Session.create]
    · next hne => simp [hne]
  active_le := hroom
  opened_eq := by
    rw [Hub.entered, h.opened_eq, List.length_append, List.length_singleton, Nat.add_assoc]
  disagreements_eq := h.disagreements_eq

/-- A slot that is taken for nobody is in no record of sessions. -/
theorem Consistent.forfeited {hub : Hub} (h : hub.Consistent)
    (hroom : hub.active < hub.policy.maxConnections) : hub.forfeited.Consistent :=
  ⟨h.settled, h.table_nodup, h.listed, h.wellFormed, h.subscribed, hroom, h.opened_eq,
    h.disagreements_eq⟩

/-- The end of a session changes no other session. -/
theorem session?_ended {hub : Hub} {n : Nat} {session : Session} (hs : hub.session? n = some session)
    (reason : CloseReason) (fault : Option StreamFault) (m : Nat) :
    (hub.ended n session reason fault).session? m =
      if m = n then some (session.retired reason fault) else hub.session? m := by
  obtain ⟨connection, hconnection, rfl⟩ := connection_of_session? hs
  simp only [session?, connections_ended, modifySession, modify, List.getElem?_modify]
  by_cases hm : m = n
  · subst hm
    simp [hconnection]
  · simp [hm, Ne.symm hm]

/-- The end of a session leaves the records in agreement. -/
theorem Consistent.ended {hub : Hub} (h : hub.Consistent) {n : Nat} {session : Session}
    (hs : hub.session? n = some session) (hu : session.isClaimed = false) (reason : CloseReason)
    (fault : Option StreamFault) : (hub.ended n session reason fault).Consistent := by
  -- A session that nobody has claimed is open, so all records have it.
  have hopen : session.stage = .open := (h.settled n session hs).open_of_unclaimed hu
  have hmem : n ∈ hub.table := (h.listed n).mpr ⟨session, hs, hopen⟩
  have hcontains : hub.subscriptions.contains session.topic n = true :=
    (h.subscribed session.topic n).mpr ⟨session, hs, hopen, rfl⟩
  have hstage := Session.stage_retired hu reason fault
  have htable : (hub.ended n session reason fault).table = hub.table.erase n := rfl
  have hsubs : (hub.ended n session reason fault).subscriptions =
      (hub.subscriptions.unsubscribe session.topic n).2 := rfl
  have hactive : (hub.ended n session reason fault).active = hub.active - 1 := if_pos hmem
  have hclosed : (hub.ended n session reason fault).closed = hub.closed + 1 := if_pos hopen
  constructor
  case settled =>
    intro m later hlater
    rw [session?_ended hs] at hlater
    split at hlater
    · obtain rfl := Option.some.inj hlater
      exact Session.settled_retired (h.settled n session hs) reason fault
    · exact h.settled m later hlater
  case table_nodup =>
    rw [htable]
    exact h.table_nodup.erase n
  case listed =>
    intro m
    rw [htable, h.table_nodup.mem_erase_iff, session?_ended hs, h.listed]
    split
    · next heq => simp [heq, hstage]
    · next hne => simp [hne]
  case wellFormed =>
    rw [hsubs]
    exact h.wellFormed.unsubscribe session.topic n
  case subscribed =>
    intro topic m
    rw [hsubs, h.wellFormed.contains_unsubscribe, session?_ended hs, Bool.and_eq_true, h.subscribed]
    split
    · next heq =>
      subst heq
      simp [hstage, hs]
    · next hne => simp [hne]
  case active_le =>
    rw [hactive]
    exact Nat.le_trans (Nat.sub_le _ _) h.active_le
  case opened_eq =>
    have hopened : (hub.ended n session reason fault).opened = hub.opened := rfl
    have hlength := List.length_erase_add_one hmem
    rw [hopened, hclosed, htable, h.opened_eq]
    omega
  case disagreements_eq =>
    have hsame : (hub.ended n session reason fault).disagreements = hub.disagreements :=
      if_neg (by rintro ⟨-, hnot⟩; exact hnot hcontains)
    rw [hsame, h.disagreements_eq]

/-- So does whatever may end one. -/
theorem Consistent.retire {hub : Hub} (h : hub.Consistent) (n : Nat) (reason : CloseReason)
    (fault : Option StreamFault) : (hub.retire n reason fault).2.Consistent := by
  by_cases hclaimed : ∀ session, hub.session? n = some session → session.isClaimed = true
  · rw [retire_of_isClaimed hclaimed]
    exact h
  · simp only [not_forall, Bool.not_eq_true] at hclaimed
    obtain ⟨session, hs, hu⟩ := hclaimed
    exact (h.ended hs hu reason fault).reports (retire_of_unclaimed hs hu reason fault).2

/-- No change brings the records into disagreement. -/
theorem Consistent.change {hub later : Hub} (h : hub.Consistent) (hchange : hub.Change later) :
    later.Consistent := by
  cases hchange with
  | report hreports => exact h.reports hreports
  | tally =>
    exact ⟨h.settled, h.table_nodup, h.listed, h.wellFormed, h.subscribed, h.active_le,
      h.opened_eq, h.disagreements_eq⟩
  | modify n f hf => exact h.modify hf
  | enter topic id hstopping hroom => exact h.entered topic id hroom
  | retire n cause => exact h.retire n cause.reason cause.failure

/-- Changes leave the records in agreement. -/
theorem Consistent.path {hub later : Hub} (h : hub.Consistent) (hpath : hub.Path later) :
    later.Consistent := by
  induction hpath with
  | refl => exact h
  | tail _ hchange ih => exact ih.change hchange

/-- Every subscriber is an open session, which the table refers to. -/
theorem Consistent.attended {hub : Hub} (h : hub.Consistent) (topic : Topic) :
    hub.Attended topic := by
  intro n hn
  obtain ⟨session, hs, hopen, -⟩ :=
    (h.subscribed topic n).mp ((Subscriptions.contains_iff_mem _ _ _).mpr hn)
  obtain ⟨connection, hconnection, -⟩ := connection_of_session? hs
  have hlisted : n ∈ hub.table := (h.listed n).mpr ⟨session, hs, hopen⟩
  refine ⟨by simp [isAlive, hconnection, hlisted], fun other hother => ?_⟩
  rw [hs] at hother
  obtain rfl := Option.some.inj hother
  simp [hopen]

/-- What an operation sets first leaves the records in agreement. -/
theorem Consistent.outset {hub : Hub} (h : hub.Consistent) (operation : Operation) :
    (hub.outset operation).Consistent := by
  cases operation <;> exact ⟨h.settled, h.table_nodup, h.listed, h.wellFormed, h.subscribed,
    h.active_le, h.opened_eq, h.disagreements_eq⟩

/-- An operation through a hub whose records agree goes by changes, unless it panics. -/
theorem Consistent.path_step {hub : Hub} (h : hub.Consistent) {operation : Operation}
    (hregular : operation.isRegular = true) (hreturns : hub.panics operation = false) :
    (hub.outset operation).Path (hub.step operation) :=
  Hub.path_step hregular hreturns fun event _ => h.attended event.topic

/-- The later hub has consistent records, the same policy, and metrics that have not fallen. -/
structure Follows (hub later : Hub) : Prop where
  consistent : later.Consistent
  policy_eq : later.policy = hub.policy
  metrics_le : hub.metrics.Le later.metrics

/-- A hub whose records agree follows itself. -/
theorem Consistent.follows {hub : Hub} (h : hub.Consistent) : hub.Follows hub :=
  ⟨h, rfl, .refl _⟩

/-- What follows in turn follows. -/
theorem Follows.trans {first second third : Hub} (h : first.Follows second)
    (h' : second.Follows third) : first.Follows third :=
  ⟨h'.consistent, h'.policy_eq.trans h.policy_eq, h.metrics_le.trans h'.metrics_le⟩

/-- An operation through the hub leaves the records in agreement. -/
theorem Consistent.follows_step {hub : Hub} (h : hub.Consistent) {operation : Operation}
    (hregular : operation.isRegular = true) : hub.Follows (hub.step operation) := by
  cases hpanics : hub.panics operation with
  | true =>
    obtain ⟨hstep, -, hroom⟩ := step_of_panics hpanics
    rw [hstep]
    exact ⟨h.forfeited hroom, rfl, .refl _⟩
  | false =>
    have hpath := h.path_step hregular hpanics
    obtain ⟨hpolicy, -, -, hmetrics⟩ := frame_path hpath
    have houtset : (hub.outset operation).policy = hub.policy ∧
        (hub.outset operation).metrics = hub.metrics := by
      cases operation <;> exact ⟨rfl, rfl⟩
    exact ⟨(h.outset operation).path hpath, hpolicy.trans houtset.1, houtset.2 ▸ hmetrics⟩

/-- So does a run of them. -/
theorem Consistent.follows_run {hub : Hub} (h : hub.Consistent) {operations : List Operation}
    (hregular : ∀ operation ∈ operations, operation.isRegular = true) :
    hub.Follows (hub.run operations) := by
  induction operations generalizing hub with
  | nil => exact h.follows
  | cons operation rest ih =>
    have hfirst := h.follows_step (hregular operation List.mem_cons_self)
    exact hfirst.trans (ih hfirst.consistent fun other hother =>
      hregular other (List.mem_cons_of_mem _ hother))

/-- In a run from the start the records agree all the time. -/
theorem follows_run (policy : StreamPolicy) {operations : List Operation}
    (hregular : ∀ operation ∈ operations, operation.isRegular = true) :
    (Hub.new policy).Follows ((Hub.new policy).run operations) :=
  (consistent_new policy).follows_run hregular

/-! ## Counting -/

/-- The connections of the open sessions. -/
def openConnections (hub : Hub) : List Connection :=
  hub.connections.filter (·.session.isOpen)

/-- The open connections are those whose sessions are open. -/
theorem mem_openConnections {hub : Hub} {connection : Connection} :
    connection ∈ hub.openConnections ↔
      ∃ n : Nat, hub.connections[n]? = some connection ∧ connection.session.stage = .open := by
  rw [openConnections, List.mem_filter, List.mem_iff_getElem?]
  simp [Session.isOpen]

/-- Lists without repetitions that have the same items have the same length. -/
theorem length_eq_of_nodup {A : Type} {first second : List A} (h : first.Nodup)
    (h' : second.Nodup) (hmem : ∀ a, a ∈ first ↔ a ∈ second) : first.length = second.length :=
  ((List.perm_ext_iff_of_nodup h h').mpr hmem).length_eq

/-- The items of a list that satisfy a test are as many as their places. -/
theorem length_filter_eq_places {A : Type} (test : A → Bool) (items : List A) :
    (items.filter test).length =
      ((List.range items.length).filter fun n => (items[n]?).any test).length := by
  induction items using List.reverseRecOn with
  | nil => rfl
  | append_singleton items item ih =>
    have hplaces : (List.range items.length).filter (fun n => ((items ++ [item])[n]?).any test) =
        (List.range items.length).filter fun n => (items[n]?).any test :=
      List.filter_congr fun n hn => by rw [List.getElem?_append_left (List.mem_range.mp hn)]
    rw [List.filter_append, List.length_append, ih, List.length_append, List.length_singleton,
      List.range_succ, List.filter_append, List.length_append, hplaces]
    congr 1
    cases htest : test item <;> simp [htest]

/-- The table has as many entries as there are open sessions. -/
theorem Consistent.length_openConnections {hub : Hub} (h : hub.Consistent) :
    hub.openConnections.length = hub.table.length := by
  rw [openConnections, length_filter_eq_places]
  apply length_eq_of_nodup (List.nodup_range.filter _) h.table_nodup
  intro n
  rw [List.mem_filter, List.mem_range, h.listed]
  constructor
  · rintro ⟨hlt, hany⟩
    refine ⟨hub.connections[n].session, by simp [session?, hlt], ?_⟩
    simpa [hlt, Session.isOpen] using hany
  · rintro ⟨session, hs, hopen⟩
    obtain ⟨connection, hconnection, rfl⟩ := connection_of_session? hs
    obtain ⟨hlt, -⟩ := List.getElem?_eq_some_iff.mp hconnection
    exact ⟨hlt, by simp [hconnection, Session.isOpen, hopen]⟩

/-- There are as many subscriptions as entries in the table. -/
theorem Consistent.total_eq {hub : Hub} (h : hub.Consistent) :
    hub.subscriptions.total = hub.table.length := by
  have hone : ∀ n topic other, hub.subscriptions.contains topic n = true →
      hub.subscriptions.contains other n = true → topic = other := by
    intro n topic other htopic hother
    obtain ⟨session, hs, -, rfl⟩ := (h.subscribed topic n).mp htopic
    obtain ⟨session', hs', -, rfl⟩ := (h.subscribed other n).mp hother
    rw [hs] at hs'
    rw [Option.some.inj hs']
  rw [Subscriptions.total_eq_length]
  apply length_eq_of_nodup (h.wellFormed.all_nodup hone) h.table_nodup
  intro n
  rw [h.wellFormed.mem_all, h.listed]
  constructor
  · rintro ⟨topic, hcontains⟩
    obtain ⟨session, hs, hopen, -⟩ := (h.subscribed topic n).mp hcontains
    exact ⟨session, hs, hopen⟩
  · rintro ⟨session, hs, hopen⟩
    exact ⟨session.topic, (h.subscribed session.topic n).mpr ⟨session, hs, hopen, rfl⟩⟩

/-- There are as many topics as open sessions have different ones. -/
theorem Consistent.numTopics_eq {hub : Hub} (h : hub.Consistent) :
    hub.subscriptions.numTopics =
      (hub.openConnections.map (·.session.topic)).dedup.length := by
  rw [Subscriptions.numTopics, ← List.length_map (·.1)]
  apply length_eq_of_nodup h.wellFormed.keys_nodup (List.nodup_dedup _)
  intro topic
  rw [h.wellFormed.mem_keys, List.mem_dedup, List.mem_map]
  constructor
  · rintro ⟨n, hcontains⟩
    obtain ⟨session, hs, hopen, rfl⟩ := (h.subscribed topic n).mp hcontains
    obtain ⟨connection, hconnection, rfl⟩ := connection_of_session? hs
    exact ⟨connection, mem_openConnections.mpr ⟨n, hconnection, hopen⟩, rfl⟩
  · rintro ⟨connection, hmem, rfl⟩
    obtain ⟨n, hconnection, hopen⟩ := mem_openConnections.mp hmem
    refine ⟨n, (h.subscribed _ n).mpr ⟨connection.session, ?_, hopen, rfl⟩⟩
    simp [session?, hconnection]

/-! ## The sessions that were handed out -/

/-- The number that an operation returns for a session that it admitted. -/
def admitted (hub : Hub) : Operation → List Nat
  | .join topic id => (hub.join topic id).1.toOption.toList
  | .connect topic id transport initial =>
    (hub.connect topic id transport.client initial).1.toOption.toList
  | _ => []

/-- Moves add no connections and take none away. -/
theorem Acts.length_eq {hub later : Hub} {moves : Nat → List Move} (h : hub.Acts later moves) :
    later.connections.length = hub.connections.length := by
  have hiff (n : Nat) : later.connections.length ≤ n ↔ hub.connections.length ≤ n := by
    rw [← List.getElem?_eq_none_iff, h n, Option.map_eq_none_iff, List.getElem?_eq_none_iff]
  exact Nat.le_antisymm ((hiff _).mpr (Nat.le_refl _)) ((hiff _).mp (Nat.le_refl _))

/-- A session that is handed out has the next number, and no other session is made on the way. -/
theorem admitted_step (hub : Hub) {operation : Operation} (h : operation.isRegular = true) :
    hub.admitted operation = [] ∧
        (hub.step operation).connections.length = hub.connections.length ∨
      hub.admitted operation = [hub.connections.length] ∧
        (hub.step operation).connections.length = hub.connections.length + 1 := by
  cases hcreates : operation.creates with
  | false =>
    refine Or.inl ⟨?_, (hub.acts_step hcreates).length_eq⟩
    cases operation <;> first | rfl | simp [Operation.creates] at hcreates
  | true =>
    cases operation with
    | join topic id =>
      simp only [admitted, step]
      cases hub.joinCase topic id with
      | stopping _ hanswer hhub => exact Or.inl ⟨by rw [hanswer]; rfl, by rw [hhub.connections]⟩
      | full _ _ hanswer hhub => exact Or.inl ⟨by rw [hanswer]; rfl, by rw [hhub.connections]⟩
      | panicked _ _ hanswer hhub => exact Or.inl ⟨by rw [hanswer]; rfl, by rw [hhub, forfeited]⟩
      | admitted _ _ hanswer hhub =>
        exact Or.inr ⟨by rw [hanswer]; rfl, by rw [hhub.connections]; simp [entered]⟩
    | connect topic id transport initial =>
      simp only [admitted, step]
      cases hub.connectCase topic id transport.client initial with
      | stopping _ hanswer hconnections =>
        exact Or.inl ⟨by rw [hanswer]; rfl, by rw [hconnections]⟩
      | full _ hanswer hconnections =>
        exact Or.inl ⟨by rw [hanswer]; rfl, by rw [hconnections]⟩
      | panicked _ hanswer hconnections =>
        exact Or.inl ⟨by rw [hanswer]; rfl, by rw [hconnections]⟩
      | admitted _ hanswer hconnections =>
        exact Or.inr ⟨by rw [hanswer]; rfl, by rw [hconnections]; simp⟩
    | create => simp [Operation.isRegular] at h
    | _ => simp [Operation.creates] at hcreates

/-- The sessions of a hub are those that its run has handed out. -/
theorem admitted_run (policy : StreamPolicy) {operations : List Operation}
    (hregular : ∀ operation ∈ operations, operation.isRegular = true) :
    history admitted (Hub.new policy) operations =
      List.range ((Hub.new policy).run operations).connections.length := by
  induction operations using List.reverseRecOn with
  | nil => rfl
  | append_singleton operations operation ih =>
    have hbefore := ih fun other hother => hregular other (List.mem_append_left _ hother)
    rw [history_append, run_append, hbefore]
    simp only [history, List.append_nil, run_cons, run_nil]
    rcases admitted_step ((Hub.new policy).run operations) (hregular operation (by simp)) with
      ⟨hnone, hlength⟩ | ⟨hone, hlength⟩
    · rw [hnone, hlength, List.append_nil]
    · rw [hone, hlength, List.range_succ]

end Hub

end LiveCounter
