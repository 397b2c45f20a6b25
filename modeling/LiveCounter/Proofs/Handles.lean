import LiveCounter.Proofs.Bookkeeping
import LiveCounter.Proofs.Deliveries

/-!
# Where handles come from

In every run, also in one that reaches around the hub, the subscriptions are well-formed, and a
session is subscribed to its own topic only, unless somebody outside has put it under another one.
-/

namespace LiveCounter.Hub

/-- The topic of the session of a number. -/
def topic? (hub : Hub) (n : Nat) : Option Topic :=
  (hub.session? n).map (·.topic)

/-- The later hub has the sessions of the first one, and further handles only for sessions under
their own topics. -/
structure Enrols (hub later : Hub) : Prop where
  kept : ∀ n topic, hub.topic? n = some topic → later.topic? n = some topic
  wellFormed : hub.subscriptions.WellFormed → later.subscriptions.WellFormed
  added : hub.subscriptions.WellFormed → ∀ topic n, later.subscriptions.contains topic n = true →
    hub.subscriptions.contains topic n = true ∨ later.topic? n = some topic

/-- No handles come in where nothing happens. -/
theorem Enrols.refl (hub : Hub) : hub.Enrols hub :=
  ⟨fun _ _ h => h, id, fun _ _ _ h => Or.inl h⟩

/-- What enrols in turn enrols. -/
theorem Enrols.trans {first second third : Hub} (h : first.Enrols second) (h' : second.Enrols third) :
    first.Enrols third where
  kept n topic htopic := h'.kept n topic (h.kept n topic htopic)
  wellFormed hwf := h'.wellFormed (h.wellFormed hwf)
  added hwf topic n hcontains := by
    rcases h'.added (h.wellFormed hwf) topic n hcontains with hbefore | hown
    · exact (h.added hwf topic n hbefore).imp_right (h'.kept n topic)
    · exact Or.inr hown

/-- What enrols for one item does so for many. -/
theorem enrols_foldl {A : Type} {f : Hub → A → Hub} (h : ∀ (hub : Hub) item, hub.Enrols (f hub item))
    (items : List A) (hub : Hub) : hub.Enrols (items.foldl f hub) := by
  induction items generalizing hub with
  | nil => exact .refl hub
  | cons item rest ih => exact (h hub item).trans (ih _)

/-- Moves leave all topics of sessions alone. -/
theorem Acts.topic? {hub later : Hub} {moves : Nat → List Move} (h : hub.Acts later moves) (n : Nat) :
    later.topic? n = hub.topic? n := by
  simp only [Hub.topic?, session?, h n, Option.map_map, Function.comp_def, Connection.topic_after]

/-- What changes no session's topic and at most takes handles out enrols nobody. -/
theorem enrols_of_unsubscribed {hub later : Hub} (htopic : ∀ n, later.topic? n = hub.topic? n)
    (hsubs : ∃ topic ns, later.subscriptions = hub.subscriptions.unsubscribeAll topic ns) :
    hub.Enrols later := by
  obtain ⟨topic, ns, hsubs⟩ := hsubs
  refine ⟨fun n other h => (htopic n).trans h, fun hwf => ?_, fun hwf other n h => ?_⟩
  · rw [hsubs]
    exact hwf.unsubscribeAll topic ns
  · rw [hsubs, hwf.contains_unsubscribeAll, Bool.and_eq_true] at h
    exact Or.inl h.1

/-- Where the subscriptions stay as they are, no handle comes in. -/
theorem enrols_of_subscriptions {hub later : Hub} (htopic : ∀ n, later.topic? n = hub.topic? n)
    (hsubs : later.subscriptions = hub.subscriptions) : hub.Enrols later :=
  enrols_of_unsubscribed htopic ⟨.random 0, [], hsubs⟩

/-- The end of a session takes handles away, if it touches any. -/
theorem subscriptions_retire (hub : Hub) (n : Nat) (reason : CloseReason)
    (fault : Option StreamFault) :
    ∃ topic ns, (hub.retire n reason fault).2.subscriptions =
      hub.subscriptions.unsubscribeAll topic ns := by
  by_cases h : ∀ session, hub.session? n = some session → session.isClaimed = true
  · rw [retire_of_isClaimed h]
    exact ⟨.random 0, [], rfl⟩
  · simp only [not_forall, Bool.not_eq_true] at h
    obtain ⟨session, hs, hu⟩ := h
    obtain ⟨_, _, -, heq⟩ := (retire_of_unclaimed hs hu reason fault).2
    rw [heq]
    exact ⟨session.topic, [n], rfl⟩

/-- A close for an error brings no handle in. -/
theorem enrols_closeFor (hub : Hub) (n : Nat) (fault : StreamFault) :
    hub.Enrols (hub.closeFor n fault).2 :=
  enrols_of_unsubscribed (acts_closeFor hub n fault).topic? (subscriptions_retire hub n _ _)

/-- A session that is entered has a handle under its own topic. -/
theorem enrols_entered (hub : Hub) (topic : Topic) (id : SessionId) :
    hub.Enrols (hub.entered topic id) where
  kept n other h := by
    have hne : n ≠ hub.connections.length := by
      rintro rfl
      simp [Hub.topic?, session?_length] at h
    rwa [Hub.topic?, session?_entered, if_neg hne]
  wellFormed h := h.subscribe topic hub.connections.length
  added h other n hcontains := by
    rw [Hub.entered, Subscriptions.contains_subscribe, Bool.or_eq_true, Bool.and_eq_true,
      decide_eq_true_eq, decide_eq_true_eq] at hcontains
    refine hcontains.imp_right ?_
    rintro ⟨rfl, rfl⟩
    rw [Hub.topic?, session?_entered, if_pos rfl]
    rfl

/-- What a change of one connection leaves alone about its session, it leaves alone about all. -/
theorem map_session?_modify {A : Type} {g : Session → A} {hub : Hub} {n : Nat}
    {f : Connection → Connection}
    (h : ∀ connection, hub.connections[n]? = some connection →
      g (f connection).session = g connection.session) (m : Nat) :
    ((hub.modify n f).session? m).map g = (hub.session? m).map g := by
  simp only [session?, modify, List.getElem?_modify]
  cases hconnection : hub.connections[m]? with
  | none => rfl
  | some connection =>
    by_cases hm : n = m
    · subst hm
      simp [h connection hconnection]
    · simp [hm]

/-- Changes bring in handles under the topics of their sessions only. -/
theorem Change.enrols {hub later : Hub} (h : hub.Change later) : hub.Enrols later := by
  cases h with
  | report hreports =>
    obtain ⟨_, _, -, rfl⟩ := hreports
    exact enrols_of_subscriptions (fun _ => rfl) rfl
  | tally => exact enrols_of_subscriptions (fun _ => rfl) rfl
  | modify n f hf =>
    exact enrols_of_subscriptions
      (map_session?_modify fun connection hconnection => (hf connection hconnection).topic) rfl
  | enter topic id => exact enrols_entered hub topic id
  | retire n cause =>
    exact enrols_of_unsubscribed (acts_retire hub n cause).topic? (subscriptions_retire hub n _ _)

/-- So do several. -/
theorem enrols_of_path {hub later : Hub} (h : hub.Path later) : hub.Enrols later := by
  induction h with
  | refl => exact .refl hub
  | tail _ hchange ih => exact ih.trans hchange.enrols

/-! ## Publications that find something out of order -/

/-- A delivery brings no handle in. -/
theorem enrols_deliver (event : CounterEvent) (report : Delivery) (hub : Hub) (n : Nat) :
    hub.Enrols (deliver event report hub n).2 := by
  have hvisits := visits_deliver event report hub n
  exact enrols_of_unsubscribed hvisits.acts.topic? ⟨_, _, hvisits.subscriptions⟩

/-- Nor do several. -/
theorem enrols_deliverAll (event : CounterEvent) (ns : List Nat) (report : Delivery) (hub : Hub) :
    hub.Enrols (deliverAll event ns report hub).2 := by
  induction ns generalizing report hub with
  | nil => exact .refl hub
  | cons n rest ih => exact (enrols_deliver event report hub n).trans (ih _ _)

/-- Nor does the report of a stale handle. -/
theorem enrols_noteStale (topic : Topic) (hub : Hub) (n : Nat) :
    hub.Enrols (noteStale topic hub n) := by
  unfold noteStale
  simp only
  split <;> exact enrols_of_subscriptions (fun _ => rfl) rfl

/-- Nor does a distribution to given recipients. -/
theorem enrols_distributeTo (recipients : Recipients) (event : CounterEvent) (hub : Hub) :
    hub.Enrols (hub.distributeTo recipients event).2 := by
  have hstale := enrols_foldl (enrols_noteStale event.topic) recipients.stale hub
  have hall := enrols_deliverAll event recipients.sessions
    { recipients := recipients.sessions.length, stale := recipients.stale }
    (recipients.stale.foldl (noteStale event.topic) hub)
  exact (hstale.trans hall).trans (enrols_of_subscriptions (fun _ => rfl) rfl)

/-- Nor does any distribution. -/
theorem enrols_distribute (hub : Hub) (event : CounterEvent) :
    hub.Enrols (hub.distribute event).2 := by
  have htaken : hub.Enrols (hub.countPublished.takeRecipients event.topic).2 :=
    enrols_of_unsubscribed (fun _ => rfl) ⟨event.topic, _, rfl⟩
  exact htaken.trans (enrols_distributeTo _ event _)

/-- A publication enrols nobody, whatever it finds out of order. -/
theorem enrols_publish (hub : Hub) (event : CounterEvent) : hub.Enrols (hub.publish event).2 :=
  ((enrols_distribute hub event).trans
    (enrols_foldl (fun hub n => enrols_closeFor hub n _) _ _)).trans
      (enrols_foldl (fun hub n => enrols_closeFor hub n _) _ _)

/-! ## Runs -/

/-- A session keeps its topic. -/
theorem topic?_step {hub : Hub} {n : Nat} {topic : Topic} (h : hub.topic? n = some topic)
    (operation : Operation) : (hub.step operation).topic? n = some topic := by
  obtain ⟨session, hs, rfl⟩ := Option.map_eq_some_iff.mp h
  obtain ⟨connection, hconnection, rfl⟩ := connection_of_session? hs
  rw [Hub.topic?, session?, connections_step hconnection, Option.map_some, Option.map_some,
    Connection.topic_after]

/-- An operation through the hub enrols sessions under their own topics only. -/
theorem enrols_step {hub : Hub} {operation : Operation} (hregular : operation.isRegular = true) :
    hub.Enrols (hub.step operation) := by
  by_cases hpublish : ∃ event, operation = .publish event
  · obtain ⟨event, rfl⟩ := hpublish
    exact enrols_publish hub event
  · cases hpanics : hub.panics operation with
    | true =>
      rw [(step_of_panics hpanics).1]
      exact enrols_of_subscriptions (fun _ => rfl) rfl
    | false =>
      have houtset : hub.Enrols (hub.outset operation) := by
        cases operation <;> exact enrols_of_subscriptions (fun _ => rfl) rfl
      exact houtset.trans (enrols_of_path (path_step hregular hpanics fun event heq =>
        absurd ⟨event, heq⟩ hpublish))

/-- The subscriptions are well-formed, and every handle is that of a session under its own topic,
unless one of the operations has put it there. -/
structure Enrolled (hub : Hub) (operations : List Operation) : Prop where
  wellFormed : hub.subscriptions.WellFormed
  named : ∀ topic n, hub.subscriptions.contains topic n = true →
    hub.topic? n = some topic ∨ .subscribe n topic ∈ operations

/-- A claim leaves the subscriptions alone. -/
theorem subscriptions_claimed (hub : Hub) (n : Nat) (reason : CloseReason) :
    (hub.claimed n reason).subscriptions = hub.subscriptions := by
  rw [claimed_eq]
  rfl

/-- A session made around the hub is subscribed to nothing. -/
theorem subscriptions_create (hub : Hub) (topic : Topic) (capacity : Nat) (id : SessionId) :
    (hub.step (.create topic capacity id)).subscriptions = hub.subscriptions := by
  rw [step_create]
  split <;> rfl

/-- Whatever is done with a hub, its subscriptions stay well-formed. -/
theorem wellFormed_step {hub : Hub} (h : hub.subscriptions.WellFormed) (operation : Operation) :
    (hub.step operation).subscriptions.WellFormed := by
  cases hregular : operation.isRegular with
  | true => exact (enrols_step hregular).wellFormed h
  | false =>
    cases operation with
    | create topic capacity id => exact (subscriptions_create hub topic capacity id).symm ▸ h
    | release => exact h
    | claim n reason => exact (subscriptions_claimed hub n reason).symm ▸ h
    | subscribe target topic =>
      simp only [Hub.step, enroll]
      split
      · exact h.subscribe topic target
      · exact h
    | unsubscribe target topic => exact h.unsubscribe topic target
    | _ => cases hregular

/-- Every operation keeps the handles in order, and adds what it has put there. -/
theorem Enrolled.step {hub : Hub} {operations : List Operation} (h : hub.Enrolled operations)
    (operation : Operation) : (hub.step operation).Enrolled (operations ++ [operation]) := by
  have hkept {topic : Topic} {n : Nat} (hbefore : hub.subscriptions.contains topic n = true) :
      (hub.step operation).topic? n = some topic ∨
        .subscribe n topic ∈ operations ++ [operation] :=
    (h.named topic n hbefore).imp (fun htopic => topic?_step htopic operation)
      (List.mem_append_left _)
  refine ⟨wellFormed_step h.wellFormed operation, fun other n hcontains => ?_⟩
  have hsame (hsubs : (hub.step operation).subscriptions = hub.subscriptions) :
      (hub.step operation).topic? n = some other ∨
        .subscribe n other ∈ operations ++ [operation] :=
    hkept (hsubs ▸ hcontains)
  cases hregular : operation.isRegular with
  | true => exact ((enrols_step hregular).added h.wellFormed other n hcontains).elim hkept Or.inl
  | false =>
    cases operation with
    | create topic capacity id => exact hsame (subscriptions_create hub topic capacity id)
    | release => exact hsame rfl
    | claim n reason => exact hsame (subscriptions_claimed hub _ reason)
    | subscribe target topic =>
      by_cases htarget : target < hub.connections.length
      · have hsubs : (hub.step (.subscribe target topic)).subscriptions =
            hub.subscriptions.subscribe topic target := by
          simp only [Hub.step, enroll, if_pos htarget]
          rfl
        rw [hsubs, Subscriptions.contains_subscribe, Bool.or_eq_true, Bool.and_eq_true,
          decide_eq_true_eq, decide_eq_true_eq] at hcontains
        rcases hcontains with hbefore | ⟨rfl, rfl⟩
        · exact hkept hbefore
        · exact Or.inr (List.mem_append_right _ List.mem_cons_self)
      · exact hsame (by simp only [Hub.step, enroll, if_neg htarget])
    | unsubscribe target topic =>
      have hboth := (h.wellFormed.contains_unsubscribe topic other target n).symm.trans hcontains
      rw [Bool.and_eq_true] at hboth
      exact hkept hboth.1
    | _ => cases hregular

/-- In every run from the start the subscriptions are well-formed, and a session is subscribed to its
own topic only, unless the run has put it under another one. -/
theorem enrolled_run (policy : StreamPolicy) (operations : List Operation) :
    ((Hub.new policy).run operations).Enrolled operations := by
  induction operations using List.reverseRecOn with
  | nil =>
    refine ⟨Subscriptions.wellFormed_empty, fun topic n h => ?_⟩
    simp [Hub.new, Subscriptions.contains, Subscriptions.handles] at h
  | append_singleton operations operation ih =>
    rw [run_append]
    exact ih.step operation

end LiveCounter.Hub
