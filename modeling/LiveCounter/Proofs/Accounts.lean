import LiveCounter.Proofs.Standings

/-!
# Sessions are accounted for

Whatever calls are under way and wherever they have got to, every session stands well: what the
records say of it fits what the calls have still to do for it. One step of a call changes the
standing of one session at most.
-/

namespace LiveCounter

/-! ## What calls have to do for a session -/

namespace Call

/-- What a call does next to admit a session. -/
def opening? (n : Nat) : Call → Option Opening
  | .opening m _ _ next => if m = n then some next else none
  | _ => none

/-- What a call does next to tear a session down, and the stage in which it found the session. -/
def letdown? (n : Nat) : Call → Option (SessionStage × Letdown)
  | .closing (.under claim next) _ =>
    if claim.number = n then some (claim.previous, next) else none
  | _ => none

/-- An admission is about to do what it does next. -/
@[simp] theorem opening?_self (n : Nat) (topic : Topic) (id : SessionId) (next : Opening) :
    (opening n topic id next).opening? n = some next :=
  if_pos rfl

/-- A teardown is about to do what it does next. -/
@[simp] theorem letdown?_self (claim : Claim) (next : Letdown) (rest : List Nat) :
    (closing (.under claim next) rest).letdown? claim.number = some (claim.previous, next) :=
  if_pos rfl

/-- A call has no session in hand but the given one. -/
def Minds (call : Call) (n : Nat) : Prop :=
  ∀ m, m ≠ n → call.opening? m = none ∧ call.letdown? m = none

/-- A call knows the topic of the session that it has in hand. -/
def Knows (hub : Hub) : Call → Prop
  | .opening n topic _ _ => hub.topic? n = some topic
  | .closing (.under claim _) _ => hub.topic? claim.number = some claim.session.topic
  | _ => True

section Idle

variable {call : Call} (h : call.isIdle = true)

include h

/-- An idle call admits nobody. -/
theorem opening?_of_isIdle (n : Nat) : call.opening? n = none := by
  cases call with
  | opening => simp [isIdle] at h
  | _ => rfl

/-- An idle call tears nobody down. -/
theorem letdown?_of_isIdle (n : Nat) : call.letdown? n = none := by
  cases call with
  | closing teardown rest =>
    cases teardown with
    | under => simp [isIdle] at h
    | _ => rfl
  | _ => rfl

/-- An idle call has no session in hand. -/
theorem minds_of_isIdle (n : Nat) : call.Minds n :=
  fun m _ => ⟨opening?_of_isIdle h m, letdown?_of_isIdle h m⟩

/-- So there is no topic that it has to know. -/
theorem knows_of_isIdle (hub : Hub) : call.Knows hub := by
  cases call with
  | opening => simp [isIdle] at h
  | closing teardown rest =>
    cases teardown with
    | under => simp [isIdle] at h
    | _ => trivial
  | _ => trivial

end Idle

/-- An admission minds its session only. -/
theorem minds_opening (n : Nat) (topic : Topic) (id : SessionId) (next : Opening) :
    (opening n topic id next).Minds n :=
  fun _ hm => ⟨if_neg (Ne.symm hm), rfl⟩

/-- A teardown minds its session only. -/
theorem minds_under (claim : Claim) (next : Letdown) (rest : List Nat) :
    (closing (.under claim next) rest).Minds claim.number :=
  fun _ hm => ⟨rfl, if_neg (Ne.symm hm)⟩

/-- What a call knows stays true as long as sessions keep their topics. -/
theorem Knows.of_topics {hub later : Hub} {call : Call} (h : call.Knows hub)
    (htopics : ∀ n topic, hub.topic? n = some topic → later.topic? n = some topic) :
    call.Knows later := by
  cases call with
  | opening n topic id next => exact htopics n topic h
  | closing teardown rest =>
    cases teardown with
    | under claim next => exact htopics _ _ h
    | _ => trivial
  | _ => trivial

end Call

/-! ## Exchanging one item -/

section Exchange

variable {A B : Type} {before after : List B} {old new one other : Option B}

/-- What is picked from a list is picked before an item, from it and behind it. -/
theorem filterMap_focus (f : A → Option B) (before after : List A) (a : A) :
    (before ++ a :: after).filterMap f =
      before.filterMap f ++ (f a).toList ++ after.filterMap f := by
  rw [List.filterMap_append, List.filterMap_cons]
  cases f a <;> simp

/-- If there is at most one item, then who holds one holds that one. -/
theorem eq_some_of_focus {b : B} (h : before ++ old.toList ++ after = one.toList)
    (hold : old = some b) : one = some b := by
  subst hold
  cases one with
  | none => simp at h
  | some c =>
    have hlength := congrArg List.length h
    simp only [Option.toList_some, List.length_append, List.length_singleton] at hlength
    obtain rfl : before = [] := List.length_eq_zero_iff.mp (by omega)
    obtain rfl : after = [] := List.length_eq_zero_iff.mp (by omega)
    simpa [eq_comm] using h

/-- Whoever holds the only item exchanges it, or there is none and one comes in; or the exchange
changes nothing. -/
def Exchanged (old new one other : Option B) : Prop :=
  one = old ∧ other = new ∨ old = new ∧ one = other

/-- Whoever exchanges an item among others leaves the others as they are. -/
theorem Exchanged.focus (hnew : Exchanged old new one other)
    (h : before ++ old.toList ++ after = one.toList) :
    before ++ new.toList ++ after = other.toList := by
  rcases hnew with ⟨rfl, rfl⟩ | ⟨rfl, rfl⟩
  · have hlength := congrArg List.length h
    simp only [List.length_append] at hlength
    obtain rfl : before = [] := List.length_eq_zero_iff.mp (by omega)
    obtain rfl : after = [] := List.length_eq_zero_iff.mp (by omega)
    simp
  · exact h

end Exchange

namespace Hub

/-! ## Changes that concern one session -/

/-- The records of the later hub differ from those of the first at most for one session. -/
structure Elsewhere (hub : Hub) (n : Nat) (later : Hub) : Prop where
  session : ∀ m, m ≠ n → later.session? m = hub.session? m
  listed : ∀ m, m ≠ n → later.table.contains m = hub.table.contains m
  subscribed : ∀ m, m ≠ n → ∀ topic,
    later.subscriptions.contains topic m = hub.subscriptions.contains topic m

/-- A change of one connection leaves the records of others alone. -/
theorem elsewhere_modify (hub : Hub) (n : Nat) (f : Connection → Connection) :
    hub.Elsewhere n (hub.modify n f) where
  session m hm := by simp [session?, modify, Ne.symm hm]
  listed _ _ := rfl
  subscribed _ _ _ := rfl

/-- A subscription leaves the records of others alone. -/
theorem elsewhere_subscribe (hub : Hub) (n : Nat) (topic : Topic) :
    hub.Elsewhere n (hub.subscribe n topic) where
  session _ _ := rfl
  listed _ _ := rfl
  subscribed m hm other := by simp [subscribe, Subscriptions.contains_subscribe, hm]

/-- So does its end. -/
theorem elsewhere_unsubscribe {hub : Hub} (h : hub.subscriptions.WellFormed) (n : Nat)
    (topic : Topic) :
    hub.Elsewhere n { hub with subscriptions := (hub.subscriptions.unsubscribe topic n).2 } where
  session _ _ := rfl
  listed _ _ := rfl
  subscribed m hm other := by simp [h.contains_unsubscribe, hm]

/-- Leaving the table leaves the records of others alone. -/
theorem elsewhere_erase (hub : Hub) (n : Nat) :
    hub.Elsewhere n { hub with table := hub.table.erase n } where
  session _ _ := rfl
  listed m hm := by
    rw [Bool.eq_iff_iff, List.contains_iff_mem, List.contains_iff_mem]
    exact List.mem_erase_of_ne hm
  subscribed _ _ _ := rfl

/-- The later hub has the same records. -/
structure SameRecords (hub later : Hub) : Prop where
  session : ∀ n, later.session? n = hub.session? n
  table : later.table = hub.table
  subscriptions : later.subscriptions = hub.subscriptions

/-- A hub has the records that it has. -/
theorem SameRecords.refl (hub : Hub) : hub.SameRecords hub :=
  ⟨fun _ => rfl, rfl, rfl⟩

/-- Reports leave the records alone. -/
theorem Reports.sameRecords {hub later : Hub} (h : hub.Reports later) : hub.SameRecords later := by
  obtain ⟨_, _, -, rfl⟩ := h
  exact ⟨fun _ => rfl, rfl, rfl⟩

/-- Records that stay the same twice stay the same. -/
theorem SameRecords.trans {first second third : Hub} (h : first.SameRecords second)
    (h' : second.SameRecords third) : first.SameRecords third :=
  ⟨fun n => (h'.session n).trans (h.session n), h'.table.trans h.table,
    h'.subscriptions.trans h.subscriptions⟩

/-- A change of a connection that spares its session leaves the records alone. -/
theorem sameRecords_modify (hub : Hub) (n : Nat) {f : Connection → Connection}
    (hf : ∀ connection, (f connection).session = connection.session) :
    hub.SameRecords (hub.modify n f) := by
  refine ⟨fun m => ?_, rfl, rfl⟩
  simp only [session?, modify, List.getElem?_modify]
  by_cases hm : n = m <;> simp [hm, hf, Function.comp_def]

/-- Where the records stay the same, those of others do. -/
theorem SameRecords.elsewhere {hub later : Hub} (h : hub.SameRecords later) (n : Nat) :
    hub.Elsewhere n later :=
  ⟨fun m _ => h.session m, fun _ _ => by rw [h.table], fun _ _ _ => by rw [h.subscriptions]⟩

/-! ## Accounts -/

/-- Every session stands well with respect to the calls under way. -/
structure Accounted (hub : Hub) (calls : List Call) : Prop where
  standing : ∀ n session, hub.session? n = some session → ∃ opening letdown,
    calls.filterMap (·.opening? n) = opening.toList ∧
    calls.filterMap (·.letdown? n) = letdown.toList ∧
    Standing session (hub.table.contains n) (hub.subscriptions.contains session.topic n) opening
      letdown
  knows : ∀ call ∈ calls, call.Knows hub
  listed : ∀ n, n ∈ hub.table → ∃ session, hub.session? n = some session
  named : ∀ topic n, hub.subscriptions.contains topic n = true → hub.topic? n = some topic
  table_nodup : hub.table.Nodup
  wellFormed : hub.subscriptions.WellFormed

/-- With the same records all sessions stand as well as before. -/
theorem Accounted.of_sameRecords {hub later : Hub} {calls : List Call} (h : hub.Accounted calls)
    (hsame : hub.SameRecords later) : later.Accounted calls := by
  have htopic (n : Nat) : later.topic? n = hub.topic? n := by rw [topic?, hsame.session, topic?]
  constructor
  case standing =>
    intro n session hs
    rw [hsame.table, hsame.subscriptions]
    exact h.standing n session (hsame.session n ▸ hs)
  case knows =>
    intro call hcall
    exact (h.knows call hcall).of_topics fun n topic => by rw [htopic]; exact id
  case listed =>
    intro n hn
    rw [hsame.session]
    exact h.listed n (hsame.table ▸ hn)
  case named =>
    intro topic n hcontains
    rw [htopic]
    exact h.named topic n (hsame.subscriptions ▸ hcontains)
  case table_nodup => exact hsame.table ▸ h.table_nodup
  case wellFormed => exact hsame.subscriptions ▸ h.wellFormed

section Steps

variable {hub later : Hub} {before after : List Call} {call call' : Call} {n : Nat}

/-- A step that concerns one session is made if that session stands well after it. -/
theorem Accounted.exchange (h : hub.Accounted (before ++ call :: after))
    (hcall : call.Minds n) (hcall' : call'.Minds n) (helsewhere : hub.Elsewhere n later)
    (htopic : ∀ topic, hub.topic? n = some topic → later.topic? n = some topic)
    (hknows : call'.Knows later)
    (hlisted : n ∈ later.table → ∃ session, later.session? n = some session)
    (hnamed : ∀ topic, later.subscriptions.contains topic n = true → later.topic? n = some topic)
    (hnodup : later.table.Nodup) (hwf : later.subscriptions.WellFormed)
    (hstanding : ∀ session, later.session? n = some session → ∃ opening letdown,
      (before ++ call' :: after).filterMap (·.opening? n) = opening.toList ∧
      (before ++ call' :: after).filterMap (·.letdown? n) = letdown.toList ∧
      Standing session (later.table.contains n) (later.subscriptions.contains session.topic n)
        opening letdown) : later.Accounted (before ++ call' :: after) := by
  have htopics (m : Nat) (topic : Topic) (hm : hub.topic? m = some topic) :
      later.topic? m = some topic := by
    by_cases hmn : m = n
    · subst hmn
      exact htopic topic hm
    · rwa [topic?, helsewhere.session m hmn]
  constructor
  case standing =>
    intro m session hs
    by_cases hmn : m = n
    · subst hmn
      exact hstanding session hs
    · rw [helsewhere.session m hmn] at hs
      obtain ⟨opening, letdown, hopening, hletdown, hstands⟩ := h.standing m session hs
      rw [filterMap_focus, (hcall m hmn).1] at hopening
      rw [filterMap_focus, (hcall m hmn).2] at hletdown
      refine ⟨opening, letdown, ?_, ?_, ?_⟩
      · rw [filterMap_focus, (hcall' m hmn).1, hopening]
      · rw [filterMap_focus, (hcall' m hmn).2, hletdown]
      · rwa [helsewhere.listed m hmn, helsewhere.subscribed m hmn]
  case knows =>
    intro other hother
    rcases List.mem_append.mp hother with hbefore | hother
    · exact (h.knows other (List.mem_append_left _ hbefore)).of_topics htopics
    · rcases List.mem_cons.mp hother with rfl | hafter
      · exact hknows
      · exact (h.knows other (List.mem_append_right _ (List.mem_cons_of_mem _ hafter))).of_topics
          htopics
  case listed =>
    intro m hm
    by_cases hmn : m = n
    · subst hmn
      exact hlisted hm
    · rw [helsewhere.session m hmn]
      apply h.listed
      rw [← List.contains_iff_mem, ← helsewhere.listed m hmn, List.contains_iff_mem]
      exact hm
  case named =>
    intro topic m hcontains
    by_cases hmn : m = n
    · subst hmn
      exact hnamed topic hcontains
    · rw [helsewhere.subscribed m hmn] at hcontains
      exact htopics m topic (h.named topic m hcontains)
  case table_nodup => exact hnodup
  case wellFormed => exact hwf

/-- A step that takes a session from one standing to another. -/
theorem Accounted.restand {topic : Topic} (h : hub.Accounted (before ++ call :: after))
    (hown : hub.topic? n = some topic) (hcall : call.Minds n) (hcall' : call'.Minds n)
    (hknows : call'.Knows later) (helsewhere : hub.Elsewhere n later)
    (htopic : later.topic? n = hub.topic? n) (htable : later.table.Sublist hub.table)
    (hwf : later.subscriptions.WellFormed)
    (hnamed : ∀ other, later.subscriptions.contains other n = true →
      hub.subscriptions.contains other n = true ∨ other = topic)
    (hstep : ∀ session session' opening letdown, hub.session? n = some session →
      later.session? n = some session' →
      (∀ next, call.opening? n = some next → opening = some next) →
      (∀ next, call.letdown? n = some next → letdown = some next) →
      Standing session (hub.table.contains n) (hub.subscriptions.contains topic n) opening letdown →
      ∃ opening' letdown', Exchanged (call.opening? n) (call'.opening? n) opening opening' ∧
        Exchanged (call.letdown? n) (call'.letdown? n) letdown letdown' ∧
        Standing session' (later.table.contains n) (later.subscriptions.contains topic n) opening'
          letdown') : later.Accounted (before ++ call' :: after) := by
  have hown' : later.topic? n = some topic := htopic.trans hown
  have hsession : ∃ session, hub.session? n = some session ∧ session.topic = topic := by
    simpa [topic?] using hown
  have hsession' : ∃ session, later.session? n = some session ∧ session.topic = topic := by
    simpa [topic?] using hown'
  refine h.exchange hcall hcall' helsewhere (fun other hother => htopic.trans hother) hknows
    (fun _ => hsession'.imp fun _ h => h.1) ?named (h.table_nodup.sublist htable) hwf ?standing
  case named =>
    intro other hcontains
    rcases hnamed other hcontains with hbefore | rfl
    · exact htopic.trans (h.named other n hbefore)
    · exact hown'
  case standing =>
    intro session' hs'
    obtain ⟨session, hs, rfl⟩ := hsession
    obtain ⟨other, hother, htopic'⟩ := hsession'
    obtain rfl := Option.some.inj (hs'.symm.trans hother)
    obtain ⟨opening, letdown, hopening, hletdown, hstands⟩ := h.standing n session hs
    rw [filterMap_focus] at hopening hletdown
    obtain ⟨opening', letdown', hopening', hletdown', hstands'⟩ :=
      hstep session session' opening letdown hs hs' (fun _ => eq_some_of_focus hopening)
        (fun _ => eq_some_of_focus hletdown) hstands
    refine ⟨opening', letdown', ?_, ?_, htopic' ▸ hstands'⟩
    · rw [filterMap_focus]
      exact hopening'.focus hopening
    · rw [filterMap_focus]
      exact hletdown'.focus hletdown

/-- A step of the admission of a session. -/
theorem Accounted.opening_step {topic : Topic} {id : SessionId} {next : Opening}
    (h : hub.Accounted (before ++ .opening n topic id next :: after))
    (hcall' : call'.Minds n) (hletdown : call'.letdown? n = none) (hknows : call'.Knows later)
    (helsewhere : hub.Elsewhere n later) (htable : later.table = hub.table)
    (htopic : later.topic? n = hub.topic? n) (hwf : later.subscriptions.WellFormed)
    (hnamed : ∀ other, later.subscriptions.contains other n = true →
      hub.subscriptions.contains other n = true ∨ other = topic)
    (hstep : ∀ session session' letdown, hub.session? n = some session →
      later.session? n = some session' →
      Standing session (hub.table.contains n) (hub.subscriptions.contains topic n) (some next)
        letdown →
      Standing session' (hub.table.contains n) (later.subscriptions.contains topic n)
        (call'.opening? n) letdown) : later.Accounted (before ++ call' :: after) := by
  have hopening := Call.opening?_self n topic id next
  have hown : hub.topic? n = some topic :=
    h.knows (.opening n topic id next) (by simp)
  refine h.restand hown (Call.minds_opening n topic id next) hcall' hknows helsewhere htopic
    (by rw [htable]) hwf hnamed fun session session' opening letdown hs hs' hnext _ hstands => ?_
  obtain rfl := hnext next hopening
  refine ⟨_, letdown, .inl ⟨hopening.symm, rfl⟩, .inr ⟨hletdown.symm, rfl⟩, ?_⟩
  rw [htable]
  exact hstep session session' letdown hs hs' hstands

/-- A step of the teardown of a session. -/
theorem Accounted.letdown_step {claim : Claim} {next : Letdown} {rest : List Nat}
    (h : hub.Accounted (before ++ .closing (.under claim next) rest :: after))
    (hcall' : call'.Minds claim.number) (hopening : call'.opening? claim.number = none)
    (hknows : call'.Knows later) (helsewhere : hub.Elsewhere claim.number later)
    (htopic : later.topic? claim.number = hub.topic? claim.number)
    (htable : later.table.Sublist hub.table) (hwf : later.subscriptions.WellFormed)
    (hnamed : ∀ other, later.subscriptions.contains other claim.number = true →
      hub.subscriptions.contains other claim.number = true)
    (hstep : ∀ session session' opening, hub.session? claim.number = some session →
      later.session? claim.number = some session' →
      Standing session (hub.table.contains claim.number)
        (hub.subscriptions.contains claim.session.topic claim.number) opening
        (some (claim.previous, next)) →
      Standing session' (later.table.contains claim.number)
        (later.subscriptions.contains claim.session.topic claim.number) opening
        (call'.letdown? claim.number)) :
    later.Accounted (before ++ call' :: after) := by
  have hletdown := Call.letdown?_self claim next rest
  have hown : hub.topic? claim.number = some claim.session.topic :=
    h.knows (.closing (.under claim next) rest) (by simp)
  refine h.restand hown (Call.minds_under claim next rest) hcall' hknows helsewhere htopic htable
    hwf (fun other hother => .inl (hnamed other hother))
    fun session session' opening letdown hs hs' _ hnext hstands => ?_
  obtain rfl := hnext _ hletdown
  exact ⟨opening, _, .inr ⟨hopening.symm, rfl⟩, .inl ⟨hletdown.symm, rfl⟩,
    hstep session session' opening hs hs' hstands⟩

/-- A step of a call that has no session in hand, and takes none in hand. -/
theorem Accounted.idle_step (h : hub.Accounted (before ++ call :: after))
    (hfree : ∀ n, call.opening? n = none ∧ call.letdown? n = none)
    (hopening : ∀ n, call'.opening? n = none) (hletdown : ∀ n, call'.letdown? n = none)
    (hknows : call'.Knows hub) : hub.Accounted (before ++ call' :: after) := by
  refine ⟨?standing, ?knows, h.listed, h.named, h.table_nodup, h.wellFormed⟩
  case standing =>
    intro n session hs
    obtain ⟨opening, letdown, hbefore, hbefore', hstands⟩ := h.standing n session hs
    rw [filterMap_focus, (hfree n).1] at hbefore
    rw [filterMap_focus, (hfree n).2] at hbefore'
    refine ⟨opening, letdown, ?_, ?_, hstands⟩
    · rw [filterMap_focus, hopening, hbefore]
    · rw [filterMap_focus, hletdown, hbefore']
  case knows =>
    intro other hother
    rcases List.mem_append.mp hother with hbefore | hother
    · exact h.knows other (List.mem_append_left _ hbefore)
    · rcases List.mem_cons.mp hother with rfl | hafter
      · exact hknows
      · exact h.knows other (List.mem_append_right _ (List.mem_cons_of_mem _ hafter))

end Steps

/-! ## The steps of an admission -/

section Opening

variable {hub : Hub} {before after : List Call} {n : Nat} {topic : Topic} {id : SessionId}

/-- Nobody has to do with a session that does not exist. -/
theorem Accounted.nobody {calls : List Call} (h : hub.Accounted calls)
    (hs : hub.session? n = none) :
    (∀ call ∈ calls, call.opening? n = none) ∧ ∀ call ∈ calls, call.letdown? n = none := by
  have htopic : hub.topic? n = none := by simp [topic?, hs]
  constructor
  · intro call hcall
    have hknows := h.knows call hcall
    cases call with
    | opening m topic id next =>
      refine if_neg ?_
      rintro rfl
      simp [Call.Knows, htopic] at hknows
    | _ => rfl
  · intro call hcall
    have hknows := h.knows call hcall
    cases call with
    | closing teardown rest =>
      cases teardown with
      | under claim next =>
        refine if_neg ?_
        rintro rfl
        simp [Call.Knows, htopic] at hknows
      | _ => rfl
    | _ => rfl

/-- An admission that enters its session leaves all sessions standing well. -/
theorem Accounted.enter (h : hub.Accounted (before ++ .enter topic id :: after)) :
    ((hub.created topic hub.policy.queueCapacity id).enterTable hub.connections.length).Accounted
      (before ++ .opening hub.connections.length topic id .subscribe :: after) := by
  set later := (hub.created topic hub.policy.queueCapacity id).enterTable hub.connections.length
  have hnone := session?_length hub
  set session := Session.create id topic (.ofCapacity hub.policy.queueCapacity) hub.now
  have hsession (m : Nat) : later.session? m =
      if m = hub.connections.length then some session else hub.session? m :=
    session?_created hub topic hub.policy.queueCapacity id m
  have hnew := (hsession hub.connections.length).trans (if_pos rfl)
  have htopic : later.topic? hub.connections.length = some topic := by
    rw [topic?, hnew]
    rfl
  have hunlisted : hub.connections.length ∉ hub.table := fun hmem => by
    simpa [hnone] using h.listed _ hmem
  have hunsubscribed (other : Topic) :
      hub.subscriptions.contains other hub.connections.length = false := by
    by_contra hcontains
    have hnamed := h.named other _ (by simpa using hcontains)
    simp [topic?, hnone] at hnamed
  have hopening := (h.nobody hnone).1
  have hletdown := (h.nobody hnone).2
  simp only [List.forall_mem_append, List.forall_mem_cons] at hopening hletdown
  refine h.exchange (fun _ _ => ⟨rfl, rfl⟩) (Call.minds_opening _ topic id _) ?elsewhere
    (fun other hother => by simp [topic?, hnone] at hother) htopic (fun _ => ⟨_, hnew⟩)
    (fun other hother => by simp [later, enterTable, created, hunsubscribed] at hother)
    ?nodup h.wellFormed ?standing
  case elsewhere =>
    refine ⟨fun m hm => by rw [hsession, if_neg hm], fun m hm => ?_, fun _ _ _ => rfl⟩
    simp [later, enterTable, created, hm]
  case nodup =>
    refine List.nodup_append.mpr ⟨h.table_nodup, List.nodup_singleton _, ?_⟩
    rintro m hm _ hlast rfl
    exact hunlisted (List.mem_singleton.mp hlast ▸ hm)
  case standing =>
    intro session hs
    obtain rfl := Option.some.inj (hnew.symm.trans hs)
    refine ⟨some .subscribe, none, ?_, ?_, .arriving rfl ?_ (hunsubscribed _)⟩
    · rw [filterMap_focus, List.filterMap_eq_nil_iff.mpr hopening.1,
        List.filterMap_eq_nil_iff.mpr hopening.2.2]
      simp [Call.opening?]
    · rw [filterMap_focus, List.filterMap_eq_nil_iff.mpr hletdown.1,
        List.filterMap_eq_nil_iff.mpr hletdown.2.2]
      rfl
    · simp [later, enterTable, created]

/-- The session that a call opens stands as the call takes it to stand. -/
theorem Accounted.standing_opening {next : Opening}
    (h : hub.Accounted (before ++ .opening n topic id next :: after)) :
    ∃ session letdown, hub.session? n = some session ∧ session.topic = topic ∧
      Standing session (hub.table.contains n) (hub.subscriptions.contains topic n) (some next)
        letdown := by
  have hown : hub.topic? n = some topic := h.knows (.opening n topic id next) (by simp)
  simp only [topic?, Option.map_eq_some_iff] at hown
  obtain ⟨session, hs, rfl⟩ := hown
  obtain ⟨opening, letdown, hopening, -, hstands⟩ := h.standing _ session hs
  rw [filterMap_focus] at hopening
  obtain rfl := eq_some_of_focus hopening (Call.opening?_self n _ id next)
  exact ⟨session, letdown, hs, rfl, hstands⟩

/-- So does one that subscribes it. -/
theorem Accounted.subscribe
    (h : hub.Accounted (before ++ .opening n topic id .subscribe :: after)) :
    (hub.subscribe n topic).Accounted (before ++ .opening n topic id .markOpen :: after) := by
  refine h.opening_step (Call.minds_opening n topic id _) rfl ?_ (elsewhere_subscribe hub n topic)
    rfl rfl (h.wellFormed.subscribe topic n) ?_ ?_
  · exact h.knows (.opening n topic id .subscribe) (by simp)
  · intro other hother
    rw [Hub.subscribe, Subscriptions.contains_subscribe, Bool.or_eq_true, Bool.and_eq_true,
      decide_eq_true_eq] at hother
    exact hother.imp_right fun hsame => hsame.1.symm
  · intro session session' letdown hs hs' hstands
    obtain rfl := Option.some.inj (hs.symm.trans hs')
    simpa [Hub.subscribe, Subscriptions.contains_subscribe] using hstands.subscribe

/-- So does one that finds it closed. -/
theorem Accounted.failToOpen (h : hub.Accounted (before ++ .opening n topic id .markOpen :: after))
    (hstage : ∀ session, hub.session? n = some session → session.stage ≠ .opening) :
    hub.Accounted (before ++ .opening n topic id .withdraw :: after) := by
  refine h.opening_step (Call.minds_opening n topic id _) rfl ?_
    ((SameRecords.refl hub).elsewhere n) rfl rfl h.wellFormed (fun _ => .inl) ?_
  · exact h.knows (.opening n topic id .markOpen) (by simp)
  · intro session session' letdown hs hs' hstands
    obtain rfl := Option.some.inj (hs.symm.trans hs')
    rw [Call.opening?_self]
    exact (hstands.failToOpen (hstage session hs)).2

/-- What is changed about a session is changed. -/
theorem session?_modifySession (hub : Hub) (n : Nat) (f : Session → Session) :
    (hub.modifySession n f).session? n = (hub.session? n).map f := by
  simp [session?, modifySession, modify, Function.comp_def]

/-- A change that keeps the topic of the session keeps it in the hub. -/
theorem topic?_modifySession (hub : Hub) (n : Nat) (f : Session → Session)
    (h : ∀ session, hub.session? n = some session → (f session).topic = session.topic) :
    (hub.modifySession n f).topic? n = hub.topic? n := by
  rw [topic?, session?_modifySession, Option.map_map]
  cases hs : hub.session? n with
  | none => simp [topic?, hs]
  | some session => simp [topic?, hs, h session hs]

/-- An admission that opens its session leaves all sessions standing well. -/
theorem Accounted.markOpen (h : hub.Accounted (before ++ .opening n topic id .markOpen :: after))
    {session : Session} (hs : hub.session? n = some session) (hstage : session.stage = .opening) :
    (hub.modifySession n fun _ => { session with stage := .open }).Accounted
      (before ++ .opening n topic id .countOpened :: after) := by
  have htopic := topic?_modifySession hub n (fun _ => { session with stage := .open })
    fun other hother => by rw [← Option.some.inj (hs.symm.trans hother)]
  refine h.opening_step (Call.minds_opening n topic id _) rfl ?_ (elsewhere_modify hub n _)
    rfl htopic h.wellFormed (fun _ => .inl) ?_
  · exact htopic.trans (h.knows (.opening n topic id .markOpen) (by simp))
  · intro other other' letdown hother hother' hstands
    obtain rfl := Option.some.inj (hs.symm.trans hother)
    rw [session?_modifySession, hs] at hother'
    obtain rfl := Option.some.inj hother'
    rw [Call.opening?_self]
    exact hstands.markOpen hstage

/-- So does one that takes its session off the topic again. -/
theorem Accounted.withdraw (h : hub.Accounted (before ++ .opening n topic id .withdraw :: after)) :
    Accounted { hub with subscriptions := (hub.subscriptions.unsubscribe topic n).2 }
      (before ++ .returned :: after) := by
  refine h.opening_step (Call.minds_of_isIdle rfl n) rfl trivial
    (elsewhere_unsubscribe h.wellFormed n topic) rfl rfl (h.wellFormed.unsubscribe topic n) ?_ ?_
  · intro other hother
    rw [h.wellFormed.contains_unsubscribe, Bool.and_eq_true] at hother
    exact .inl hother.1
  · intro session session' letdown hs hs' hstands
    obtain rfl := Option.some.inj (hs.symm.trans hs')
    simpa [h.wellFormed.contains_unsubscribe, Call.returned, Call.opening?] using hstands.withdraw

/-- What an admission does after its session has been open. -/
theorem Accounted.advance {next : Opening} {call' : Call}
    (h : hub.Accounted (before ++ .opening n topic id next :: after))
    (hnext : next.isMarked = true) (hcall' : call'.Minds n) (hletdown : call'.letdown? n = none)
    (hknows : call'.Knows hub) (hopening : ∀ next ∈ call'.opening? n, next.isMarked = true) :
    hub.Accounted (before ++ call' :: after) := by
  refine h.opening_step hcall' hletdown hknows ((SameRecords.refl hub).elsewhere n) rfl rfl
    h.wellFormed (fun _ => .inl) fun session session' letdown hs hs' hstands => ?_
  obtain rfl := Option.some.inj (hs.symm.trans hs')
  exact hstands.advance hnext hopening

end Opening

/-! ## The steps of a teardown -/

section Teardown

variable {hub : Hub} {before after : List Call} {claim : Claim} {rest : List Nat}

/-- The session that a call tears down stands as the call takes it to stand. -/
theorem Accounted.standing_under {next : Letdown}
    (h : hub.Accounted (before ++ .closing (.under claim next) rest :: after)) :
    ∃ session opening, hub.session? claim.number = some session ∧
      session.topic = claim.session.topic ∧
      Standing session (hub.table.contains claim.number)
        (hub.subscriptions.contains claim.session.topic claim.number) opening
        (some (claim.previous, next)) := by
  have hown : hub.topic? claim.number = some claim.session.topic :=
    h.knows (.closing (.under claim next) rest) (by simp)
  simp only [topic?, Option.map_eq_some_iff] at hown
  obtain ⟨session, hs, htopic⟩ := hown
  obtain ⟨opening, letdown, -, hletdown, hstands⟩ := h.standing _ session hs
  rw [filterMap_focus] at hletdown
  obtain rfl := eq_some_of_focus hletdown (Call.letdown?_self claim next rest)
  exact ⟨session, opening, hs, htopic, htopic ▸ hstands⟩

/-- So does a close that claims its session. -/
theorem Accounted.claimed {n : Nat} {cause : Cause}
    (h : hub.Accounted (before ++ .closing (.claim n cause) rest :: after)) {session : Session}
    (hs : hub.session? n = some session) (hu : session.isClaimed = false) :
    (hub.modifySession n fun _ => session.claimedFor cause.reason).Accounted
      (before ++
        .closing (.under ⟨n, cause, session, session.stage⟩ .keepFault) rest :: after) := by
  have hown : hub.topic? n = some session.topic := by simp [topic?, hs]
  have htopic := topic?_modifySession hub n (fun _ => session.claimedFor cause.reason)
    fun other hother => by rw [← Option.some.inj (hs.symm.trans hother)]; rfl
  refine h.restand hown (Call.minds_of_isIdle rfl n)
    (Call.minds_under ⟨n, cause, session, session.stage⟩ .keepFault rest) (htopic.trans hown)
    (elsewhere_modify hub n _) htopic (.refl _) h.wellFormed (fun _ => .inl) ?_
  intro other other' opening letdown hother hother' _ _ hstands
  obtain rfl := Option.some.inj (hs.symm.trans hother)
  rw [session?_modifySession, hs] at hother'
  obtain rfl := Option.some.inj hother'
  obtain ⟨rfl, hclaimed⟩ := hstands.claim hu cause.reason
  exact ⟨opening, _, .inr ⟨rfl, rfl⟩, .inl ⟨rfl, rfl⟩,
    (Call.letdown?_self ⟨n, cause, session, session.stage⟩ .keepFault rest).symm ▸ hclaimed⟩

/-- A step of a teardown that changes the session and nothing else. -/
theorem Accounted.modify_step {next next' : Letdown}
    (h : hub.Accounted (before ++ .closing (.under claim next) rest :: after))
    {f : Session → Session} (hf : ∀ session, (f session).topic = session.topic)
    (hstep : ∀ session listed subscribed opening,
      Standing session listed subscribed opening (some (claim.previous, next)) →
      Standing (f session) listed subscribed opening (some (claim.previous, next'))) :
    (hub.modifySession claim.number f).Accounted
      (before ++ .closing (.under claim next') rest :: after) := by
  have hown := h.knows (.closing (.under claim next) rest) (by simp)
  have htopic := topic?_modifySession hub claim.number f fun session _ => hf session
  refine h.letdown_step (Call.minds_under claim next' rest) rfl (htopic.trans hown)
    (elsewhere_modify hub _ _) htopic (.refl _) h.wellFormed (fun _ => id) ?_
  intro session session' opening hs hs' hstands
  rw [session?_modifySession, hs] at hs'
  obtain rfl := Option.some.inj hs'
  rw [Call.letdown?_self]
  exact hstep _ _ _ _ hstands

/-- A step of a teardown that changes the records of no session. -/
theorem Accounted.proceed {next : Letdown} {call' : Call}
    (h : hub.Accounted (before ++ .closing (.under claim next) rest :: after))
    (hcall' : call'.Minds claim.number) (hopening : call'.opening? claim.number = none)
    (hknows : call'.Knows hub)
    (hstep : ∀ session listed subscribed opening,
      Standing session listed subscribed opening (some (claim.previous, next)) →
      Standing session listed subscribed opening (call'.letdown? claim.number)) :
    hub.Accounted (before ++ call' :: after) := by
  refine h.letdown_step hcall' hopening hknows ((SameRecords.refl hub).elsewhere _) rfl (.refl _)
    h.wellFormed (fun _ => id) fun session session' opening hs hs' hstands => ?_
  obtain rfl := Option.some.inj (hs.symm.trans hs')
  exact hstep _ _ _ _ hstands

/-- So does a teardown that takes its session off the topic. -/
theorem Accounted.leaveTopic
    (h : hub.Accounted (before ++ .closing (.under claim .leaveTopic) rest :: after)) :
    (hub.offTopic claim.number claim.session.topic claim.previous).Accounted
      (before ++ .closing (.under claim .releaseOutbox) rest :: after) := by
  have hown := h.knows (.closing (.under claim .leaveTopic) rest) (by simp)
  have helsewhere := elsewhere_unsubscribe h.wellFormed claim.number claim.session.topic
  refine h.letdown_step (Call.minds_under claim .releaseOutbox rest) rfl hown
    ⟨helsewhere.session, helsewhere.listed, helsewhere.subscribed⟩ rfl (.refl _)
    (h.wellFormed.unsubscribe claim.session.topic claim.number) ?_ ?_
  · intro other hother
    rw [offTopic, h.wellFormed.contains_unsubscribe, Bool.and_eq_true] at hother
    exact hother.1
  · intro session session' opening hs hs' hstands
    obtain rfl := Option.some.inj (hs.symm.trans hs')
    simpa [offTopic, h.wellFormed.contains_unsubscribe] using hstands.leaveTopic.2

/-- So does one that takes it out of the table. -/
theorem Accounted.leaveTable
    (h : hub.Accounted (before ++ .closing (.under claim .leaveTable) rest :: after)) :
    Accounted { hub with table := hub.table.erase claim.number }
      (before ++ .closing (.under claim .giveSlot) rest :: after) := by
  have hown := h.knows (.closing (.under claim .leaveTable) rest) (by simp)
  refine h.letdown_step (Call.minds_under claim .giveSlot rest) rfl hown
    (elsewhere_erase hub claim.number) rfl List.erase_sublist h.wellFormed (fun _ => id) ?_
  intro session session' opening hs hs' hstands
  obtain rfl := Option.some.inj (hs.symm.trans hs')
  simpa [h.table_nodup.mem_erase_iff] using hstands.leaveTable.2

end Teardown

/-! ## Any step -/

/-- Every step of a call leaves every session standing well. -/
theorem Accounted.step {hub later : Hub} {before after : List Call} {call call' : Call}
    (h : hub.Accounted (before ++ call :: after)) (hstep : call.Step hub call' later) :
    later.Accounted (before ++ call' :: after) := by
  have hknows : call.Knows hub := h.knows call (by simp)
  cases hstep with
  | idle stopping hidle hidle' _ hlater =>
    have hsame : hub.SameRecords { hub with stopping } := ⟨fun _ => rfl, rfl, rfl⟩
    have hfree (n : Nat) := And.intro (Call.opening?_of_isIdle hidle n)
      (Call.letdown?_of_isIdle hidle n)
    exact (h.idle_step hfree (Call.opening?_of_isIdle hidle') (Call.letdown?_of_isIdle hidle')
      (Call.knows_of_isIdle hidle' hub)).of_sameRecords (hsame.trans hlater.sameRecords)
  | claimSlot topic id =>
    have hentering : hub.Accounted (before ++ .enter topic id :: after) :=
      h.idle_step (fun _ => ⟨rfl, rfl⟩) (fun _ => rfl) (fun _ => rfl) trivial
    exact hentering.of_sameRecords ⟨fun _ => rfl, rfl, rfl⟩
  | enter topic id => exact h.enter
  | panic topic id => exact h.idle_step (fun _ => ⟨rfl, rfl⟩) (fun _ => rfl) (fun _ => rfl) trivial
  | panicked => exact h
  | subscribe n topic id => exact h.subscribe
  | markOpen n topic id hs hstage => exact h.markOpen hs hstage
  | failToOpen n topic id hstage => exact h.failToOpen hstage
  | withdraw n topic id => exact h.withdraw
  | countOpened n topic id hlater =>
    have hadvance : hub.Accounted (before ++ .opening n topic id .lookAgain :: after) :=
      h.advance rfl (Call.minds_opening n topic id _) rfl hknows (by simp [Opening.isMarked])
    have hsame : hub.SameRecords { hub with opened := hub.opened + 1 } := ⟨fun _ => rfl, rfl, rfl⟩
    exact hadvance.of_sameRecords (hsame.trans hlater.sameRecords)
  | leave n topic id =>
    exact h.advance rfl (Call.minds_of_isIdle rfl n) rfl trivial (by simp [Call.opening?])
  | stay n topic id =>
    exact h.advance rfl (Call.minds_opening n topic id _) rfl hknows (by simp [Opening.isMarked])
  | startWatch n topic id hlater =>
    have hadvance : hub.Accounted (before ++ .returned :: after) :=
      h.advance rfl (Call.minds_of_isIdle rfl n) rfl trivial
        (by simp [Call.returned, Call.opening?])
    have hsame : hub.SameRecords (hub.startWatch n) := sameRecords_modify hub n fun _ => rfl
    exact hadvance.of_sameRecords (hsame.trans hlater.sameRecords)
  | claim n cause rest hs hu => exact h.claimed hs hu
  | keepFault claim rest fault hlater =>
    have hkept := h.modify_step (f := (·.keepFault fault)) (fun _ => rfl)
      fun _ _ _ _ hstands => hstands.keepFault (some fault)
    exact hkept.of_sameRecords hlater.sameRecords
  | noFault claim rest =>
    refine h.proceed (Call.minds_under claim .leaveTopic rest) rfl hknows fun _ _ _ _ hstands => ?_
    simpa using hstands.keepFault none
  | leaveTopic claim rest hlater => exact h.leaveTopic.of_sameRecords hlater.sameRecords
  | releaseOutbox claim rest => exact h.modify_step (fun _ => rfl) fun _ _ _ _ => .releaseOutbox
  | leaveTable claim rest => exact h.leaveTable
  | missing claim rest hmissing =>
    obtain ⟨_, _, _, _, hstands⟩ := h.standing_under
    rw [hstands.leaveTable.1] at hmissing
    cases hmissing
  | giveSlot claim rest =>
    have hgiven : hub.Accounted (before ++ .closing (.under claim .terminate) rest :: after) :=
      h.proceed (Call.minds_under claim .terminate rest) rfl hknows fun _ _ _ _ hstands =>
        (Call.letdown?_self claim .terminate rest).symm ▸ hstands.giveSlot
    exact hgiven.of_sameRecords ⟨fun _ => rfl, rfl, rfl⟩
  | terminate claim rest => exact h.modify_step (fun _ => rfl) fun _ _ _ _ h => h.terminate.2
  | countClosed claim rest hlater =>
    have hcounted : hub.Accounted (before ++ .closing .ended rest :: after) :=
      h.proceed (Call.minds_of_isIdle rfl _) rfl trivial fun _ _ _ _ hstands => hstands.countClosed
    have hsame :
        hub.SameRecords ((hub.tallyClosed claim.previous).tallyForced claim.cause.reason) :=
      ⟨fun _ => rfl, rfl, rfl⟩
    exact hcounted.of_sameRecords (hsame.trans hlater.sameRecords)

end Hub

end LiveCounter
