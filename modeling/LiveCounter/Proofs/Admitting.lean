import LiveCounter.Proofs.Closing

/-!
# What admitting a session does

Admission looks twice for a session that was closed, and a hub that began to stop, while it went on.
Since an operation takes effect as a whole neither happens: a session is refused at the door, or it
is entered in all records at once. Only a panic comes between the door and the records, where the
policy asks for outboxes that cannot be made; it leaves a slot taken for nobody.
-/

namespace LiveCounter

/-- A session with its first event, if there is one. -/
def Session.greeted (session : Session) (topic : Topic) (initial : Option Int64) : Session :=
  match initial with
  | some value => (session.offer ⟨topic, value⟩).1
  | none => session

namespace Hub

/-- The connection of a session that has just been admitted. -/
def newcomer (hub : Hub) (topic : Topic) (id : SessionId) : Connection where
  session :=
    { Session.create id topic (.ofCapacity hub.policy.queueCapacity) hub.now with stage := .open }
  watch := .spawned

/-- The hub with a session that is not in any record yet. -/
def created (hub : Hub) (topic : Topic) (capacity : Nat) (id : SessionId) : Hub :=
  let session := Session.create id topic (.ofCapacity capacity) hub.now
  { hub with connections := hub.connections ++ [{ session }] }

/-- The hub with a slot taken for a session that was never made. -/
def forfeited (hub : Hub) : Hub := { hub with active := hub.active + 1 }

/-- The hub with an open session entered in all records. -/
def entered (hub : Hub) (topic : Topic) (id : SessionId) : Hub :=
  { hub with
    connections := hub.connections ++ [hub.newcomer topic id]
    table := hub.table ++ [hub.connections.length]
    subscriptions := hub.subscriptions.subscribe topic hub.connections.length
    active := hub.active + 1
    opened := hub.opened + 1 }

/-- The connection of a session that is served from the start. -/
def welcomed (hub : Hub) (topic : Topic) (id : SessionId) (client : Client)
    (initial : Option Int64) : Connection :=
  { hub.newcomer topic id with
    session := (hub.newcomer topic id).session.greeted topic initial
    service := some { client } }

/-- The hub with a session that has its first event and a writer. -/
def served (hub : Hub) (n : Nat) (topic : Topic) (client : Client) (initial : Option Int64) : Hub :=
  hub.modify n fun connection =>
    { connection with
      session := connection.session.greeted topic initial
      service := some { client } }

/-- A session is created with the next number if room for its events can be set aside. -/
theorem create_eq (hub : Hub) (topic : Topic) (capacity : Nat) (id : SessionId) :
    hub.create topic capacity id =
      if capacity ≤ Outbox.maxCapacity then
        some (hub.connections.length, hub.created topic capacity id)
      else none := by
  have hfits : max capacity 1 ≤ Outbox.maxCapacity ↔ capacity ≤ Outbox.maxCapacity := by
    have hone : 1 ≤ Outbox.maxCapacity := by decide
    omega
  simp only [create, Outbox.ofCapacity?, Outbox.ofCapacity, hfits]
  split <;> rfl

/-- The four ways in which an admission can go. -/
inductive JoinCase (hub : Hub) (topic : Topic) (id : SessionId) : Prop where
  | stopping (hstopping : hub.stopping = true)
      (hanswer : (hub.join topic id).1 = .error (.refused .stopping))
      (hhub : hub.Reports (hub.join topic id).2)
  | full (hstopping : hub.stopping = false) (hfull : hub.policy.maxConnections ≤ hub.active)
      (hanswer : (hub.join topic id).1 =
        .error (.refused (.capacityExceeded hub.policy.maxConnections)))
      (hhub : hub.Reports (hub.join topic id).2)
      (hcount : (hub.join topic id).2.metrics.count (.sessionsRejected .capacity) ≠ 0)
  | panicked (hstopping : hub.stopping = false) (hroom : hub.active < hub.policy.maxConnections)
      (hanswer : (hub.join topic id).1 = .error .panicked)
      (hhub : (hub.join topic id).2 = hub.forfeited)
      (hlarge : Outbox.maxCapacity < hub.policy.queueCapacity)
  | admitted (hstopping : hub.stopping = false) (hroom : hub.active < hub.policy.maxConnections)
      (hanswer : (hub.join topic id).1 = .ok hub.connections.length)
      (hhub : (hub.entered topic id).Reports (hub.join topic id).2)
      (hfits : hub.policy.queueCapacity ≤ Outbox.maxCapacity)

/-- Changing the item behind a list changes the item that comes next. -/
theorem modify_last {A : Type} (items : List A) (item : A) (f : A → A) :
    (items ++ [item]).modify items.length f = items ++ [f item] := by
  induction items with
  | nil => rfl
  | cons first rest ih => simpa [List.modify_cons] using ih

/-- A session that was created just before, and entered, is still there to be opened. -/
theorem reports_finishAdmission (hub : Hub) (topic : Topic) (id : SessionId)
    (hstopping : hub.stopping = false) {before : List Connection} {session : Session}
    (hconnections : hub.connections = before ++ [({ session } : Connection)])
    (hstage : session.stage = .opening) :
    (hub.finishAdmission before.length topic id).1 = .ok before.length ∧
      ({ hub with
          connections := before ++ [({ session := { session with stage := .open }
                                       watch := .spawned } : Connection)]
          opened := hub.opened + 1 } : Hub).Reports
        (hub.finishAdmission before.length topic id).2 := by
  have hopened : hub.opened? before.length =
      some { hub with
        connections :=
          before ++ [({ session := { session with stage := .open } } : Connection)] } := by
    simp [opened?, session?, hconnections, Session.opened?, hstage, modifySession, modify,
      modify_last]
  have hnot : ¬ hub.stopping = true := by simp [hstopping]
  simp only [finishAdmission, hopened, countOpened, count, log, startWatch, modify, modify_last,
    if_neg hnot]
  exact ⟨trivial, (hub.metrics.increment .sessionsOpened).moveActive 1, _,
    Metrics.le_increment hub.metrics .sessionsOpened, rfl⟩

/-- Every admission goes in one of these ways. -/
theorem joinCase (hub : Hub) (topic : Topic) (id : SessionId) : hub.JoinCase topic id := by
  cases hstopping : hub.stopping with
  | true =>
    have hjoin : hub.join topic id = hub.refuseStopping := by simp [join, hstopping]
    refine .stopping hstopping (by rw [hjoin]; rfl) ?_
    rw [hjoin]
    exact reports_count hub _
  | false =>
    by_cases hroom : hub.active < hub.policy.maxConnections
    · by_cases hfits : hub.policy.queueCapacity ≤ Outbox.maxCapacity
      · have hjoin : hub.join topic id = (((hub.forfeited.created topic
            hub.policy.queueCapacity id).enterTable hub.connections.length).subscribe
              hub.connections.length topic).finishAdmission hub.connections.length topic id := by
          simp [join, hstopping, claimSlot?, hroom, create_eq, hfits, forfeited]
        obtain ⟨hanswer, hhub⟩ := reports_finishAdmission
          (((hub.forfeited.created topic hub.policy.queueCapacity id).enterTable
            hub.connections.length).subscribe hub.connections.length topic) topic id hstopping rfl
              rfl
        refine .admitted hstopping hroom (hjoin ▸ hanswer) ?_ hfits
        rw [hjoin]
        exact hhub
      · have hjoin : hub.join topic id = (.error .panicked, hub.forfeited) := by
          simp [join, hstopping, claimSlot?, hroom, create_eq, hfits, forfeited]
        exact .panicked hstopping hroom (by rw [hjoin]) (by rw [hjoin]) (Nat.lt_of_not_le hfits)
    · have hjoin : hub.join topic id = hub.refuseCapacity topic := by
        simp [join, hstopping, claimSlot?, hroom]
      refine .full hstopping (Nat.le_of_not_lt hroom) (by rw [hjoin]; rfl) ?_ ?_
      · rw [hjoin]
        exact (reports_count hub _).trans (reports_log _ _ _ _)
      · rw [hjoin]
        simp [refuseCapacity, log, count, Metrics.count_increment]

/-- Offering an event to a session changes that session, if there is one, and nothing else. -/
theorem offer_snd (hub : Hub) (n : Nat) (event : CounterEvent) :
    (hub.offer n event).2 = hub.modifySession n fun session => (session.offer event).1 := by
  cases hs : hub.session? n with
  | none =>
    have hnone : hub.connections[n]? = none := by simpa [session?] using hs
    have hsame : ∀ f : Connection → Connection, hub.connections.modify n f = hub.connections :=
      fun f => List.modify_eq_self (by simpa using hnone)
    simp [offer, hs, modifySession, modify, hsame]
  | some session =>
    obtain ⟨connection, hconnection, rfl⟩ := connection_of_session? hs
    have hcongr : hub.connections.modify n (fun connection' =>
        { connection' with session := (connection.session.offer event).1 }) =
        hub.connections.modify n fun connection =>
          { connection with session := (connection.session.offer event).1 } :=
      modify_congr_at hconnection rfl
    simp only [offer, hs, modifySession, modify, hcongr]

/-- That the first value was not queued is only reported. -/
theorem reports_offerInitial (hub : Hub) (n : Nat) (topic : Topic) (id : SessionId) (value : Int64) :
    (hub.offer n ⟨topic, value⟩).2.Reports (hub.offerInitial n topic id value) := by
  simp only [offerInitial]
  split
  · exact Reports.refl _
  · exact reports_log _ _ _ _

/-- A stream that is not admitted is not served. -/
theorem connect_of_error {hub : Hub} {topic : Topic} {id : SessionId} {denial : Denial}
    (h : (hub.join topic id).1 = .error denial) (client : Client) (initial : Option Int64) :
    hub.connect topic id client initial = (.error denial, (hub.join topic id).2) := by
  unfold connect
  split
  · next heq =>
    rw [heq] at h ⊢
    simpa using h
  · next heq => simp [heq] at h

/-- Once a session is admitted, serving a client with it cannot fail any more. -/
theorem connect_of_ok {hub : Hub} {topic : Topic} {id : SessionId} {n : Nat}
    (h : (hub.join topic id).1 = .ok n) (client : Client) (initial : Option Int64) :
    (hub.connect topic id client initial).1 = .ok n ∧
      ((hub.join topic id).2.served n topic client initial).Reports
        (hub.connect topic id client initial).2 := by
  have hconnect : hub.connect topic id client initial =
      (.ok n, (match initial with
        | some value => (hub.join topic id).2.offerInitial n topic id value
        | none => (hub.join topic id).2).startWriter n client) := by
    unfold connect
    split
    · next heq => simp [heq] at h
    · next heq =>
      rw [heq] at h ⊢
      obtain rfl : _ = n := by simpa using h
      rfl
  rw [hconnect]
  refine ⟨rfl, ?_⟩
  cases initial with
  | none => exact Reports.refl _
  | some value =>
    have hinitial := (hub.join topic id).2.reports_offerInitial n topic id value
    rw [offer_snd] at hinitial
    refine Reports.trans ?_ (hinitial.modify n _)
    simp only [served, modifySession, modify, List.modify_modify_eq]
    exact Reports.refl _

/-- Whoever has got a stream has been admitted. -/
theorem ok_join_of_connect {hub : Hub} {topic : Topic} {id : SessionId} {client : Client}
    {initial : Option Int64} {n : Nat} (h : (hub.connect topic id client initial).1 = .ok n) :
    (hub.join topic id).1 = .ok n := by
  cases hanswer : (hub.join topic id).1 with
  | error denial =>
    rw [connect_of_error hanswer] at h
    cases h
  | ok m => rw [← h, (connect_of_ok hanswer client initial).1]

/-- A session that is admitted has the next number. -/
theorem eq_length_of_join {hub : Hub} {topic : Topic} {id : SessionId} {n : Nat}
    (h : (hub.join topic id).1 = .ok n) : n = hub.connections.length := by
  cases hub.joinCase topic id with
  | stopping _ hanswer => simp [hanswer] at h
  | full _ _ hanswer => simp [hanswer] at h
  | panicked _ _ hanswer => simp [hanswer] at h
  | admitted _ _ hanswer =>
    rw [hanswer] at h
    exact (Except.ok.inj h).symm

/-- The four ways in which the opening of a stream can go. -/
inductive ConnectCase (hub : Hub) (topic : Topic) (id : SessionId) (client : Client)
    (initial : Option Int64) : Prop where
  | stopping (hstopping : hub.stopping = true)
      (hanswer : (hub.connect topic id client initial).1 = .error (.refused .stopping))
      (hconnections : (hub.connect topic id client initial).2.connections = hub.connections)
  | full (hstopping : hub.stopping = false)
      (hanswer : (hub.connect topic id client initial).1 =
        .error (.refused (.capacityExceeded hub.policy.maxConnections)))
      (hconnections : (hub.connect topic id client initial).2.connections = hub.connections)
      (hcount : (hub.connect topic id client initial).2.metrics.count
        (.sessionsRejected .capacity) ≠ 0)
  | panicked (hstopping : hub.stopping = false)
      (hanswer : (hub.connect topic id client initial).1 = .error .panicked)
      (hconnections : (hub.connect topic id client initial).2.connections = hub.connections)
      (hlarge : Outbox.maxCapacity < hub.policy.queueCapacity)
  | admitted (hstopping : hub.stopping = false)
      (hanswer : (hub.connect topic id client initial).1 = .ok hub.connections.length)
      (hconnections : (hub.connect topic id client initial).2.connections =
        hub.connections ++ [hub.welcomed topic id client initial])
      (hfits : hub.policy.queueCapacity ≤ Outbox.maxCapacity)

/-- Every opening of a stream goes in one of these ways. -/
theorem connectCase (hub : Hub) (topic : Topic) (id : SessionId) (client : Client)
    (initial : Option Int64) : hub.ConnectCase topic id client initial := by
  cases hub.joinCase topic id with
  | stopping hstopping hanswer hhub =>
    have hconnect := connect_of_error hanswer client initial
    exact .stopping hstopping (by rw [hconnect]) (by rw [hconnect, hhub.connections])
  | full hstopping _ hanswer hhub hcount =>
    have hconnect := connect_of_error hanswer client initial
    exact .full hstopping (by rw [hconnect]) (by rw [hconnect, hhub.connections])
      (by rwa [hconnect])
  | panicked hstopping _ hanswer hhub hlarge =>
    have hconnect := connect_of_error hanswer client initial
    exact .panicked hstopping (by rw [hconnect]) (by rw [hconnect, hhub, forfeited]) hlarge
  | admitted hstopping _ hanswer hhub hfits =>
    obtain ⟨hok, hserved⟩ := connect_of_ok hanswer client initial
    refine .admitted hstopping hok ?_ hfits
    rw [hserved.connections, served, modify, hhub.connections, entered, modify_last]
    rfl

/-- A session that is opened for a client is added with a writer that has not run yet. -/
theorem connections_connect {hub : Hub} {topic : Topic} {id : SessionId} {client : Client}
    {initial : Option Int64} {n : Nat} (h : (hub.connect topic id client initial).1 = .ok n) :
    (hub.connect topic id client initial).2.connections[n]? =
      some (hub.welcomed topic id client initial) := by
  cases hub.connectCase topic id client initial with
  | stopping _ hanswer => simp [hanswer] at h
  | full _ hanswer => simp [hanswer] at h
  | panicked _ hanswer => simp [hanswer] at h
  | admitted _ hanswer hconnections =>
    obtain rfl : hub.connections.length = n := by simpa [hanswer] using h
    rw [hconnections, List.getElem?_concat_length]

end Hub

end LiveCounter
