import LiveCounter.Proofs.Moves
import Mathlib.Logic.Relation

/-!
# The changes a hub can go through

Whatever goes through the hub comes down to a few kinds of change: a session is entered, a session
is torn down, a connection changes without the course of its session, and what does not concern
sessions at all. The clock and the signal to stop change only at the outset of an operation. An
invariant of these changes is an invariant of every run in which no call panics; one that does takes
a slot, and that is all.
-/

namespace LiveCounter.Hub

/-- A hub changes in one of these ways. -/
inductive Change : Hub → Hub → Prop
  | report {hub later : Hub} (h : hub.Reports later) : Change hub later
  | tally (hub : Hub) (published delivered dropped : Nat) :
      Change hub { hub with published, delivered, dropped }
  | modify (hub : Hub) (n : Nat) (f : Connection → Connection)
      (h : ∀ connection, hub.connections[n]? = some connection →
        connection.session.SameCourse (f connection).session) : Change hub (hub.modify n f)
  | enter (hub : Hub) (topic : Topic) (id : SessionId) (hstopping : hub.stopping = false)
      (hroom : hub.active < hub.policy.maxConnections) : Change hub (hub.entered topic id)
  | retire (hub : Hub) (n : Nat) (cause : Cause) :
      Change hub (hub.retire n cause.reason cause.failure).2

/-- The second hub comes out of the first by such changes. -/
abbrev Path : Hub → Hub → Prop := Relation.ReflTransGen Change

/-- The hub with the clock and the signal to stop as they are during an operation. -/
def outset (hub : Hub) : Operation → Hub
  | .pass millis => hub.pass millis
  | .sweep => hub.beginStop
  | _ => hub

/-- Reports are changes. -/
theorem Reports.path {hub later : Hub} (h : hub.Reports later) : hub.Path later :=
  .single (.report h)

/-- A report is a change. -/
theorem path_log (hub : Hub) (level : LogLevel) (message : String)
    (fields : List (String × Json)) : hub.Path (hub.log level message fields) :=
  (reports_log hub level message fields).path

/-- A connection may change as long as its session gets no further. -/
theorem path_modify {hub : Hub} {n : Nat} {f : Connection → Connection}
    (h : ∀ connection, hub.connections[n]? = some connection →
      connection.session.SameCourse (f connection).session) : hub.Path (hub.modify n f) :=
  .single (.modify hub n f h)

/-- A session may change as long as it gets no further. -/
theorem path_modifySession {hub : Hub} {n : Nat} {f : Session → Session}
    (h : ∀ session : Session, session.SameCourse (f session)) : hub.Path (hub.modifySession n f) :=
  path_modify fun connection _ => h connection.session

/-- A close goes by changes. -/
theorem path_close (hub : Hub) (n : Nat) (reason : CloseReason) :
    hub.Path (hub.close n reason).2 :=
  .single (.retire hub n (.plain reason))

/-- So does a close for an error. -/
theorem path_closeFor (hub : Hub) (n : Nat) (fault : StreamFault) :
    hub.Path (hub.closeFor n fault).2 :=
  .single (.retire hub n (.error fault))

/-- So does a close of a session that is looked for in the table. -/
theorem path_closeLive (hub : Hub) (n : Nat) (reason : CloseReason) :
    hub.Path (hub.closeLive n reason).2 := by
  unfold closeLive
  split
  · exact path_close hub n reason
  · exact .refl

/-- What goes by changes for one item does so for many. -/
theorem path_foldl {A : Type} {f : Hub → A → Hub} (h : ∀ (hub : Hub) item, hub.Path (f hub item))
    (items : List A) (hub : Hub) : hub.Path (items.foldl f hub) := by
  induction items generalizing hub with
  | nil => exact .refl
  | cons item rest ih => exact (h hub item).trans (ih _)

/-- Clearing a topic goes by changes. -/
theorem path_clearTopic (hub : Hub) (topic : Topic) : hub.Path (hub.clearTopic topic).2 := by
  have hclose := path_foldl (fun hub n => path_closeLive hub n .topicClosed)
    (hub.subscriptions.handles topic) hub
  simp only [clearTopic, closeEach_snd]
  split
  · exact hclose.trans (path_log _ _ _ _)
  · exact hclose

/-- A sweep goes by changes. -/
theorem path_sweep (hub : Hub) : hub.Path hub.sweep.2 := by
  simp only [sweep, closeEach_snd]
  exact (path_log _ _ _ _).trans
    (path_foldl (fun hub n => path_close hub n .shutdown) hub.table _)

/-! ## Admission -/

/-- Whether a call for a stream has panicked. -/
def hasPanicked : Except Denial Nat → Bool
  | .error .panicked => true
  | _ => false

/-- Whether an operation is a call for a stream that panics. -/
def panics (hub : Hub) : Operation → Bool
  | .join topic id => hasPanicked (hub.join topic id).1
  | .connect topic id transport initial =>
    hasPanicked (hub.connect topic id transport.client initial).1
  | _ => false

/-- An answer of a call that has panicked says nothing else. -/
theorem eq_panicked_of_hasPanicked {answer : Except Denial Nat} (h : hasPanicked answer = true) :
    answer = .error .panicked := by
  unfold hasPanicked at h
  split at h
  · rfl
  · cases h

/-- Opening a stream panics if and only if admitting its session does. -/
theorem hasPanicked_connect (hub : Hub) (topic : Topic) (id : SessionId) (client : Client)
    (initial : Option Int64) :
    hasPanicked (hub.connect topic id client initial).1 = hasPanicked (hub.join topic id).1 := by
  cases hanswer : (hub.join topic id).1 with
  | error denial => rw [connect_of_error hanswer]
  | ok n => rw [(connect_of_ok hanswer client initial).1]

/-- An admission panics for one reason: there cannot be such an outbox as the policy asks for. -/
theorem join_of_hasPanicked {hub : Hub} {topic : Topic} {id : SessionId}
    (h : hasPanicked (hub.join topic id).1 = true) :
    (hub.join topic id).2 = hub.forfeited ∧ Outbox.maxCapacity < hub.policy.queueCapacity ∧
      hub.active < hub.policy.maxConnections := by
  have hpanicked := eq_panicked_of_hasPanicked h
  cases hub.joinCase topic id with
  | stopping _ hanswer => simp [hanswer] at hpanicked
  | full _ _ hanswer => simp [hanswer] at hpanicked
  | panicked _ hroom _ hhub hlarge => exact ⟨hhub, hlarge, hroom⟩
  | admitted _ _ hanswer => simp [hanswer] at hpanicked

/-- A call that panics has taken a slot, and that is all. -/
theorem step_of_panics {hub : Hub} {operation : Operation} (h : hub.panics operation = true) :
    hub.step operation = hub.forfeited ∧ Outbox.maxCapacity < hub.policy.queueCapacity ∧
      hub.active < hub.policy.maxConnections := by
  cases operation with
  | join topic id => exact join_of_hasPanicked h
  | connect topic id transport initial =>
    rw [panics, hasPanicked_connect] at h
    rw [step, connect_of_error (eq_panicked_of_hasPanicked h)]
    exact join_of_hasPanicked h
  | _ => cases h

/-- A call that panics has no outset of its own. -/
theorem outset_of_panics {hub : Hub} {operation : Operation} (h : hub.panics operation = true) :
    hub.outset operation = hub := by
  cases operation with
  | join | connect => rfl
  | _ => cases h

/-- A call for a stream goes by changes, unless it panics. -/
theorem path_join {hub : Hub} {topic : Topic} {id : SessionId}
    (h : hasPanicked (hub.join topic id).1 = false) : hub.Path (hub.join topic id).2 := by
  cases hub.joinCase topic id with
  | stopping _ _ hhub => exact hhub.path
  | full _ _ _ hhub => exact hhub.path
  | panicked _ _ hanswer => simp [hanswer, hasPanicked] at h
  | admitted hstopping hroom _ hhub =>
    exact .trans (.single (.enter hub topic id hstopping hroom)) hhub.path

/-- So does the opening of a stream. -/
theorem path_connect {hub : Hub} {topic : Topic} {id : SessionId} {client : Client}
    {initial : Option Int64} (h : hasPanicked (hub.connect topic id client initial).1 = false) :
    hub.Path (hub.connect topic id client initial).2 := by
  rw [hasPanicked_connect] at h
  have hjoin := path_join h
  cases hanswer : (hub.join topic id).1 with
  | error denial => rwa [connect_of_error hanswer]
  | ok n =>
    refine (hjoin.trans (path_modify fun connection _ => ?_)).trans
      (connect_of_ok hanswer client initial).2.path
    cases initial with
    | none => exact .refl _
    | some value => exact connection.session.sameCourse_offer _

/-! ## Tasks -/

/-- A poll of a watch goes by changes. -/
theorem path_pollWatch (hub : Hub) (n : Nat) : hub.Path (hub.pollWatch n) := by
  unfold pollWatch
  split
  · exact .refl
  · next connection hconnection =>
    have hmodify (watch : Watch) (timersSet : Nat) :
        hub.Path (hub.modify n fun connection => { connection with watch, timersSet }) :=
      path_modify fun connection _ => .refl _
    simp only
    split
    · exact hmodify _ _
    · exact hmodify _ _
    · exact ((hmodify _ _).trans (path_log _ _ _ _)).trans (path_closeFor _ _ _)

/-- The end of a writer goes by changes. -/
theorem path_endWriter (hub : Hub) (n : Nat) (exit : WriterExit) :
    hub.Path (hub.endWriter n exit) := by
  cases exit with
  | orderly reason => exact (path_log _ _ _ _).trans (path_close _ n reason)
  | failed fault =>
    exact ((path_log _ _ _ _).trans (path_closeFor _ n _)).trans
      ((path_log _ _ _ _).trans (path_close _ n _))
  | panicked => exact path_close hub n .aborted

/-- A poll of a writer goes by changes. -/
theorem path_pollWriter (hub : Hub) (n : Nat) : hub.Path (hub.pollWriter n) := by
  unfold pollWriter
  split
  · exact .refl
  · next connection hconnection =>
    split
    · exact .refl
    · next service _ =>
      have hsame := Writer.sameCourse_run hub.policy service.phase
        (connection.desk service.client hub.now)
      have hstore (phase : Phase) (client : Client) (timersSet : Nat) : hub.Path
          (hub.modify n fun connection' =>
            { connection' with
              session := (Writer.run hub.policy service.phase
                (connection.desk service.client hub.now)).2.session
              service := some { phase, client }
              timersSet }) :=
        path_modify fun connection' h => by
          obtain rfl := Option.some.inj (hconnection.symm.trans h)
          exact hsame
      simp only
      split
      · exact hstore _ _ _
      · exact (hstore _ _ _).trans (path_endWriter _ n _)

/-! ## Publishing -/

/-- Every session that is subscribed to a topic is referred to, and has not ended. -/
def Attended (hub : Hub) (topic : Topic) : Prop :=
  ∀ n ∈ hub.subscriptions.handles topic, hub.isAlive n = true ∧
    ∀ session, hub.session? n = some session → session.stage ≠ .terminated

/-- A delivery changes the stage of no session. -/
theorem stage_deliver {event : CounterEvent} {report : Delivery} {hub : Hub} {n m : Nat}
    {session : Session} (h : (deliver event report hub n).2.session? m = some session) :
    ∃ before, hub.session? m = some before ∧ session.stage = before.stage := by
  simp only [session?, connections_deliver] at h
  rw [acts_offer hub n event m, Option.map_map, Option.map_eq_some_iff] at h
  obtain ⟨connection, hconnection, rfl⟩ := h
  refine ⟨connection.session, by simp [session?, hconnection], ?_⟩
  simp only [Function.comp_apply, only]
  split
  · exact (connection.session.sameCourse_offer event).stage
  · rfl

/-- A delivery to a session that has not ended goes by changes. -/
theorem path_deliver {event : CounterEvent} {report : Delivery} {hub : Hub} {n : Nat}
    (h : ∀ session, hub.session? n = some session → session.stage ≠ .terminated) :
    hub.Path (deliver event report hub n).2 := by
  have hoffer : hub.Path (hub.offer n event).2 := by
    rw [offer_snd]
    exact path_modifySession fun session => session.sameCourse_offer event
  unfold deliver
  cases hs : hub.session? n with
  | none => exact .refl
  | some session =>
    simp only
    split
    · exact hoffer
    · have hcount := hoffer.trans (reports_count _ .broadcastDrops).path
      split
      · exact hcount.trans (path_log _ _ _ _)
      · exact hcount.trans (path_log _ _ _ _)
    · rw [if_neg (h session hs)]
      exact hoffer

/-- So do the deliveries to several of them. -/
theorem path_deliverAll (event : CounterEvent) (ns : List Nat) (report : Delivery) (hub : Hub)
    (h : ∀ n ∈ ns, ∀ session, hub.session? n = some session → session.stage ≠ .terminated) :
    hub.Path (deliverAll event ns report hub).2 := by
  induction ns generalizing report hub with
  | nil => exact .refl
  | cons n rest ih =>
    refine (path_deliver (h n List.mem_cons_self)).trans (ih _ _ fun m hm session hs => ?_)
    obtain ⟨before, hbefore, hstage⟩ := stage_deliver hs
    rw [hstage]
    exact h m (List.mem_cons_of_mem _ hm) before hbefore

/-- Where every subscriber is attended to, no handle is stale. -/
theorem takeRecipients_of_attended {hub : Hub} {topic : Topic} (h : hub.Attended topic) :
    hub.countPublished.takeRecipients topic =
      (⟨hub.subscriptions.handles topic, []⟩, hub.countPublished) := by
  have halive (n : Nat) (hn : n ∈ hub.subscriptions.handles topic) :
      hub.countPublished.isAlive n = true := (h n hn).1
  have hlive : (hub.subscriptions.handles topic).filter hub.countPublished.isAlive =
      hub.subscriptions.handles topic := List.filter_eq_self.mpr halive
  have hstale : ((hub.subscriptions.handles topic).filter fun n => !hub.countPublished.isAlive n) =
      [] := List.filter_eq_nil_iff.mpr fun n hn => by simp [halive n hn]
  have hsubs : hub.countPublished.subscriptions = hub.subscriptions := rfl
  simp only [takeRecipients, Subscriptions.recipients, hsubs, hlive, hstale]
  rfl

/-- Counting a publication is a change. -/
theorem path_countPublished (hub : Hub) : hub.Path hub.countPublished :=
  .trans (.single (.tally hub (hub.published + 1) hub.delivered hub.dropped))
    (reports_count _ .eventsPublished).path

/-- Where every subscriber is attended to, a publication finds nothing out of order. -/
theorem path_distribute {hub : Hub} {event : CounterEvent} (h : hub.Attended event.topic) :
    hub.Path (hub.distribute event).2 := by
  have hall := path_deliverAll event (hub.subscriptions.handles event.topic)
    { recipients := (hub.subscriptions.handles event.topic).length, stale := [] }
    hub.countPublished fun n hn => (h n hn).2
  simp only [distribute, distributeTo, takeRecipients_of_attended h, List.foldl_nil]
  exact ((hub.path_countPublished.trans hall).trans (.single (.tally _ _ _ _))).trans
    (path_log _ _ _ _)

/-- A publication whose subscribers are all there goes by changes. -/
theorem path_publish {hub : Hub} {event : CounterEvent} (h : hub.Attended event.topic) :
    hub.Path (hub.publish event).2 :=
  ((path_distribute h).trans (path_foldl (fun hub n => path_closeFor hub n _) _ _)).trans
    (path_foldl (fun hub n => path_closeFor hub n _) _ _)

/-- What a client reads goes by changes. -/
theorem path_receive (hub : Hub) (n limit : Nat) : hub.Path (hub.receive n limit).2 := by
  unfold receive
  split
  · exact path_modify fun _ _ => .refl _
  · exact .refl

/-- Every operation that goes through the hub, does not panic, and finds all subscribers attended to
if it is a publication, is made of such changes after its outset. -/
theorem path_step {hub : Hub} {operation : Operation} (hregular : operation.isRegular = true)
    (hreturns : hub.panics operation = false)
    (hattended : ∀ event, operation = .publish event → hub.Attended event.topic) :
    (hub.outset operation).Path (hub.step operation) := by
  cases operation with
  | create | claim | release | subscribe | unsubscribe => simp [Operation.isRegular] at hregular
  | join topic id => exact path_join hreturns
  | connect topic id transport initial => exact path_connect hreturns
  | publish event => exact path_publish (hattended event rfl)
  | offer n event =>
    rw [step, offer_snd]
    exact path_modifySession fun session : Session => session.sameCourse_offer event
  | take n => exact path_modifySession Session.sameCourse_pop
  | close n reason => exact path_close hub n reason
  | closeFor n fault => exact path_closeFor hub n fault
  | closeLive n reason => exact path_closeLive hub n reason
  | clearTopic topic => exact path_clearTopic hub topic
  | sweep => exact path_sweep hub.beginStop
  | refresh n => exact path_modifySession fun session => session.sameCourse_refresh hub.now
  | noteWrite n => exact path_modifySession fun session => session.sameCourse_noteWrite hub.now
  | receive n limit => exact path_receive hub n limit
  | loseClient n => exact path_modify fun _ _ => .refl _
  | letGo n => exact path_modify fun _ _ => .refl _
  | pass millis => exact .refl
  | pollWatch n => exact path_pollWatch hub n
  | pollWriter n => exact path_pollWriter hub n
  | report level message fields => exact path_log hub level message fields
  | countHit => exact (reports_count hub .hits).path

/-! ## What changes leave alone -/

/-- The end of a session leaves policy, clock and flag as they are, and takes nothing back that was
counted. -/
theorem frame_retire (hub : Hub) (n : Nat) (reason : CloseReason) (fault : Option StreamFault) :
    (hub.retire n reason fault).2.policy = hub.policy ∧
      (hub.retire n reason fault).2.now = hub.now ∧
      (hub.retire n reason fault).2.stopping = hub.stopping ∧
      hub.metrics.Le (hub.retire n reason fault).2.metrics := by
  by_cases hclaimed : ∀ session, hub.session? n = some session → session.isClaimed = true
  · rw [retire_of_isClaimed hclaimed]
    exact ⟨rfl, rfl, rfl, .refl _⟩
  · simp only [not_forall, Bool.not_eq_true] at hclaimed
    obtain ⟨session, hs, hu⟩ := hclaimed
    obtain ⟨metrics, journal, hle, heq⟩ := (retire_of_unclaimed hs hu reason fault).2
    rw [heq]
    exact ⟨rfl, rfl, rfl, hle⟩

/-- Changes leave the policy, the clock and the signal to stop alone, and no metric falls. -/
theorem frame_path {hub later : Hub} (h : hub.Path later) :
    later.policy = hub.policy ∧ later.now = hub.now ∧ later.stopping = hub.stopping ∧
      hub.metrics.Le later.metrics := by
  induction h with
  | refl => exact ⟨rfl, rfl, rfl, .refl _⟩
  | @tail middle last _ hchange ih =>
    have hlast : last.policy = middle.policy ∧ last.now = middle.now ∧
        last.stopping = middle.stopping ∧ middle.metrics.Le last.metrics := by
      cases hchange with
      | report hreports =>
        obtain ⟨metrics, journal, hle, rfl⟩ := hreports
        exact ⟨rfl, rfl, rfl, hle⟩
      | retire n cause => exact frame_retire _ n _ _
      | tally | modify | enter => exact ⟨rfl, rfl, rfl, .refl _⟩
    exact ⟨hlast.1.trans ih.1, hlast.2.1.trans ih.2.1, hlast.2.2.1.trans ih.2.2.1,
      ih.2.2.2.trans hlast.2.2.2⟩

end LiveCounter.Hub
