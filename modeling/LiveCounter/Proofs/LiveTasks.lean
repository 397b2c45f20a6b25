import LiveCounter.Proofs.Punctuality

/-!
# The tasks of open sessions

A session is watched from its opening on, and served if it was opened for a client. Both tasks end
with the session: one that finds the session closing ends, and one that ends of its own accord closes
the session. So once all tasks have settled the live ones are those of the open sessions, and a
writer that is not in the middle of a write has nothing left to do.
-/

namespace LiveCounter

namespace Watch

/-- A watch that is still pending after a run was so before. -/
theorem isPending_of_run {policy : StreamPolicy} {watch : Watch} {session : Session} {clock : Clock}
    (h : (watch.run policy session clock).2.1.isPending = true) : watch.isPending = true := by
  cases watch with
  | absent | ended => cases h
  | spawned | ticking => rfl

/-- A watch goes on as long as it finds its session alive. -/
theorem isPending_run {policy : StreamPolicy} {watch : Watch} {session : Session} {clock : Clock}
    (h : watch.isPending = true) (hcancelled : session.cancelled = false)
    (hfinding : (watch.run policy session clock).1 ≠ .silent) :
    (watch.run policy session clock).2.1.isPending = true := by
  have hlook (last : Duration) (halive : (look policy session clock last).1 ≠ .silent) :
      (look policy session clock last).2.1.isPending = true := by
    unfold look at halive ⊢
    split at halive
    · exact absurd rfl halive
    · next hshort => rw [if_neg hshort]; rfl
  cases watch with
  | absent | ended => cases h
  | spawned =>
    simp only [run, hcancelled, Bool.false_eq_true, if_false] at hfinding ⊢
    exact hlook _ hfinding
  | ticking timer =>
    simp only [run, hcancelled, Bool.false_eq_true, if_false] at hfinding ⊢
    split at hfinding
    · next hdue =>
      rw [if_pos hdue]
      exact hlook _ hfinding
    · next hdue =>
      rw [if_neg hdue]
      rfl

end Watch

namespace Connection

/-- The tasks of the connection are as its session needs them. -/
structure Tended (connection : Connection) : Prop where
  /-- Whoever claims the closing cancels the tasks. -/
  cancelled : connection.session.cancelled = connection.session.isClaimed
  watched : connection.session.stage = .open → connection.watch.isPending = true
  manned : connection.Manned
  unwatched : connection.session.stage = .opening → connection.watch.isPending = false
  unserved : connection.session.stage = .opening → connection.service.isSome = false

/-- Claims and cancellations go together, whatever the move. -/
theorem cancelled_eq_move {connection : Connection}
    (h : connection.session.cancelled = connection.session.isClaimed) (move : Move) :
    (connection.move move).session.cancelled = (connection.move move).session.isClaimed := by
  cases hends : endsCourse move with
  | false =>
    have hsame := connection.sameCourse_move hends
    rw [hsame.cancelled, hsame.isClaimed, h]
  | true =>
    cases move with
    | close cause =>
      cases hclaimed : connection.session.isClaimed with
      | true => simp [Connection.move, withSession, Session.retired, hclaimed, h]
      | false =>
        simp only [Connection.move, withSession, Session.retired, hclaimed, Bool.false_eq_true,
          if_false]
        rfl
    | claim reason =>
      cases hclaimed : connection.session.isClaimed with
      | true => simp [Connection.move, withSession, hclaimed, h]
      | false =>
        simp only [Connection.move, withSession, hclaimed, Bool.false_eq_true, if_false]
        rfl
    | release => exact h
    | _ => cases hends

/-- Claims and cancellations go together, whatever the moves. -/
theorem cancelled_eq_after {connection : Connection}
    (h : connection.session.cancelled = connection.session.isClaimed) (moves : List Move) :
    (connection.after moves).session.cancelled = (connection.after moves).session.isClaimed :=
  after_induction (P := fun later => later.session.cancelled = later.session.isClaimed) h
    fun move _ _ hbefore => cancelled_eq_move hbefore move

/-- What a session becomes that is still opening, it has been all the time. -/
theorem opening_of_after {connection : Connection} {moves : List Move}
    (h : (connection.after moves).session.stage = .opening) :
    connection.session.stage = .opening := by
  rcases connection.stage_after moves with hsame | hclaimed
  · exact hsame.symm.trans h
  · simp [Session.isClaimed, h] at hclaimed

/-- A writer that runs stays in place. -/
theorem isSome_service_written (connection : Connection) (policy : StreamPolicy) (now : Nat) :
    (connection.written policy now).service.isSome = connection.service.isSome := by
  cases hservice : connection.service with
  | none => simp [written, hservice]
  | some service => rw [service_written hservice]; rfl

/-- A poll of the watch leaves the writer in place. -/
theorem isSome_service_polledWatch (connection : Connection) (policy : StreamPolicy) (now : Nat) :
    (connection.polledWatch policy now).service.isSome = connection.service.isSome :=
  (connection.undisturbed_polledWatch policy now).isSome_service

/-- A poll of the writer leaves it in place. -/
theorem isSome_service_polledWriter (connection : Connection) (policy : StreamPolicy) (now : Nat) :
    (connection.polledWriter policy now).service.isSome = connection.service.isSome :=
  (connection.undisturbed_polledWriter policy now).isSome_service.trans
    (connection.isSome_service_written policy now)

/-- A quiet move runs no writer. -/
theorem runsWriter_of_isQuiet {move : Move} (h : move.isQuiet = true) : runsWriter move = false := by
  cases move with
  | write => cases h
  | _ => rfl

/-- Quiet moves leave the tasks as the session needs them. -/
theorem Tended.quiet {connection : Connection} (h : connection.Tended) {move : Move}
    (hquiet : move.isQuiet = true) : (connection.move move).Tended := by
  have hsame := connection.undisturbed_move hquiet
  have hafter : connection.after [move] = connection.move move := rfl
  constructor
  case cancelled => exact cancelled_eq_move h.cancelled move
  case watched =>
    intro hopen
    rw [hsame.watch]
    exact h.watched (open_of_after (hafter.symm ▸ hopen))
  case manned => exact h.manned.move (runsWriter_of_isQuiet hquiet)
  case unwatched =>
    intro hopening
    rw [hsame.watch]
    exact h.unwatched (opening_of_after (hafter.symm ▸ hopening))
  case unserved =>
    intro hopening
    rw [hsame.isSome_service]
    exact h.unserved (opening_of_after (hafter.symm ▸ hopening))

/-- A watch that finds its session silent closes it, and ends only then or if it is cancelled. -/
theorem Tended.polledWatch {connection : Connection} (h : connection.Tended) (policy : StreamPolicy)
    (now : Nat) : (connection.polledWatch policy now).Tended := by
  have hwatch : (connection.polledWatch policy now).watch =
      (connection.watched policy now).watch :=
    (connection.undisturbed_polledWatch policy now).watch
  constructor
  case cancelled => exact cancelled_eq_after h.cancelled _
  case watched =>
    intro hopen
    have hbefore : connection.session.stage = .open := open_of_after hopen
    rw [hwatch]
    refine Watch.isPending_run (h.watched hbefore) ?_ fun hsilent => ?_
    · rw [h.cancelled, Session.isClaimed_of_open hbefore]
    · have hfinding : connection.watchFinding policy now = .silent := hsilent
      have hclaimed : (connection.polledWatch policy now).session.isClaimed = true := by
        simp only [Connection.polledWatch, watchMoves, hfinding]
        exact Session.isClaimed_retired _ _ _
      rw [Session.isClaimed_of_open hopen] at hclaimed
      cases hclaimed
  case manned =>
    refine h.manned.after fun move hmem => ?_
    rcases List.mem_cons.mp hmem with rfl | hmem
    · rfl
    · split at hmem
      · simp at hmem
      · simp at hmem
      · rw [List.mem_singleton.mp hmem]
        rfl
  case unwatched =>
    intro hopening
    have hbefore := h.unwatched (opening_of_after hopening)
    rw [hwatch, ← Bool.not_eq_true]
    exact fun hpending => by simp [Watch.isPending_of_run hpending] at hbefore
  case unserved =>
    intro hopening
    rw [isSome_service_polledWatch]
    exact h.unserved (opening_of_after hopening)

/-- A writer closes its session when it ends. -/
theorem Tended.polledWriter {connection : Connection} (h : connection.Tended)
    (policy : StreamPolicy) (now : Nat) : (connection.polledWriter policy now).Tended where
  cancelled := cancelled_eq_after h.cancelled _
  watched hopen := by
    rw [watch_polledWriter]
    exact h.watched (open_of_after hopen)
  manned := h.manned.write policy now
  unwatched hopening := by
    rw [watch_polledWriter]
    exact h.unwatched (opening_of_after hopening)
  unserved hopening := by
    rw [isSome_service_polledWriter]
    exact h.unserved (opening_of_after hopening)

/-! ## Tasks at rest -/

/-- A session with its tasks in order is open when it is neither cancelled nor opening. -/
theorem Tended.open_iff {connection : Connection} (h : connection.Tended) :
    connection.session.stage = .open ↔
      connection.session.cancelled = false ∧ connection.session.stage ≠ .opening := by
  rw [h.cancelled]
  cases hstage : connection.session.stage <;> simp [Session.isClaimed, hstage]

/-- A watch at rest lives exactly as long as its session is open. -/
theorem Tended.isPending_iff {connection : Connection} (h : connection.Tended) {now : Nat}
    (hrest : connection.AtRest now) :
    connection.watch.isPending = true ↔ connection.session.stage = .open := by
  refine ⟨fun hpending => h.open_iff.mpr ⟨?_, fun hopening => ?_⟩, h.watched⟩
  · by_contra hcancelled
    have hended := hrest.watch.isPending_eq_false (by simpa using hcancelled)
    simp [hended] at hpending
  · simp [h.unwatched hopening] at hpending

/-- A writer at rest lives exactly as long as its session is open. -/
theorem Tended.writerRuns_iff {connection : Connection} (h : connection.Tended) {now : Nat}
    (hrest : connection.AtRest now) :
    connection.writerRuns = true ↔
      connection.session.stage = .open ∧ connection.service.isSome = true := by
  unfold writerRuns
  cases hservice : connection.service with
  | none => simp
  | some service =>
    simp only [Option.elim_some, bne_iff_ne, ne_eq, Option.isSome_some, and_true]
    constructor
    · intro hphase
      refine h.open_iff.mpr ⟨?_, fun hopening => ?_⟩
      · by_contra hcancelled
        exact hphase ((hrest.writer service hservice).ended (by simpa [desk] using hcancelled))
      · simpa [hservice] using h.unserved hopening
    · intro hopen hphase
      have hclaimed := h.manned service hservice hphase
      rw [Session.isClaimed_of_open hopen] at hclaimed
      cases hclaimed

/-- At rest an open session has its watch, and its writer if a client is served. -/
theorem Tended.liveTasks_eq {connection : Connection} (h : connection.Tended) {now : Nat}
    (hrest : connection.AtRest now) :
    connection.liveTasks = connection.session.isOpen.toNat +
      (connection.session.isOpen && connection.service.isSome).toNat := by
  have hwatch : connection.watch.isPending = connection.session.isOpen := by
    rw [Bool.eq_iff_iff, h.isPending_iff hrest]
    simp [Session.isOpen]
  have hwriter : connection.writerRuns =
      (connection.session.isOpen && connection.service.isSome) := by
    rw [Bool.eq_iff_iff, h.writerRuns_iff hrest]
    simp [Session.isOpen]
  rw [liveTasks, hwatch, hwriter]

end Connection

namespace Writer

/-- A writer that waits for an event has none, and its client is there. -/
theorem Rests.waits {desk : Desk} {phase : Phase} (h : Rests desk phase) (hphase : phase ≠ .ended)
    (hwrite : ∀ write, phase ≠ .writing write) :
    desk.session.outbox.items = [] ∧ desk.client.gone = false := by
  cases phase with
  | spawned => cases h
  | ended => exact absurd rfl hphase
  | waiting keepalive => exact ⟨Idle.items h, Idle.gone h⟩
  | writing write => exact absurd rfl (hwrite write)

end Writer

namespace Hub

/-- Tasks stay as their sessions need them in every run. -/
theorem lasting_tended (policy : StreamPolicy) :
    Lasting policy fun _ connection => connection.Tended where
  watched now _ h := h.polledWatch policy now
  served now _ h := h.polledWriter policy now
  refreshed _ _ h :=
    ⟨h.cancelled, h.watched, h.manned.move rfl, h.unwatched, h.unserved⟩
  noted _ _ h :=
    ⟨h.cancelled, h.watched, h.manned.move rfl, h.unwatched, h.unserved⟩
  quiet _ _ _ hquiet h := h.quiet hquiet

/-- A session is added with the tasks it needs. -/
theorem tended_of_arrives {hub : Hub} {operation : Operation} {connection : Connection}
    (h : hub.Arrives operation connection) : connection.Tended := by
  have hnewcomer (topic : Topic) (id : SessionId) : (hub.newcomer topic id).Tended :=
    ⟨rfl, fun _ => rfl, fun _ hservice => by (cases hservice), by simp [newcomer],
      by simp [newcomer]⟩
  cases h with
  | joined topic id => exact hnewcomer topic id
  | accepted topic id transport initial _ =>
    have hsame := (hub.newcomer topic id).session.sameCourse_greeted topic initial
    have hopen : ((hub.newcomer topic id).session.greeted topic initial).stage = .open := hsame.stage
    refine ⟨hsame.cancelled.trans hsame.isClaimed.symm, fun _ => rfl, ?_, ?_, ?_⟩
    · intro service hservice hphase
      obtain rfl := Option.some.inj hservice
      cases hphase
    · intro hopening
      cases hopen.symm.trans hopening
    · intro hopening
      cases hopen.symm.trans hopening
  | created topic capacity id =>
    exact ⟨rfl, fun hopen => by (cases hopen), fun _ hservice => by (cases hservice), fun _ => rfl,
      fun _ => rfl⟩

/-- In every run from the start the tasks are as the sessions need them. -/
theorem tended_run (policy : StreamPolicy) (operations : List Operation) :
    ∀ connection ∈ ((Hub.new policy).run operations).connections, connection.Tended :=
  (lasting_tended _).run (fun _ _ _ _ h => h) (fun _ _ _ _ h => tended_of_arrives h)
    (by simp [Hub.new]) operations

/-! ## Sessions that are served -/

/-- The number that an operation returns for a session that it has accepted a client with. -/
def accepted (hub : Hub) : Operation → List Nat
  | .connect topic id transport initial =>
    (hub.connect topic id transport.client initial).1.toOption.toList
  | _ => []

/-- Whether a session has a writer does not change. -/
theorem lasting_isSome_service (policy : StreamPolicy) (isSome : Bool) :
    Lasting policy fun _ connection => connection.service.isSome = isSome where
  watched now connection h := (connection.isSome_service_polledWatch policy now).trans h
  served now connection h := (connection.isSome_service_polledWriter policy now).trans h
  refreshed _ _ h := h
  noted _ _ h := h
  quiet _ connection _ hquiet h := (connection.undisturbed_move hquiet).isSome_service.trans h

/-- The session of the number has a writer, running or ended. -/
def Serves (hub : Hub) (n : Nat) : Prop :=
  ∃ connection, hub.connections[n]? = some connection ∧ connection.service.isSome = true

/-- Only a session that was created is served. -/
theorem Serves.lt_length {hub : Hub} {n : Nat} (h : hub.Serves n) : n < hub.connections.length := by
  obtain ⟨connection, hconnection, -⟩ := h
  exact (List.getElem?_eq_some_iff.mp hconnection).1

/-- A number that is returned is the next one, and its session is served. -/
theorem serves_of_mem_accepted {hub : Hub} {operation : Operation} {n : Nat}
    (h : n ∈ hub.accepted operation) :
    n = hub.connections.length ∧ (hub.step operation).Serves n := by
  cases operation with
  | connect topic id transport initial =>
    simp only [accepted] at h
    cases hub.connectCase topic id transport.client initial with
    | stopping _ hanswer => simp [hanswer, Except.toOption] at h
    | full _ hanswer => simp [hanswer, Except.toOption] at h
    | panicked _ hanswer => simp [hanswer, Except.toOption] at h
    | admitted _ hanswer hconnections =>
      obtain rfl : n = hub.connections.length := by simpa [hanswer, Except.toOption] using h
      refine ⟨rfl, hub.welcomed topic id transport.client initial, ?_, rfl⟩
      rw [step, hconnections, List.getElem?_concat_length]
  | _ => simp [accepted] at h

/-- A session is served if it was before, or has been accepted with a client just now. -/
theorem serves_step (hub : Hub) (operation : Operation) (n : Nat) :
    (hub.step operation).Serves n ↔ hub.Serves n ∨ n ∈ hub.accepted operation := by
  constructor
  · rintro ⟨later, hlater, hsome⟩
    cases hbefore : hub.connections[n]? with
    | some before =>
      have hlt := (List.getElem?_eq_some_iff.mp hbefore).1
      have hsame := (lasting_isSome_service hub.policy before.service.isSome).step hlater
        (fun heq => absurd heq (Nat.ne_of_lt hlt)) fun found hfound => by
          rw [← Option.some.inj (hbefore.symm.trans hfound)]
      exact Or.inl ⟨before, hbefore, hsame.symm.trans hsome⟩
    | none =>
      obtain ⟨rfl, harrives⟩ := arrives_step hbefore hlater
      cases harrives with
      | joined => simp [newcomer] at hsome
      | accepted topic id transport initial hanswer =>
        exact Or.inr (by simp [accepted, hanswer, Except.toOption])
      | created => simp at hsome
  · rintro (⟨before, hbefore, hsome⟩ | haccepted)
    · have hlater := connections_step hbefore operation
      refine ⟨_, hlater, ?_⟩
      refine (lasting_isSome_service hub.policy true).step hlater (fun heq => ?_) fun found hfound => ?_
      · exact absurd heq (Nat.ne_of_lt (List.getElem?_eq_some_iff.mp hbefore).1)
      · rwa [← Option.some.inj (hbefore.symm.trans hfound)]
    · exact (serves_of_mem_accepted haccepted).2

/-- The sessions that are served are those that a run has accepted with a client. -/
theorem mem_accepted_run (policy : StreamPolicy) (operations : List Operation) (n : Nat) :
    n ∈ history accepted (Hub.new policy) operations ↔
      ((Hub.new policy).run operations).Serves n := by
  induction operations using List.reverseRecOn with
  | nil => simp [history, Serves, Hub.new]
  | append_singleton operations operation ih =>
    rw [history_append, run_append, List.mem_append, ih]
    simp only [history, List.append_nil, run_cons, run_nil, serves_step]

/-- No session is accepted twice. -/
theorem nodup_accepted_run (policy : StreamPolicy) (operations : List Operation) :
    (history accepted (Hub.new policy) operations).Nodup := by
  induction operations using List.reverseRecOn with
  | nil => exact List.nodup_nil
  | append_singleton operations operation ih =>
    rw [history_append, List.nodup_append]
    refine ⟨ih, ?_, fun n hn m hm heq => ?_⟩
    · simp only [history, List.append_nil]
      cases operation with
      | connect topic id transport initial => exact Option.toList_nodup _
      | _ => exact List.nodup_nil
    · simp only [history, List.append_nil] at hm
      have hlt := ((mem_accepted_run policy operations n).mp hn).lt_length
      have hlast := (serves_of_mem_accepted hm).1
      omega

/-! ## Counting -/

/-- Where the tasks are at rest the live ones can be counted by the sessions. -/
theorem liveTasks_of_atRest {hub : Hub}
    (htended : ∀ connection ∈ hub.connections, connection.Tended)
    (hrest : ∀ connection ∈ hub.connections, connection.AtRest hub.now) :
    hub.liveTasks = hub.openConnections.length +
      (hub.openConnections.filter (·.service.isSome)).length := by
  rw [liveTasks, openConnections]
  revert htended hrest
  generalize hub.now = now
  generalize hub.connections = connections
  intro htended hrest
  induction connections with
  | nil => rfl
  | cons connection rest ih =>
    have hfirst := (htended connection List.mem_cons_self).liveTasks_eq
      (hrest connection List.mem_cons_self)
    have hrests := ih (fun other hother => htended other (List.mem_cons_of_mem _ hother))
      fun other hother => hrest other (List.mem_cons_of_mem _ hother)
    rw [List.map_cons, List.foldr_cons, hrests, hfirst, List.filter_cons]
    cases hopen : connection.session.isOpen with
    | false => simp
    | true =>
      cases hsome : connection.service.isSome with
      | false =>
        simp only [if_true, List.length_cons, List.filter_cons, hsome, Bool.toNat_true,
          Bool.and_false, Bool.toNat_false, Bool.false_eq_true, if_false]
        omega
      | true =>
        simp only [if_true, List.length_cons, List.filter_cons, hsome, Bool.toNat_true,
          Bool.and_true]
        omega

/-- The open sessions that are served are the accepted ones that are open. -/
theorem length_open_served (policy : StreamPolicy) (operations : List Operation) :
    (((Hub.new policy).run operations).openConnections.filter (·.service.isSome)).length =
      ((history accepted (Hub.new policy) operations).filter fun n =>
        (((Hub.new policy).run operations).session? n).any (·.isOpen)).length := by
  have haccepted := mem_accepted_run policy operations
  have hnodup := nodup_accepted_run policy operations
  revert haccepted hnodup
  generalize history accepted (Hub.new policy) operations = numbers
  generalize (Hub.new policy).run operations = hub
  intro haccepted hnodup
  rw [openConnections, List.filter_filter, length_filter_eq_places]
  apply length_eq_of_nodup (List.nodup_range.filter _) (hnodup.filter _)
  intro n
  rw [List.mem_filter, List.mem_filter, List.mem_range, haccepted]
  constructor
  · rintro ⟨hlt, hany⟩
    simp only [List.getElem?_eq_getElem hlt, Option.any_some, Bool.and_eq_true] at hany
    refine ⟨⟨_, List.getElem?_eq_getElem hlt, hany.1⟩, ?_⟩
    simp [session?, List.getElem?_eq_getElem hlt, hany.2]
  · rintro ⟨⟨connection, hconnection, hsome⟩, hopen⟩
    refine ⟨(List.getElem?_eq_some_iff.mp hconnection).1, ?_⟩
    simp only [session?, hconnection, Option.map_some, Option.any_some] at hopen
    simp [hconnection, hsome, hopen]

/-- When no task can go on before time passes, whatever the run has been, a session is watched
exactly if it is open, and has a live writer exactly if it is open and was accepted with a client. So
these are all the tasks that are left. A live writer that is not in the middle of a write has an
empty outbox and a client that has not gone. -/
theorem tasks_end_with_their_sessions (policy : StreamPolicy) (operations : List Operation)
    (hsettled : ((Hub.new policy).run operations).Settled) :
    let hub := (Hub.new policy).run operations
    let accepted := history accepted (Hub.new policy) operations
    (∀ (n : Nat) (connection : Connection), hub.connections[n]? = some connection →
      (connection.watch.isPending = true ↔ connection.session.stage = .open) ∧
      (connection.writerRuns = true ↔ connection.session.stage = .open ∧ n ∈ accepted) ∧
      ∀ service, connection.service = some service → service.phase ≠ .ended →
        (∀ write, service.phase ≠ .writing write) →
        connection.session.outbox.items = [] ∧ service.client.gone = false) ∧
      hub.stats.liveTasks = hub.openConnections.length +
        (accepted.filter fun n => (hub.session? n).any (·.isOpen)).length := by
  intro hub accepted
  have htended := tended_run policy operations
  have hrest := (settled_iff (usable_run policy operations)).mp hsettled
  refine ⟨fun n connection hconnection => ?_, ?_⟩
  · have hmem := List.mem_of_getElem? hconnection
    have htend := htended connection hmem
    have hresting := hrest connection hmem
    have hserved : n ∈ accepted ↔ connection.service.isSome = true := by
      rw [mem_accepted_run policy operations n]
      refine ⟨?_, fun hsome => ⟨connection, hconnection, hsome⟩⟩
      rintro ⟨found, hfound, hsome⟩
      rwa [Option.some.inj (hconnection.symm.trans hfound)]
    refine ⟨htend.isPending_iff hresting, ?_, fun service hservice hphase hwrite => ?_⟩
    · rw [hserved]
      exact htend.writerRuns_iff hresting
    · exact (hresting.writer service hservice).waits hphase hwrite
  · rw [show hub.stats.liveTasks = hub.liveTasks from rfl, liveTasks_of_atRest htended hrest,
      length_open_served]

/-- One session that was closed, one that is only watched, and one whose client does not read. -/
theorem tasks_end_with_their_sessions_after_close :
    let hub := (Hub.new .default).run [.connect (.random 0) ⟨0⟩ (.channel 1) none,
      .join (.random 1) ⟨1⟩, .connect (.random 0) ⟨2⟩ (.channel 1) (some 5), .pollWatch 0,
      .pollWriter 0, .pollWatch 1, .pollWatch 2, .pollWriter 2, .close 0 .explicit, .pollWatch 0,
      .pollWriter 0]
    hub.Settled ∧ hub.stats.liveTasks = 3 := by
  intro hub
  have hsettled : hub.Settled := by decide +kernel
  refine ⟨hsettled, ?_⟩
  obtain ⟨-, hlive⟩ := tasks_end_with_their_sessions .default _ hsettled
  exact hlive.trans (by decide +kernel)

end Hub

end LiveCounter
