import LiveCounter.Proofs.Moves

/-!
# A session closes once

Many things ask for a session to close, in any order and some of them twice. The first one that
asks claims the session; its reason and its error are the ones that are kept, and later requests
find nothing to do.
-/

namespace LiveCounter

namespace Session

/-- Nobody has asked for the session to close, and nothing is written down about that. -/
structure IsFresh (session : Session) : Prop where
  unclaimed : session.isClaimed = false
  reason : session.reason = none
  failure : session.failure = none

/-- The session stands as the given requests for it to close, in turn, have left it: the first one
has claimed it. -/
structure ClosedBy (session : Session) (causes : List Cause) : Prop where
  claimed : session.isClaimed = true ↔ causes ≠ []
  reason : session.reason = causes.head?.map (·.reason)
  failure : session.failure = causes.head?.bind (·.failure)

/-- A session that gets no further is claimed exactly if it was before. -/
theorem SameCourse.isClaimed {before after : Session} (h : before.SameCourse after) :
    after.isClaimed = before.isClaimed := by
  simp only [Session.isClaimed, h.stage]

/-- A fresh session that gets no further is fresh. -/
theorem IsFresh.sameCourse {before after : Session} (h : before.IsFresh)
    (hsame : before.SameCourse after) : after.IsFresh :=
  ⟨hsame.isClaimed.trans h.unclaimed, hsame.reason.trans h.reason, hsame.failure.trans h.failure⟩

/-- Nobody has asked a fresh session to close. -/
theorem IsFresh.closedBy {session : Session} (h : session.IsFresh) : session.ClosedBy [] :=
  ⟨by simp [h.unclaimed], h.reason, h.failure⟩

/-- What gets no further stands as the same requests have left it. -/
theorem ClosedBy.sameCourse {before after : Session} {causes : List Cause}
    (h : before.ClosedBy causes) (hsame : before.SameCourse after) : after.ClosedBy causes :=
  ⟨hsame.isClaimed ▸ h.claimed, hsame.reason.trans h.reason, hsame.failure.trans h.failure⟩

/-- Later requests change nothing about a session that has been claimed. -/
theorem ClosedBy.append {session : Session} {causes : List Cause} (h : session.ClosedBy causes)
    (hclaimed : session.isClaimed = true) (more : List Cause) : session.ClosedBy (causes ++ more) := by
  obtain ⟨first, rest, rfl⟩ := List.exists_cons_of_ne_nil (h.claimed.mp hclaimed)
  exact ⟨by simp [hclaimed], h.reason, h.failure⟩

/-- The first request finds a session about which nothing is written down yet. -/
theorem ClosedBy.isFresh {session : Session} {causes : List Cause} (h : session.ClosedBy causes)
    (hclaimed : ¬ session.isClaimed = true) : causes = [] ∧ session.IsFresh := by
  have hnil : causes = [] := by
    by_contra hne
    exact hclaimed (h.claimed.mpr hne)
  subst hnil
  exact ⟨rfl, by simpa using hclaimed, h.reason, h.failure⟩

/-- The first request that ends a session is the one that is kept. -/
theorem IsFresh.retired {session : Session} (h : session.IsFresh) (cause : Cause) :
    (session.retired cause.reason cause.failure).ClosedBy [cause] := by
  have hunclaimed : ¬ session.isClaimed = true := by simp [h.unclaimed]
  refine ⟨by simp, ?_, ?_⟩
  · simp [Session.retired, hunclaimed, h.reason]
  · simp [Session.retired, hunclaimed, h.failure]

/-- The first request that only claims a session is kept too. -/
theorem IsFresh.claimedFor {session : Session} (h : session.IsFresh) (reason : CloseReason) :
    (session.claimedFor reason).ClosedBy [.plain reason] := by
  refine ⟨by simp [Session.claimedFor, isClaimed], ?_, ?_⟩
  · simp [Session.claimedFor, h.reason, Cause.reason]
  · simp [Session.claimedFor, h.failure, Cause.failure]

/-- An error is only kept with the reason that it leads to. -/
theorem ClosedBy.reason_of_failure {session : Session} {causes : List Cause}
    (h : session.ClosedBy causes) {fault : StreamFault} (hfault : session.failure = some fault) :
    session.reason = some (.ofError fault) := by
  obtain ⟨cause, hcause, hfailure⟩ := Option.bind_eq_some_iff.mp (h.failure ▸ hfault)
  rw [h.reason, hcause, Option.map_some, Cause.reason_of_failure hfailure]

/-- The first event, if there is one, does not take a session further. -/
theorem sameCourse_greeted (session : Session) (topic : Topic) (initial : Option Int64) :
    session.SameCourse (session.greeted topic initial) := by
  cases initial with
  | none => exact .refl session
  | some value => exact session.sameCourse_offer _

end Session

namespace Connection

open Session (ClosedBy)

/-- A move asks for a close at most once, and leaves the session as the requests so far and its own
do. -/
theorem closedBy_move {connection : Connection} {causes : List Cause}
    (h : connection.session.ClosedBy causes) (move : Move) :
    (connection.move move).session.ClosedBy (causes ++ move.cause?.toList) := by
  cases hends : endsCourse move with
  | false =>
    have hnone : move.cause? = none := by cases move <;> simp [endsCourse] at hends <;> rfl
    rw [hnone, Option.toList_none, List.append_nil]
    exact h.sameCourse (connection.sameCourse_move hends)
  | true =>
    by_cases hclaimed : connection.session.isClaimed = true
    · cases move with
      | close cause =>
        simpa [Connection.move, withSession, Session.retired_of_isClaimed hclaimed, Move.cause?] using
          h.append hclaimed [cause]
      | claim reason =>
        simpa [Connection.move, withSession, hclaimed, Move.cause?] using
          h.append hclaimed [.plain reason]
      | release => simpa [Move.cause?] using ⟨h.claimed, h.reason, h.failure⟩
      | _ => simp [endsCourse] at hends
    · cases move with
      | close cause =>
        obtain ⟨rfl, hfresh⟩ := h.isFresh hclaimed
        exact hfresh.retired cause
      | claim reason =>
        obtain ⟨rfl, hfresh⟩ := h.isFresh hclaimed
        simpa [Connection.move, withSession, hclaimed, Move.cause?] using hfresh.claimedFor reason
      | release => simpa [Move.cause?] using ⟨h.claimed, h.reason, h.failure⟩
      | _ => simp [endsCourse] at hends

/-- Several moves leave the session as their requests do. -/
theorem closedBy_after {connection : Connection} {causes : List Cause}
    (h : connection.session.ClosedBy causes) (moves : List Move) :
    (connection.after moves).session.ClosedBy (causes ++ moves.filterMap Move.cause?) := by
  induction moves generalizing connection causes with
  | nil => simpa using h
  | cons move rest ih =>
    have hrest := ih (closedBy_move h move)
    rw [List.append_assoc] at hrest
    cases hcause : move.cause? <;> simpa [hcause] using hrest

/-- No move takes a session back to an earlier stage. -/
theorem rank_move (connection : Connection) (move : Move) :
    connection.session.stage.rank ≤ (connection.move move).session.stage.rank := by
  cases hends : endsCourse move with
  | false =>
    exact Nat.le_of_eq (congrArg SessionStage.rank (connection.sameCourse_move hends).stage.symm)
  | true =>
    cases move with
    | close cause =>
      simp only [Connection.move, withSession, Session.retired]
      split
      · exact Nat.le_refl _
      · cases connection.session.stage <;> simp [SessionStage.rank]
    | claim reason =>
      simp only [Connection.move, withSession]
      split
      · exact Nat.le_refl _
      · next hclaimed =>
        cases hstage : connection.session.stage <;>
          simp [Session.isClaimed, hstage] at hclaimed <;> simp [Session.claimedFor, SessionStage.rank]
    | release => exact Nat.le_refl _
    | _ => simp [endsCourse] at hends

/-- Nor do several moves. -/
theorem rank_after (connection : Connection) (moves : List Move) :
    connection.session.stage.rank ≤ (connection.after moves).session.stage.rank := by
  induction moves generalizing connection with
  | nil => exact Nat.le_refl _
  | cons move rest ih => exact Nat.le_trans (connection.rank_move move) (ih _)

end Connection

namespace Hub

/-- The requests by which an operation asks a session to close, in turn. -/
def causes (n : Nat) (hub : Hub) (operation : Operation) : List Cause :=
  if n < hub.connections.length then (hub.moves n operation).filterMap Move.cause? else []

/-- The operation, if it is the one that claims the session. -/
def claimings (n : Nat) (hub : Hub) (operation : Operation) : List Operation :=
  match hub.session? n, (hub.step operation).session? n with
  | some before, some after =>
    if ¬ before.isClaimed ∧ after.isClaimed then [operation] else []
  | _, _ => []

/-- A session that an operation adds is a fresh one. -/
theorem Arrives.isFresh {hub : Hub} {operation : Operation} {connection : Connection}
    (h : hub.Arrives operation connection) : connection.session.IsFresh := by
  cases h with
  | joined | created => exact ⟨rfl, rfl, rfl⟩
  | accepted topic id transport initial _ =>
    have hfresh : (hub.newcomer topic id).session.IsFresh := ⟨rfl, rfl, rfl⟩
    exact hfresh.sameCourse ((hub.newcomer topic id).session.sameCourse_greeted topic initial)

/-- Every session stands as the requests so far have left it, and nobody has asked a session to
close that does not exist yet. -/
def Closings (requests : Nat → List Cause) (hub : Hub) : Prop :=
  ∀ n, match hub.session? n with
    | some session => session.ClosedBy (requests n)
    | none => requests n = []

/-- Each operation adds its requests to those so far. -/
theorem Closings.step {requests : Nat → List Cause} {hub : Hub} (h : hub.Closings requests)
    (operation : Operation) :
    (hub.step operation).Closings fun n => requests n ++ causes n hub operation := by
  intro n
  have hn := h n
  cases hconnection : hub.connections[n]? with
  | some connection =>
    have hlength : n < hub.connections.length := (List.getElem?_eq_some_iff.mp hconnection).1
    simp only [session?, connections_step hconnection, hconnection, Option.map_some, causes,
      if_pos hlength] at hn ⊢
    exact Connection.closedBy_after hn _
  | none =>
    have hlength : ¬ n < hub.connections.length := by simpa using hconnection
    simp only [session?, hconnection, Option.map_none, causes, if_neg hlength,
      List.append_nil] at hn ⊢
    cases hlater : (hub.step operation).connections[n]? with
    | none => exact hn
    | some later =>
      rw [hn]
      exact (arrives_step hconnection hlater).2.isFresh.closedBy

/-- So does a run. -/
theorem Closings.run {requests : Nat → List Cause} {hub : Hub} (h : hub.Closings requests)
    (operations : List Operation) :
    (hub.run operations).Closings fun n => requests n ++ history (causes n) hub operations := by
  induction operations generalizing hub requests with
  | nil => simpa [history] using h
  | cons operation rest ih => simpa [history] using ih (h.step operation)

/-- In a run from the start, every session stands as the requests of the run have left it. -/
theorem closings_run (policy : StreamPolicy) (operations : List Operation) :
    ((Hub.new policy).run operations).Closings fun n =>
      history (causes n) (Hub.new policy) operations := by
  have hnew : (Hub.new policy).Closings fun _ => [] := fun n => by simp [session?, Hub.new]
  exact hnew.run operations

/-- Nothing is written down about the closing of a session that nobody has claimed. -/
theorem isFresh_run {policy : StreamPolicy} {operations : List Operation} {n : Nat}
    {session : Session} (hs : ((Hub.new policy).run operations).session? n = some session)
    (hunclaimed : session.isClaimed = false) : session.IsFresh := by
  have hstands := closings_run policy operations n
  rw [hs] at hstands
  exact (hstands.isFresh (by simp [hunclaimed])).2

/-- A session lives on through a run, and never goes back to an earlier stage. -/
theorem rank_run {hub : Hub} {n : Nat} {session : Session} (h : hub.session? n = some session)
    (operations : List Operation) :
    ∃ later, (hub.run operations).session? n = some later ∧
      session.stage.rank ≤ later.stage.rank := by
  obtain ⟨connection, hconnection, rfl⟩ := connection_of_session? h
  obtain ⟨moves, hlater⟩ := connections_run hconnection operations
  exact ⟨_, by rw [session?, hlater, Option.map_some], connection.rank_after moves⟩

/-- A session is claimed from the stage of draining on. -/
theorem isClaimed_iff_rank (session : Session) :
    session.isClaimed = true ↔ 2 ≤ session.stage.rank := by
  cases hstage : session.stage <;> simp [Session.isClaimed, hstage, SessionStage.rank]

/-- Once a session is claimed no operation claims it. -/
theorem claimings_of_isClaimed {hub : Hub} {n : Nat} {session : Session}
    (h : hub.session? n = some session) (hclaimed : session.isClaimed = true)
    (operations : List Operation) : history (claimings n) hub operations = [] := by
  induction operations generalizing hub session with
  | nil => rfl
  | cons operation rest ih =>
    obtain ⟨later, hlater, hle⟩ := rank_run h [operation]
    have hlater' : later.isClaimed = true :=
      (isClaimed_iff_rank later).mpr (Nat.le_trans ((isClaimed_iff_rank session).mp hclaimed) hle)
    have hnone : claimings n hub operation = [] := by
      simp only [claimings, h]
      cases (hub.step operation).session? n <;> simp [hclaimed]
    rw [history, hnone, List.nil_append]
    exact ih hlater hlater'

/-- An operation that claims a session leaves it claimed. -/
theorem claimings_cases (hub : Hub) (n : Nat) (operation : Operation) :
    claimings n hub operation = [] ∨ claimings n hub operation = [operation] ∧
      ∃ session, (hub.step operation).session? n = some session ∧ session.isClaimed = true := by
  unfold claimings
  split
  · next before after hbefore hafter =>
    split
    · next hclaims => exact Or.inr ⟨rfl, after, hafter, hclaims.2⟩
    · exact Or.inl rfl
  · exact Or.inl rfl

/-- At most one operation of a run claims a session. -/
theorem length_claimings_le_one (hub : Hub) (n : Nat) (operations : List Operation) :
    (history (claimings n) hub operations).length ≤ 1 := by
  induction operations generalizing hub with
  | nil => exact Nat.zero_le _
  | cons operation rest ih =>
    rw [history]
    rcases claimings_cases hub n operation with hnone | ⟨hone, session, hs, hclaimed⟩
    · rw [hnone]
      exact ih (hub.step operation)
    · rw [hone, claimings_of_isClaimed hs hclaimed rest]
      exact Nat.le_refl _

/-- Among all the requests that reach a session, in any order and number, at most one claims it, and
it is the first: its reason and its error are kept for good, and an error only together with the
reason that it leads to. The stage of the session never goes back, and every later close finds it
closed and leaves the whole hub as it was. -/
theorem closing_happens_once (policy : StreamPolicy) (operations more : List Operation) (n : Nat)
    (session : Session) (h : ((Hub.new policy).run operations).session? n = some session) :
    let hub := (Hub.new policy).run operations
    let requests := history (causes n) (Hub.new policy) operations
    (history (claimings n) (Hub.new policy) operations).length ≤ 1 ∧
      (session.isClaimed = true ↔ requests ≠ []) ∧
      session.reason = requests.head?.map (·.reason) ∧
      session.failure = requests.head?.bind (·.failure) ∧
      (∀ fault, session.failure = some fault → session.reason = some (.ofError fault)) ∧
      (∃ later, (hub.run more).session? n = some later ∧
        session.stage.rank ≤ later.stage.rank ∧
        (session.isClaimed = true →
          later.reason = session.reason ∧ later.failure = session.failure)) ∧
      (session.isClaimed = true →
        (∀ reason, hub.close n reason = (.alreadyClosed, hub)) ∧
        (∀ fault, hub.closeFor n fault = (.alreadyClosed, hub)) ∧
        ∀ reason, hub.closeLive n reason = (.alreadyClosed, hub)) := by
  intro hub requests
  have hclosed : session.ClosedBy requests := by
    have hall := closings_run policy operations n
    rwa [h] at hall
  obtain ⟨later, hlater, hrank⟩ := rank_run h more
  refine ⟨length_claimings_le_one _ n operations, hclosed.claimed, hclosed.reason, hclosed.failure,
    fun fault hfault => hclosed.reason_of_failure hfault, ⟨later, hlater, hrank, ?_⟩, ?_⟩
  · intro hclaimed
    have hall := closings_run policy (operations ++ more) n
    rw [run_append, hlater] at hall
    simp only [history_append] at hall
    have hkept := hclosed.append hclaimed (history (causes n) hub more)
    exact ⟨hall.reason.trans hkept.reason.symm, hall.failure.trans hkept.failure.symm⟩
  · intro hclaimed
    have hretire (reason : CloseReason) (fault : Option StreamFault) :
        hub.retire n reason fault = (.alreadyClosed, hub) :=
      retire_of_isClaimed (fun session' h' => Option.some.inj (h.symm.trans h') ▸ hclaimed) reason
        fault
    refine ⟨fun reason => hretire reason none, fun fault => hretire _ (some fault), fun reason => ?_⟩
    unfold closeLive
    split
    · exact hretire reason none
    · rfl

/-- A session that fails and is closed twice afterwards keeps its failure. -/
theorem closing_happens_once_of_failure :
    ∃ session, ((Hub.new .default).run [.join (.random 0) ⟨0⟩, .closeFor 0 .backpressureDrop,
        .close 0 .explicit, .closeLive 0 .shutdown]).session? 0 = some session ∧
      session.isClaimed = true ∧ session.reason = some .backpressure ∧
      session.failure = some .backpressureDrop := by
  obtain ⟨session, h⟩ := Option.isSome_iff_exists.mp
    (show (((Hub.new .default).run [.join (.random 0) ⟨0⟩, .closeFor 0 .backpressureDrop,
        .close 0 .explicit, .closeLive 0 .shutdown]).session? 0).isSome = true by decide +kernel)
  have hrequests : history (causes 0) (Hub.new .default) [.join (.random 0) ⟨0⟩,
      .closeFor 0 .backpressureDrop, .close 0 .explicit, .closeLive 0 .shutdown] =
        [.error .backpressureDrop, .plain .explicit] := by decide +kernel
  obtain ⟨-, hclaimed, hreason, hfailure, -⟩ :=
    closing_happens_once .default _ [] 0 session h
  rw [hrequests] at hclaimed hreason hfailure
  exact ⟨session, h, hclaimed.mpr (by simp), hreason, hfailure⟩

end Hub

end LiveCounter
