import LiveCounter.Proofs.Following

/-!
# Where reasons come from

A writer that ends in order repeats the reason that the session states, and the hub closes sessions
of its own accord for reasons of its own. So a session that was closed for silence was found silent
by its watch, or a caller has given that as the reason.
-/

namespace LiveCounter

namespace Writer

/-- A writer that stops in order has been told the reason, or its client has gone. -/
theorem reason_choose {keepalive : Option Timer} {desk later : Desk} {reason : CloseReason}
    (h : choose keepalive desk = (.stop reason, later)) :
    reason = .clientClosed ∨ reason = desk.session.statedReason := by
  unfold choose at h
  split at h
  · cases h
    exact Or.inr rfl
  · split at h
    · cases h
      exact Or.inl rfl
    · split at h
      · cases h
        exact Or.inr rfl
      · cases h
      · split at h
        · split at h <;> cases h
        · cases h

/-- No attempt to write ends a writer in order. -/
theorem ne_orderly_beginWrite {policy : StreamPolicy} {frame : Frame} {desk later : Desk} {run : Run}
    (h : beginWrite policy frame desk = (.halted run, later)) (reason : CloseReason) :
    run ≠ .exited (.orderly reason) := by
  rw [beginWrite] at h
  generalize desk.client.beginWrite desk.clock.now frame = result at h
  obtain ⟨step, client⟩ := result
  cases step <;> cases h <;> simp

/-- A write that goes on does not end its run in order. -/
theorem ne_orderly_resumeWrite {policy : StreamPolicy} {write : Write} {desk later : Desk} {run : Run}
    (h : resumeWrite policy write desk = (.halted run, later)) (reason : CloseReason) :
    run ≠ .exited (.orderly reason) := by
  rw [resumeWrite_eq] at h
  generalize answer write desk = result at h
  obtain ⟨step, client⟩ := result
  cases step with
  | accepted => cases h
  | refused | panicked => cases h; simp
  | delayed | stuck =>
    simp only at h
    split at h <;> cases h <;> simp

/-- A run ends in order because its client has gone, or because its session has a reason. -/
theorem orderly_run (policy : StreamPolicy) (phase : Phase) (desk : Desk) (reason : CloseReason)
    (h : (run policy phase desk).1 = .exited (.orderly reason)) :
    reason = .clientClosed ∨ reason = desk.session.statedReason := by
  -- What the session says about its closing stays the same while the writer runs.
  have hserve (steps : Nat) (keepalive : Option Timer) (served : Desk)
      (hserved : served.session.reason = desk.session.reason)
      (h : (serve policy steps keepalive served).1 = .exited (.orderly reason)) :
      reason = .clientClosed ∨ reason = desk.session.statedReason := by
    revert h
    refine serve_induction (P := fun _ served => served.session.reason = desk.session.reason)
      (Q := fun result => result.1 = .exited (.orderly reason) →
        reason = .clientClosed ∨ reason = desk.session.statedReason) ?waits ?stops ?halts ?writes
      steps hserved
    case waits => exact fun _ _ _ h => by (cases h)
    case stops =>
      rintro keepalive served stated hserved hchoose h
      cases h
      rw [Session.statedReason, ← hserved]
      exact reason_choose hchoose
    case halts => exact fun _ _ _ _ _ _ _ _ hhalted h => absurd h (ne_orderly_beginWrite hhalted _)
    case writes =>
      rintro keepalive served frame chosen written hserved hchoose hwritten
      have hchosen := (sameCourse_choose keepalive served).reason
      have hbegun := (sameCourse_beginWrite policy frame chosen).reason
      rw [hchoose] at hchosen
      rw [hwritten] at hbegun
      rw [session_armKeepalive, hbegun, hchosen, hserved]
  revert h
  refine run_induction (P := fun _ served => served.session.reason = desk.session.reason)
    (Q := fun result => result.1 = .exited (.orderly reason) →
      reason = .clientClosed ∨ reason = desk.session.statedReason) hserve ?ended ?panics ?spawned
    ?waiting ?cancelled ?halts ?writes
  case ended => exact fun _ h => by (cases h)
  case panics => exact fun _ _ h => by (cases h)
  case spawned => exact fun _ => by rw [session_armKeepalive]
  case waiting => exact fun _ _ => rfl
  case cancelled =>
    rintro write - - h
    cases h
    exact Or.inr rfl
  case halts => exact fun _ _ _ _ hhalted h => absurd h (ne_orderly_resumeWrite hhalted _)
  case writes =>
    rintro write written - hwritten
    have hresumed := (sameCourse_resumeWrite policy write desk).reason
    rw [hwritten] at hresumed
    rw [session_armKeepalive, hresumed]

end Writer

namespace Connection

/-- A reason was there before a move, or the move brought it. -/
theorem reason_move {connection : Connection} {move : Move} {reason : CloseReason}
    (h : (connection.move move).session.reason = some reason) :
    connection.session.reason = some reason ∨
      ∃ cause, move.cause? = some cause ∧ cause.reason = reason := by
  cases hends : endsCourse move with
  | false => exact Or.inl ((connection.sameCourse_move hends).reason ▸ h)
  | true =>
    have hlate {added : CloseReason} (hreason : (connection.session.reason <|> some added) =
        some reason) : connection.session.reason = some reason ∨ added = reason := by
      cases hbefore : connection.session.reason with
      | none => exact Or.inr (by simpa [hbefore] using hreason)
      | some stated => exact Or.inl (by simpa [hbefore] using hreason)
    cases move with
    | close cause =>
      simp only [Connection.move, withSession, Session.retired] at h
      split at h
      · exact Or.inl h
      · exact (hlate h).imp_right fun hadded => ⟨cause, rfl, hadded⟩
    | claim stated =>
      simp only [Connection.move, withSession] at h
      split at h
      · exact Or.inl h
      · exact (hlate h).imp_right fun hadded => ⟨.plain stated, rfl, hadded⟩
    | release => exact Or.inl h
    | _ => cases hends

/-- The reason of a session was there before, or one of the moves has brought it. -/
theorem reason_after {connection : Connection} {moves : List Move} {reason : CloseReason}
    (h : (connection.after moves).session.reason = some reason) :
    connection.session.reason = some reason ∨
      ∃ move ∈ moves, ∃ cause, move.cause? = some cause ∧ cause.reason = reason := by
  induction moves generalizing connection with
  | nil => exact Or.inl h
  | cons move rest ih =>
    rcases ih h with hbefore | ⟨later, hmem, hcause⟩
    · rcases reason_move hbefore with hfirst | hcause
      · exact Or.inl hfirst
      · exact Or.inr ⟨move, List.mem_cons_self, hcause⟩
    · exact Or.inr ⟨later, List.mem_cons_of_mem _ hmem, hcause⟩

/-- A writer does not make up that its session was silent. -/
theorem idle_of_writerExit {connection : Connection} {policy : StreamPolicy} {now : Nat}
    {cause : Cause} (h : cause ∈ (connection.writerExit? policy now).elim [] (·.causes))
    (hidle : cause.reason = .idleTimeout) : connection.session.reason = some .idleTimeout := by
  cases hexit : connection.writerExit? policy now with
  | none => simp [hexit] at h
  | some exit =>
    rw [hexit, Option.elim_some] at h
    cases exit with
    | panicked =>
      obtain rfl := List.mem_singleton.mp h
      cases hidle
    | failed fault =>
      rcases List.mem_pair.mp h with rfl | rfl <;> cases hidle
    | orderly reason =>
      obtain rfl := List.mem_singleton.mp h
      obtain rfl : reason = .idleTimeout := hidle
      unfold writerExit? at hexit
      split at hexit
      · cases hexit
      · next service _ =>
        split at hexit
        · cases hexit
        · next exit hrun =>
          obtain rfl := Option.some.inj hexit
          rcases Writer.orderly_run _ _ _ _ hrun with hgone | hstated
          · cases hgone
          · have hstated : connection.session.reason.getD .explicit = .idleTimeout := hstated.symm
            cases hreason : connection.session.reason with
            | none => simp [hreason] at hstated
            | some reason => simpa [hreason] using hstated

end Connection

namespace Hub

/-- The reason for which a caller asks session `n` to close. -/
def Operation.demanded? (n : Nat) : Operation → Option CloseReason
  | .close target reason | .closeLive target reason | .claim target reason =>
    if target = n then some reason else none
  | .closeFor target fault => if target = n then some (.ofError fault) else none
  | _ => none

/-- A session is closed for silence by its watch, or because a caller says so. -/
theorem demanded_of_cause {hub : Hub} {n : Nat} {connection : Connection}
    (hconnection : hub.connections[n]? = some connection)
    (halive : connection.watchFinding hub.policy hub.now ≠ .silent) {operation : Operation}
    {move : Move} (hmoves : move ∈ hub.moves n operation) {cause : Cause}
    (hcause : move.cause? = some cause) (hidle : cause.reason = .idleTimeout) :
    connection.session.reason = some .idleTimeout ∨ operation.demanded? n = some .idleTimeout := by
  have hclose {asked : Cause} (hmove : move = .close asked) : asked.reason = .idleTimeout := by
    rw [hmove] at hcause
    exact Option.some.inj hcause ▸ hidle
  cases operation with
  | pollWatch target =>
    obtain ⟨rfl, hmem⟩ := mem_only hmoves
    simp only [watchMoves, hconnection, Connection.watchMoves] at hmem
    rcases List.mem_cons.mp hmem with rfl | hmem
    · cases hcause
    · split at hmem
      · cases hmem
      · cases hmem
      · next hsilent => exact absurd hsilent halive
  | pollWriter target =>
    obtain ⟨rfl, hmem⟩ := mem_only hmoves
    simp only [writerMoves, hconnection, Connection.writerMoves] at hmem
    rcases List.mem_cons.mp hmem with rfl | hmem
    · cases hcause
    · obtain ⟨asked, hasked, rfl⟩ := List.mem_map.mp hmem
      exact Or.inl (Connection.idle_of_writerExit hasked (hclose rfl))
  | publish event =>
    simp only [moves, publishMoves, List.mem_append, List.mem_map] at hmoves
    rcases hmoves with (⟨_, -, rfl⟩ | ⟨_, -, rfl⟩) | ⟨target, -, rfl⟩
    · cases hcause
    · cases hclose rfl
    · have hstale : CloseReason.inconsistency = .idleTimeout := hclose rfl
      cases hstale
  | clearTopic topic =>
    simp only [moves, List.mem_flatMap] at hmoves
    obtain ⟨_, -, hmem⟩ := hmoves
    split at hmem
    · cases hclose (List.mem_singleton.mp hmem)
    · cases hmem
  | sweep =>
    obtain ⟨_, -, hmove⟩ := List.mem_map.mp hmoves
    cases hclose hmove.symm
  | close target reason =>
    simp only [moves] at hmoves
    obtain ⟨rfl, hmem⟩ := mem_only hmoves
    have hreason := hclose (List.mem_singleton.mp hmem)
    exact Or.inr ((if_pos rfl).trans (congrArg some hreason))
  | closeFor target fault =>
    simp only [moves] at hmoves
    obtain ⟨rfl, hmem⟩ := mem_only hmoves
    have hreason := hclose (List.mem_singleton.mp hmem)
    exact Or.inr ((if_pos rfl).trans (congrArg some hreason))
  | closeLive target reason =>
    simp only [moves] at hmoves
    obtain ⟨rfl, hmem⟩ := mem_only hmoves
    split at hmem
    · have hreason := hclose (List.mem_singleton.mp hmem)
      exact Or.inr ((if_pos rfl).trans (congrArg some hreason))
    · cases hmem
  | claim target reason =>
    simp only [moves] at hmoves
    obtain ⟨rfl, hmem⟩ := mem_only hmoves
    rw [List.mem_singleton.mp hmem] at hcause
    obtain rfl := Option.some.inj hcause
    exact Or.inr ((if_pos rfl).trans (congrArg some hidle))
  | offer | take | release | refresh | noteWrite | receive | loseClient | letGo =>
    simp only [moves] at hmoves
    obtain ⟨rfl, hmem⟩ := mem_only hmoves
    rw [List.mem_singleton.mp hmem] at hcause
    cases hcause
  | join | connect | pass | report | countHit | create | subscribe | unsubscribe => cases hmoves

end Hub

end LiveCounter
