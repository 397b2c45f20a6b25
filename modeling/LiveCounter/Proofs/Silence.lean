import LiveCounter.Proofs.LiveTasks
import Mathlib.Order.Bounds.Defs

/-!
# Silent sessions

A watch looks at its session from time to time, and closes it if it has been silent for too long.
Each look that finds the session alive sets the time of the next one, so the next look comes before
the session has been silent for longer than is tolerated by one detection interval. This bound is
about the last sign of life, which may have come since: signs of life only put it off.
-/

namespace LiveCounter

namespace Duration

/-- The duration is a whole number of milliseconds. -/
def IsWhole (duration : Duration) : Prop := perMilli ∣ duration.nanos

instance (duration : Duration) : Decidable duration.IsWhole :=
  inferInstanceAs (Decidable (perMilli ∣ duration.nanos))

/-- So many milliseconds are a whole number of them. -/
theorem isWhole_ofMillis (millis : Nat) : (ofMillis millis).IsWhole := Nat.dvd_mul_left _ _

/-- A whole duration has nothing beside its milliseconds. -/
theorem IsWhole.nanos_eq {duration : Duration} (h : duration.IsWhole) :
    duration.nanos = duration.millis * perMilli :=
  (Nat.div_mul_cancel h).symm

/-- A whole duration is compared by its milliseconds. -/
theorem IsWhole.ofMillis_lt_iff {duration : Duration} (h : duration.IsWhole) (millis : Nat) :
    ofMillis millis < duration ↔ millis < duration.millis := by
  show millis * perMilli < duration.nanos ↔ _
  rw [h.nanos_eq]
  exact Nat.mul_lt_mul_right (by decide)

/-- The longer one of two whole durations is whole. -/
theorem isWhole_max {first second : Duration} (h : first.IsWhole) (h' : second.IsWhole) :
    (max first second).IsWhole := by
  show perMilli ∣ max first.nanos second.nanos
  rcases Nat.le_total first.nanos second.nanos with hle | hle
  · rwa [Nat.max_eq_right hle]
  · rwa [Nat.max_eq_left hle]

/-- The sum of two whole durations is whole. -/
theorem IsWhole.add {first second : Duration} (h : first.IsWhole) (h' : second.IsWhole) :
    (first + second).IsWhole :=
  Nat.dvd_add h h'

/-- Milliseconds that are added to a whole duration add up. -/
theorem IsWhole.add_ofMillis {duration : Duration} (h : duration.IsWhole) (millis : Nat) :
    duration + ofMillis millis = ofMillis (duration.millis + millis) := by
  show (⟨duration.nanos + millis * perMilli⟩ : Duration) = ⟨(duration.millis + millis) * perMilli⟩
  rw [Nat.add_mul, ← h.nanos_eq]

/-- A whole duration adds its milliseconds to another one. -/
theorem IsWhole.millis_add {first : Duration} (h : first.IsWhole) (second : Duration) :
    (first + second).millis = first.millis + second.millis := by
  show (first.nanos + second.nanos) / perMilli = _
  rw [h.nanos_eq, Nat.add_comm, Nat.add_mul_div_right _ _ (by decide), Nat.add_comm]
  rfl

/-- The first whole millisecond of an instant is not after any later one. -/
theorem ceilMillis_le {duration : Duration} {millis : Nat}
    (h : duration.nanos ≤ millis * perMilli) : duration.ceilMillis ≤ millis := by
  simp only [ceilMillis, perMilli] at h ⊢
  omega

end Duration

namespace StreamPolicy

/-- All times of the policy are whole numbers of milliseconds. -/
structure WholeMillis (policy : StreamPolicy) : Prop where
  idleTimeout : policy.idleTimeout.IsWhole
  detectionInterval : policy.detectionInterval.IsWhole
  keepaliveInterval : ∀ period ∈ policy.keepaliveInterval, period.IsWhole
  writeTimeout : policy.writeTimeout.IsWhole

/-- The silence that no session reaches. -/
def longestSilence (policy : StreamPolicy) : Duration :=
  policy.idleTimeout + policy.detectionInterval

/-- Clamping keeps the tolerated silence, and a detection interval of whole milliseconds. -/
theorem WholeMillis.clamped {policy : StreamPolicy} (h : policy.WholeMillis) :
    policy.clamped.idleTimeout.IsWhole ∧ policy.clamped.detectionInterval.IsWhole :=
  ⟨h.idleTimeout, Duration.isWhole_max h.detectionInterval (Duration.isWhole_ofMillis 1)⟩

end StreamPolicy

/-- An instant that lies a period later is not further away than the period. -/
theorem Clock.after_le (clock : Clock) (period : Duration) :
    (clock.after clock.instant period).nanos ≤ clock.instant.nanos + period.nanos := by
  unfold Clock.after
  split
  · next hoverflows =>
    have hlong : (Duration.ofSecs unreachable).nanos ≤ period.nanos := of_decide_eq_true hoverflows
    have hfar : farFuture.nanos ≤ (Duration.ofSecs unreachable).nanos := by decide
    exact Nat.add_le_add_left (Nat.le_trans hfar hlong) _
  · exact Nat.le_refl _

namespace Watch

/-- The next look comes within one interval. -/
theorem nextLook_le (interval : Duration) {clock : Clock} {last : Duration}
    (hlast : last.nanos ≤ clock.instant.nanos) :
    (nextLook interval clock last).nanos ≤ clock.instant.nanos + interval.nanos := by
  unfold nextLook
  split
  · exact clock.after_le interval
  · show last.nanos + ((clock.instant.nanos - last.nanos) / interval.nanos + 1) * interval.nanos ≤ _
    have hmissed := Nat.div_mul_le_self (clock.instant.nanos - last.nanos) interval.nanos
    rw [Nat.add_mul, Nat.one_mul]
    omega

/-- A timer of a watch after a run was there before, or it was set by a look that found the session
alive. -/
theorem timers_run {policy : StreamPolicy} {watch : Watch} {session : Session} {clock : Clock}
    {timer : Timer} (h : timer ∈ (watch.run policy session clock).2.1.timers) :
    timer ∈ watch.timers ∨ session.silence clock.now < policy.idleTimeout ∧
      timer.instant.nanos ≤ clock.instant.nanos + policy.detectionInterval.nanos := by
  have hlook {last : Duration} (hlast : last.nanos ≤ clock.instant.nanos)
      (hset : timer ∈ (look policy session clock last).2.1.timers) :
      session.silence clock.now < policy.idleTimeout ∧
        timer.instant.nanos ≤ clock.instant.nanos + policy.detectionInterval.nanos := by
    unfold look at hset
    split at hset
    · cases hset
    · next halive =>
      obtain rfl := List.mem_singleton.mp hset
      exact ⟨Nat.lt_of_not_le halive, nextLook_le policy.detectionInterval hlast⟩
  cases watch with
  | absent | ended => exact Or.inl h
  | spawned =>
    simp only [run] at h
    split at h
    · cases h
    · exact Or.inr (hlook (Nat.le_refl _) h)
  | ticking before =>
    simp only [run] at h
    split at h
    · cases h
    · split at h
      · next hdue =>
        have hnow : before.due ≤ clock.now := of_decide_eq_true hdue
        refine Or.inr (hlook ?_ h)
        simp only [Timer.due, Duration.ceilMillis, Clock.instant, Duration.ofMillis,
          Duration.perMilli] at hnow ⊢
        omega
      · exact Or.inl h

/-- A watch that finds its session silent has just been started, or its timer is due, and nobody has
claimed the closing before. -/
theorem silent_run {policy : StreamPolicy} {watch : Watch} {session : Session} {clock : Clock}
    (h : (watch.run policy session clock).1 = .silent) :
    session.cancelled = false ∧ policy.idleTimeout ≤ session.silence clock.now ∧
      (watch = .spawned ∨ ∃ timer, watch = .ticking timer ∧ timer.due ≤ clock.now) := by
  have hlook {last : Duration} (hsilent : (look policy session clock last).1 = .silent) :
      policy.idleTimeout ≤ session.silence clock.now := by
    unfold look at hsilent
    split at hsilent
    · next hlong => exact hlong
    · cases hsilent
  cases watch with
  | absent | ended => cases h
  | spawned =>
    simp only [run] at h
    split at h
    · cases h
    · next hcancelled => exact ⟨by simpa using hcancelled, hlook h, Or.inl rfl⟩
  | ticking timer =>
    simp only [run] at h
    split at h
    · cases h
    · next hcancelled =>
      split at h
      · next hdue =>
        exact ⟨by simpa using hcancelled, hlook h, Or.inr ⟨timer, rfl, of_decide_eq_true hdue⟩⟩
      · cases h

end Watch

namespace Connection

/-! ## The next look -/

/-- The next look of the watch comes before the session has been silent for too long. -/
structure SeenInTime (policy : StreamPolicy) (now : Nat) (connection : Connection) : Prop where
  past : connection.session.lastActivity ≤ now
  look : ∀ timer ∈ connection.watch.timers,
    timer.due < connection.session.lastActivity + policy.longestSilence.millis

/-- A sign of life leaves more time for the next look. -/
theorem SeenInTime.active {policy : StreamPolicy} {now : Nat} {before after : Connection}
    (h : before.SeenInTime policy now) (hwatch : after.watch = before.watch)
    (hactivity : before.session.lastActivity ≤ after.session.lastActivity)
    (hpast : after.session.lastActivity ≤ now) : after.SeenInTime policy now where
  past := hpast
  look timer htimer := by
    have hbefore := h.look timer (hwatch ▸ htimer)
    omega

/-- A watch that looks sets its next look in time. -/
theorem SeenInTime.watched {policy : StreamPolicy} (hidle : policy.idleTimeout.IsWhole)
    (hinterval : policy.detectionInterval.IsWhole) {now : Nat} {connection : Connection}
    (h : connection.SeenInTime policy now) :
    (connection.watched policy now).SeenInTime policy now := by
  refine ⟨h.past, fun timer htimer => ?_⟩
  rcases Watch.timers_run htimer with hbefore | ⟨halive, hnext⟩
  · exact h.look timer hbefore
  · have hsilence : now - connection.session.lastActivity < policy.idleTimeout.millis :=
      (hidle.ofMillis_lt_iff _).mp halive
    have hdue : timer.due ≤ now + policy.detectionInterval.millis := by
      apply Duration.ceilMillis_le
      rw [Nat.add_mul, ← hinterval.nanos_eq]
      exact hnext
    show timer.due < connection.session.lastActivity + policy.longestSilence.millis
    rw [StreamPolicy.longestSilence, hidle.millis_add]
    omega

/-- Of an open session whose tasks are at rest the last sign of life is not too long ago. -/
theorem SeenInTime.silence_lt {policy : StreamPolicy} (hlimit : policy.longestSilence.IsWhole)
    {now : Nat} {connection : Connection} (h : connection.SeenInTime policy now)
    (htended : connection.Tended) (hrest : connection.AtRest now)
    (hopen : connection.session.stage = .open) :
    connection.session.silence now < policy.longestSilence := by
  have hpending := htended.watched hopen
  cases hwatch : connection.watch with
  | absent | ended => simp [hwatch, Watch.isPending] at hpending
  | spawned => exact absurd hwatch hrest.not_spawned.1
  | ticking timer =>
    have hmem : timer ∈ connection.watch.timers := by simp [hwatch, Watch.timers]
    have hlook := h.look timer hmem
    have hlater := Timer.isDue_eq_false_iff.mp (hrest.watch.notDue timer hmem)
    have hpast := h.past
    refine (hlimit.ofMillis_lt_iff _).mpr ?_
    omega

/-- A watch that is on time finds no session that has been silent for too long. -/
theorem OnTime.silence_lt {policy : StreamPolicy} (hlimit : policy.longestSilence.IsWhole)
    (hpositive : 0 < policy.longestSilence.millis) {now : Nat} {connection : Connection}
    (h : connection.OnTime now) (hseen : connection.SeenInTime policy now)
    (hsilent : connection.watchFinding policy now = .silent) :
    connection.session.silence now < policy.longestSilence := by
  have hpast := h.past
  refine (hlimit.ofMillis_lt_iff _).mpr ?_
  rcases (Watch.silent_run hsilent).2.2 with hspawned | ⟨timer, hticking, hdue⟩
  · have hactive := h.watch hspawned
    omega
  · have hmem : timer ∈ connection.watch.timers := by simp [hticking, Watch.timers]
    have hlook := hseen.look timer hmem
    have hnow : timer.due ≤ now := hdue
    have hlate := h.timers timer (List.mem_append_left _ hmem)
    omega

/-! ## The close -/

/-- If a session that nobody has claimed is claimed after a poll of its watch, the watch found it
silent, and closed it for that. -/
theorem closed_by_watch {connection : Connection} {policy : StreamPolicy} {now : Nat}
    (hfresh : connection.session.IsFresh)
    (hclaimed : (connection.polledWatch policy now).session.isClaimed = true) :
    connection.watchFinding policy now = .silent ∧
      (connection.polledWatch policy now).session.reason = some .idleTimeout ∧
      (connection.polledWatch policy now).session.failure =
        some (.idleTimeout (connection.session.silence now)) := by
  have hsilent : connection.watchFinding policy now = .silent := by
    by_contra hfinding
    rw [polledWatch_eq hfinding] at hclaimed
    exact Bool.false_ne_true (hfresh.unclaimed.symm.trans hclaimed)
  have hclosed := hfresh.retired (.error (.idleTimeout (connection.session.silence now)))
  have hsession : (connection.polledWatch policy now).session =
      connection.session.retired .idleTimeout
        (some (.idleTimeout (connection.session.silence now))) := by
    simp only [polledWatch, watchMoves, hsilent]
    rfl
  rw [hsession]
  exact ⟨hsilent, hclosed.reason, hclosed.failure⟩

end Connection

namespace Hub

/-- Watches look in time in every run. -/
theorem lasting_seenInTime {policy : StreamPolicy} (hidle : policy.idleTimeout.IsWhole)
    (hinterval : policy.detectionInterval.IsWhole) :
    Lasting policy fun now connection => connection.SeenInTime policy now := by
  refine lasting_of_undisturbed (fun now before after hsame h => ?_)
    (fun now connection h => h.watched hidle hinterval) (fun now connection h => ?_)
    (fun now connection h => ?_) (fun now connection h => ?_)
  · refine h.active hsame.watch (Nat.le_of_eq hsame.lastActivity.symm) ?_
    rw [hsame.lastActivity]
    exact h.past
  · have hwatch : (connection.written policy now).watch = connection.watch := by
      unfold Connection.written
      split <;> rfl
    obtain ⟨hactivity, hpast⟩ := Connection.lastActivity_written h.past policy
    exact h.active hwatch hactivity hpast
  · exact h.active rfl h.past (Nat.le_refl _)
  · exact h.active rfl h.past (Nat.le_refl _)

/-- In every run from the start each next look comes in time. -/
theorem seenInTime_run {policy : StreamPolicy} (h : policy.WholeMillis)
    (operations : List Operation) :
    ∀ connection ∈ ((Hub.new policy).run operations).connections,
      connection.SeenInTime policy.clamped ((Hub.new policy).run operations).now := by
  refine (lasting_seenInTime h.clamped.1 h.clamped.2).run (fun now later connection hle hseen => ?_)
    (fun hub operation connection hpolicy harrives => ?_) (by simp [Hub.new]) operations
  · exact ⟨Nat.le_trans hseen.past hle, hseen.look⟩
  · obtain ⟨hactivity, htimers⟩ := lastActivity_of_arrives harrives
    have hwatch : connection.watch.timers = [] := (List.append_eq_nil_iff.mp htimers).1
    exact ⟨Nat.le_of_eq hactivity, by simp [hwatch]⟩

/-! ## Signs of life -/

/-- When an operation creates session `n`. -/
def creations (n : Nat) (hub : Hub) (operation : Operation) : List Nat :=
  if hub.connections.length ≤ n ∧ n < (hub.step operation).connections.length then [hub.now] else []

/-- When somebody outside says that session `n` is alive. -/
def touches (n : Nat) (hub : Hub) : Operation → List Nat
  | .refresh target | .noteWrite target =>
    if target = n ∧ n < hub.connections.length then [hub.now] else []
  | _ => []

end Hub

namespace Connection

/-- When frames were written to the client of the connection. -/
def writeTimes (connection : Connection) : List Nat :=
  connection.service.elim [] fun service => service.client.accepted.map (·.1)

/-- The session was last active at the latest of the given times and of the times of its writes. -/
def LastSeen (connection : Connection) (times : List Nat) : Prop :=
  IsGreatest { time | time ∈ times ∨ time ∈ connection.writeTimes } connection.session.lastActivity

/-- Nothing is written to a client that is not disturbed. -/
theorem Undisturbed.writeTimes {before after : Connection} (h : before.Undisturbed after) :
    after.writeTimes = before.writeTimes := by
  have hrel := h.service
  unfold Connection.writeTimes
  revert hrel
  generalize before.service = earlier
  generalize after.service = later
  rintro (hsame | _)
  · simp only [Option.elim_some, hsame.accepted]
  · rfl

/-- A session that is not disturbed gives no sign of life. -/
theorem LastSeen.undisturbed {before after : Connection} {times : List Nat}
    (h : before.LastSeen times) (hsame : before.Undisturbed after) : after.LastSeen times := by
  unfold LastSeen
  rw [hsame.writeTimes, hsame.lastActivity]
  exact h

/-- A sign of life at the present time is the last one. -/
theorem LastSeen.touched {before after : Connection} {times : List Nat} {now : Nat}
    (h : before.LastSeen times) (hpast : before.session.lastActivity ≤ now)
    (hwrites : after.writeTimes = before.writeTimes) (hactivity : after.session.lastActivity = now) :
    after.LastSeen (times ++ [now]) := by
  refine ⟨Or.inl (by simp [hactivity]), ?_⟩
  rintro time (hmem | hmem)
  · rw [hactivity]
    rcases List.mem_append.mp hmem with hbefore | hnow
    · exact Nat.le_trans (h.2 (Or.inl hbefore)) hpast
    · exact Nat.le_of_eq (List.mem_singleton.mp hnow)
  · rw [hactivity]
    exact Nat.le_trans (h.2 (Or.inr (hwrites ▸ hmem))) hpast

/-- A writer that runs is a sign of life for each frame that it gets rid of, and else none. -/
theorem LastSeen.written {connection : Connection} {times : List Nat} {now : Nat}
    (h : connection.LastSeen times) (hpast : connection.session.lastActivity ≤ now)
    (policy : StreamPolicy) : (connection.written policy now).LastSeen times := by
  cases hservice : connection.service with
  | none =>
    have hsame : connection.written policy now = connection := by
      simp [Connection.written, hservice]
    rwa [hsame]
  | some service =>
    obtain ⟨frames, haccepted, hactivity⟩ :=
      (Writer.stamped_run policy service.phase (connection.desk service.client now)).accepted
    have hbefore : connection.writeTimes = service.client.accepted.map (·.1) := by
      simp [writeTimes, hservice]
    have hwrites : (connection.written policy now).writeTimes =
        frames.map (fun _ => now) ++ connection.writeTimes := by
      rw [hbefore, writeTimes, service_written hservice, Option.elim_some, haccepted,
        List.map_append, List.map_map]
      rfl
    unfold LastSeen
    rw [hwrites, session_written hservice, hactivity]
    by_cases hnone : frames = []
    · rw [if_pos hnone, hnone]
      exact h
    · obtain ⟨frame, rest, rfl⟩ := List.exists_cons_of_ne_nil hnone
      rw [if_neg hnone]
      refine ⟨Or.inr List.mem_cons_self, ?_⟩
      rintro time (hmem | hmem)
      · exact Nat.le_trans (h.2 (Or.inl hmem)) hpast
      · rcases List.mem_append.mp hmem with hnew | hold
        · obtain ⟨_, -, rfl⟩ := List.mem_map.mp hnew
          exact Nat.le_refl _
        · exact Nat.le_trans (h.2 (Or.inr hold)) hpast

end Connection

namespace Hub

/-- The signs of life that an operation gives of session `n`, apart from writes. -/
def signs (n : Nat) (hub : Hub) (operation : Operation) : List Nat :=
  creations n hub operation ++ touches n hub operation

/-- A session that is there is not created again. -/
theorem creations_of_lt {hub : Hub} {n : Nat} (h : n < hub.connections.length)
    (operation : Operation) : creations n hub operation = [] :=
  if_neg fun hnew => absurd h (Nat.not_lt.mpr hnew.1)

/-- Where a session is only looked at, or quiet things happen to it, nobody touches it. -/
theorem touches_of_quiet {hub : Hub} {n : Nat} {operation : Operation}
    (hquiet : ∀ move ∈ hub.moves n operation, move.isQuiet = true) :
    touches n hub operation = [] := by
  cases operation with
  | refresh target =>
    refine if_neg fun htarget => ?_
    have hloud := hquiet (.refresh hub.now) (by simp [moves, only, htarget.1])
    cases hloud
  | noteWrite target =>
    refine if_neg fun htarget => ?_
    have hloud := hquiet (.noteWrite hub.now) (by simp [moves, only, htarget.1])
    cases hloud
  | _ => rfl

/-- Each step adds its signs of life. -/
theorem lastSeen_step {hub : Hub} {n : Nat} {times : List Nat} {operation : Operation}
    {later : Connection} (hlater : (hub.step operation).connections[n]? = some later)
    (hnew : n = hub.connections.length → times = [])
    (hbefore : ∀ before, hub.connections[n]? = some before →
      before.session.lastActivity ≤ hub.now ∧ before.LastSeen times) :
    later.LastSeen (times ++ signs n hub operation) := by
  have hlength : n < (hub.step operation).connections.length :=
    (List.getElem?_eq_some_iff.mp hlater).1
  have hknown {before : Connection} (hfound : hub.connections[n]? = some before) :
      n < hub.connections.length := (List.getElem?_eq_some_iff.mp hfound).1
  cases stepCase hlater with
  | arrives hn harrives =>
    obtain ⟨hactivity, -⟩ := lastActivity_of_arrives harrives
    have hwrites : later.writeTimes = [] := by
      cases harrives with
      | joined | created => rfl
      | accepted topic id transport => cases transport <;> rfl
    have htouches : touches n hub operation = [] := by
      cases harrives <;> rfl
    have hcreations : creations n hub operation = [hub.now] :=
      if_pos ⟨Nat.le_of_eq hn.symm, hlength⟩
    rw [hnew hn, signs, hcreations, htouches, List.nil_append, List.append_nil]
    refine ⟨Or.inl (by simp [hactivity]), ?_⟩
    rintro time (hnow | hnow)
    · exact Nat.le_of_eq ((List.mem_singleton.mp hnow).trans hactivity.symm)
    · simp [hwrites] at hnow
  | watched before hfound =>
    have hnone : signs n hub (.pollWatch n) = [] := by
      rw [signs, creations_of_lt (hknown hfound)]
      rfl
    have hsame : before.LastSeen times := (hbefore before hfound).2
    rw [hnone, List.append_nil]
    exact Connection.LastSeen.undisturbed (show (before.watched hub.policy hub.now).LastSeen times from
      hsame) (before.undisturbed_polledWatch hub.policy hub.now)
  | served before hfound =>
    have hnone : signs n hub (.pollWriter n) = [] := by
      rw [signs, creations_of_lt (hknown hfound)]
      rfl
    obtain ⟨hpast, hseen⟩ := hbefore before hfound
    rw [hnone, List.append_nil]
    exact (hseen.written hpast hub.policy).undisturbed
      (before.undisturbed_polledWriter hub.policy hub.now)
  | refreshed before hfound =>
    have hone : signs n hub (.refresh n) = [hub.now] := by
      rw [signs, creations_of_lt (hknown hfound)]
      exact if_pos ⟨rfl, hknown hfound⟩
    obtain ⟨hpast, hseen⟩ := hbefore before hfound
    rw [hone]
    exact hseen.touched hpast rfl rfl
  | noted before hfound =>
    have hone : signs n hub (.noteWrite n) = [hub.now] := by
      rw [signs, creations_of_lt (hknown hfound)]
      exact if_pos ⟨rfl, hknown hfound⟩
    obtain ⟨hpast, hseen⟩ := hbefore before hfound
    rw [hone]
    exact hseen.touched hpast rfl rfl
  | quiet before hfound hquiet =>
    rw [signs, creations_of_lt (hknown hfound), touches_of_quiet hquiet, List.nil_append,
      List.append_nil]
    exact (hbefore before hfound).2.undisturbed (before.undisturbed_after hquiet)

/-- Nobody gives a sign of life of a session that does not exist yet. -/
theorem signs_of_none {hub : Hub} {n : Nat} {operation : Operation}
    (h : (hub.step operation).connections[n]? = none) : signs n hub operation = [] := by
  have hcreations : creations n hub operation = [] :=
    if_neg fun hnew => absurd hnew.2 (Nat.not_lt.mpr (List.getElem?_eq_none_iff.mp h))
  have htouches : touches n hub operation = [] := by
    have hlength := List.getElem?_eq_none_iff.mp (none_of_step h)
    cases operation with
    | refresh | noteWrite => exact if_neg fun hold => absurd hold.2 (Nat.not_lt.mpr hlength)
    | _ => rfl
  rw [signs, hcreations, htouches, List.append_nil]

/-- No sign of life comes from the future. -/
theorem lasting_past (policy : StreamPolicy) :
    Lasting policy fun now connection => connection.session.lastActivity ≤ now :=
  lasting_of_undisturbed (fun _ _ _ hsame h => hsame.lastActivity ▸ h) (fun _ _ h => h)
    (fun _ _ h => (Connection.lastActivity_written h policy).2) (fun _ _ _ => Nat.le_refl _)
    (fun _ _ _ => Nat.le_refl _)

/-- No session was active in the future. -/
theorem past_run (policy : StreamPolicy) (operations : List Operation) :
    ∀ connection ∈ ((Hub.new policy).run operations).connections,
      connection.session.lastActivity ≤ ((Hub.new policy).run operations).now :=
  (lasting_past _).run (fun _ _ _ hle h => Nat.le_trans h hle)
    (fun _ _ _ _ harrives => Nat.le_of_eq (lastActivity_of_arrives harrives).1)
    (by simp [Hub.new]) operations

/-- Every session was last active at its latest sign of life. -/
theorem lastSeen_run (policy : StreamPolicy) (operations : List Operation) {n : Nat}
    {connection : Connection}
    (h : ((Hub.new policy).run operations).connections[n]? = some connection) :
    connection.LastSeen (history (signs n) (Hub.new policy) operations) := by
  induction operations using List.reverseRecOn generalizing connection with
  | nil => simp [Hub.new] at h
  | append_singleton operations operation ih =>
    rw [run_append] at h
    rw [history_append]
    simp only [history, List.append_nil]
    refine lastSeen_step h (fun hn => ?_) fun before hbefore => ?_
    · exact history_eq_nil (fun _ _ => signs_of_none)
        (List.getElem?_eq_none_iff.mpr (Nat.le_of_eq hn.symm))
    · exact ⟨past_run policy operations before (List.mem_of_getElem? hbefore), ih hbefore⟩

/-- A session was last active when it was created, when somebody outside said so, or when a frame was
written to its client, whatever was latest. In whatever way a run has gone, when all tasks have
settled no open session has been silent for as long as is tolerated and one detection interval more.
If a poll of the watch closes a session, it is for its silence, the silence is kept with the reason,
and it is no shorter than is tolerated; in a punctual run it is shorter than that and one detection
interval more. -/
theorem silent_sessions_are_closed_in_time {policy : StreamPolicy} (hwhole : policy.WholeMillis)
    (operations : List Operation) (n : Nat) (connection : Connection)
    (h : ((Hub.new policy).run operations).connections[n]? = some connection) :
    let hub := (Hub.new policy).run operations
    let silence := connection.session.silence hub.now
    let limit := policy.idleTimeout + policy.clamped.detectionInterval
    IsGreatest { time | time ∈ history (signs n) (Hub.new policy) operations ∨
        time ∈ connection.writeTimes } connection.session.lastActivity ∧
      (hub.Settled → connection.session.stage = .open → silence < limit) ∧
      ∀ later, (hub.pollWatch n).session? n = some later →
        connection.session.isClaimed = false → later.isClaimed = true →
        later.reason = some .idleTimeout ∧ later.failure = some (.idleTimeout silence) ∧
          policy.idleTimeout ≤ silence ∧
          ((Hub.new policy).Punctual operations → silence < limit) := by
  intro hub silence limit
  have hconnection : hub.connections[n]? = some connection := h
  have hmem : connection ∈ hub.connections := List.mem_of_getElem? h
  have hseen := seenInTime_run hwhole operations connection hmem
  obtain ⟨hidle, hinterval⟩ := hwhole.clamped
  have hlimit : policy.clamped.longestSilence.IsWhole := hidle.add hinterval
  refine ⟨lastSeen_run policy operations h, fun hsettled hopen => ?_,
    fun later hlater hfree hclaimed => ?_⟩
  · have hrest := (settled_iff (usable_run policy operations)).mp hsettled connection hmem
    exact hseen.silence_lt hlimit (tended_run policy operations connection hmem) hrest hopen
  · have hpolicy : hub.policy = policy.clamped := policy_run _ operations
    obtain rfl : (connection.polledWatch policy.clamped hub.now).session = later := by
      simpa [session?, connections_pollWatch, hconnection, hpolicy] using hlater
    have hfresh : connection.session.IsFresh := by
      have hclosed := closings_run policy operations n
      simp only [session?, h, Option.map_some] at hclosed
      exact (hclosed.isFresh (by simp [hfree])).2
    obtain ⟨hsilent, hreason, hfailure⟩ := Connection.closed_by_watch hfresh hclaimed
    refine ⟨hreason, hfailure, (Watch.silent_run hsilent).2.1, fun hpunctual => ?_⟩
    have hpositive : 0 < policy.clamped.longestSilence.millis := by
      rw [StreamPolicy.longestSilence, hidle.millis_add]
      have hsome := policy.usable_clamped.detectionInterval_pos
      rw [hinterval.nanos_eq] at hsome
      exact Nat.add_pos_right _ (Nat.pos_of_mul_pos_right hsome)
    exact (onTime_run policy hpunctual connection hmem).silence_lt hlimit hpositive hseen hsilent

/-- A session that is touched once, two milliseconds after its creation, with looks every four
milliseconds and a tolerated silence of ten. -/
theorem silent_sessions_are_closed_in_time_of_silence :
    let policy : StreamPolicy :=
      { StreamPolicy.default with
        idleTimeout := .ofMillis 10, detectionInterval := .ofMillis 4, keepaliveInterval := none }
    let operations : List Operation := [.join (.random 0) ⟨0⟩, .pollWatch 0, .pass 2, .refresh 0,
      .pass 2, .pollWatch 0, .pass 4, .pollWatch 0, .pass 4]
    let hub := (Hub.new policy).run operations
    ∃ connection later, hub.connections[0]? = some connection ∧
      (hub.pollWatch 0).session? 0 = some later ∧
      IsGreatest { time | time ∈ [0, 2] ∨ time ∈ connection.writeTimes }
        connection.session.lastActivity ∧
      connection.session.isClaimed = false ∧ later.reason = some .idleTimeout ∧
      later.failure = some (.idleTimeout (connection.session.silence 12)) ∧
      policy.idleTimeout ≤ connection.session.silence 12 ∧
      connection.session.silence 12 < policy.idleTimeout + policy.clamped.detectionInterval := by
  intro policy operations hub
  have hwhole : policy.WholeMillis :=
    ⟨Duration.isWhole_ofMillis 10, Duration.isWhole_ofMillis 4, fun _ hperiod => by (cases hperiod),
      Duration.isWhole_ofMillis _⟩
  have hpunctual : (Hub.new policy).Punctual operations := by decide +kernel
  have hnow : hub.now = 12 := by decide +kernel
  have hsigns : history (signs 0) (Hub.new policy) operations = [0, 2] := by decide +kernel
  obtain ⟨connection, hconnection⟩ := Option.isSome_iff_exists.mp
    (show (hub.connections[0]?).isSome = true by decide +kernel)
  obtain ⟨later, hlater⟩ := Option.isSome_iff_exists.mp
    (show ((hub.pollWatch 0).session? 0).isSome = true by decide +kernel)
  have hfree : (hub.connections[0]?).map (·.session.isClaimed) = some false := by decide +kernel
  have hclaimed : ((hub.pollWatch 0).session? 0).map (·.isClaimed) = some true := by decide +kernel
  rw [hconnection] at hfree
  rw [hlater] at hclaimed
  obtain ⟨hseen, -, hclosed⟩ :=
    silent_sessions_are_closed_in_time hwhole operations 0 connection hconnection
  obtain ⟨hreason, hfailure, hlong, hshort⟩ := hclosed later hlater (Option.some.inj hfree)
    (Option.some.inj hclaimed)
  rw [hsigns] at hseen
  have hbound := hshort hpunctual
  rw [show ((Hub.new policy).run operations).now = 12 from hnow] at hfailure hlong hbound
  exact ⟨connection, later, hconnection, hlater, hseen, Option.some.inj hfree, hreason, hfailure,
    hlong, hbound⟩

end Hub

end LiveCounter
