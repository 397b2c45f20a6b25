import LiveCounter.Proofs.Following
import LiveCounter.Server
import LiveCounter.Server.Setup
import LiveCounter.Settings.Load
import Mathlib.Tactic.ByContra

/-!
# Policies within their limits

Settings are checked in milliseconds, where a keepalive period of zero means none, and policies are
clamped in lengths of time, where none is a value of its own. The two agree: a policy that valid
settings describe is within all limits already, and clamping leaves such a policy alone. What
clamping gives is left alone by it too. It need not have a keepalive that sustains a quiet stream:
one that was wanted below the shortest period stays there, and where the tolerated silence is no
longer than that period, no keepalive is brought below it.
-/

namespace LiveCounter

namespace Duration

/-- The first time is the greater one when the second is not longer. -/
theorem max_eq_left_iff {first second : Duration} : max first second = first ↔ second ≤ first := by
  constructor
  · intro h
    have hnanos : max first.nanos second.nanos = first.nanos := congrArg Duration.nanos h
    exact Nat.le_trans (Nat.le_max_right _ _) (Nat.le_of_eq hnanos)
  · intro h
    exact congrArg Duration.mk (Nat.max_eq_left h)

/-- Each time is at most the greater of two. -/
theorem le_max_right (first second : Duration) : second ≤ max first second :=
  Nat.le_max_right _ _

/-- More milliseconds take no less time. -/
theorem ofMillis_le_ofMillis {first second : Nat} (h : first ≤ second) :
    ofMillis first ≤ ofMillis second :=
  Nat.mul_le_mul_right _ h

/-- More milliseconds take more time. -/
theorem ofMillis_lt_ofMillis {first second : Nat} (h : first < second) :
    ofMillis first < ofMillis second :=
  Nat.mul_lt_mul_of_pos_right h (by decide)

end Duration

/-- A number that is raised to one is at least one. -/
theorem one_le_max_one (n : UInt32) : 1 ≤ max n 1 := by
  show 1 ≤ if n ≤ 1 then 1 else n
  split <;> grind

/-- A number is raised to one unless it is at least one already. -/
theorem max_one_eq_self_iff (n : UInt32) : max n 1 = n ↔ 1 ≤ n := by
  show (if n ≤ 1 then 1 else n) = n ↔ 1 ≤ n
  split <;> grind

namespace StreamPolicy

/-- The policy is within its limits. Only a tolerated silence of the shortest period or less leaves
no room for a keepalive below it. -/
structure InRange (policy : StreamPolicy) : Prop where
  detectionInterval : shortestPeriod ≤ policy.detectionInterval
  writeTimeout : shortestPeriod ≤ policy.writeTimeout
  queueCapacity : 1 ≤ policy.queueCapacity
  maxConsecutiveDrops : 1 ≤ policy.maxConsecutiveDrops
  keepaliveInterval : ∀ period ∈ policy.keepaliveInterval,
    period ≠ ⟨0⟩ ∧ (policy.idleTimeout ≤ period → period = policy.loweredKeepalive)

/-- The keepalive that takes the place of one that is too long is a usable one. -/
theorem loweredKeepalive_ne_zero (policy : StreamPolicy) : policy.loweredKeepalive ≠ ⟨0⟩ := by
  intro hzero
  have hshortest : shortestPeriod ≤ policy.loweredKeepalive := Duration.le_max_right _ _
  rw [hzero] at hshortest
  exact absurd hshortest (by decide)

/-- A keepalive stays as it is unless its period is zero, or is due to be lowered. -/
theorem usableKeepalive_eq_self_iff (policy : StreamPolicy) (keepalive : Option Duration) :
    policy.usableKeepalive keepalive = keepalive ↔ ∀ period ∈ keepalive,
      period ≠ ⟨0⟩ ∧ (policy.idleTimeout ≤ period → period = policy.loweredKeepalive) := by
  cases keepalive with
  | none => simp [usableKeepalive]
  | some period =>
    simp only [usableKeepalive, Option.mem_def, Option.some.injEq, forall_eq']
    by_cases hzero : period = ⟨0⟩
    · simp [hzero]
    · by_cases hlong : policy.idleTimeout ≤ period
      · simp [hzero, hlong, eq_comm]
      · simp [hzero, hlong]

/-- Clamping leaves exactly the policies alone that are within their limits. -/
theorem clamped_eq_self_iff (policy : StreamPolicy) : policy.clamped = policy ↔ policy.InRange := by
  have hkeepalive := policy.usableKeepalive_eq_self_iff policy.keepaliveInterval
  constructor
  · intro h
    have hdetection : policy.clamped.detectionInterval = policy.detectionInterval := by rw [h]
    have hwrite : policy.clamped.writeTimeout = policy.writeTimeout := by rw [h]
    have hqueue : policy.clamped.queueCapacity = policy.queueCapacity := by rw [h]
    have hdrops : policy.clamped.maxConsecutiveDrops = policy.maxConsecutiveDrops := by rw [h]
    have hperiod : policy.clamped.keepaliveInterval = policy.keepaliveInterval := by rw [h]
    exact ⟨Duration.max_eq_left_iff.mp hdetection, Duration.max_eq_left_iff.mp hwrite,
      hqueue ▸ Nat.le_max_right _ _, (max_one_eq_self_iff _).mp hdrops, hkeepalive.mp hperiod⟩
  · intro h
    have hdetection := Duration.max_eq_left_iff.mpr h.detectionInterval
    have hwrite := Duration.max_eq_left_iff.mpr h.writeTimeout
    have hqueue := Nat.max_eq_left h.queueCapacity
    have hdrops := (max_one_eq_self_iff _).mpr h.maxConsecutiveDrops
    rw [clamped, hdetection, hwrite, hqueue, hdrops, hkeepalive.mpr h.keepaliveInterval]

/-- What clamping gives is within the limits. -/
theorem inRange_clamped (policy : StreamPolicy) : policy.clamped.InRange where
  detectionInterval := Duration.le_max_right _ _
  writeTimeout := Duration.le_max_right _ _
  queueCapacity := Nat.le_max_right _ _
  maxConsecutiveDrops := one_le_max_one _
  keepaliveInterval := by
    intro period hperiod
    -- Clamping changes neither the tolerated silence nor what a long keepalive is lowered to.
    show period ≠ ⟨0⟩ ∧ (policy.idleTimeout ≤ period → period = policy.loweredKeepalive)
    simp only [clamped, usableKeepalive] at hperiod
    split at hperiod
    · cases hperiod
    · next wanted _ =>
      split at hperiod
      · cases hperiod
      · next hzero =>
        split at hperiod
        · obtain rfl := Option.some.inj hperiod
          exact ⟨policy.loweredKeepalive_ne_zero, fun _ => rfl⟩
        · next hshort =>
          obtain rfl := Option.some.inj hperiod
          exact ⟨hzero, fun hlong => absurd hlong hshort⟩

/-- Outboxes of a policy that has been clamped have the capacity that it names. -/
theorem max_queueCapacity_clamped (policy : StreamPolicy) :
    max policy.clamped.queueCapacity 1 = policy.clamped.queueCapacity :=
  Nat.max_eq_left policy.inRange_clamped.queueCapacity

/-- The policy of settings without a fault is within its limits. -/
theorem inRange_ofSettings {settings : StreamSettings} (h : settings.fault? = none) :
    (ofSettings settings).InRange := by
  have hsome {n : UInt64} (hn : n ≠ 0) : 1 ≤ n.toNat := Nat.pos_of_ne_zero fun hzero =>
    hn (UInt64.toNat_inj.mp hzero)
  unfold StreamSettings.fault? at h
  split at h
  · cases h
  next hqueue =>
  split at h
  · cases h
  split at h
  · cases h
  next hdrops =>
  split at h
  · cases h
  next hperiods =>
  split at h
  · cases h
  split at h
  · cases h
  next hkeepalive =>
  obtain ⟨hdetection, hwrite⟩ := not_or.mp hperiods
  refine ⟨Duration.ofMillis_le_ofMillis (hsome hdetection),
    Duration.ofMillis_le_ofMillis (hsome hwrite), hsome hqueue, ?_, ?_⟩
  · show 1 ≤ settings.maxConsecutiveDrops
    grind
  · intro period hperiod
    simp only [ofSettings] at hperiod
    split at hperiod
    · cases hperiod
    · next hsends =>
      obtain rfl := Option.some.inj hperiod
      have hshort : settings.keepaliveIntervalMs < settings.idleTimeoutMs := by
        by_contra hlong
        exact hkeepalive ⟨hsends, UInt64.not_lt.mp hlong⟩
      refine ⟨fun hzero => ?_, fun hlong => ?_⟩
      · have hpositive : Duration.ofMillis 1 ≤ .ofMillis settings.keepaliveIntervalMs.toNat :=
          Duration.ofMillis_le_ofMillis (hsome hsends)
        rw [hzero] at hpositive
        exact absurd hpositive (by decide)
      · have hbelow : Duration.ofMillis settings.keepaliveIntervalMs.toNat <
            .ofMillis settings.idleTimeoutMs.toNat :=
          Duration.ofMillis_lt_ofMillis (UInt64.lt_iff_toNat_lt.mp hshort)
        exact absurd hlong (Nat.not_le.mpr hbelow)

end StreamPolicy

/-- Settings that were loaded have no fault. -/
theorem Settings.fault?_of_load {file : SettingsFile} {environment : Environment}
    {settings : Settings} (h : (load file environment).1 = .ok settings) :
    settings.fault? = none := by
  unfold load at h
  split at h
  · cases h
  · simp only [validated] at h
    split at h
    · next hvalid => rwa [← Except.ok.inj h]
    · cases h

namespace StreamPolicy

/-- The policy has the values that the settings name, which count time in milliseconds; a keepalive
period of zero stands for no keepalive. -/
structure UsesValuesOf (policy : StreamPolicy) (settings : StreamSettings) : Prop where
  maxConnections : policy.maxConnections = settings.maxConnections.toNat
  queueCapacity : policy.queueCapacity = settings.queueCapacity.toNat
  maxConsecutiveDrops : policy.maxConsecutiveDrops = settings.maxConsecutiveDrops
  idleTimeout : policy.idleTimeout.nanos = settings.idleTimeoutMs.toNat * 1000000
  detectionInterval : policy.detectionInterval.nanos = settings.detectionIntervalMs.toNat * 1000000
  writeTimeout : policy.writeTimeout.nanos = settings.writeTimeoutMs.toNat * 1000000
  keepaliveInterval : policy.keepaliveInterval.map (·.nanos) =
    if settings.keepaliveIntervalMs = 0 then none
    else some (settings.keepaliveIntervalMs.toNat * 1000000)

/-- A policy that is read from settings has their values. -/
theorem usesValuesOf_ofSettings (settings : StreamSettings) :
    (ofSettings settings).UsesValuesOf settings where
  maxConnections := rfl
  queueCapacity := rfl
  maxConsecutiveDrops := rfl
  idleTimeout := rfl
  detectionInterval := rfl
  writeTimeout := rfl
  keepaliveInterval := by
    simp only [ofSettings]
    split <;> rfl

/-- What valid settings say about streams is in force as it stands: clamping changes nothing in the
policy that they describe, so a server that is set up with settings that are valid, as all are that
were loaded, begins with that policy. Whatever is done with its hub, each value in the policy of the
hub is the one that the settings name. And whatever policy is clamped, clamping it once more changes
nothing. -/
theorem valid_settings_need_no_clamping :
    (∀ settings : Settings, settings.fault? = none →
      (ofSettings settings.stream).clamped = ofSettings settings.stream ∧
        ∀ operations, ((Server.new (ServerSetup.ofSettings settings).stream).hub.run
          operations).policy.UsesValuesOf settings.stream) ∧
    (∀ (file : SettingsFile) (environment : Environment) (settings : Settings),
      (Settings.load file environment).1 = .ok settings →
        (Server.new (ServerSetup.ofSettings settings).stream).hub.policy =
            ofSettings settings.stream ∧
          ∀ operations, ((Server.new (ServerSetup.ofSettings settings).stream).hub.run
            operations).policy.UsesValuesOf settings.stream) ∧
    ∀ policy : StreamPolicy, policy.clamped.clamped = policy.clamped := by
  have hvalid (settings : Settings) (h : settings.fault? = none) :
      (ofSettings settings.stream).clamped = ofSettings settings.stream :=
    (clamped_eq_self_iff _).mpr (inRange_ofSettings h)
  have hused (settings : Settings) (h : settings.fault? = none) (operations : List Hub.Operation) :
      ((Server.new (ServerSetup.ofSettings settings).stream).hub.run
        operations).policy.UsesValuesOf settings.stream := by
    have hpolicy : (Server.new (ServerSetup.ofSettings settings).stream).hub.policy =
        ofSettings settings.stream := hvalid settings h
    rw [Hub.policy_run, hpolicy]
    exact usesValuesOf_ofSettings settings.stream
  refine ⟨fun settings h => ⟨hvalid settings h, hused settings h⟩,
    fun file environment settings hloaded => ?_, fun policy => ?_⟩
  · have hfaultless := Settings.fault?_of_load hloaded
    exact ⟨hvalid settings hfaultless, hused settings hfaultless⟩
  · exact (clamped_eq_self_iff _).mpr policy.inRange_clamped

/-- Settings at the limits of what is valid: looks as rare as the tolerated silence is long, and
keepalives that are only just more frequent; of another policy the tolerated silence is shorter than
any keepalive period. -/
theorem valid_settings_need_no_clamping_at_limits :
    let settings : Settings := { stream := {
      idleTimeoutMs := 1000, detectionIntervalMs := 1000, keepaliveIntervalMs := 999 } }
    let environment : Environment := fun key =>
      if key = "TALLY_IDLE_TIMEOUT_MS" then some "1000"
      else if key = "TALLY_KEEPALIVE_INTERVAL_MS" then some "+0999" else none
    let hasty : StreamPolicy :=
      { default with idleTimeout := ⟨1⟩, keepaliveInterval := some (.ofMillis 5) }
    settings.fault? = none ∧
      (ofSettings settings.stream).clamped = ofSettings settings.stream ∧
      (Settings.load .absent environment).1 = .ok settings ∧
      (Server.new (ServerSetup.ofSettings settings).stream).hub.policy =
        ofSettings settings.stream ∧
      hasty.clamped.keepaliveInterval = some (.ofMillis 1) ∧
      hasty.clamped.clamped = hasty.clamped := by
  intro settings environment hasty
  have hvalid : settings.fault? = none := by decide
  have hloaded : (Settings.load .absent environment).1 = .ok settings := rfl
  obtain ⟨hsame, hserver, htwice⟩ := valid_settings_need_no_clamping
  exact ⟨hvalid, (hsame settings hvalid).1, hloaded,
    (hserver _ environment settings hloaded).1, by decide +kernel, htwice hasty⟩

/-! ## Keepalives -/

/-- A keepalive, if there is one, has a period that timers can have, and comes before the silence has
lasted too long. -/
def Sustains (policy : StreamPolicy) : Prop :=
  ∀ period ∈ policy.keepaliveInterval, shortestPeriod ≤ period ∧ period < policy.idleTimeout

/-- A keepalive can be lowered below the tolerated silence only if that leaves room for a period. -/
theorem loweredKeepalive_lt_iff (policy : StreamPolicy) :
    policy.loweredKeepalive < policy.idleTimeout ↔ shortestPeriod < policy.idleTimeout := by
  have hperiod : shortestPeriod.nanos = 1000000 := by decide
  show max (policy.idleTimeout.nanos / 2) shortestPeriod.nanos < policy.idleTimeout.nanos ↔
    shortestPeriod.nanos < policy.idleTimeout.nanos
  omega

/-- Clamping brings every limit about but those of the keepalive. That one is within its limits
exactly if none was wanted, or one that was within them already, or one that was too long for a
silence that leaves room for a period. For a keepalive below the tolerated silence is not looked at
again, and one that was too long is never lowered below the shortest period. -/
theorem clamping_brings_limits_about (policy : StreamPolicy) :
    (shortestPeriod ≤ policy.clamped.detectionInterval ∧
      shortestPeriod ≤ policy.clamped.writeTimeout ∧
      1 ≤ policy.clamped.queueCapacity ∧ 1 ≤ policy.clamped.maxConsecutiveDrops) ∧
    (policy.clamped.Sustains ↔ ∀ period ∈ policy.keepaliveInterval, period ≠ ⟨0⟩ →
      period < policy.idleTimeout ∧ shortestPeriod ≤ period ∨
        policy.idleTimeout ≤ period ∧ shortestPeriod < policy.idleTimeout) := by
  have hlimits := policy.inRange_clamped
  refine ⟨⟨hlimits.detectionInterval, hlimits.writeTimeout, hlimits.queueCapacity,
    hlimits.maxConsecutiveDrops⟩, ?_⟩
  show (∀ period ∈ policy.usableKeepalive policy.keepaliveInterval,
    shortestPeriod ≤ period ∧ period < policy.idleTimeout) ↔ _
  cases policy.keepaliveInterval with
  | none => simp [usableKeepalive]
  | some period =>
    simp only [usableKeepalive, Option.mem_def, Option.some.injEq, forall_eq']
    by_cases hzero : period = ⟨0⟩
    · simp [hzero]
    · by_cases hlong : policy.idleTimeout ≤ period
      · have hshort : ¬ period < policy.idleTimeout := Nat.not_lt.mpr hlong
        have hlowered : shortestPeriod ≤ policy.loweredKeepalive := Duration.le_max_right _ _
        simp [hzero, hlong, hshort, hlowered, policy.loweredKeepalive_lt_iff]
      · have hshort : period < policy.idleTimeout := Nat.lt_of_not_le hlong
        simp [hzero, hlong, hshort]

/-- A wanted keepalive below the shortest period stays there; and where the tolerated silence is no
longer than that period, a keepalive that is too long becomes one that is as long as the silence. The
quiet stream of a client that accepts everything at once is then closed as idle. -/
theorem clamping_leaves_limits_of_keepalives :
    let brisk : StreamPolicy := { default with keepaliveInterval := some ⟨500000⟩ }
    let hasty : StreamPolicy :=
      { default with
        idleTimeout := .ofMillis 1, detectionInterval := .ofMillis 1
        keepaliveInterval := some (.ofMillis 1000) }
    let accepting : Transport := .scripted fun _ => ⟨0, .accept⟩
    let hub := ((Hub.new hasty).run [.connect (.random 0) ⟨0⟩ accepting none]).settle.advance 1
    (brisk.clamped.keepaliveInterval = some ⟨500000⟩ ∧ ⟨500000⟩ < shortestPeriod) ∧
      (hasty.clamped.keepaliveInterval = some hasty.clamped.idleTimeout) ∧
      ¬ brisk.clamped.Sustains ∧ ¬ hasty.clamped.Sustains ∧
      (hub.session? 0).map (fun session => (session.stage, session.reason)) =
        some (.terminated, some .idleTimeout) := by
  intro brisk hasty accepting hub
  have hbrisk : brisk.clamped.keepaliveInterval = some ⟨500000⟩ := by decide +kernel
  have hhasty : hasty.clamped.keepaliveInterval = some hasty.clamped.idleTimeout := by decide +kernel
  refine ⟨⟨hbrisk, by decide⟩, hhasty, fun h => ?_, fun h => ?_, by decide +kernel⟩
  · exact absurd (h _ hbrisk).1 (by decide)
  · exact absurd (h _ hhasty).2 (Nat.lt_irrefl _)

end StreamPolicy

end LiveCounter
