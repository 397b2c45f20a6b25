import LiveCounter.Proofs.Layers
import LiveCounter.Proofs.Numerals

/-!
# Overrides are safe

A variable of the environment takes effect exactly if its text is acceptable; otherwise it might as
well not be set. The ranges of the numbers leave out whatever would make settings unusable by
itself, so variables can spoil valid settings only in the relation of two fields to each other.
-/

namespace LiveCounter

open Decimal (Denotes)

/-- A variable that holds a number: the bounds of the number and its place in the settings. -/
structure NumericVariable where
  key : String
  lo : Nat
  hi : Nat
  value : Settings → Nat

namespace NumericVariable

/-- The text of the variable denotes a number within its bounds. -/
def Takes (entry : NumericVariable) (text : String) (n : Nat) : Prop :=
  Denotes text n ∧ entry.lo ≤ n ∧ n ≤ entry.hi

/-- The variables that hold numbers. -/
def all : List NumericVariable := [
  ⟨"TALLY_PORT", 0, 65535, fun settings => settings.server.port.toNat⟩,
  ⟨"TALLY_SHUTDOWN_TIMEOUT_MS", 100, 600000,
    fun settings => settings.server.shutdownTimeoutMs.toNat⟩,
  ⟨"TALLY_MAX_CONNECTIONS", 1, 10000000, fun settings => settings.stream.maxConnections.toNat⟩,
  ⟨"TALLY_QUEUE_CAPACITY", 1, 65536, fun settings => settings.stream.queueCapacity.toNat⟩,
  ⟨"TALLY_MAX_CONSECUTIVE_DROPS", 1, 1000000,
    fun settings => settings.stream.maxConsecutiveDrops.toNat⟩,
  ⟨"TALLY_IDLE_TIMEOUT_MS", 100, 86400000, fun settings => settings.stream.idleTimeoutMs.toNat⟩,
  ⟨"TALLY_DETECTION_INTERVAL_MS", 10, 600000,
    fun settings => settings.stream.detectionIntervalMs.toNat⟩,
  ⟨"TALLY_KEEPALIVE_INTERVAL_MS", 0, 3600000,
    fun settings => settings.stream.keepaliveIntervalMs.toNat⟩,
  ⟨"TALLY_WRITE_TIMEOUT_MS", 10, 600000, fun settings => settings.stream.writeTimeoutMs.toNat⟩]

end NumericVariable

namespace Environment

/-- A variable that settings know takes effect with the text: it denotes a number within bounds, is
any text but the empty one, or names a log format. -/
inductive Accepts : (key text : String) → Prop
  | number {entry : NumericVariable} {text : String} {n : Nat}
      (hentry : entry ∈ NumericVariable.all) (htakes : entry.Takes text n) : Accepts entry.key text
  | text {key text : String} (hkey : key = "TALLY_HOST" ∨ key = "TALLY_LOG_LEVEL")
      (hne : text ≠ "") : Accepts key text
  | format {text : String} (hparse : LogFormat.parse? text ≠ none) :
      Accepts "TALLY_LOG_FORMAT" text

/-- The environment with a variable that is not set. -/
def without (environment : Environment) (key : String) : Environment :=
  fun other => if other = key then none else environment other

end Environment

namespace Setting

variable {α : Type} (setting : Setting α) (environment : Environment)

/-- A variable settles its setting once and for all. -/
theorem resolve_resolve (below : α) :
    setting.resolve environment (setting.resolve environment below) =
      setting.resolve environment below := by
  unfold resolve
  cases (environment setting.key).bind setting.ofText? <;> rfl

/-- A variable that does not hold a value of its setting might as well not be set, and the other
variables do not matter. -/
theorem resolve_without {key text : String} (htext : environment key = some text)
    (hrefused : setting.key = key → setting.ofText? text = none) :
    setting.resolve (environment.without key) = setting.resolve environment := by
  funext below
  unfold resolve Environment.without
  by_cases hkey : setting.key = key
  · rw [if_pos hkey, hkey, htext, Option.bind_some, hrefused hkey]
    rfl
  · rw [if_neg hkey]

/-- What becomes of a setting that is a number. -/
theorem toNat_resolve {bits lo hi : Nat} {ofNat : Nat → α} {toNat : α → Nat} (below : α)
    (hnumber : ∀ text, setting.ofText? text = (Decimal.natInRange? bits lo hi text).map ofNat)
    (htoNat : ∀ n ≤ hi, toNat (ofNat n) = n) :
    toNat (setting.resolve environment below) =
      ((environment setting.key).bind (Decimal.natInRange? bits lo hi)).getD (toNat below) := by
  unfold resolve
  cases environment setting.key with
  | none => rfl
  | some text =>
    simp only [Option.bind_some, hnumber]
    cases hread : Decimal.natInRange? bits lo hi text with
    | none => rfl
    | some n => exact htoNat n ((Decimal.natInRange?_eq_some ..).mp hread).2.2

end Setting

namespace NumericVariable

variable {entry : NumericVariable} (settings : Settings) (environment : Environment)

/-- Each number in the settings is settled by its own variable. -/
theorem value_override (hentry : entry ∈ all) : ∃ bits, entry.hi < 1 <<< bits ∧
    entry.value (settings.override environment).1 =
      ((environment entry.key).bind (Decimal.natInRange? bits entry.lo entry.hi)).getD
        (entry.value settings) := by
  have hword (setting : Setting UInt64) {lo hi : Nat} (below : UInt64)
      (hnumber : ∀ text, setting.ofText? text =
        (Decimal.natInRange? 64 lo hi text).map UInt64.ofNat) (hhi : hi < UInt64.size) :
      (setting.resolve environment below).toNat =
        ((environment setting.key).bind (Decimal.natInRange? 64 lo hi)).getD below.toNat :=
    setting.toNat_resolve environment below hnumber fun n hn =>
      UInt64.toNat_ofNat_of_lt' (Nat.lt_of_le_of_lt hn hhi)
  revert entry
  simp only [all, List.forall_mem_cons, Settings.override_fst]
  refine ⟨⟨16, by decide, ?port⟩, ⟨64, by decide, ?_⟩, ⟨64, by decide, ?_⟩, ⟨64, by decide, ?_⟩,
    ⟨64, by decide, ?drops⟩, ⟨64, by decide, ?_⟩, ⟨64, by decide, ?_⟩, ⟨64, by decide, ?_⟩,
    ⟨64, by decide, ?_⟩, nofun⟩
  case port =>
    exact Setting.port.toNat_resolve environment _ (fun _ => rfl) fun n hn =>
      UInt16.toNat_ofNat_of_lt' (Nat.lt_of_le_of_lt hn (by decide))
  case drops =>
    exact Setting.maxConsecutiveDrops.toNat_resolve environment _ (fun _ => rfl) fun n hn =>
      UInt32.toNat_ofNat_of_lt' (Nat.lt_of_le_of_lt hn (by decide))
  all_goals exact hword _ _ (fun _ => rfl) (by decide)

/-- A number becomes the one that its variable denotes, if that is within bounds, and stays as it is
otherwise. -/
theorem takes_effect_iff (hentry : entry ∈ all) :
    (∀ text n, environment entry.key = some text → entry.Takes text n →
        entry.value (settings.override environment).1 = n) ∧
      ((∀ text n, environment entry.key = some text → ¬ entry.Takes text n) →
        entry.value (settings.override environment).1 = entry.value settings) := by
  obtain ⟨bits, hhi, hvalue⟩ := value_override settings environment hentry
  have hread (text : String) (n : Nat) :
      Decimal.natInRange? bits entry.lo entry.hi text = some n ↔ entry.Takes text n :=
    Decimal.natInRange?_eq_some_iff hhi text n
  constructor
  · intro text n htext htakes
    rw [hvalue, htext, Option.bind_some, (hread text n).mpr htakes, Option.getD_some]
  · intro hrefused
    rw [hvalue, Option.bind_eq_none_iff.mpr, Option.getD_none]
    intro text htext
    exact Option.eq_none_iff_forall_ne_some.mpr fun n hn =>
      hrefused text n htext ((hread text n).mp hn)

/-- A variable that cannot hold zero makes no number zero. -/
theorem value_override_pos (hentry : entry ∈ all) (hlo : 0 < entry.lo)
    (hpos : 0 < entry.value settings) : 0 < entry.value (settings.override environment).1 := by
  obtain ⟨htaken, hkept⟩ := takes_effect_iff settings environment hentry
  by_cases h : ∃ text n, environment entry.key = some text ∧ entry.Takes text n
  · obtain ⟨text, n, htext, htakes⟩ := h
    rw [htaken text n htext htakes]
    exact Nat.lt_of_lt_of_le hlo htakes.2.1
  · rw [hkept fun text n htext htakes => h ⟨text, n, htext, htakes⟩]
    exact hpos

end NumericVariable

/-! ### Variables that might as well not be set -/

section Unset

variable {α : Type} {environment : Environment} {key text : String}

/-- A variable for a number might as well not be set if its text denotes none within the bounds. -/
theorem Setting.resolve_without_of_number (setting : Setting α) {bits lo hi : Nat}
    {ofNat : Nat → α} (htext : environment key = some text)
    (hrefused : setting.key = key → ∀ n, ¬ (Denotes text n ∧ lo ≤ n ∧ n ≤ hi))
    (hhi : hi < 1 <<< bits) (hnumber : ∀ text, setting.ofText? text =
      (Decimal.natInRange? bits lo hi text).map ofNat) :
    setting.resolve (environment.without key) = setting.resolve environment := by
  refine setting.resolve_without environment htext fun hkey => ?_
  rw [hnumber, Option.map_eq_none_iff]
  exact Option.eq_none_iff_forall_ne_some.mpr fun n hn =>
    hrefused hkey n ((Decimal.natInRange?_eq_some_iff hhi text n).mp hn)

/-- A variable for a text might as well not be set if its text is empty. -/
theorem Setting.resolve_without_of_text (setting : Setting String)
    (htext : environment key = some text) (hrefused : setting.key = key → text = "")
    (hofText : ∀ text, setting.ofText? text = if text.isEmpty then none else some text) :
    setting.resolve (environment.without key) = setting.resolve environment := by
  refine setting.resolve_without environment htext fun hkey => ?_
  rw [hofText, hrefused hkey]
  rfl

/-- A variable whose text is not acceptable might as well not be set. -/
theorem Settings.override_without (settings : Settings) (htext : environment key = some text)
    (hrefused : ¬ Environment.Accepts key text) :
    (settings.override (environment.without key)).1 = (settings.override environment).1 := by
  have hnumbers : ∀ entry ∈ NumericVariable.all, entry.key = key → ∀ n, ¬ entry.Takes text n := by
    rintro entry hentry rfl n htakes
    exact hrefused (.number hentry htakes)
  have hempty (hkey : key = "TALLY_HOST" ∨ key = "TALLY_LOG_LEVEL") : text = "" :=
    Decidable.of_not_not fun hne => hrefused (.text hkey hne)
  have hunknown (hkey : Setting.format.key = key) : Setting.format.ofText? text = none := by
    subst hkey
    have hparse : LogFormat.parse? text = none :=
      Decidable.of_not_not fun hne => hrefused (.format hne)
    exact (congrArg (fun found => if text.isEmpty then none else found) hparse).trans (ite_self _)
  simp only [NumericVariable.all, NumericVariable.Takes, List.forall_mem_cons] at hnumbers
  obtain ⟨hport, hshutdown, hconnections, hcapacity, hdrops, hidle, hdetection, hkeepalive, hwrite,
    -⟩ := hnumbers
  rw [override_fst, override_fst,
    Setting.host.resolve_without_of_text htext (fun hkey => hempty (.inl hkey.symm)) fun _ => rfl,
    Setting.port.resolve_without_of_number htext hport (by decide) fun _ => rfl,
    Setting.shutdownTimeoutMs.resolve_without_of_number htext hshutdown (by decide) fun _ => rfl,
    Setting.maxConnections.resolve_without_of_number htext hconnections (by decide) fun _ => rfl,
    Setting.queueCapacity.resolve_without_of_number htext hcapacity (by decide) fun _ => rfl,
    Setting.maxConsecutiveDrops.resolve_without_of_number htext hdrops (by decide) fun _ => rfl,
    Setting.idleTimeoutMs.resolve_without_of_number htext hidle (by decide) fun _ => rfl,
    Setting.detectionIntervalMs.resolve_without_of_number htext hdetection (by decide) fun _ => rfl,
    Setting.keepaliveIntervalMs.resolve_without_of_number htext hkeepalive (by decide) fun _ => rfl,
    Setting.writeTimeoutMs.resolve_without_of_number htext hwrite (by decide) fun _ => rfl,
    Setting.level.resolve_without_of_text htext (fun hkey => hempty (.inr hkey.symm)) fun _ => rfl,
    Setting.format.resolve_without environment htext hunknown]

end Unset

/-! ### What becomes of the settings as a whole -/

/-- No number is zero that must not be. -/
structure StreamSettings.Usable (stream : StreamSettings) : Prop where
  queueCapacity : 0 < stream.queueCapacity.toNat
  maxConnections : 0 < stream.maxConnections.toNat
  maxConsecutiveDrops : 0 < stream.maxConsecutiveDrops.toNat
  detectionIntervalMs : 0 < stream.detectionIntervalMs.toNat
  writeTimeoutMs : 0 < stream.writeTimeoutMs.toNat

/-- Settings without a fault have no zero where there must be none. -/
theorem StreamSettings.usable_of_fault?_eq_none {stream : StreamSettings}
    (h : stream.fault? = none) : stream.Usable := by
  have hword {n : UInt64} (hn : n ≠ 0) : 0 < n.toNat :=
    Nat.pos_of_ne_zero fun hzero => hn (UInt64.toNat_inj.mp hzero)
  unfold fault? at h
  split at h
  · cases h
  next hqueue =>
  split at h
  · cases h
  next hconnections =>
  split at h
  · cases h
  next hdrops =>
  split at h
  · cases h
  next hperiods =>
  rw [not_or] at hperiods
  exact ⟨hword hqueue, hword hconnections,
    Nat.pos_of_ne_zero fun hzero => hdrops (UInt32.toNat_inj.mp hzero), hword hperiods.1,
    hword hperiods.2⟩

/-- Settings without such a zero have no fault, or one of the two faults about a relation between
fields. -/
theorem StreamSettings.Usable.fault? {stream : StreamSettings} (h : stream.Usable) :
    stream.fault? = none ∨
      (stream.idleTimeoutMs < stream.detectionIntervalMs ∧
        stream.fault? =
          some (.idleBelowDetection stream.idleTimeoutMs stream.detectionIntervalMs)) ∨
      (stream.keepaliveIntervalMs ≠ 0 ∧ stream.idleTimeoutMs ≤ stream.keepaliveIntervalMs ∧
        stream.fault? =
          some (.keepaliveNotBelowIdle stream.keepaliveIntervalMs stream.idleTimeoutMs)) := by
  have hword {n : UInt64} (hn : 0 < n.toNat) : n ≠ 0 := fun hzero => by simp [hzero] at hn
  have hdrops : stream.maxConsecutiveDrops ≠ 0 := fun hzero => by
    simpa [hzero] using h.maxConsecutiveDrops
  rw [StreamSettings.fault?, if_neg (hword h.queueCapacity), if_neg (hword h.maxConnections),
    if_neg hdrops, if_neg (not_or.mpr ⟨hword h.detectionIntervalMs, hword h.writeTimeoutMs⟩)]
  by_cases hidle : stream.idleTimeoutMs < stream.detectionIntervalMs
  · exact Or.inr (Or.inl ⟨hidle, if_pos hidle⟩)
  · rw [if_neg hidle]
    by_cases hkeepalive : stream.keepaliveIntervalMs ≠ 0 ∧
        stream.idleTimeoutMs ≤ stream.keepaliveIntervalMs
    · exact Or.inr (Or.inr ⟨hkeepalive.1, hkeepalive.2, if_pos hkeepalive⟩)
    · exact Or.inl (if_neg hkeepalive)

namespace Settings

/-- Once the variables have been applied, applying them again changes nothing. -/
theorem override_override (settings : Settings) (environment : Environment) :
    ((settings.override environment).1.override environment).1 =
      (settings.override environment).1 := by
  rw [override_fst (settings.override environment).1, override_fst settings]
  simp only [Setting.resolve_resolve]

/-- No variable makes a number zero that must not be. -/
theorem usable_override {settings : Settings} (h : settings.stream.Usable)
    (environment : Environment) :
    (settings.override environment).1.stream.Usable := by
  have hpos := fun (entry : NumericVariable) (hentry : entry ∈ NumericVariable.all) =>
    NumericVariable.value_override_pos settings environment hentry
  simp only [NumericVariable.all, List.forall_mem_cons] at hpos
  obtain ⟨-, -, hconnections, hcapacity, hdrops, -, hdetection, -, hwrite, -⟩ := hpos
  exact ⟨hcapacity (by decide) h.queueCapacity, hconnections (by decide) h.maxConnections,
    hdrops (by decide) h.maxConsecutiveDrops, hdetection (by decide) h.detectionIntervalMs,
    hwrite (by decide) h.writeTimeoutMs⟩

/-- The variables of the environment can do no harm on their own. A number takes effect exactly if
its text is one or more digits, perhaps after a `+`, for a number within the bounds of its variable.
Whatever a variable holds that is not acceptable for it, it might as well not be set. Applying all
of them twice is applying them once. Settings that were valid stay valid, unless the result has an
idle timeout below its detection interval, or a keepalive interval not below its idle timeout. -/
theorem overrides_are_safe (settings : Settings) (environment : Environment) :
    let result := (settings.override environment).1
    (∀ entry ∈ NumericVariable.all,
        (∀ text n, environment entry.key = some text → entry.Takes text n →
          entry.value result = n) ∧
        ((∀ text n, environment entry.key = some text → ¬ entry.Takes text n) →
          entry.value result = entry.value settings)) ∧
      (∀ key text, environment key = some text → ¬ Environment.Accepts key text →
        (settings.override (environment.without key)).1 = result) ∧
      (result.override environment).1 = result ∧
      (settings.fault? = none → result.fault? = none ∨
        (result.stream.idleTimeoutMs < result.stream.detectionIntervalMs ∧
          result.fault? = some (.idleBelowDetection result.stream.idleTimeoutMs
            result.stream.detectionIntervalMs)) ∨
        (result.stream.keepaliveIntervalMs ≠ 0 ∧
          result.stream.idleTimeoutMs ≤ result.stream.keepaliveIntervalMs ∧
          result.fault? = some (.keepaliveNotBelowIdle result.stream.keepaliveIntervalMs
            result.stream.idleTimeoutMs))) := by
  intro result
  refine ⟨fun entry hentry => NumericVariable.takes_effect_iff settings environment hentry,
    fun key text htext hrefused => settings.override_without htext hrefused,
    settings.override_override environment, fun hvalid => ?_⟩
  have husable : settings.stream.Usable := StreamSettings.usable_of_fault?_eq_none hvalid
  exact (usable_override husable environment).fault?

end Settings

end LiveCounter
