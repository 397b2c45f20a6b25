import LiveCounter.Json.Value
import LiveCounter.Text.Decimal

/-!
# Durations

A duration is a whole number of nanoseconds. Its text names the largest unit that it reaches, with
as many decimals as it has and no trailing zeros: `250ms`, `1.5s`, `1.05µs`, `0ns`. Timers run on
whole milliseconds: an instant between two of them is reached at the later one.
-/

namespace LiveCounter

/-- A length of time, in nanoseconds. -/
structure Duration where
  nanos : Nat
  deriving DecidableEq, Repr

namespace Duration

/-- Nanoseconds in a millisecond. -/
def perMilli : Nat := 1000000

/-- Nanoseconds in a second. -/
def perSecond : Nat := 1000000000

/-- The duration of a number of milliseconds. -/
def ofMillis (millis : Nat) : Duration := ⟨millis * perMilli⟩

/-- The duration of a number of seconds. -/
def ofSecs (secs : Nat) : Duration := ⟨secs * perSecond⟩

/-- The whole milliseconds of a duration. -/
def millis (duration : Duration) : Nat := duration.nanos / perMilli

/-- The first whole millisecond at which a duration has passed. -/
def ceilMillis (duration : Duration) : Nat := (duration.nanos + (perMilli - 1)) / perMilli

instance : LE Duration := ⟨fun a b => a.nanos ≤ b.nanos⟩
instance : LT Duration := ⟨fun a b => a.nanos < b.nanos⟩
instance (a b : Duration) : Decidable (a ≤ b) := inferInstanceAs (Decidable (a.nanos ≤ b.nanos))
instance (a b : Duration) : Decidable (a < b) := inferInstanceAs (Decidable (a.nanos < b.nanos))
instance : Add Duration := ⟨fun a b => ⟨a.nanos + b.nanos⟩⟩
instance : Max Duration := ⟨fun a b => ⟨max a.nanos b.nanos⟩⟩

/-- Half a duration, rounded down. -/
def half (duration : Duration) : Duration := ⟨duration.nanos / 2⟩

/-- A fraction with the given number of places after its point, without trailing zeros. -/
def decimals (places fraction : Nat) : String :=
  let digits := (Decimal.padded places fraction).toList
  let kept := (digits.reverse.dropWhile (· == '0')).reverse
  if kept.isEmpty then "" else "." ++ String.ofList kept

/-- The text of a duration. -/
def text (duration : Duration) : String :=
  let n := duration.nanos
  if perSecond ≤ n then toString (n / perSecond) ++ decimals 9 (n % perSecond) ++ "s"
  else if perMilli ≤ n then toString (n / perMilli) ++ decimals 6 (n % perMilli) ++ "ms"
  else if 1000 ≤ n then toString (n / 1000) ++ decimals 3 (n % 1000) ++ "µs"
  else toString n ++ "ns"

/-- The JSON form of a duration: its seconds, and the nanoseconds of the rest. -/
def json (duration : Duration) : Json :=
  .arr [.nat (duration.nanos / perSecond), .nat (duration.nanos % perSecond)]

end Duration

end LiveCounter
